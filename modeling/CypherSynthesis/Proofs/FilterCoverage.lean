import CypherSynthesis.Proofs.StatementText
import CypherSynthesis.Proofs.TargetMatch

/-!
Which arguments of a node query constrain the nodes. The statement says in its text whether a property
is matched inside the pattern, tested for null, compared by its temporal parts, or looked up in a list.
The type decides about the pattern and the value about the comparisons, so that one combination is left
out: a value of temporal type that is neither null nor a list and that has no part to compare.
-/

namespace CypherSynthesis

open Cypher (Fragment Piece Token quote reference sanitize)
open Bag (last?)
open Parameters (nullEntries suppliedEntries valueEntries)

namespace Bag

theorem mem_entries_iff {bag : Bag} {key : String} {value : Json} :
    (key, value) ∈ bag.entries ↔ bag.get? key = some value :=
  ⟨get?_of_mem, mem_of_get?⟩

theorem mem_names_of_last? {entries : List (String × Json)} {key : String} {value : Json}
    (h : last? key entries = some value) : key ∈ names entries := by
  rw [← keys_ofList, mem_keys_iff]
  exact ⟨value, (get?_ofList_eq_last? entries key).trans h⟩

/-- A name passes a test by its last value. -/
theorem mem_names_filter {entries : List (String × Json)} {keep : String → Json → Bool}
    {key : String} :
    key ∈ ((names entries).filter fun name => (last? name entries).any (keep name)) ↔
      (last? key entries).any (keep key) = true := by
  rw [List.mem_filter, and_iff_right_iff_imp]
  intro hkeep
  obtain ⟨value, hvalue, -⟩ := (Option.any_eq_true _ _).mp hkeep
  exact mem_names_of_last? hvalue

theorem mem_names_iff {entries : List (String × Json)} {key : String} :
    key ∈ names entries ↔ (last? key entries).isSome = true := by
  rw [← keys_ofList, mem_keys_iff, Option.isSome_iff_exists]
  simp only [get?_ofList_eq_last?]

end Bag

theorem Argument.eq_of_name_eq {arguments : List Argument}
    (distinct : (arguments.map Argument.name).Nodup) {a b : Argument} (ha : a ∈ arguments)
    (hb : b ∈ arguments) (h : a.name = b.name) : a = b := by
  have own : arguments.filter (·.name = b.name) = [b] := filter_eq_singleton distinct hb
  have hmem : a ∈ arguments.filter (·.name = b.name) := List.mem_filter.mpr ⟨ha, by simp [h]⟩
  rw [own] at hmem
  exact List.mem_singleton.mp hmem

namespace Parameters

theorem mem_suppliedEntries {arguments : List Argument} {key : String} {value : Json} :
    (key, value) ∈ suppliedEntries arguments ↔
      ∃ argument ∈ arguments, argument.name = key ∧ argument.value = some value := by
  simp only [suppliedEntries, List.mem_filterMap, Option.map_eq_some_iff, Prod.mk.injEq]
  constructor
  · rintro ⟨argument, hmem, _, hvalue, hname, rfl⟩
    exact ⟨argument, hmem, hname, hvalue⟩
  · rintro ⟨argument, hmem, hname, hvalue⟩
    exact ⟨argument, hmem, value, hvalue, hname, rfl⟩

/-- With different names, a supplied value that passes a test is found under the name of its own
argument. -/
theorem last?_filter_suppliedEntries {arguments : List Argument}
    (distinct : (arguments.map Argument.name).Nodup) {argument : Argument}
    (hmem : argument ∈ arguments) (keep : Json → Bool) :
    last? argument.name ((suppliedEntries arguments).filter fun entry => keep entry.2) =
      argument.value.filter keep := by
  have nodup :
      (((suppliedEntries arguments).filter fun entry => keep entry.2).map Prod.fst).Nodup :=
    nodup_filter_suppliedEntries distinct _
  refine Option.ext fun value => ?_
  rw [← Bag.get?_ofList_eq_last?, Bag.ofList_of_nodup nodup, ← Bag.mem_entries_iff, List.mem_filter,
    mem_suppliedEntries, Option.filter_eq_some_iff]
  refine and_congr_left fun _ => ⟨?_, fun hvalue => ⟨argument, hmem, rfl, hvalue⟩⟩
  rintro ⟨other, hother, hname, hvalue⟩
  rwa [← Argument.eq_of_name_eq distinct hother hmem hname]

end Parameters

/-- The type is temporal, and the value is neither null nor a list nor has it a part that a
comparison could name. -/
def Temporal.IsVacuous (type : TypeRef) (value : Json) : Prop :=
  type.timed?.isSome = true ∧
    match value with
    | .null | .array _ => False
    | .object components => ∀ c ∈ components, c.2 = .null
    | .bool _ | .number _ | .string _ => True

/-- What a search asks of its nodes, in the words of the statement: properties inside the pattern, and
conditions. -/
structure Search where
  pattern : List String
  conditions : List String

namespace Search

/-- The text of the search: no braces without properties, and no WHERE without conditions. -/
def text (search : Search) (node label : String) : String :=
  "MATCH (" ++ sanitize node ++ ":" ++ quote label ++ " " ++
    (if search.pattern = [] then "" else "\x7b" ++ ", ".intercalate search.pattern ++ "\x7d") ++
    ") " ++
    (if search.conditions = [] then ""
      else "WHERE " ++ " AND ".intercalate search.conditions ++ " ")

/-- The property inside the pattern. -/
def matched (property : String) : String :=
  quote property ++ ":" ++ reference [property]

/-- The property is compared with a temporal value, or one of its components with that of one. -/
def Compares (node property text : String) : Prop :=
  (∃ kind : TemporalKind, text = sanitize node ++ "." ++ quote property ++ " = " ++ kind.function ++
      "(" ++ reference [property, "formatted"] ++ ")") ∨
    ∃ component, text = sanitize node ++ "." ++ quote property ++ "." ++ quote component ++ " = " ++
      reference [property, component]

/-- The property is matched in the pattern, tested for null, compared or looked up in a list. -/
def Constrains (search : Search) (node property : String) : Prop :=
  matched property ∈ search.pattern ∨
    sanitize node ++ "." ++ quote property ++ " IS NULL" ∈ search.conditions ∨
    (∃ text ∈ search.conditions, Compares node property text) ∨
    sanitize node ++ "." ++ quote property ++ " IN " ++ reference [property] ∈ search.conditions

/-- Which of its four ways a search takes for a name, by the name's type and value. -/
structure Routes (search : Search) (node name : String) (type : TypeRef) (value : Json) :
    Prop where
  inline : matched name ∈ search.pattern ↔
    value.isNull = false ∧ value.isArray = false ∧ type.timed? = none
  null : sanitize node ++ "." ++ quote name ++ " IS NULL" ∈ search.conditions ↔ value.isNull = true
  compared : (∃ text ∈ search.conditions, Compares node name text) ↔
    Temporal.IsComposite type value
  member : sanitize node ++ "." ++ quote name ++ " IN " ++ reference [name] ∈ search.conditions ↔
    value.isArray = true

/-- No way is left for a vacuous value, and for no other. -/
theorem Routes.constrains_iff {search : Search} {node name : String} {type : TypeRef} {value : Json}
    (routes : search.Routes node name type value) :
    search.Constrains node name ↔ ¬ Temporal.IsVacuous type value := by
  rw [Constrains, routes.inline, routes.null, routes.compared, routes.member]
  cases hkind : type.timed? <;> cases value <;>
    simp [Temporal.IsVacuous, Temporal.IsComposite, Json.isNull, Json.isArray, hkind]

/-- The search of a node query. -/
def ofOperation (operation : Operation) : Search where
  pattern := operation.patternNames.map matched
  conditions := operation.conditions.map (·.spelled operation.variableName)

end Search

theorem Parameters.render_mapLiteral (keys : List String) :
    (mapLiteral keys none false).render =
      if keys.map Search.matched = [] then ""
      else "\x7b" ++ ", ".intercalate (keys.map Search.matched) ++ "\x7d" := by
  unfold mapLiteral Search.matched
  cases keys with
  | nil => rfl
  | cons first rest =>
    simp [Fragment.braced, Fragment.listed, Fragment.render_joined, Piece.render,
      Function.comp_def, String.append_assoc]

theorem Clause.render_whereClause (conditions : Conditions) :
    (whereClause conditions.clauses).render =
      if conditions.predicates.map (·.spelled conditions.node) = [] then ""
      else "WHERE " ++ " AND ".intercalate (conditions.predicates.map (·.spelled conditions.node)) ++
        " " := by
  rw [Conditions.whereClause_clauses]
  cases conditions.predicates with
  | nil => rfl
  | cons first rest =>
    rw [if_neg (by simp), if_neg (by simp)]
    simp only [Fragment.render_append, Predicate.render_conjunction]
    rfl

/-- A node query is its search, and what it returns of the nodes found. -/
theorem Plan.render_nodeQuery (operation : Operation) (projection : Fragment) :
    ∃ rest, ((nodeQuery operation).statement projection).render =
      (Search.ofOperation operation).text operation.variableName operation.typeName ++ "RETURN " ++
        rest := by
  refine ⟨Fragment.render ([.var operation.variableName, .fixed " \x7b"] ++ projection ++
    [.fixed "\x7d AS ", .var operation.variableName] ++
    Paging.orderBy operation.variableName operation.orderBy ++ [.fixed " "] ++
    Paging.skipLimit operation), ?_⟩
  have conditions := Clause.render_whereClause
    ((Filter.ofArguments operation.arguments).conditions operation.variableName
      operation.internalId.isSome (Temporal.declared operation.declarations))
  rw [Filter.node_conditions, Filter.predicates_eq_conditions] at conditions
  unfold nodeQuery Search.text Search.ofOperation
  simp only [Fragment.render_append, Fragment.render_cons, Fragment.render_nil, Piece.render,
    Parameters.render_mapLiteral, Filter.inlineKeys_eq_patternNames, conditions,
    Predicate.spelled_sanitize, String.append_assoc, String.append_empty]

theorem Cypher.Token.ofName_injective {name name' : String}
    (h : Token.ofName name = Token.ofName name') : name = name' := by
  simpa using congrArg Token.name? h

theorem TemporalKind.function_injective {kind kind' : TemporalKind}
    (h : kind.function = kind'.function) : kind = kind' := by
  cases kind <;> cases kind' <;> simp_all [function]

namespace Predicate

/-- The condition reads parameters of its own, not inside another. -/
def IsTop : Predicate → Prop
  | sameValue _ _ parent | sameComponent _ _ parent => parent = none
  | internalId | isNull _ | memberOf _ => True

/-- The property that the condition compares by its temporal value or a component of it. -/
def comparedKey? : Predicate → Option String
  | sameValue key _ none | sameComponent key _ none => some key
  | _ => none

theorem comparedKey?_of_mem_comparisons {type : TypeRef} {key : String} {value : Json}
    {predicate : Predicate} (h : predicate ∈ type.comparisons key none value) :
    predicate.comparedKey? = some key := by
  obtain ⟨components, -, ⟨kind, rfl, -⟩ | ⟨component, -, rfl⟩⟩ := TypeRef.cases_of_mem_comparisons h
  · rfl
  · rfl

theorem isTop_of_comparedKey? {predicate : Predicate} {key : String}
    (h : predicate.comparedKey? = some key) : predicate.IsTop := by
  unfold comparedKey? at h
  split at h
  · rfl
  · rfl
  · cases h

theorem lex_spelled {predicate : Predicate} (node : String) (h : predicate.IsTop) :
    Cypher.lex (predicate.spelled node) = some ((predicate.slots node).map Slot.token) := by
  have plain : predicate.HasPlainParent := by
    cases predicate <;> simp_all [HasPlainParent, IsTop]
  have spelled := spells node plain
  rw [← render_fragment, Fragment.lex_render spelled.spaced, spelled.tokens]

/-- A condition is told by its text. -/
theorem spelled_injective {node : String} {p q : Predicate} (hp : p.IsTop) (hq : q.IsTop)
    (h : p.spelled node = q.spelled node) : p = q := by
  have read := congrArg Cypher.lex h
  rw [lex_spelled node hp, lex_spelled node hq] at read
  have same := Option.some.inj read
  cases p <;> cases q <;> simp [slots, Slot.token, Slot.reference, Slot.joined] at same
  case internalId.internalId => rfl
  case isNull.isNull => rw [Token.ofName_injective same]
  case sameValue.sameValue =>
    obtain ⟨hkey, hkind, -⟩ := same
    rw [Token.ofName_injective hkey, TemporalKind.function_injective hkind, hp, hq]
  case sameComponent.sameComponent =>
    obtain ⟨hkey, hcomponent, -⟩ := same
    rw [Token.ofName_injective hkey, Token.ofName_injective hcomponent, hp, hq]
  case memberOf.memberOf => rw [Token.ofName_injective same]

end Predicate

/-- A text that compares the property is that of a condition which does. -/
theorem Search.compares_iff {node property text : String} :
    Compares node property text ↔
      ∃ predicate : Predicate, predicate.comparedKey? = some property ∧
        predicate.spelled node = text := by
  constructor
  · rintro (⟨kind, rfl⟩ | ⟨component, rfl⟩)
    · exact ⟨.sameValue property kind none, rfl, rfl⟩
    · exact ⟨.sameComponent property component none, rfl, rfl⟩
  · rintro ⟨predicate, hkey, rfl⟩
    unfold Predicate.comparedKey? at hkey
    split at hkey
    · rename_i key kind
      obtain rfl := Option.some.inj hkey
      exact .inl ⟨kind, rfl⟩
    · rename_i key component
      obtain rfl := Option.some.inj hkey
      exact .inr ⟨component, rfl⟩
    · cases hkey

theorem Search.matched_injective {name name' : String} (h : matched name = matched name') :
    name = name' := by
  have lexed (name : String) : Cypher.lex (matched name) =
      some ((Parameters.entrySlots (some name)).map Slot.token) := by
    have spelled := Parameters.spells_entryFragment (some name)
    have rendered : (Parameters.entryFragment (some name)).render = matched name := by
      simp [Parameters.entryFragment, matched, Piece.render, String.append_assoc]
    rw [← rendered, Fragment.lex_render spelled.spaced, spelled.tokens]
  have read := congrArg Cypher.lex h
  rw [lexed, lexed] at read
  have same := Option.some.inj read
  simp [Parameters.entrySlots, Slot.token, Slot.reference, Slot.joined] at same
  exact Token.ofName_injective same

namespace Operation

variable {operation : Operation}

/-- A condition of the search is the one on the internal id or belongs to one of three groups. -/
theorem mem_conditions_iff {predicate : Predicate} :
    predicate ∈ operation.conditions ↔
      (operation.internalId.isSome = true ∧ predicate = .internalId) ∨
      (∃ key ∈ Bag.names (nullEntries operation.arguments), .isNull key = predicate) ∨
      (∃ argument ∈ operation.arguments, ∃ value,
        last? argument.name (valueEntries operation.arguments) = some value ∧
          predicate ∈ argument.type.comparisons argument.name none value) ∨
      ∃ key ∈ operation.listNames, .memberOf key = predicate := by
  have compared (argument : Argument) :
      predicate ∈ (last? argument.name (valueEntries operation.arguments)).elim []
        (argument.type.comparisons argument.name none) ↔
      ∃ value, last? argument.name (valueEntries operation.arguments) = some value ∧
        predicate ∈ argument.type.comparisons argument.name none value := by
    cases last? argument.name (valueEntries operation.arguments) <;> simp
  simp only [conditions, List.mem_append, List.mem_map, List.mem_flatMap, compared, or_assoc]
  cases operation.internalId <;> simp

theorem isTop_of_mem_conditions {predicate : Predicate} (h : predicate ∈ operation.conditions) :
    predicate.IsTop := by
  rcases mem_conditions_iff.mp h with ⟨-, rfl⟩ | ⟨key, -, rfl⟩ | ⟨argument, -, value, -, h⟩ |
    ⟨key, -, rfl⟩
  · trivial
  · trivial
  · obtain ⟨components, -, ⟨kind, rfl, -⟩ | ⟨component, -, rfl⟩⟩ :=
      TypeRef.cases_of_mem_comparisons h
    · rfl
    · rfl
  · trivial

/-- A condition is in the text if it is one of the query. -/
theorem spelled_mem_conditions {predicate : Predicate} (h : predicate.IsTop) :
    predicate.spelled operation.variableName ∈ (Search.ofOperation operation).conditions ↔
      predicate ∈ operation.conditions := by
  rw [Search.ofOperation, List.mem_map]
  constructor
  · rintro ⟨other, hother, hspelled⟩
    rwa [← Predicate.spelled_injective (isTop_of_mem_conditions hother) h hspelled]
  · exact fun hmem => ⟨predicate, hmem, rfl⟩

theorem isNull_mem_conditions {key : String} :
    .isNull key ∈ operation.conditions ↔ key ∈ Bag.names (nullEntries operation.arguments) := by
  rw [mem_conditions_iff]
  constructor
  · rintro (⟨-, h⟩ | ⟨other, hother, h⟩ | ⟨argument, -, value, -, h⟩ | ⟨other, -, h⟩)
    · cases h
    · exact Predicate.isNull.inj h ▸ hother
    · cases Predicate.comparedKey?_of_mem_comparisons h
    · cases h
  · exact fun h => .inr (.inl ⟨key, h, rfl⟩)

theorem memberOf_mem_conditions {key : String} :
    .memberOf key ∈ operation.conditions ↔ key ∈ operation.listNames := by
  rw [mem_conditions_iff]
  constructor
  · rintro (⟨-, h⟩ | ⟨other, -, h⟩ | ⟨argument, -, value, -, h⟩ | ⟨other, hother, h⟩)
    · cases h
    · cases h
    · cases Predicate.comparedKey?_of_mem_comparisons h
    · exact Predicate.memberOf.inj h ▸ hother
  · exact fun h => .inr (.inr (.inr ⟨key, h, rfl⟩))

end Operation

section Supplied

variable {operation : Operation} {argument : Argument} {value : Json}
  (distinct : (operation.arguments.map Argument.name).Nodup)
  (hmem : argument ∈ operation.arguments)

include distinct hmem

theorem Argument.any_timed :
    (operation.arguments.any fun other => other.name = argument.name && other.type.timed?.isSome) =
      argument.type.timed?.isSome := by
  rw [Bool.eq_iff_iff, List.any_eq_true]
  constructor
  · rintro ⟨other, hother, h⟩
    obtain ⟨hname, htimed⟩ := Bool.and_eq_true_iff.mp h
    rwa [← Argument.eq_of_name_eq distinct hother hmem (by simpa using hname)]
  · exact fun htimed => ⟨argument, hmem, by simp [htimed]⟩

theorem Parameters.last?_valueEntries :
    last? argument.name (valueEntries operation.arguments) = argument.value.filter (!·.isNull) :=
  last?_filter_suppliedEntries distinct hmem (!·.isNull)

theorem Parameters.last?_nullEntries :
    last? argument.name (nullEntries operation.arguments) = argument.value.filter (·.isNull) :=
  last?_filter_suppliedEntries distinct hmem Json.isNull

variable (hvalue : argument.value = some value)

include hvalue

theorem Operation.mem_patternNames_iff : argument.name ∈ operation.patternNames ↔
    value.isNull = false ∧ value.isArray = false ∧ argument.type.timed? = none := by
  refine Bag.mem_names_filter.trans ?_
  rw [Parameters.last?_valueEntries distinct hmem, Argument.any_timed distinct hmem, hvalue]
  cases hnull : value.isNull <;> simp [Option.filter, hnull]

theorem Operation.mem_listNames_iff :
    argument.name ∈ operation.listNames ↔ value.isArray = true := by
  refine Bag.mem_names_filter.trans ?_
  rw [Parameters.last?_valueEntries distinct hmem, hvalue]
  cases value <;> simp [Option.filter, Json.isNull, Json.isArray]

theorem Operation.mem_nullNames_iff :
    argument.name ∈ Bag.names (nullEntries operation.arguments) ↔ value.isNull = true := by
  rw [Bag.mem_names_iff, Parameters.last?_nullEntries distinct hmem, hvalue]
  cases hnull : value.isNull <;> simp [Option.filter, hnull]

/-- The comparisons of an argument's property are those of its own type and value. -/
theorem Operation.mem_conditions_of_comparedKey? {predicate : Predicate}
    (h : predicate.comparedKey? = some argument.name) :
    predicate ∈ operation.conditions ↔
      predicate ∈ argument.type.comparisons argument.name none value := by
  have found := Parameters.last?_valueEntries distinct hmem
  rw [hvalue] at found
  rw [mem_conditions_iff]
  constructor
  · rintro (⟨-, rfl⟩ | ⟨key, -, rfl⟩ | ⟨other, hother, value', hlast, hcompared⟩ | ⟨key, -, rfl⟩)
    · cases h
    · cases h
    · have hname := h.symm.trans (Predicate.comparedKey?_of_mem_comparisons hcompared)
      obtain rfl := Argument.eq_of_name_eq distinct hmem hother (Option.some.inj hname)
      rw [found] at hlast
      obtain ⟨hsame, -⟩ := Option.filter_eq_some_iff.mp hlast
      rwa [Option.some.inj hsame]
    · cases h
  · intro hcompared
    obtain ⟨components, rfl, -⟩ := TypeRef.cases_of_mem_comparisons hcompared
    exact .inr (.inr (.inl ⟨argument, hmem, _, found, hcompared⟩))

/-- The property of an argument is compared only if the value has parts to compare. -/
theorem Search.exists_compares_iff :
    (∃ text ∈ (ofOperation operation).conditions,
        Compares operation.variableName argument.name text) ↔
      Temporal.IsComposite argument.type value := by
  have own := fun predicate => @Operation.mem_conditions_of_comparedKey? operation argument value
    distinct hmem hvalue predicate
  simp only [compares_iff]
  constructor
  · rintro ⟨_, htext, predicate, hkey, rfl⟩
    have hmem := (Operation.spelled_mem_conditions (Predicate.isTop_of_comparedKey? hkey)).mp htext
    refine Classical.byContradiction fun single => ?_
    rw [own predicate hkey, TypeRef.comparisons_eq_nil_iff.mpr single] at hmem
    cases hmem
  · intro composite
    obtain ⟨predicate, hcompared⟩ := List.exists_mem_of_ne_nil _
      fun none => TypeRef.comparisons_eq_nil_iff.mp none composite
    have hkey := Predicate.comparedKey?_of_mem_comparisons hcompared
    have hmem := (own predicate hkey).mpr hcompared
    exact ⟨_, (Operation.spelled_mem_conditions (Predicate.isTop_of_comparedKey? hkey)).mpr hmem,
      predicate, hkey, rfl⟩

end Supplied

/-- Every supplied argument of a node query takes the ways that its type and value allow. -/
theorem Search.ofOperation_routes {operation : Operation} {argument : Argument} {value : Json}
    (distinct : (operation.arguments.map Argument.name).Nodup)
    (hmem : argument ∈ operation.arguments) (hvalue : argument.value = some value) :
    (ofOperation operation).Routes operation.variableName argument.name argument.type value where
  inline := by
    rw [← Operation.mem_patternNames_iff distinct hmem hvalue, ofOperation, List.mem_map]
    constructor
    · rintro ⟨name, hname, h⟩
      rwa [← matched_injective h]
    · exact fun h => ⟨_, h, rfl⟩
  null := by
    rw [← Operation.mem_nullNames_iff distinct hmem hvalue, ← Operation.isNull_mem_conditions]
    exact @Operation.spelled_mem_conditions operation (.isNull argument.name) trivial
  compared := exists_compares_iff distinct hmem hvalue
  member := by
    rw [← Operation.mem_listNames_iff distinct hmem hvalue, ← Operation.memberOf_mem_conditions]
    exact @Operation.spelled_mem_conditions operation (.memberOf argument.name) trivial

namespace Synthesizer

/-- A node query constrains its nodes by every supplied argument that is not vacuous, each in the
way that its type and value allow; by a vacuous argument it does not constrain them. -/
theorem constrained_iff_not_vacuous (synthesizer : Synthesizer) {operation : Operation}
    {query : Query} (distinct : (operation.arguments.map Argument.name).Nodup)
    (h : (synthesizer.synthesizeAs .nodeQuery operation).result = .ok query) :
    let search := Search.ofOperation operation
    (∃ rest, query.text =
      search.text operation.variableName operation.typeName ++ "RETURN " ++ rest) ∧
    ∀ argument ∈ operation.arguments, ∀ value, argument.value = some value →
      search.Routes operation.variableName argument.name argument.type value ∧
      (search.Constrains operation.variableName argument.name ↔
        ¬ Temporal.IsVacuous argument.type value) := by
  intro search
  obtain ⟨plan, projection, hplan, _, rfl⟩ := synthesizeAs_eq_ok h
  obtain rfl : Plan.nodeQuery operation = plan := Except.ok.inj hplan
  obtain ⟨rest, htext⟩ := Plan.render_nodeQuery operation projection.fragment
  refine ⟨⟨rest, htext⟩, fun argument hmem value hvalue => ?_⟩
  have routes := Search.ofOperation_routes distinct hmem hvalue
  exact ⟨routes, routes.constrains_iff⟩

/-- Films by five arguments, one for each way and one that is vacuous. -/
def filtered : Operation :=
  { Operation.new .query "Movie" "Movie" with
    arguments :=
      [⟨"title", .named "String", some (.string "Heat")⟩,
       ⟨"tagline", .named "String", some .null⟩,
       ⟨"released", .named "_Neo4jDateInput", some (.object [("year", .ofInt 1995), ("day", .null)])⟩,
       ⟨"seen", .named "_Neo4jDateInput", some (.string "1996")⟩,
       ⟨"genre", .listOf "String", some (.array [.string "crime", .string "drama"])⟩]
    selections := [⟨"title", none, []⟩] }

theorem constrained_filtered :
    let search := Search.ofOperation filtered
    (filtered.arguments.map Argument.name).Nodup ∧
    ∃ query, ((Synthesizer.mk .default Projection.flat .null).synthesizeAs .nodeQuery
        filtered).result = .ok query ∧
      query.text = "MATCH (movie:Movie \x7btitle:$title\x7d) WHERE movie.tagline IS NULL AND " ++
        "movie.released.year = $released.year AND movie.genre IN $genre " ++
        "RETURN movie \x7b.title\x7d AS movie " ∧
      (∃ rest, query.text = search.text "movie" "Movie" ++ "RETURN " ++ rest) ∧
      ∀ argument ∈ filtered.arguments, search.Constrains "movie" argument.name ↔
        argument.name ≠ "seen" := by
  intro search
  have distinct : (filtered.arguments.map Argument.name).Nodup := by decide
  obtain ⟨htext, hsearch⟩ := constrained_iff_not_vacuous
    (Synthesizer.mk .default Projection.flat .null) distinct rfl
  refine ⟨distinct, _, rfl, by decide +kernel, htext, fun argument hmem => ?_⟩
  have constrained (value : Json) (hvalue : argument.value = some value) :=
    (hsearch argument hmem value hvalue).2
  have dated : (TypeRef.named "_Neo4jDateInput").timed? = some .date := rfl
  have texts : (TypeRef.named "String").timed? = none := rfl
  have lists : (TypeRef.listOf "String").timed? = none := rfl
  simp only [filtered, List.mem_cons, List.not_mem_nil, or_false] at hmem
  rcases hmem with rfl | rfl | rfl | rfl | rfl <;>
    exact (constrained _ rfl).trans
      (by simp [Temporal.IsVacuous, Json.ofInt, dated, texts, lists])

/-- Films by the day of their release. -/
def released (value : Json) : Operation :=
  { Operation.new .query "Movie" "Movie" with
    arguments := [⟨"released", .named "_Neo4jDateInput", some value⟩]
    selections := [⟨"title", none, []⟩] }

/-- A day that is given as a text does not come into the statement, nor does one without parts. -/
theorem released_dropped :
    (∃ query, ((Synthesizer.mk .default Projection.flat .null).synthesizeAs .nodeQuery
        (released (.string "2020-01-01"))).result = .ok query ∧
      query.text = "MATCH (movie:Movie ) RETURN movie \x7b.title\x7d AS movie ") ∧
    ∃ query, ((Synthesizer.mk .default Projection.flat .null).synthesizeAs .nodeQuery
        (released (.object [("year", .null)]))).result = .ok query ∧
      query.text = "MATCH (movie:Movie ) RETURN movie \x7b.title\x7d AS movie " := by
  refine ⟨⟨_, rfl, ?_⟩, _, rfl, ?_⟩
  · decide +kernel
  · decide +kernel

end Synthesizer

end CypherSynthesis
