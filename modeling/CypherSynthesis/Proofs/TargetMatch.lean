import CypherSynthesis.Proofs.ClauseText

/-!
No node is changed that its key does not select. Every node that a mutation updates, deletes or links
is matched by its key: inside the pattern, or, for a temporal key given by its components, under at
least one condition, and then under conditions on the key alone. Nodes of the operation and ends of a
relationship are matched in the same way, and the rest of the statement matches no node. A deletion
whose key has the name of a supplied pagination parameter is the exception: it looks for components in
that parameter and finds none.
-/

namespace CypherSynthesis

open Cypher (quote reference sanitize)
open Bag (last?)
open Parameters (suppliedEntries)

theorem Json.isNull_eq_false_iff {value : Json} : value.isNull = false ↔ value ≠ .null := by
  cases value <;> simp [isNull]

/-- The value is given by components: its type is temporal, and it is an object with at least one
member that is not null. -/
def Temporal.IsComposite (type : TypeRef) (value : Json) : Prop :=
  type.timed?.isSome = true ∧
    ∃ components, value = .object components ∧ ∃ component ∈ components, component.2 ≠ .null

/-- Without components there is nothing to compare, and with some there is. -/
theorem TypeRef.comparisons_eq_nil_iff {type : TypeRef} {key : String} {parent : Option String}
    {value : Json} :
    type.comparisons key parent value = [] ↔ ¬ Temporal.IsComposite type value := by
  cases value with
  | null | bool | number | string | array => simp [comparisons, Temporal.IsComposite]
  | object components =>
    cases htimed : type.timed? with
    | none => simp [comparisons, Temporal.IsComposite, htimed]
    | some kind =>
      simp only [comparisons, Temporal.IsComposite, htimed]
      split
      · rename_i hformatted
        obtain ⟨component, hfind, hnull⟩ := (Option.any_eq_true _ _).mp hformatted
        have given : component.2 ≠ .null := Json.isNull_eq_false_iff.mp (by simpa using hnull)
        simpa using ⟨component.1, component.2, List.mem_of_find?_eq_some hfind, given⟩
      · simp [Json.isNull_eq_false_iff]

/-- A comparison is on the key, with the formatted text or with a component of the value. -/
theorem TypeRef.cases_of_mem_comparisons {type : TypeRef} {key : String} {parent : Option String}
    {value : Json} {predicate : Predicate} (h : predicate ∈ type.comparisons key parent value) :
    ∃ components, value = .object components ∧
      ((∃ kind, predicate = .sameValue key kind parent ∧ "formatted" ∈ components.map Prod.fst) ∨
        ∃ component ∈ components.map Prod.fst, predicate = .sameComponent key component parent) := by
  cases value with
  | null | bool | number | string | array => cases h
  | object components =>
    refine ⟨components, rfl, ?_⟩
    simp only [comparisons] at h
    split at h
    · rename_i kind _
      split at h
      · rename_i hformatted
        obtain ⟨component, hfind, -⟩ := (Option.any_eq_true _ _).mp hformatted
        have named : component.1 = "formatted" := by simpa using List.find?_some hfind
        exact .inl ⟨kind, List.mem_singleton.mp h,
          named ▸ List.mem_map_of_mem (List.mem_of_find?_eq_some hfind)⟩
      · obtain ⟨component, hcomponent, rfl⟩ := List.mem_map.mp h
        exact .inr ⟨component.1, List.mem_map_of_mem (List.mem_filter.mp hcomponent).1, rfl⟩
    · cases h

namespace Wanted

/-- The conditions on a key given by components: its formatted text if there is one, and otherwise
each component that is not null is compared with its own parameter. -/
def conditionTexts (wanted : Wanted) (kind : TemporalKind) (components : List (String × Json)) :
    List String :=
  let property := sanitize wanted.node ++ "." ++ quote wanted.key
  if (components.find? (·.1 = "formatted")).any (!·.2.isNull) then
    [property ++ " = " ++ kind.function ++ "(" ++ reference (wanted.path ++ ["formatted"]) ++ ")"]
  else (components.filter (!·.2.isNull)).map fun component =>
    property ++ "." ++ quote component.1 ++ " = " ++ reference (wanted.path ++ [component.1])

/-- The node is matched by its key: under conditions if the key is given by components, and inside the
pattern otherwise. -/
structure MatchedBy (wanted : Wanted) (type : TypeRef) (clause : String) : Prop where
  compared : ∀ kind components, type.timed? = some kind → wanted.value = .object components →
    (∃ component ∈ components, component.2 ≠ .null) →
      wanted.conditionTexts kind components ≠ [] ∧
        clause = wanted.comparedText (wanted.conditionTexts kind components)
  inline : ¬ Temporal.IsComposite type wanted.value → clause = wanted.inlineText
  compared_iff : (∃ conditions, clause = wanted.comparedText conditions) ↔
    Temporal.IsComposite type wanted.value

/-- The two forms differ behind the label. -/
theorem inlineText_ne_comparedText (wanted : Wanted) (conditions : List String) :
    wanted.inlineText ≠ wanted.comparedText conditions := by
  intro h
  unfold inlineText comparedText at h
  simp only [String.append_assoc, String.append_right_inj] at h
  have first := congrArg (·.toList.head?) h
  simp only [String.toList_append] at first
  cases first

theorem map_spelled_comparisons {wanted : Wanted} {type : TypeRef} {kind : TemporalKind}
    {components : List (String × Json)} (htypes : wanted.types = [type])
    (htimed : type.timed? = some kind) (hvalue : wanted.value = .object components) :
    wanted.comparisons.map (·.spelled wanted.node) = wanted.conditionTexts kind components := by
  simp only [comparisons, htypes, List.flatMap_singleton, hvalue, TypeRef.comparisons, htimed,
    conditionTexts, path]
  split
  · simp [Predicate.spelled, String.append_assoc]
  · simp [Predicate.spelled, Function.comp_def, String.append_assoc]

/-- A key that is declared once is matched as its type says. -/
theorem matchedBy_clause {wanted : Wanted} {type : TypeRef} (htypes : wanted.types = [type]) :
    wanted.MatchedBy type wanted.clause := by
  have compared (kind : TemporalKind) (components : List (String × Json))
      (htimed : type.timed? = some kind) (hvalue : wanted.value = .object components)
      (given : ∃ component ∈ components, component.2 ≠ .null) :
      wanted.conditionTexts kind components ≠ [] ∧
        wanted.clause = wanted.comparedText (wanted.conditionTexts kind components) := by
    have texts := map_spelled_comparisons htypes htimed hvalue
    have nonempty : wanted.comparisons ≠ [] := by
      simp only [comparisons, htypes, List.flatMap_singleton]
      exact fun none => TypeRef.comparisons_eq_nil_iff.mp none
        ⟨by simp [htimed], components, hvalue, given⟩
    rw [← texts]
    refine ⟨by simpa using nonempty, ?_⟩
    rw [clause, if_neg (by simpa using nonempty)]
  have inline (single : ¬ Temporal.IsComposite type wanted.value) :
      wanted.clause = wanted.inlineText := by
    have nothing : wanted.comparisons = [] := by
      simp [comparisons, htypes, TypeRef.comparisons_eq_nil_iff.mpr single]
    simp [clause, nothing]
  refine ⟨compared, inline, ?_, ?_⟩
  · rintro ⟨conditions, hclause⟩
    exact Classical.byContradiction fun single =>
      wanted.inlineText_ne_comparedText conditions ((inline single).symm.trans hclause)
  · rintro ⟨htimed, components, hvalue, given⟩
    obtain ⟨kind, hkind⟩ := Option.isSome_iff_exists.mp htimed
    exact ⟨_, (compared kind components hkind hvalue given).2⟩

theorem reading_of_last? {wanted : Wanted} {entries : List (String × Json)}
    (h : last? wanted.key entries = some wanted.value) : wanted.reading entries = wanted := by
  simp [reading, h]

end Wanted

/-- Whether pagination of the operation is bound under the name. -/
def Operation.pages (operation : Operation) (name : String) : Bool :=
  (name = "first" && operation.first.isSome) || (name = "offset" && operation.offset.isSome)

/-- What pagination binds under the name is a number. -/
theorem Operation.exists_number_of_pages {operation : Operation} {name : String}
    (h : operation.pages name = true) :
    ∃ n, last? name operation.pageEntries = some (.number n) := by
  rw [last?_pageEntries]
  simp only [pages, Bool.or_eq_true, Bool.and_eq_true, decide_eq_true_eq] at h
  rcases h with ⟨rfl, hfirst⟩ | ⟨rfl, hoffset⟩
  · obtain ⟨first, hfirst⟩ := Option.isSome_iff_exists.mp hfirst
    exact ⟨.integer first.toInt, by simp [hfirst, Json.ofInt]⟩
  · obtain ⟨offset, hoffset⟩ := Option.isSome_iff_exists.mp hoffset
    exact ⟨.integer offset.toInt, by simp [hoffset, Json.ofInt]⟩

theorem Operation.last?_pageEntries_of_not_pages {operation : Operation} {name : String}
    (h : operation.pages name = false) : last? name operation.pageEntries = none := by
  rw [last?_pageEntries]
  simp only [pages, Bool.or_eq_false_iff, Bool.and_eq_false_imp, decide_eq_true_eq] at h
  split
  · rename_i hfirst
    simpa using h.1 hfirst
  · split
    · rename_i hoffset
      simpa using h.2 hoffset
    · rfl

namespace Operation

variable {operation : Operation}

/-- With different names the key of an operation is declared once, and has the value of the first
argument. -/
theorem types_of_wanted? {parent : Option String} {wanted : Wanted}
    (distinct : (operation.arguments.map Argument.name).Nodup)
    (h : operation.wanted? parent = some wanted) :
    wanted.parent = parent ∧ (∃ type, wanted.types = [type]) ∧
      last? wanted.key (suppliedEntries operation.arguments) = some wanted.value := by
  rw [Parameters.last?_suppliedEntries distinct]
  unfold wanted? at h
  cases harguments : operation.arguments with
  | nil => simp [harguments] at h
  | cons key rest =>
    rw [harguments] at distinct h
    have own := filter_eq_singleton distinct List.mem_cons_self
    cases hvalue : key.value with
    | none => simp [hvalue] at h
    | some value =>
      have hwanted : wanted.parent = parent ∧ wanted.key = key.name ∧ wanted.value = value ∧
          wanted.types = ((key :: rest).filter (·.name = key.name)).map Argument.type := by
        cases value <;> simp [hvalue] at h <;> simp [← h]
      obtain ⟨hparent, hkey, rfl, htypes⟩ := hwanted
      exact ⟨hparent, ⟨key.type, by rw [htypes, own]; rfl⟩, by simp [hkey, hvalue]⟩

/-- With different fields so is the key of an end. -/
theorem types_of_wantedEnd? {argumentName typeName : String} {wanted : Wanted}
    (fields : ∀ argument ∈ operation.arguments, argument.name = argumentName →
      (argument.type.fields.map Prod.fst).Nodup)
    (h : operation.wantedEnd? argumentName typeName = some wanted) :
    ∃ type, wanted.types = [type] := by
  unfold wantedEnd? at h
  split at h
  · rename_i name type members hargument
    have distinct := fields _ (List.mem_of_find?_eq_some hargument)
      (by simpa using List.find?_some hargument)
    split at h
    · rename_i key keyType rest hfields
      have hmem : (key, keyType) ∈ type.fields := by simp [hfields]
      have own := filter_eq_singleton distinct hmem
      split at h
      · cases h
      · cases h
      · obtain rfl := Option.some.inj h
        exact ⟨keyType, by simp [own]⟩
    · cases h
  · cases h

end Operation

/-- Both ends of a relationship are matched by their keys, one after the other, and then the text goes
on as the kind has it. -/
def EndsMatched (settings : Settings) (operation : Operation)
    (form : Link → Wanted → Wanted → String → String) (text : String) : Prop :=
  ∃ link source sourceType found target targetType found',
    operation.link? settings = some link ∧
    operation.wantedEnd? "from" link.sourceType = some source ∧ source.types = [sourceType] ∧
    source.MatchedBy sourceType found ∧
    operation.wantedEnd? "to" link.targetType = some target ∧ target.types = [targetType] ∧
    target.MatchedBy targetType found' ∧
    text = form link source target (found ++ "\n" ++ found')

/-- The text of a mutation of the given kind, in which the nodes that it is about are matched by their
keys. -/
def TargetsMatched (settings : Settings) (operation : Operation) (text projection : String) :
    Kind → Prop
  | .nodeUpdate => ∃ wanted type clause, operation.wanted? (some "params") = some wanted ∧
      wanted.types = [type] ∧ wanted.MatchedBy type clause ∧
      text = operation.updateText (operation.updatedProperties wanted.key) projection clause
  | .nodeDelete => ∃ wanted type clause, operation.wanted? none = some wanted ∧
      wanted.types = [type] ∧
      (if operation.pages wanted.key then clause = wanted.inlineText
        else wanted.MatchedBy type clause) ∧
      text = operation.deletionText projection clause
  | .relationshipCreate =>
      EndsMatched settings operation (operation.linkText operation.dataProperties projection) text
  | .relationshipDelete => EndsMatched settings operation (operation.unlinkText projection) text
  | .customQuery | .nodeQuery | .customMutation | .nodeCreate => True

namespace Plan

variable {operation : Operation}

theorem targetsMatched_nodeUpdate (settings : Settings) {key : Argument}
    (distinct : (operation.arguments.map Argument.name).Nodup)
    (hkey : keyArgument operation = .ok key) (projection : Cypher.Fragment) :
    TargetsMatched settings operation
      ((nodeUpdateBy operation key.name).statement projection).render projection.render
      .nodeUpdate := by
  obtain ⟨wanted, hwanted, -, htext⟩ := render_nodeUpdateBy hkey projection
  obtain ⟨-, ⟨type, htypes⟩, supplied⟩ := Operation.types_of_wanted? distinct hwanted
  rw [Wanted.reading_of_last? supplied] at htext
  exact ⟨wanted, type, wanted.clause, hwanted, htypes, Wanted.matchedBy_clause htypes, htext⟩

theorem targetsMatched_nodeDelete (settings : Settings) {key : Argument}
    (distinct : (operation.arguments.map Argument.name).Nodup)
    (hkey : keyArgument operation = .ok key) (projection : Cypher.Fragment) :
    TargetsMatched settings operation
      ((nodeDeleteBy operation key.name).statement projection).render projection.render
      .nodeDelete := by
  obtain ⟨wanted, hwanted, -, htext⟩ := render_nodeDeleteBy hkey projection
  obtain ⟨-, ⟨type, htypes⟩, supplied⟩ := Operation.types_of_wanted? distinct hwanted
  refine ⟨wanted, type, _, hwanted, htypes, ?_, htext⟩
  cases hpages : operation.pages wanted.key with
  | true =>
    -- the number of a page has no components to compare
    obtain ⟨n, hn⟩ := Operation.exists_number_of_pages hpages
    have read : wanted.reading (suppliedEntries operation.arguments ++ operation.pageEntries) =
        { wanted with value := .number n } := by
      rw [Wanted.reading, Bag.last?_append, hn]
      rfl
    have numbered : Wanted.types { wanted with value := .number n } = [type] := htypes
    rw [read]
    refine (Wanted.matchedBy_clause numbered).inline ?_
    rintro ⟨-, components, number, -⟩
    cases number
  | false =>
    have last : last? wanted.key (suppliedEntries operation.arguments ++ operation.pageEntries) =
        some wanted.value := by
      rw [Bag.last?_append, Operation.last?_pageEntries_of_not_pages hpages, supplied]
      rfl
    rw [Wanted.reading_of_last? last]
    exact Wanted.matchedBy_clause htypes

/-- Both ends of a relationship are matched by the clauses of their keys. -/
theorem endsMatched {settings : Settings} {link : Link} {wanted wanted' : Wanted}
    (fields : ∀ argument ∈ operation.arguments, argument.name = "from" ∨ argument.name = "to" →
      (argument.type.fields.map Prod.fst).Nodup)
    (hlink : operation.link? settings = some link)
    (hwanted : operation.wantedEnd? "from" link.sourceType = some wanted)
    (hwanted' : operation.wantedEnd? "to" link.targetType = some wanted')
    {form : Link → Wanted → Wanted → String → String} {text : String}
    (htext : text = form link wanted wanted' (wanted.clause ++ "\n" ++ wanted'.clause)) :
    EndsMatched settings operation form text := by
  obtain ⟨type, htypes⟩ := Operation.types_of_wantedEnd?
    (fun argument hargument hname => fields argument hargument (.inl hname)) hwanted
  obtain ⟨type', htypes'⟩ := Operation.types_of_wantedEnd?
    (fun argument hargument hname => fields argument hargument (.inr hname)) hwanted'
  exact ⟨link, wanted, type, wanted.clause, wanted', type', wanted'.clause, hlink, hwanted, htypes,
    Wanted.matchedBy_clause htypes, hwanted', htypes', Wanted.matchedBy_clause htypes', htext⟩

end Plan

namespace Synthesizer

/-- Each node that a mutation updates, deletes or links is matched by its key: under conditions on the
key if its value is given by components, and inside the pattern otherwise. -/
theorem targets_matched (synthesizer : Synthesizer) {kind : Kind} {operation : Operation}
    {query : Query} (distinct : (operation.arguments.map Argument.name).Nodup)
    (fields : ∀ argument ∈ operation.arguments, argument.name = "from" ∨ argument.name = "to" →
      (argument.type.fields.map Prod.fst).Nodup)
    (h : (synthesizer.synthesizeAs kind operation).result = .ok query) :
    ∃ projection, synthesizer.Answered kind operation projection ∧
      TargetsMatched synthesizer.settings operation query.text projection.fragment.render kind := by
  obtain ⟨plan, projection, hplan, hprojection, rfl⟩ := synthesizeAs_eq_ok h
  refine ⟨projection, answered hplan hprojection, ?_⟩
  rw [Plan.text_query]
  cases kind with
  | nodeUpdate =>
    obtain ⟨key, hkey, rfl⟩ := Plan.nodeUpdate_eq_ok hplan
    exact Plan.targetsMatched_nodeUpdate _ distinct hkey projection.fragment
  | nodeDelete =>
    obtain ⟨key, hkey, rfl⟩ := Plan.nodeDelete_eq_ok hplan
    exact Plan.targetsMatched_nodeDelete _ distinct hkey projection.fragment
  | relationshipCreate =>
    obtain ⟨link, source, target, hends, rfl⟩ := Plan.relationshipCreate_eq_ok hplan
    obtain ⟨hlink, wanted, wanted', hwanted, hwanted', htext⟩ :=
      Plan.render_relationshipCreateBetween hends projection.fragment
    exact Plan.endsMatched fields hlink hwanted hwanted' htext
  | relationshipDelete =>
    obtain ⟨link, source, target, hends, rfl⟩ := Plan.relationshipDelete_eq_ok hplan
    obtain ⟨hlink, wanted, wanted', hwanted, hwanted', htext⟩ :=
      Plan.render_relationshipDeleteBetween hends projection.fragment
    exact Plan.endsMatched fields hlink hwanted hwanted' htext
  | customQuery | nodeQuery | customMutation | nodeCreate => trivial

/-- A deletion of a film, five at a time, by a date under the given name. -/
def deletion (key : String) (components : List (String × Json)) : Operation :=
  { Operation.new .mutation "DeleteMovie" "Movie" with
    arguments := [⟨key, .named "_Neo4jDateInput", some (.object components)⟩]
    selections := [⟨"title", none, []⟩]
    first := some 5 }

/-- The removal of the link from a person, known by a date of birth, to a role. -/
def parting (born : Json) : Operation :=
  { Operation.new .mutation "RemovePersonRoles" "_RemovePersonRolesPayload" with
    arguments :=
      [⟨"from", .input "_PersonInput" [("born", .named "_Neo4jDateInput")],
        some (.object [("born", born)])⟩,
       ⟨"to", .input "_RoleInput" [("id", .required "ID")], some (.object [("id", .string "r1")])⟩]
    selections := [⟨"from", none, [⟨"name", none, []⟩]⟩]
    directives := [⟨"MutationMeta", { entries := [("relationship", .string "PLAYS_ROLE"),
      ("from", .string "Person"), ("to", .string "Role")] }⟩] }

/-- A film and an end of a link are matched by the components of a date in the same way. -/
theorem targets_matched_deletion :
    (let operation := deletion "released"
      [("year", .ofInt 1999), ("month", .null), ("day", .ofInt 31)]
    (operation.arguments.map Argument.name).Nodup ∧
    (∀ argument ∈ operation.arguments, argument.name = "from" ∨ argument.name = "to" →
      (argument.type.fields.map Prod.fst).Nodup) ∧
    ∃ query, ((Synthesizer.mk .default Projection.flat .null).synthesizeAs .nodeDelete
        operation).result = .ok query ∧
      query.text = "MATCH (movie:Movie) WHERE movie.released.year = $released.year AND " ++
        "movie.released.day = $released.day\n" ++
        "WITH movie AS movie_toDelete, movie \x7b.title\x7d AS movie\n" ++
        "DETACH DELETE movie_toDelete\nRETURN movie" ∧
      ∃ projection, (Synthesizer.mk .default Projection.flat .null).Answered .nodeDelete
          operation projection ∧
        TargetsMatched .default operation query.text projection.fragment.render .nodeDelete) ∧
    (let operation := parting (.object [("year", .ofInt 1964), ("day", .ofInt 2)])
    (operation.arguments.map Argument.name).Nodup ∧
    (∀ argument ∈ operation.arguments, argument.name = "from" ∨ argument.name = "to" →
      (argument.type.fields.map Prod.fst).Nodup) ∧
    ∃ query, ((Synthesizer.mk .default Projection.flat .null).synthesizeAs .relationshipDelete
        operation).result = .ok query ∧
      query.text = "MATCH (person_from:Person) WHERE person_from.born.year = $from.born.year AND " ++
        "person_from.born.day = $from.born.day\nMATCH (role_to:Role \x7bid: $to.id\x7d)\n" ++
        "OPTIONAL MATCH (person_from)-[person_fromrole_to:PLAYS_ROLE]->(role_to)\n" ++
        "DELETE person_fromrole_to\n" ++
        "WITH COUNT(*) AS scope, person_from AS _person_from, role_to AS _role_to\n" ++
        "RETURN \x7bfrom: _person_from \x7b.name\x7d\x7d AS _RemovePersonRolesPayload" ∧
      ∃ projection, (Synthesizer.mk .default Projection.flat .null).Answered .relationshipDelete
          operation projection ∧
        TargetsMatched .default operation query.text projection.fragment.render
          .relationshipDelete) := by
  refine ⟨?node, ?link⟩
  case node =>
    intro operation
    have distinct : (operation.arguments.map Argument.name).Nodup := by decide
    have fields : ∀ argument ∈ operation.arguments,
        argument.name = "from" ∨ argument.name = "to" →
          (argument.type.fields.map Prod.fst).Nodup := by decide
    exact ⟨distinct, fields, _, rfl, by decide +kernel,
      targets_matched (Synthesizer.mk .default Projection.flat .null) distinct fields rfl⟩
  case link =>
    intro operation
    have distinct : (operation.arguments.map Argument.name).Nodup := by decide
    have fields : ∀ argument ∈ operation.arguments,
        argument.name = "from" ∨ argument.name = "to" →
          (argument.type.fields.map Prod.fst).Nodup := by decide
    exact ⟨distinct, fields, _, rfl, by decide +kernel,
      targets_matched (Synthesizer.mk .default Projection.flat .null) distinct fields rfl⟩

/-- With a key called `first` a deletion has no condition on the key's component. -/
theorem deletion_first_text :
    let operation := deletion "first" [("year", .ofInt 1999)]
    (∃ key value, operation.arguments = [key] ∧ key.value = some value ∧
      Temporal.IsComposite key.type value) ∧
    ∃ query, ((Synthesizer.mk .default Projection.flat .null).synthesizeAs .nodeDelete
        operation).result = .ok query ∧
      query.text = "MATCH (movie:Movie \x7bfirst: $first\x7d)\n" ++
        "WITH movie AS movie_toDelete, movie \x7b.title\x7d AS movie\n" ++
        "DETACH DELETE movie_toDelete\nRETURN movie" := by
  intro operation
  have composite : Temporal.IsComposite (.named "_Neo4jDateInput")
      (.object [("year", .ofInt 1999)]) :=
    ⟨by decide, _, rfl, _, List.mem_cons_self, by simp [Json.ofInt]⟩
  exact ⟨⟨_, _, rfl, rfl, composite⟩, _, rfl, by decide +kernel⟩

end Synthesizer

end CypherSynthesis
