import CypherSynthesis.Proofs.Bindings
import CypherSynthesis.Proofs.StatementText
import CypherSynthesis.Proofs.TargetMatch

/-!
The node that is changed is the one that was asked for. The match of a target is read back from its
text: every reference in it leads, among the parameters of the query, to the value that was supplied
for the key, to all of it if the key is inside the pattern, and to its formatted text or its components
if they are compared. A deletion has its key next to pagination and the request-wide map, and one of
these takes the key's place if the key has its name.
-/

namespace CypherSynthesis

open Cypher (Fragment)
open Bag (last?)
open Parameters (suppliedEntries)

namespace Cypher.Fragment

theorem params_append (before after : Fragment) :
    (before ++ after).params = before.params ++ after.params :=
  List.filterMap_append

theorem params_joined (separator : String) (parts : List Fragment) :
    (joined separator parts).params = parts.flatMap params := by
  induction parts with
  | nil => rfl
  | cons part rest ih =>
    cases rest with
    | nil => simp [joined]
    | cons next rest =>
      have between : params [.fixed separator] = [] := rfl
      have whole : joined separator (part :: next :: rest) =
          part ++ [.fixed separator] ++ joined separator (next :: rest) := rfl
      rw [whole, params_append, params_append, between, ih, List.append_nil]
      rfl

end Cypher.Fragment

/-- The part of the key's value that a comparison reads. -/
def Predicate.part : Predicate → List String
  | sameValue _ _ _ => ["formatted"]
  | sameComponent _ component _ => [component]
  | internalId | isNull _ | memberOf _ => []

namespace Wanted

/-- The parts of the key's value that the node is found by: what is compared, or else the whole. -/
def parts (wanted : Wanted) : List (List String) :=
  if wanted.comparisons.isEmpty then [[]] else wanted.comparisons.map Predicate.part

/-- The clause of the key refers to the parts of its value and to nothing else, and in `root` these
references lead to the parts of `bound`. -/
structure Reads (wanted : Wanted) (root bound : Json) (clause : String) : Prop where
  text : clause = wanted.clause
  refers : ∃ tokens, Cypher.lex clause = some tokens ∧
    Cypher.references tokens = wanted.parts.map (wanted.path ++ ·)
  leads : ∀ part ∈ wanted.parts, root.at? (wanted.path ++ part) = bound.at? part

/-- The node is found by the value of its key, whose parts are there to be read. -/
structure FoundBy (wanted : Wanted) (root : Json) (clause : String) : Prop
    extends wanted.Reads root wanted.value clause where
  given : ∀ part ∈ wanted.parts, (wanted.value.at? part).isSome = true

/-- A comparison is on the key, with a part of its value that is there. -/
theorem cases_of_mem_comparisons {wanted : Wanted} {predicate : Predicate}
    (h : predicate ∈ wanted.comparisons) :
    ((∃ kind, predicate = .sameValue wanted.key kind wanted.parent) ∨
      ∃ component, predicate = .sameComponent wanted.key component wanted.parent) ∧
      (wanted.value.at? predicate.part).isSome = true := by
  obtain ⟨type, -, h⟩ := List.mem_flatMap.mp h
  obtain ⟨components, hvalue, h⟩ := TypeRef.cases_of_mem_comparisons h
  have there (component : String) (hmem : component ∈ components.map Prod.fst) :
      ((Json.object components).at? [component]).isSome = true := by
    simpa [Json.at?] using (Bag.isSome_find? component components).mpr hmem
  rw [hvalue]
  rcases h with ⟨kind, rfl, hmem⟩ | ⟨component, hmem, rfl⟩
  · exact ⟨.inl ⟨kind, rfl⟩, there "formatted" hmem⟩
  · exact ⟨.inr ⟨component, rfl⟩, there component hmem⟩

theorem isSome_at?_of_mem_parts {wanted : Wanted} {part : List String} (h : part ∈ wanted.parts) :
    (wanted.value.at? part).isSome = true := by
  unfold parts at h
  split at h
  · simp [List.mem_singleton.mp h]
  · obtain ⟨predicate, hpredicate, rfl⟩ := List.mem_map.mp h
    exact (cases_of_mem_comparisons hpredicate).2

theorem params_of_mem_comparisons {wanted : Wanted} (node : String) {predicate : Predicate}
    (h : predicate ∈ wanted.comparisons) :
    (predicate.fragment node).params = [wanted.path ++ predicate.part] := by
  rcases (cases_of_mem_comparisons h).1 with ⟨kind, rfl⟩ | ⟨component, rfl⟩ <;>
    simp [Predicate.fragment, Fragment.params, Predicate.path, path, Predicate.part,
      Temporal.formattedKey]

theorem hasPlainParent_of_mem_comparisons {wanted : Wanted} {predicate : Predicate}
    (plain : ∀ p ∈ wanted.parent, Cypher.isPlain p = true) (h : predicate ∈ wanted.comparisons) :
    predicate.HasPlainParent := by
  rcases (cases_of_mem_comparisons h).1 with ⟨kind, rfl⟩ | ⟨component, rfl⟩
  · exact plain
  · exact plain

/-- The match of a key refers to the parts of its value. -/
theorem params_matchClause (wanted : Wanted) {conditions : Conditions}
    (hconditions : conditions.predicates = wanted.comparisons) :
    (Target.matchClause ⟨wanted.node, wanted.label, wanted.key, wanted.parent⟩
      conditions.clauses).params = wanted.parts.map (wanted.path ++ ·) := by
  unfold Target.matchClause parts
  rw [Conditions.conjunction?_clauses, hconditions]
  cases hempty : wanted.comparisons.isEmpty with
  | true => simp [Fragment.params, Predicate.path, path]
  | false =>
    have compared : (wanted.comparisons.map (Predicate.fragment conditions.node)).flatMap
        Fragment.params = (wanted.comparisons.map Predicate.part).map (wanted.path ++ ·) := by
      rw [List.flatMap_map, List.map_map, List.map_eq_flatMap]
      exact List.flatMap_congr fun predicate h => params_of_mem_comparisons _ h
    simp only [Bool.false_eq_true, if_false, Fragment.params_append, Fragment.params_joined,
      compared]
    rfl

/-- Read back, the clause of a key refers to the parts of its value. -/
theorem references_clause {wanted : Wanted}
    (plain : ∀ p ∈ wanted.parent, Cypher.isPlain p = true) :
    ∃ tokens, Cypher.lex wanted.clause = some tokens ∧
      Cypher.references tokens = wanted.parts.map (wanted.path ++ ·) := by
  obtain ⟨conditions, hnode, hconditions⟩ : ∃ conditions : Conditions,
      conditions.node = Cypher.sanitize wanted.node ∧
        conditions.predicates = wanted.comparisons :=
    ⟨{ Conditions.new wanted.node with temporal := wanted.comparisons }, rfl,
      by simp [Conditions.predicates, Conditions.new]⟩
  have hplain : ∀ predicate ∈ conditions.predicates, predicate.HasPlainParent := by
    rw [hconditions]
    exact fun predicate => hasPlainParent_of_mem_comparisons plain
  have same : Cypher.sanitize conditions.node = Cypher.sanitize wanted.node := by
    rw [hnode, Cypher.sanitize_sanitize]
  have spaced := Fragment.isSpaced_closed_of_spaced
    (Target.spells_matchClause ⟨wanted.node, wanted.label, wanted.key, wanted.parent⟩ same hplain
      plain).spaced
  refine ⟨_, ?_, (Fragment.references_tokens spaced).trans (wanted.params_matchClause hconditions)⟩
  rw [← wanted.render_matchClause hnode hconditions]
  exact Fragment.lex_render spaced

variable {wanted : Wanted} {root : Json}

/-- A clause is read from wherever the path of its key leads. -/
theorem reads_clause {bound : Json} (plain : ∀ p ∈ wanted.parent, Cypher.isPlain p = true)
    (hroot : root.at? wanted.path = some bound) : wanted.Reads root bound wanted.clause where
  text := rfl
  refers := references_clause plain
  leads part _ := by rw [Json.at?_append, hroot, Option.bind_some]

theorem foundBy_clause (plain : ∀ p ∈ wanted.parent, Cypher.isPlain p = true)
    (hroot : root.at? wanted.path = some wanted.value) : wanted.FoundBy root wanted.clause where
  toReads := reads_clause plain hroot
  given _ := isSome_at?_of_mem_parts

end Wanted

/-- What is bound in place of an argument of the given name that is not in a map of its own. -/
def Operation.override? (operation : Operation) (name : String) : Option Json :=
  (last? name operation.globalEntries).or (last? name operation.pageEntries)

/-- Both ends of a relationship are found by the values of their keys, one after the other, and then
the text goes on as the kind has it. -/
def EndsFound (settings : Settings) (operation : Operation)
    (form : Link → Wanted → Wanted → String → String) (query : Query) : Prop :=
  ∃ link source found target found', operation.link? settings = some link ∧
    operation.wantedEnd? "from" link.sourceType = some source ∧
    source.FoundBy query.parameters.toJson found ∧
    operation.wantedEnd? "to" link.targetType = some target ∧
    target.FoundBy query.parameters.toJson found' ∧
    query.text = form link source target (found ++ "\n" ++ found')

/-- The nodes that a mutation of the given kind is about are found by the values supplied for their
keys. If something is bound in place of the key of a deletion, that is read; pagination in its place
has no components to compare. -/
def TargetsFound (settings : Settings) (operation : Operation) (query : Query)
    (projection : String) : Kind → Prop
  | .nodeUpdate => ∃ wanted clause, operation.wanted? (some "params") = some wanted ∧
      wanted.FoundBy query.parameters.toJson clause ∧
      query.text = operation.updateText (operation.updatedProperties wanted.key) projection clause
  | .nodeDelete => ∃ wanted clause, operation.wanted? none = some wanted ∧
      (match operation.override? wanted.key with
        | none => wanted.FoundBy query.parameters.toJson clause
        | some other => (wanted.reading operation.pageEntries).Reads query.parameters.toJson other
            clause) ∧
      query.text = operation.deletionText projection clause
  | .relationshipCreate =>
      EndsFound settings operation (operation.linkText operation.dataProperties projection) query
  | .relationshipDelete => EndsFound settings operation (operation.unlinkText projection) query
  | .customQuery | .nodeQuery | .customMutation | .nodeCreate => True

namespace Parameters

variable {operation : Operation} {kind : Kind} {settings : Settings} {fresh : Json} {key : String}

/-- The value of a name where the projection brings no parameters. -/
theorem value?_nil (hkind : kind ≠ .nodeQuery) :
    value? settings fresh operation kind [] key =
      (operation.override? key).or
        (last? key (operation.argumentEntries settings fresh kind)) := by
  have free : operation.idEntries kind = [] := operation.append_idEntries [] hkind
  simp [value?, Operation.override?, free, last?, Option.or_assoc]

end Parameters

theorem Operation.override?_of_ne {operation : Operation} {key : String}
    (hglobals : key ≠ "cypherParams") (hfirst : key ≠ "first") (hoffset : key ≠ "offset") :
    operation.override? key = none := by
  rw [override?, operation.last?_globalEntries hglobals, operation.last?_pageEntries]
  simp [hfirst, hoffset]

theorem Projection.parameters_flat {request : SelectionRequest} {projection : Projection}
    (h : flat request = .ok projection) : projection.parameters = .empty := by
  obtain ⟨entries, -, hprojection⟩ := exists_of_bind_eq_ok h
  obtain rfl := Except.ok.inj hprojection
  rfl

namespace Operation

variable {operation : Operation}

/-- The key of an update is in its map as it was supplied. -/
theorem find?_updatedMembers {key : Argument} (hkey : Plan.keyArgument operation = .ok key) :
    Bag.find? key.name operation.updatedMembers =
      last? key.name (suppliedEntries operation.arguments) := by
  obtain ⟨rest, value, -, -, -⟩ := Plan.keyArgument_eq_ok hkey
  have bound := Plan.get?_supplied_reading hkey value
  have written := Bag.get?_insertAll_eq_last?
    ((Parameters.split (Parameters.supplied operation.arguments) key.name).2.mapValues
      (Assignment.stored operation.declarations))
    (Parameters.split (Parameters.supplied operation.arguments) key.name).1.entries key.name
  rw [Bag.get?, Parameters.entries_updated hkey, Parameters.entries_split_entry bound] at written
  rw [Parameters.supplied_eq_ofList, Bag.get?_ofList_eq_last?] at bound
  rw [written, bound]
  simp [last?]

/-- An end is found by a member of its argument. -/
theorem exists_members_of_wantedEnd? {argumentName typeName : String} {wanted : Wanted}
    (h : operation.wantedEnd? argumentName typeName = some wanted) :
    ∃ argument members, operation.arguments.find? (·.name = argumentName) = some argument ∧
      argument.value = some (.object members) ∧ wanted.parent = some argumentName ∧
      Bag.find? wanted.key members = some wanted.value := by
  unfold wantedEnd? at h
  split at h
  · rename_i name type members hargument
    split at h
    · split at h
      · cases h
      · cases h
      · rename_i hmember
        obtain rfl := Option.some.inj h
        exact ⟨_, members, hargument, rfl, rfl, by rw [Bag.find?_eq_map_find?, hmember]; rfl⟩
    · cases h
  · cases h

end Operation

namespace Plan

variable {settings : Settings} {fresh : Json} {operation : Operation} {kind : Kind} {plan : Plan}
  {projection : Projection}

/-- The parameters of a query whose projection brings none. -/
theorem get?_query (hplan : (Synthesizer.mk settings Projection.flat fresh).planned kind operation =
      .ok plan) (hflat : projection.parameters = .empty) (hkind : kind ≠ .nodeQuery) (key : String) :
    (plan.query operation projection).parameters.get? key =
      (operation.override? key).or
        (last? key (operation.argumentEntries settings fresh kind)) := by
  rw [(query_binds hplan projection).value, hflat]
  exact Parameters.value?_nil hkind

/-- The node of an update is found by the value supplied for its key. -/
theorem targetsFound_nodeUpdate (distinct : (operation.arguments.map Argument.name).Nodup)
    (hplan : (Synthesizer.mk settings Projection.flat fresh).planned .nodeUpdate operation =
      .ok plan) (hflat : projection.parameters = .empty) :
    TargetsFound settings operation (plan.query operation projection) projection.fragment.render
      .nodeUpdate := by
  have bound : (plan.query operation projection).parameters.get? "params" =
      some (.object operation.updatedMembers) := by
    rw [get?_query hplan hflat (by decide),
      Operation.override?_of_ne (by decide) (by decide) (by decide)]
    simp [Operation.argumentEntries, last?]
  obtain ⟨key, hkey, rfl⟩ := nodeUpdate_eq_ok hplan
  obtain ⟨wanted, hwanted, hname, htext⟩ := render_nodeUpdateBy hkey projection.fragment
  obtain ⟨hparent, -, supplied⟩ := Operation.types_of_wanted? distinct hwanted
  rw [Wanted.reading_of_last? supplied] at htext
  have own : Bag.find? wanted.key operation.updatedMembers = some wanted.value := by
    rw [← supplied, hname, Operation.find?_updatedMembers hkey]
  refine ⟨wanted, wanted.clause, hwanted, Wanted.foundBy_clause ?_ ?_, htext⟩
  · simp [hparent, show Cypher.isPlain "params" = true by decide]
  · simp [Wanted.path, hparent, bound, Json.at?, own]

/-- The node of a deletion is found so too, or by what is bound in place of its key. -/
theorem targetsFound_nodeDelete (distinct : (operation.arguments.map Argument.name).Nodup)
    (hplan : (Synthesizer.mk settings Projection.flat fresh).planned .nodeDelete operation =
      .ok plan) (hflat : projection.parameters = .empty) :
    TargetsFound settings operation (plan.query operation projection) projection.fragment.render
      .nodeDelete := by
  have bound := get?_query hplan hflat (by decide)
  obtain ⟨key, hkey, rfl⟩ := nodeDelete_eq_ok hplan
  obtain ⟨wanted, hwanted, -, htext⟩ := render_nodeDeleteBy hkey projection.fragment
  obtain ⟨hparent, -, supplied⟩ := Operation.types_of_wanted? distinct hwanted
  have read : wanted.reading (suppliedEntries operation.arguments ++ operation.pageEntries) =
      wanted.reading operation.pageEntries := by
    simp only [Wanted.reading, Bag.last?_append, supplied]
    cases last? wanted.key operation.pageEntries <;> rfl
  have root : ((nodeDeleteBy operation key.name).query operation
      projection).parameters.toJson.at? wanted.path =
        (operation.override? wanted.key).or (some wanted.value) := by
    rw [← supplied, Wanted.path, hparent]
    simp [bound, Operation.argumentEntries]
  have plain : ∀ p ∈ wanted.parent, Cypher.isPlain p = true := by simp [hparent]
  rw [read] at htext
  refine ⟨wanted, _, hwanted, ?_, htext⟩
  -- The clause is chosen by what stands under the key behind pagination, and reads what stands there
  -- at the end; the request-wide map comes in between.
  cases hoverride : operation.override? wanted.key with
  | none =>
    obtain ⟨-, unpaged⟩ := Option.or_eq_none_iff.mp hoverride
    rw [hoverride] at root
    have own : wanted.reading operation.pageEntries = wanted := by simp [Wanted.reading, unpaged]
    rw [own]
    exact Wanted.foundBy_clause plain root
  | some other =>
    rw [hoverride] at root
    have path : (wanted.reading operation.pageEntries).path = wanted.path := rfl
    exact Wanted.reads_clause plain (path ▸ root)

/-- An end of a relationship is found by the value supplied for its key, inside its argument. -/
theorem foundBy_end {argumentName typeName : String} {wanted : Wanted}
    (distinct : (operation.arguments.map Argument.name).Nodup)
    (hname : argumentName = "from" ∨ argumentName = "to")
    (hkind : kind = .relationshipCreate ∨ kind = .relationshipDelete)
    (hplan : (Synthesizer.mk settings Projection.flat fresh).planned kind operation = .ok plan)
    (hflat : projection.parameters = .empty)
    (hwanted : operation.wantedEnd? argumentName typeName = some wanted) :
    wanted.FoundBy (plan.query operation projection).parameters.toJson wanted.clause := by
  obtain ⟨argument, members, hargument, hobject, hparent, hmember⟩ :=
    Operation.exists_members_of_wantedEnd? hwanted
  have supplied : last? argumentName (suppliedEntries operation.arguments) =
      some (.object members) := by
    rw [Parameters.last?_suppliedEntries distinct, hargument]
    exact hobject
  have free : Cypher.isPlain argumentName = true ∧ argumentName ≠ "data" ∧
      operation.override? argumentName = none := by
    rcases hname with rfl | rfl <;> exact ⟨by decide, by decide,
      Operation.override?_of_ne (by decide) (by decide) (by decide)⟩
  have given : last? argumentName (operation.argumentEntries settings fresh kind) =
      some (.object members) := by
    rcases hkind with rfl | rfl
    · refine (Bag.last?_map (fun name value =>
        if name = "data" then operation.dataForm value else value) _ _).trans ?_
      simp [supplied, free.2.1]
    · exact supplied
  have bound : (plan.query operation projection).parameters.get? argumentName =
      some (.object members) := by
    rw [get?_query hplan hflat (by rcases hkind with rfl | rfl <;> decide), free.2.2, given]
    rfl
  refine Wanted.foundBy_clause (by simpa [hparent] using free.1) ?_
  simp [Wanted.path, hparent, bound, Json.at?, hmember]

/-- Both ends of a relationship are found by the values supplied for their keys. -/
theorem endsFound {link : Link} {wanted wanted' : Wanted}
    (distinct : (operation.arguments.map Argument.name).Nodup)
    (hkind : kind = .relationshipCreate ∨ kind = .relationshipDelete)
    (hplan : (Synthesizer.mk settings Projection.flat fresh).planned kind operation = .ok plan)
    (hflat : projection.parameters = .empty) (hlink : operation.link? settings = some link)
    (hwanted : operation.wantedEnd? "from" link.sourceType = some wanted)
    (hwanted' : operation.wantedEnd? "to" link.targetType = some wanted')
    {form : Link → Wanted → Wanted → String → String}
    (htext : (plan.statement projection.fragment).render =
      form link wanted wanted' (wanted.clause ++ "\n" ++ wanted'.clause)) :
    EndsFound settings operation form (plan.query operation projection) :=
  ⟨link, wanted, wanted.clause, wanted', wanted'.clause, hlink, hwanted,
    foundBy_end distinct (.inl rfl) hkind hplan hflat hwanted, hwanted',
    foundBy_end distinct (.inr rfl) hkind hplan hflat hwanted', htext⟩

end Plan

namespace Synthesizer

/-- Every node that a mutation updates, deletes or links is found by the value supplied for its key,
except that a deletion reads pagination or the request-wide map if its key has the name of one that is
bound. -/
theorem targets_found (settings : Settings) (fresh : Json) {kind : Kind} {operation : Operation}
    {query : Query} (distinct : (operation.arguments.map Argument.name).Nodup)
    (h : ((Synthesizer.mk settings Projection.flat fresh).synthesizeAs kind operation).result =
      .ok query) :
    ∃ projection,
      (Synthesizer.mk settings Projection.flat fresh).Answered kind operation projection ∧
      TargetsFound settings operation query projection.fragment.render kind := by
  obtain ⟨plan, projection, hplan, hprojection, rfl⟩ := synthesizeAs_eq_ok h
  have hflat := Projection.parameters_flat hprojection
  refine ⟨projection, answered hplan hprojection, ?_⟩
  cases kind with
  | nodeUpdate => exact Plan.targetsFound_nodeUpdate distinct hplan hflat
  | nodeDelete => exact Plan.targetsFound_nodeDelete distinct hplan hflat
  | relationshipCreate =>
    obtain ⟨link, source, target, hends, hcreate⟩ := Plan.relationshipCreate_eq_ok hplan
    obtain ⟨hlink, wanted, wanted', hwanted, hwanted', htext⟩ :=
      Plan.render_relationshipCreateBetween hends projection.fragment
    rw [← hcreate] at htext
    exact Plan.endsFound distinct (.inl rfl) hplan hflat hlink hwanted hwanted' htext
  | relationshipDelete =>
    obtain ⟨link, source, target, hends, hdelete⟩ := Plan.relationshipDelete_eq_ok hplan
    obtain ⟨hlink, wanted, wanted', hwanted, hwanted', htext⟩ :=
      Plan.render_relationshipDeleteBetween hends projection.fragment
    rw [← hdelete] at htext
    exact Plan.endsFound distinct (.inr rfl) hplan hflat hlink hwanted hwanted' htext
  | customQuery | nodeQuery | customMutation | nodeCreate => trivial

/-- A deletion of a film by the given key, from a request for a first page. -/
def removal (key : Argument) (cypherParams : Option Bag) : Operation :=
  { Operation.new .mutation "DeleteMovie" "Movie" with
    arguments := [key]
    selections := [⟨"title", none, []⟩]
    first := some 5
    cypherParams := cypherParams }

/-- A film is deleted by its date and a link removed by that of one of its ends, and the date that is
compared is the one supplied. -/
theorem targets_found_removal :
    (let released : Json := .object [("year", .ofInt 1999), ("month", .null), ("day", .ofInt 31)]
    let operation := removal ⟨"released", .named "_Neo4jDateInput", some released⟩
      (some { entries := [("user", .string "u")] })
    (operation.arguments.map Argument.name).Nodup ∧
    ∃ query, ((Synthesizer.mk .default Projection.flat .null).synthesizeAs .nodeDelete
        operation).result = .ok query ∧
      query.text = "MATCH (movie:Movie) WHERE movie.released.year = $released.year AND " ++
        "movie.released.day = $released.day\n" ++
        "WITH movie AS movie_toDelete, movie \x7b.title\x7d AS movie\n" ++
        "DETACH DELETE movie_toDelete\nRETURN movie" ∧
      query.parameters.entries = [("released", released), ("first", .ofInt 5),
        ("cypherParams", .object [("user", .string "u")])] ∧
      ∃ projection, (Synthesizer.mk .default Projection.flat .null).Answered .nodeDelete operation
          projection ∧
        TargetsFound .default operation query projection.fragment.render .nodeDelete) ∧
    (let born : Json := .object [("year", .ofInt 1964), ("month", .null)]
    let operation := parting born
    (operation.arguments.map Argument.name).Nodup ∧
    ∃ query, ((Synthesizer.mk .default Projection.flat .null).synthesizeAs .relationshipDelete
        operation).result = .ok query ∧
      query.text = "MATCH (person_from:Person) WHERE person_from.born.year = $from.born.year\n" ++
        "MATCH (role_to:Role \x7bid: $to.id\x7d)\n" ++
        "OPTIONAL MATCH (person_from)-[person_fromrole_to:PLAYS_ROLE]->(role_to)\n" ++
        "DELETE person_fromrole_to\n" ++
        "WITH COUNT(*) AS scope, person_from AS _person_from, role_to AS _role_to\n" ++
        "RETURN \x7bfrom: _person_from \x7b.name\x7d\x7d AS _RemovePersonRolesPayload" ∧
      query.parameters.entries = [("from", .object [("born", born)]),
        ("to", .object [("id", .string "r1")])] ∧
      ∃ projection, (Synthesizer.mk .default Projection.flat .null).Answered .relationshipDelete
          operation projection ∧
        TargetsFound .default operation query projection.fragment.render .relationshipDelete) := by
  refine ⟨?node, ?link⟩
  case node =>
    intro released operation
    have distinct : (operation.arguments.map Argument.name).Nodup := by decide
    exact ⟨distinct, _, rfl, by decide +kernel, rfl, targets_found .default .null distinct rfl⟩
  case link =>
    intro born operation
    have distinct : (operation.arguments.map Argument.name).Nodup := by decide
    exact ⟨distinct, _, rfl, by decide +kernel, rfl, targets_found .default .null distinct rfl⟩

/-- With a key called `first` the page size is compared in place of the key, and with a key called
`cypherParams` the map of the request is. -/
theorem removal_replaced_key :
    (∃ query, ((Synthesizer.mk .default Projection.flat .null).synthesizeAs .nodeDelete
        (removal ⟨"first", .required "ID", some (.string "m1")⟩ none)).result = .ok query ∧
      query.text = "MATCH (movie:Movie \x7bfirst: $first\x7d)\n" ++
        "WITH movie AS movie_toDelete, movie \x7b.title\x7d AS movie\n" ++
        "DETACH DELETE movie_toDelete\nRETURN movie" ∧
      query.parameters.entries = [("first", .ofInt 5)]) ∧
    ∃ query, ((Synthesizer.mk .default Projection.flat .null).synthesizeAs .nodeDelete
        (removal ⟨"cypherParams", .required "ID", some (.string "m1")⟩
          (some { entries := [("user", .string "u")] }))).result = .ok query ∧
      query.text = "MATCH (movie:Movie \x7bcypherParams: $cypherParams\x7d)\n" ++
        "WITH movie AS movie_toDelete, movie \x7b.title\x7d AS movie\n" ++
        "DETACH DELETE movie_toDelete\nRETURN movie" ∧
      query.parameters.entries =
        [("cypherParams", .object [("user", .string "u")]), ("first", .ofInt 5)] := by
  refine ⟨⟨_, rfl, ?_, rfl⟩, _, rfl, ?_, rfl⟩
  · decide +kernel
  · decide +kernel

end Synthesizer

end CypherSynthesis
