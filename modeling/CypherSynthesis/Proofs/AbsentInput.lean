import CypherSynthesis.Proofs.Failure
import CypherSynthesis.Proofs.TargetMatch

/-!
Absent input is inert. Declaring an argument without supplying it, or supplying request-wide
parameters that hold nothing, changes neither the query nor the error. A plan reads declarations
under the names of supplied values only, so one that has no value is never looked at; the key of an
update or deletion and the key to be generated are the exceptions, as they are told by their place
and their type.
-/

namespace CypherSynthesis

open Cypher (Fragment)

namespace Operation

/-- The padded operation declares more arguments than the operation, without values, and may have an
empty request-wide map where the operation has none. The first argument of an update or deletion is
its key, and the first one of the id type gets a generated key in a creation, so neither is added. -/
inductive Padding (settings : Settings) (kind : Kind) (operation : Operation) :
    (padded : Operation) → Prop where
  | refl : Padding settings kind operation operation
  | argument {padded : Operation} {before after : List Argument} {argument : Argument}
    (padding : Padding settings kind operation padded)
    (place : padded.arguments = before ++ after)
    (absent : argument.value = none)
    (new : argument.name ∉ padded.arguments.map Argument.name)
    (notKey : kind = .nodeUpdate ∨ kind = .nodeDelete → before ≠ [])
    (notGenerated : kind = .nodeCreate → argument.type.name ≠ settings.idType) :
    Padding settings kind operation { padded with arguments := before ++ argument :: after }
  | globals {padded : Operation}
    (padding : Padding settings kind operation padded) (absent : padded.cypherParams = none) :
    Padding settings kind operation { padded with cypherParams := some .empty }

theorem Padding.fieldName_eq {settings : Settings} {kind : Kind} {operation padded : Operation}
    (padding : operation.Padding settings kind padded) : padded.fieldName = operation.fieldName := by
  induction padding with
  | refl => rfl
  | argument _ _ _ _ _ _ ih => exact ih
  | globals _ _ ih => exact ih

theorem Padding.classify_eq {settings : Settings} {kind : Kind} {operation padded : Operation}
    (padding : operation.Padding settings kind padded) (directive : String) :
    Kind.classify padded directive = Kind.classify operation directive := by
  induction padding with
  | refl => rfl
  | argument _ _ _ _ _ _ ih => exact ih
  | globals _ _ ih => exact ih

end Operation

section Declared

variable (before after : List Argument) {argument : Argument} {key : String}

theorem Parameters.supplied_of_absent (absent : argument.value = none) :
    supplied (before ++ argument :: after) = supplied (before ++ after) := by
  simp [supplied, absent]

theorem Filter.ofArguments_of_absent (absent : argument.value = none) :
    ofArguments (before ++ argument :: after) = ofArguments (before ++ after) := by
  simp [ofArguments, add, absent]

theorem Argument.find?_of_ne (h : key ≠ argument.name) :
    (before ++ argument :: after).find? (·.name = key) =
      (before ++ after).find? (·.name = key) := by
  simp [List.find?_append, h.symm]

theorem Assignment.typeOf?_of_ne (h : key ≠ argument.name) :
    typeOf? ((before ++ argument :: after).map Argument.declaration) key =
      typeOf? ((before ++ after).map Argument.declaration) key := by
  simp [typeOf?, List.find?_append, Argument.declaration, h.symm]

theorem Temporal.any_of_ne (h : key ≠ argument.name) :
    (declared ((before ++ argument :: after).map Argument.declaration)).any (·.name = key) =
      (declared ((before ++ after).map Argument.declaration)).any (·.name = key) := by
  cases hkind : argument.type.temporalKind? with
  | none => simp [declared, Argument.declaration, hkind]
  | some kind => simp [declared, Argument.declaration, hkind, h.symm]

/-- A declaration is compared only if it has a value. -/
theorem Predicate.temporal_of_absent {values : Bag} (absent : argument.name ∉ values.keys)
    (parent : Option String) :
    temporal values.entries
        (Temporal.declared ((before ++ argument :: after).map Argument.declaration)) parent =
      temporal values.entries
        (Temporal.declared ((before ++ after).map Argument.declaration)) parent := by
  have none : Bag.find? argument.name values.entries = none := Bag.find?_eq_none absent
  cases hkind : argument.type.temporalKind? with
  | none => simp [Temporal.declared, Argument.declaration, hkind]
  | some kind => simp [Temporal.declared, Argument.declaration, hkind, temporal, ofTemporal, none]

/-- The argument that needs a generated key is found by its type. -/
theorem Parameters.keyToGenerate?_of_ne {idType : String} (h : argument.type.name ≠ idType)
    (values : Bag) :
    keyToGenerate? (before ++ argument :: after) idType values =
      keyToGenerate? (before ++ after) idType values := by
  simp [keyToGenerate?, List.find?_append, h]

end Declared

namespace Parameters

theorem mem_names_of_mem_supplied {arguments : List Argument} {key : String}
    (h : key ∈ (supplied arguments).keys) : key ∈ arguments.map Argument.name := by
  rw [supplied_eq_ofList, Bag.keys_ofList, Bag.names, List.mem_eraseDups] at h
  obtain ⟨argument, hmem, rfl, -⟩ := mem_names_suppliedEntries.mp h
  exact List.mem_map_of_mem hmem

/-- A generated key is for a declared argument. -/
theorem mem_names_of_mem_created {settings : Settings} {fresh : Json} {operation : Operation}
    {key : String} (h : key ∈ (created settings fresh operation).keys) :
    key ∈ operation.arguments.map Argument.name := by
  unfold created at h
  split at h
  · rename_i name hname
    rcases Bag.mem_keys_insert.mp h with rfl | h
    · obtain ⟨argument, hfound, hnew⟩ := Option.bind_eq_some_iff.mp hname
      have hkey : argument.name = key := by grind
      exact hkey ▸ List.mem_map_of_mem (List.mem_of_find?_eq_some hfound)
    · exact mem_names_of_mem_supplied h
  · exact mem_names_of_mem_supplied h

end Parameters

namespace Plan

theorem relationshipData_of_unbound {operation : Operation} {bag : Bag}
    (h : bag.get? Parameters.dataKey = none) : relationshipData operation bag = ([], bag) := by
  rw [relationshipData, h]
  split <;> simp_all

variable {operation : Operation} {before after : List Argument} {argument : Argument}
  (place : operation.arguments = before ++ after) (absent : argument.value = none)
  (new : argument.name ∉ operation.arguments.map Argument.name)

include place absent new

theorem nodeQuery_of_absent :
    nodeQuery { operation with arguments := before ++ argument :: after } = nodeQuery operation := by
  have unread : argument.name ∉ (Filter.ofArguments (before ++ after)).values.keys := by
    intro hkey
    obtain ⟨a, ha, -, hname⟩ := Filter.mem_keys_values hkey
    exact new (place ▸ hname ▸ List.mem_map_of_mem ha)
  have inlined : (Filter.ofArguments (before ++ after)).inlineKeys
        (Temporal.declared ((before ++ argument :: after).map Argument.declaration)) =
      (Filter.ofArguments (before ++ after)).inlineKeys
        (Temporal.declared ((before ++ after).map Argument.declaration)) :=
    Filter.inlineKeys_congr fun key hkey => Temporal.any_of_ne _ _ fun he => unread (he ▸ hkey)
  simp only [nodeQuery, nodeQueryParameters, Parameters.insertPagination, Operation.declarations,
    place, Filter.ofArguments_of_absent before after absent, inlined, Filter.conditions,
    Conditions.withTemporal, Predicate.temporal_of_absent before after unread none,
    Paging.skipLimit]

omit new in
theorem created_of_absent {settings : Settings} (fresh : Json)
    (notGenerated : argument.type.name ≠ settings.idType) :
    Parameters.created settings fresh { operation with arguments := before ++ argument :: after } =
      Parameters.created settings fresh operation := by
  simp only [Parameters.created, place, Parameters.supplied_of_absent before after absent,
    Parameters.keyToGenerate?_of_ne before after notGenerated]

omit absent new in
theorem nodeCreateWith_of_absent {values : Bag} (unread : argument.name ∉ values.keys) :
    nodeCreateWith { operation with arguments := before ++ argument :: after } values =
      nodeCreateWith operation values := by
  have typed (key : String) (hkey : key ∈ values.keys) :
      Assignment.typeOf? ((before ++ argument :: after).map Argument.declaration) key =
        Assignment.typeOf? ((before ++ after).map Argument.declaration) key :=
    Assignment.typeOf?_of_ne _ _ fun he => unread (he ▸ hkey)
  have stored := Bag.mapValues_congr fun key hkey => Assignment.stored_congr (typed key hkey)
  simp only [nodeCreateWith, Parameters.nested, Parameters.insertPagination,
    Operation.declarations, place, Assignment.all_congr typed, stored]

omit absent new in
theorem keyArgument_of_place (notKey : before ≠ []) :
    keyArgument { operation with arguments := before ++ argument :: after } =
      keyArgument operation := by
  cases before with
  | nil => exact absurd rfl notKey
  | cons key before => simp only [keyArgument, place, List.cons_append]

omit absent new in
theorem keyMatch_of_absent {key : String} (hkey : key ≠ argument.name) (values : Bag)
    (parent : Option String) :
    keyMatch { operation with arguments := before ++ argument :: after } key
        (Parameters.split values key).1 parent =
      keyMatch operation key (Parameters.split values key).1 parent := by
  have unread : argument.name ∉ (Parameters.split values key).1.keys := by
    rw [Bag.mem_keys_iff, Parameters.get?_split_other values hkey.symm]
    simp
  simp only [keyMatch, Conditions.withTemporal, Operation.declarations, place,
    Predicate.temporal_of_absent before after unread parent]

theorem nodeUpdateBy_of_absent {key : String} (hkey : key ≠ argument.name) :
    nodeUpdateBy { operation with arguments := before ++ argument :: after } key =
      nodeUpdateBy operation key := by
  have clause := keyMatch_of_absent place hkey (Parameters.supplied (before ++ after))
    (some Parameters.paramsKey)
  have typed (k : String)
      (hk : k ∈ (Parameters.split (Parameters.supplied (before ++ after)) key).2.keys) :
      Assignment.typeOf? ((before ++ argument :: after).map Argument.declaration) k =
        Assignment.typeOf? ((before ++ after).map Argument.declaration) k := by
    refine Assignment.typeOf?_of_ne _ _ fun he => new (place ▸ he ▸ ?_)
    exact Parameters.mem_names_of_mem_supplied (Bag.mem_keys_of_filter hk)
  simp only [nodeUpdateBy, Parameters.nested, Parameters.insertPagination, place, clause,
    Parameters.supplied_of_absent before after absent]
  have stored := Bag.mapValues_congr fun k hk => Assignment.stored_congr (typed k hk)
  simp only [Operation.declarations, place, Assignment.all_congr typed, stored]

omit new in
theorem ofMutation_of_absent :
    Parameters.ofMutation { operation with arguments := before ++ argument :: after } =
      Parameters.ofMutation operation := by
  simp only [Parameters.ofMutation, Parameters.insertPagination, place,
    Parameters.supplied_of_absent before after absent]

omit new in
theorem nodeDeleteBy_of_absent {key : String} (hkey : key ≠ argument.name) :
    nodeDeleteBy { operation with arguments := before ++ argument :: after } key =
      nodeDeleteBy operation key := by
  simp only [nodeDeleteBy, ofMutation_of_absent place absent,
    keyMatch_of_absent place hkey (Parameters.ofMutation operation) none]

omit new in
theorem customQueryOf_of_absent (statement : String) :
    customQueryOf { operation with arguments := before ++ argument :: after } statement =
      customQueryOf operation statement := by
  simp only [customQueryOf, Parameters.insertPagination, place,
    Filter.ofArguments_of_absent before after absent]
  rfl

omit new in
theorem customMutationOf_of_absent (statement : String) :
    customMutationOf { operation with arguments := before ++ argument :: after } statement =
      customMutationOf operation statement := by
  simp only [customMutationOf, ofMutation_of_absent place absent]
  rfl

omit absent new in
theorem argument?_of_ne {name : String} (h : name ≠ argument.name) :
    Operation.argument? { operation with arguments := before ++ argument :: after } name =
      operation.argument? name := by
  simp only [Operation.argument?, place, Argument.find?_of_ne before after h]

omit absent in
/-- Nothing else is found under the name of a new argument. -/
theorem argument?_new :
    operation.argument? argument.name = none ∧
      Operation.argument? { operation with arguments := before ++ argument :: after } argument.name =
        some argument := by
  have undeclared : operation.argument? argument.name = none := by
    simp only [Operation.argument?, List.find?_eq_none, decide_eq_true_eq]
    exact fun a ha hname => new (hname ▸ List.mem_map_of_mem ha)
  have inFront : before.find? (·.name = argument.name) = none := by
    rw [Operation.argument?, place, List.find?_append, Option.or_eq_none_iff] at undeclared
    exact undeclared.1
  refine ⟨undeclared, ?_⟩
  simp [Operation.argument?, List.find?_append, inFront]

/-- An end that is declared and not supplied is missing like one that is not declared. -/
theorem endpoint_of_absent (argumentName typeName : String) :
    endpoint { operation with arguments := before ++ argument :: after } argumentName typeName =
      endpoint operation argumentName typeName := by
  by_cases h : argumentName = argument.name
  · subst h
    obtain ⟨undeclared, declared⟩ := argument?_new place new
    simp only [endpoint, undeclared, declared, absent]
  · simp only [endpoint, argument?_of_ne place h]

theorem endpoints_of_absent (settings : Settings) :
    endpoints settings { operation with arguments := before ++ argument :: after } =
      endpoints settings operation := by
  have resolved : Link.resolve { operation with arguments := before ++ argument :: after }
      settings.linkDirective = Link.resolve operation settings.linkDirective := rfl
  simp only [endpoints, resolved, endpoint_of_absent place absent new]

omit absent in
/-- Nor does a relationship get properties from data that is not supplied. -/
theorem relationshipData_of_absent :
    relationshipData { operation with arguments := before ++ argument :: after }
        (Parameters.ofMutation operation) =
      relationshipData operation (Parameters.ofMutation operation) := by
  by_cases h : Parameters.dataKey = argument.name
  · have unbound : (Parameters.ofMutation operation).get? Parameters.dataKey = none := by
      rw [Parameters.ofMutation, Parameters.get?_insertPagination (by decide) (by decide)]
      exact Bag.find?_eq_none fun hkey => new (h ▸ Parameters.mem_names_of_mem_supplied hkey)
    rw [relationshipData_of_unbound unbound, relationshipData_of_unbound unbound]
  · simp only [relationshipData, argument?_of_ne place h]

theorem relationshipCreateBetween_of_absent (link : Link) (source target : Endpoint) :
    relationshipCreateBetween { operation with arguments := before ++ argument :: after } link source
        target =
      relationshipCreateBetween operation link source target := by
  simp only [relationshipCreateBetween, ofMutation_of_absent place absent,
    relationshipData_of_absent place new]
  rfl

omit new in
theorem relationshipDeleteBetween_of_absent (link : Link) (source target : Endpoint) :
    relationshipDeleteBetween { operation with arguments := before ++ argument :: after } link source
        target =
      relationshipDeleteBetween operation link source target := by
  simp only [relationshipDeleteBetween, ofMutation_of_absent place absent]
  rfl

end Plan

namespace Synthesizer

/-- A new argument without a value does not change the plan, unless its place or type does. -/
theorem planned_of_absent (synthesizer : Synthesizer) {kind : Kind} {operation : Operation}
    {before after : List Argument} {argument : Argument}
    (place : operation.arguments = before ++ after) (absent : argument.value = none)
    (new : argument.name ∉ operation.arguments.map Argument.name)
    (notKey : kind = .nodeUpdate ∨ kind = .nodeDelete → before ≠ [])
    (notGenerated : kind = .nodeCreate → argument.type.name ≠ synthesizer.settings.idType) :
    synthesizer.planned kind { operation with arguments := before ++ argument :: after } =
      synthesizer.planned kind operation := by
  have declared {key : Argument} (hkey : Plan.keyArgument operation = .ok key) :
      key.name ≠ argument.name := by
    obtain ⟨rest, value, harguments, -⟩ := Plan.keyArgument_eq_ok hkey
    intro he
    exact new (by simp [harguments, ← he])
  -- A plan that can fail takes its first step as before, so the second starts from the same.
  cases kind with
  | nodeQuery => exact congrArg Except.ok (Plan.nodeQuery_of_absent place absent new)
  | nodeCreate =>
    rw [planned_nodeCreate, planned_nodeCreate,
      Plan.created_of_absent place absent _ (notGenerated rfl)]
    exact congrArg Except.ok (Plan.nodeCreateWith_of_absent place
      fun hkey => new (Parameters.mem_names_of_mem_created hkey))
  | customQuery =>
    exact bind_congr_ok rfl fun statement _ =>
      congrArg Except.ok (Plan.customQueryOf_of_absent place absent statement)
  | customMutation =>
    exact bind_congr_ok rfl fun statement _ =>
      congrArg Except.ok (Plan.customMutationOf_of_absent place absent statement)
  | nodeUpdate =>
    exact bind_congr_ok (Plan.keyArgument_of_place place (notKey (.inl rfl))) fun key hkey =>
      congrArg Except.ok (Plan.nodeUpdateBy_of_absent place absent new (declared hkey))
  | nodeDelete =>
    exact bind_congr_ok (Plan.keyArgument_of_place place (notKey (.inr rfl))) fun key hkey =>
      congrArg Except.ok (Plan.nodeDeleteBy_of_absent place absent (declared hkey))
  | relationshipCreate =>
    exact bind_congr_ok (Plan.endpoints_of_absent place absent new _) fun (link, source, target) _ =>
      congrArg Except.ok
        (Plan.relationshipCreateBetween_of_absent place absent new link source target)
  | relationshipDelete =>
    exact bind_congr_ok (Plan.endpoints_of_absent place absent new _) fun (link, source, target) _ =>
      congrArg Except.ok (Plan.relationshipDeleteBetween_of_absent place absent link source target)

/-- Nor does it get a key. -/
theorem generatedFor?_of_absent (synthesizer : Synthesizer) {kind : Kind} {operation : Operation}
    {before after : List Argument} {argument : Argument}
    (place : operation.arguments = before ++ after) (absent : argument.value = none)
    (notGenerated : kind = .nodeCreate → argument.type.name ≠ synthesizer.settings.idType) :
    synthesizer.generatedFor? kind { operation with arguments := before ++ argument :: after } =
      synthesizer.generatedFor? kind operation := by
  unfold generatedFor?
  split
  · simp only [place, Parameters.supplied_of_absent before after absent,
      Parameters.keyToGenerate?_of_ne before after (notGenerated rfl)]
  · rfl

/-- Of an operation, synthesis reads its plan, its selections, its type, its request-wide parameters
and its name. -/
theorem synthesizeAs_congr {synthesizer : Synthesizer} {kind : Kind} {a b : Operation}
    (plan : synthesizer.planned kind a = synthesizer.planned kind b)
    (generated : synthesizer.generatedFor? kind a = synthesizer.generatedFor? kind b)
    (selections : a.selections = b.selections) (schemaType : a.schemaType = b.schemaType)
    (globals : a.globals? = b.globals?) (fieldName : a.fieldName = b.fieldName) :
    synthesizer.synthesizeAs kind a = synthesizer.synthesizeAs kind b := by
  simp only [synthesizeAs_eq, plan, generated, Plan.request, Plan.query, queryRecords, selections,
    schemaType, globals, fieldName]

/-- A plan reads of the request-wide parameters only whether there are any. -/
theorem planned_of_globals (synthesizer : Synthesizer) (kind : Kind) {operation : Operation}
    {globals : Option Bag}
    (same : Operation.globals? { operation with cypherParams := globals } = operation.globals?) :
    synthesizer.planned kind { operation with cypherParams := globals } =
      synthesizer.planned kind operation := by
  have arguments (bag : Bag) (empty : String) :
      Plan.customArguments { operation with cypherParams := globals } bag empty =
        Plan.customArguments operation bag empty := by
    simp only [Plan.customArguments, same]
  cases kind with
  | customQuery =>
    refine bind_congr_ok rfl fun statement _ => congrArg Except.ok ?_
    simp only [Plan.customQueryOf, arguments]
    rfl
  | customMutation =>
    refine bind_congr_ok rfl fun statement _ => congrArg Except.ok ?_
    simp only [Plan.customMutationOf, arguments]
    rfl
  | nodeQuery | nodeCreate | nodeUpdate | nodeDelete | relationshipCreate | relationshipDelete => rfl

/-- One absent input more changes nothing, so no number of them does. -/
theorem synthesizeAs_padded (synthesizer : Synthesizer) {kind : Kind} {operation padded : Operation}
    (padding : operation.Padding synthesizer.settings kind padded) :
    synthesizer.synthesizeAs kind padded = synthesizer.synthesizeAs kind operation := by
  induction padding with
  | refl => rfl
  | argument _ place absent new notKey notGenerated ih =>
    have plan := planned_of_absent synthesizer place absent new notKey notGenerated
    have generated := generatedFor?_of_absent synthesizer place absent notGenerated
    exact (synthesizeAs_congr plan generated rfl rfl rfl rfl).trans ih
  | @globals padded _ absent ih =>
    have globals : Operation.globals? { padded with cypherParams := some .empty } =
        padded.globals? := by
      simp [Operation.globals?, absent, Bag.isEmpty, Bag.empty]
    have plan := planned_of_globals synthesizer kind globals
    exact (synthesizeAs_congr plan rfl rfl rfl globals rfl).trans ih

/-- Whatever is padded, the query or the error stays the same, and with it all that is done on the
way. -/
theorem absent_input_inert (synthesizer : Synthesizer) {kind : Kind} {operation padded : Operation}
    (padding : operation.Padding synthesizer.settings kind padded) :
    synthesizer.synthesizeAs kind padded = synthesizer.synthesizeAs kind operation ∧
      ((∀ k, Kind.classify operation synthesizer.settings.customDirective = .ok k → k = kind) →
        synthesizer.synthesize padded = synthesizer.synthesize operation) := by
  have same := synthesizeAs_padded synthesizer padding
  have fieldName := padding.fieldName_eq
  refine ⟨same, fun classified => ?_⟩
  simp only [synthesize_eq, padding.classify_eq]
  cases hkind : Kind.classify operation synthesizer.settings.customDirective with
  | error e => rfl
  | ok k =>
    obtain rfl := classified k hkind
    simp only [same, classifiedRecord, fieldName]

/-- A new title for a film. Its date may be declared, and is not supplied. -/
def retitledFilm (declared : List Argument) (globals : Option Bag) : Operation :=
  { Operation.new .mutation "UpdateMovie" "Movie" with
    selections := [⟨"title", none, []⟩]
    arguments := ⟨"id", .required "ID", some (.string "m1")⟩ :: (declared ++
      [⟨"title", .named "String", some (.string "Heat")⟩])
    cypherParams := globals }

theorem absent_input_inert_retitledFilm :
    let synthesizer : Synthesizer := ⟨.default, Projection.flat, .null⟩
    let released : Argument := ⟨"released", .named "_Neo4jDateInput", none⟩
    (retitledFilm [] none).Padding .default .nodeUpdate (retitledFilm [released] (some .empty)) ∧
      Kind.classify (retitledFilm [] none) Settings.default.customDirective = .ok .nodeUpdate ∧
      synthesizer.synthesizeAs .nodeUpdate (retitledFilm [released] (some .empty)) =
        synthesizer.synthesizeAs .nodeUpdate (retitledFilm [] none) ∧
      synthesizer.synthesize (retitledFilm [released] (some .empty)) =
        synthesizer.synthesize (retitledFilm [] none) := by
  intro synthesizer released
  have padding : (retitledFilm [] none).Padding .default .nodeUpdate
      (retitledFilm [released] (some .empty)) := by
    have place : (retitledFilm [] none).arguments = [⟨"id", .required "ID", some (.string "m1")⟩] ++
        [⟨"title", .named "String", some (.string "Heat")⟩] := rfl
    refine .globals (.argument .refl place rfl ?_ ?_ ?_) rfl
    · decide
    · exact fun _ => List.cons_ne_nil _ _
    · exact fun h => nomatch h
  have classified : Kind.classify (retitledFilm [] none) Settings.default.customDirective =
      .ok .nodeUpdate := rfl
  obtain ⟨same, sameKind⟩ := absent_input_inert synthesizer padding
  exact ⟨padding, classified, same, sameKind fun k hk => Except.ok.inj (hk.symm.trans classified)⟩

end Synthesizer

end CypherSynthesis
