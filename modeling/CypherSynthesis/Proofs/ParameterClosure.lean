import CypherSynthesis.Proofs.Injection
import CypherSynthesis.Proofs.Resolution

/-!
Every parameter of a statement is bound. If the arguments have different names and none that is
supplied has a name of the synthesizer's own, then each reference in the text of a query leads to a
value in the parameters of the query.
-/

namespace CypherSynthesis

open Cypher (Fragment Piece)
open Cypher.Fragment (Resolves resolves_listed resolves_braced)

namespace Projection

theorem resolves_leaf {root : Json} (node : String) (bare : Bool) (selection : Selection) :
    Resolves root (leaf node bare selection) := by
  unfold leaf
  split
  · simp
  · split <;> simp

theorem resolves_entry {root : Json} {request : SelectionRequest} {selection : Selection}
    {fragment : Fragment} (hok : entry request selection = .ok fragment) :
    Resolves root fragment := by
  unfold entry at hok
  split at hok
  · rw [← Except.ok.inj hok]
    exact resolves_leaf _ _ selection
  · split at hok
    · obtain ⟨fields, hfields, hfragment⟩ := exists_of_bind_eq_ok hok
      obtain ⟨part, rfl, hpart⟩ := exists_map_of_mapM hfields
      have listed : Resolves root
          (Fragment.listed ((projected selection.selections).map part)).braced := by
        refine resolves_braced (resolves_listed fun field hfield => ?_)
        obtain ⟨s, hs, rfl⟩ := List.mem_map.mp hfield
        have hs := hpart s hs
        unfold endpointField at hs
        split at hs
        · rw [← Except.ok.inj hs]
          exact resolves_leaf _ _ s
        · cases hs
      rw [← Except.ok.inj hfragment]
      simpa using listed
    · cases hok

/-- A flat projection reads no parameters and brings none. -/
theorem resolves_flat {root : Json} {request : SelectionRequest} {projection : Projection}
    (hok : flat request = .ok projection) :
    Resolves root projection.fragment ∧ projection.parameters = .empty := by
  obtain ⟨entries, hentries, hprojection⟩ := exists_of_bind_eq_ok hok
  obtain ⟨part, rfl, hpart⟩ := exists_map_of_mapM hentries
  obtain rfl := Except.ok.inj hprojection
  refine ⟨resolves_listed fun field hfield => ?_, rfl⟩
  obtain ⟨s, hs, rfl⟩ := List.mem_map.mp hfield
  exact resolves_entry (hpart s hs)

end Projection

namespace Plan

/-- The parameters of a plan's query, if its projection brings none. -/
def bindings (plan : Plan) (operation : Operation) : Bag :=
  Parameters.finish plan.parameters .empty operation.globals?

theorem at?_bindings {plan : Plan} {operation : Operation} {key : String} (rest : List String)
    (h : key ≠ Parameters.globalsKey) :
    (plan.bindings operation).toJson.at? (key :: rest) =
      plan.parameters.toJson.at? (key :: rest) := by
  rw [Json.at?_toJson, bindings, Parameters.get?_finish h]
  rfl

theorem isSome_at?_bindings {plan : Plan} (operation : Operation) {key : String}
    (h : (plan.parameters.get? key).isSome = true) :
    ((plan.bindings operation).toJson.at? [key]).isSome = true := by
  simpa [bindings] using Parameters.isSome_get?_finish operation.globals? h

end Plan

/-- No supplied argument has a reserved name. -/
def Operation.AvoidsReserved (operation : Operation) : Prop :=
  ∀ argument ∈ operation.arguments, argument.isSupplied = true →
    argument.name ∉ Parameters.reserved

namespace Plan

variable {operation : Operation}

/-- Pagination is bound, if the parameters of the plan include it. -/
theorem paging_boundIn {plan : Plan} {bag : Bag}
    (h : ∀ key, ((Parameters.insertPagination bag operation).get? key).isSome = true →
      (plan.parameters.get? key).isSome = true) :
    Paging.BoundIn (plan.bindings operation).toJson operation where
  first hfirst := isSome_at?_bindings operation (h _ (Parameters.isSome_get?_first hfirst))
  offset hoffset := isSome_at?_bindings operation (h _ (Parameters.isSome_get?_offset hoffset))

/-- Every parameter of a plan is a parameter of its query, next to the request-wide map. -/
theorem argumentsIn_bindings (plan : Plan) :
    ArgumentsIn (plan.bindings operation).toJson operation plan.parameters where
  keys key hkey := by
    obtain ⟨value, hvalue⟩ := Bag.mem_keys_iff.mp hkey
    exact isSome_at?_bindings operation (by simp [hvalue])
  globals h := by simpa [bindings] using Parameters.isSome_get?_globals h

theorem nodeQuery_closed (avoids : operation.AvoidsReserved) {projection : Fragment}
    (h : Resolves ((nodeQuery operation).bindings operation).toJson projection) :
    Resolves ((nodeQuery operation).bindings operation).toJson
      ((nodeQuery operation).statement projection) := by
  have kept (key : String) (hsome : ((Parameters.insertPagination
      (Filter.ofArguments operation.arguments).values operation).get? key).isSome = true) :
      ((nodeQuery operation).parameters.get? key).isSome = true := by
    simp only [nodeQuery, nodeQueryParameters]
    cases operation.internalId <;> grind [Bag.get?_insert]
  refine resolves_nodeQuery ?_ (fun hid => ?_) (paging_boundIn kept) h
  · intro key value hvalue
    obtain ⟨argument, hmem, hsupplied, rfl⟩ :=
      Filter.mem_keys_values (Bag.mem_keys_iff.mpr ⟨value, hvalue⟩)
    obtain ⟨hfirst, hoffset, hid, hglobals⟩ :=
      Parameters.not_mem_reserved.mp (avoids argument hmem hsupplied)
    have given : (Filter.ofArguments operation.arguments).values.get? argument.name = some value :=
      hvalue
    have found : (nodeQueryParameters operation).get? argument.name = some value := by
      unfold nodeQueryParameters
      cases operation.internalId <;>
        simp [hid, Parameters.get?_insertPagination hfirst hoffset, given]
    exact (at?_bindings [] hglobals).trans (by simpa [nodeQuery] using found)
  · obtain ⟨id, hid⟩ := Option.isSome_iff_exists.mp hid
    exact isSome_at?_bindings operation (by simp [nodeQuery, nodeQueryParameters, hid])

theorem nodeCreateWith_closed (values : Bag) {projection : Fragment}
    (h : Resolves ((nodeCreateWith operation values).bindings operation).toJson projection) :
    Resolves ((nodeCreateWith operation values).bindings operation).toJson
      ((nodeCreateWith operation values).statement projection) := by
  refine resolves_nodeCreateWith h fun key hkey => ?_
  rw [at?_bindings [key] (by decide), Json.at?_toJson]
  simp only [nodeCreateWith, Parameters.get?_nested, Option.bind_some]
  rw [Json.at?_toJson, Bag.get?_mapValues]
  obtain ⟨value, hvalue⟩ := Bag.mem_keys_iff.mp hkey
  simp [hvalue]

theorem not_mem_reserved_key {key : Argument} (avoids : operation.AvoidsReserved)
    (hkey : keyArgument operation = .ok key) : key.name ∉ Parameters.reserved := by
  obtain ⟨rest, value, harguments, hvalue, -⟩ := keyArgument_eq_ok hkey
  exact avoids key (by simp [harguments]) (by simp [Argument.isSupplied, hvalue])

/-- An updated node's map has the entry of the key as it is, and the other entries in write form. -/
theorem at?_nodeUpdateBy (key k : String) :
    ((nodeUpdateBy operation key).bindings operation).toJson.at? [Parameters.paramsKey, k] =
      ((Parameters.split (Parameters.supplied operation.arguments) key).1.get? k).or
        (((Parameters.split (Parameters.supplied operation.arguments) key).2.mapValues
          (Assignment.stored operation.declarations)).get? k) := by
  rw [at?_bindings [k] (by decide), Json.at?_toJson]
  simp only [nodeUpdateBy, Parameters.get?_nested, Option.bind_some]
  rw [Json.at?_toJson, Bag.get?_insertAll (Bag.nodup_keys _)]
  simp [Bag.get?]

theorem nodeUpdateBy_closed {key : Argument}
    (distinct : (operation.arguments.map Argument.name).Nodup)
    (hkey : keyArgument operation = .ok key) {projection : Fragment}
    (h : Resolves ((nodeUpdateBy operation key.name).bindings operation).toJson projection) :
    Resolves ((nodeUpdateBy operation key.name).bindings operation).toJson
      ((nodeUpdateBy operation key.name).statement projection) := by
  refine resolves_nodeUpdateBy h (resolves_keyMatch ?_ ?_) fun k hk => ?_
  · intro k value hvalue
    refine (at?_nodeUpdateBy key.name k).trans ?_
    rw [Bag.get?, hvalue, Option.some_or]
  · obtain ⟨rest, value, -, hvalue, -⟩ := keyArgument_eq_ok hkey
    simp [Parameters.get?_split_entry, get?_supplied_key distinct hkey, hvalue]
  · rw [at?_nodeUpdateBy, Bag.get?_mapValues]
    obtain ⟨value, hvalue⟩ := Bag.mem_keys_iff.mp hk
    simp [hvalue]

theorem nodeDeleteBy_closed {key : Argument}
    (distinct : (operation.arguments.map Argument.name).Nodup)
    (avoids : operation.AvoidsReserved)
    (hkey : keyArgument operation = .ok key) {projection : Fragment}
    (h : Resolves ((nodeDeleteBy operation key.name).bindings operation).toJson projection) :
    Resolves ((nodeDeleteBy operation key.name).bindings operation).toJson
      ((nodeDeleteBy operation key.name).statement projection) := by
  obtain ⟨hfirst, hoffset, -, hglobals⟩ :=
    Parameters.not_mem_reserved.mp (not_mem_reserved_key avoids hkey)
  refine resolves_nodeDeleteBy h (resolves_keyMatch ?_ ?_)
  · intro k value hvalue
    rw [← Bag.get?, Parameters.get?_split_entry] at hvalue
    split at hvalue
    · rename_i hk
      subst hk
      exact (at?_bindings [] hglobals).trans (by simpa [nodeDeleteBy] using hvalue)
    · cases hvalue
  · obtain ⟨rest, value, -, hvalue, -⟩ := keyArgument_eq_ok hkey
    simp [Parameters.get?_split_entry, Parameters.ofMutation,
      Parameters.get?_insertPagination hfirst hoffset, get?_supplied_key distinct hkey, hvalue]

/-- The values of an end are bound under its argument. -/
theorem Endpoint.Given.get?_ofMutation {e : Endpoint} {typeName : String} {argument : Argument}
    {type : TypeRef} {value : Json} (given : e.Given operation typeName argument type value)
    (distinct : (operation.arguments.map Argument.name).Nodup)
    (free : e.argument ∉ Parameters.reserved) :
    (Parameters.ofMutation operation).get? e.argument = some (.object e.values) := by
  obtain ⟨hfirst, hoffset, -, -⟩ := Parameters.not_mem_reserved.mp free
  rw [Parameters.ofMutation, Parameters.get?_insertPagination hfirst hoffset,
    Parameters.get?_supplied distinct]
  have found : operation.arguments.find? (fun a => a.name = e.argument) = some argument :=
    given.found
  rw [found]
  exact given.object

theorem Endpoint.Given.closed {e : Endpoint} {typeName : String} {argument : Argument}
    {type : TypeRef} {value : Json} (given : e.Given operation typeName argument type value)
    {plan : Plan} (free : e.argument ∉ Parameters.reserved)
    (bound : plan.parameters.get? e.argument = some (.object e.values)) :
    Resolves (plan.bindings operation).toJson e.matchClause := by
  obtain ⟨-, -, -, hglobals⟩ := Parameters.not_mem_reserved.mp free
  refine resolves_matchClause (fun key value hvalue => ?_) (by simp [given.supplied])
  refine (at?_bindings [key] hglobals).trans ?_
  rw [Json.at?_toJson, bound]
  simp [Json.at?, hvalue]

/-- An end of a relationship is named by the synthesizer, not by the request. -/
theorem endpoint_not_mem_reserved {argumentName typeName : String} {e : Endpoint}
    (h : endpoint operation argumentName typeName = .ok e)
    (hname : argumentName = Projection.sourceField ∨ argumentName = Projection.targetField) :
    e.argument ∉ Parameters.reserved ∧ e.argument ≠ Parameters.dataKey := by
  rw [(endpoint_eq_ok h).1]
  rcases hname with rfl | rfl <;> decide

theorem relationshipCreateBetween_closed {link : Link} {source target : Endpoint}
    (distinct : (operation.arguments.map Argument.name).Nodup)
    (hsource : endpoint operation Projection.sourceField link.sourceType = .ok source)
    (htarget : endpoint operation Projection.targetField link.targetType = .ok target)
    {projection : Fragment}
    (h : Resolves ((relationshipCreateBetween operation link source target).bindings
      operation).toJson projection) :
    Resolves ((relationshipCreateBetween operation link source target).bindings operation).toJson
      ((relationshipCreateBetween operation link source target).statement projection) := by
  have ends {argumentName typeName : String} {e : Endpoint}
      (he : endpoint operation argumentName typeName = .ok e)
      (hname : argumentName = Projection.sourceField ∨ argumentName = Projection.targetField) :
      Resolves ((relationshipCreateBetween operation link source target).bindings
        operation).toJson e.matchClause := by
    obtain ⟨free, hdata⟩ := endpoint_not_mem_reserved he hname
    obtain ⟨-, argument, type, value, given⟩ := endpoint_eq_ok he
    refine given.closed free ?_
    have bound := given.get?_ofMutation distinct free
    simp only [relationshipCreateBetween]
    rcases relationshipData_cases operation (Parameters.ofMutation operation) with
      hnone | ⟨_, _, _, _, hsome⟩
    · rw [hnone, bound]
    · rw [hsome]
      simp [hdata, bound]
  refine resolves_relationshipCreateBetween h (ends hsource (.inl rfl)) (ends htarget (.inr rfl)) ?_
  rcases relationshipData_cases operation (Parameters.ofMutation operation) with
    hnone | ⟨argument, members, -, -, hsome⟩
  · rw [hnone]
    exact resolves_listed fun part hpart => by cases hpart
  · rw [hsome]
    refine Assignment.resolves_listed argument.type.fields fun key hkey => ?_
    rw [at?_bindings [key] (by decide), Json.at?_toJson]
    simp only [relationshipCreateBetween, hsome, Bag.get?_insert, if_true, Option.bind_some]
    obtain ⟨value, hvalue⟩ := Option.isSome_iff_exists.mp ((Bag.isSome_find? key members).mpr hkey)
    simp [Json.at?, Bag.find?_mapEntries, hvalue]

theorem relationshipDeleteBetween_closed {link : Link} {source target : Endpoint}
    (distinct : (operation.arguments.map Argument.name).Nodup)
    (hsource : endpoint operation Projection.sourceField link.sourceType = .ok source)
    (htarget : endpoint operation Projection.targetField link.targetType = .ok target)
    {projection : Fragment}
    (h : Resolves ((relationshipDeleteBetween operation link source target).bindings
      operation).toJson projection) :
    Resolves ((relationshipDeleteBetween operation link source target).bindings operation).toJson
      ((relationshipDeleteBetween operation link source target).statement projection) := by
  have ends {argumentName typeName : String} {e : Endpoint}
      (he : endpoint operation argumentName typeName = .ok e)
      (hname : argumentName = Projection.sourceField ∨ argumentName = Projection.targetField) :
      Resolves ((relationshipDeleteBetween operation link source target).bindings
        operation).toJson e.matchClause := by
    obtain ⟨free, -⟩ := endpoint_not_mem_reserved he hname
    obtain ⟨-, argument, type, value, given⟩ := endpoint_eq_ok he
    exact given.closed free (given.get?_ofMutation distinct free)
  exact resolves_relationshipDeleteBetween h (ends hsource (.inl rfl)) (ends htarget (.inr rfl))

end Plan

namespace Synthesizer

/-- The statement of a plan resolves in the parameters of its query. -/
theorem plan_closed {settings : Settings} {fresh : Json} {kind : Kind} {operation : Operation}
    {plan : Plan} (distinct : (operation.arguments.map Argument.name).Nodup)
    (avoids : operation.AvoidsReserved)
    (hplan : (Synthesizer.mk settings Projection.flat fresh).planned kind operation = .ok plan)
    {projection : Fragment} (h : Resolves (plan.bindings operation).toJson projection) :
    Resolves (plan.bindings operation).toJson (plan.statement projection) := by
  cases kind with
  | nodeQuery =>
    obtain rfl := Except.ok.inj hplan
    exact Plan.nodeQuery_closed avoids h
  | customQuery =>
    obtain ⟨statement, -, rfl⟩ := Plan.customQuery_eq_ok hplan
    exact Plan.resolves_customQueryOf statement h (Plan.argumentsIn_bindings _)
      (Plan.paging_boundIn fun _ h => h)
  | customMutation =>
    obtain ⟨statement, -, rfl⟩ := Plan.customMutation_eq_ok hplan
    exact Plan.resolves_customMutationOf statement h (Plan.argumentsIn_bindings _)
      (Plan.paging_boundIn fun _ h => h)
  | nodeCreate =>
    rw [planned_nodeCreate] at hplan
    obtain rfl := Except.ok.inj hplan
    exact Plan.nodeCreateWith_closed _ h
  | nodeUpdate =>
    obtain ⟨key, hkey, rfl⟩ := Plan.nodeUpdate_eq_ok hplan
    exact Plan.nodeUpdateBy_closed distinct hkey h
  | nodeDelete =>
    obtain ⟨key, hkey, rfl⟩ := Plan.nodeDelete_eq_ok hplan
    exact Plan.nodeDeleteBy_closed distinct avoids hkey h
  | relationshipCreate =>
    obtain ⟨link, source, target, hends, rfl⟩ := Plan.relationshipCreate_eq_ok hplan
    obtain ⟨-, hsource, htarget⟩ := Plan.endpoints_eq_ok hends
    exact Plan.relationshipCreateBetween_closed distinct hsource htarget h
  | relationshipDelete =>
    obtain ⟨link, source, target, hends, rfl⟩ := Plan.relationshipDelete_eq_ok hplan
    obtain ⟨-, hsource, htarget⟩ := Plan.endpoints_eq_ok hends
    exact Plan.relationshipDeleteBetween_closed distinct hsource htarget h

/-- The references in the text of a query are the parameters of its statement. -/
theorem references_text (settings : Settings) (fresh : Json) (kind : Kind)
    (operation : Operation) {query : Query}
    (h : ((Synthesizer.mk settings Projection.flat fresh).synthesizeAs kind operation).result =
      .ok query) :
    query.statement.isSpaced .closed = true ∧ ∃ tokens, Cypher.lex query.text = some tokens ∧
      Cypher.references tokens = query.statement.params := by
  obtain ⟨plan, projection, hplan, hflat, rfl⟩ := synthesizeAs_eq_ok h
  obtain ⟨template, -, spelled⟩ := exists_template hplan hflat
  exact ⟨spelled.spaced, _, Fragment.lex_render spelled.spaced,
    Fragment.references_tokens spelled.spaced⟩

/-- Every reference in the text of a query leads to a value in its parameters. -/
theorem references_resolve (settings : Settings) (fresh : Json) (kind : Kind)
    {operation : Operation} {query : Query}
    (distinct : (operation.arguments.map Argument.name).Nodup)
    (avoids : operation.AvoidsReserved)
    (h : ((Synthesizer.mk settings Projection.flat fresh).synthesizeAs kind operation).result =
      .ok query) :
    ∃ tokens, Cypher.lex query.text = some tokens ∧
      ∀ path ∈ Cypher.references tokens,
        path ≠ [] ∧ (query.parameters.toJson.at? path).isSome = true := by
  obtain ⟨spaced, tokens, hlex, hreferences⟩ := references_text settings fresh kind operation h
  refine ⟨tokens, hlex, fun path hpath => ?_⟩
  rw [hreferences] at hpath
  refine ⟨Fragment.ne_nil_of_mem_params spaced hpath, ?_⟩
  obtain ⟨plan, projection, hplan, hflat, rfl⟩ := synthesizeAs_eq_ok h
  obtain ⟨inside, hempty⟩ := Projection.resolves_flat hflat
  have closed := plan_closed distinct avoids hplan inside
  simpa [Plan.query, hempty, Plan.bindings] using closed path (Fragment.mem_params.mp hpath)

/-- A user, known by a birthday, rates a film. -/
def ratedFilm : Operation :=
  { Operation.new .mutation "AddUserRated" "_AddUserRatedPayload" with
    arguments :=
      [⟨"from", .input "_UserInput" [("born", .named "_Neo4jDateInput")],
        some (.object [("born", .object [("year", .ofInt 1980), ("day", .null)])])⟩,
       ⟨"to", .input "_MovieInput" [("id", .required "ID")], some (.object [("id", .string "m")])⟩,
       ⟨"data", .input "_RatedInput" [("stars", .named "Int")],
        some (.object [("stars", .ofInt 5)])⟩]
    directives := [⟨"MutationMeta", { entries :=
      [("relationship", .string "RATED"), ("from", .string "User"), ("to", .string "Movie")] }⟩] }

theorem references_resolve_ratedFilm :
    (ratedFilm.arguments.map Argument.name).Nodup ∧ ratedFilm.AvoidsReserved ∧
      ∃ query, ((Synthesizer.mk .default Projection.flat .null).synthesizeAs .relationshipCreate
          ratedFilm).result = .ok query ∧
        query.text = "MATCH (user_from:User) WHERE user_from.born.year = $from.born.year\n" ++
          "MATCH (movie_to:Movie \x7bid: $to.id\x7d)\n" ++
          "CREATE (user_from)-[rated_relation:RATED \x7bstars:$data.stars\x7d]->(movie_to)\n" ++
          "RETURN rated_relation \x7b  \x7d AS _AddUserRatedPayload" ∧
        query.parameters.entries =
          [("from", .object [("born", .object [("year", .ofInt 1980), ("day", .null)])]),
            ("to", .object [("id", .string "m")]), ("data", .object [("stars", .ofInt 5)])] ∧
        ∃ tokens, Cypher.lex query.text = some tokens ∧
          Cypher.references tokens = [["from", "born", "year"], ["to", "id"], ["data", "stars"]] ∧
          ∀ path ∈ Cypher.references tokens,
            path ≠ [] ∧ (query.parameters.toJson.at? path).isSome = true := by
  have distinct : (ratedFilm.arguments.map Argument.name).Nodup := by decide
  have avoids : ratedFilm.AvoidsReserved := by
    unfold Operation.AvoidsReserved
    decide
  obtain ⟨tokens, hlex, hresolve⟩ :=
    references_resolve .default .null .relationshipCreate distinct avoids rfl
  obtain ⟨-, tokens', hlex', hreferences⟩ :=
    references_text .default .null .relationshipCreate ratedFilm rfl
  obtain rfl : tokens = tokens' := Option.some.inj (hlex.symm.trans hlex')
  exact ⟨distinct, avoids, _, rfl, by decide +kernel, rfl, tokens, hlex, hreferences, hresolve⟩

end Synthesizer

end CypherSynthesis
