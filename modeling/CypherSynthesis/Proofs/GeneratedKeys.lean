import CypherSynthesis.Proofs.Failure
import CypherSynthesis.Proofs.WrittenProperties

/-!
Keys are generated where they are needed and nowhere else. A new node needs a key if its first
argument of the id type is not supplied. Such a key is one more property of the node: it is bound and
written behind all that is supplied, and leaves the rest of the map as it is without it.
-/

namespace CypherSynthesis

/-- One key is generated if it is needed, and otherwise none. -/
def Outcome.GeneratesIf (outcome : Outcome) (needed : Prop) : Prop :=
  outcome.keysGenerated ≤ 1 ∧ (outcome.keysGenerated = 1 ↔ needed)

/-- A generated key as it is bound. The id type may itself be a temporal one. -/
def Synthesizer.boundKey (synthesizer : Synthesizer) : Json :=
  if (TypeRef.named synthesizer.settings.idType).timed?.isSome then synthesizer.fresh.asWritten
  else synthesizer.fresh

/-- The query binds the given entries for a new node, and behind them a generated key if the node
needs one. The last property is then the only one that has to do with the key. -/
structure Query.Keyed (query : Query) (synthesizer : Synthesizer) (operation : Operation)
    (projection : Projection) (entries : List (String × Json)) : Prop where
  kept : ¬ NeedsKey synthesizer.settings operation .nodeCreate →
    query.BindsMap projection "params" entries
  added : ∀ argument,
    operation.arguments.find? (·.type.name = synthesizer.settings.idType) = some argument →
    (∀ other ∈ operation.arguments, other.name = argument.name → other.value = none) →
    query.BindsMap projection "params" (entries ++ [(argument.name, synthesizer.boundKey)]) ∧
    ∃ before text,
      query.text = operation.creationText (before ++ [text]) projection.fragment.render ∧
      List.Forall₂ (Assigns "params") before (entries.map Prod.fst) ∧
      Assigns "params" text argument.name ∧
      ∀ other ∈ before, ¬ Mentions "params" other argument.name

namespace Operation

open Parameters (suppliedEntries)

variable {settings : Settings} {operation : Operation}

theorem createdEntries_of_not_needed (fresh : Json)
    (h : ¬ NeedsKey settings operation .nodeCreate) :
    operation.createdEntries settings.idType fresh = suppliedEntries operation.arguments := by
  rw [← operation.isSome_unsupplied?_iff, Option.not_isSome_iff_eq_none] at h
  rw [createdEntries, h]
  exact List.append_nil _

theorem createdEntries_of_needed (fresh : Json) {argument : Argument}
    (first : operation.arguments.find? (·.type.name = settings.idType) = some argument)
    (missing : ∀ other ∈ operation.arguments, other.name = argument.name → other.value = none) :
    argument.name ∉ (suppliedEntries operation.arguments).map Prod.fst ∧
      operation.createdEntries settings.idType fresh =
        suppliedEntries operation.arguments ++ [(argument.name, fresh)] := by
  have needed : operation.unsupplied? settings.idType = some argument.name := by
    rw [unsupplied?, first]
    refine if_neg ?_
    simpa using missing
  refine ⟨not_mem_of_unsupplied? needed, ?_⟩
  rw [createdEntries, needed]
  rfl

end Operation

namespace Plan

open Parameters

variable {synthesizer : Synthesizer} {operation : Operation}

theorem written_key {argument : Argument}
    (distinct : (operation.arguments.map Argument.name).Nodup)
    (first : operation.arguments.find? (·.type.name = synthesizer.settings.idType) = some argument) :
    Assignment.written operation.typed argument.name synthesizer.fresh =
      synthesizer.boundKey := by
  have declared : (argument.name, argument.type) ∈ operation.typed :=
    List.mem_map_of_mem (List.mem_of_find?_eq_some first)
  have type : argument.type.name = synthesizer.settings.idType := by
    simpa using List.find?_some first
  unfold Assignment.written Synthesizer.boundKey
  rw [find?_declaration (Operation.nodup_typed distinct) declared, Option.any_some,
    TypeRef.timed?, TypeRef.timed?, type]
  rfl

/-- The entries of a new node but for a generated key. -/
theorem nodeCreate_keyed {plan : Plan} (distinct : (operation.arguments.map Argument.name).Nodup)
    (hplan : synthesizer.planned .nodeCreate operation = .ok plan) (projection : Projection) :
    (plan.query operation projection).Keyed synthesizer operation projection
      (operation.arguments.filterMap Argument.boundEntry?) := by
  obtain ⟨properties, bound, prepared, text, binds⟩ := nodeCreate_writes distinct hplan projection
  have values := prepared.bound_eq (Operation.nodup_typed distinct)
  have supplies := written_suppliedEntries distinct (List.Subset.refl operation.arguments)
  refine ⟨fun unneeded => ?_, fun argument first missing => ?_⟩
  · rw [Writing.ofCreation, Operation.createdEntries_of_not_needed _ unneeded] at values
    exact (values.trans supplies) ▸ binds
  · obtain ⟨hnew, created⟩ := Operation.createdEntries_of_needed synthesizer.fresh first missing
    have plain : Cypher.isPlain "params" = true := by decide
    have declared : ∀ name ∈ (operation.createdEntries synthesizer.settings.idType
        synthesizer.fresh).map Prod.fst, name ∈ operation.typed.map Prod.fst := by
      intro name hname
      rw [created, List.map_append, List.mem_append] at hname
      rw [operation.names_typed]
      rcases hname with hname | hname
      · exact (suppliedEntries_sublist operation.arguments).subset hname
      · rw [List.mem_singleton.mp hname]
        exact List.mem_map_of_mem (List.mem_of_find?_eq_some first)
    have assigned := prepared.assigns plain declared
    rw [Writing.ofCreation, created, List.map_append] at values assigned
    have keyed : bound = operation.arguments.filterMap Argument.boundEntry? ++
        [(argument.name, synthesizer.boundKey)] := by
      rw [values, supplies, ← written_key distinct first]
      rfl
    -- The key is the last entry, so the last text is its own.
    have front := List.forall₂_take_append _ _ _ assigned
    obtain ⟨last, rest, hlast, hrest, back⟩ :=
      List.forall₂_cons_right_iff.mp (List.forall₂_drop_append _ _ _ assigned)
    obtain rfl := List.forall₂_nil_right_iff.mp hrest
    refine ⟨keyed ▸ binds, _, last, ?_, ?_, hlast, not_mentions_of_assigns front hnew⟩
    · rw [text, ← back, List.take_append_drop]
    · rw [names_boundEntries, ← names_suppliedEntries]
      exact front

end Plan

namespace Synthesizer

theorem synthesizeAs_generatesIf (synthesizer : Synthesizer) (kind : Kind) (operation : Operation) :
    (synthesizer.synthesizeAs kind operation).GeneratesIf
      (NeedsKey synthesizer.settings operation kind) := by
  have follows := synthesizer.synthesizeAs_follows kind operation
  by_cases needed : NeedsKey synthesizer.settings operation kind
  · have one := follows.generates needed
    exact ⟨by omega, fun _ => needed, fun _ => one⟩
  · have zero := follows.generatesNone needed
    exact ⟨by omega, fun one => by omega, fun h => absurd h needed⟩

theorem synthesize_generatesIf (synthesizer : Synthesizer) (operation : Operation) :
    (synthesizer.synthesize operation).GeneratesIf
      (∃ kind, Kind.classify operation synthesizer.settings.customDirective = .ok kind ∧
        NeedsKey synthesizer.settings operation kind) := by
  rw [synthesize_eq]
  cases Kind.classify operation synthesizer.settings.customDirective with
  | error e => exact ⟨by simp, by simp⟩
  | ok kind =>
    obtain ⟨most, exactly⟩ := synthesizer.synthesizeAs_generatesIf kind operation
    refine ⟨most, exactly.trans ?_⟩
    simp

/-- Keys are generated exactly when needed, whatever the kind and whether or not the synthesis
succeeds. Among arguments with different names a generated key is bound behind those that are
supplied, and their entries are the same under all settings and for all keys, generated or not. -/
theorem keys_generated_when_needed (operation : Operation) :
    (∀ (synthesizer : Synthesizer) (kind : Kind),
      (synthesizer.synthesizeAs kind operation).GeneratesIf
        (NeedsKey synthesizer.settings operation kind)) ∧
    (∀ synthesizer : Synthesizer, (synthesizer.synthesize operation).GeneratesIf
      (∃ kind, Kind.classify operation synthesizer.settings.customDirective = .ok kind ∧
        NeedsKey synthesizer.settings operation kind)) ∧
    ((operation.arguments.map Argument.name).Nodup →
      (operation.arguments.filterMap Argument.boundEntry?).map Prod.fst =
        (operation.arguments.filter Argument.isSupplied).map Argument.name ∧
      ∀ (synthesizer : Synthesizer) (query : Query),
        (synthesizer.synthesizeAs .nodeCreate operation).result = .ok query →
        ∃ projection, synthesizer.Answered .nodeCreate operation projection ∧
          query.Keyed synthesizer operation projection
            (operation.arguments.filterMap Argument.boundEntry?)) := by
  refine ⟨fun synthesizer kind => synthesizer.synthesizeAs_generatesIf kind operation,
    fun synthesizer => synthesizer.synthesize_generatesIf operation, fun distinct => ⟨?_, ?_⟩⟩
  · exact Parameters.names_boundEntries operation.arguments
  · intro synthesizer query h
    obtain ⟨plan, projection, hplan, hprojection, rfl⟩ := synthesizeAs_eq_ok h
    exact ⟨projection, answered hplan hprojection, Plan.nodeCreate_keyed distinct hplan projection⟩

/-- A new film without a key. Its title is supplied as null. -/
def newFilm : Operation :=
  { Operation.new .mutation "CreateMovie" "Movie" with
    arguments := [⟨"id", .named "ID", none⟩, ⟨"title", .named "String", some .null⟩,
      ⟨"released", .named "_Neo4jDateInput", some (.object [("formatted", .string "1999-03-31")])⟩,
      ⟨"sequel", .named "ID", none⟩]
    selections := [⟨"id", none, []⟩] }

theorem keys_generated_when_needed_newFilm :
    let synthesizer : Synthesizer := ⟨.default, Projection.flat, .string "k1"⟩
    (newFilm.arguments.map Argument.name).Nodup ∧
    NeedsKey .default newFilm .nodeCreate ∧
    ∃ query, (synthesizer.synthesizeAs .nodeCreate newFilm).result = .ok query ∧
      query.text = "CREATE (movie:Movie \x7btitle:$params.title, released: date($params.released), " ++
        "id:$params.id\x7d)\nRETURN movie \x7b.id\x7d AS movie" ∧
      query.parameters.get? "params" = some (.object [("title", .null),
        ("released", .string "1999-03-31"), ("id", .string "k1")]) ∧
      ∃ projection, synthesizer.Answered .nodeCreate newFilm projection ∧
        query.Keyed synthesizer newFilm projection
          (newFilm.arguments.filterMap Argument.boundEntry?) := by
  intro synthesizer
  have distinct : (newFilm.arguments.map Argument.name).Nodup := by decide
  obtain ⟨-, -, created⟩ := keys_generated_when_needed newFilm
  exact ⟨distinct, ⟨_, rfl, by decide⟩, _, rfl, by decide +kernel, rfl,
    (created distinct).2 synthesizer _ rfl⟩

end Synthesizer

end CypherSynthesis
