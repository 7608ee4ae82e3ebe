import CypherSynthesis.Proofs.WrittenProperties

/-!
An update spares its key and loses nothing. The key of a node is taken out of what is supplied before
the rest is written, and put back behind it when the rest is in write form. So the clause that sets
properties has one for each other argument that is supplied, while the map that is bound has all of
them, with the key as it was given: the node is still found by it.
-/

namespace CypherSynthesis

/-- The query sets what is supplied but for the key, and binds all of it, the key unchanged and
last. -/
structure Query.Updates (query : Query) (operation : Operation) (projection : Projection)
    (key : Argument) (value : Json) (others : List Argument) (properties : List String) : Prop where
  text : query.text = operation.updateText properties projection.fragment.render
    (Wanted.clause ⟨operation.variableName, operation.typeName, key.name, some "params", [key.type],
      value⟩)
  assigns : List.Forall₂ (Assigns "params") properties
    ((others.filter Argument.isSupplied).map Argument.name)
  spares : ∀ text ∈ properties, ¬ Mentions "params" text key.name
  sets_nothing_iff : properties = [] ↔ ∀ argument ∈ others, argument.value = none
  binds : query.BindsMap projection "params"
    (others.filterMap Argument.boundEntry? ++ [(key.name, value)])

section

variable {operation : Operation} {key : Argument} {rest : List Argument} {properties : List String}
  (distinct : (operation.arguments.map Argument.name).Nodup)
  (harguments : operation.arguments = key :: rest)

include distinct harguments

/-- Every argument is declared, so each that is supplied has a text of its own. -/
theorem Writing.assigns_ofUpdate {bound : List (String × Json)}
    (prepared : (Writing.ofUpdate operation rest).Prepared properties bound) :
    List.Forall₂ (Assigns "params") properties
        ((rest.filter Argument.isSupplied).map Argument.name) ∧
      bound = rest.filterMap Argument.boundEntry? := by
  have among : rest ⊆ operation.arguments := by simp [harguments]
  have plain : Cypher.isPlain "params" = true := by decide
  have declared : ∀ name ∈ (Parameters.suppliedEntries rest).map Prod.fst,
      name ∈ operation.typed.map Prod.fst := by
    intro name hname
    rw [operation.names_typed]
    exact List.map_subset _ among ((Parameters.suppliedEntries_sublist rest).subset hname)
  have assigned := prepared.assigns plain declared
  have values := prepared.bound_eq (Operation.nodup_typed distinct)
  rw [Writing.ofUpdate] at assigned values
  rw [Parameters.names_suppliedEntries] at assigned
  exact ⟨assigned, values.trans (Parameters.written_suppliedEntries distinct among)⟩

theorem key_not_mem_others :
    key.name ∉ (rest.filter Argument.isSupplied).map Argument.name := by
  rw [harguments] at distinct
  intro hkey
  obtain ⟨other, hother, hname⟩ := List.mem_map.mp hkey
  refine (List.nodup_cons.mp distinct).1 ?_
  rw [← hname]
  exact List.mem_map_of_mem (List.mem_filter.mp hother).1

end

/-- As many properties are set as arguments are supplied. -/
theorem sets_nothing_iff_of_assigns {properties : List String} {others : List Argument}
    (h : List.Forall₂ (Assigns "params") properties
      ((others.filter Argument.isSupplied).map Argument.name)) :
    properties = [] ↔ ∀ argument ∈ others, argument.value = none := by
  have lengths := h.length_eq
  rw [List.length_map] at lengths
  rw [← List.length_eq_zero_iff, lengths, List.length_eq_zero_iff, List.filter_eq_nil_iff]
  simp [Argument.isSupplied]

namespace Synthesizer

/-- An update never sets its key and loses nothing: it sets the other arguments that are supplied, in
their order, and binds them and the key, which is neither converted nor left out. -/
theorem update_spares_key (synthesizer : Synthesizer) {operation : Operation} {query : Query}
    (distinct : (operation.arguments.map Argument.name).Nodup)
    (h : (synthesizer.synthesizeAs .nodeUpdate operation).result = .ok query) :
    ∃ projection, synthesizer.Answered .nodeUpdate operation projection ∧
      ∃ key rest value properties, operation.arguments = key :: rest ∧ key.value = some value ∧
        query.Updates operation projection key value rest properties := by
  obtain ⟨plan, projection, hplan, hprojection, rfl⟩ := synthesizeAs_eq_ok h
  refine ⟨projection, answered hplan hprojection, ?_⟩
  obtain ⟨first, rest, value, properties, bound, harguments, hvalue, prepared, text, binds⟩ :=
    Plan.nodeUpdate_writes distinct hplan projection
  obtain ⟨assigned, rfl⟩ := Writing.assigns_ofUpdate distinct harguments prepared
  have spared := not_mentions_of_assigns assigned (key_not_mem_others distinct harguments)
  exact ⟨first, rest, value, properties, harguments, hvalue,
    ⟨text, assigned, spared, sets_nothing_iff_of_assigns assigned, binds⟩⟩

/-- A screening that is found by its day and moved to another hour, with its note taken away. -/
def movedScreening : Operation :=
  { Operation.new .mutation "UpdateScreening" "Screening" with
    arguments := [
      ⟨"day", .required "_Neo4jDateInput", some (.object [("year", .ofInt 1999), ("month", .null)])⟩,
      ⟨"note", .named "String", some .null⟩, ⟨"hall", .named "Int", none⟩,
      ⟨"hour", .named "_Neo4jTimeInput", some (.object [("hour", .ofInt 20), ("minute", .null)])⟩]
    selections := [⟨"hall", none, []⟩] }

theorem update_spares_key_movedScreening :
    let synthesizer : Synthesizer := ⟨.default, Projection.flat, .null⟩
    (movedScreening.arguments.map Argument.name).Nodup ∧
    ∃ query, (synthesizer.synthesizeAs .nodeUpdate movedScreening).result = .ok query ∧
      query.text = "MATCH (screening:Screening) WHERE screening.day.year = $params.day.year\n" ++
        "SET screening += \x7bnote:$params.note, hour: time($params.hour)\x7d\n" ++
        "RETURN screening \x7b.hall\x7d AS screening" ∧
      query.parameters.get? "params" = some (.object [("note", .null),
        ("hour", .object [("hour", .ofInt 20)]),
        ("day", .object [("year", .ofInt 1999), ("month", .null)])]) ∧
      ∃ projection, synthesizer.Answered .nodeUpdate movedScreening projection ∧
        ∃ key rest value properties, movedScreening.arguments = key :: rest ∧
          key.value = some value ∧
          query.Updates movedScreening projection key value rest properties := by
  intro synthesizer
  have distinct : (movedScreening.arguments.map Argument.name).Nodup := by decide
  exact ⟨distinct, _, rfl, by decide +kernel, rfl, synthesizer.update_spares_key distinct rfl⟩

end Synthesizer

end CypherSynthesis
