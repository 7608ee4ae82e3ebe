import CypherSynthesis.Proofs.EntryList
import CypherSynthesis.Proofs.ResponseKeys

/-!
What rows are sorted by. A query returns the projection of a node under the name of the node, so the
variable in a sort key stands for the projected map, no longer for the node. Main statement: a sort
key denotes the property of its name if and only if the field of that name is selected, under its own
name, and no other field has the name as its key.
-/

namespace CypherSynthesis

open Cypher (Fragment Token Lookup entryKey?)

/-- In a map with these entries, projected from the variable `base`, the name stands for the
property of that name: an entry has it as its key, and only entries that look up the property do. -/
def Cypher.Denotes (base : String) (entries : List (List Token)) (name : String) : Prop :=
  (∃ entry ∈ entries, entryKey? entry = some name) ∧
    ∀ entry ∈ entries, entryKey? entry = some name →
      Lookup.read? (some (.word base)) entry = some ⟨name, base, name⟩

instance (base : String) (entries : List (List Token)) (name : String) :
    Decidable (Cypher.Denotes base entries name) :=
  inferInstanceAs (Decidable (_ ∧ _))

namespace Operation

/-- Some projected field has the name as its response key, and each that has is the property of that
name; the internal id is no property. -/
def SelectsProperty (operation : Operation) (name : String) : Prop :=
  (∃ selection ∈ Projection.projected operation.selections, selection.responseKey = name) ∧
    ∀ selection ∈ Projection.projected operation.selections, selection.responseKey = name →
      selection.name = name ∧ name ≠ Projection.internalIdField

instance (operation : Operation) (name : String) : Decidable (operation.SelectsProperty name) :=
  inferInstanceAs (Decidable (_ ∧ _))

/-- The end of a query's tokens: the node is projected and returned under its own name, the rows are
sorted by the variable's entries, and they are paged. -/
def returned (operation : Operation) (body : List Token) : List Token :=
  let node := Cypher.sanitize operation.variableName
  let rows := Template.Rows.ofOperation operation
  [.word "RETURN", .word node, .mark '\x7b'] ++ body ++ [.mark '\x7d', .word "AS", .word node] ++
    (rows.sortSlots operation.variableName).map Slot.token ++ rows.pageSlots.map Slot.token

end Operation

namespace Plan

/-- The statement ends by returning the projected rows in order. -/
def ReturnsRows (plan : Plan) (operation : Operation) : Prop :=
  ∃ front, ∀ projection : Fragment,
    (plan.statement projection).tokens = front ++ operation.returned projection.tokens

/-- Whatever stands in front of RETURN. -/
theorem ReturnsRows.intro {plan : Plan} {operation : Operation} (lead opening closing : Fragment)
    (before : List Token)
    (hopening : opening.tokens = before ++
      [.word "RETURN", .word (Cypher.sanitize operation.variableName), .mark '\x7b'])
    (hclosing : closing.tokens =
      [.mark '\x7d', .word "AS", .word (Cypher.sanitize operation.variableName)])
    (h : ∀ projection, plan.statement projection = lead ++ opening ++ projection ++ closing ++
      Paging.orderBy operation.variableName operation.orderBy ++
      ([Cypher.Piece.fixed " "] ++ Paging.skipLimit operation)) :
    plan.ReturnsRows operation := by
  refine ⟨lead.tokens ++ before, fun projection => ?_⟩
  have sorted := (Paging.spells_orderBy operation.variableName operation).tokens
  have paged := (Paging.spells_skipLimit operation).tokens
  rw [h, Fragment.tokens_append, paged, Fragment.tokens_append, sorted]
  simp only [Fragment.tokens_append, hopening, hclosing, Operation.returned, List.append_assoc]

variable (operation : Operation)

theorem nodeQuery_returnsRows : (nodeQuery operation).ReturnsRows operation := by
  let node := operation.variableName
  let filter := Filter.ofArguments operation.arguments
  let temporal := Temporal.declared operation.declarations
  let found : Fragment :=
    [.fixed "MATCH (", .var node, .fixed ":", .name operation.typeName, .fixed " "]
  let close : Fragment := [.fixed ") "]
  let lead : Fragment := found ++ Parameters.mapLiteral (filter.inlineKeys temporal) none false ++
    close ++ Clause.whereClause (filter.conditions node operation.internalId.isSome temporal).clauses
  let opening : Fragment := [.fixed "RETURN ", .var node, .fixed " \x7b"]
  let closing : Fragment := [.fixed "\x7d AS ", .var node]
  refine .intro lead opening closing [] rfl rfl fun projection => ?_
  simp only [nodeQuery, found, close, lead, opening, closing, node, filter, temporal,
    List.append_assoc]

variable {operation} (projectable : operation.schemaType.isProjectable = true)

include projectable

theorem customQueryOf_returnsRows (statement : String) :
    (customQueryOf operation statement).ReturnsRows operation := by
  let node := operation.variableName
  let bag := Parameters.insertPagination (Filter.ofArguments operation.arguments).values operation
  let call : Fragment :=
    [.fixed "WITH apoc.cypher.runFirstColumn(", .literal statement, .fixed ", "]
  let opening : Fragment :=
    [.fixed ", True) AS x UNWIND x AS ", .var node, .fixed " RETURN ", .var node, .fixed " ",
      .fixed "\x7b"]
  let closing : Fragment := [.fixed "\x7d", .fixed " AS ", .var node]
  refine .intro (call ++ customArguments operation bag "null") opening closing
    [.mark ',', .word "True", .mark ')', .word "AS", .word "x", .word "UNWIND", .word "x",
      .word "AS", .word (Cypher.sanitize node)] rfl rfl fun projection => ?_
  simp [customQueryOf, customProjection, projectable, Fragment.braced, call, opening, closing, node,
    bag]

theorem customMutationOf_returnsRows (statement : String) :
    (customMutationOf operation statement).ReturnsRows operation := by
  let node := operation.variableName
  let arguments := customArguments operation (Parameters.ofMutation operation) "\x7b\x7d"
  let call : Fragment := [.fixed "CALL apoc.cypher.doIt(", .literal statement, .fixed ", "]
  let result : Fragment :=
    [.fixed ") YIELD value\nWITH apoc.map.values(value, [keys(value)[0]])[0] AS ", .var node]
  let opening : Fragment := [.fixed "\nRETURN ", .var node, .fixed " ", .fixed "\x7b"]
  let closing : Fragment := [.fixed "\x7d", .fixed " AS ", .var node]
  refine .intro (call ++ arguments ++ result) opening closing [] rfl rfl fun projection => ?_
  simp [customMutationOf, customProjection, projectable, Fragment.braced, call, arguments, result,
    opening, closing, node]

end Plan

namespace Projection

/-- Without a relationship every entry is a field of the root. -/
theorem entry_of_unlinked {request : SelectionRequest} {selection : Selection} {fragment : Fragment}
    (hlinkage : request.linkage = none) (h : entry request selection = .ok fragment) :
    selection.isLeaf = true ∧ fragment = leaf request.root false selection := by
  unfold entry at h
  rw [hlinkage] at h
  split at h
  · rename_i hleaf
    exact ⟨hleaf, (Except.ok.inj h).symm⟩
  · cases h

/-- Any field of the root but the internal id is looked up in the root. -/
theorem read?_leaf_root (node : String) {selection : Selection} (hleaf : selection.isLeaf = true) :
    Lookup.read? (some (.word (Cypher.sanitize node))) (leaf node false selection).tokens =
      if selection.name = internalIdField then none
      else some ⟨selection.responseKey, Cypher.sanitize node, selection.name⟩ := by
  obtain ⟨name, key, children⟩ := selection
  obtain rfl : children = [] := by simpa [Selection.isLeaf] using hleaf
  split
  · rename_i hid
    rw [leaf, if_pos hid, tokens_internalId]
    unfold Token.ofName
    split <;> rfl
  · rename_i hid
    rw [read?_leaf _ _ _ _ hid, ite_self]
    rfl

/-- Which names stand for properties in a projection of the root. -/
theorem denotes_iff {request : SelectionRequest} {projection : Projection}
    (hlinkage : request.linkage = none) (h : flat request = .ok projection) (name : String) :
    Cypher.Denotes (Cypher.sanitize request.root) (Cypher.entries projection.fragment.tokens) name ↔
      (∃ selection ∈ projected request.selections, selection.responseKey = name) ∧
        ∀ selection ∈ projected request.selections, selection.responseKey = name →
          selection.name = name ∧ name ≠ internalIdField := by
  obtain ⟨part, hentries, hpart⟩ := entries_flat h
  have keyed (selection : Selection) (hmem : selection ∈ projected request.selections) :
      entryKey? (part selection).tokens = some name ↔ selection.responseKey = name := by
    rw [entryKey?_entry (hpart selection hmem), Option.some.injEq]
  -- Under the key of the name only the field of that name is looked up as the property.
  have looked (selection : Selection) (hmem : selection ∈ projected request.selections)
      (hkey : selection.responseKey = name) :
      Lookup.read? (some (.word (Cypher.sanitize request.root))) (part selection).tokens =
          some ⟨name, Cypher.sanitize request.root, name⟩ ↔
        selection.name = name ∧ name ≠ internalIdField := by
    obtain ⟨hleaf, hfragment⟩ := entry_of_unlinked hlinkage (hpart selection hmem)
    rw [hfragment, read?_leaf_root request.root hleaf, hkey]
    split
    · rename_i hid
      constructor
      · intro hnone
        cases hnone
      · rintro ⟨rfl, hother⟩
        exact absurd hid hother
    · rename_i hid
      rw [Option.some.injEq, Lookup.mk.injEq]
      constructor
      · rintro ⟨-, -, rfl⟩
        exact ⟨rfl, hid⟩
      · rintro ⟨hname, -⟩
        exact ⟨rfl, rfl, hname⟩
  rw [Cypher.Denotes, hentries]
  simp only [List.mem_map, exists_exists_and_eq_and, forall_exists_index, and_imp,
    forall_apply_eq_imp_iff₂]
  constructor
  · rintro ⟨⟨selection, hmem, hkey⟩, all⟩
    refine ⟨⟨selection, hmem, (keyed selection hmem).mp hkey⟩, fun other hother hname => ?_⟩
    exact (looked other hother hname).mp (all other hother ((keyed other hother).mpr hname))
  · rintro ⟨⟨selection, hmem, hkey⟩, all⟩
    refine ⟨⟨selection, hmem, (keyed selection hmem).mpr hkey⟩, fun other hother hname => ?_⟩
    have hkey := (keyed other hother).mp hname
    exact (looked other hother hkey).mpr (all other hother hkey)

end Projection

namespace Synthesizer

/-- A sort key of a query denotes the property of its name if and only if the operation selects that
property under its own name and nothing else under it. -/
theorem sort_key_denotes_iff (settings : Settings) (fresh : Json) {kind : Kind}
    {operation : Operation} {query : Query}
    (hkind : kind = .nodeQuery ∨ kind = .customQuery ∨ kind = .customMutation)
    (projectable : kind ≠ .nodeQuery → operation.schemaType.isProjectable = true)
    (h : ((Synthesizer.mk settings Projection.flat fresh).synthesizeAs kind operation).result =
      .ok query) :
    ∃ front body, Cypher.lex query.text = some (front ++ operation.returned body) ∧
      ∀ key ∈ operation.orderBy,
        Cypher.Denotes (Cypher.sanitize operation.variableName) (Cypher.entries body) key.field ↔
          operation.SelectsProperty key.field := by
  obtain ⟨plan, projection, hplan, hflat, rfl⟩ := synthesizeAs_eq_ok h
  have rows : plan.ReturnsRows operation ∧ plan.root = operation.variableName ∧
      plan.linkage = none := by
    rcases hkind with rfl | rfl | rfl
    · obtain rfl := Except.ok.inj hplan
      exact ⟨Plan.nodeQuery_returnsRows operation, rfl, rfl⟩
    · obtain ⟨statement, -, rfl⟩ := Plan.customQuery_eq_ok hplan
      exact ⟨Plan.customQueryOf_returnsRows (projectable (by decide)) statement, rfl, rfl⟩
    · obtain ⟨statement, -, rfl⟩ := Plan.customMutation_eq_ok hplan
      exact ⟨Plan.customMutationOf_returnsRows (projectable (by decide)) statement, rfl, rfl⟩
  obtain ⟨⟨front, hstatement⟩, hroot, hlinkage⟩ := rows
  refine ⟨front, projection.fragment.tokens, ?_, fun key _ => ?_⟩
  · rw [lex_query hplan hflat, hstatement]
  · have denotes := Projection.denotes_iff hlinkage hflat key.field
    rw [← hroot]
    exact denotes

/-- Films of a custom statement, the latest first and those of a year by their titles. -/
def recommended : Operation :=
  { Operation.new .query "recommended" "Movie" with
    selections := [⟨"title", none, []⟩, ⟨"released", some "year", []⟩, ⟨"rating", some "stars", []⟩,
      ⟨"stars", none, []⟩]
    directives := [⟨"cypher", { entries := [("statement", .string "MATCH (m:Movie) RETURN m")] }⟩]
    orderBy := [⟨"released", .descending⟩, ⟨"title", .ascending⟩, ⟨"stars", .ascending⟩] }

/-- The titles are sorted by, but not the years, which have another key, nor the stars, whose key
is also that of the rating. -/
theorem sort_key_denotes_recommended :
    recommended.schemaType.isProjectable = true ∧
    ∃ query, ((Synthesizer.mk .default Projection.flat .null).synthesizeAs .customQuery
        recommended).result = .ok query ∧
      ∃ front body, Cypher.lex query.text = some (front ++ recommended.returned body) ∧
        Cypher.Denotes "movie" (Cypher.entries body) "title" ∧
        ¬ Cypher.Denotes "movie" (Cypher.entries body) "released" ∧
        ¬ Cypher.Denotes "movie" (Cypher.entries body) "stars" := by
  obtain ⟨front, body, hlex, denotes⟩ := sort_key_denotes_iff .default .null
    (.inr (.inl rfl)) (fun _ => (by decide : recommended.schemaType.isProjectable = true)) rfl
  have node : Cypher.sanitize recommended.variableName = "movie" := by decide
  rw [node] at denotes
  refine ⟨by decide, _, rfl, front, body, hlex, ?_, ?_, ?_⟩
  · exact (denotes ⟨"title", .ascending⟩ (by decide)).mpr (by decide)
  · exact fun h => absurd ((denotes ⟨"released", .descending⟩ (by decide)).mp h) (by decide)
  · exact fun h => absurd ((denotes ⟨"stars", .ascending⟩ (by decide)).mp h) (by decide)

/-- Films, the latest first. -/
def latest : Operation :=
  { Operation.new .query "Movie" "Movie" with
    selections := [⟨"title", none, []⟩]
    orderBy := [⟨"released", .descending⟩] }

/-- The map that is sorted by its release has no such entry. -/
theorem latest_sorted_by_nothing :
    ∃ query, ((Synthesizer.mk .default Projection.flat .null).synthesizeAs .nodeQuery
        latest).result = .ok query ∧
      query.text =
        "MATCH (movie:Movie ) RETURN movie \x7b.title\x7d AS movie ORDER BY movie.released DESC " ∧
      Cypher.lex query.text = some (([.word "MATCH", .mark '(', .word "movie", .mark ':',
        .word "Movie", .mark ')'] : List Token) ++ latest.returned [.mark '.', .word "title"]) ∧
      ¬ Cypher.Denotes "movie" (Cypher.entries [.mark '.', .word "title"]) "released" := by
  refine ⟨_, rfl, ?_, ?_, ?_⟩
  · decide +kernel
  · decide +kernel
  · decide

end Synthesizer

end CypherSynthesis
