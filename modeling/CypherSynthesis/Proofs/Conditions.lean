import CypherSynthesis.Predicate
import CypherSynthesis.Proofs.Lexer

/-!
Conditions as they come into a statement. Every condition has text, so nothing is dropped as blank:
the clauses are the conditions in the order of their groups, and they are joined unless there are
none.
-/

namespace CypherSynthesis

open Cypher (Fragment isWordChar)

theorem Text.isBlank_of_isWordChar {c : Char} (h : isWordChar c = true) :
    Text.isBlank c = false := by
  have range : 48 ≤ c.toNat ∧ c.toNat ≤ 122 := by
    have classes : ((decide (c.val ≥ 'A'.val ∧ c.val ≤ 'Z'.val) ||
        (decide (c.val ≥ 'a'.val) && decide (c.val ≤ 'z'.val))) ||
        (decide (c.val ≥ '0'.val) && decide (c.val ≤ '9'.val)) || decide (c = '_')) = true := h
    simp only [Bool.or_eq_true, Bool.and_eq_true, decide_eq_true_eq, ge_iff_le,
      UInt32.le_iff_toNat_le, Char.toNat_val] at classes
    rcases classes with ((h | h) | h) | rfl
    · exact ⟨Nat.le_trans (by decide) h.1, Nat.le_trans h.2 (by decide)⟩
    · exact ⟨Nat.le_trans (by decide) h.1, h.2⟩
    · exact ⟨h.1, Nat.le_trans h.2 (by decide)⟩
    · decide
  simp only [Text.isBlank, Text.blankRanges, List.any_cons, List.any_nil, Bool.or_false,
    Bool.or_eq_false_iff, Bool.and_eq_false_iff, decide_eq_false_iff_not]
  omega

/-- A variable is not blank. -/
theorem Cypher.exists_wordChar_sanitize (name : String) :
    ∃ c ∈ (Cypher.sanitize name).toList, isWordChar c = true := by
  have plain := Cypher.isPlainWord_plainWord name.toList
  rw [Cypher.sanitize, String.toList_ofList]
  cases h : Cypher.plainWord name.toList with
  | nil => simp [h, Cypher.isPlainWord] at plain
  | cons c rest => exact ⟨c, by simp, Cypher.isWordChar_of_isPlainWord plain c (by simp [h])⟩

theorem Predicate.var_mem_fragment (node : String) (predicate : Predicate) :
    .var node ∈ predicate.fragment node := by
  cases predicate <;> simp [fragment]

theorem Predicate.isBlank_clause (node : String) (predicate : Predicate) :
    (predicate.clause node).isBlank = false := by
  obtain ⟨c, hc, hword⟩ := Cypher.exists_wordChar_sanitize node
  have hmem : c ∈ (predicate.clause node).text.toList := by
    simp only [Clause.text, Fragment.render, String.toList_join, List.mem_flatMap, List.mem_map]
    exact ⟨_, ⟨_, predicate.var_mem_fragment node, rfl⟩, hc⟩
  simp only [Clause.isBlank, Text.isBlankText, List.all_eq_false]
  exact ⟨c, hmem, by simp [Text.isBlank_of_isWordChar hword]⟩

namespace Predicate

/-- A component map is compared by its formatted text or by its components, and by their names
alone. -/
theorem ofTemporal_object {values : List (String × Json)} {declared : Temporal.Declared}
    {components : List (String × Json)} (parent : Option String)
    (h : Bag.find? declared.name values = some (.object components)) :
    ofTemporal values parent declared =
      if (Temporal.formatted? components).isSome then
        [.sameValue declared.name declared.kind parent]
      else ((Temporal.given components).map Prod.fst).map (.sameComponent declared.name · parent) := by
  simp only [ofTemporal, h]
  cases Temporal.formatted? components with
  | some _ => rfl
  | none => simp [Function.comp_def]

end Predicate

namespace Conditions

/-- No condition is dropped. -/
theorem clauses_eq (conditions : Conditions) :
    conditions.clauses = conditions.predicates.map (·.clause conditions.node) := by
  rw [clauses, List.filter_eq_self]
  intro clause hclause
  obtain ⟨predicate, _, rfl⟩ := List.mem_map.mp hclause
  simp [Predicate.isBlank_clause]

/-- The conditions joined by AND, if there are any. -/
theorem conjunction?_clauses (conditions : Conditions) :
    Clause.conjunction? conditions.clauses =
      if conditions.predicates.isEmpty then none
      else some (Fragment.joined " AND "
        (conditions.predicates.map (Predicate.fragment conditions.node))) := by
  have kept : conditions.clauses.filter (!·.isBlank) = conditions.clauses := by
    simp [clauses, List.filter_filter]
  simp only [Clause.conjunction?, kept]
  rw [clauses_eq]
  simp only [List.isEmpty_map, List.map_map]
  rfl

/-- The conditions as a WHERE clause, if there are any. -/
theorem whereClause_clauses (conditions : Conditions) :
    Clause.whereClause conditions.clauses =
      if conditions.predicates.isEmpty then []
      else [.fixed "WHERE "] ++ Fragment.joined " AND "
        (conditions.predicates.map (Predicate.fragment conditions.node)) ++ [.fixed " "] := by
  rw [Clause.whereClause, conjunction?_clauses]
  cases conditions.predicates.isEmpty <;> rfl

end Conditions

/-- The conditions on the key of a node are the temporal comparisons. -/
theorem Conditions.predicates_withTemporal (node : String) (values : List (String × Json))
    (declared : List Temporal.Declared) (parent : Option String) :
    ((Conditions.new node).withTemporal values declared parent).predicates =
      Predicate.temporal values declared parent := by
  simp [Conditions.new, Conditions.withTemporal, Conditions.predicates]

namespace Filter

theorem node_conditions (filter : Filter) (node : String) (internalId : Bool)
    (temporal : List Temporal.Declared) :
    (filter.conditions node internalId temporal).node = Cypher.sanitize node := by
  cases internalId <;> rfl

theorem predicates_conditions (filter : Filter) (node : String) (internalId : Bool)
    (temporal : List Temporal.Declared) :
    (filter.conditions node internalId temporal).predicates =
      (if internalId then [.internalId] else []) ++ filter.nulls.keys.map .isNull ++
        Predicate.temporal filter.values.entries temporal none ++ filter.listKeys.map .memberOf := by
  cases internalId <;> rfl

end Filter

end CypherSynthesis
