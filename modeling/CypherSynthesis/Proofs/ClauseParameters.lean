import CypherSynthesis.Proofs.ConditionOrder
import CypherSynthesis.Proofs.Spelling

/-!
The parameters of a clause are those that its text reads. A clause carries its parameters beside its
text, and both are written from the same condition; here the text alone is read back, and the roots of
the references in it are compared with the list. Main statement: they are the same, for every clause
that any additions bring and whatever names stand in it, and which names these are is known from the
addition.
-/

namespace CypherSynthesis

open Cypher (Fragment)

/-- The references in the text of the clause start from its parameters, one from each in turn. -/
def Clause.DeclaresRead (clause : Clause) : Prop :=
  ∃ tokens, Cypher.lex clause.text = some tokens ∧
    (Cypher.references tokens).map List.head? = clause.parameters.map some

namespace Predicate

theorem isSpaced_fragment (node : String) (predicate : Predicate) :
    (predicate.fragment node).isSpaced .closed = true := by
  cases predicate with
  | internalId | isNull key | memberOf key => rfl
  | sameValue key kind parent => cases kind <;> cases parent <;> rfl
  | sameComponent key component parent => cases parent <;> rfl

/-- Inside its parent a value is read from the parent, and otherwise from a parameter of its own. -/
theorem head?_path (parent : Option String) (key : String) (rest : List String) :
    (path parent key ++ rest).head? = some (parent.getD key) := by
  cases parent <;> rfl

theorem map_head?_params (node : String) (predicate : Predicate) :
    (predicate.fragment node).params.map List.head? = predicate.parameters.map some := by
  cases predicate with
  | internalId | isNull key | memberOf key => rfl
  | sameValue key kind parent =>
    have reads : (sameValue key kind parent |>.fragment node).params =
        [path parent key ++ [Temporal.formattedKey]] := rfl
    rw [reads, List.map_singleton, head?_path]
    rfl
  | sameComponent key component parent =>
    have reads : (sameComponent key component parent |>.fragment node).params =
        [path parent key ++ [component]] := rfl
    rw [reads, List.map_singleton, head?_path]
    rfl

theorem declaresRead_clause (node : String) (predicate : Predicate) :
    (predicate.clause node).DeclaresRead := by
  have spaced := predicate.isSpaced_fragment node
  have found : Cypher.references (predicate.fragment node).tokens =
      (predicate.fragment node).params := Fragment.references_tokens spaced
  refine ⟨_, Fragment.lex_render spaced, ?_⟩
  rw [clause, found]
  exact predicate.map_head?_params node

/-- A temporal comparison reads from the parent, and otherwise from the parameter of its property. -/
theorem parameters_of_mem_ofTemporal {values : List (String × Json)} {parent : Option String}
    {declared : Temporal.Declared} :
    ∀ predicate ∈ ofTemporal values parent declared,
      predicate.parameters = [parent.getD declared.name] := by
  intro predicate hmem
  unfold ofTemporal at hmem
  split at hmem
  · split at hmem
    · rw [List.mem_singleton.mp hmem]
      rfl
    · obtain ⟨entry, -, rfl⟩ := List.mem_map.mp hmem
      rfl
  · cases hmem

end Predicate

namespace Conditions

/-- What the clauses of one addition read, clause by clause. -/
def Addition.roots : Addition → List (List String)
  | internalId => [["_id"]]
  | nulls keys => keys.map fun _ => []
  | temporal values declared parent =>
    declared.flatMap fun declaration =>
      (Predicate.ofTemporal values parent declaration).map fun _ => [parent.getD declaration.name]
  | members keys => keys.map fun key => [key]

theorem Addition.map_parameters (addition : Addition) :
    addition.predicates.map Predicate.parameters = addition.roots := by
  cases addition with
  | internalId => rfl
  | nulls keys | members keys =>
    simp only [predicates, roots, List.map_map]
    rfl
  | temporal values declared parent =>
    have each (declaration : Temporal.Declared) :
        (Predicate.ofTemporal values parent declaration).map Predicate.parameters =
          (Predicate.ofTemporal values parent declaration).map fun _ =>
            [parent.getD declaration.name] :=
      List.map_congr_left Predicate.parameters_of_mem_ofTemporal
    simp only [predicates, roots, Predicate.temporal, List.map_flatMap, each]

theorem clauses_ofAdditions_singleton (node : String) (addition : Addition) :
    (ofAdditions node [addition]).clauses = addition.clauses (Cypher.sanitize node) := by
  have alone : (ofAdditions node [addition]).predicates = addition.predicates := by
    cases addition <;> simp [ofAdditions_eq, predicates, asksId, gathered, Addition.group,
      Addition.predicates]
  rw [clauses_eq, alone, ofAdditions_eq]
  rfl

/-- The parameters that a clause carries are the roots of the references in its text. The internal id
is read from its own parameter, a condition on null from none, a temporal comparison from the parent
or else from the parameter of its property, and a membership from the parameter of its property. -/
theorem parameters_as_read (node : String) (additions : List Addition) :
    (∀ clause ∈ (ofAdditions node additions).clauses, clause.DeclaresRead) ∧
      ∀ addition,
        (ofAdditions node [addition]).clauses.map Clause.parameters = addition.roots := by
  constructor
  · intro clause hmem
    rw [clauses_eq] at hmem
    obtain ⟨predicate, -, rfl⟩ := List.mem_map.mp hmem
    exact predicate.declaresRead_clause _
  · intro addition
    rw [clauses_ofAdditions_singleton, Addition.clauses, List.map_map]
    exact addition.map_parameters

/-- Names with dollar signs, points and backticks in every place. -/
def strangeAdditions : List Addition :=
  [.members ["$a`.b"], .nulls ["$c"],
   .temporal [("on $d", .object [("$e.f", .ofInt 1)])] [⟨"on $d", .date⟩] (some "in `g"),
   .internalId]

theorem parameters_as_read_strangeAdditions :
    let compared : Clause := (Predicate.sameComponent "on $d" "$e.f" (some "in `g")).clause "n"
    compared ∈ (ofAdditions "n" strangeAdditions).clauses ∧
      compared.text = "n.`on $d`.`$e.f` = $`in ``g`.`on $d`.`$e.f`" ∧
      compared.parameters = ["in `g"] ∧ compared.DeclaresRead ∧
      (ofAdditions "n" [.members ["$a`.b"]]).clauses.map Clause.parameters = [["$a`.b"]] := by
  intro compared
  have member : compared ∈ (ofAdditions "n" strangeAdditions).clauses := by decide
  obtain ⟨read, roots⟩ := parameters_as_read "n" strangeAdditions
  exact ⟨member, by decide, rfl, read compared member, roots (.members ["$a`.b"])⟩

end Conditions

end CypherSynthesis
