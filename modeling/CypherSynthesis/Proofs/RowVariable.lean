import CypherSynthesis.Proofs.Scopes

/-!
The variable of the rows of a custom query. The results of the custom statement are a list, which is
called `x`, and its rows take the variable of the operation. Main statement: the row variable is a new
one unless the operation calls it `x` too. If it is made from the name of a type, this is the type `x`
or `X`, and there is no other.
-/

namespace CypherSynthesis

open Cypher (Fragment Step sanitize)

namespace Text

theorem eq_of_ofNat_eq_x {n : Nat} (h : Char.ofNat n = 'x') : n = 120 := by
  by_cases valid : n.isValidChar
  · have char : Char.ofNat n = Char.ofNatAux n valid := dif_pos valid
    exact congrArg Char.toNat (char.symm.trans h)
  · have char : Char.ofNat n = '\x00' := dif_neg valid
    exact absurd (char.symm.trans h) (by decide)

/-- The only code point that moves to the letter x is that of the capital. -/
theorem eq_of_moved?_eq_x {run : CaseRun} (hrun : run ∈ lowercaseRuns) {n : Nat}
    (h : run.moved? n = some 'x') : n = 88 := by
  -- What moves to 120 lies 120 less the shift, and only the run of the capitals reaches that far.
  have reach : ∀ run ∈ lowercaseRuns, (run.first : Int) ≤ 120 - run.shift →
      120 - run.shift ≤ run.last → 120 - run.shift = 88 := by decide +kernel
  unfold CaseRun.moved? at h
  split at h
  · rename_i holds
    have moved := eq_of_ofNat_eq_x (Option.some.inj h)
    obtain ⟨inside, -⟩ := Bool.and_eq_true_iff.mp holds
    obtain ⟨above, below⟩ := Bool.and_eq_true_iff.mp inside
    have hfirst : run.first ≤ n := of_decide_eq_true above
    have hlast : n ≤ run.last := of_decide_eq_true below
    have only := reach run hrun (by omega) (by omega)
    omega
  · cases h

theorem lowercase_eq_x_iff {c : Char} : lowercase c = ['x'] ↔ c = 'x' ∨ c = 'X' := by
  constructor
  · intro h
    unfold lowercase at h
    split at h
    · cases h
    · have letter := (List.cons.inj h).1
      cases hmoved : lowercaseRuns.findSome? (·.moved? c.toNat) with
      | none =>
        rw [hmoved] at letter
        exact .inl letter
      | some d =>
        rw [hmoved, Option.getD_some] at letter
        obtain ⟨run, hrun, hd⟩ := List.exists_of_findSome?_eq_some hmoved
        have code : c.toNat = 'X'.toNat := eq_of_moved?_eq_x hrun (letter ▸ hd)
        exact .inr (Char.toNat_inj.mp code)
  · rintro (rfl | rfl)
    · decide
    · decide

theorem length_lowercase_pos (c : Char) : 0 < (lowercase c).length := by
  unfold lowercase
  split <;> simp

theorem lowerFirst_eq_x_iff {s : String} : lowerFirst s = "x" ↔ s = "x" ∨ s = "X" := by
  constructor
  · intro h
    have chars := congrArg String.toList h
    unfold lowerFirst at chars
    split at chars
    · exact absurd chars (by decide)
    · rename_i c rest hs
      rw [String.toList_ofList] at chars
      have whole : lowercase c ++ rest = ['x'] := chars
      -- The lower case of the first character takes up the one character there is.
      have none_left : rest = [] := by
        have lengths := congrArg List.length whole
        have first := length_lowercase_pos c
        rw [List.length_append, List.length_singleton] at lengths
        exact List.length_eq_zero_iff.mp (by omega)
      rw [none_left, List.append_nil] at whole
      rw [none_left] at hs
      rcases lowercase_eq_x_iff.mp whole with rfl | rfl
      · exact .inl (String.toList_inj.mp hs)
      · exact .inr (String.toList_inj.mp hs)
  · rintro (rfl | rfl)
    · decide
    · decide

end Text

namespace Cypher

theorem sanitize_eq_x_iff {name : String} : sanitize name = "x" ↔ name = "x" := by
  constructor
  · intro h
    have chars := congrArg String.toList h
    rw [sanitize, String.toList_ofList, plainWord] at chars
    split at chars
    · exact absurd (List.cons.inj chars).1 (by decide)
    · have word : name.toList.map wordChar = ['x'] := chars
      obtain ⟨c, hname, hc⟩ := List.map_eq_singleton_iff.mp word
      have letter : c = 'x' := by
        unfold wordChar at hc
        split at hc
        · exact hc
        · exact absurd hc (by decide)
      rw [letter] at hname
      exact String.toList_inj.mp hname
  · rintro rfl
    decide

end Cypher

namespace Operation

/-- The call that runs a custom statement of a query: a literal and parameters. -/
def rowCall (operation : Operation) (statement : String) : String :=
  let bag := Parameters.insertPagination (Filter.ofArguments operation.arguments).values operation
  "apoc.cypher.runFirstColumn(" ++ Cypher.literal statement ++ ", " ++
    (Plan.customArguments operation bag "null").render ++ ", True)"

/-- The clauses of a custom query. -/
def rowSteps (operation : Operation) (statement : String) : List Step :=
  [.carry [.value (operation.rowCall statement) "x"],
    .unwind "x" (sanitize operation.variableName)]

/-- The rows have a scope unless their variable is the one of the list. -/
theorem run_rowSteps (operation : Operation) (statement : String) :
    Step.run [] (operation.rowSteps statement) =
      if operation.variableName = "x" then none
      else some ["x", sanitize operation.variableName] := by
  have list : Step.next [] (.carry [.value (operation.rowCall statement) "x"]) = some ["x"] :=
    Step.next_eq_some_iff.mpr ⟨by simp [Step.used, Cypher.Carried.source?], by simp, rfl⟩
  rw [rowSteps, Step.run_cons_of_next _ list]
  by_cases hname : operation.variableName = "x"
  · have row : Step.next ["x"] (.unwind "x" "x") = none := by decide
    rw [if_pos hname, hname, Cypher.sanitize_eq_x_iff.mpr rfl, Step.run, row, Option.bind_none]
  · have fresh : "x" ≠ sanitize operation.variableName :=
      fun same => hname (Cypher.sanitize_eq_x_iff.mp same.symm)
    have row : Step.next ["x"] (.unwind "x" (sanitize operation.variableName)) =
        some ["x", sanitize operation.variableName] :=
      Step.next_eq_some_iff.mpr ⟨by simp [Step.used], by simp [fresh], rfl⟩
    rw [if_neg hname, Step.run_cons_of_next [] row, Step.run]

end Operation

theorem Plan.render_customQueryOf (operation : Operation) (statement : String)
    (projection : Fragment) :
    ∃ rest, ((customQueryOf operation statement).statement projection).render =
      Step.statement " " (operation.rowSteps statement)
        (sanitize operation.variableName ++ " " ++ rest) := by
  refine ⟨(customProjection operation projection [] ++
    ([.fixed " "] ++ Paging.skipLimit operation) : Fragment).render, ?_⟩
  have carried : "WITH apoc.cypher.runFirstColumn(" = "WITH " ++ "apoc.cypher.runFirstColumn(" := rfl
  have rows : ", True) AS x UNWIND x AS " =
      ", True)" ++ (" AS " ++ ("x" ++ (" " ++ ("UNWIND " ++ ("x" ++ " AS "))))) := rfl
  have returned : " RETURN " = " " ++ "RETURN " := rfl
  unfold customQueryOf Operation.rowSteps Operation.rowCall
  rw [carried, rows, returned]
  simp only [Fragment.render_append, Fragment.render_cons, Fragment.render_nil, Cypher.Piece.render,
    Step.statement, Step.text, List.map_cons, List.map_nil, Cypher.Carried.text,
    String.intercalate_singleton, String.append_assoc, String.append_empty, -String.reduceAppend]

namespace Synthesizer

/-- A custom query takes its rows under a new variable if and only if the variable of the operation is
not `x`; a variable that is made from a type name is `x` for the types `x` and `X` alone. -/
theorem row_variable_fresh_iff (synthesizer : Synthesizer) {operation : Operation} {query : Query}
    (h : (synthesizer.synthesizeAs .customQuery operation).result = .ok query) :
    (∃ statement rest, Plan.customStatement synthesizer.settings operation = .ok statement ∧
      query.text = Step.statement " " (operation.rowSteps statement)
        (sanitize operation.variableName ++ " " ++ rest) ∧
      (Step.run [] (operation.rowSteps statement) =
        some ["x", sanitize operation.variableName] ↔ operation.variableName ≠ "x") ∧
      (Step.run [] (operation.rowSteps statement) = none ↔ operation.variableName = "x")) ∧
    (operation.variableName = Text.lowerFirst operation.typeName →
      (operation.variableName = "x" ↔ operation.typeName = "x" ∨ operation.typeName = "X")) := by
  obtain ⟨plan, projection, hplan, -, rfl⟩ := synthesizeAs_eq_ok h
  obtain ⟨statement, hstatement, rfl⟩ := Plan.customQuery_eq_ok hplan
  obtain ⟨rest, htext⟩ := Plan.render_customQueryOf operation statement projection.fragment
  refine ⟨⟨statement, rest, hstatement, htext, ?_, ?_⟩, fun hname => ?_⟩
  · rw [Operation.run_rowSteps]
    split <;> simp_all
  · rw [Operation.run_rowSteps]
    split <;> simp_all
  · rw [hname, Text.lowerFirst_eq_x_iff]

/-- Things of a type, by a custom statement. -/
def things (typeName : String) : Operation :=
  { Operation.new .query "things" typeName with
    selections := [⟨"title", none, []⟩]
    directives := [⟨"cypher", { entries := [("statement", .string "RETURN 1")] }⟩] }

theorem row_variable_fresh_things :
    (things "X1").variableName = Text.lowerFirst (things "X1").typeName ∧
    ∃ query, ((Synthesizer.mk .default Projection.flat .null).synthesizeAs .customQuery
        (things "X1")).result = .ok query ∧
      ∃ rest, query.text = Step.statement " " ((things "X1").rowSteps "RETURN 1") ("x1 " ++ rest) ∧
        Step.run [] ((things "X1").rowSteps "RETURN 1") = some ["x", "x1"] := by
  obtain ⟨⟨statement, rest, hstatement, htext, fresh, -⟩, named⟩ :=
    @row_variable_fresh_iff (Synthesizer.mk .default Projection.flat .null) (things "X1") _ rfl
  obtain rfl : "RETURN 1" = statement := Except.ok.inj hstatement
  have other : (things "X1").variableName ≠ "x" := fun h => absurd ((named rfl).mp h) (by decide)
  exact ⟨rfl, _, rfl, rest, htext, fresh.mpr other⟩

/-- The rows of the type X would be taken under the variable that their list has. -/
theorem row_variable_taken :
    ∃ query, ((Synthesizer.mk .default Projection.flat .null).synthesizeAs .customQuery
        (things "X")).result = .ok query ∧
      query.text = "WITH apoc.cypher.runFirstColumn(\"RETURN 1\", null, True) AS x " ++
        "UNWIND x AS x RETURN x \x7b.title\x7d AS x " ∧
      Step.run [] ((things "X").rowSteps "RETURN 1") = none := by
  refine ⟨_, rfl, ?_, ?_⟩
  · decide +kernel
  · decide +kernel

end Synthesizer

end CypherSynthesis
