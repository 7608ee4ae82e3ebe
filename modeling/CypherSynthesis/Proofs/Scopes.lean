import CypherSynthesis.Proofs.ResponseKeys

/-!
Variables along a statement. A clause finds nodes or links them, deletes what a variable stands for,
takes the rows of a list, or carries values on under names of their own, which are then the only
variables. Going over the clauses gives the variables in scope behind them, and there are none if some
clause uses a variable that is not in scope or binds one that is.
-/

namespace CypherSynthesis.Cypher

/-- What WITH carries on under a name. -/
inductive Carried where
  /-- The value of an expression without variables. -/
  | value (expression name : String)
  | copy (source name : String)
  /-- A map of a variable's properties. -/
  | projection (source body name : String)
  deriving DecidableEq, Repr

namespace Carried

def name : Carried → String
  | value _ name | copy _ name | projection _ _ name => name

def source? : Carried → Option String
  | value _ _ => none
  | copy source _ | projection source _ _ => some source

def text : Carried → String
  | value expression name => expression ++ " AS " ++ name
  | copy source name => source ++ " AS " ++ name
  | projection source body name => source ++ " \x7b" ++ body ++ "\x7d AS " ++ name

end Carried

/-- A clause with its variables, and what else it says. -/
inductive Step where
  | find (node description : String)
  | link (keyword source relationship description target : String)
  | erase (keyword name : String)
  | carry (items : List Carried)
  | unwind (list row : String)
  deriving DecidableEq, Repr

namespace Step

def text : Step → String
  | find node description => "MATCH (" ++ node ++ ":" ++ description
  | link keyword source relationship description target =>
    keyword ++ " (" ++ source ++ ")-[" ++ relationship ++ ":" ++ description ++ "]->(" ++ target ++ ")"
  | erase keyword name => keyword ++ " " ++ name
  | carry items => "WITH " ++ ", ".intercalate (items.map Carried.text)
  | unwind list row => "UNWIND " ++ list ++ " AS " ++ row

/-- The variables that have to be in scope. -/
def used : Step → List String
  | find _ _ => []
  | link _ source _ _ target => [source, target]
  | erase _ name => [name]
  | carry items => items.filterMap Carried.source?
  | unwind list _ => [list]

/-- The variables that are new. -/
def bound : Step → List String
  | find node _ => [node]
  | link _ _ relationship _ _ => [relationship]
  | erase _ _ => []
  | carry items => items.map Carried.name
  | unwind _ row => [row]

/-- What is still in scope. -/
def kept (scope : List String) : Step → List String
  | carry _ => []
  | find _ _ | link .. | erase _ _ | unwind _ _ => scope

/-- The scope behind the clause, in which no variable is bound twice. -/
def next (scope : List String) (step : Step) : Option (List String) :=
  let behind := step.kept scope ++ step.bound
  if (∀ name ∈ step.used, name ∈ scope) ∧ behind.Nodup then some behind else none

theorem next_eq_some_iff {scope behind : List String} {step : Step} :
    step.next scope = some behind ↔
      (∀ name ∈ step.used, name ∈ scope) ∧ behind.Nodup ∧ behind = step.kept scope ++ step.bound := by
  rw [next]
  split
  · rename_i h
    constructor
    · rintro ⟨⟩
      exact ⟨h.1, h.2, rfl⟩
    · rintro ⟨-, -, rfl⟩
      rfl
  · rename_i h
    constructor
    · intro hnone
      cases hnone
    · rintro ⟨used, nodup, rfl⟩
      exact absurd ⟨used, nodup⟩ h

/-- The scope behind all clauses. -/
def run (scope : List String) : List Step → Option (List String)
  | [] => some scope
  | step :: rest => (step.next scope).bind (run · rest)

theorem run_cons_of_next {scope behind : List String} {step : Step} (rest : List Step)
    (h : step.next scope = some behind) : run scope (step :: rest) = run behind rest := by
  rw [run, h, Option.bind_some]

theorem run_append (scope : List String) (before after : List Step) :
    run scope (before ++ after) = (run scope before).bind (run · after) := by
  induction before generalizing scope with
  | nil => rfl
  | cons step rest ih =>
    rw [List.cons_append, run, run]
    cases step.next scope with
    | none => rfl
    | some behind => exact ih behind

/-- No clause makes two variables the same, so none are the same behind them. -/
theorem nodup_of_run {scope behind : List String} {steps : List Step} (h : run scope steps = some behind)
    (nodup : scope.Nodup) : behind.Nodup := by
  induction steps generalizing scope with
  | nil =>
    obtain rfl := Option.some.inj h
    exact nodup
  | cons step rest ih =>
    obtain ⟨between, hnext, hrest⟩ := Option.bind_eq_some_iff.mp h
    obtain ⟨-, hbetween, -⟩ := next_eq_some_iff.mp hnext
    exact ih hrest hbetween

/-- The text of a statement: its clauses, and what is returned in the scope behind them. -/
def statement (separator : String) : List Step → String → String
  | [], returned => "RETURN " ++ returned
  | step :: rest, returned => step.text ++ separator ++ statement separator rest returned

end Step

/-- The variables in an expression. A word is something else behind a point or a dollar sign, where it
is a property or a parameter, and in front of a colon or a parenthesis, where it is a key or a
function. -/
def mentionedFrom (last : Option Token) : List Token → List String
  | [] => []
  | .word name :: rest =>
    if last = some (.mark '.') ∨ last = some (.mark '$') ∨ rest.head? = some (.mark ':') ∨
        rest.head? = some (.mark '(') then
      mentionedFrom (some (.word name)) rest
    else name :: mentionedFrom (some (.word name)) rest
  | token :: rest => mentionedFrom (some token) rest

def mentioned (tokens : List Token) : List String :=
  mentionedFrom none tokens

theorem mentionedFrom_mark {c : Char} (hcolon : c ≠ ':') (hcall : c ≠ '(') (last : Option Token)
    (tokens rest : List Token) :
    mentionedFrom last (tokens ++ .mark c :: rest) =
      mentionedFrom last tokens ++ mentionedFrom (some (.mark c)) rest := by
  induction tokens generalizing last with
  | nil => rfl
  | cons token tokens ih =>
    cases token with
    | word name =>
      have same : ((tokens ++ Token.mark c :: rest).head? = some (.mark ':') ↔
            tokens.head? = some (.mark ':')) ∧
          ((tokens ++ Token.mark c :: rest).head? = some (.mark '(') ↔
            tokens.head? = some (.mark '(')) := by
        cases tokens <;> simp [hcolon, hcall]
      simp only [List.cons_append, mentionedFrom, same, ih]
      split <;> rfl
    | quoted | text | mark => exact ih _

/-- A key is no variable. -/
theorem mentionedFrom_key (last : Option Token) (key : String) (rest : List Token) :
    mentionedFrom last (.ofName key :: .mark ':' :: rest) =
      mentionedFrom (some (.mark ':')) rest := by
  unfold Token.ofName
  split
  · simp [mentionedFrom]
  · rfl

/-- A property is no variable. -/
theorem mentionedFrom_property (name : String) :
    mentionedFrom (some (.mark '.')) [.ofName name] = [] := by
  unfold Token.ofName
  split
  · simp [mentionedFrom]
  · rfl

/-- What holds of the variables of each part holds of the variables of the list. -/
theorem forall_mentionedFrom_listed {fragments : List Fragment} {P : String → Prop}
    (h : ∀ fragment ∈ fragments, ∀ last, ∀ name ∈ mentionedFrom last fragment.tokens, P name)
    (last : Option Token) : ∀ name ∈ mentionedFrom last (Fragment.listed fragments).tokens, P name := by
  induction fragments generalizing last with
  | nil =>
    intro name hname
    cases hname
  | cons first rest ih =>
    have here := h first List.mem_cons_self last
    have tail := ih fun other hother => h other (List.mem_cons_of_mem first hother)
    cases rest with
    | nil => exact here
    | cons second rest =>
      have divided : (Fragment.listed (first :: second :: rest)).tokens =
          first.tokens ++ .mark ',' :: (Fragment.listed (second :: rest)).tokens := by
        simp only [Fragment.listed, Fragment.joined, Fragment.tokens_append, List.append_assoc]
        rfl
      rw [divided, mentionedFrom_mark (by decide) (by decide)]
      intro name hname
      rcases List.mem_append.mp hname with hname | hname
      · exact here name hname
      · exact tail _ name hname

end CypherSynthesis.Cypher
