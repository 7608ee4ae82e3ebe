import CypherSynthesis.Regex.Basic
import CypherSynthesis.Regex.Bytes

/-!
The room that an expression takes. It is turned into two automata on bytes, of which one reads
forwards and the other backwards. Counted repetitions are written out in them, so that an expression
may be short and its automata large; those that are too large are refused.
-/

namespace CypherSynthesis.Regex

open Text (CharSet)

inductive Direction where
  | forwards
  | backwards
  deriving DecidableEq, Repr

/-! ### Simple forms -/

/-- Whether matches are empty. -/
def matchesOnlyEmpty : Regex → Bool
  | .empty | .assert _ => true
  | .char _ => false
  | .capture inner => inner.matchesOnlyEmpty
  | .seq first second | .either first second =>
    first.matchesOnlyEmpty && second.matchesOnlyEmpty
  | .repeated inner _ _ => inner.matchesOnlyEmpty

/-- Whether a match may be empty, assertions aside. -/
def matchesEmpty : Regex → Bool
  | .empty | .assert _ => true
  | .char set => set.ranges.isEmpty
  | .capture inner => inner.matchesEmpty
  | .seq first second => first.matchesEmpty && second.matchesEmpty
  | .either first second => first.matchesEmpty || second.matchesEmpty
  | .repeated inner least _ => least = 0 || inner.matchesEmpty

/-- Leaves out what is empty and what is repeated once. -/
def simplified : Regex → Regex
  | .seq first second =>
    match first.simplified, second.simplified with
    | .empty, second => second
    | first, .empty => first
    | first, second => .seq first second
  | .either first second => .either first.simplified second.simplified
  | .capture inner => .capture inner.simplified
  | .repeated inner least most =>
    let inner := inner.simplified
    let (least, most) := if inner.matchesOnlyEmpty then (min least 1, some (min (most.getD 1) 1))
      else (least, most)
    if most = some 0 then .empty
    else if least = 1 && most = some 1 then inner
    else .repeated inner least most
  | other => other

/-! ### Room -/

/-- The room of a state. -/
def stateRoom : Nat := 32

/-- The room of a step, in a state that has several. -/
def stepRoom : Nat := 8

/-- The room of a way on, in a state that reads nothing. -/
def wayRoom : Nat := 4

def maxRoom : Nat := 10 * 1024 * 1024

def setRoom (direction : Direction) (set : CharSet) : Nat :=
  if set.isAscii then 2 * stateRoom + stepRoom * set.ranges.length
  else
    let sequences := byteSequences set
    let steps := treeSteps [] sequences
    match direction with
    | .forwards => stateRoom * (steps - sequences.length + 2) + stepRoom * steps
    | .backwards =>
      let lost := stateRoom * lostSteps [] 0 sequences / 1000
      stateRoom * (steps + 2) + lost + wayRoom * sequences.length

/-- The room of words in a tree; `fuel` is the greatest length of a word. -/
def treeRoom : Nat → List (List Nat) → Nat
  | 0, _ => 0
  | fuel + 1, words =>
    let bytes := (words.filterMap List.head?).eraseDups
    let steps := if bytes.length < 2 then 0 else stepRoom * bytes.length
    let ends := if words.contains [] then stateRoom + 2 * wayRoom else 0
    let below (byte : Nat) : Nat :=
      treeRoom fuel ((words.filter (·.head? = some byte)).map List.tail)
    if bytes.isEmpty then 0
    else stateRoom + steps + ends + (bytes.map below).foldl (· + ·) 0

def wordsRoom (direction : Direction) (words : List (List Nat)) : Nat :=
  let words := if direction = .forwards then words else words.map List.reverse
  stateRoom + treeRoom ((words.map List.length).foldl max 0) words

/-- One of several alternatives. -/
structure Branch where
  room : Nat
  /-- The set, if the branch is one. -/
  set : Option CharSet
  /-- The bytes, if the branch is a sequence of single characters. -/
  word : Option (List Nat)

namespace Branch

def ofSet (direction : Direction) (set : CharSet) : Branch :=
  match set.ranges with
  | [(first, last)] =>
    if first = last then ⟨stateRoom * (encode first).length, some set, some (encode first)⟩
    else ⟨setRoom direction set, some set, none⟩
  | _ => ⟨setRoom direction set, some set, none⟩

def ofRoom (room : Nat) : Branch := ⟨room, none, none⟩

def append (first second : Branch) : Branch :=
  ⟨first.room + second.room, none, do return (← first.word) ++ (← second.word)⟩

/-- All alternatives in one. Sets are united, and words share what they start with. -/
def ofAlternatives (direction : Direction) : List Branch → Branch
  | [branch] => branch
  | branches =>
    match branches.mapM (·.set), branches.mapM (·.word) with
    | some sets, _ => ofSet direction (.unionAll sets)
    | none, some words => ofRoom (wordsRoom direction words)
    | none, none =>
      ofRoom ((branches.map (·.room)).foldl (· + ·) (2 * stateRoom + wayRoom * branches.length))

/-- A repetition that is written out as often as it is counted. -/
def repeated (room : Nat) (mayBeEmpty : Bool) (least : Nat) : Option Nat → Nat
  | none =>
    if least = 0 && mayBeEmpty then room + 3 * stateRoom + 4 * wayRoom
    else max 1 least * room + stateRoom + 2 * wayRoom
  | some most =>
    let fixed := if least = 0 then stateRoom else least * room
    if most = least then fixed
    else if least = 0 && most = 1 then room + 2 * stateRoom + 2 * wayRoom
    else fixed + stateRoom + (most - least) * (room + stateRoom + 2 * wayRoom)

end Branch

/-- The alternatives that an expression has. -/
def branches (direction : Direction) : Regex → List Branch
  | .empty | .assert _ => [.ofRoom stateRoom]
  | .char set => [.ofSet direction set]
  | .capture inner =>
    let room := (Branch.ofAlternatives direction (inner.branches direction)).room
    [.ofRoom (if direction = .forwards then room + 2 * stateRoom else room)]
  | .seq first second =>
    [(Branch.ofAlternatives direction (first.branches direction)).append
      (Branch.ofAlternatives direction (second.branches direction))]
  | .either first second => first.branches direction ++ second.branches direction
  | .repeated inner least most =>
    let room := (Branch.ofAlternatives direction (inner.branches direction)).room
    [.ofRoom (Branch.repeated room inner.matchesEmpty least most)]

/-- The room of an automaton, which starts with any number of bytes and ends with the match. The
match as a whole is captured. -/
def room (direction : Direction) (regex : Regex) : Nat :=
  let anyBytes := Branch.repeated (2 * stateRoom + stepRoom) false 0 none
  let whole := Branch.ofAlternatives direction (regex.simplified.capture.branches direction)
  anyBytes + whole.room + stateRoom

/-- Whether both automata have room. -/
def isCompact (regex : Regex) : Bool :=
  regex.room .forwards ≤ maxRoom && regex.room .backwards ≤ maxRoom

end CypherSynthesis.Regex
