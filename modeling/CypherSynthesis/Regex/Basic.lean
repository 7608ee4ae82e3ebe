import CypherSynthesis.Text.CharSet

/-!
Regular expressions, and whether a text holds a match of one. A match is looked for from all places
of the text at once: an expression leads from the places where its match starts to those where
it may end.
-/

namespace CypherSynthesis

open Text (CharSet)

/-- A place in a text: how many characters lie before it, the last of these, and those behind it. -/
structure Regex.Place where
  index : Nat
  before : Option Char
  rest : List Char
  deriving DecidableEq, Repr

inductive Regex where
  | empty
  | char (set : CharSet)
  /-- Matches nothing but the place itself. -/
  | assert (holds : Regex.Place → Bool)
  /-- A part whose match can be told from the rest. -/
  | capture (inner : Regex)
  | seq (first second : Regex)
  | either (first second : Regex)
  /-- At least `least` matches in a row, and at most `most` if that is given. -/
  | repeated (inner : Regex) (least : Nat) (most : Option Nat)

namespace Regex

namespace Place

def after (place : Place) : Option Char :=
  place.rest.head?

/-- The place behind the next character, if that is in the set. -/
def behind? (set : CharSet) (place : Place) : Option Place :=
  match place.rest with
  | [] => none
  | c :: rest => if set.holds c then some ⟨place.index + 1, some c, rest⟩ else none

end Place

/-- A set of places, in the order of the text and without repetition. -/
abbrev Places := List Place

namespace Places

/-- All places from the given one to the end. -/
def fromPlace : Nat → Option Char → List Char → Places
  | index, before, [] => [⟨index, before, []⟩]
  | index, before, c :: rest =>
    ⟨index, before, c :: rest⟩ :: fromPlace (index + 1) (some c) rest

def ofText (text : String) : Places :=
  fromPlace 0 none text.toList

def union : Places → Places → Places
  | [], others => others
  | places, [] => places
  | place :: places, other :: others =>
    if place.index < other.index then place :: union places (other :: others)
    else if other.index < place.index then other :: union (place :: places) others
    else place :: union places others
termination_by places others => places.length + others.length

def diff : Places → Places → Places
  | [], _ => []
  | places, [] => places
  | place :: places, other :: others =>
    if place.index < other.index then place :: diff places (other :: others)
    else if other.index < place.index then diff (place :: places) others
    else diff places others
termination_by places others => places.length + others.length

/-- A number of rounds, fewer if a round changes nothing. -/
def rounds (step : Places → Places) : Nat → Places → Places
  | 0, places => places
  | n + 1, places =>
    let next := step places
    if next.map (·.index) = places.map (·.index) then places else rounds step n next

/-- All that is reached within a number of rounds; `fresh` are the places that the last round has
added. A round leads only forwards, so whatever lies before them is settled. -/
def spread (step : Places → Places) : Nat → Places → Places → Places → Places
  | 0, settled, reached, _ => settled.reverse ++ reached
  | n + 1, settled, reached, fresh =>
    match (step fresh).diff reached with
    | [] => settled.reverse ++ reached
    | place :: added =>
      let isBefore (other : Place) : Bool := other.index < place.index
      let settled := (reached.takeWhile isBefore).reverseAux settled
      let reached := union (reached.dropWhile isBefore) (place :: added)
      spread step n settled reached (place :: added)

end Places

/-- The places where matches end that start at the given places. Repetition without an upper bound
needs no more rounds than the text has places, since every round but the last adds one. -/
def reach (size : Nat) : Regex → Places → Places
  | empty, places => places
  | char set, places => places.filterMap (·.behind? set)
  | assert holds, places => places.filter holds
  | capture inner, places => inner.reach size places
  | seq first second, places => second.reach size (first.reach size places)
  | either first second, places => (first.reach size places).union (second.reach size places)
  | repeated inner least most, places =>
    let start := Places.rounds (inner.reach size) least places
    let bound := (most.map (· - least)).getD size
    Places.spread (inner.reach size) bound [] start start

/-- Whether a part of the text matches. -/
def occursIn (regex : Regex) (text : String) : Bool :=
  let places := Places.ofText text
  !(regex.reach places.length places).isEmpty

end Regex
end CypherSynthesis
