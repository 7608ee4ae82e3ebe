/-!
Sets of characters, as ranges of code points. Large ones are written down as evenly spaced runs.
-/

namespace CypherSynthesis.Text

/-- Every `step`-th code point from `first` to `last`. -/
structure Stride where
  first : Nat
  last : Nat
  step : Nat

namespace Stride

def holds (s : Stride) (n : Nat) : Bool :=
  s.first ≤ n && n ≤ s.last && (n - s.first) % s.step == 0

def codes (s : Stride) : List Nat :=
  (List.range ((s.last - s.first) / s.step + 1)).map fun k => s.first + k * s.step

/-- The ranges of code points without a gap. -/
def ranges (s : Stride) : List (Nat × Nat) :=
  if s.step = 1 then [(s.first, s.last)] else s.codes.map fun n => (n, n)

end Stride

/-- Whether a code point lies on one of the strides, which have to stand in increasing order. -/
def onStrides : List Stride → Nat → Bool
  | [], _ => false
  | s :: rest, n => if n < s.first then false else s.holds n || onStrides rest n

/-- The ranges stand in increasing order, and there is a gap between any two of them. -/
structure CharSet where
  ranges : List (Nat × Nat)
  deriving DecidableEq, Repr

namespace CharSet

def maxCode : Nat := 0x10FFFF

/-! ### Members -/

def onRanges : List (Nat × Nat) → Nat → Bool
  | [], _ => false
  | (first, last) :: rest, n => if n < first then false else n ≤ last || onRanges rest n

def holdsCode (s : CharSet) (n : Nat) : Bool :=
  onRanges s.ranges n

def holds (s : CharSet) (c : Char) : Bool :=
  s.holdsCode c.toNat

/-- Whether all members are ASCII. -/
def isAscii (s : CharSet) : Bool :=
  s.ranges.all (·.2 < 0x80)

/-! ### Sets by their members -/

/-- Joins ranges that overlap or touch to the one that has been read, as far as they stand in the
order of their starts. -/
def joinFrom : Nat × Nat → List (Nat × Nat) → List (Nat × Nat)
  | range, [] => [range]
  | (first, last), (next, other) :: rest =>
    if next ≤ last + 1 then joinFrom (first, max last other) rest
    else (first, last) :: joinFrom (next, other) rest

def join : List (Nat × Nat) → List (Nat × Nat)
  | [] => []
  | range :: rest => joinFrom range rest

def ofRanges (ranges : List (Nat × Nat)) : CharSet :=
  ⟨join (ranges.mergeSort fun x y => x.1 ≤ y.1)⟩

def ofCodes (codes : List Nat) : CharSet :=
  .ofRanges (codes.map fun n => (n, n))

def ofStrides (strides : List Stride) : CharSet :=
  .ofRanges (strides.flatMap (·.ranges))

def ofList (chars : List Char) : CharSet :=
  .ofCodes (chars.map Char.toNat)

def empty : CharSet := ⟨[]⟩

def single (c : Char) : CharSet := ⟨[(c.toNat, c.toNat)]⟩

/-- The characters from one to another, which must not come before it. -/
def range (first last : Char) : CharSet := ⟨[(first.toNat, last.toNat)]⟩

def ascii : CharSet := ⟨[(0, 0x7F)]⟩

/-! ### Operations -/

def union (s t : CharSet) : CharSet :=
  ⟨join (List.merge s.ranges t.ranges fun x y => x.1 ≤ y.1)⟩

def unionAll (sets : List CharSet) : CharSet :=
  sets.foldl union empty

/-- The gaps between ranges, from a code point on. -/
def gapsFrom : Nat → List (Nat × Nat) → List (Nat × Nat)
  | next, [] => if next ≤ maxCode then [(next, maxCode)] else []
  | next, (first, last) :: rest =>
    if next < first then (next, first - 1) :: gapsFrom (last + 1) rest
    else gapsFrom (last + 1) rest

def compl (s : CharSet) : CharSet :=
  ⟨gapsFrom 0 s.ranges⟩

def inter (s t : CharSet) : CharSet :=
  (s.compl.union t.compl).compl

def diff (s t : CharSet) : CharSet :=
  (s.compl.union t).compl

def symmDiff (s t : CharSet) : CharSet :=
  (s.union t).diff (s.inter t)

end CharSet
end CypherSynthesis.Text
