import CypherSynthesis.Text.CharSet

/-!
Characters as the bytes of UTF-8, and sets of characters as sequences of byte ranges.
-/

namespace CypherSynthesis.Regex

open Text (CharSet)

/-- The bytes of a code point. -/
def encode (n : Nat) : List Nat :=
  if n < 0x80 then [n]
  else if n < 0x800 then [0xC0 + n / 0x40, 0x80 + n % 0x40]
  else if n < 0x10000 then [0xE0 + n / 0x1000, 0x80 + n / 0x40 % 0x40, 0x80 + n % 0x40]
  else
    [0xF0 + n / 0x40000, 0x80 + n / 0x1000 % 0x40, 0x80 + n / 0x40 % 0x40, 0x80 + n % 0x40]

/-- One range for each byte of a character. -/
abbrev ByteRanges := List (Nat × Nat)

/-- How many code points have the same byte in front of a number of bytes. -/
def blockSize : Nat → Nat
  | 0 => 1
  | count + 1 => 0x40 * blockSize count

/-- Sequences for the code points from one to another. The first byte counts from `mark`, and a
number of bytes follow it. Blocks that lie in the range as a whole share a sequence. -/
def sequencesFrom : Nat → Nat → Nat → Nat → List ByteRanges
  | 0, mark, first, last => [[(mark + first, mark + last)]]
  | count + 1, mark, first, last =>
    let size := blockSize (count + 1)
    let (low, high) := (first / size, last / size)
    let part (byte first last : Nat) : List ByteRanges :=
      (sequencesFrom count 0x80 first last).map ((mark + byte, mark + byte) :: ·)
    if low = high then part low (first % size) (last % size)
    else
      let cutFront := first % size ≠ 0
      let cutBack := last % size ≠ size - 1
      let front := if cutFront then part low (first % size) (size - 1) else []
      let back := if cutBack then part high 0 (last % size) else []
      let (low, high) := (if cutFront then low + 1 else low, if cutBack then high - 1 else high)
      let middle := if low ≤ high then
          [(mark + low, mark + high) :: List.replicate (count + 1) (0x80, 0xBF)]
        else []
      front ++ middle ++ back

/-- The code points with one, two, three and four bytes: the first and the last of them, and what
the first byte counts from. -/
def byteLengths : List (Nat × Nat × Nat) :=
  [(0, 0x7F, 0), (0x80, 0x7FF, 0xC0), (0x800, 0xFFFF, 0xE0), (0x10000, 0x10FFFF, 0xF0)]

def surrogates : CharSet := ⟨[(0xD800, 0xDFFF)]⟩

/-- The sequences of a set, in increasing order. -/
def byteSequences (set : CharSet) : List ByteRanges :=
  (set.diff surrogates).ranges.flatMap fun (first, last) =>
    byteLengths.zipIdx.flatMap fun ((low, high, mark), count) =>
      if last < low || high < first then []
      else sequencesFrom count mark (max low first) (min high last)

def commonLength : ByteRanges → ByteRanges → Nat
  | x :: xs, y :: ys => if x = y then commonLength xs ys + 1 else 0
  | _, _ => 0

/-- How many steps a tree of the sequences has, if those in a row share what they start with. -/
def treeSteps : ByteRanges → List ByteRanges → Nat
  | _, [] => 0
  | before, sequence :: rest =>
    sequence.length - commonLength before sequence + treeSteps sequence rest

/-- How many of the shared steps are stored twice, in thousandths. There are a thousand slots for
steps that can be shared; a step is lost when another one comes to its slot before it is
used again, and with it those behind it. `kept` is how many steps the sequence before has shared. -/
def lostSteps : ByteRanges → Nat → List ByteRanges → Nat
  | _, _, [] => 0
  | before, kept, sequence :: rest =>
    let common := commonLength before sequence
    let lost := (List.range common).map fun depth =>
      (before.length - max (depth + 1) kept) * (common - depth)
    lost.foldl (· + ·) 0 + lostSteps sequence common rest

end CypherSynthesis.Regex
