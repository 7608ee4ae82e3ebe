import CypherSynthesis.Json.Number

/-!
The value of a number literal. A literal without fraction and exponent that fits 64 bits is an
integer. Every other one becomes a float in steps: as many leading digits as fit 64 bits are taken
as one integer, rounded to a float, and scaled by a power of ten.
-/

namespace CypherSynthesis

/-- The parts of a number literal; a missing fraction has no digits. -/
structure Literal where
  negative : Bool
  whole : List Char
  fraction : List Char
  exponent : Option (Bool × List Char)
  deriving Repr

namespace Literal

def digit (c : Char) : Nat :=
  c.toNat - '0'.toNat

def natural (digits : List Char) : Nat :=
  digits.foldl (fun n c => n * 10 + digit c) 0

/-- Appends digits to a significand as long as it fits 64 bits; returns the digits left over. -/
def absorb : Nat → List Char → Nat × List Char
  | significand, [] => (significand, [])
  | significand, c :: rest =>
    let next := significand * 10 + digit c
    if next < UInt64.size then absorb next rest else (significand, c :: rest)

def powerOfTen (n : Nat) : Float :=
  Float.ofScientific 1 false n

/-- Divides by `10 ^ places`, in steps of the greatest power of ten that is a float. -/
def shrink (value : Float) (places : Nat) : Nat → Float
  | 0 => value
  | fuel + 1 =>
    if places ≤ 308 then value / powerOfTen places
    else if value == 0 then value
    else shrink (value / powerOfTen 308) (places - 308) fuel

/-- The value `significand * 10 ^ exponent`, unless it is too large. Three steps down take every
64-bit significand to zero. -/
def scale? (significand : Nat) (exponent : Int) : Option Float :=
  let value := significand.toUInt64.toFloat
  if exponent < 0 then some (shrink value exponent.natAbs 4)
  else if exponent ≤ 308 then
    let scaled := value * powerOfTen exponent.toNat
    if scaled.isInf then none else some scaled
  else if significand = 0 then some value else none

/-- A negative literal's integer, where it has one: minus zero and values below 64 bits have none. -/
def negativeInteger? (significand : Nat) : Option Int :=
  if 0 < significand && significand ≤ Nat.pow 2 63 then some (-significand) else none

def float (negative : Bool) (value : Float) : Number :=
  .float (if negative then -value else value).toBits

/-- The number that a literal stands for; none if it exceeds every float. -/
def value? (l : Literal) : Option Number :=
  let (head, wholeLeft) := absorb 0 l.whole
  if l.fraction.isEmpty && l.exponent.isNone && wholeLeft.isEmpty then
    if l.negative then
      match negativeInteger? head with
      | some n => some (.integer n)
      | none => some (float true head.toUInt64.toFloat)
    else some (.integer head)
  else
    let (significand, fractionLeft) := absorb head l.fraction
    let places : Int := wholeLeft.length - (l.fraction.length - fractionLeft.length : Nat)
    let exponent : Int :=
      match l.exponent with
      | some (true, digits) => -(natural digits : Int)
      | some (false, digits) => natural digits
      | none => 0
    (scale? significand (places + exponent)).map (float l.negative)

end Literal
end CypherSynthesis
