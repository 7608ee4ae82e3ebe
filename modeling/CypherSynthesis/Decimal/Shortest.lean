/-!
The shortest decimal that reads back as a given binary64 number. The reals that round to a number
form an interval around it; for growing digit counts the two neighbours of the number on the
decimal grid are tested against that interval in exact arithmetic, and the first grid with a hit
gives the digits. Of two hits the nearer one is taken.
-/

namespace CypherSynthesis.Decimal

/-- The value `digits * 10 ^ exponent`. -/
structure Scaled where
  digits : Nat
  exponent : Int
  deriving DecidableEq, Repr

/-- A positive rational `num / den`, with the ends of the interval that rounds to it over the same
denominator. The ends belong to the interval when `closed`. -/
structure Rounding where
  num : Nat
  den : Nat
  low : Nat
  high : Nat
  closed : Bool

/-- The magnitude of a binary64 number, given by its exponent and mantissa fields. -/
def Rounding.ofFields (exponent mantissa : Nat) : Rounding :=
  let significand := if exponent = 0 then mantissa else mantissa + Nat.pow 2 52
  let power : Int := (if exponent = 0 then 1 else exponent) - 1077
  let factor := Nat.pow 2 power.toNat
  -- below a power of two the next number is half as far away
  let below := if mantissa = 0 && exponent > 1 then 1 else 2
  { num := 4 * significand * factor
    den := Nat.pow 2 (-power).toNat
    low := (4 * significand - below) * factor
    high := (4 * significand + 2) * factor
    closed := significand % 2 == 0 }

/-- Whether `candidate * 10 ^ exponent` rounds to the number. -/
def Rounding.admits (r : Rounding) (candidate : Nat) (exponent : Int) : Bool :=
  let value := candidate * Nat.pow 10 exponent.toNat * r.den
  let scale := Nat.pow 10 (-exponent).toNat
  let low := r.low * scale
  let high := r.high * scale
  if r.closed then low ≤ value && value ≤ high else low < value && value < high

/-- The grid neighbours of the number at `10 ^ exponent`; the nearer admitted one. -/
def Rounding.onGrid? (r : Rounding) (exponent : Int) : Option Nat :=
  let num := r.num * Nat.pow 10 (-exponent).toNat
  let den := r.den * Nat.pow 10 exponent.toNat
  let below := num / den
  let left := num - below * den
  let nearer := if 2 * left < den || (2 * left = den && below % 2 = 0) then below else below + 1
  let other := if nearer = below then below + 1 else below
  if r.admits nearer exponent then some nearer
  else if r.admits other exponent then some other
  else none

/-- The least `n`, starting the search at `n`, with `num < den * 10 ^ n`. -/
def tensAbove (num den : Nat) : Nat → Nat → Nat
  | 0, n => n
  | fuel + 1, n => if num < den * Nat.pow 10 n then n else tensAbove num den fuel (n + 1)

/-- The decimal exponent of the number's first digit. -/
def Rounding.firstExponent (r : Rounding) : Int :=
  if r.den ≤ r.num then (tensAbove r.num r.den 310 1 : Int) - 1
  else -(tensAbove r.den (r.num * 10) 330 0 : Int) - 1

/-- Drops trailing zeros, which a neighbour on the grid may have gained. -/
def Scaled.trim : Nat → Scaled → Scaled
  | 0, d => d
  | fuel + 1, d =>
    if d.digits % 10 = 0 && d.digits ≠ 0 then trim fuel ⟨d.digits / 10, d.exponent + 1⟩ else d

/-- Tries the grids with `used`, `used + 1`, … digits; seventeen always suffice. -/
def Rounding.search (r : Rounding) (first : Int) : Nat → Nat → Scaled
  | 0, _ => ⟨r.num / r.den, 0⟩
  | fuel + 1, used =>
    let exponent := first - used + 1
    match r.onGrid? exponent with
    | some digits => Scaled.trim 20 ⟨digits, exponent⟩
    | none => search r first fuel (used + 1)

/-- The shortest decimal of a finite binary64 magnitude other than zero. -/
def shortest (exponent mantissa : Nat) : Scaled :=
  let r := Rounding.ofFields exponent mantissa
  r.search r.firstExponent 17 1

end CypherSynthesis.Decimal
