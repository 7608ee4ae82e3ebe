import CypherSynthesis.Decimal.Shortest

/-!
Numbers of JSON documents. An integer keeps its exact value; every other number is a binary64
number, held by its bits so that equality is exact and both zeros stay apart. Integers are written
in full, and floats with their shortest digits.
-/

namespace CypherSynthesis

inductive Number where
  | integer (value : Int)
  | float (bits : UInt64)
  deriving DecidableEq, Repr

namespace Number

/-- Floats whose first digit has a decimal exponent in this range are written positionally. -/
def leastPositional : Int := -5

@[inherit_doc leastPositional]
def greatestPositional : Int := 15

def zeros (n : Nat) : List Char :=
  List.replicate n '0'

/-- Digits with a point, and at least one digit on either side of it. -/
def positional (digits : List Char) (first : Int) : List Char :=
  if first < 0 then ['0', '.'] ++ zeros (-first - 1).toNat ++ digits
  else
    let whole := first.toNat + 1
    let fraction := digits.drop whole
    digits.take whole ++ zeros (whole - digits.length) ++ ['.'] ++
      (if fraction.isEmpty then ['0'] else fraction)

/-- One digit before the point, no point after a single digit, and a signed exponent. -/
def scientific (digits : List Char) (first : Int) : List Char :=
  let fraction := digits.drop 1
  digits.take 1 ++ (if fraction.isEmpty then [] else ['.'] ++ fraction) ++
    ['e', if first < 0 then '-' else '+'] ++ Nat.toDigits 10 first.natAbs

/-- The text of a finite magnitude given by its exponent and mantissa fields. -/
def magnitude (exponent mantissa : Nat) : List Char :=
  if exponent = 0 && mantissa = 0 then ['0', '.', '0']
  else
    let shortest := Decimal.shortest exponent mantissa
    let digits := Nat.toDigits 10 shortest.digits
    let first := shortest.exponent + digits.length - 1
    if leastPositional ≤ first && first ≤ greatestPositional then positional digits first
    else scientific digits first

def floatText (bits : UInt64) : List Char :=
  let n := bits.toNat
  (if n / Nat.pow 2 63 = 1 then ['-'] else []) ++
    magnitude (n / Nat.pow 2 52 % Nat.pow 2 11) (n % Nat.pow 2 52)

def integerText (value : Int) : List Char :=
  (if value < 0 then ['-'] else []) ++ Nat.toDigits 10 value.natAbs

def text : Number → String
  | .integer value => String.ofList (integerText value)
  | .float bits => String.ofList (floatText bits)

end Number
end CypherSynthesis
