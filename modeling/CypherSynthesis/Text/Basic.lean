/-!
White space in the Unicode sense, hexadecimal digits in either case, and bytes read as UTF-8. Bytes that
belong to no well-formed character are kept apart as strays, so nothing is lost; a byte string is text
exactly when it has no strays.
-/

namespace CypherSynthesis.Text

/-- The code points of the property White_Space. -/
def blankRanges : List (Nat × Nat) :=
  [(0x9, 0xD), (0x20, 0x20), (0x85, 0x85), (0xA0, 0xA0), (0x1680, 0x1680),
   (0x2000, 0x200A), (0x2028, 0x2029), (0x202F, 0x202F), (0x205F, 0x205F), (0x3000, 0x3000)]

def isBlank (c : Char) : Bool :=
  blankRanges.any fun (first, last) => first ≤ c.toNat && c.toNat ≤ last

/-- Nothing is left when white space is trimmed. -/
def isBlankText (s : String) : Bool :=
  s.toList.all isBlank

/-- Drops white space at both ends. -/
def trim (s : String) : String :=
  String.ofList ((s.toList.dropWhile isBlank).reverse.dropWhile isBlank).reverse

def hexValue? (c : Char) : Option Nat :=
  if c.isDigit then some (c.toNat - '0'.toNat)
  else if 'a' ≤ c && c ≤ 'f' then some (c.toNat - 'a'.toNat + 10)
  else if 'A' ≤ c && c ≤ 'F' then some (c.toNat - 'A'.toNat + 10)
  else none

/-- The number that a run of digits spells. -/
def hexNumber? (cs : List Char) : Option Nat :=
  cs.foldlM (fun n c => (hexValue? c).map (n * 16 + ·)) 0

inductive Rune where
  | char (c : Char)
  | stray (byte : UInt8)
  deriving DecidableEq, Repr

def Rune.char? : Rune → Option Char
  | .char c => some c
  | .stray _ => none

/-- The six bits of a continuation byte. -/
def continuation? (byte : UInt8) : Option Nat :=
  if 0x80 ≤ byte && byte ≤ 0xBF then some (byte.toNat - 0x80) else none

/-- The code point spelled by a lead byte's bits and `count` continuation bytes. -/
def codePoint? (lead : Nat) : Nat → List UInt8 → Option Nat
  | 0, _ => some lead
  | _ + 1, [] => none
  | count + 1, byte :: rest => do codePoint? (lead * 64 + (← continuation? byte)) count rest

/-- A code point of at least `least`, so that no shorter spelling exists, which is a character. -/
def character? (least code : Nat) : Option Char :=
  if least ≤ code && code.isValidChar then some (Char.ofNat code) else none

/-- The character that starts with the byte `lead`, and how many further bytes it takes. -/
def leading? (lead : UInt8) (rest : List UInt8) : Option (Char × Nat) :=
  let spelled (mark least count : Nat) : Option (Char × Nat) := do
    let code ← codePoint? (lead.toNat - mark) count rest
    return (← character? least code, count)
  if lead < 0x80 then some (Char.ofNat lead.toNat, 0)
  else if lead < 0xC0 then none
  else if lead < 0xE0 then spelled 0xC0 0x80 1
  else if lead < 0xF0 then spelled 0xE0 0x800 2
  else if lead < 0xF8 then spelled 0xF0 0x10000 3
  else none

/-- Reads on after `skip` bytes that the last character took. -/
def runesAfter : Nat → List UInt8 → List Rune
  | _, [] => []
  | skip + 1, _ :: rest => runesAfter skip rest
  | 0, byte :: rest =>
    match leading? byte rest with
    | some (c, count) => .char c :: runesAfter count rest
    | none => .stray byte :: runesAfter 0 rest

def runes (bytes : List UInt8) : List Rune :=
  runesAfter 0 bytes

/-- The text that the bytes spell, if they are UTF-8. -/
def ofUtf8? (bytes : List UInt8) : Option String :=
  ((runes bytes).mapM Rune.char?).map String.ofList

end CypherSynthesis.Text
