import CypherSynthesis.Text.Basic
import CypherSynthesis.Text.Category

/-!
Text shown inside messages: between double quotes, with characters that cannot be shown written as
escapes. Those are control and format characters, unassigned and private code points, separators other
than the plain space, fillers that leave no mark, and marks that attach to the character before them.
Byte strings are shown the same way, with stray bytes in hexadecimal.
-/

namespace CypherSynthesis.Text

/-- Spacing marks that attach to the character before them all the same (Grapheme_Extend). -/
def extendingStrides : List Stride :=
  [⟨0x9BE, 0x9BE, 1⟩, ⟨0x9D7, 0x9D7, 1⟩, ⟨0xB3E, 0xB3E, 1⟩, ⟨0xB57, 0xB57, 1⟩, ⟨0xBBE, 0xBBE, 1⟩,
   ⟨0xBD7, 0xBD7, 1⟩, ⟨0xCC0, 0xCC2, 2⟩, ⟨0xCC7, 0xCC8, 1⟩, ⟨0xCCA, 0xCCB, 1⟩, ⟨0xCD5, 0xCD6, 1⟩,
   ⟨0xD3E, 0xD3E, 1⟩, ⟨0xD57, 0xD57, 1⟩, ⟨0xDCF, 0xDCF, 1⟩, ⟨0xDDF, 0xDDF, 1⟩,
   ⟨0x1715, 0x1715, 1⟩, ⟨0x1734, 0x1734, 1⟩, ⟨0x1B35, 0x1B35, 1⟩, ⟨0x1B3B, 0x1B3D, 2⟩,
   ⟨0x1B43, 0x1B44, 1⟩, ⟨0x1BAA, 0x1BAA, 1⟩, ⟨0x1BF2, 0x1BF3, 1⟩, ⟨0x302E, 0x302F, 1⟩,
   ⟨0xA953, 0xA953, 1⟩, ⟨0xA9C0, 0xA9C0, 1⟩, ⟨0x111C0, 0x111C0, 1⟩, ⟨0x11235, 0x11235, 1⟩,
   ⟨0x1133E, 0x1133E, 1⟩, ⟨0x1134D, 0x1134D, 1⟩, ⟨0x11357, 0x11357, 1⟩, ⟨0x113B8, 0x113B8, 1⟩,
   ⟨0x113C2, 0x113C2, 1⟩, ⟨0x113C5, 0x113C7, 2⟩, ⟨0x113C8, 0x113C9, 1⟩, ⟨0x113CF, 0x113CF, 1⟩,
   ⟨0x114B0, 0x114B0, 1⟩, ⟨0x114BD, 0x114BD, 1⟩, ⟨0x115AF, 0x115AF, 1⟩, ⟨0x116B6, 0x116B6, 1⟩,
   ⟨0x11930, 0x11930, 1⟩, ⟨0x1193D, 0x1193D, 1⟩, ⟨0x11F41, 0x11F41, 1⟩, ⟨0x16FF0, 0x16FF1, 1⟩,
   ⟨0x1D165, 0x1D166, 1⟩, ⟨0x1D16D, 0x1D172, 1⟩]

/-- Letters that leave no mark (Default_Ignorable_Code_Point). -/
def fillerStrides : List Stride :=
  [⟨0x115F, 0x1160, 1⟩, ⟨0x3164, 0x3164, 1⟩, ⟨0xFFA0, 0xFFA0, 1⟩]

def unprintableCategories : List Category :=
  Category.others ++ Category.separators ++ [.nonspacingMark, .enclosingMark]

def isPrintable (c : Char) : Bool :=
  c = ' ' || !(inCategories unprintableCategories c ||
    onStrides extendingStrides c.toNat || onStrides fillerStrides c.toNat)

/-- Lower-case hexadecimal digits of a code point in braces. -/
def codeEscape (c : Char) : List Char :=
  ['\\', 'u', '\x7b'] ++ Nat.toDigits 16 c.toNat ++ ['\x7d']

/-- How a character is shown between double quotes. -/
def shown (c : Char) : List Char :=
  if c = '\x00' then ['\\', '0']
  else if c = '\t' then ['\\', 't']
  else if c = '\r' then ['\\', 'r']
  else if c = '\n' then ['\\', 'n']
  else if c = '"' || c = '\\' then ['\\', c]
  else if isPrintable c then [c]
  else codeEscape c

def quoted (s : String) : String :=
  String.ofList (['"'] ++ s.toList.flatMap shown ++ ['"'])

/-- A stray byte as two upper-case hexadecimal digits. -/
def byteEscape (byte : UInt8) : List Char :=
  ['\\', 'x'] ++ [byte.toNat / 16, byte.toNat % 16].map fun n => (Nat.digitChar n).toUpper

def Rune.shown : Rune → List Char
  | .char c => Text.shown c
  | .stray byte => byteEscape byte

def quotedBytes (bytes : List UInt8) : String :=
  String.ofList (['"'] ++ (runes bytes).flatMap Rune.shown ++ ['"'])

end CypherSynthesis.Text
