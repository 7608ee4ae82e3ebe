/-!
The characters of a YAML text, and places in it.
-/

namespace CypherSynthesis.Yaml

def isBlank (c : Char) : Bool :=
  c = ' ' || c = '\t'

/-- A line feed, or one of the separators that stay as they are. -/
def isBreak (c : Char) : Bool :=
  c = '\n' || c.toNat = 0x2028 || c.toNat = 0x2029

/-- A character between words or lines. -/
def isGap (c : Char) : Bool :=
  isBlank c || isBreak c

/-- Whether a text starts with a blank or a line break, or is empty. -/
def isApart : List Char → Bool
  | [] => true
  | c :: _ => isGap c

def isFlowMark (c : Char) : Bool :=
  c = ',' || c = '[' || c = ']' || c = '\x7b' || c = '\x7d'

/-- Whether a text starts with a marker of documents that stands for itself. -/
def startsWithMarker (marker : String) (cs : List Char) : Bool :=
  marker.toList.isPrefixOf cs && isApart (cs.drop marker.length)

/-- A place in a text, with the number of characters before it, and its line and column. -/
structure Cursor where
  rest : List Char
  index : Nat
  line : Nat
  column : Nat

namespace Cursor

def ofList (cs : List Char) : Cursor :=
  ⟨cs, 0, 0, 0⟩

/-- The place behind the next character. -/
def skip (cursor : Cursor) : Cursor :=
  match cursor.rest with
  | [] => cursor
  | c :: rest =>
    if isBreak c then ⟨rest, cursor.index + 1, cursor.line + 1, 0⟩
    else ⟨rest, cursor.index + 1, cursor.line, cursor.column + 1⟩

def skipMany : Nat → Cursor → Cursor
  | 0, cursor => cursor
  | count + 1, cursor => skipMany count cursor.skip

/-- The next characters as long as they are accepted, and the place behind them. -/
def takeWhile (accepts : Char → Bool) (cursor : Cursor) : List Char × Cursor :=
  let taken := cursor.rest.takeWhile accepts
  (taken, cursor.skipMany taken.length)

def skipWhile (accepts : Char → Bool) (cursor : Cursor) : Cursor :=
  (cursor.takeWhile accepts).2

def startsWith (c : Char) (cursor : Cursor) : Bool :=
  cursor.rest.head? = some c

/-- Whether a document starts or ends here. -/
def atMarker (cursor : Cursor) : Bool :=
  cursor.column = 0 && (startsWithMarker "---" cursor.rest || startsWithMarker "..." cursor.rest)

/-- Passes over blanks and a comment to the end of the line, and over the line break. -/
def skipLine? (cursor : Cursor) : Option Cursor :=
  let cursor := cursor.skipWhile isBlank
  let cursor := if cursor.startsWith '#' then cursor.skipWhile (!isBreak ·) else cursor
  match cursor.rest with
  | [] => some cursor
  | c :: _ => if isBreak c then some cursor.skip else none

end Cursor
end CypherSynthesis.Yaml
