import CypherSynthesis.Yaml.Scalar

/-!
The tokens of a YAML text, and the spelling of those that are more than a mark.
-/

namespace CypherSynthesis.Yaml

inductive Token where
  | version (major minor : Nat)
  /-- The definition of a tag handle. -/
  | tagHandle (name : String)
  | documentStart
  | documentEnd
  | blockSequenceStart
  | blockMappingStart
  | blockEnd
  | flowSequenceStart
  | flowSequenceEnd
  | flowMappingStart
  | flowMappingEnd
  | blockEntry
  | flowEntry
  | key
  | value
  | reference (anchor : String)
  | anchor (name : String)
  /-- A tag by its handle; the rest of it has no meaning here. -/
  | tag (handle : String)
  | scalar (text : String)
  deriving DecidableEq, Repr

namespace Token

/-! ### Anchors -/

def isNameChar (c : Char) : Bool :=
  c.isAlphanum || c = '_' || c = '-'

/-- Whether an anchor may end in front of a text. -/
def endsAnchor (cs : List Char) : Bool :=
  isApart cs || cs.head?.any ['?', ':', ',', ']', '\x7d', '%', '@', '\x60'].contains

/-- The name behind the mark of an anchor or a reference. -/
def anchorName? (cursor : Cursor) : Option (String × Cursor) :=
  let (name, cursor) := cursor.skip.takeWhile isNameChar
  if !name.isEmpty && endsAnchor cursor.rest then some (String.ofList name, cursor) else none

/-! ### Tags -/

def isTagChar (verbatim : Bool) (c : Char) : Bool :=
  isNameChar c || [';', '/', '?', ':', '@', '&', '=', '+', '$', '.', '!', '~', '*', '\'', '(',
    ')'].contains c || (verbatim && (c = ',' || c = '[' || c = ']'))

/-- How many more bytes follow the first byte of a character. -/
def moreBytes? (byte : Nat) : Option Nat :=
  if byte < 0x80 then some 0
  else if 0xC0 ≤ byte && byte < 0xE0 then some 1
  else if 0xE0 ≤ byte && byte < 0xF0 then some 2
  else if 0xF0 ≤ byte && byte < 0xF8 then some 3
  else none

/-- A byte behind a percent sign. -/
def percentByte? (cursor : Cursor) : Option (Nat × Cursor) :=
  match cursor.rest with
  | '%' :: high :: low :: _ => (Text.hexNumber? [high, low]).map (·, cursor.skipMany 3)
  | _ => none

def furtherBytes? : Nat → Cursor → Option Cursor
  | 0, cursor => some cursor
  | count + 1, cursor => do
    let (byte, cursor) ← percentByte? cursor
    if 0x80 ≤ byte && byte < 0xC0 then furtherBytes? count cursor else none

/-- Passes over the characters of a tag; those behind a percent sign are given by their bytes. -/
def skipTagChars? (verbatim : Bool) : Nat → Cursor → Option Cursor
  | 0, _ => none
  | fuel + 1, cursor =>
    match cursor.rest with
    | [] => some cursor
    | '%' :: _ => do
      let (byte, cursor) ← percentByte? cursor
      skipTagChars? verbatim fuel (← furtherBytes? (← moreBytes? byte) cursor)
    | c :: _ =>
      if isTagChar verbatim c then skipTagChars? verbatim fuel cursor.skip else some cursor

/-- The same, but there has to be a character. -/
def skipTag? (verbatim : Bool) (fuel : Nat) (cursor : Cursor) : Option Cursor := do
  let after ← skipTagChars? verbatim fuel cursor
  if after.index = cursor.index then none else return after

/-- What a tag starts with: an exclamation mark and a name, and perhaps another exclamation mark. -/
def tagStart (cursor : Cursor) : String × Cursor :=
  let (name, cursor) := cursor.skip.takeWhile isNameChar
  if cursor.startsWith '!' then ("!" ++ String.ofList name ++ "!", cursor.skip)
  else ("!" ++ String.ofList name, cursor)

def isHandle (start : String) : Bool :=
  1 < start.length && start.toList.getLast? = some '!'

/-- The handle of a tag from its exclamation mark on. A tag in angle brackets and the exclamation
mark alone have none. -/
def tagHandle? (fuel : Nat) (cursor : Cursor) : Option (String × Cursor) :=
  if cursor.skip.startsWith '<' then do
    let cursor ← skipTag? true fuel (cursor.skipMany 2)
    if cursor.startsWith '>' then return ("", cursor.skip) else none
  else
    let (start, after) := tagStart cursor
    if isHandle start then do return (start, ← skipTag? false fuel after)
    else do return ("!", ← skipTagChars? false fuel after)

/-- A tag, which ends in front of a gap, or of a comma inside a flow collection. -/
def tag? (flow : Bool) (fuel : Nat) (cursor : Cursor) : Option (Token × Cursor) := do
  let (handle, cursor) ← tagHandle? fuel cursor
  if isApart cursor.rest || (flow && cursor.startsWith ',') then return (.tag handle, cursor)
  else none

/-! ### Directives -/

/-- A number of a version, which has at most nine digits. -/
def versionNumber? (cursor : Cursor) : Option (Nat × Cursor) :=
  let (digits, cursor) := cursor.takeWhile Char.isDigit
  if digits.isEmpty || 9 < digits.length then none
  else some (digits.foldl (fun n c => 10 * n + (c.toNat - '0'.toNat)) 0, cursor)

def versionDirective? (cursor : Cursor) : Option (Token × Cursor) := do
  let (major, cursor) ← versionNumber? (cursor.skipWhile isBlank)
  if cursor.startsWith '.' then
    let (minor, cursor) ← versionNumber? cursor.skip
    return (.version major minor, cursor)
  else none

def handleDirective? (fuel : Nat) (cursor : Cursor) : Option (Token × Cursor) := do
  let cursor := cursor.skipWhile isBlank
  if !cursor.startsWith '!' then none
  else
    let (handle, cursor) := tagStart cursor
    if !(handle = "!" || isHandle handle) || !cursor.rest.head?.any isBlank then none
    else
      let cursor ← skipTag? true fuel (cursor.skipWhile isBlank)
      if isApart cursor.rest then return (.tagHandle handle, cursor) else none

/-- A directive from its percent sign to the end of the line: the version of the format, or the
definition of a tag handle. -/
def directive? (fuel : Nat) (cursor : Cursor) : Option (Token × Cursor) := do
  let (name, cursor) := cursor.skip.takeWhile isNameChar
  let (token, cursor) ←
    if !isApart cursor.rest then none
    else if name = "YAML".toList then versionDirective? cursor
    else if name = "TAG".toList then handleDirective? fuel cursor
    else none
  return (token, ← cursor.skipLine?)

end Token
end CypherSynthesis.Yaml
