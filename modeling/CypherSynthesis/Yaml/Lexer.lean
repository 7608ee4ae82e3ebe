import CypherSynthesis.Yaml.Token

/-!
The tokens of a YAML text. Indentation opens and closes blocks. A key that no mark introduces shows
only at the colon behind it, and the tokens in front of it are added then.
-/

namespace CypherSynthesis.Yaml

/-- A place where a key may have started. -/
structure KeyStart where
  /-- How many tokens lie before it. -/
  tokens : Nat
  place : Cursor
  /-- Whether a key has to stand here, since a block mapping goes on in this column. -/
  required : Bool

/-- A key ends on the line where it starts, and has at most 1024 characters. -/
def KeyStart.isStale (place : Cursor) (start : KeyStart) : Bool :=
  start.place.line < place.line || start.place.index + 1024 < place.index

structure Lexer where
  cursor : Cursor
  /-- The tokens so far, in reverse, and their number. -/
  tokens : List Token
  count : Nat
  /-- The least column of what belongs to the innermost block; a block starts one column before. -/
  least : Nat
  outerLeast : List Nat
  /-- The key that may have started in the innermost flow collection, or outside of all. -/
  keyStart : Option KeyStart
  outerKeys : List (Option KeyStart)
  /-- Whether a key may start at the next token. -/
  keyAllowed : Bool

namespace Lexer

def ofCursor (cursor : Cursor) : Lexer :=
  ⟨cursor, [], 0, 0, [], none, [], true⟩

def inFlow (lexer : Lexer) : Bool :=
  !lexer.outerKeys.isEmpty

/-! ### Tokens and blocks -/

def emit (token : Token) (lexer : Lexer) : Lexer :=
  { lexer with tokens := token :: lexer.tokens, count := lexer.count + 1 }

/-- Adds tokens in front of those that came after a number of tokens. -/
def insert (position : Nat) (added : List Token) (lexer : Lexer) : Lexer :=
  let (late, early) := lexer.tokens.splitAt (lexer.count - position)
  { lexer with tokens := late ++ added.reverse ++ early, count := lexer.count + added.length }

/-- Closes the blocks that start at the given column or behind it. -/
def closeBlocks (bound : Nat) (lexer : Lexer) : Lexer :=
  let closed := (lexer.least :: lexer.outerLeast).takeWhile (bound < ·)
  let kept := (lexer.least :: lexer.outerLeast).drop closed.length
  let lexer := closed.foldl (fun lexer _ => lexer.emit .blockEnd) lexer
  { lexer with least := kept.head?.getD 0, outerLeast := kept.tail }

/-- Whether a token in the given column starts a new block. -/
def opensBlock (column : Nat) (lexer : Lexer) : Bool :=
  !lexer.inFlow && lexer.least ≤ column

def deepen (column : Nat) (lexer : Lexer) : Lexer :=
  { lexer with least := column + 1, outerLeast := lexer.least :: lexer.outerLeast }

/-- Starts a block at the next token unless it belongs to one that has been started. -/
def openBlock (start : Token) (lexer : Lexer) : Lexer :=
  let column := lexer.cursor.column
  if lexer.opensBlock column then (lexer.emit start).deepen column else lexer

/-! ### Keys -/

/-- Gives up the key that may have started. -/
def dropKey? (lexer : Lexer) : Option Lexer :=
  if lexer.keyStart.any (·.required) then none else some { lexer with keyStart := none }

/-- Remembers that a key may start here. -/
def saveKey? (lexer : Lexer) : Option Lexer :=
  if lexer.keyAllowed then do
    let lexer ← lexer.dropKey?
    let required := !lexer.inFlow && lexer.least = lexer.cursor.column + 1
    return { lexer with keyStart := some ⟨lexer.count, lexer.cursor, required⟩ }
  else some lexer

/-- Gives up the keys that cannot be keys any more. -/
def expireKeys? (lexer : Lexer) : Option Lexer :=
  let isStale := KeyStart.isStale lexer.cursor
  let keys := lexer.keyStart :: lexer.outerKeys
  if keys.any (·.any fun start => isStale start && start.required) then none
  else
    let keep (key : Option KeyStart) : Option KeyStart := key.filter (!isStale ·)
    some { lexer with keyStart := keep lexer.keyStart, outerKeys := lexer.outerKeys.map keep }

/-! ### Reading tokens -/

/-- Passes over blanks, line breaks and comments, and a byte order mark at the start of a line.
Tabs do not count where a key may start; a key may start on every line of a block. -/
def skipGap (flow : Bool) : Nat → Bool → Cursor → Bool × Cursor
  | 0, keyAllowed, cursor => (keyAllowed, cursor)
  | fuel + 1, keyAllowed, cursor =>
    let cursor := if cursor.column = 0 && cursor.startsWith (.ofNat 0xFEFF) then cursor.skip
      else cursor
    let cursor := cursor.skipWhile fun c => c = ' ' || (c = '\t' && (flow || !keyAllowed))
    let cursor := if cursor.startsWith '#' then cursor.skipWhile (!isBreak ·) else cursor
    if cursor.rest.head?.any isBreak then skipGap flow fuel (keyAllowed || !flow) cursor.skip
    else (keyAllowed, cursor)

/-- Emits a token of a number of characters. -/
def mark (token : Token) (length : Nat) (keyAllowed : Bool) (lexer : Lexer) : Lexer :=
  { lexer.emit token with cursor := lexer.cursor.skipMany length, keyAllowed }

/-- Emits what a reader returns for the text from here on. -/
def read? (reader : Cursor → Option (Token × Cursor)) (keyAllowed : Bool) (lexer : Lexer) :
    Option Lexer := do
  let (token, cursor) ← reader lexer.cursor
  return { lexer.emit token with cursor, keyAllowed }

/-- Closes all blocks in front of something that belongs to none. -/
def leaveBlocks? (lexer : Lexer) : Option Lexer :=
  (if lexer.inFlow then lexer else lexer.closeBlocks 0).dropKey?

def flowStart? (token : Token) (lexer : Lexer) : Option Lexer := do
  let lexer ← lexer.saveKey?
  let lexer := { lexer with keyStart := none, outerKeys := lexer.keyStart :: lexer.outerKeys }
  return lexer.mark token 1 true

def flowEnd? (token : Token) (lexer : Lexer) : Option Lexer := do
  let lexer ← lexer.dropKey?
  let lexer := match lexer.outerKeys with
    | [] => lexer
    | key :: keys => { lexer with keyStart := key, outerKeys := keys }
  return lexer.mark token 1 false

/-- The mark of an entry or of a key, which opens a block unless it goes on with one. -/
def entry? (token start : Token) (keyAllowed : Bool) (lexer : Lexer) : Option Lexer := do
  if !lexer.inFlow && !lexer.keyAllowed then none
  else
    let lexer ← (lexer.openBlock start).dropKey?
    return lexer.mark token 1 keyAllowed

/-- The colon in front of a value. The key before it may have started earlier; otherwise it was
marked as one, or is left out. -/
def value? (lexer : Lexer) : Option Lexer :=
  match lexer.keyStart with
  | some start =>
    let column := start.place.column
    let lexer := if lexer.opensBlock column then
        (lexer.insert start.tokens [.blockMappingStart, .key]).deepen column
      else lexer.insert start.tokens [.key]
    some ({ lexer with keyStart := none }.mark .value 1 false)
  | none =>
    if lexer.inFlow then some (lexer.mark .value 1 false)
    else if lexer.keyAllowed then some ((lexer.openBlock .blockMappingStart).mark .value 1 true)
    else none

/-- A plain scalar. If a line ends behind it, a key may start on the next one. -/
def plainScalar? (fuel : Nat) (lexer : Lexer) : Option Lexer := do
  let lexer ← lexer.saveKey?
  let (text, ended, cursor) ← plain? lexer.inFlow lexer.least fuel lexer.cursor [] []
  return { lexer.emit (.scalar text) with cursor, keyAllowed := ended }

/-- The next token, if the text does not end here. -/
def token? (fuel : Nat) (lexer : Lexer) : Option Lexer :=
  let flow := lexer.inFlow
  let cursor := lexer.cursor
  let scalar (reader : Cursor → Option (String × Cursor)) (cursor : Cursor) :
      Option (Token × Cursor) :=
    (reader cursor).map fun (text, cursor) => (.scalar text, cursor)
  let named (token : String → Token) (cursor : Cursor) : Option (Token × Cursor) :=
    (Token.anchorName? cursor).map fun (name, cursor) => (token name, cursor)
  match cursor.rest with
  | [] => none
  | c :: rest =>
    if cursor.column = 0 && c = '%' then do
      (← lexer.leaveBlocks?).read? (Token.directive? fuel) false
    else if cursor.column = 0 && startsWithMarker "---" cursor.rest then do
      return (← lexer.leaveBlocks?).mark .documentStart 3 false
    else if cursor.column = 0 && startsWithMarker "..." cursor.rest then do
      return (← lexer.leaveBlocks?).mark .documentEnd 3 false
    else if c = '[' then lexer.flowStart? .flowSequenceStart
    else if c = '\x7b' then lexer.flowStart? .flowMappingStart
    else if c = ']' then lexer.flowEnd? .flowSequenceEnd
    else if c = '\x7d' then lexer.flowEnd? .flowMappingEnd
    else if c = ',' then do return (← lexer.dropKey?).mark .flowEntry 1 true
    else if c = '-' && isApart rest then lexer.entry? .blockEntry .blockSequenceStart true
    else if c = '?' && (flow || isApart rest) then lexer.entry? .key .blockMappingStart !flow
    else if c = ':' && (flow || isApart rest) then lexer.value?
    else if c = '*' then do (← lexer.saveKey?).read? (named .reference) false
    else if c = '&' then do (← lexer.saveKey?).read? (named .anchor) false
    else if c = '!' then do (← lexer.saveKey?).read? (Token.tag? flow fuel) false
    else if !flow && (c = '|' || c = '>') then do
      (← lexer.dropKey?).read? (scalar (block? fuel lexer.least)) true
    else if c = '\'' || c = '"' then do (← lexer.saveKey?).read? (scalar (quoted? fuel)) false
    else if startsPlain flow cursor.rest then lexer.plainScalar? fuel
    else none

/-- All tokens up to the end of the text. -/
def tokens? (limit : Nat) : Nat → Lexer → Option (List Token)
  | 0, _ => none
  | fuel + 1, lexer => do
    let (keyAllowed, cursor) := skipGap lexer.inFlow limit lexer.keyAllowed lexer.cursor
    let lexer ← { lexer with keyAllowed, cursor }.expireKeys?
    if cursor.rest.isEmpty then return (← lexer.leaveBlocks?).tokens.reverse
    else
      let lexer := if lexer.inFlow then lexer else lexer.closeBlocks (cursor.column + 1)
      tokens? limit fuel (← lexer.token? limit)

end Lexer

/-- The tokens of a text. -/
def Token.ofCursor? (cursor : Cursor) : Option (List Token) :=
  let limit := cursor.rest.length + 1
  (Lexer.ofCursor cursor).tokens? limit limit

end CypherSynthesis.Yaml
