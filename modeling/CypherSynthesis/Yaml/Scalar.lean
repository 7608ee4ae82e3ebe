import CypherSynthesis.Text.Basic
import CypherSynthesis.Yaml.Cursor

/-!
The spellings of a YAML scalar: plain, between quotes, and as a block of lines. The readers return
the text of the scalar and the place behind it.
-/

namespace CypherSynthesis.Yaml

/-- What becomes of a gap inside a scalar. Blanks stay if there is no line break. A single line feed
is a space, and of several line breaks all but a line feed at the start stay. -/
def foldedGap (gap : List Char) : List Char :=
  match gap.filter isBreak with
  | [] => gap
  | ['\n'] => [' ']
  | '\n' :: breaks => breaks
  | breaks => breaks

/-! ### Quoted scalars -/

/-- The text up to the closing single quote, where two quotes stand for one; `done` is in reverse.
-/
def singleQuoted? : Nat → Cursor → List Char → Option (String × Cursor)
  | 0, _, _ => none
  | fuel + 1, cursor, done =>
    if cursor.atMarker then none
    else
      match cursor.rest with
      | [] => none
      | '\'' :: '\'' :: _ => singleQuoted? fuel (cursor.skipMany 2) ('\'' :: done)
      | '\'' :: _ => some (String.ofList done.reverse, cursor.skip)
      | c :: _ =>
        if isGap c then
          let (gap, cursor) := cursor.takeWhile isGap
          singleQuoted? fuel cursor ((foldedGap gap).reverse ++ done)
        else singleQuoted? fuel cursor.skip (c :: done)

/-- A character given by its code in a fixed number of hexadecimal digits. -/
def coded? (digits : Nat) (cs : List Char) : Option Char := do
  let code ← Text.hexNumber? (cs.take digits)
  if cs.length < digits || !code.isValidChar then none else return Char.ofNat code

/-- The character that an escape stands for, and how many characters follow the backslash. -/
def escaped? : List Char → Option (Char × Nat)
  | [] => none
  | c :: rest =>
    match c with
    | '0' => some ('\x00', 1)
    | 'a' => some ('\x07', 1)
    | 'b' => some ('\x08', 1)
    | 't' => some ('\t', 1)
    | '\t' => some ('\t', 1)
    | 'n' => some ('\n', 1)
    | 'v' => some ('\x0b', 1)
    | 'f' => some ('\x0c', 1)
    | 'r' => some ('\r', 1)
    | 'e' => some ('\x1b', 1)
    | ' ' => some (' ', 1)
    | '"' => some ('"', 1)
    | '/' => some ('/', 1)
    | '\\' => some ('\\', 1)
    | 'N' => some (Char.ofNat 0x85, 1)
    | '_' => some (Char.ofNat 0xA0, 1)
    | 'L' => some (Char.ofNat 0x2028, 1)
    | 'P' => some (Char.ofNat 0x2029, 1)
    | 'x' => (coded? 2 rest).map (·, 3)
    | 'u' => (coded? 4 rest).map (·, 5)
    | 'U' => (coded? 8 rest).map (·, 9)
    | _ => none

/-- The text up to the closing double quote, with its escapes resolved. An escaped line break is
dropped together with the blanks behind it. -/
def doubleQuoted? : Nat → Cursor → List Char → Option (String × Cursor)
  | 0, _, _ => none
  | fuel + 1, cursor, done =>
    if cursor.atMarker then none
    else
      match cursor.rest with
      | [] => none
      | '"' :: _ => some (String.ofList done.reverse, cursor.skip)
      | '\\' :: rest =>
        if rest.head?.any isBreak then
          let (gap, cursor) := (cursor.skipMany 2).takeWhile isGap
          doubleQuoted? fuel cursor ((gap.filter isBreak).reverse ++ done)
        else
          match escaped? rest with
          | some (c, count) => doubleQuoted? fuel (cursor.skipMany (count + 1)) (c :: done)
          | none => none
      | c :: _ =>
        if isGap c then
          let (gap, cursor) := cursor.takeWhile isGap
          doubleQuoted? fuel cursor ((foldedGap gap).reverse ++ done)
        else doubleQuoted? fuel cursor.skip (c :: done)

/-- A quoted scalar from its first quote on. -/
def quoted? (fuel : Nat) (cursor : Cursor) : Option (String × Cursor) :=
  if cursor.startsWith '"' then doubleQuoted? fuel cursor.skip []
  else singleQuoted? fuel cursor.skip []

/-! ### Plain scalars -/

/-- Whether a plain scalar can start here. -/
def startsPlain (flow : Bool) : List Char → Bool
  | [] => false
  | c :: rest =>
    if c = '-' then !rest.head?.any isBlank
    else if c = '?' || c = ':' then !flow && !isApart rest
    else !(isFlowMark c || isGap c ||
      ['#', '&', '*', '!', '|', '>', '\'', '"', '%', '@', '\x60'].contains c)

/-- Whether a gap that starts in the given column indents a line by a tab where `least` blanks are
due. -/
def hasStrayTab (least : Nat) : Bool → Nat → List Char → Bool
  | _, _, [] => false
  | broken, column, c :: gap =>
    if isBreak c then hasStrayTab least true 0 gap
    else (broken && c = '\t' && column < least) || hasStrayTab least broken (column + 1) gap

/-- The text of a plain scalar, whose lines are indented by at least `least`; also whether it ends
in front of a new line. The gap in front of the place belongs to the text only if more follows. -/
def plain? (flow : Bool) (least : Nat) :
    Nat → Cursor → List Char → List Char → Option (String × Bool × Cursor)
  | 0, _, _, _ => none
  | fuel + 1, cursor, gap, done =>
    let whole := some (String.ofList done.reverse, gap.any isBreak, cursor)
    match cursor.rest with
    | [] => whole
    | c :: rest =>
      if isGap c then
        let (gap, after) := cursor.takeWhile isGap
        if hasStrayTab least false cursor.column gap then none
        else if (!flow && after.column < least) || after.atMarker || after.startsWith '#' then
          some (String.ofList done.reverse, gap.any isBreak, after)
        else plain? flow least fuel after gap done
      else if flow && c = ':' && rest.head?.any (fun d => isFlowMark d || d = '?') then none
      else if (c = ':' && isApart rest) || (flow && isFlowMark c) then whole
      else plain? flow least fuel cursor.skip [] (c :: ((foldedGap gap).reverse ++ done))

/-! ### Block scalars -/

/-- Whether the line breaks at the end of a block are dropped, cut to one, or kept. -/
inductive Chomping where
  | strip
  | clip
  | keep
  deriving DecidableEq, Repr

structure BlockHeader where
  folded : Bool
  chomping : Chomping
  /-- How much deeper than its parent the block is indented, if the header says so. -/
  increment : Option Nat

def chomping? : List Char → Option Chomping
  | '-' :: _ => some .strip
  | '+' :: _ => some .keep
  | _ => none

/-- An indentation indicator, which must not be zero. -/
def increment? : List Char → Option (Option Nat)
  | [] => some none
  | c :: _ =>
    if c = '0' then none
    else if c.isDigit then some (some (c.toNat - '0'.toNat))
    else some none

/-- The header of a block scalar, up to the end of its line. -/
def blockHeader? (cursor : Cursor) : Option (BlockHeader × Cursor) := do
  let folded := cursor.startsWith '>'
  let cursor := cursor.skip
  let before := chomping? cursor.rest
  let cursor := if before.isSome then cursor.skip else cursor
  let increment ← increment? cursor.rest
  let cursor := if increment.isSome then cursor.skip else cursor
  let after := if before.isNone && increment.isSome then chomping? cursor.rest else none
  let cursor := if after.isSome then cursor.skip else cursor
  return (⟨folded, (before.orElse fun _ => after).getD .clip, increment⟩, ← cursor.skipLine?)

/-- The line breaks in front of the next line with content, whose indentation is passed over up to
the given column, and the widest indentation of all these lines. -/
def blockBreaks? (indent : Option Nat) :
    Nat → Cursor → List Char → Nat → Option (List Char × Nat × Cursor)
  | 0, _, _, _ => none
  | fuel + 1, cursor, breaks, widest =>
    let spaces := (cursor.rest.takeWhile (· = ' ')).length
    let cursor := cursor.skipMany ((indent.map fun n => min spaces (n - cursor.column)).getD spaces)
    let widest := max widest cursor.column
    match cursor.rest with
    | [] => some (breaks.reverse, widest, cursor)
    | c :: _ =>
      if c = '\t' && indent.all (cursor.column < ·) then none
      else if isBreak c then blockBreaks? indent fuel cursor.skip (c :: breaks) widest
      else some (breaks.reverse, widest, cursor)

/-- What has been read of a block scalar: its lines in reverse, the line break behind the last of
them, those of the empty lines after it, and whether it started with a blank. -/
structure BlockText where
  done : List Char
  ending : List Char
  empties : List Char
  spaced : Bool

namespace BlockText

/-- Adds a line with content; folding joins it to the last line unless one of them starts with a
blank. -/
def add (block : BlockText) (fold : Bool) (line ending empties : List Char) : BlockText :=
  let spaced := line.head?.any isBlank
  let between :=
    if fold && block.ending = ['\n'] && !block.spaced && !spaced then
      if block.empties.isEmpty then [' '] else []
    else block.ending
  ⟨(between ++ block.empties ++ line).reverse ++ block.done, ending, empties, spaced⟩

def finish (block : BlockText) (chomping : Chomping) : String :=
  String.ofList (block.done.reverse ++
    match chomping with
    | .strip => []
    | .clip => block.ending
    | .keep => block.ending ++ block.empties)

end BlockText

/-- Reads lines as long as they belong to the block. -/
def blockLines? (fold : Bool) (indent : Nat) :
    Nat → Cursor → BlockText → Option (BlockText × Cursor)
  | 0, _, _ => none
  | fuel + 1, cursor, block =>
    if cursor.column ≠ indent || cursor.rest.isEmpty then some (block, cursor)
    else
      let (line, cursor) := cursor.takeWhile (!isBreak ·)
      let ending := cursor.rest.take 1
      match blockBreaks? (some indent) fuel cursor.skip [] 0 with
      | some (empties, _, cursor) =>
        blockLines? fold indent fuel cursor (block.add fold line ending empties)
      | none => none

/-- A block scalar from its header on, whose lines are indented by at least `least`. Without an
indicator its indentation is that of the first line with content, or of an empty line before it that
is wider. -/
def block? (fuel least : Nat) (cursor : Cursor) : Option (String × Cursor) := do
  let (header, cursor) ← blockHeader? cursor
  let given := header.increment.map (least - 1 + ·)
  let (empties, widest, cursor) ← blockBreaks? given fuel cursor [] 0
  let indent := given.getD (max widest (max least 1))
  let (block, cursor) ← blockLines? header.folded indent fuel cursor ⟨[], [], empties, false⟩
  return (block.finish header.chomping, cursor)

end CypherSynthesis.Yaml
