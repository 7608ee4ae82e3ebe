import CypherSynthesis.Regex.Meaning
import CypherSynthesis.Regex.Room
import CypherSynthesis.Text.Alphanumeric
import CypherSynthesis.Text.Basic
import CypherSynthesis.Unicode.Property

/-!
Reading patterns. A text that is not a pattern is refused as a whole.
-/

namespace CypherSynthesis.Regex

/-- Where the reading of a pattern has got to. -/
structure Cursor where
  rest : List Char
  /-- Blanks and comments do not count. -/
  loose : Bool
  /-- The names that groups have been given. -/
  names : List (List Char)

abbrev Reader := StateT Cursor Option

namespace Reader

/-! ### Characters -/

/-- Drops blanks, and comments from a number sign to the end of the line. -/
def dropLoose : Bool → List Char → List Char
  | _, [] => []
  | true, c :: rest => dropLoose (c ≠ '\n') rest
  | false, c :: rest =>
    if Text.isBlank c then dropLoose false rest
    else if c = '#' then dropLoose true rest
    else c :: rest

def drop (count : Nat) : Reader Unit :=
  modify fun cursor => { cursor with rest := cursor.rest.drop count }

def skip : Reader Unit :=
  modify fun cursor =>
    if cursor.loose then { cursor with rest := dropLoose false cursor.rest } else cursor

/-- Passes over one character and what does not count behind it. -/
def step : Reader Unit := do
  drop 1
  skip

/-- The next character, which there has to be. -/
def current : Reader Char := do
  match (← get).rest with
  | c :: _ => return c
  | [] => failure

def next? : Reader (Option Char) := do
  return (← get).rest.head?

def startsWith (text : String) : Reader Bool := do
  return text.toList.isPrefixOf (← get).rest

def collectUpTo (accepts : Char → Bool) : Nat → Reader (List Char)
  | 0 => return []
  | fuel + 1 => do
    match (← get).rest with
    | [] => return []
    | c :: _ =>
      if accepts c then
        step
        return c :: (← collectUpTo accepts fuel)
      else return []

/-- Passes over characters as long as they are accepted. -/
def collect (accepts : Char → Bool) : Reader (List Char) := do
  collectUpTo accepts (← get).rest.length

/-! ### Escapes -/

/-- The character of a code point in hexadecimal digits. -/
def codePoint? (digits : List Char) : Option Char := do
  let n ← Text.hexNumber? digits
  guard (!digits.isEmpty && n.isValidChar)
  return .ofNat n

def hexDigits : Nat → Reader (List Char)
  | 0 => return []
  | count + 1 => do
    let c ← current
    guard (Unicode.asciiHexDigit.holds c)
    step
    return c :: (← hexDigits count)

/-- A code point in braces or with a fixed number of digits. -/
def hexadecimal (width : Nat) : Reader Literal := do
  step
  if (← current) = '\x7b' then
    step
    let digits ← collect Unicode.asciiHexDigit.holds
    guard ((← current) = '\x7d')
    step
    return ⟨← codePoint? digits, false⟩
  else
    return ⟨← codePoint? (← hexDigits width), width = 2⟩

def property (negated : Bool) : Reader CharClass := do
  step
  let c ← current
  if c = '\x7b' then
    step
    let name ← collect (· ≠ '\x7d')
    guard ((← current) = '\x7d')
    drop 1
    return .property (← Unicode.property? name) negated
  else
    guard (c ≠ '\\')
    step
    return .property (← Unicode.property? [c]) negated

def shorthands : List (Char × Shorthand × Bool) :=
  [('d', .digit, false), ('s', .space, false), ('w', .word, false),
   ('D', .digit, true), ('S', .space, true), ('W', .word, true)]

def controlLetters : List (Char × Char) :=
  [('a', '\x07'), ('f', '\x0c'), ('t', '\t'), ('n', '\n'), ('r', '\r'), ('v', '\x0b')]

def boundaryNames : List (String × Assertion) :=
  [("start", .wordStart), ("end", .wordEnd),
   ("start-half", .wordStartHalf), ("end-half", .wordEndHalf)]

/-- A boundary, which may be followed by its kind in braces. Braces around something else are left
for a repetition. -/
def boundary : Reader Assertion := do
  let isLetter (c : Char) : Bool := c.isAlpha || c = '-'
  if (← next?) = some '\x7b' then
    let before ← get
    step
    if isLetter (← current) then
      let name ← collect isLetter
      guard ((← current) = '\x7d')
      drop 1
      boundaryNames.lookup (String.ofList name)
    else
      set before
      return .boundary
  else return .boundary

/-- Characters that stand for themselves behind a backslash. -/
def isEscapable (c : Char) : Bool :=
  c.toNat < 0x80 && !c.isAlphanum && c ≠ '<' && c ≠ '>'

def escape : Reader Pattern := do
  drop 1
  let c ← current
  if c = 'x' then return .literal (← hexadecimal 2)
  else if c = 'u' then return .literal (← hexadecimal 4)
  else if c = 'U' then return .literal (← hexadecimal 8)
  else if c = 'p' || c = 'P' then return .chars (← property (c = 'P'))
  else
    drop 1
    if isEscapable c then return .literal ⟨c, false⟩
    else
      match shorthands.lookup c, controlLetters.lookup c with
      | some (kind, negated), _ => return .chars (.shorthand kind negated)
      | none, some control => return .literal ⟨control, false⟩
      | none, none =>
        match c with
        | 'A' => return .assertion .textStart
        | 'z' => return .assertion .textEnd
        | 'b' => return .assertion (← boundary)
        | 'B' => return .assertion .noBoundary
        | '<' => return .assertion .wordStart
        | '>' => return .assertion .wordEnd
        | _ => failure

/-! ### Classes -/

/-- A POSIX class between `[:` and `:]`, and what follows it. -/
def posix? (text : List Char) : Option (CharClass × List Char) := do
  let (negated, text) ← match text with
    | '[' :: ':' :: '^' :: rest => some (true, rest)
    | '[' :: ':' :: rest => some (false, rest)
    | _ => none
  let name := text.takeWhile (· ≠ ':')
  match text.dropWhile (· ≠ ':') with
  | ':' :: ']' :: rest => return (.posix (← posixSets.lookup (String.ofList name)) negated, rest)
  | _ => none

/-- One member of a class, or the end of a range. -/
def member : Reader Pattern := do
  let c ← current
  if c = '\\' then escape
  else
    drop 1
    return .literal ⟨c, false⟩

def memberClass : Pattern → Option CharClass
  | .literal l => some (.literal l)
  | .chars members => some members
  | _ => none

/-- A member, or a range of members. A hyphen in front of the closing bracket or of another hyphen
does not make a range. -/
def range : Reader CharClass := do
  let first ← member
  skip
  if (← current) ≠ '-' then memberClass first
  else
    let cursor ← get
    step
    match ← next? with
    | some ']' | some '-' =>
      set cursor
      memberClass first
    | _ =>
      match first, ← member with
      | .literal first, .literal last =>
        guard (first.char.toNat ≤ last.char.toNat)
        return .range first last
      | _, _ => failure

mutual

/-- A class in brackets. A hyphen or a closing bracket at its start stands for itself. -/
def bracket : Nat → Reader CharClass
  | 0 => failure
  | fuel + 1 => do
    step
    let negated := (← current) = '^'
    if negated then step
    let hyphens ← collect (· = '-')
    let start := hyphens.foldl (fun members c => members.add (.literal ⟨c, false⟩)) .empty
    if hyphens.isEmpty && (← current) = ']' then
      step
      return .bracket negated (← members fuel id (.literal ⟨']', false⟩))
    else return .bracket negated (← members fuel id start)

/-- The members up to the closing bracket; `pending` is the operation that they are the right side
of. -/
def members : Nat → (CharClass → CharClass) → CharClass → Reader CharClass
  | 0, _, _ => failure
  | fuel + 1, pending, read => do
    skip
    match (← get).rest with
    | [] => failure
    | ']' :: _ =>
      drop 1
      return pending read
    | '&' :: '&' :: _ =>
      drop 2
      members fuel (.inter (pending read)) .empty
    | '-' :: '-' :: _ =>
      drop 2
      members fuel (.diff (pending read)) .empty
    | '~' :: '~' :: _ =>
      drop 2
      members fuel (.symmDiff (pending read)) .empty
    | '[' :: rest =>
      match posix? ('[' :: rest) with
      | some (posix, rest) =>
        modify ({ · with rest := rest })
        members fuel pending (read.add posix)
      | none => members fuel pending (read.add (← bracket fuel))
    | _ => members fuel pending (read.add (← range))

end

/-! ### Repetition -/

/-- A repetition needs something to repeat. -/
def repeatable : List Pattern → Option (Pattern × List Pattern)
  | [] | .flags _ :: _ => none
  | pattern :: before => some (pattern, before)

/-- A mark that prefers short matches, which makes no difference. -/
def dropLazy : Reader Unit := do
  if (← next?) = some '?' then drop 1

/-- A count, with blanks around it in any case. -/
def count : Reader Nat := do
  modify fun cursor => { cursor with rest := cursor.rest.dropWhile Text.isBlank }
  let digits ← collect Char.isDigit
  let _ ← collect Text.isBlank
  let n := digits.foldl (fun n c => 10 * n + (c.toNat - '0'.toNat)) 0
  guard (!digits.isEmpty && n < UInt32.size)
  return n

/-- The bounds of a repetition in braces. -/
def bounds : Reader (Nat × Option Nat) := do
  step
  let least ← count
  let most ← if (← current) = ',' then
      step
      if (← current) = '\x7d' then pure none else some <$> count
    else pure (some least)
  guard ((← current) = '\x7d' && most.all (least ≤ ·))
  step
  dropLazy
  return (least, most)

/-! ### Groups -/

/-- How a group starts; flags alone make no group. -/
inductive Opening where
  | flags (changes : FlagChanges)
  | group (changes : FlagChanges)
  | capture

def flagLetters : List (Char × Flag) :=
  [('i', .ignoreCase), ('m', .multiLine), ('s', .dotAll), ('u', .unicode), ('R', .crlf),
   ('U', .swapGreed), ('x', .loose)]

/-- Flags up to a colon or a closing parenthesis. Those behind a hyphen are taken back; `waiting` is
set right behind the hyphen. -/
def flagChanges : Nat → Bool → Bool → FlagChanges → Reader FlagChanges
  | 0, _, _, _ => failure
  | fuel + 1, on, waiting, read => do
    let c ← current
    if c = ':' || c = ')' then
      guard !waiting
      return read
    else if c = '-' then
      guard on
      drop 1
      flagChanges fuel false true read
    else
      let flag ← flagLetters.lookup c
      guard (!read.any (·.1 = flag))
      drop 1
      flagChanges fuel on false (read ++ [(flag, on)])

def isNameStart (c : Char) : Bool :=
  c = '_' || Text.isAlphabetic c

def isNamePart (c : Char) : Bool :=
  c = '_' || c = '.' || c = '[' || c = ']' || Text.isAlphanumeric c

/-- The name of a group, up to the closing angle bracket. No two groups share a name. -/
def groupName : Reader Unit := do
  let cursor ← get
  let name := cursor.rest.takeWhile (· ≠ '>')
  guard (name.head?.any isNameStart && name.all isNamePart && !cursor.names.contains name)
  guard (name.length < cursor.rest.length)
  set { cursor with rest := cursor.rest.drop (name.length + 1), names := name :: cursor.names }

def opening : Reader Opening := do
  step
  if ← startsWith "?P<" then
    drop 3
    groupName
    return .capture
  else if (← startsWith "?<=") || (← startsWith "?<!") then failure
  else if ← startsWith "?<" then
    drop 2
    groupName
    return .capture
  else if ← startsWith "?" then
    drop 1
    let changes ← flagChanges ((← get).rest.length + 1) true false []
    let last ← current
    drop 1
    if last = ')' then
      guard !changes.isEmpty
      return .flags changes
    else return .group changes
  else return .capture

/-- Takes the flag that concerns the reading into account. -/
def heed (changes : FlagChanges) : Reader Unit :=
  modify fun cursor => { cursor with loose := (changes.lookup .loose).getD cursor.loose }

/-! ### Patterns -/

def primitive : Reader Pattern := do
  let c ← current
  if c = '\\' then escape
  else
    drop 1
    if c = '.' then return .dot
    else if c = '^' then return .assertion .lineStart
    else if c = '$' then return .assertion .lineEnd
    else return .literal ⟨c, false⟩

mutual

/-- A pattern up to a closing parenthesis or the end. -/
def choice : Nat → Reader Pattern
  | 0 => failure
  | fuel + 1 => do
    let first ← branch fuel []
    if (← next?) = some '|' then
      drop 1
      return .choice first (← choice fuel)
    else return first

/-- One of the patterns between bars; what has been read of it stands in reverse. -/
def branch : Nat → List Pattern → Reader Pattern
  | 0, _ => failure
  | fuel + 1, read => do
    skip
    match ← next? with
    | none | some ')' | some '|' => return .ofList read.reverse
    | some '(' =>
      let outer := (← get).loose
      match ← opening with
      | .flags changes =>
        heed changes
        branch fuel (.flags changes :: read)
      | .group changes =>
        heed changes
        let inner ← choice fuel
        guard ((← current) = ')')
        drop 1
        modify ({ · with loose := outer })
        branch fuel (.group changes inner :: read)
      | .capture =>
        let inner ← choice fuel
        guard ((← current) = ')')
        drop 1
        modify ({ · with loose := outer })
        branch fuel (.capture inner :: read)
    | some '[' => branch fuel (.chars (← bracket fuel) :: read)
    | some '\x7b' =>
      let (inner, before) ← repeatable read
      let (least, most) ← bounds
      branch fuel (.repeated inner least most :: before)
    | some c =>
      if c = '?' || c = '*' || c = '+' then
        let (inner, before) ← repeatable read
        drop 1
        dropLazy
        let least := if c = '+' then 1 else 0
        let most := if c = '?' then some 1 else none
        branch fuel (.repeated inner least most :: before)
      else branch fuel ((← primitive) :: read)

end

end Reader

/-- The pattern that a text writes. -/
def Pattern.ofString? (text : String) : Option Pattern := do
  let (pattern, cursor) ← (Reader.choice (3 * text.length + 3)).run ⟨text.toList, false, []⟩
  guard (cursor.rest.isEmpty && pattern.depth ≤ maxDepth)
  return pattern

/-- The regular expression that a text writes. -/
def ofString? (text : String) : Option Regex := do
  let (regex, _) ← (← Pattern.ofString? text).meaning? {}
  guard regex.isCompact
  return regex

end CypherSynthesis.Regex
