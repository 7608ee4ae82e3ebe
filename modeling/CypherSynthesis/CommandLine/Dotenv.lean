import CypherSynthesis.CommandLine.Environment
import CypherSynthesis.Text.Alphanumeric
import CypherSynthesis.Text.Basic

/-!
Files of variables. A line sets one variable, and a value in quotes may run over several lines.
Variables that are set already keep their values, and the first line with a mistake ends the file.
A value that no variable can hold is more than a mistake: there is no environment then.
-/

namespace CypherSynthesis.CommandLine.Dotenv

/-! ### Lines -/

/-- Where the end of a line would fall. -/
inductive Place where
  | text
  /-- Behind a blank, where a comment may start. -/
  | gap
  | escape
  | single
  | singleEscape
  | double
  | doubleEscape
  deriving DecidableEq, Repr

def Place.ofChar (c : Char) : Place :=
  if c = '\\' then .escape
  else if c = '"' then .double
  else if c = '\'' then .single
  else .text

/-- The place behind the next character, unless a comment starts there. -/
def Place.next? : Place → Char → Option Place
  | .gap, c => if c = '#' then none else some (.ofChar c)
  | .text, c =>
    some (if Text.isBlank c && c ≠ '\n' && c ≠ '\r' then .gap else .ofChar c)
  | .escape, _ => some .text
  | .double, c => some (if c = '\\' then .doubleEscape else if c = '"' then .text else .double)
  | .doubleEscape, _ => some .double
  | .single, c => some (if c = '\\' then .singleEscape else if c = '\'' then .text else .single)
  | .singleEscape, _ => some .single

/-- What stands in front of a comment, and the place at the end if there is no comment. -/
def untilComment : Place → List Char → List Char × Option Place
  | place, [] => ([], some place)
  | place, c :: rest =>
    match place.next? c with
    | none => ([], none)
    | some next =>
      let (front, last) := untilComment next rest
      (c :: front, last)

/-- The lines of a file, each with its line feed. -/
def physicalLines : List UInt8 → List (List UInt8)
  | [] => []
  | byte :: rest =>
    if byte = 0x0A then [byte] :: physicalLines rest
    else
      match physicalLines rest with
      | [] => [[byte]]
      | line :: more => (byte :: line) :: more

def dropLineEnd (line : List Char) : List Char :=
  match line.reverse with
  | '\n' :: '\r' :: front => front.reverse
  | '\n' :: front => front.reverse
  | _ => line

/-- Joins lines whose quotes are still open. A line that is no text is a mistake, and so is a file
that ends inside quotes. -/
def logicalLines : List (Option String) → Place → List Char → List (Option (List Char))
  | [], place, _ => if place = .text then [] else [none]
  | none :: _, _, _ => [none]
  | some line :: rest, place, front =>
    let line := line.toList
    let joined := front ++ line
    if (joined.dropWhile Text.isBlank).head? = some '#' then logicalLines rest .text []
    else
      match untilComment place line with
      | (kept, none) => some (front ++ kept) :: logicalLines rest .text []
      | (_, some .text) => some (dropLineEnd joined) :: logicalLines rest .text []
      | (_, some place) => logicalLines rest place joined

/-! ### Values -/

/-- What the reading of a value is in the middle of; `quoted` is set between double quotes. -/
inductive Mode where
  | text (quoted : Bool)
  | single
  | escape (quoted : Bool)
  /-- Behind the value, where only blanks and a comment may follow. -/
  | behind
  | name (quoted : Bool) (letters : List Char)
  | braced (quoted : Bool) (letters : List Char)
  deriving DecidableEq, Repr

/-- Reads a value, in which names after a dollar sign stand for variables. -/
def value? (lookup : List Char → List Char) : Mode → List Char → Option (List Char)
  | .text quoted, [] => if quoted then none else some []
  | .text true, c :: rest =>
    if c = '$' then value? lookup (.name true []) rest
    else if c = '"' then value? lookup (.text false) rest
    else if c = '\\' then value? lookup (.escape true) rest
    else (c :: ·) <$> value? lookup (.text true) rest
  | .text false, c :: rest =>
    if c = '$' then value? lookup (.name false []) rest
    else if c = '\'' then value? lookup .single rest
    else if c = '"' then value? lookup (.text true) rest
    else if c = '\\' then value? lookup (.escape false) rest
    else if c = ' ' || c = '\t' then value? lookup .behind rest
    else (c :: ·) <$> value? lookup (.text false) rest
  | .single, [] => none
  | .single, c :: rest =>
    if c = '\'' then value? lookup (.text false) rest
    else (c :: ·) <$> value? lookup .single rest
  | .escape quoted, [] => if quoted then none else some []
  | .escape quoted, c :: rest =>
    if ['\\', '\'', '"', '$', ' '].contains c then
      (c :: ·) <$> value? lookup (.text quoted) rest
    else if c = 'n' then ('\n' :: ·) <$> value? lookup (.text quoted) rest
    else none
  | .behind, [] => some []
  | .behind, c :: rest =>
    if c = ' ' || c = '\t' then value? lookup .behind rest
    else if c = '#' then some []
    else none
  | .name quoted letters, [] => if quoted then none else some (lookup letters)
  | .name quoted letters, c :: rest =>
    if Text.isAlphanumeric c then value? lookup (.name quoted (letters ++ [c])) rest
    else if c = '\x7b' && letters.isEmpty then value? lookup (.braced quoted []) rest
    else if c = '$' then (lookup letters ++ ·) <$> value? lookup (.name quoted []) rest
    else (lookup letters ++ c :: ·) <$> value? lookup (.text quoted) rest
  | .braced _ _, [] => none
  | .braced quoted letters, c :: rest =>
    if c = '\x7d' then (lookup letters ++ ·) <$> value? lookup (.text quoted) rest
    else value? lookup (.braced quoted (letters ++ [c])) rest

/-! ### Assignments -/

def isKeyStart (c : Char) : Bool :=
  c.isAlpha || c = '_'

def isKeyPart (c : Char) : Bool :=
  c.isAlphanum || c = '_' || c = '.'

def key? (line : List Char) : Option (String × List Char) :=
  if line.head?.any isKeyStart then
    some (String.ofList (line.takeWhile isKeyPart),
      (line.dropWhile isKeyPart).dropWhile Text.isBlank)
  else none

/-- The key of a line, which `export` may announce, and what follows the equals sign. -/
def keyAndRest? (line : List Char) : Option (String × List Char) := do
  match ← key? line with
  | (key, '=' :: rest) => return (key, rest)
  | ("export", rest) =>
    match ← key? rest with
    | (key, '=' :: rest) => return (key, rest)
    | _ => none
  | _ => none

def trimEnd (line : List Char) : List Char :=
  (line.reverse.dropWhile Text.isBlank).reverse

def expand (environment : Environment) (letters : List Char) : List Char :=
  ((environment.text? (String.ofList letters)).getD "").toList

/-- The variable of a line that is not empty, and its value. -/
def assignment? (environment : Environment) (line : List Char) : Option (String × String) := do
  let (key, rest) ← keyAndRest? line
  match rest.dropWhile Text.isBlank with
  | [] | '#' :: _ => return (key, "")
  | rest => return (key, String.ofList (← value? (expand environment) (.text false) rest))

def readLines (environment : Environment) : List (Option (List Char)) → Option Environment
  | [] | none :: _ => some environment
  | some line :: rest =>
    match (trimEnd line).dropWhile Text.isBlank with
    | [] | '#' :: _ => readLines environment rest
    | line =>
      match assignment? environment line with
      | some (key, value) => do readLines (← environment.provide? key value) rest
      | none => some environment

/-- The environment together with the variables of a file, which a byte order mark may open. -/
def load? (environment : Environment) (content : List UInt8) : Option Environment :=
  let content := match content with
    | 0xEF :: 0xBB :: 0xBF :: rest => rest
    | content => content
  readLines environment (logicalLines ((physicalLines content).map Text.ofUtf8?) .text [])

end CypherSynthesis.CommandLine.Dotenv
