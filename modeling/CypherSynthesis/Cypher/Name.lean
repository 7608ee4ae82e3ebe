/-!
Names in Cypher text. Labels, relationship types, property keys and parameters keep their spelling:
a plain name stands bare, any other between backticks with inner backticks doubled. Variables are
free to choose, so their names are made plain instead.
-/

namespace CypherSynthesis.Cypher

def isWordStart (c : Char) : Bool :=
  c.isAlpha || c = '_'

def isWordChar (c : Char) : Bool :=
  c.isAlphanum || c = '_'

/-- A word that does not start with a digit. -/
def isPlainWord : List Char → Bool
  | [] => false
  | c :: rest => isWordStart c && rest.all isWordChar

/-- Whether a name can stand without backticks. -/
def isPlain (name : String) : Bool :=
  isPlainWord name.toList

def backtick : Char := '\x60'

def doubleBackticks : List Char → List Char
  | [] => []
  | c :: rest =>
    if c = backtick then backtick :: backtick :: doubleBackticks rest
    else c :: doubleBackticks rest

def quoteChars (cs : List Char) : List Char :=
  if isPlainWord cs then cs else backtick :: (doubleBackticks cs ++ [backtick])

/-- A label, relationship type or property key as it stands in a statement. -/
def quote (name : String) : String :=
  String.ofList (quoteChars name.toList)

def wordChar (c : Char) : Char :=
  if isWordChar c then c else '_'

/-- Whether a word has to be preceded by an underscore: it has no first character, or a digit. -/
def lacksStart (word : List Char) : Bool :=
  word.isEmpty || word.head?.any Char.isDigit

def plainWord (cs : List Char) : List Char :=
  let word := cs.map wordChar
  if lacksStart word then '_' :: word else word

/-- A variable of the given name: other characters become underscores, and an underscore goes in
front of a digit or of nothing. -/
def sanitize (name : String) : String :=
  String.ofList (plainWord name.toList)

/-- A reference to a parameter, or to a value inside one: names divided by points. -/
def reference (path : List String) : String :=
  "$" ++ String.intercalate "." (path.map quote)

/-- The body of a string literal: backslashes and quotes are escaped. -/
def escapeText : List Char → List Char
  | [] => []
  | c :: rest => if c = '\\' || c = '"' then '\\' :: c :: escapeText rest else c :: escapeText rest

def literal (s : String) : String :=
  "\"" ++ String.ofList (escapeText s.toList) ++ "\""

end CypherSynthesis.Cypher
