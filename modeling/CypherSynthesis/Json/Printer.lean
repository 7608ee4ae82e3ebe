import CypherSynthesis.Json.Basic

/-!
JSON text of values: the compact form without blanks, and the form with one member or item per line,
indented by two columns. Only the quote, the backslash and control characters are escaped.
-/

namespace CypherSynthesis.Json

def hexDigits (n : Nat) : List Char :=
  [Nat.digitChar (n / 16), Nat.digitChar (n % 16)]

def escape (c : Char) : List Char :=
  if c = '"' then ['\\', '"']
  else if c = '\\' then ['\\', '\\']
  else if c = '\x08' then ['\\', 'b']
  else if c = '\x0c' then ['\\', 'f']
  else if c = '\n' then ['\\', 'n']
  else if c = '\r' then ['\\', 'r']
  else if c = '\t' then ['\\', 't']
  else if c.toNat < 0x20 then ['\\', 'u', '0', '0'] ++ hexDigits c.toNat
  else [c]

def literal (s : String) : String :=
  "\"" ++ String.ofList (s.toList.flatMap escape) ++ "\""

mutual

/-- Compact text. -/
def compact : Json → String
  | .null => "null"
  | .bool true => "true"
  | .bool false => "false"
  | .number n => n.text
  | .string s => literal s
  | .array items => "[" ++ String.intercalate "," (compactItems items) ++ "]"
  | .object members => "\x7b" ++ String.intercalate "," (compactMembers members) ++ "\x7d"

def compactItems : List Json → List String
  | [] => []
  | item :: rest => compact item :: compactItems rest

def compactMembers : List (String × Json) → List String
  | [] => []
  | (key, value) :: rest => (literal key ++ ":" ++ compact value) :: compactMembers rest

end

/-- Lines between brackets, each on a line of its own at the given depth; none at all if empty. -/
def block (depth : Nat) (opening closing : String) (lines : List String) : String :=
  if lines.isEmpty then opening ++ closing
  else
    let newline (columns : Nat) := "\n" ++ String.ofList (List.replicate (2 * columns) ' ')
    opening ++ newline (depth + 1) ++ String.intercalate ("," ++ newline (depth + 1)) lines ++
      newline depth ++ closing

mutual

/-- Indented text of a value that stands at the given depth. -/
def indented (depth : Nat) : Json → String
  | .array items => block depth "[" "]" (indentedItems depth items)
  | .object members => block depth "\x7b" "\x7d" (indentedMembers depth members)
  | value => compact value

def indentedItems (depth : Nat) : List Json → List String
  | [] => []
  | item :: rest => indented (depth + 1) item :: indentedItems depth rest

def indentedMembers (depth : Nat) : List (String × Json) → List String
  | [] => []
  | (key, value) :: rest =>
    (literal key ++ ": " ++ indented (depth + 1) value) :: indentedMembers depth rest

end

end CypherSynthesis.Json
