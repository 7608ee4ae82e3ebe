import CypherSynthesis.Json.Document
import CypherSynthesis.Json.Literal
import CypherSynthesis.Text.Basic

/-!
Reading JSON text into a document. Scanning goes on as long as the grammar allows and stops at the
first fault, which stays in the document; what follows it is not looked at.
-/

namespace CypherSynthesis.Document

def isBlank (c : Char) : Bool :=
  c = ' ' || c = '\n' || c = '\t' || c = '\r'

def skipBlanks (cs : List Char) : List Char :=
  cs.dropWhile isBlank

/-! ### Strings -/

/-- A character of a string body, or a sixteen-bit code written as an escape. -/
inductive CodeUnit where
  | char (c : Char)
  | code (n : Nat)

def escaped? (c : Char) : Option Char :=
  match c with
  | '"' => some '"'
  | '\\' => some '\\'
  | '/' => some '/'
  | 'b' => some '\x08'
  | 'f' => some '\x0c'
  | 'n' => some '\n'
  | 'r' => some '\r'
  | 't' => some '\t'
  | _ => none

/-- A code escape needs four bytes after it before its digits are looked at. -/
def shortCode (rest : List Char) : Fault :=
  if (String.ofList rest).utf8ByteSize < 4 then .truncated else .malformed

/-- The body of a string up to its closing quote, and the text after it. -/
def scanUnits : List Char → List CodeUnit × Except Fault (List Char)
  | [] => ([], .error .truncated)
  | '"' :: rest => ([], .ok rest)
  | ['\\'] => ([], .error .truncated)
  | '\\' :: 'u' :: a :: b :: c :: d :: rest =>
    match Text.hexNumber? [a, b, c, d] with
    | some n =>
      let (units, stop) := scanUnits rest
      (.code n :: units, stop)
    | none => ([], .error .malformed)
  | '\\' :: 'u' :: rest => ([], .error (shortCode rest))
  | '\\' :: c :: rest =>
    match escaped? c with
    | some e =>
      let (units, stop) := scanUnits rest
      (.char e :: units, stop)
    | none => ([], .error .malformed)
  | c :: rest =>
    if c < ' ' then ([], .error .malformed)
    else
      let (units, stop) := scanUnits rest
      (.char c :: units, stop)

def isHighSurrogate (n : Nat) : Bool :=
  0xD800 ≤ n && n ≤ 0xDBFF

def isLowSurrogate (n : Nat) : Bool :=
  0xDC00 ≤ n && n ≤ 0xDFFF

def surrogatePair (high low : Nat) : Char :=
  Char.ofNat ((high - 0xD800) * 0x400 + (low - 0xDC00) + 0x10000)

/-- The characters of a string body, with surrogates paired up; `stop` is the fault that ended the
body, if one did. -/
def pairUp (stop : Option Fault) : List CodeUnit → Except Fault (List Char)
  | [] => match stop with
    | some fault => .error fault
    | none => .ok []
  | .char c :: rest => do return c :: (← pairUp stop rest)
  | .code n :: .code m :: rest =>
    if isHighSurrogate n then
      if isLowSurrogate m then do return surrogatePair n m :: (← pairUp stop rest)
      else .error .malformed
    else if isLowSurrogate n then .error .malformed
    else do return Char.ofNat n :: (← pairUp stop (.code m :: rest))
  | .code n :: rest =>
    if isHighSurrogate n then
      .error (if rest.isEmpty then stop.getD .malformed else .malformed)
    else if isLowSurrogate n then .error .malformed
    else do return Char.ofNat n :: (← pairUp stop rest)

/-- A string after its opening quote: its text and the rest, or the fault that broke it off. -/
def scanString (cs : List Char) : Except Break (Except Fault String × List Char) :=
  match scanUnits cs with
  | (units, .ok rest) => .ok ((pairUp none units).map String.ofList, rest)
  | (units, .error fault) =>
    match pairUp (some fault) units with
    | .ok _ => .error (.same fault)
    | .error used => .error ⟨used, fault⟩

/-! ### Numbers and keywords -/

/-- Digits are missing: at the end of the text, a used number was only cut short. -/
def noDigits (rest : List Char) : Break :=
  if rest.isEmpty then ⟨.truncated, .malformed⟩ else .same .malformed

def scanWhole (cs : List Char) : Except Break (List Char × List Char) :=
  match cs with
  | '0' :: rest =>
    if (rest.takeWhile Char.isDigit).isEmpty then .ok (['0'], rest) else .error (.same .malformed)
  | _ =>
    let digits := cs.takeWhile Char.isDigit
    if digits.isEmpty then .error (noDigits cs) else .ok (digits, cs.dropWhile Char.isDigit)

def scanDigits (cs : List Char) : Except Break (List Char × List Char) :=
  let digits := cs.takeWhile Char.isDigit
  let rest := cs.dropWhile Char.isDigit
  if digits.isEmpty then .error (noDigits rest) else .ok (digits, rest)

def scanFraction (cs : List Char) : Except Break (List Char × List Char) :=
  match cs with
  | '.' :: rest => scanDigits rest
  | _ => .ok ([], cs)

/-- The sign of an exponent, true for minus, and the text after it. -/
def scanSign (cs : List Char) : Bool × List Char :=
  match cs with
  | '-' :: rest => (true, rest)
  | '+' :: rest => (false, rest)
  | _ => (false, cs)

def scanExponent (cs : List Char) : Except Break (Option (Bool × List Char) × List Char) :=
  match cs with
  | c :: rest =>
    if c = 'e' || c = 'E' then do
      let (negative, rest) := scanSign rest
      let (digits, rest) ← scanDigits rest
      return (some (negative, digits), rest)
    else .ok (none, cs)
  | [] => .ok (none, cs)

def scanLiteral (cs : List Char) : Except Break (Literal × List Char) := do
  let negative := cs.head? == some '-'
  let (whole, cs) ← scanWhole (if negative then cs.drop 1 else cs)
  let (fraction, cs) ← scanFraction cs
  let (exponent, cs) ← scanExponent cs
  return (⟨negative, whole, fraction, exponent⟩, cs)

/-- The remaining letters of a keyword. -/
def scanKeyword : List Char → List Char → Except Fault (List Char)
  | [], rest => .ok rest
  | _ :: _, [] => .error .truncated
  | e :: expected, c :: rest => if c = e then scanKeyword expected rest else .error .malformed

/-! ### Values -/

def ofNumber (cs : List Char) : Document × Option (List Char) :=
  match scanLiteral cs with
  | .ok (literal, rest) =>
    (.number (match literal.value? with
      | some n => .ok n
      | none => .error .malformed), some rest)
  | .error b => (.broken true b, none)

def ofKeyword (value : Document) (expected : String) (cs : List Char) :
    Document × Option (List Char) :=
  match scanKeyword expected.toList cs with
  | .ok rest => (value, some rest)
  | .error fault => (.broken true (.same fault), none)

def ofString (cs : List Char) : Document × Option (List Char) :=
  match scanString cs with
  | .ok (value, rest) => (.string value, some rest)
  | .error b => (.broken false b, none)

mutual

/-- One value, and the text after it unless a fault stopped the scan. A container is too deep when
there is no `room` left for it. -/
def scanValue : Nat → Nat → List Char → Document × Option (List Char)
  | 0, _, _ => (.truncated, none)
  | fuel + 1, room, cs =>
    match skipBlanks cs with
    | [] => (.truncated, none)
    | 'n' :: rest => ofKeyword .null "ull" rest
    | 't' :: rest => ofKeyword (.bool true) "rue" rest
    | 'f' :: rest => ofKeyword (.bool false) "alse" rest
    | '"' :: rest => ofString rest
    | '[' :: rest =>
      match skipBlanks rest with
      | [] => (.array (room == 0) [] .cut, none)
      | ']' :: rest => (.array (room == 0) [] .closed, some rest)
      | first =>
        let (items, ending, after) := scanItems fuel (room - 1) first
        (.array (room == 0) items ending, after)
    | '\x7b' :: rest =>
      match skipBlanks rest with
      | [] => (.object (room == 0) [] .cut, none)
      | '\x7d' :: rest => (.object (room == 0) [] .closed, some rest)
      | '"' :: first =>
        let (members, ending, after) := scanMembers fuel (room - 1) first
        (.object (room == 0) members ending, after)
      | _ => (.nameless, none)
    | c :: rest => if c = '-' || c.isDigit then ofNumber (c :: rest) else (.malformed, none)

/-- The items of an array from an item on. -/
def scanItems : Nat → Nat → List Char → List Document × Ending × Option (List Char)
  | 0, _, _ => ([], .cut, none)
  | fuel + 1, room, cs =>
    match scanValue fuel room cs with
    | (item, none) => ([item], .cut, none)
    | (item, some rest) =>
      match skipBlanks rest with
      | [] => ([item], .cut, none)
      | ']' :: rest => ([item], .closed, some rest)
      | ',' :: rest =>
        match skipBlanks rest with
        | [] => ([item], .broken (.same .truncated), none)
        | ']' :: _ => ([item], .broken (.same .malformed), none)
        | next =>
          let (items, ending, after) := scanItems fuel room next
          (item :: items, ending, after)
      | _ => ([item], .broken (.same .malformed), none)

/-- The members of an object from the text of a name on. -/
def scanMembers : Nat → Nat → List Char →
    List (Except Fault String × Document) × Ending × Option (List Char)
  | 0, _, _ => ([], .cut, none)
  | fuel + 1, room, cs =>
    match scanString cs with
    | .error b => ([], .broken b, none)
    | .ok (name, rest) =>
      match skipBlanks rest with
      | [] => ([(name, .truncated)], .cut, none)
      | ':' :: rest =>
        match scanValue fuel room rest with
        | (value, none) => ([(name, value)], .cut, none)
        | (value, some rest) =>
          match skipBlanks rest with
          | [] => ([(name, value)], .cut, none)
          | '\x7d' :: rest => ([(name, value)], .closed, some rest)
          | ',' :: rest =>
            match skipBlanks rest with
            | [] => ([(name, value)], .broken (.same .truncated), none)
            | '"' :: next =>
              let (members, ending, after) := scanMembers fuel room next
              ((name, value) :: members, ending, after)
            | _ => ([(name, value)], .broken (.same .malformed), none)
          | _ => ([(name, value)], .broken (.same .malformed), none)
      | _ => ([(name, .malformed)], .cut, none)

end

/-- Used containers nest at most this deep. -/
def maxDepth : Nat := 127

/-- The document at the start of a text and what stands after it, if the scan got there. Every step
of the scan takes a character or follows one that did, so the fuel lasts. -/
def scan (room : Nat) (text : String) : Document × Option (List Char) :=
  let cs := text.toList
  scanValue (2 * cs.length + 2) room cs

/-- Only blanks may follow a document. -/
def endOfText : Option (List Char) → Except Fault Unit
  | some rest => if rest.all isBlank then .ok () else .error .malformed
  | none => .ok ()

end CypherSynthesis.Document

namespace CypherSynthesis.Json

/-- Reads a text as one JSON value. -/
def parse (room : Nat) (text : String) : Except Fault Json := do
  let (document, after) := Document.scan room text
  let value ← document.toJson
  Document.endOfText after
  return value

end CypherSynthesis.Json
