import CypherSynthesis.Text.CharSet

/-!
Patterns: regular expressions as they are written, before the flags that stand in them have been
taken into account. A pattern may be nested only so far, and it may name classes of ASCII between
brackets and colons.
-/

namespace CypherSynthesis.Regex

open Text (CharSet)

inductive Flag where
  | ignoreCase
  | multiLine
  | dotAll
  | unicode
  | crlf
  /-- Which of two matches is preferred, which makes no difference to whether there is one. -/
  | swapGreed
  /-- Blanks and comments in the pattern do not count. -/
  | loose
  deriving DecidableEq, Repr

/-- Flags that are set or taken back. -/
abbrev FlagChanges := List (Flag × Bool)

structure Literal where
  char : Char
  /-- Written as a byte with two hexadecimal digits. -/
  byte : Bool
  deriving DecidableEq, Repr

inductive Shorthand where
  | digit
  | space
  | word
  deriving DecidableEq, Repr

/-- A class of characters. -/
inductive CharClass where
  | empty
  | literal (l : Literal)
  | range (first last : Literal)
  | shorthand (kind : Shorthand) (negated : Bool)
  | posix (set : CharSet) (negated : Bool)
  | property (set : CharSet) (negated : Bool)
  | bracket (negated : Bool) (inner : CharClass)
  | union (first last : CharClass)
  | inter (first last : CharClass)
  | diff (first last : CharClass)
  | symmDiff (first last : CharClass)

inductive Assertion where
  | lineStart
  | lineEnd
  | textStart
  | textEnd
  | boundary
  | noBoundary
  | wordStart
  | wordEnd
  | wordStartHalf
  | wordEndHalf
  deriving DecidableEq, Repr

inductive Pattern where
  | empty
  | literal (l : Literal)
  | dot
  | assertion (a : Assertion)
  | chars (members : CharClass)
  /-- Flags for what follows in the same group. -/
  | flags (changes : FlagChanges)
  | group (changes : FlagChanges) (inner : Pattern)
  | capture (inner : Pattern)
  | repeated (inner : Pattern) (least : Nat) (most : Option Nat)
  | seq (first rest : Pattern)
  | choice (first rest : Pattern)

namespace CharClass

/-- Puts a class beside those that have been read. -/
def add : CharClass → CharClass → CharClass
  | .empty, other => other
  | members, other => .union members other

/-- How deeply a class is nested; members side by side are one level. -/
def depth : CharClass → Nat
  | .bracket _ inner => inner.depth + 1
  | .union (.union first second) third =>
    max (depth (.union first second)) (third.depth + 1)
  | .union first last | .inter first last | .diff first last | .symmDiff first last =>
    max first.depth last.depth + 1
  | _ => 0

end CharClass

namespace Pattern

def ofList : List Pattern → Pattern
  | [] => .empty
  | [pattern] => pattern
  | first :: rest => .seq first (ofList rest)

/-- How deeply a pattern is nested; parts side by side are one level. -/
def depth : Pattern → Nat
  | .chars members => members.depth
  | .group _ inner | .capture inner => inner.depth + 1
  | .repeated inner _ _ => inner.depth + 1
  | .seq first (.seq second third) => max (first.depth + 1) (depth (.seq second third))
  | .choice first (.choice second third) => max (first.depth + 1) (depth (.choice second third))
  | .seq first rest | .choice first rest => max first.depth rest.depth + 1
  | _ => 0

def maxDepth : Nat := 250

end Pattern

def asciiDigit : CharSet := .range '0' '9'

def asciiUpper : CharSet := .range 'A' 'Z'

def asciiLower : CharSet := .range 'a' 'z'

def asciiLetter : CharSet := .union asciiUpper asciiLower

def asciiAlphanumeric : CharSet := .union asciiDigit asciiLetter

def asciiWord : CharSet := .union asciiAlphanumeric (.single '_')

def asciiGraphic : CharSet := .range '!' '~'

def asciiSpace : CharSet := .union (.range '\t' '\r') (.single ' ')

def posixSets : List (String × CharSet) :=
  [("alnum", asciiAlphanumeric),
   ("alpha", asciiLetter),
   ("ascii", .ascii),
   ("blank", .ofList ['\t', ' ']),
   ("cntrl", .union (.range '\x00' '\x1f') (.single '\x7f')),
   ("digit", asciiDigit),
   ("graph", asciiGraphic),
   ("lower", asciiLower),
   ("print", .range ' ' '~'),
   ("punct", .diff asciiGraphic asciiAlphanumeric),
   ("space", asciiSpace),
   ("upper", asciiUpper),
   ("word", asciiWord),
   ("xdigit", .union asciiDigit (.union (.range 'A' 'F') (.range 'a' 'f')))]

end CypherSynthesis.Regex
