import CypherSynthesis.Regex.Basic
import CypherSynthesis.Regex.Pattern
import CypherSynthesis.Unicode.Category
import CypherSynthesis.Unicode.Letter

/-!
What a pattern matches. Without the flag `unicode` a class is one of bytes, and a pattern is refused
if a class then holds a byte that is not a character by itself.
-/

namespace CypherSynthesis.Regex

open Text (CharSet)

structure Flags where
  ignoreCase : Bool := false
  multiLine : Bool := false
  dotAll : Bool := false
  unicode : Bool := true
  crlf : Bool := false
  deriving DecidableEq, Repr

namespace Flags

def change (flags : Flags) : FlagChanges → Flags
  | [] => flags
  | (.ignoreCase, on) :: rest => change { flags with ignoreCase := on } rest
  | (.multiLine, on) :: rest => change { flags with multiLine := on } rest
  | (.dotAll, on) :: rest => change { flags with dotAll := on } rest
  | (.unicode, on) :: rest => change { flags with unicode := on } rest
  | (.crlf, on) :: rest => change { flags with crlf := on } rest
  | (.swapGreed, _) :: rest | (.loose, _) :: rest => change flags rest

/-- Closes a set under case if case does not count. -/
def folded (flags : Flags) (set : CharSet) : CharSet :=
  if !flags.ignoreCase then set
  else if flags.unicode then Unicode.folded set
  else Unicode.asciiFolded set

/-- All characters but those of a set; among bytes, all bytes. -/
def negated (flags : Flags) (negated : Bool) (set : CharSet) : CharSet :=
  if !negated then set
  else if flags.unicode then set.compl
  else .diff (.range '\x00' (.ofNat 0xFF)) set

/-- Refuses a set of bytes that are not all characters. -/
def checked (flags : Flags) (set : CharSet) : Option CharSet :=
  if flags.unicode || set.isAscii then some set else none

def word (flags : Flags) : CharSet :=
  if flags.unicode then Unicode.word else asciiWord

def isWord (flags : Flags) (c : Char) : Bool :=
  flags.word.holds c

end Flags

namespace Literal

/-- The character of a literal; without `unicode`, a byte has to be ASCII. -/
def meaning? (flags : Flags) (l : Literal) : Option Char :=
  if !flags.unicode && l.byte && 0x80 ≤ l.char.toNat then none else some l.char

/-- The character of a literal inside a class. -/
def member? (flags : Flags) (l : Literal) : Option Char :=
  if !flags.unicode && 0x80 ≤ l.char.toNat then none else some l.char

end Literal

def Shorthand.set (flags : Flags) : Shorthand → CharSet
  | .digit => if flags.unicode then Unicode.category .decimalNumber else asciiDigit
  | .space => if flags.unicode then Unicode.whiteSpace else asciiSpace
  | .word => flags.word

namespace CharClass

/-- The set of a class. The sides of an operation are closed under case on their own. -/
def meaning? (flags : Flags) : CharClass → Option CharSet
  | .empty => some .empty
  | .literal l => (l.member? flags).map .single
  | .range first last => do return .range (← first.member? flags) (← last.member? flags)
  | .shorthand kind negated => flags.checked (flags.negated negated (kind.set flags))
  | .posix set negated => flags.checked (flags.negated negated (flags.folded set))
  | .property set negated =>
    if flags.unicode then some (flags.negated negated (flags.folded set)) else none
  | .bracket negated inner => do
    flags.checked (flags.negated negated (flags.folded (← inner.meaning? flags)))
  | .union first last => do return .union (← first.meaning? flags) (← last.meaning? flags)
  | .inter first last => do
    return .inter (flags.folded (← first.meaning? flags)) (flags.folded (← last.meaning? flags))
  | .diff first last => do
    return .diff (flags.folded (← first.meaning? flags)) (flags.folded (← last.meaning? flags))
  | .symmDiff first last => do
    return .symmDiff (flags.folded (← first.meaning? flags)) (flags.folded (← last.meaning? flags))

end CharClass

namespace Assertion

/-- A line starts behind a line feed, or behind a carriage return that none follows. -/
def lineStartsAt (flags : Flags) (place : Place) : Bool :=
  place.before = none || (flags.multiLine && (place.before = some '\n' ||
    (flags.crlf && place.before = some '\r' && place.after ≠ some '\n')))

def lineEndsAt (flags : Flags) (place : Place) : Bool :=
  place.after = none || (flags.multiLine &&
    if flags.crlf then
      place.after = some '\r' || (place.after = some '\n' && place.before ≠ some '\r')
    else place.after = some '\n')

/-- Whether an assertion holds at a place. -/
def holds (flags : Flags) (place : Place) : Assertion → Bool
  | .lineStart => lineStartsAt flags place
  | .lineEnd => lineEndsAt flags place
  | .textStart => place.before = none
  | .textEnd => place.after = none
  | .boundary => place.before.any flags.isWord != place.after.any flags.isWord
  | .noBoundary => place.before.any flags.isWord == place.after.any flags.isWord
  | .wordStart => !place.before.any flags.isWord && place.after.any flags.isWord
  | .wordEnd => place.before.any flags.isWord && !place.after.any flags.isWord
  | .wordStartHalf => !place.before.any flags.isWord
  | .wordEndHalf => !place.after.any flags.isWord

end Assertion

/-- The characters that a dot stands for. -/
def Flags.dot? (flags : Flags) : Option CharSet :=
  if !flags.unicode then none
  else if flags.dotAll then some CharSet.empty.compl
  else if flags.crlf then some (.compl (.ofList ['\n', '\r']))
  else some (.compl (.single '\n'))

namespace Pattern

/-- What a pattern matches under flags, and the flags behind it. -/
def meaning? (flags : Flags) : Pattern → Option (Regex × Flags)
  | .empty => some (.empty, flags)
  | .literal l => do return (.char (flags.folded (.single (← l.meaning? flags))), flags)
  | .dot => do return (.char (← flags.dot?), flags)
  | .assertion a => some (.assert fun place => a.holds flags place, flags)
  | .chars members => do return (.char (← members.meaning? flags), flags)
  | .flags changes => some (.empty, flags.change changes)
  | .group changes inner => do return ((← inner.meaning? (flags.change changes)).1, flags)
  | .capture inner => do return (.capture (← inner.meaning? flags).1, flags)
  | .repeated inner least most => do
    let (inner, flags) ← inner.meaning? flags
    return (.repeated inner least most, flags)
  | .seq first rest => do
    let (first, flags) ← first.meaning? flags
    let (rest, flags) ← rest.meaning? flags
    return (.seq first rest, flags)
  | .choice first rest => do
    let (first, flags) ← first.meaning? flags
    let (rest, flags) ← rest.meaning? flags
    return (.either first rest, flags)

end Pattern
end CypherSynthesis.Regex
