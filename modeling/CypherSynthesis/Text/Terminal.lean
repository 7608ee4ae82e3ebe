/-!
Text without what would steer a terminal: control sequences, and control characters other than
white space.
-/

namespace CypherSynthesis.Text

/-- What a control sequence is in the middle of. -/
inductive ControlState where
  /-- Outside of every sequence. -/
  | ground
  | escape
  | escapeIntermediate
  | controlSequence
  | device
  | deviceParameters
  | deviceIntermediate
  /-- A string that only a string terminator ends. -/
  | string
  /-- A string that a bell ends as well. -/
  | command
  deriving DecidableEq, Repr

def within (first last : Nat) (c : Char) : Bool :=
  first ≤ c.toNat && c.toNat ≤ last

/-- Control characters that are white space: tab, line feed, form feed, carriage return. -/
def isLayout (c : Char) : Bool :=
  c = '\t' || c = '\n' || c = '\x0c' || c = '\r'

namespace ControlState

/-- Whether a character that comes next belongs to the text. -/
def shows : ControlState → Char → Bool
  | .ground, c => within 0x20 0x7E c || 0x80 ≤ c.toNat || isLayout c
  | .escape, c | .escapeIntermediate, c | .controlSequence, c => isLayout c
  | _, _ => false

/-- Where a character leads that does not belong to the text. The string terminator is a byte that
may also be a part of a character. -/
def next (state : ControlState) (c : Char) : ControlState :=
  if c = '\x18' || c = '\x1a' then .ground
  else if c = '\x1b' then .escape
  else
    match state with
    | .ground => .ground
    | .escape =>
      if within 0x20 0x2F c then .escapeIntermediate
      else if c = '[' then .controlSequence
      else if c = ']' then .command
      else if c = 'P' then .device
      else if c = 'X' || c = '^' || c = '_' then .string
      else if within 0x30 0x7E c then .ground
      else .escape
    | .escapeIntermediate => if within 0x30 0x7E c then .ground else .escapeIntermediate
    | .controlSequence => if within 0x40 0x7E c then .ground else .controlSequence
    | .device =>
      if within 0x20 0x2F c then .deviceIntermediate
      else if within 0x30 0x3F c then .deviceParameters
      else if within 0x40 0x7E c then .string
      else .device
    | .deviceParameters =>
      if within 0x20 0x2F c then .deviceIntermediate
      else if within 0x3C 0x7E c then .string
      else .deviceParameters
    | .deviceIntermediate => if within 0x30 0x7E c then .string else .deviceIntermediate
    | .string => if (String.utf8EncodeChar c).contains 0x9C then .ground else .string
    | .command => if c = '\x07' then .ground else .command

end ControlState

/-- The text behind a place. White space inside a sequence makes text of what follows, up to the
next control character, which finds the sequence still open; `shown` is set in such text. -/
def withoutControls : ControlState → Bool → List Char → List Char
  | _, _, [] => []
  | state, shown, c :: rest =>
    if state.shows c || (shown && ControlState.ground.shows c) then
      c :: withoutControls (if 0x80 ≤ c.toNat then .ground else state) true rest
    else withoutControls (state.next c) false rest

/-- A text as it is written where no terminal reads it. -/
def plain (s : String) : String :=
  String.ofList (withoutControls .ground false s.toList)

end CypherSynthesis.Text
