import CypherSynthesis.Json.Basic

/-!
JSON text as a tree that keeps its faults in place. A decoder walks the tree in reading order and so
meets what is wrong in the order of the text: a value of the wrong kind before a later fault, and a
fault before a later value of the wrong kind.

A value that is used undergoes checks that a skipped one does not: its numbers must fit a float, its
surrogate escapes must pair up, and containers may nest only so deep. A fault that depends on this is
recorded for both uses.
-/

namespace CypherSynthesis

/-- Text that is against the grammar, or that stops too early. -/
inductive Fault where
  | malformed
  | truncated
  deriving DecidableEq, Repr

/-- A fault as seen when the value is used and when it is skipped. -/
structure Break where
  used : Fault
  skipped : Fault
  deriving DecidableEq, Repr

def Break.same (fault : Fault) : Break :=
  ⟨fault, fault⟩

/-- What follows the last item of a container: its bracket, the end of the text, or a fault. -/
inductive Ending where
  | closed
  | cut
  | broken (b : Break)
  deriving DecidableEq, Repr

def Ending.used : Ending → Except Fault Unit
  | .closed => .ok ()
  | .cut => .error .truncated
  | .broken b => .error b.used

def Ending.skipped : Ending → Except Fault Unit
  | .closed => .ok ()
  | .cut => .error .truncated
  | .broken b => .error b.skipped

inductive Document where
  | null
  | bool (value : Bool)
  | number (value : Except Fault Number)
  | string (value : Except Fault String)
  /-- A container is `deep` when it is nested deeper than a used value may be. -/
  | array (deep : Bool) (items : List Document) (ending : Ending)
  | object (deep : Bool) (members : List (Except Fault String × Document)) (ending : Ending)
  /-- An object that starts with something other than a quoted name. -/
  | nameless
  /-- No readable value; `started` when the fault lies inside a number or a keyword. -/
  | broken (started : Bool) (b : Break)
  deriving Inhabited

namespace Document

def malformed : Document :=
  .broken false (.same .malformed)

def truncated : Document :=
  .broken false (.same .truncated)

/-- A container may be entered unless it is too deep. -/
def enter (deep : Bool) : Except Fault Unit :=
  if deep then .error .malformed else .ok ()

mutual

/-- The value, read with all checks. A repeated name keeps its first place and its last value. -/
def toJson : Document → Except Fault Json
  | .null => .ok .null
  | .bool value => .ok (.bool value)
  | .number value => value.map .number
  | .string value => value.map .string
  | .array deep items ending => do
    enter deep
    let items ← toJsonItems items
    ending.used
    return .array items
  | .object deep members ending => do
    enter deep
    let bag ← toBag .empty members
    ending.used
    return bag.toJson
  | .nameless => .error .malformed
  | .broken _ b => .error b.used

def toJsonItems : List Document → Except Fault (List Json)
  | [] => .ok []
  | item :: rest => do
    let item ← toJson item
    return item :: (← toJsonItems rest)

/-- Adds the members of an object to a map. -/
def toBag (bag : Bag) : List (Except Fault String × Document) → Except Fault Bag
  | [] => .ok bag
  | (name, value) :: rest => do
    let name ← name
    let value ← toJson value
    toBag (bag.insert name value) rest

end

mutual

/-- Passes over a value: only the grammar matters. -/
def skip : Document → Except Fault Unit
  | .null | .bool _ | .number _ | .string _ => .ok ()
  | .array _ items ending => do
    skipItems items
    ending.skipped
  | .object _ members ending => do
    skipMembers members
    ending.skipped
  | .nameless => .error .malformed
  | .broken _ b => .error b.skipped

def skipItems : List Document → Except Fault Unit
  | [] => .ok ()
  | item :: rest => do
    skip item
    skipItems rest

def skipMembers : List (Except Fault String × Document) → Except Fault Unit
  | [] => .ok ()
  | (_, value) :: rest => do
    skip value
    skipMembers rest

end

mutual

/-- A value as a document without faults. -/
def ofJson : Json → Document
  | .null => .null
  | .bool value => .bool value
  | .number value => .number (.ok value)
  | .string value => .string (.ok value)
  | .array items => .array false (ofJsonItems items) .closed
  | .object members => .object false (ofJsonMembers members) .closed

def ofJsonItems : List Json → List Document
  | [] => []
  | item :: rest => ofJson item :: ofJsonItems rest

def ofJsonMembers : List (String × Json) → List (Except Fault String × Document)
  | [] => []
  | (name, value) :: rest => (.ok name, ofJson value) :: ofJsonMembers rest

end

mutual

/-- How deep containers nest. -/
def height : Document → Nat
  | .array _ items _ => heightItems items + 1
  | .object _ members _ => heightMembers members + 1
  | _ => 0

def heightItems : List Document → Nat
  | [] => 0
  | item :: rest => max (height item) (heightItems rest)

def heightMembers : List (Except Fault String × Document) → Nat
  | [] => 0
  | (_, value) :: rest => max (height value) (heightMembers rest)

end

end Document
end CypherSynthesis
