import CypherSynthesis.Json.Scan
import CypherSynthesis.Text.Quoted

/-!
Decoding documents into typed values. A decoder walks a document in reading order and answers with
the first thing that is wrong: a fault of the text, or a mismatch between the document and the type.

A record is an object whose members may stand in any order, or an array of its fields in order.
Unknown members are skipped, a repeated member is a mismatch, and a missing one is noticed last.
-/

namespace CypherSynthesis

/-- What a document holds where something else was expected. -/
inductive Found where
  | null
  | bool (value : Bool)
  | number (value : Number)
  | string (value : String)
  | sequence
  | map
  deriving DecidableEq, Repr

def Found.text : Found → String
  | .null => "null"
  | .bool true => "boolean `true`"
  | .bool false => "boolean `false`"
  | .number (.integer n) => "integer `" ++ (Number.integer n).text ++ "`"
  | .number (.float bits) => "floating point `" ++ (Number.float bits).text ++ "`"
  | .string value => "string " ++ Text.quoted value
  | .sequence => "sequence"
  | .map => "map"

/-- Why a well-formed document does not fit a type. -/
inductive Mismatch where
  | wrongType (found : Found) (expected : String)
  | wrongValue (found : Found) (expected : String)
  | wrongLength (length : Nat) (expected : String)
  | missingField (name : String)
  | duplicateField (name : String)
  | unknownVariant (name : String) (variants : List String)
  | rejected (reason : String)
  deriving DecidableEq, Repr

namespace Mismatch

def ticked (name : String) : String :=
  "`" ++ name ++ "`"

def oneOf : List String → String
  | [a, b] => ticked a ++ " or " ++ ticked b
  | variants => "one of " ++ String.intercalate ", " (variants.map ticked)

def message : Mismatch → String
  | wrongType found expected => "invalid type: " ++ found.text ++ ", expected " ++ expected
  | wrongValue found expected => "invalid value: " ++ found.text ++ ", expected " ++ expected
  | wrongLength length expected =>
    "invalid length " ++ toString length ++ ", expected " ++ expected
  | missingField name => "missing field " ++ ticked name
  | duplicateField name => "duplicate field " ++ ticked name
  | unknownVariant name variants =>
    "unknown variant " ++ ticked name ++ ", expected " ++ oneOf variants
  | rejected reason => reason

end Mismatch

inductive DecodeError where
  | fault (fault : Fault)
  | mismatch (mismatch : Mismatch)
  deriving DecidableEq, Repr

/-- Where a document comes from. Text is decoded while it is read, so in text a container that goes
on where it should end is against the grammar. -/
inductive Source where
  | value
  | text
  deriving DecidableEq, Repr

abbrev Decoder (α : Type) := Source → Document → Except DecodeError α

namespace Decoder

def faulty {α : Type} (result : Except Fault α) : Except DecodeError α :=
  result.mapError .fault

def mismatch {α : Type} (m : Mismatch) : Except DecodeError α :=
  .error (.mismatch m)

/-- What the document holds, as far as it can be read without entering a container. -/
def found : Document → Except Fault Found
  | .null => .ok .null
  | .bool value => .ok (.bool value)
  | .number value => value.map .number
  | .string value => value.map .string
  | .array _ _ _ => .ok .sequence
  | .object _ _ _ | .nameless => .ok .map
  | .broken _ b => .error b.used

def wrongType {α : Type} (expected : String) (document : Document) : Except DecodeError α := do
  mismatch (.wrongType (← faulty (found document)) expected)

def string : Decoder String
  | _, .string value => faulty value
  | _, document => wrongType "a string" document

def bool : Decoder Bool
  | _, .bool value => .ok value
  | _, document => wrongType "a boolean" document

def int64 : Decoder Int64
  | _, .number (.ok (.integer n)) =>
    if Int64.minValue.toInt ≤ n && n ≤ Int64.maxValue.toInt then .ok (Int64.ofInt n)
    else mismatch (.wrongValue (.number (.integer n)) "i64")
  | _, document => wrongType "i64" document

def json : Decoder Json :=
  fun _ document => faulty document.toJson

def nullable {α : Type} (decode : Decoder α) : Decoder (Option α)
  | _, .null => .ok none
  | source, document => (decode source document).map some

def list {α : Type} (decode : Decoder α) : Decoder (List α)
  | source, .array deep items ending => do
    faulty (Document.enter deep)
    let values ← items.mapM (decode source)
    faulty ending.used
    return values
  | _, document => wrongType "a sequence" document

def bag : Decoder Bag
  | _, .object deep members ending => do
    faulty (Document.enter deep)
    let bag ← faulty (Document.toBag .empty members)
    faulty ending.used
    return bag
  | _, .nameless => .error (.fault .malformed)
  | _, document => wrongType "a map" document

/-! ### Choices among names -/

def variant {α : Type} (variants : List (String × α)) (name : String) : Except DecodeError α :=
  match variants.find? (·.1 = name) with
  | some (_, value) => .ok value
  | none => mismatch (.unknownVariant name (variants.map Prod.fst))

def unit : Document → Except DecodeError Unit
  | .null => .ok ()
  | document => wrongType "unit" document

/-- A choice inside a value: its name, or an object that maps only its name, and that to null. -/
def choiceInValue {α : Type} (variants : List (String × α)) :
    Document → Except DecodeError α
  | .string name => do variant variants (← faulty name)
  | .object _ [(name, content)] _ => do
    let value ← variant variants (← faulty name)
    unit content
    return value
  | .object _ _ _ | .nameless => mismatch (.wrongValue .map "map with a single key")
  | document => wrongType "string or map" document

/-- What may follow the only member of a choice's object in text. -/
def endOfChoice : List (Except Fault String × Document) → Ending → Except Fault Unit
  | [], .closed => .ok ()
  | [], .cut => .error .truncated
  | _, _ => .error .malformed

/-- A choice inside text; what cannot start one is against the grammar. -/
def choiceInText {α : Type} (variants : List (String × α)) :
    Document → Except DecodeError α
  | .string name => do variant variants (← faulty name)
  | .object deep [] ending => do
    faulty (Document.enter deep)
    match ending with
    | .closed => .error (.fault .malformed)
    | .cut => .error (.fault .truncated)
    | .broken b => .error (.fault b.used)
  | .object deep ((name, content) :: rest) ending => do
    faulty (Document.enter deep)
    let value ← variant variants (← faulty name)
    unit content
    faulty (endOfChoice rest ending)
    return value
  | .broken false b => .error (.fault b.used)
  | _ => .error (.fault .malformed)

def choice {α : Type} (variants : List (String × α)) : Decoder α
  | .value, document => choiceInValue variants document
  | .text, document => choiceInText variants document

end Decoder

/-! ### Records -/

/-- A field of a record type: how to decode it, and how to put the result into a record. -/
structure Field (σ : Type) where
  name : String
  required : Bool
  decode : Decoder (σ → σ)

namespace Field

def needed {σ α : Type} (name : String) (decode : Decoder α) (set : α → σ → σ) : Field σ :=
  ⟨name, true, fun source document => (decode source document).map set⟩

def optional {σ α : Type} (name : String) (decode : Decoder α) (set : α → σ → σ) : Field σ :=
  ⟨name, false, fun source document => (decode source document).map set⟩

end Field

namespace Decoder

/-- Decodes the members of an object in turn; `seen` are the names of the fields met so far. -/
def fromMembers {σ : Type} (fields : List (Field σ)) (source : Source) :
    List (Except Fault String × Document) → List String → σ → Except DecodeError (List String × σ)
  | [], seen, record => .ok (seen, record)
  | (name, document) :: rest, seen, record => do
    let name ← faulty name
    match fields.find? (·.name = name) with
    | none =>
      faulty document.skip
      fromMembers fields source rest seen record
    | some field =>
      if seen.contains name then mismatch (.duplicateField name)
      else
        let set ← field.decode source document
        fromMembers fields source rest (name :: seen) (set record)

/-- The first required field that no member gave. -/
def missing {σ : Type} (fields : List (Field σ)) (seen : List String) : Except DecodeError Unit :=
  match fields.find? fun field => field.required && !seen.contains field.name with
  | some field => mismatch (.missingField field.name)
  | none => .ok ()

/-- What may follow when every field of a record has had its item. -/
def endOfItems (source : Source) (length : Nat) :
    List Document → Ending → Except DecodeError Unit
  | [], .closed => .ok ()
  | [], .cut => .error (.fault .truncated)
  | _, _ =>
    match source with
    | .value => mismatch (.wrongLength length "fewer elements in array")
    | .text => .error (.fault .malformed)

/-- Decodes the items of an array as the fields of a record from position `index` on. -/
def fromItems {σ : Type} (expected : String) (source : Source) (length : Nat) :
    List (Field σ) → Nat → List Document → Ending → σ → Except DecodeError σ
  | [], _, items, ending, record => do
    endOfItems source length items ending
    return record
  | field :: fields, index, [], ending, record => do
    faulty ending.used
    if field.required then mismatch (.wrongLength index expected)
    else fromItems expected source length fields (index + 1) [] ending record
  | field :: fields, index, item :: items, ending, record => do
    let set ← field.decode source item
    fromItems expected source length fields (index + 1) items ending (set record)

/-- A record of the named type; fields that do not occur keep their value in `blank`. -/
def record {σ : Type} (name : String) (fields : List (Field σ)) (blank : σ) : Decoder σ
  | source, .object deep members ending => do
    faulty (Document.enter deep)
    let (seen, value) ← fromMembers fields source members [] blank
    faulty ending.used
    missing fields seen
    return value
  | source, .array deep items ending => do
    faulty (Document.enter deep)
    let expected := "struct " ++ name ++ " with " ++ toString fields.length ++ " elements"
    fromItems expected source items.length fields 0 items ending blank
  | _, .nameless => .error (.fault .malformed)
  | _, document => wrongType ("struct " ++ name) document

/-! ### Whole values and texts -/

def ofValue {α : Type} (decode : Decoder α) (value : Json) : Except DecodeError α :=
  decode .value (.ofJson value)

def ofText {α : Type} (decode : Decoder α) (text : String) : Except DecodeError α := do
  let (document, after) := Document.scan Document.maxDepth text
  let value ← decode .text document
  faulty (Document.endOfText after)
  return value

end Decoder
end CypherSynthesis
