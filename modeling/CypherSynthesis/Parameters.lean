import CypherSynthesis.Cypher.Fragment
import CypherSynthesis.Operation.Encode

/-!
The parameters that go with a statement: supplied arguments, pagination, the request-wide map, and
the map literal that passes parameters on by name.
-/

namespace CypherSynthesis

open Cypher (Fragment)

namespace Parameters

def globalsKey : String := "cypherParams"
def paramsKey : String := "params"
def dataKey : String := "data"
def firstKey : String := "first"
def offsetKey : String := "offset"

/-- The map literal that gives each key the value of its parameter, then the request-wide map;
nothing if there is no entry. -/
def mapLiteral (keys : List String) (parent : Option String) (globals : Bool) : Fragment :=
  let entries := keys.map fun key =>
    [Cypher.Piece.name key, .fixed ":", .param (parent.toList ++ [key])]
  let entries := entries ++
    if globals then [[.name globalsKey, .fixed ": ", .param [globalsKey]]] else []
  if entries.isEmpty then [] else (Fragment.listed entries).braced

def insertPagination (bag : Bag) (operation : Operation) : Bag :=
  let bag := match operation.first with
    | some first => bag.insert firstKey (encodeInt64 first)
    | none => bag
  match operation.offset with
  | some offset => bag.insert offsetKey (encodeInt64 offset)
  | none => bag

/-- The supplied arguments, nulls included. -/
def supplied (arguments : List Argument) : Bag :=
  .ofList (arguments.filterMap fun argument => argument.value.map (argument.name, ·))

/-- The parameters of a mutation that reads its arguments at the top level. -/
def ofMutation (operation : Operation) : Bag :=
  insertPagination (supplied operation.arguments) operation

/-- The parameters of a mutation that reads its arguments from one map. -/
def nested (operation : Operation) (arguments : Bag) : Bag :=
  insertPagination (Bag.empty.insert paramsKey arguments.toJson) operation

/-- The argument that needs a generated key: the first one of the id type, if it has no value. -/
def keyToGenerate? (arguments : List Argument) (idType : String) (values : Bag) :
    Option String := do
  let argument ← arguments.find? (·.type.name = idType)
  if values.contains argument.name then none else some argument.name

/-- Adds a key where one is needed, which `generate` makes for that argument; returns the argument. -/
def generateKey {m : Type → Type} [Monad m] (arguments : List Argument) (idType : String)
    (generate : String → m Json) (values : Bag) : m (Option String × Bag) := do
  match keyToGenerate? arguments idType values with
  | some name => return (some name, values.insert name (← generate name))
  | none => return (none, values)

/-- The entry of a key apart from the other entries. -/
def split (values : Bag) (key : String) : Bag × Bag :=
  (values.filter fun k _ => k = key, values.filter fun k _ => k ≠ key)

/-- Adds what the projection reads, then the request-wide map. -/
def finish (bag selection : Bag) (globals : Option Bag) : Bag :=
  let bag := bag.insertAll selection.entries
  match globals with
  | some globals => bag.insert globalsKey globals.toJson
  | none => bag

end Parameters
end CypherSynthesis
