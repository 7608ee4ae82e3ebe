import CypherSynthesis.Json.Basic
import CypherSynthesis.Operation.SortKey
import CypherSynthesis.Temporal.Kind
import CypherSynthesis.Text.Case

/-!
One root field of a GraphQL request after schema resolution: where it hangs, what it returns, its
declared arguments with the values supplied for them, the directives on its definition and the tree
of selected fields.
-/

namespace CypherSynthesis

inductive Root where
  | query
  | mutation
  deriving DecidableEq, Repr

inductive TypeShape where
  | object
  | scalar
  | enumeration
  deriving DecidableEq, Repr

/-- The type that a field returns. -/
structure SchemaType where
  name : String
  shape : TypeShape
  deriving DecidableEq, Repr

namespace SchemaType

def object (name : String) : SchemaType :=
  ⟨name, .object⟩

def scalar (name : String) : SchemaType :=
  ⟨name, .scalar⟩

/-- Scalars and enumerations have no properties. -/
def isScalar (type : SchemaType) : Bool :=
  type.shape != .object

def isTemporal (type : SchemaType) : Bool :=
  (TemporalKind.ofTypeName? type.name).isSome

/-- Whether a map projection applies to values of this type. -/
def isProjectable (type : SchemaType) : Bool :=
  !type.isScalar && !type.isTemporal

end SchemaType

/-- The declared type of an argument or input field, without its wrappers. An input object type
lists its fields in declaration order. -/
structure TypeRef where
  name : String
  nonNull : Bool
  list : Bool
  fields : List (String × TypeRef)
  deriving Inhabited, Repr

namespace TypeRef

def named (name : String) : TypeRef :=
  ⟨name, false, false, []⟩

def required (name : String) : TypeRef :=
  { named name with nonNull := true }

def listOf (name : String) : TypeRef :=
  { named name with list := true }

def input (name : String) (fields : List (String × TypeRef)) : TypeRef :=
  { named name with fields }

def temporalKind? (type : TypeRef) : Option TemporalKind :=
  TemporalKind.ofInputTypeName? type.name

end TypeRef

/-- A declared name with its type. -/
abbrev Declaration := String × TypeRef

/-- A declared argument. Without a value it was not supplied; an explicit null is a value. -/
structure Argument where
  name : String
  type : TypeRef
  value : Option Json
  deriving Inhabited, Repr

namespace Argument

def isSupplied (argument : Argument) : Bool :=
  argument.value.isSome

def declaration (argument : Argument) : Declaration :=
  (argument.name, argument.type)

end Argument

structure Directive where
  name : String
  arguments : Bag
  deriving Inhabited, Repr

/-- An argument that is a string; other values count as absent. -/
def Directive.string? (directive : Directive) (name : String) : Option String :=
  match directive.arguments.get? name with
  | some (.string s) => some s
  | _ => none

structure Selection where
  name : String
  givenKey : Option String
  selections : List Selection
  deriving Inhabited, Repr

namespace Selection

/-- The key under which the field appears in the response. -/
def responseKey (selection : Selection) : String :=
  selection.givenKey.getD selection.name

def isLeaf (selection : Selection) : Bool :=
  selection.selections.isEmpty

end Selection

structure Operation where
  root : Root
  fieldName : String
  typeName : String
  variableName : String
  schemaType : SchemaType
  selections : List Selection
  arguments : List Argument
  directives : List Directive
  first : Option Int64
  offset : Option Int64
  orderBy : List SortKey
  internalId : Option Int64
  cypherParams : Option Bag
  deriving Repr

namespace Operation

/-- A field of the given type; the variable is the type's name with a small first letter. -/
def new (root : Root) (fieldName typeName : String) : Operation where
  root := root
  fieldName := fieldName
  typeName := typeName
  variableName := Text.lowerFirst typeName
  schemaType := .object typeName
  selections := []
  arguments := []
  directives := []
  first := none
  offset := none
  orderBy := []
  internalId := none
  cypherParams := none

def isMutation (operation : Operation) : Bool :=
  operation.root == .mutation

/-- The first argument of that name. -/
def argument? (operation : Operation) (name : String) : Option Argument :=
  operation.arguments.find? (·.name = name)

/-- The first directive of that name. -/
def directive? (operation : Operation) (name : String) : Option Directive :=
  operation.directives.find? (·.name = name)

def declarations (operation : Operation) : List Declaration :=
  operation.arguments.map Argument.declaration

/-- The request-wide parameters; an empty map counts as none. -/
def globals? (operation : Operation) : Option Bag :=
  operation.cypherParams.filter (!·.isEmpty)

end Operation
end CypherSynthesis
