import CypherSynthesis.Operation.Basic

/-!
Operations as JSON values. Members stand in declaration order; options without a value, and some
empty lists, are left out.
-/

namespace CypherSynthesis

/-- The member of a value that may be absent. -/
def Json.optionalMember (name : String) : Option Json → List (String × Json)
  | some value => [(name, value)]
  | none => []

/-- The member of a list that is left out when empty. -/
def Json.listMember (name : String) : List Json → List (String × Json)
  | [] => []
  | items => [(name, .array items)]

def Root.name : Root → String
  | .query => "query"
  | .mutation => "mutation"

def Root.encode (root : Root) : Json :=
  .string root.name

def TypeShape.name : TypeShape → String
  | .object => "object"
  | .scalar => "scalar"
  | .enumeration => "enum"

def TypeShape.encode (shape : TypeShape) : Json :=
  .string shape.name

def SchemaType.encode (type : SchemaType) : Json :=
  .object [("name", .string type.name), ("kind", type.shape.encode)]

mutual

def TypeRef.encode : TypeRef → Json
  | ⟨name, nonNull, list, fields⟩ =>
    .object ([("name", .string name), ("nonNull", .bool nonNull), ("list", .bool list)] ++
      Json.listMember "fields" (encodeDeclarations fields))

def encodeDeclarations : List (String × TypeRef) → List Json
  | [] => []
  | (name, type) :: rest =>
    .object [("name", .string name), ("type", type.encode)] :: encodeDeclarations rest

end

def Declaration.encode (declaration : Declaration) : Json :=
  .object [("name", .string declaration.1), ("type", declaration.2.encode)]

def Argument.encode (argument : Argument) : Json :=
  .object ([("name", .string argument.name), ("type", argument.type.encode)] ++
    Json.optionalMember "value" argument.value)

def Directive.encode (directive : Directive) : Json :=
  .object [("name", .string directive.name), ("arguments", directive.arguments.toJson)]

mutual

def Selection.encode : Selection → Json
  | ⟨name, givenKey, selections⟩ =>
    .object ([("name", .string name)] ++ Json.optionalMember "alias" (givenKey.map .string) ++
      Json.listMember "selections" (encodeSelections selections))

def encodeSelections : List Selection → List Json
  | [] => []
  | selection :: rest => selection.encode :: encodeSelections rest

end

def SortDirection.encode (direction : SortDirection) : Json :=
  .string direction.name

def SortKey.encode (key : SortKey) : Json :=
  .object [("field", .string key.field), ("direction", key.direction.encode)]

def encodeInt64 (n : Int64) : Json :=
  .ofInt n.toInt

def Operation.encode (operation : Operation) : Json :=
  .object (
    [("root", operation.root.encode),
     ("fieldName", .string operation.fieldName),
     ("typeName", .string operation.typeName),
     ("variableName", .string operation.variableName),
     ("schemaType", operation.schemaType.encode),
     ("selections", .array (encodeSelections operation.selections)),
     ("arguments", .array (operation.arguments.map Argument.encode)),
     ("directives", .array (operation.directives.map Directive.encode))] ++
    Json.optionalMember "first" (operation.first.map encodeInt64) ++
    Json.optionalMember "offset" (operation.offset.map encodeInt64) ++
    Json.listMember "orderBy" (operation.orderBy.map SortKey.encode) ++
    Json.optionalMember "_id" (operation.internalId.map encodeInt64) ++
    Json.optionalMember "cypherParams" (operation.cypherParams.map Bag.toJson))

end CypherSynthesis
