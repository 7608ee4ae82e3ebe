import CypherSynthesis.Json.Decoder
import CypherSynthesis.Operation.Encode

/-!
Operations read from JSON documents.
-/

namespace CypherSynthesis

def Root.decode : Decoder Root :=
  Decoder.choice ([.query, .mutation].map fun root : Root => (root.name, root))

def TypeShape.decode : Decoder TypeShape :=
  Decoder.choice ([.object, .scalar, .enumeration].map fun shape : TypeShape => (shape.name, shape))

def SchemaType.decode : Decoder SchemaType :=
  Decoder.record "SchemaType"
    [.needed "name" Decoder.string fun name type => { type with name },
     .optional "kind" TypeShape.decode fun shape type => { type with shape }]
    (.object "")

/-- A record with a name and a type, given how to decode the type. -/
def Declaration.decodeWith (type : Decoder TypeRef) : Decoder Declaration :=
  Decoder.record "InputField"
    [.needed "name" Decoder.string fun name declaration => (name, declaration.2),
     .needed "type" type fun type declaration => (declaration.1, type)]
    ("", .named "")

/-- A type whose input fields nest less than `fuel` deep. -/
def TypeRef.decodeWithin : Nat → Decoder TypeRef
  | 0 => fun _ _ => .error (.fault .malformed)
  | fuel + 1 =>
    Decoder.record "TypeRef"
      [.needed "name" Decoder.string fun name type => { type with name },
       .optional "nonNull" Decoder.bool fun nonNull type => { type with nonNull },
       .optional "list" Decoder.bool fun list type => { type with list },
       .optional "fields" (Decoder.list (Declaration.decodeWith (decodeWithin fuel)))
         fun fields type => { type with fields }]
      (.named "")

def TypeRef.decode : Decoder TypeRef :=
  fun source document => decodeWithin (document.height + 1) source document

def Declaration.decode : Decoder Declaration :=
  Declaration.decodeWith TypeRef.decode

def Argument.decode : Decoder Argument :=
  Decoder.record "Argument"
    [.needed "name" Decoder.string fun name argument => { argument with name },
     .needed "type" TypeRef.decode fun type argument => { argument with type },
     .optional "value" Decoder.json fun value argument => { argument with value := some value }]
    ⟨"", .named "", none⟩

def Directive.decode : Decoder Directive :=
  Decoder.record "Directive"
    [.needed "name" Decoder.string fun name directive => { directive with name },
     .optional "arguments" Decoder.bag fun arguments directive => { directive with arguments }]
    ⟨"", .empty⟩

/-- A selection whose children nest less than `fuel` deep. -/
def Selection.decodeWithin : Nat → Decoder Selection
  | 0 => fun _ _ => .error (.fault .malformed)
  | fuel + 1 =>
    Decoder.record "Selection"
      [.needed "name" Decoder.string fun name selection => { selection with name },
       .optional "alias" (Decoder.nullable Decoder.string)
         fun givenKey selection => { selection with givenKey },
       .optional "selections" (Decoder.list (decodeWithin fuel))
         fun selections selection => { selection with selections }]
      ⟨"", none, []⟩

def Selection.decode : Decoder Selection :=
  fun source document => decodeWithin (document.height + 1) source document

def SortDirection.variants : List (String × SortDirection) :=
  SortDirection.all.map fun direction => (direction.name, direction)

def SortDirection.decode : Decoder SortDirection :=
  Decoder.choice SortDirection.variants

/-- The members of a sort key's object form: a field and a direction, each at most once. -/
def SortKey.ofMembers? : List (Except Fault String × Document) → Option String →
    Option SortDirection → Option SortKey
  | [], some field, direction => some ⟨field, direction.getD .ascending⟩
  | [], none, _ => none
  | (.ok "field", .string (.ok field)) :: rest, none, direction =>
    ofMembers? rest (some field) direction
  | (.ok "field", _) :: _, _, _ => none
  | (.ok "direction", document) :: rest, field, none =>
    match Decoder.choiceInValue SortDirection.variants document with
    | .ok direction => ofMembers? rest field (some direction)
    | .error _ => none
  | (.ok "direction", _) :: _, _, some _ => none
  | _ :: rest, field, direction => ofMembers? rest field direction

/-- A sort key's text, or an object with its field and perhaps its direction. The document is read
as a whole before either form is tried. -/
def SortKey.decode : Decoder SortKey
  | _, document => do
    let _ ← Decoder.faulty document.toJson
    match document with
    | .string (.ok text) =>
      match SortKey.parse? text with
      | some key => .ok key
      | none => Decoder.mismatch (.rejected (SortKey.invalidMessage text))
    | .object _ members _ =>
      match SortKey.ofMembers? members none none with
      | some key => .ok key
      | none => Decoder.mismatch unmatched
    | _ => Decoder.mismatch unmatched
where
  unmatched : Mismatch := .rejected "data did not match any variant of untagged enum OrderByRepr"

def Operation.fields : List (Field Operation) :=
  [.needed "root" Root.decode fun root operation => { operation with root },
   .needed "fieldName" Decoder.string fun fieldName operation => { operation with fieldName },
   .needed "typeName" Decoder.string fun typeName operation => { operation with typeName },
   .needed "variableName" Decoder.string
     fun variableName operation => { operation with variableName },
   .needed "schemaType" SchemaType.decode fun schemaType operation => { operation with schemaType },
   .optional "selections" (Decoder.list Selection.decode)
     fun selections operation => { operation with selections },
   .optional "arguments" (Decoder.list Argument.decode)
     fun arguments operation => { operation with arguments },
   .optional "directives" (Decoder.list Directive.decode)
     fun directives operation => { operation with directives },
   .optional "first" (Decoder.nullable Decoder.int64) fun first operation => { operation with first },
   .optional "offset" (Decoder.nullable Decoder.int64)
     fun offset operation => { operation with offset },
   .optional "orderBy" (Decoder.list SortKey.decode)
     fun orderBy operation => { operation with orderBy },
   .optional "_id" (Decoder.nullable Decoder.int64)
     fun internalId operation => { operation with internalId },
   .optional "cypherParams" (Decoder.nullable Decoder.bag)
     fun cypherParams operation => { operation with cypherParams }]

def Operation.decode : Decoder Operation :=
  Decoder.record "ResolvedOperation" Operation.fields (.new .query "" "")

end CypherSynthesis
