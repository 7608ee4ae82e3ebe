import CypherSynthesis.Plan.Basic
import CypherSynthesis.Target

/-!
Creating and deleting a relationship between two nodes. A directive names the relationship type and the
types of its two ends. Each end is found by the first field of its input type, with its values in a
parameter of its own.
-/

namespace CypherSynthesis

structure Link where
  relationship : String
  sourceType : String
  targetType : String
  deriving DecidableEq, Repr

namespace Link

/-- A string argument that the directive must have. -/
def required (fieldName : String) (directive : Directive) (argument : String) :
    Except SynthesisError String :=
  match directive.string? argument with
  | some value => .ok value
  | none => .error (.missingLink fieldName (.missing directive.name argument))

/-- Reads the first directive of the given name. -/
def resolve (operation : Operation) (directiveName : String) : Except SynthesisError Link :=
  match operation.directive? directiveName with
  | none => .error (.missingLink operation.fieldName (.absent directiveName))
  | some directive => do
    let relationship ← required operation.fieldName directive "relationship"
    let sourceType ← required operation.fieldName directive "from"
    let targetType ← required operation.fieldName directive "to"
    return ⟨relationship, sourceType, targetType⟩

end Link
end CypherSynthesis

namespace CypherSynthesis.Plan

open Cypher (Fragment)

/-- One end of a relationship. -/
structure Endpoint where
  /-- The argument that its values are in. -/
  argument : String
  node : String
  label : String
  key : String
  /-- The temporal fields of its input type. -/
  temporal : List Temporal.Declared
  values : List (String × Json)
  deriving Repr

/-- The match of an end. Only the key is compared, whatever else was supplied. -/
def Endpoint.matchClause (endpoint : Endpoint) : Fragment :=
  let conditions := (Conditions.new endpoint.node).withTemporal
    (endpoint.values.filter (·.1 = endpoint.key))
    (endpoint.temporal.filter (·.name = endpoint.key)) (some endpoint.argument)
  let target : Target := ⟨endpoint.node, endpoint.label, endpoint.key, some endpoint.argument⟩
  target.matchClause conditions.clauses

/-- One end of a relationship, with the name of its argument. -/
def endpoint (operation : Operation) (argumentName typeName : String) :
    Except SynthesisError Endpoint := do
  let missing {α : Type} (argument : String) : Except SynthesisError α :=
    .error (.missingArgument operation.fieldName argument)
  match operation.argument? argumentName with
  | none => missing argumentName
  | some argument =>
    match argument.value with
    | some (.object members) =>
      match argument.type.fields with
      | [] => missing (argumentName ++ ".<primary key>")
      | (key, _) :: _ =>
        if (Bag.find? key members).all Json.isNull then missing (argumentName ++ "." ++ key)
        else
          return {
            argument := argumentName
            node := Text.lowerFirst typeName ++ "_" ++ argumentName
            label := typeName
            key := key
            temporal := Temporal.declared argument.type.fields
            values := members }
    | _ => missing argumentName

/-- The link of an operation and its two ends. -/
def endpoints (settings : Settings) (operation : Operation) :
    Except SynthesisError (Link × Endpoint × Endpoint) := do
  let link ← Link.resolve operation settings.linkDirective
  let source ← endpoint operation Projection.sourceField link.sourceType
  let target ← endpoint operation Projection.targetField link.targetType
  return (link, source, target)

/-- The end whose properties are projected: the one that the payload type is not about. -/
def projectedEnd (operation : Operation) (link : Link) (source target : String) : String :=
  if operation.schemaType.name = link.sourceType then target else source

/-- The properties written to the new relationship: how they are assigned, and the parameters with
those values in write form. -/
def relationshipData (operation : Operation) (bag : Bag) : List Assignment × Bag :=
  match operation.argument? Parameters.dataKey, bag.get? Parameters.dataKey with
  | some argument, some (.object members) =>
    (Assignment.all argument.type.fields (members.map Prod.fst),
     bag.insert Parameters.dataKey
      (.object (Bag.mapEntries (Assignment.stored argument.type.fields) members)))
  | _, _ => ([], bag)

/-- The plan of a new relationship between two ends. -/
def relationshipCreateBetween (operation : Operation) (link : Link) (source target : Endpoint) :
    Plan :=
  let (assignments, bag) := relationshipData operation (Parameters.ofMutation operation)
  let relationship :=
    Cypher.sanitize (String.ofList (link.relationship.toList.flatMap Text.lowercase) ++ "_relation")
  let properties : Fragment :=
    if assignments.isEmpty then []
    else [.fixed " "] ++ (Assignment.listed Parameters.dataKey assignments).braced
  { root := projectedEnd operation link source.node target.node
    linkage := some ⟨source.node, target.node, some relationship⟩
    statement := fun projection =>
      source.matchClause ++ [.fixed "\n"] ++ target.matchClause ++
      [.fixed "\nCREATE (", .var source.node, .fixed ")-[", .var relationship, .fixed ":",
       .name link.relationship] ++ properties ++
      [.fixed "]->(", .var target.node, .fixed ")\nRETURN ", .var relationship, .fixed " \x7b "] ++
      projection ++ [.fixed " \x7d AS ", .var operation.schemaType.name]
    parameters := bag }

def relationshipCreate (settings : Settings) (operation : Operation) :
    Except SynthesisError Plan := do
  let (link, source, target) ← endpoints settings operation
  return relationshipCreateBetween operation link source target

/-- The plan of the deletion of a relationship between two ends. -/
def relationshipDeleteBetween (operation : Operation) (link : Link) (source target : Endpoint) :
    Plan :=
  let relationship := source.node ++ target.node
  let sourceRoot := Cypher.sanitize ("_" ++ source.node)
  let targetRoot := Cypher.sanitize ("_" ++ target.node)
  { root := projectedEnd operation link sourceRoot targetRoot
    linkage := some ⟨sourceRoot, targetRoot, none⟩
    statement := fun projection =>
      source.matchClause ++ [.fixed "\n"] ++ target.matchClause ++
      [.fixed "\nOPTIONAL MATCH (", .var source.node, .fixed ")-[", .var relationship, .fixed ":",
       .name link.relationship, .fixed "]->(", .var target.node, .fixed ")\nDELETE ",
       .var relationship, .fixed "\nWITH COUNT(*) AS scope, ", .var source.node, .fixed " AS ",
       .var sourceRoot, .fixed ", ", .var target.node, .fixed " AS ", .var targetRoot,
       .fixed "\nRETURN \x7b"] ++ projection ++
      [.fixed "\x7d AS ", .var operation.schemaType.name]
    parameters := Parameters.ofMutation operation }

def relationshipDelete (settings : Settings) (operation : Operation) :
    Except SynthesisError Plan := do
  let (link, source, target) ← endpoints settings operation
  return relationshipDeleteBetween operation link source target

end CypherSynthesis.Plan
