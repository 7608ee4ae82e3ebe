import CypherSynthesis.Plan.Basic
import CypherSynthesis.Predicate

/-!
Reading nodes, and statements that the schema itself supplies.

In a node query the supplied arguments are matched in the pattern or by conditions, and the nodes found
are sorted and paged. A custom statement is handed to a procedure as a string literal, together with a
map of its arguments; its result is projected if its type has properties.
-/

namespace CypherSynthesis.Plan

/-- The parameters of a node query: supplied values, pagination and the internal id. -/
def nodeQueryParameters (operation : Operation) : Bag :=
  let bag := Parameters.insertPagination (Filter.ofArguments operation.arguments).values operation
  match operation.internalId with
  | some id => bag.insert Predicate.internalIdKey (encodeInt64 id)
  | none => bag

def nodeQuery (operation : Operation) : Plan :=
  let node := operation.variableName
  let filter := Filter.ofArguments operation.arguments
  let temporal := Temporal.declared operation.declarations
  let pattern := Parameters.mapLiteral (filter.inlineKeys temporal) none false
  let conditions := filter.conditions node operation.internalId.isSome temporal
  { root := node
    linkage := none
    statement := fun projection =>
      [.fixed "MATCH (", .var node, .fixed ":", .name operation.typeName, .fixed " "] ++ pattern ++
      [.fixed ") "] ++ Clause.whereClause conditions.clauses ++
      [.fixed "RETURN ", .var node, .fixed " \x7b"] ++ projection ++
      [.fixed "\x7d AS ", .var node] ++ Paging.orderBy node operation.orderBy ++
      [.fixed " "] ++ Paging.skipLimit operation
    parameters := nodeQueryParameters operation }

open Cypher (Fragment)

/-- The custom statement of an operation. -/
def customStatement (settings : Settings) (operation : Operation) :
    Except SynthesisError String :=
  match (operation.directive? settings.customDirective).bind
      (·.string? settings.statementArgument) with
  | some statement => .ok statement
  | none => .error (.missingStatement operation.fieldName settings.customDirective)

/-- The argument map of a custom statement, or what stands for an empty one. -/
def customArguments (operation : Operation) (bag : Bag) (empty : String) : Fragment :=
  let arguments := Parameters.mapLiteral bag.keys none operation.globals?.isSome
  if arguments.isEmpty then [.fixed empty] else arguments

/-- The projection of the result, for types that have properties. -/
def customProjection (operation : Operation) (projection tail : Fragment) : Fragment :=
  if operation.schemaType.isProjectable then
    projection.braced ++ [.fixed " AS ", .var operation.variableName] ++
      Paging.orderBy operation.variableName operation.orderBy ++ tail
  else []

/-- The plan of a custom query with the given statement. -/
def customQueryOf (operation : Operation) (statement : String) : Plan :=
  let node := operation.variableName
  let bag := Parameters.insertPagination (Filter.ofArguments operation.arguments).values operation
  { root := node
    linkage := none
    statement := fun projection =>
      [.fixed "WITH apoc.cypher.runFirstColumn(", .literal statement, .fixed ", "] ++
      customArguments operation bag "null" ++
      [.fixed ", True) AS x UNWIND x AS ", .var node, .fixed " RETURN ", .var node, .fixed " "] ++
      customProjection operation projection [] ++
      [.fixed " "] ++ Paging.skipLimit operation
    parameters := bag }

def customQuery (settings : Settings) (operation : Operation) : Except SynthesisError Plan := do
  return customQueryOf operation (← customStatement settings operation)

/-- The plan of a custom mutation with the given statement. -/
def customMutationOf (operation : Operation) (statement : String) : Plan :=
  let node := operation.variableName
  let bag := Parameters.ofMutation operation
  { root := node
    linkage := none
    statement := fun projection =>
      [.fixed "CALL apoc.cypher.doIt(", .literal statement, .fixed ", "] ++
      customArguments operation bag "\x7b\x7d" ++
      [.fixed ") YIELD value\nWITH apoc.map.values(value, [keys(value)[0]])[0] AS ", .var node,
       .fixed "\nRETURN ", .var node, .fixed " "] ++
      customProjection operation projection ([.fixed " "] ++ Paging.skipLimit operation)
    parameters := bag }

def customMutation (settings : Settings) (operation : Operation) : Except SynthesisError Plan := do
  return customMutationOf operation (← customStatement settings operation)

end CypherSynthesis.Plan
