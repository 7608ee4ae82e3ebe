import CypherSynthesis.Parameters
import CypherSynthesis.Projection
import CypherSynthesis.Settings.Basic

/-!
A statement before its selected fields are projected. A plan knows what to ask the projector for, how
the statement goes around the answer, and which parameters the statement reads by itself. A statement
that returns many rows ends in a sort order, an offset and a limit.
-/

namespace CypherSynthesis

open Cypher (Fragment)

namespace Paging

def sortEntry (node : String) (key : SortKey) : Fragment :=
  [.var node, .fixed ".", .name key.field, .fixed " ", .fixed key.direction.keyword]

/-- An ORDER BY clause with a space in front, or nothing. -/
def orderBy (node : String) (keys : List SortKey) : Fragment :=
  if keys.isEmpty then []
  else [.fixed " ORDER BY "] ++ Fragment.listed (keys.map (sortEntry node))

/-- SKIP and LIMIT, as far as they are asked for. -/
def skipLimit (operation : Operation) : Fragment :=
  let skip : List Fragment :=
    if operation.offset.isSome then [[.fixed "SKIP ", .param [Parameters.offsetKey]]] else []
  let limit : List Fragment :=
    if operation.first.isSome then [[.fixed "LIMIT ", .param [Parameters.firstKey]]] else []
  Fragment.joined " " (skip ++ limit)

end Paging

/-- A statement with its parameters. -/
structure Query where
  statement : Fragment
  parameters : Bag
  deriving Repr

namespace Query

def text (query : Query) : String :=
  query.statement.render

def encode (query : Query) : Json :=
  .object [("text", .string query.text), ("parameters", query.parameters.toJson)]

end Query

structure Plan where
  /-- The variable whose properties are projected. -/
  root : String
  linkage : Option Linkage
  /-- The statement around a projection. -/
  statement : Fragment → Fragment
  /-- The parameters of the statement itself. -/
  parameters : Bag

namespace Plan

/-- Parameters of a projection are numbered from here. -/
def firstParamIndex : Nat := 1

def request (plan : Plan) (operation : Operation) : SelectionRequest where
  selections := operation.selections
  root := plan.root
  schemaType := operation.schemaType
  paramIndex := firstParamIndex
  linkage := plan.linkage

/-- The query of a plan whose fields have been projected. -/
def query (plan : Plan) (operation : Operation) (projection : Projection) : Query where
  statement := plan.statement projection.fragment
  parameters := Parameters.finish plan.parameters projection.parameters operation.globals?

end Plan
end CypherSynthesis
