import CypherSynthesis.Cypher.Fragment
import CypherSynthesis.Temporal.Value
import CypherSynthesis.Text.Basic

/-!
Conditions on a node, and the WHERE clause made of them. Conditions are collected in four groups and
always written in the order of the groups: the internal id, properties that are null, temporal
comparisons, and membership in a list. A filter makes them of the supplied arguments of a query, those
supplied as null apart from the others.
-/

namespace CypherSynthesis

open Cypher (Fragment)

/-- A condition on a node's properties, read against parameters. -/
inductive Predicate where
  | internalId
  | isNull (key : String)
  /-- The temporal property `key` is the formatted value. -/
  | sameValue (key : String) (kind : TemporalKind) (parent : Option String)
  /-- One component of the temporal property `key` has the given value. -/
  | sameComponent (key component : String) (parent : Option String)
  | memberOf (key : String)
  deriving DecidableEq, Repr

/-- Part of a WHERE clause, and the parameters that it reads. -/
structure Clause where
  fragment : Fragment
  parameters : List String
  deriving DecidableEq, Repr

def Clause.text (clause : Clause) : String :=
  clause.fragment.render

def Clause.isBlank (clause : Clause) : Bool :=
  Text.isBlankText clause.text

namespace Predicate

def internalIdKey : String := "_id"

/-- Where the value of `key` is found: in a parameter of its own, or inside its parent. -/
def path (parent : Option String) (key : String) : List String :=
  parent.toList ++ [key]

def fragment (node : String) : Predicate → Fragment
  | internalId => [.fixed "ID(", .var node, .fixed ") = ", .param [internalIdKey]]
  | isNull key => [.var node, .fixed ".", .name key, .fixed " IS NULL"]
  | sameValue key kind parent =>
    [.var node, .fixed ".", .name key, .fixed " = ", .fixed kind.constructor, .fixed "(",
     .param (path parent key ++ [Temporal.formattedKey]), .fixed ")"]
  | sameComponent key component parent =>
    [.var node, .fixed ".", .name key, .fixed ".", .name component, .fixed " = ",
     .param (path parent key ++ [component])]
  | memberOf key => [.var node, .fixed ".", .name key, .fixed " IN ", .param [key]]

def parameters : Predicate → List String
  | internalId => [internalIdKey]
  | isNull _ => []
  | sameValue key _ parent | sameComponent key _ parent => [parent.getD key]
  | memberOf key => [key]

def clause (node : String) (predicate : Predicate) : Clause :=
  ⟨predicate.fragment node, predicate.parameters⟩

/-- The comparisons for one temporal declaration: none unless its value is a component map. -/
def ofTemporal (values : List (String × Json)) (parent : Option String)
    (declared : Temporal.Declared) : List Predicate :=
  match Bag.find? declared.name values with
  | some (.object components) =>
    match Temporal.formatted? components with
    | some _ => [.sameValue declared.name declared.kind parent]
    | none =>
      (Temporal.given components).map fun (component, _) =>
        .sameComponent declared.name component parent
  | _ => []

def temporal (values : List (String × Json)) (declared : List Temporal.Declared)
    (parent : Option String) : List Predicate :=
  declared.flatMap (ofTemporal values parent)

end Predicate

/-- The conditions collected for one node, by its variable. -/
structure Conditions where
  node : String
  internalId : Bool
  nulls : List Predicate
  temporal : List Predicate
  members : List Predicate
  deriving DecidableEq, Repr

namespace Conditions

def new (node : String) : Conditions :=
  ⟨Cypher.sanitize node, false, [], [], []⟩

def withInternalId (conditions : Conditions) : Conditions :=
  { conditions with internalId := true }

def withNulls (conditions : Conditions) (keys : List String) : Conditions :=
  { conditions with nulls := conditions.nulls ++ keys.map .isNull }

def withTemporal (conditions : Conditions) (values : List (String × Json))
    (declared : List Temporal.Declared) (parent : Option String) : Conditions :=
  { conditions with
    temporal := conditions.temporal ++ Predicate.temporal values declared parent }

def withMembers (conditions : Conditions) (keys : List String) : Conditions :=
  { conditions with members := conditions.members ++ keys.map .memberOf }

/-- All conditions in the order of their groups. -/
def predicates (conditions : Conditions) : List Predicate :=
  (if conditions.internalId then [.internalId] else []) ++
    conditions.nulls ++ conditions.temporal ++ conditions.members

def clauses (conditions : Conditions) : List Clause :=
  (conditions.predicates.map (·.clause conditions.node)).filter (!·.isBlank)

end Conditions

namespace Clause

/-- The clauses joined by AND; none if all are blank. -/
def conjunction? (clauses : List Clause) : Option Fragment :=
  let parts := clauses.filter (!·.isBlank)
  if parts.isEmpty then none else some (Fragment.joined " AND " (parts.map Clause.fragment))

/-- A WHERE clause that ends in a space, or nothing. -/
def whereClause (clauses : List Clause) : Fragment :=
  match conjunction? clauses with
  | some fragment => [.fixed "WHERE "] ++ fragment ++ [.fixed " "]
  | none => []

end Clause

structure Filter where
  nulls : Bag
  values : Bag
  deriving Inhabited, Repr

namespace Filter

def empty : Filter :=
  ⟨.empty, .empty⟩

def add (filter : Filter) (argument : Argument) : Filter :=
  match argument.value with
  | none => filter
  | some .null => { filter with nulls := filter.nulls.insert argument.name .null }
  | some value => { filter with values := filter.values.insert argument.name value }

def ofArguments (arguments : List Argument) : Filter :=
  arguments.foldl add empty

/-- The names of arguments whose value is a list. -/
def listKeys (filter : Filter) : List String :=
  (filter.values.filter fun _ value => value.isArray).keys

/-- The names of arguments that can be matched inside the pattern: neither lists nor temporal. -/
def inlineKeys (filter : Filter) (temporal : List Temporal.Declared) : List String :=
  (filter.values.filter fun key value =>
    !value.isArray && !temporal.any (·.name = key)).keys

def isEmpty (filter : Filter) : Bool :=
  filter.nulls.isEmpty && filter.values.isEmpty

/-- The conditions that the filter puts on a node. -/
def conditions (filter : Filter) (node : String) (internalId : Bool)
    (temporal : List Temporal.Declared) : Conditions :=
  let start := Conditions.new node
  let start := if internalId then start.withInternalId else start
  let start := start.withNulls filter.nulls.keys
  (start.withTemporal filter.values.entries temporal none).withMembers filter.listKeys

end Filter
end CypherSynthesis
