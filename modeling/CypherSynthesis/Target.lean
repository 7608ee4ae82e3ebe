import CypherSynthesis.Parameters
import CypherSynthesis.Predicate

/-!
A node that is found by its key, and the properties written to a node or relationship.

The key is matched inside the pattern; a temporal key given by its components has no single value and
is matched by conditions instead. Each written entry whose key is declared becomes one assignment from
its parameter; a temporal one goes through the constructor of its type, and its value is bound in write
form. Entries that are not declared stay bound and are not assigned.
-/

namespace CypherSynthesis

open Cypher (Fragment)

structure Target where
  node : String
  label : String
  key : String
  /-- The parameter that the key's value is inside of. -/
  parent : Option String
  deriving DecidableEq, Repr

namespace Target

/-- The node is matched by the conditions on its key, if there are any. -/
def matchClause (target : Target) (conditions : List Clause) : Fragment :=
  match Clause.conjunction? conditions with
  | some conjunction =>
    [.fixed "MATCH (", .var target.node, .fixed ":", .name target.label, .fixed ") WHERE "] ++
      conjunction
  | none =>
    [.fixed "MATCH (", .var target.node, .fixed ":", .name target.label, .fixed " \x7b",
     .name target.key, .fixed ": ", .param (Predicate.path target.parent target.key),
     .fixed "\x7d)"]

end Target

/-- An assignment of the parameter `key` to the property `key`. -/
inductive Assignment where
  | plain (key : String)
  | temporal (key : String) (kind : TemporalKind)
  /-- Each element of a list goes through the constructor. -/
  | temporalList (key : String) (kind : TemporalKind)
  deriving DecidableEq, Repr

namespace Assignment

/-- The assignment as an entry of a map, with its parameter inside `parent`. -/
def fragment (parent : String) : Assignment → Fragment
  | plain key => [.name key, .fixed ":", .param [parent, key]]
  | temporal key kind =>
    [.name key, .fixed ": ", .fixed kind.constructor, .fixed "(", .param [parent, key], .fixed ")"]
  | temporalList key kind =>
    [.name key, .fixed ": [value IN ", .param [parent, key], .fixed " | ",
     .fixed kind.constructor, .fixed "(value)]"]

/-- The type of the first declaration of that name. -/
def typeOf? (declarations : List Declaration) (key : String) : Option TypeRef :=
  (declarations.find? (·.1 = key)).map Prod.snd

def ofType (key : String) (type : TypeRef) : Assignment :=
  match type.temporalKind? with
  | some kind => if type.list then temporalList key kind else temporal key kind
  | none => plain key

/-- The assignments for the declared ones among the names, in their order. -/
def all (declarations : List Declaration) (names : List String) : List Assignment :=
  names.filterMap fun key => (typeOf? declarations key).map (ofType key)

/-- The value to bind: one of temporal type is put into write form. -/
def stored (declarations : List Declaration) (key : String) (value : Json) : Json :=
  match (typeOf? declarations key).bind TypeRef.temporalKind? with
  | some _ => Temporal.writeForm value
  | none => value

/-- Assignments with commas between them. -/
def listed (parent : String) (assignments : List Assignment) : Fragment :=
  Fragment.listed (assignments.map (fragment parent))

end Assignment
end CypherSynthesis
