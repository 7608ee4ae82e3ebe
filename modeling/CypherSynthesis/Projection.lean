import CypherSynthesis.Cypher.Fragment
import CypherSynthesis.Operation.Basic
import CypherSynthesis.SynthesisError

/-!
Projections of selected fields. A statement returns a map of the fields that were asked for; a
projector writes what stands between the braces of that map. `Projection.flat` projects fields without
children, and the two ends of a relationship one level deep.
-/

namespace CypherSynthesis

open Cypher (Fragment)

/-- The variables around a relationship that is created or deleted. The relationship's own variable
is there only while it is bound. -/
structure Linkage where
  source : String
  target : String
  relationship : Option String
  deriving DecidableEq, Repr

/-- What a projector is asked for. -/
structure SelectionRequest where
  selections : List Selection
  /-- The variable whose properties are projected. -/
  root : String
  schemaType : SchemaType
  paramIndex : Nat
  linkage : Option Linkage
  deriving Repr

/-- The text between the braces, the parameters that it reads, and the next free index for them. -/
structure Projection where
  fragment : Fragment
  parameters : Bag
  nextIndex : Nat
  deriving Repr

abbrev Projector := SelectionRequest → Except SynthesisError Projection

namespace Projection

def typenameField : String := "__typename"
def internalIdField : String := "_id"
def sourceField : String := "from"
def targetField : String := "to"

/-- The selections that leave a trace in the projection. -/
def projected (selections : List Selection) : List Selection :=
  selections.filter (·.name ≠ typenameField)

/-- A field without children. In a bare map nothing stands for the node, so the shorthand with a
point has to be spelled out. -/
def leaf (node : String) (bare : Bool) (selection : Selection) : Fragment :=
  if selection.name = internalIdField then
    [.name selection.responseKey, .fixed ": ID(", .var node, .fixed ")"]
  else if selection.givenKey.isNone && !bare then [.fixed ".", .name selection.responseKey]
  else
    [.name selection.responseKey, .fixed ": ", .var node, .fixed ".", .name selection.name]

/-- A field of one end of a relationship. -/
def endpointField (parent : Selection) (node : String) (selection : Selection) :
    Except SynthesisError Fragment :=
  if selection.isLeaf then .ok (leaf node false selection)
  else .error (.selection ("nested selection '" ++ parent.name ++ "." ++ selection.name ++
    "' needs a schema-aware selection compiler"))

/-- One end of a relationship with its own fields. -/
def endpoint (selection : Selection) (node : String) : Except SynthesisError Fragment := do
  let fields ← (projected selection.selections).mapM (endpointField selection node)
  return [.name selection.responseKey, .fixed ": ", .var node, .fixed " "] ++
    (Fragment.listed fields).braced

/-- The variable of the end of a relationship that a field stands for. -/
def endpointVariable? (linkage : Option Linkage) (fieldName : String) : Option String := do
  let linkage ← linkage
  if fieldName = sourceField then some linkage.source
  else if fieldName = targetField then some linkage.target
  else none

/-- Whether the projection is a bare map: around a relationship that is no longer bound. -/
def isBare (linkage : Option Linkage) : Bool :=
  linkage.any (·.relationship.isNone)

def entry (request : SelectionRequest) (selection : Selection) : Except SynthesisError Fragment :=
  if selection.isLeaf then .ok (leaf request.root (isBare request.linkage) selection)
  else
    match endpointVariable? request.linkage selection.name with
    | some node => endpoint selection node
    | none => .error (.selection ("nested selection '" ++ selection.name ++ "' on " ++
        request.schemaType.name ++ " needs a schema-aware selection compiler"))

/-- Projects leaves and endpoints, and refuses any other nested selection. -/
def flat : Projector := fun request => do
  let entries ← (projected request.selections).mapM (entry request)
  return ⟨Fragment.listed entries, .empty, request.paramIndex⟩

end Projection
end CypherSynthesis
