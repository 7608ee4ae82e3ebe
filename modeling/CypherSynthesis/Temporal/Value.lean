import CypherSynthesis.Operation.Basic

/-!
Temporal values of a request: a map of components, or a map with the whole value as a formatted text,
or a list of such values. Written to the graph, a formatted text stands for the value, and otherwise
the components that are not null do.
-/

namespace CypherSynthesis

namespace Temporal

def formattedKey : String := "formatted"

/-- The formatted text of a component map, unless it is null. -/
def formatted? (components : List (String × Json)) : Option Json :=
  match Bag.find? formattedKey components with
  | some value => if value.isNull then none else some value
  | none => none

/-- The components that carry a value. -/
def given (components : List (String × Json)) : List (String × Json) :=
  components.filter fun (_, value) => !value.isNull

mutual

/-- The form in which a temporal value is bound for writing. -/
def writeForm : Json → Json
  | .object components => (formatted? components).getD (.object (given components))
  | .array items => .array (writeForms items)
  | value => value

def writeForms : List Json → List Json
  | [] => []
  | item :: rest => writeForm item :: writeForms rest

end

/-- A declared name of temporal type. -/
structure Declared where
  name : String
  kind : TemporalKind
  deriving DecidableEq, Repr

/-- The declarations of temporal type, in order. -/
def declared (declarations : List Declaration) : List Declared :=
  declarations.filterMap fun (name, type) => type.temporalKind?.map (⟨name, ·⟩)

end Temporal
end CypherSynthesis
