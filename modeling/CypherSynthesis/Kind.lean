import CypherSynthesis.Operation.Basic
import CypherSynthesis.Text.Case
import CypherSynthesis.SynthesisError

/-!
The kinds of statement. A directive with a custom statement decides for itself; any other query reads
nodes, and any other mutation is told by the verb at the start of its name.
-/

namespace CypherSynthesis

inductive Kind where
  | customQuery
  | nodeQuery
  | customMutation
  | nodeCreate
  | nodeUpdate
  | nodeDelete
  | relationshipCreate
  | relationshipDelete
  deriving DecidableEq, Repr

namespace Kind

def text : Kind → String
  | customQuery => "custom query"
  | nodeQuery => "node query"
  | customMutation => "custom mutation"
  | nodeCreate => "node create"
  | nodeUpdate => "node update"
  | nodeDelete => "node delete"
  | relationshipCreate => "relationship create"
  | relationshipDelete => "relationship delete"

/-- The first character and what follows it up to the next capital. -/
def firstSegment : List Char → List Char
  | [] => []
  | c :: rest => c :: rest.takeWhile (!Text.isUppercase ·)

def ofVerb? (verb : String) : Option Kind :=
  match verb with
  | "create" => some nodeCreate
  | "update" => some nodeUpdate
  | "delete" => some nodeDelete
  | "add" => some relationshipCreate
  | "remove" => some relationshipDelete
  | _ => none

/-- The kind told by a mutation's name; the case of ASCII letters does not matter. -/
def ofMutationName? (fieldName : String) : Option Kind :=
  ofVerb? (String.ofList ((firstSegment fieldName.toList).map Char.toLower))

/-- The kind of an operation, given the name of the directive for custom statements. -/
def classify (operation : Operation) (customDirective : String) : Except SynthesisError Kind :=
  let custom := (operation.directive? customDirective).isSome
  match operation.root with
  | .query => .ok (if custom then customQuery else nodeQuery)
  | .mutation =>
    if custom then .ok customMutation
    else
      match ofMutationName? operation.fieldName with
      | some kind => .ok kind
      | none => .error (.unsupportedMutation operation.fieldName)

end Kind
end CypherSynthesis
