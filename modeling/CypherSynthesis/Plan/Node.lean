import CypherSynthesis.Plan.Basic
import CypherSynthesis.Target

/-!
Creating, updating and deleting a node. Update and delete find their node by the first declared
argument.
-/

namespace CypherSynthesis.Plan

open Cypher (Fragment)

/-- The plan of a new node with the given values. -/
def nodeCreateWith (operation : Operation) (values : Bag) : Plan :=
  let node := operation.variableName
  let declarations := operation.declarations
  let assignments := Assignment.all declarations values.keys
  { root := node
    linkage := none
    statement := fun projection =>
      [.fixed "CREATE (", .var node, .fixed ":", .name operation.typeName, .fixed " \x7b"] ++
      Assignment.listed Parameters.paramsKey assignments ++
      [.fixed "\x7d)\nRETURN ", .var node, .fixed " \x7b"] ++ projection ++
      [.fixed "\x7d AS ", .var node]
    parameters := Parameters.nested operation (values.mapValues (Assignment.stored declarations)) }

/-- The plan of a new node. A key that is missing comes from `generate`. -/
def nodeCreate {m : Type → Type} [Monad m] (settings : Settings) (generate : String → m Json)
    (operation : Operation) : m Plan := do
  let (_, values) ← Parameters.generateKey operation.arguments settings.idType generate
    (Parameters.supplied operation.arguments)
  return nodeCreateWith operation values

/-- The argument that a node is found by: the first declared one, which must have a value. -/
def keyArgument (operation : Operation) : Except SynthesisError Argument :=
  match operation.arguments with
  | [] => .error (.missingArgument operation.fieldName "primary key")
  | argument :: _ =>
    match argument.value with
    | none | some .null => .error (.missingArgument operation.fieldName argument.name)
    | some _ => .ok argument

/-- The match of an operation's node, with the entry of its key. Every temporal declaration is
compared, so the entry of the key has to be the only one. -/
def keyMatch (operation : Operation) (key : String) (entry : Bag) (parent : Option String) :
    Fragment :=
  let conditions := (Conditions.new operation.variableName).withTemporal entry.entries
    (Temporal.declared operation.declarations) parent
  let target : Target := ⟨operation.variableName, operation.typeName, key, parent⟩
  target.matchClause conditions.clauses

/-- The plan of an update of the node with the given key. -/
def nodeUpdateBy (operation : Operation) (key : String) : Plan :=
  let node := operation.variableName
  let declarations := operation.declarations
  let (entry, updates) := Parameters.split (Parameters.supplied operation.arguments) key
  let assignments := Assignment.all declarations updates.keys
  { root := node
    linkage := none
    statement := fun projection =>
      keyMatch operation key entry (some Parameters.paramsKey) ++ [.fixed "\n"] ++
      (if assignments.isEmpty then []
       else
        [.fixed "SET ", .var node, .fixed " += \x7b"] ++
        Assignment.listed Parameters.paramsKey assignments ++ [.fixed "\x7d\n"]) ++
      [.fixed "RETURN ", .var node, .fixed " \x7b"] ++ projection ++
      [.fixed "\x7d AS ", .var node]
    parameters := Parameters.nested operation
      ((updates.mapValues (Assignment.stored declarations)).insertAll entry.entries) }

def nodeUpdate (operation : Operation) : Except SynthesisError Plan := do
  return nodeUpdateBy operation (← keyArgument operation).name

/-- The plan of a deletion of the node with the given key. -/
def nodeDeleteBy (operation : Operation) (key : String) : Plan :=
  let node := operation.variableName
  let doomed := operation.variableName ++ "_toDelete"
  let bag := Parameters.ofMutation operation
  { root := node
    linkage := none
    statement := fun projection =>
      keyMatch operation key (Parameters.split bag key).1 none ++
      [.fixed "\nWITH ", .var node, .fixed " AS ", .var doomed, .fixed ", ", .var node,
       .fixed " \x7b"] ++ projection ++
      [.fixed "\x7d AS ", .var node, .fixed "\nDETACH DELETE ", .var doomed, .fixed "\nRETURN ",
       .var node]
    parameters := bag }

def nodeDelete (operation : Operation) : Except SynthesisError Plan := do
  return nodeDeleteBy operation (← keyArgument operation).name

end CypherSynthesis.Plan
