import CypherSynthesis.Json.Printer
import CypherSynthesis.Kind
import CypherSynthesis.Log
import CypherSynthesis.Plan.Node
import CypherSynthesis.Plan.Query
import CypherSynthesis.Plan.Relationship

/-!
From operations to queries. A plan of the operation's kind comes first; only a complete plan is shown
to the projector, and only its answer makes a query.
-/

namespace CypherSynthesis

/-- A synthesizer's vocabulary, its projector and the next generated key. -/
structure Synthesizer where
  settings : Settings
  projector : Projector
  fresh : Json

/-- What a synthesis did on the way: the requests to the projector, the number of keys that were
generated, and the log. -/
structure Trace where
  requests : List SelectionRequest := []
  keysGenerated : Nat := 0
  log : List LogRecord := []

/-- A computation that leaves a trace and may fail. -/
abbrev Synthesis := ExceptT SynthesisError (StateM Trace)

namespace Synthesis

def record (records : List LogRecord) : Synthesis Unit :=
  modify fun trace => { trace with log := trace.log ++ records }

end Synthesis

/-- What a synthesis comes to, and its trace. -/
structure Outcome extends Trace where
  result : Except SynthesisError Query

/-- Starts with an empty trace. -/
def Synthesis.outcome (synthesis : Synthesis Query) : Outcome :=
  let (result, trace) := synthesis.run.run {}
  { trace with result := result }

namespace Synthesizer

def classifiedRecord (operation : Operation) (kind : Kind) : LogRecord :=
  ⟨.debug, .classifier, "Classified '" ++ operation.fieldName ++ "' as " ++ kind.text⟩

def generatedRecord (argument : String) : LogRecord :=
  ⟨.debug, .parameters, "Generated primary key for argument '" ++ argument ++ "'"⟩

def queryRecords (operation : Operation) (kind : Kind) (query : Query) : List LogRecord :=
  [⟨.debug, .synthesizer, "Generated Cypher for " ++ kind.text ++ " '" ++ operation.fieldName ++
      "': " ++ query.text⟩,
   ⟨.trace, .synthesizer, "Parameters: " ++ query.parameters.toJson.compact⟩]

/-- Asks the projector. -/
def project (synthesizer : Synthesizer) (request : SelectionRequest) : Synthesis Projection := do
  modify fun trace => { trace with requests := trace.requests ++ [request] }
  synthesizer.projector request

/-- Generates a key for an argument, and says so. -/
def generate (synthesizer : Synthesizer) (argument : String) : Synthesis Json := do
  modify fun trace => { trace with keysGenerated := trace.keysGenerated + 1 }
  Synthesis.record [generatedRecord argument]
  return synthesizer.fresh

def plan (synthesizer : Synthesizer) (kind : Kind) (operation : Operation) : Synthesis Plan :=
  match kind with
  | .customQuery => Plan.customQuery synthesizer.settings operation
  | .nodeQuery => return Plan.nodeQuery operation
  | .customMutation => Plan.customMutation synthesizer.settings operation
  | .nodeCreate => Plan.nodeCreate synthesizer.settings synthesizer.generate operation
  | .nodeUpdate => Plan.nodeUpdate operation
  | .nodeDelete => Plan.nodeDelete operation
  | .relationshipCreate => Plan.relationshipCreate synthesizer.settings operation
  | .relationshipDelete => Plan.relationshipDelete synthesizer.settings operation

def query (synthesizer : Synthesizer) (kind : Kind) (operation : Operation) : Synthesis Query := do
  let plan ← synthesizer.plan kind operation
  let projection ← synthesizer.project (plan.request operation)
  let query := plan.query operation projection
  Synthesis.record (queryRecords operation kind query)
  return query

/-- The query of an operation taken to be of the given kind. -/
def synthesizeAs (synthesizer : Synthesizer) (kind : Kind) (operation : Operation) : Outcome :=
  (synthesizer.query kind operation).outcome

/-- The query of an operation. -/
def synthesize (synthesizer : Synthesizer) (operation : Operation) : Outcome :=
  Synthesis.outcome do
    let kind ← Kind.classify operation synthesizer.settings.customDirective
    Synthesis.record [classifiedRecord operation kind]
    synthesizer.query kind operation

end Synthesizer
end CypherSynthesis
