/-!
Records of what a run did, for whoever follows along.
-/

namespace CypherSynthesis

/-- From the most to the least urgent. -/
inductive LogLevel where
  | error
  | warn
  | info
  | debug
  | trace
  deriving DecidableEq, Repr

namespace LogLevel

def rank : LogLevel → Nat
  | .error => 1
  | .warn => 2
  | .info => 3
  | .debug => 4
  | .trace => 5

def label : LogLevel → String
  | .error => "ERROR"
  | .warn => "WARN"
  | .info => "INFO"
  | .debug => "DEBUG"
  | .trace => "TRACE"

end LogLevel

/-- The part of the program that a record comes from. -/
inductive LogOrigin where
  | commandLine
  | synthesizer
  | classifier
  | parameters
  deriving DecidableEq, Repr

structure LogRecord where
  level : LogLevel
  origin : LogOrigin
  message : String
  deriving DecidableEq, Repr

/-- The level and the message. -/
def LogRecord.text (record : LogRecord) : String :=
  record.level.label ++ " " ++ record.message

end CypherSynthesis
