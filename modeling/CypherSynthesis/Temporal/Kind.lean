/-!
The five temporal types of the graph database: how their object and input types are named in a
schema, and which Cypher function constructs a value.
-/

namespace CypherSynthesis

inductive TemporalKind where
  | time
  | date
  | dateTime
  | localTime
  | localDateTime
  deriving DecidableEq, Repr

namespace TemporalKind

def all : List TemporalKind :=
  [.time, .date, .dateTime, .localTime, .localDateTime]

def typeName : TemporalKind → String
  | .time => "_Neo4jTime"
  | .date => "_Neo4jDate"
  | .dateTime => "_Neo4jDateTime"
  | .localTime => "_Neo4jLocalTime"
  | .localDateTime => "_Neo4jLocalDateTime"

def inputTypeName (kind : TemporalKind) : String :=
  kind.typeName ++ "Input"

/-- The Cypher function that makes a value of this kind. -/
def constructor : TemporalKind → String
  | .time => "time"
  | .date => "date"
  | .dateTime => "datetime"
  | .localTime => "localtime"
  | .localDateTime => "localdatetime"

def ofTypeName? (name : String) : Option TemporalKind :=
  all.find? (·.typeName = name)

def ofInputTypeName? (name : String) : Option TemporalKind :=
  all.find? (·.inputTypeName = name)

end TemporalKind
end CypherSynthesis
