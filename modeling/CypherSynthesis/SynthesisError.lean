/-!
Why an operation has no statement.
-/

namespace CypherSynthesis

/-- What is wrong with the directive that links a mutation to a relationship type. -/
inductive LinkFlaw where
  | absent (directive : String)
  | missing (directive argument : String)
  deriving DecidableEq, Repr

def LinkFlaw.message : LinkFlaw → String
  | absent directive => "required @" ++ directive ++ " directive is absent"
  | missing directive argument =>
    "@" ++ directive ++ " is missing its '" ++ argument ++
      "' argument (relationship, from and to are required)"

inductive SynthesisError where
  | unsupportedMutation (fieldName : String)
  | missingLink (fieldName : String) (flaw : LinkFlaw)
  | missingArgument (fieldName argument : String)
  | missingStatement (fieldName directive : String)
  /-- The projector refused the selected fields. -/
  | selection (reason : String)
  deriving DecidableEq, Repr

def SynthesisError.message : SynthesisError → String
  | unsupportedMutation fieldName =>
    "Unsupported mutation '" ++ fieldName ++ "' (no custom statement directive and the field name " ++
      "does not start with Create, Update, Delete, Add or Remove)"
  | missingLink fieldName flaw =>
    "Missing mutation meta on '" ++ fieldName ++ "': " ++ flaw.message
  | missingArgument fieldName argument =>
    "Missing argument '" ++ argument ++ "' on '" ++ fieldName ++ "'"
  | missingStatement fieldName directive =>
    "Custom statement directive @" ++ directive ++ " on '" ++ fieldName ++ "' has no statement"
  | selection reason => "Selection compiler error: " ++ reason

end CypherSynthesis
