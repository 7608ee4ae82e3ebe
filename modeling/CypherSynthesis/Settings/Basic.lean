/-!
The schema vocabulary that operations are read with. Names that are left open have defaults, and a
name in force is never empty.
-/

namespace CypherSynthesis

structure Settings where
  /-- The directive that carries a custom statement. -/
  customDirective : String := "cypher"
  /-- The argument of that directive that holds the statement. -/
  statementArgument : String := "statement"
  /-- The directive that links a mutation to a relationship type. -/
  linkDirective : String := "MutationMeta"
  /-- The type of keys that are generated. -/
  idType : String := "ID"
  deriving DecidableEq, Repr, Inhabited

namespace Settings

def default : Settings :=
  {}

/-- A name that is empty, by its field in documents. -/
structure Violation where
  field : String
  message : String
  deriving DecidableEq, Repr

/-- The empty names, ordered by field. -/
def violations (settings : Settings) : List Violation :=
  let check (field value message : String) : List Violation :=
    if value.isEmpty then [⟨field, message⟩] else []
  check "cypher_directive" settings.customDirective
      "Custom statement directive name cannot be empty" ++
    check "id_type" settings.idType "Id type name cannot be empty" ++
    check "mutation_meta_directive" settings.linkDirective
      "Mutation meta directive name cannot be empty" ++
    check "statement_argument" settings.statementArgument "Statement argument name cannot be empty"

end Settings
end CypherSynthesis
