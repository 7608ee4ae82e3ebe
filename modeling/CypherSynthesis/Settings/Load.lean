import CypherSynthesis.Json.Decoder
import CypherSynthesis.Settings.Basic
import CypherSynthesis.Yaml.Document

/-!
Settings from JSON, from the environment and from files. Whatever the source, what it leaves open keeps
its default; settings from the environment or a file are refused if a name is empty.
-/

namespace CypherSynthesis.Settings

def encode (settings : Settings) : Json :=
  .object
    [("cypher_directive", .string settings.customDirective),
     ("statement_argument", .string settings.statementArgument),
     ("mutation_meta_directive", .string settings.linkDirective),
     ("id_type", .string settings.idType)]

/-- Sets the name that documents know under the given field. -/
def set? (field value : String) (settings : Settings) : Option Settings :=
  match field with
  | "cypher_directive" => some { settings with customDirective := value }
  | "statement_argument" => some { settings with statementArgument := value }
  | "mutation_meta_directive" => some { settings with linkDirective := value }
  | "id_type" => some { settings with idType := value }
  | _ => none

def fieldNames : List String :=
  ["cypher_directive", "statement_argument", "mutation_meta_directive", "id_type"]

def decode : Decoder Settings :=
  Decoder.record "TranslatorConfig"
    (fieldNames.map fun field =>
      .optional field Decoder.string fun value settings => (settings.set? field value).getD settings)
    default

end CypherSynthesis.Settings

namespace CypherSynthesis

inductive SettingsError where
  /-- A variable whose value is not text. -/
  | notUnicode (value : List UInt8)
  /-- A file that cannot be read as text. -/
  | unreadable (reason : String)
  /-- A text that does not describe settings. -/
  | malformed (content : String)
  | invalid (violations : List Settings.Violation)
  deriving DecidableEq, Repr

namespace SettingsError

def violationLine (violation : Settings.Violation) : String :=
  violation.field ++ ": " ++ violation.message

/-- What lies behind an error. -/
def cause : SettingsError → String
  | notUnicode value =>
    "environment variable was not valid unicode: " ++ Text.quotedBytes value
  | unreadable reason => reason
  | malformed _ => "not a configuration"
  | invalid violations => String.intercalate "\n" (violations.map violationLine)

def message (e : SettingsError) : String :=
  match e with
  | notUnicode _ => "Environment variable error: " ++ e.cause
  | unreadable _ => "Parse error for yaml_file: file read failed - " ++ e.cause
  | malformed content => "Parse error for yaml_content: " ++ content ++ " - " ++ e.cause
  | invalid _ => "Validation error: " ++ e.cause

end SettingsError

namespace Settings

/-- Settings are in force only if no name is empty. -/
def validated (settings : Settings) : Except SettingsError Settings :=
  match settings.violations with
  | [] => .ok settings
  | violations => .error (.invalid violations)

/-- The variables of the environment, and the fields that they set. -/
def sources : List (String × String) :=
  [("GRAPHQL_CYPHER_DIRECTIVE", "cypher_directive"),
   ("GRAPHQL_CYPHER_STATEMENT_ARGUMENT", "statement_argument"),
   ("GRAPHQL_CYPHER_MUTATION_META_DIRECTIVE", "mutation_meta_directive"),
   ("GRAPHQL_CYPHER_ID_TYPE", "id_type")]

/-- Takes one variable into account. -/
def readVariable (environment : String → Option (List UInt8)) (settings : Settings)
    (entry : String × String) : Except SettingsError Settings :=
  match environment entry.1 with
  | none => .ok settings
  | some bytes =>
    match Text.ofUtf8? bytes with
    | some value => .ok ((settings.set? entry.2 value).getD settings)
    | none => .error (.notUnicode bytes)

def ofEnvironment (environment : String → Option (List UInt8)) : Except SettingsError Settings := do
  validated (← sources.foldlM (readVariable environment) default)

/-- Takes the entries of a mapping into account: keys must be texts, and known fields must have a
text and occur once. -/
def readEntries (document : Yaml.Document) :
    List (Yaml × Yaml) → List String → Settings → Option Settings
  | [], _, settings => some settings
  | (key, value) :: rest, seen, settings => do
    let field ← document.text? key
    if fieldNames.contains field then
      let text ← document.text? value
      if seen.contains field then none
      else readEntries document rest (field :: seen) ((settings.set? field text).getD settings)
    else readEntries document rest seen settings

/-- The settings of a document, which is a mapping or has no content. -/
def ofDocument? (document : Yaml.Document) : Option Settings :=
  match document.root with
  | .mapping entries => readEntries document entries [] default
  | .empty => some default
  | _ => none

/-- Settings from the content of a file, which `parse?` takes for a document, or from the reason why
it cannot be read. -/
def ofFile (parse? : String → Option Yaml.Document) (content : Except String String) :
    Except SettingsError Settings :=
  match content with
  | .error reason => .error (.unreadable reason)
  | .ok text =>
    match (parse? text).bind ofDocument? with
    | some settings => validated settings
    | none => .error (.malformed text)

end Settings
end CypherSynthesis
