import CypherSynthesis.CommandLine.Dotenv
import CypherSynthesis.CommandLine.LogFilter
import CypherSynthesis.CommandLine.Options
import CypherSynthesis.Operation.Decode
import CypherSynthesis.Settings.Load
import CypherSynthesis.Synthesizer
import CypherSynthesis.Text.Terminal

/-!
A run of the command, as a function of everything that it reads. Settings come first, then the
operation; the query of the operation is the output.
-/

namespace CypherSynthesis.CommandLine

/-- What surrounds a run. -/
structure Surroundings where
  arguments : List String
  environment : Environment
  /-- The content of a file, or the reason why there is none. -/
  file : String → Except String (List UInt8)
  input : List UInt8
  /-- A key that has not been used before. -/
  fresh : String

/-- Why a run ends without a query. -/
inductive Failure where
  | settings (path : Option String) (e : SettingsError)
  | unreadable (path : Option String) (reason : String)
  | undecodable (e : DecodeError)
  | synthesis (e : SynthesisError)

namespace Failure

def decodeText : DecodeError → String
  | .fault .malformed => "not well-formed"
  | .fault .truncated => "unexpected end of the text"
  | .mismatch m => m.message

/-- The failure and what lies behind it, from the outside in. -/
def chain : Failure → List String
  | settings path e =>
    ["loading configuration from " ++ path.getD "environment", e.message, e.cause]
  | unreadable path reason => ["reading operation from " ++ path.getD "stdin", reason]
  | undecodable e => ["parsing resolved operation", decodeText e]
  | synthesis e => [e.message]

def message (failure : Failure) : String :=
  String.intercalate ": " failure.chain

end Failure

/-- What a run leaves behind. -/
structure Report where
  exitCode : Nat
  output : String
  log : List LogRecord
  failure : Option Failure

def versionText : String := "graphql-cypher 0.3.0-dev\n"

def helpText : String :=
  "graphql-cypher - Translate a resolved GraphQL operation into Cypher\n\n" ++
  "Usage: graphql-cypher [OPTIONS] [OPERATION]\n\n" ++
  "Arguments:\n" ++
  "  [OPERATION]  Resolved operation as JSON (reads stdin when omitted or \"-\")\n\n" ++
  "Options:\n" ++
  "      --config <CONFIG>  YAML configuration file " ++
  "(defaults to GRAPHQL_CYPHER_* environment variables)\n" ++
  "      --pretty           Pretty-print the generated query\n" ++
  "  -h, --help             Print help\n" ++
  "  -V, --version          Print version\n"

namespace Surroundings

/-- Bytes that have to be text. -/
def asText (bytes : List UInt8) : Except String String :=
  match Text.ofUtf8? bytes with
  | some text => .ok text
  | none => .error "stream did not contain valid UTF-8"

def textFile (surroundings : Surroundings) (path : String) : Except String String := do
  asText (← surroundings.file path)

def dotenvFile : String := ".env"

/-- The surroundings with the variables of the file that is read at the start. -/
def prepared? (surroundings : Surroundings) : Option Surroundings :=
  match surroundings.file dotenvFile with
  | .ok content => do
    return { surroundings with environment := ← Dotenv.load? surroundings.environment content }
  | .error _ => some surroundings

def logFilter (surroundings : Surroundings) : LogFilter :=
  .ofString ((surroundings.environment.text? "RUST_LOG").getD "info")

def settings (surroundings : Surroundings) (options : Options) : Except Failure Settings :=
  (match options.config with
    | some path => Settings.ofFile Yaml.parse? (surroundings.textFile path)
    | none => Settings.ofEnvironment surroundings.environment.get?).mapError
    (Failure.settings options.config)

def operation (surroundings : Surroundings) (options : Options) : Except Failure Operation := do
  let content := match options.operationFile? with
    | some path => surroundings.textFile path
    | none => asText surroundings.input
  let text ← content.mapError (Failure.unreadable options.operationFile?)
  (Decoder.ofText Operation.decode text).mapError Failure.undecodable

def startRecord (operation : Operation) : LogRecord :=
  ⟨.info, .commandLine, "Translating " ++ (if operation.isMutation then "mutation" else "query") ++
    " '" ++ operation.fieldName ++ "'"⟩

def failed (log : List LogRecord) (failure : Failure) : Report :=
  ⟨1, "", log ++ [⟨.error, .commandLine, failure.message⟩], some failure⟩

/-- The run with the given options, and all of its log. -/
def execute (surroundings : Surroundings) (options : Options) : Report :=
  match surroundings.settings options with
  | .error failure => failed [] failure
  | .ok settings =>
    match surroundings.operation options with
    | .error failure => failed [] failure
    | .ok operation =>
      let synthesizer : Synthesizer := ⟨settings, Projection.flat, .string surroundings.fresh⟩
      let outcome := synthesizer.synthesize operation
      let log := startRecord operation :: outcome.log
      match outcome.result with
      | .error e => failed log (.synthesis e)
      | .ok query =>
        let text := if options.pretty then query.encode.indented 0 else query.encode.compact
        ⟨0, text ++ "\n", log, none⟩

/-- What the arguments ask for, with the part of the log that is shown, as it is shown. -/
def perform (surroundings : Surroundings) : Report :=
  match Invocation.ofArguments surroundings.arguments with
  | .version => ⟨0, versionText, [], none⟩
  | .help => ⟨0, helpText, [], none⟩
  | .misuse => ⟨2, "", [], none⟩
  | .run options =>
    let report := surroundings.execute options
    let shown := report.log.filter surroundings.logFilter.shows
    { report with log := shown.map fun record => { record with message := Text.plain record.message } }

/-- A run, which breaks off at once when a variable cannot be set. -/
def run (surroundings : Surroundings) : Report :=
  match surroundings.prepared? with
  | some surroundings => surroundings.perform
  | none => ⟨101, "", [], none⟩

end Surroundings
end CypherSynthesis.CommandLine
