/-!
The arguments of the command. They are read from left to right, and the first one that decides the
run, be it a mistake or a question for the version, ends the reading.
-/

namespace CypherSynthesis.CommandLine

structure Options where
  /-- Where the operation is read from; `-` and nothing stand for the standard input. -/
  operation : Option String := none
  /-- Where the settings are read from, if not from the environment. -/
  config : Option String := none
  /-- Whether the query is spread over lines. -/
  pretty : Bool := false
  deriving DecidableEq, Repr

/-- What the arguments ask for. -/
inductive Invocation where
  | run (options : Options)
  | version
  | help
  | misuse
  deriving DecidableEq, Repr

namespace Options

def withOperation? (options : Options) (path : String) : Option Options :=
  if path.isEmpty || options.operation.isSome then none
  else some { options with operation := some path }

def withConfig? (options : Options) (path : String) : Option Options :=
  if path.isEmpty || options.config.isSome then none
  else some { options with config := some path }

def withPretty? (options : Options) : Option Options :=
  if options.pretty then none else some { options with pretty := true }

/-- The file that holds the operation, if it is not the standard input. -/
def operationFile? (options : Options) : Option String :=
  options.operation.filter (· ≠ "-")

end Options

/-- One argument on its own. -/
inductive Word where
  /-- Everything after it names files. -/
  | separator
  | long (name : String) (value : Option String)
  /-- One-letter options written together. -/
  | short (letters : List Char)
  | file (path : String)
  deriving DecidableEq, Repr

/-- Cuts a text at its first equals sign. -/
def nameAndValue (s : List Char) : String × Option String :=
  let name := String.ofList (s.takeWhile (· ≠ '='))
  match s.dropWhile (· ≠ '=') with
  | [] => (name, none)
  | _ :: value => (name, some (String.ofList value))

def Word.ofString (s : String) : Word :=
  match s.toList with
  | ['-', '-'] => .separator
  | '-' :: '-' :: rest => let (name, value) := nameAndValue rest; .long name value
  | '-' :: c :: rest => .short (c :: rest)
  | _ => .file s

namespace Invocation

/-- Arguments that all name files. -/
def ofFiles : List String → Options → Invocation
  | [], options => .run options
  | path :: rest, options =>
    match options.withOperation? path with
    | some options => ofFiles rest options
    | none => .misuse

def ofShort : List Char → Invocation
  | 'V' :: _ => .version
  | 'h' :: _ => .help
  | _ => .misuse

/-- Reads on with the options found so far. -/
def reading : List String → Options → Invocation
  | [], options => .run options
  | argument :: rest, options =>
    match Word.ofString argument with
    | .separator => ofFiles rest options
    | .short letters => ofShort letters
    | .file path =>
      match options.withOperation? path with
      | some options => reading rest options
      | none => .misuse
    | .long "config" (some path) =>
      match options.withConfig? path with
      | some options => reading rest options
      | none => .misuse
    | .long "config" none =>
      match rest with
      | [] => .misuse
      | value :: rest =>
        match Word.ofString value with
        | .file path =>
          match options.withConfig? path with
          | some options => reading rest options
          | none => .misuse
        | _ => .misuse
    | .long "pretty" none =>
      match options.withPretty? with
      | some options => reading rest options
      | none => .misuse
    | .long "version" none => .version
    | .long "help" none => .help
    | .long _ _ => .misuse

def ofArguments (arguments : List String) : Invocation :=
  reading arguments {}

end Invocation
end CypherSynthesis.CommandLine
