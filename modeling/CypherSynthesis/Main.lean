import CypherSynthesis.CommandLine.Run

/-!
The command. It collects what surrounds the run, random bytes for keys included, and hands on what the
run leaves behind.
-/

namespace CypherSynthesis.CommandLine.Uuid

def hexDigits (byte : UInt8) : List Char :=
  [Nat.digitChar (byte.toNat / 16), Nat.digitChar (byte.toNat % 16)]

/-- Marks version and variant in the bytes seven and nine. -/
def marked (bytes : List UInt8) : List UInt8 :=
  (bytes.modify 6 fun byte => byte % 0x10 + 0x40).modify 8 fun byte => byte % 0x40 + 0x80

/-- The text of sixteen random bytes: five groups of digits. -/
def text (bytes : List UInt8) : String :=
  let bytes := marked bytes
  let group (first count : Nat) : String :=
    String.ofList (((bytes.drop first).take count).flatMap hexDigits)
  String.intercalate "-" [group 0 4, group 4 2, group 6 2, group 8 2, group 10 6]

end CypherSynthesis.CommandLine.Uuid

open CypherSynthesis.CommandLine

namespace CypherSynthesis.Main

def reason : IO.Error → String
  | .noFileOrDirectory .. | .noSuchThing .. => "No such file or directory (os error 2)"
  | .permissionDenied .. => "Permission denied (os error 13)"
  | .inappropriateType .. => "Is a directory (os error 21)"
  | e => toString e

def readFile (path : String) : IO (Except String (List UInt8)) := do
  try
    return .ok (← IO.FS.readBinFile path).toList
  catch e =>
    return .error (reason e)

/-- The first file of variables in the current directory and those above it. -/
def readDotenv : Nat → String → IO (Except String (List UInt8))
  | 0, path => readFile path
  | above + 1, path => do
    match ← readFile path with
    | .ok content => return .ok content
    | .error _ => readDotenv above ("../" ++ path)

def readEnvironment : IO Environment := do
  match ← readFile "/proc/self/environ" with
  | .ok block => return .ofBlock block
  | .error _ => return ⟨[]⟩

/-- The files that the arguments name. -/
def paths (arguments : List String) : List String :=
  match Invocation.ofArguments arguments with
  | .run options => options.config.toList ++ options.operationFile?.toList
  | _ => []

def readsInput (arguments : List String) : Bool :=
  match Invocation.ofArguments arguments with
  | .run options => options.operationFile?.isNone
  | _ => false

def surroundings (arguments : List String) : IO Surroundings := do
  let dotenv ← readDotenv 32 Surroundings.dotenvFile
  let files ← (paths arguments).mapM fun path => do return (path, ← readFile path)
  let input ← if readsInput arguments then (← IO.getStdin).readBinToEnd else pure .empty
  let key ← IO.getRandomBytes 16
  return {
    arguments := arguments
    environment := ← readEnvironment
    file := fun path =>
      ((files.lookup path).getD (if path = Surroundings.dotenvFile then dotenv
        else .error "No such file or directory (os error 2)"))
    input := input.toList
    fresh := Uuid.text key.toList }

def logLine (record : LogRecord) : String :=
  "[" ++ record.level.label ++ " " ++ record.origin.path ++ "] " ++ record.message

end CypherSynthesis.Main

def main (arguments : List String) : IO UInt32 := do
  let report := (← CypherSynthesis.Main.surroundings arguments).run
  report.log.forM fun record => IO.eprintln (CypherSynthesis.Main.logLine record)
  report.failure.forM fun failure => IO.eprintln ("Error: " ++ failure.message)
  if report.exitCode = 2 then IO.eprintln "error: the arguments are not as --help describes them"
  IO.print report.output
  return report.exitCode.toUInt32
