import CypherSynthesis.Text.Basic

/-!
Environment variables. Their values are bytes, which need not be text.
-/

namespace CypherSynthesis.CommandLine

structure Environment where
  entries : List (String × List UInt8)
  deriving DecidableEq, Repr

namespace Environment

/-- An entry as it is written: the name, an equals sign, the value. -/
def written (name : String) (value : List UInt8) : List UInt8 :=
  name.toUTF8.toList ++ 0x3D :: value

/-- The rest of the first entry that starts with the name and an equals sign. So a name that has an
equals sign itself reaches into a value. The empty name finds nothing. -/
def get? (environment : Environment) (name : String) : Option (List UInt8) :=
  if name.isEmpty then none
  else environment.entries.findSome? fun entry =>
    let start := written name []
    let entry := written entry.1 entry.2
    if start.isPrefixOf entry then some (entry.drop start.length) else none

/-- The value of a variable that is set to a text. -/
def text? (environment : Environment) (name : String) : Option String :=
  (environment.get? name).bind Text.ofUtf8?

/-- Sets a variable. A zero byte ends an entry, so that no value can hold one. -/
def set? (environment : Environment) (name value : String) : Option Environment :=
  if value.toList.contains '\x00' then none
  else some ⟨(name, value.toUTF8.toList) :: environment.entries.filter (·.1 ≠ name)⟩

/-- Sets a variable that has no text yet. -/
def provide? (environment : Environment) (name value : String) : Option Environment :=
  if (environment.text? name).isSome then some environment else environment.set? name value

/-- Cuts a block of entries, each ended by a zero byte. -/
def blockEntries : List UInt8 → List UInt8 → List (List UInt8)
  | [], entry => if entry.isEmpty then [] else [entry.reverse]
  | byte :: rest, entry =>
    if byte = 0 then entry.reverse :: blockEntries rest [] else blockEntries rest (byte :: entry)

/-- The variables of a block of entries `name=value`. -/
def ofBlock (bytes : List UInt8) : Environment :=
  ⟨(blockEntries bytes []).filterMap fun entry => do
    let name ← Text.ofUtf8? (entry.takeWhile (· ≠ 0x3D))
    return (name, (entry.dropWhile (· ≠ 0x3D)).drop 1)⟩

end Environment
end CypherSynthesis.CommandLine
