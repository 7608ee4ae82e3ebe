import CypherSynthesis.Log
import CypherSynthesis.Regex.Reader
import CypherSynthesis.Text.Basic

/-!
Which log records are shown. A filter is written as a list of directives, each a level for the whole
program or for one part of it, and may end in a regular expression that the messages must match.
-/

namespace CypherSynthesis

/-- The path of a part of the program, under which filters name it. -/
def LogOrigin.path : LogOrigin → String
  | .commandLine => "graphql_cypher"
  | .synthesizer => "graphql_cypher::translator"
  | .classifier => "graphql_cypher::translator::classifier"
  | .parameters => "graphql_cypher::translator::parameters"

namespace CommandLine

structure LogDirective where
  /-- The beginning of the paths that it is for; without one it is for all. -/
  path : Option String
  /-- The greatest rank that is shown. -/
  rank : Nat
  deriving DecidableEq, Repr

namespace LogDirective

def appliesTo (directive : LogDirective) (path : String) : Bool :=
  directive.path.all fun start => start.toList.isPrefixOf path.toList

def length (directive : LogDirective) : Nat :=
  (directive.path.getD "").utf8ByteSize

end LogDirective

structure LogFilter where
  directives : List LogDirective
  pattern : Option Regex

namespace LogFilter

def rank? (name : String) : Option Nat :=
  [("off", 0), ("error", 1), ("warn", 2), ("info", 3), ("debug", 4), ("trace", 5)].lookup name.toLower

/-- A directive: a level, a path, or a path and its level. -/
def directive? (s : String) : Option LogDirective :=
  match s.splitOn "=" with
  | [part] =>
    match rank? part with
    | some rank => some ⟨none, rank⟩
    | none => some ⟨some part, LogLevel.trace.rank⟩
  | [path, level] =>
    let level := Text.trim level
    if level.isEmpty then some ⟨some path, LogLevel.trace.rank⟩
    else (rank? level).map fun rank => ⟨some path, rank⟩
  | _ => none

/-- Adds a directive, in the place of an earlier one for the same path. -/
def put (directive : LogDirective) : List LogDirective → List LogDirective
  | [] => [directive]
  | other :: rest =>
    if other.path = directive.path then directive :: rest else other :: put directive rest

def readDirectives (s : String) : List LogDirective :=
  let parts := ((s.splitOn ",").map Text.trim).filter (!·.isEmpty)
  (parts.filterMap directive?).foldl (fun directives directive => put directive directives) []

/-- Reads a filter. One that cannot be read has no directives, and a pattern that cannot be read does
not count. -/
def ofString (s : String) : LogFilter :=
  match s.splitOn "/" with
  | [directives] => ⟨readDirectives directives, none⟩
  | [directives, pattern] => ⟨readDirectives directives, Regex.ofString? pattern⟩
  | _ => ⟨[], none⟩

/-- Of the directives for a path the one with the longest beginning, and of those the last. -/
def best? (path : String) : List LogDirective → Option LogDirective
  | [] => none
  | directive :: rest =>
    match best? path rest with
    | some later =>
      if directive.appliesTo path && later.length < directive.length then some directive
      else some later
    | none => if directive.appliesTo path then some directive else none

/-- Whether a filter lets a record through. Without directives only errors are shown. -/
def shows (filter : LogFilter) (record : LogRecord) : Bool :=
  let rank :=
    if filter.directives.isEmpty then LogLevel.error.rank
    else ((best? record.origin.path filter.directives).map (·.rank)).getD 0
  record.level.rank ≤ rank &&
    filter.pattern.all (·.occursIn record.message)

end LogFilter
end CommandLine
end CypherSynthesis
