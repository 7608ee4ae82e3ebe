/-!
Sort keys: a field and a direction, written `<field>_asc` or `<field>_desc`. The field may itself
contain underscores; only the last one divides.
-/

namespace CypherSynthesis

inductive SortDirection where
  | ascending
  | descending
  deriving DecidableEq, Repr

namespace SortDirection

def all : List SortDirection :=
  [.ascending, .descending]

/-- The name used in sort keys and documents. -/
def name : SortDirection → String
  | .ascending => "asc"
  | .descending => "desc"

def keyword : SortDirection → String
  | .ascending => "ASC"
  | .descending => "DESC"

end SortDirection

structure SortKey where
  field : String
  direction : SortDirection
  deriving DecidableEq, Repr

namespace SortKey

def text (key : SortKey) : String :=
  key.field ++ "_" ++ key.direction.name

/-- What stands in front of the last underscore, and what stands behind it. -/
def splitLast? : List Char → Option (List Char × List Char)
  | [] => none
  | c :: rest =>
    match splitLast? rest with
    | some (front, last) => some (c :: front, last)
    | none => if c = '_' then some ([], rest) else none

/-- The field stands in front of the last underscore and is not empty, the direction behind it. -/
def parse? (s : String) : Option SortKey := do
  let (field, name) ← splitLast? s.toList
  if field.isEmpty then none
  else
    let direction ← SortDirection.all.find? (·.name = String.ofList name)
    some ⟨String.ofList field, direction⟩

def invalidMessage (s : String) : String :=
  "Invalid orderBy value '" ++ s ++ "' (expected <field>_asc or <field>_desc)"

end SortKey
end CypherSynthesis
