import CypherSynthesis.Proofs.Request

/-!
The forms of the statements, token by token. A template has the names that an operation puts into its
statement and the shape that decides about everything else: how many keys are matched or written,
which conditions and fields there are, whether rows are sorted and paged. Its slots are words and
marks of the language, variables, names and texts; nothing is quoted or escaped in them. The template
of an operation is read off its arguments, directives and selections.
-/

namespace CypherSynthesis

open Cypher (Token)

/-- A place in a statement that one token fills. -/
inductive Slot where
  /-- A word of the statement's form. -/
  | word (text : String)
  | mark (c : Char)
  | var (name : String)
  /-- A label, relationship type, property key or parameter. -/
  | name (name : String)
  | text (value : String)
  deriving DecidableEq, Repr

namespace Slot

/-- The one token that fills the slot. -/
def token : Slot → Token
  | word s => .word s
  | mark c => .mark c
  | var s => .word (Cypher.sanitize s)
  | name s => .ofName s
  | text s => .text s

/-- Changes names and texts by `f` and variables by `v`, and nothing else. -/
def rename (f v : String → String) : Slot → Slot
  | word s => word s
  | mark c => mark c
  | var s => var (v s)
  | name s => name (f s)
  | text s => text (f s)

def joined (separator : Slot) : List (List Slot) → List Slot
  | [] => []
  | [slots] => slots
  | slots :: rest => slots ++ separator :: joined separator rest

def listed (parts : List (List Slot)) : List Slot :=
  joined (mark ',') parts

/-- A parameter, or a value inside one. -/
def reference (path : List Slot) : List Slot :=
  mark '$' :: joined (mark '.') (path.map fun slot => [slot])

end Slot

open Slot (word mark var name listed reference)

/-- A condition on the node. The parameters `_id` and `formatted` are part of the form, and so is the
parameter that the values are inside of. -/
def Predicate.slots (node : String) : Predicate → List Slot
  | internalId => [word "ID", mark '(', var node, mark ')', mark '='] ++ reference [word "_id"]
  | isNull key => [var node, mark '.', name key, word "IS", word "NULL"]
  | sameValue key kind parent =>
    [var node, mark '.', name key, mark '=', word kind.function, mark '('] ++
      reference (parent.toList.map word ++ [name key, word "formatted"]) ++ [mark ')']
  | sameComponent key component parent =>
    [var node, mark '.', name key, mark '.', name component, mark '='] ++
      reference (parent.toList.map word ++ [name key, name component])
  | memberOf key => [var node, mark '.', name key, word "IN"] ++ reference [name key]

def Predicate.rename (f : String → String) : Predicate → Predicate
  | internalId => internalId
  | isNull key => isNull (f key)
  | sameValue key kind parent => sameValue (f key) kind parent
  | sameComponent key component parent => sameComponent (f key) (f component) parent
  | memberOf key => memberOf (f key)

/-- An assignment from the parameter inside `parent`. -/
def Assignment.slots (parent : String) : Assignment → List Slot
  | plain key => [name key, mark ':'] ++ reference [word parent, name key]
  | temporal key kind =>
    [name key, mark ':', word kind.function, mark '('] ++
      reference [word parent, name key] ++ [mark ')']
  | temporalList key kind =>
    [name key, mark ':', mark '[', word "value", word "IN"] ++ reference [word parent, name key] ++
      [mark '|', word kind.function, mark '(', word "value", mark ')', mark ']']

def Assignment.rename (f : String → String) : Assignment → Assignment
  | plain key => plain (f key)
  | temporal key kind => temporal (f key) kind
  | temporalList key kind => temporalList (f key) kind

namespace Template

/-- A projected field, by its key in the response. -/
inductive Field where
  | internalId (key : String)
  /-- The property of the same name, of the node in front of the braces. -/
  | own (key : String)
  | property (key source : String)
  deriving DecidableEq, Repr

namespace Field

def slots (node : String) : Field → List Slot
  | internalId key => [name key, mark ':', word "ID", mark '(', var node, mark ')']
  | own key => [mark '.', name key]
  | property key source => [name key, mark ':', var node, mark '.', name source]

def rename (f : String → String) : Field → Field
  | internalId key => internalId (f key)
  | own key => own (f key)
  | property key source => property (f key) (f source)

def ofSelection (bare : Bool) (selection : Selection) : Field :=
  let key := selection.givenKey.getD selection.name
  if selection.name = "_id" then internalId key
  else if selection.givenKey.isNone && !bare then own key
  else property key selection.name

end Field

/-- An entry of the projection: a field, or one end of a relationship with fields of its own. -/
inductive Entry where
  | field (node : String) (field : Field)
  | endpoint (key node : String) (fields : List Field)
  deriving DecidableEq, Repr

namespace Entry

def slots : Entry → List Slot
  | field node f => f.slots node
  | endpoint key node fields =>
    [name key, mark ':', var node, mark '\x7b'] ++ listed (fields.map (Field.slots node)) ++
      [mark '\x7d']

def rename (f v : String → String) : Entry → Entry
  | field node g => field (v node) (g.rename f)
  | endpoint key node fields => endpoint (f key) (v node) (fields.map (Field.rename f))

/-- The selections that are projected. -/
def selected (selections : List Selection) : List Selection :=
  selections.filter (·.name ≠ "__typename")

/-- The entry of a selection: a field of the root, or the end of a relationship that it names. -/
def ofSelection (root : String) (linkage : Option Linkage) (selection : Selection) : Entry :=
  if selection.selections.isEmpty then
    field root (.ofSelection (linkage.any (·.relationship.isNone)) selection)
  else
    endpoint (selection.givenKey.getD selection.name)
      (linkage.elim "" fun l => if selection.name = "from" then l.source else l.target)
      ((selected selection.selections).map (.ofSelection false))

def all (root : String) (linkage : Option Linkage) (operation : Operation) : List Entry :=
  (selected operation.selections).map (ofSelection root linkage)

end Entry

/-- How a node is found: by its key in the pattern, or by conditions on the key. -/
structure Found where
  node : String
  label : String
  key : String
  parent : Option String
  conditions : List Predicate
  deriving DecidableEq, Repr

def conjunction (node : String) (conditions : List Predicate) : List Slot :=
  Slot.joined (word "AND") (conditions.map (Predicate.slots node))

namespace Found

def slots (found : Found) : List Slot :=
  if found.conditions.isEmpty then
    [word "MATCH", mark '(', var found.node, mark ':', name found.label, mark '\x7b',
      name found.key, mark ':'] ++
      reference (found.parent.toList.map word ++ [name found.key]) ++ [mark '\x7d', mark ')']
  else
    [word "MATCH", mark '(', var found.node, mark ':', name found.label, mark ')', word "WHERE"] ++
      conjunction found.node found.conditions

def rename (f v : String → String) (found : Found) : Found where
  node := v found.node
  label := f found.label
  key := f found.key
  parent := found.parent
  conditions := found.conditions.map (Predicate.rename f)

end Found

/-- Sorting and paging. -/
structure Rows where
  sort : List SortKey
  skip : Bool
  limit : Bool
  deriving DecidableEq, Repr

namespace Rows

def keySlots (node : String) (key : SortKey) : List Slot :=
  [var node, mark '.', name key.field,
    match key.direction with
    | .ascending => word "ASC"
    | .descending => word "DESC"]

def sortSlots (node : String) (rows : Rows) : List Slot :=
  if rows.sort.isEmpty then []
  else [word "ORDER", word "BY"] ++ listed (rows.sort.map (keySlots node))

def pageSlots (rows : Rows) : List Slot :=
  (if rows.skip then word "SKIP" :: reference [word "offset"] else []) ++
    (if rows.limit then word "LIMIT" :: reference [word "first"] else [])

def renameKey (f : String → String) (key : SortKey) : SortKey :=
  { key with field := f key.field }

def rename (f : String → String) (rows : Rows) : Rows :=
  { rows with sort := rows.sort.map (renameKey f) }

def ofOperation (operation : Operation) : Rows :=
  ⟨operation.orderBy, operation.offset.isSome, operation.first.isSome⟩

end Rows

/-- A map that gives each key the value of its parameter; nothing without entries. -/
def mapSlots (keys : List String) (globals : Bool) : List Slot :=
  let entries := keys.map (fun key => [name key, mark ':'] ++ reference [name key]) ++
    if globals then [[word "cypherParams", mark ':'] ++ reference [word "cypherParams"]] else []
  if entries.isEmpty then [] else [mark '\x7b'] ++ listed entries ++ [mark '\x7d']

def fieldSlots (fields : List Entry) : List Slot :=
  listed (fields.map Entry.slots)

def writtenSlots (parent : String) (written : List Assignment) : List Slot :=
  listed (written.map (Assignment.slots parent))

end Template

open Template

/-- The names of a statement and its shape. -/
inductive Template where
  | nodeQuery (node label : String) (pattern : List String) (conditions : List Predicate)
    (fields : List Entry) (rows : Rows)
  | customQuery (statement : String) (arguments : List String) (globals : Bool) (node : String)
    (fields : Option (List Entry)) (rows : Rows)
  | customMutation (statement : String) (arguments : List String) (globals : Bool) (node : String)
    (fields : Option (List Entry)) (rows : Rows)
  | nodeCreate (node label : String) (written : List Assignment) (fields : List Entry)
  | nodeUpdate (found : Found) (written : List Assignment) (fields : List Entry)
  | nodeDelete (found : Found) (doomed : String) (fields : List Entry)
  | relationshipCreate (source target : Found) (relationship type : String)
    (written : List Assignment) (fields : List Entry) (payload : String)
  | relationshipDelete (source target : Found) (relationship type sourceRoot targetRoot : String)
    (fields : List Entry) (payload : String)
  deriving DecidableEq, Repr

namespace Template

/-- The projection of a custom statement's result, if its type has properties. -/
def resultSlots (node : String) (rows : Rows) (fields : Option (List Entry)) : List Slot :=
  match fields with
  | some fields =>
    [mark '\x7b'] ++ fieldSlots fields ++ [mark '\x7d', word "AS", var node] ++ rows.sortSlots node
  | none => []

def slots : Template → List Slot
  | nodeQuery node label pattern conditions fields rows =>
    [word "MATCH", mark '(', var node, mark ':', name label] ++ mapSlots pattern false ++
      [mark ')'] ++
      (if conditions.isEmpty then [] else word "WHERE" :: conjunction node conditions) ++
      [word "RETURN", var node, mark '\x7b'] ++ fieldSlots fields ++
      [mark '\x7d', word "AS", var node] ++ rows.sortSlots node ++ rows.pageSlots
  | customQuery statement arguments globals node fields rows =>
    [word "WITH", word "apoc", mark '.', word "cypher", mark '.', word "runFirstColumn", mark '(',
      .text statement, mark ','] ++
      (if arguments.isEmpty && !globals then [word "null"] else mapSlots arguments globals) ++
      [mark ',', word "True", mark ')', word "AS", word "x", word "UNWIND", word "x", word "AS",
        var node, word "RETURN", var node] ++
      resultSlots node rows fields ++ rows.pageSlots
  | customMutation statement arguments globals node fields rows =>
    [word "CALL", word "apoc", mark '.', word "cypher", mark '.', word "doIt", mark '(',
      .text statement, mark ','] ++
      (if arguments.isEmpty && !globals then [mark '\x7b', mark '\x7d']
        else mapSlots arguments globals) ++
      [mark ')', word "YIELD", word "value", word "WITH", word "apoc", mark '.', word "map",
        mark '.', word "values", mark '(', word "value", mark ',', mark '[', word "keys", mark '(',
        word "value", mark ')', mark '[', word "0", mark ']', mark ']', mark ')', mark '[',
        word "0", mark ']', word "AS", var node, word "RETURN", var node] ++
      resultSlots node rows fields ++ (if fields.isSome then rows.pageSlots else [])
  | nodeCreate node label written fields =>
    [word "CREATE", mark '(', var node, mark ':', name label, mark '\x7b'] ++
      writtenSlots "params" written ++
      [mark '\x7d', mark ')', word "RETURN", var node, mark '\x7b'] ++ fieldSlots fields ++
      [mark '\x7d', word "AS", var node]
  | nodeUpdate found written fields =>
    found.slots ++
      (if written.isEmpty then []
        else [word "SET", var found.node, mark '+', mark '=', mark '\x7b'] ++
          writtenSlots "params" written ++ [mark '\x7d']) ++
      [word "RETURN", var found.node, mark '\x7b'] ++ fieldSlots fields ++
      [mark '\x7d', word "AS", var found.node]
  | nodeDelete found doomed fields =>
    found.slots ++
      [word "WITH", var found.node, word "AS", var doomed, mark ',', var found.node,
        mark '\x7b'] ++ fieldSlots fields ++
      [mark '\x7d', word "AS", var found.node, word "DETACH", word "DELETE", var doomed,
        word "RETURN", var found.node]
  | relationshipCreate source target relationship type written fields payload =>
    source.slots ++ target.slots ++
      [word "CREATE", mark '(', var source.node, mark ')', mark '-', mark '[', var relationship,
        mark ':', name type] ++
      (if written.isEmpty then []
        else [mark '\x7b'] ++ writtenSlots "data" written ++ [mark '\x7d']) ++
      [mark ']', mark '-', mark '>', mark '(', var target.node, mark ')', word "RETURN",
        var relationship, mark '\x7b'] ++ fieldSlots fields ++
      [mark '\x7d', word "AS", var payload]
  | relationshipDelete source target relationship type sourceRoot targetRoot fields payload =>
    source.slots ++ target.slots ++
      [word "OPTIONAL", word "MATCH", mark '(', var source.node, mark ')', mark '-', mark '[',
        var relationship, mark ':', name type, mark ']', mark '-', mark '>', mark '(',
        var target.node, mark ')', word "DELETE", var relationship, word "WITH", word "COUNT",
        mark '(', mark '*', mark ')', word "AS", word "scope", mark ',', var source.node, word "AS",
        var sourceRoot, mark ',', var target.node, word "AS", var targetRoot, word "RETURN",
        mark '\x7b'] ++ fieldSlots fields ++
      [mark '\x7d', word "AS", var payload]

def rename (f v : String → String) : Template → Template
  | nodeQuery node label pattern conditions fields rows =>
    nodeQuery (v node) (f label) (pattern.map f) (conditions.map (Predicate.rename f))
      (fields.map (Entry.rename f v)) (rows.rename f)
  | customQuery statement arguments globals node fields rows =>
    customQuery (f statement) (arguments.map f) globals (v node)
      (fields.map (List.map (Entry.rename f v))) (rows.rename f)
  | customMutation statement arguments globals node fields rows =>
    customMutation (f statement) (arguments.map f) globals (v node)
      (fields.map (List.map (Entry.rename f v))) (rows.rename f)
  | nodeCreate node label written fields =>
    nodeCreate (v node) (f label) (written.map (Assignment.rename f))
      (fields.map (Entry.rename f v))
  | nodeUpdate found written fields =>
    nodeUpdate (found.rename f v) (written.map (Assignment.rename f))
      (fields.map (Entry.rename f v))
  | nodeDelete found doomed fields =>
    nodeDelete (found.rename f v) (v doomed) (fields.map (Entry.rename f v))
  | relationshipCreate source target relationship type written fields payload =>
    relationshipCreate (source.rename f v) (target.rename f v) (v relationship) (f type)
      (written.map (Assignment.rename f)) (fields.map (Entry.rename f v)) (v payload)
  | relationshipDelete source target relationship type sourceRoot targetRoot fields payload =>
    relationshipDelete (source.rename f v) (target.rename f v) (v relationship) (f type)
      (v sourceRoot) (v targetRoot) (fields.map (Entry.rename f v)) (v payload)

/-- A node that is wanted, by its key or by conditions on it. -/
def Found.ofWanted (wanted : Wanted) : Found :=
  ⟨wanted.node, wanted.label, wanted.key, wanted.parent, wanted.comparisons⟩

/-- The projected fields of a custom statement's result, if its type has properties. -/
def customFields (operation : Operation) : Option (List Entry) :=
  if operation.schemaType.shape = .object ∧ operation.schemaType.name ∉
      ["_Neo4jTime", "_Neo4jDate", "_Neo4jDateTime", "_Neo4jLocalTime", "_Neo4jLocalDateTime"] then
    some (Entry.all operation.variableName none operation)
  else none

/-- The name of a new relationship's variable. -/
def relationName (link : Link) : String :=
  String.ofList (link.relationship.toList.flatMap Text.lowercase) ++ "_relation"

/-- The end whose properties are projected: the one that the payload type is not about. -/
def rootEnd (operation : Operation) (link : Link) (source target : String) : String :=
  if operation.schemaType.name = link.sourceType then target else source

/-- The template of an operation of the given kind; none if the operation lacks what the kind
needs. -/
def of? (settings : Settings) (operation : Operation) : Kind → Option Template
  | .nodeQuery =>
    some (nodeQuery operation.variableName operation.typeName operation.patternNames
      operation.conditions (Entry.all operation.variableName none operation)
      (Rows.ofOperation operation))
  | .customQuery => do
    let statement ← operation.statement? settings
    some (customQuery statement
      (Bag.names (Parameters.valueEntries operation.arguments ++ operation.pageEntries))
      (!operation.globalEntries.isEmpty) operation.variableName (customFields operation)
      (Rows.ofOperation operation))
  | .customMutation => do
    let statement ← operation.statement? settings
    some (customMutation statement
      (Bag.names (Parameters.suppliedEntries operation.arguments ++ operation.pageEntries))
      (!operation.globalEntries.isEmpty) operation.variableName (customFields operation)
      (Rows.ofOperation operation))
  | .nodeCreate =>
    some (nodeCreate operation.variableName operation.typeName
      (Assignment.declared operation.typed
        (Bag.names (operation.createdEntries settings.idType .null)))
      (Entry.all operation.variableName none operation))
  | .nodeUpdate => do
    let wanted ← operation.wanted? (some "params")
    let supplied := Parameters.suppliedEntries operation.arguments
    some (nodeUpdate (.ofWanted (wanted.reading supplied))
      (Assignment.declared operation.typed ((Bag.names supplied).filter (· ≠ wanted.key)))
      (Entry.all operation.variableName none operation))
  | .nodeDelete => do
    let wanted ← operation.wanted? none
    let supplied := Parameters.suppliedEntries operation.arguments
    some (nodeDelete (.ofWanted (wanted.reading (supplied ++ operation.pageEntries)))
      (operation.variableName ++ "_toDelete") (Entry.all operation.variableName none operation))
  | .relationshipCreate => do
    let link ← operation.link? settings
    let source ← operation.wantedEnd? "from" link.sourceType
    let target ← operation.wantedEnd? "to" link.targetType
    let written := operation.data?.elim [] fun (fields, members) =>
      Assignment.declared fields (members.map Prod.fst)
    some (relationshipCreate (.ofWanted source) (.ofWanted target) (relationName link)
      link.relationship written
      (Entry.all (rootEnd operation link source.node target.node)
        (some ⟨source.node, target.node, some (relationName link)⟩) operation)
      operation.schemaType.name)
  | .relationshipDelete => do
    let link ← operation.link? settings
    let source ← operation.wantedEnd? "from" link.sourceType
    let target ← operation.wantedEnd? "to" link.targetType
    some (relationshipDelete (.ofWanted source) (.ofWanted target)
      (source.node ++ target.node) link.relationship ("_" ++ source.node) ("_" ++ target.node)
      (Entry.all (rootEnd operation link ("_" ++ source.node) ("_" ++ target.node))
        (some ⟨"_" ++ source.node, "_" ++ target.node, none⟩) operation)
      operation.schemaType.name)

end Template

namespace Slot

theorem map_joined (g : Slot → Slot) (separator : Slot) (parts : List (List Slot)) :
    (joined separator parts).map g = joined (g separator) (parts.map (List.map g)) := by
  induction parts with
  | nil => rfl
  | cons slots rest ih =>
    cases rest with
    | nil => rfl
    | cons next rest => simpa [joined] using ih

/-- Renaming the parts of a list renames the list. -/
theorem joined_rename {α : Type} (f v : String → String) {g : α → α}
    {renamed original : α → List Slot} {separator : Slot}
    (fixed : separator.rename f v = separator)
    (step : ∀ x, renamed (g x) = (original x).map (rename f v)) (xs : List α) :
    joined separator ((xs.map g).map renamed) =
      (joined separator (xs.map original)).map (rename f v) := by
  rw [map_joined, fixed]
  simp only [List.map_map, Function.comp_def, step]

theorem rename_reference (f v : String → String) (path : List Slot) :
    (reference path).map (rename f v) = reference (path.map (rename f v)) := by
  simp [reference, rename, map_joined, Function.comp_def]

theorem rename_comp_word (f v : String → String) : rename f v ∘ word = word := rfl

end Slot

open Slot (rename_reference rename_comp_word joined_rename)

theorem Predicate.slots_rename (f v : String → String) (node : String) (predicate : Predicate) :
    (predicate.rename f).slots (v node) = (predicate.slots node).map (Slot.rename f v) := by
  cases predicate <;> simp [rename, slots, rename_reference, rename_comp_word, Slot.rename]

theorem Assignment.slots_rename (f v : String → String) (parent : String)
    (assignment : Assignment) :
    (assignment.rename f).slots parent = (assignment.slots parent).map (Slot.rename f v) := by
  cases assignment <;> simp [rename, slots, rename_reference, Slot.rename]

namespace Template

theorem Field.slots_rename (f v : String → String) (node : String) (field : Field) :
    (field.rename f).slots (v node) = (field.slots node).map (Slot.rename f v) := by
  cases field <;> simp [rename, slots, Slot.rename]

theorem Entry.slots_rename (f v : String → String) (entry : Entry) :
    (entry.rename f v).slots = entry.slots.map (Slot.rename f v) := by
  cases entry with
  | field node g => exact g.slots_rename f v node
  | endpoint key node fields =>
    have inner : listed ((fields.map (Field.rename f)).map (Field.slots (v node))) =
        (listed (fields.map (Field.slots node))).map (Slot.rename f v) :=
      joined_rename f v rfl (Field.slots_rename f v node) fields
    simp only [rename, slots, List.map_append, inner]
    rfl

theorem conjunction_rename (f v : String → String) (node : String) (conditions : List Predicate) :
    conjunction (v node) (conditions.map (Predicate.rename f)) =
      (conjunction node conditions).map (Slot.rename f v) :=
  joined_rename f v rfl (Predicate.slots_rename f v node) conditions

theorem fieldSlots_rename (f v : String → String) (fields : List Entry) :
    fieldSlots (fields.map (Entry.rename f v)) = (fieldSlots fields).map (Slot.rename f v) :=
  joined_rename f v rfl (Entry.slots_rename f v) fields

theorem writtenSlots_rename (f v : String → String) (parent : String) (written : List Assignment) :
    writtenSlots parent (written.map (Assignment.rename f)) =
      (writtenSlots parent written).map (Slot.rename f v) :=
  joined_rename f v rfl (Assignment.slots_rename f v parent) written

theorem mapSlots_rename (f v : String → String) (keys : List String) (globals : Bool) :
    mapSlots (keys.map f) globals = (mapSlots keys globals).map (Slot.rename f v) := by
  cases globals <;> cases keys <;>
    simp [mapSlots, listed, Slot.map_joined, rename_reference, Slot.rename, Function.comp_def]

namespace Found

@[simp] theorem node_rename (f v : String → String) (found : Found) :
    (found.rename f v).node = v found.node := rfl

theorem slots_rename (f v : String → String) (found : Found) :
    (found.rename f v).slots = found.slots.map (Slot.rename f v) := by
  simp only [slots, rename, List.isEmpty_map, conjunction_rename]
  split <;> simp [rename_reference, rename_comp_word, Slot.rename]

end Found

namespace Rows

theorem keySlots_rename (f v : String → String) (node : String) (key : SortKey) :
    keySlots (v node) (renameKey f key) = (keySlots node key).map (Slot.rename f v) := by
  obtain ⟨field, direction⟩ := key
  cases direction <;> rfl

theorem sortSlots_rename (f v : String → String) (node : String) (rows : Rows) :
    (rows.rename f).sortSlots (v node) = (rows.sortSlots node).map (Slot.rename f v) := by
  have inner : listed ((rows.sort.map (renameKey f)).map (keySlots (v node))) =
      (listed (rows.sort.map (keySlots node))).map (Slot.rename f v) :=
    joined_rename f v rfl (keySlots_rename f v node) rows.sort
  simp only [sortSlots, rename, List.isEmpty_map]
  split
  · rfl
  · simp only [List.map_append, inner]
    rfl

theorem pageSlots_rename (f v : String → String) (rows : Rows) :
    (rows.rename f).pageSlots = rows.pageSlots.map (Slot.rename f v) := by
  obtain ⟨sort, skip, limit⟩ := rows
  cases skip <;> cases limit <;> rfl

end Rows

theorem resultSlots_rename (f v : String → String) (node : String) (rows : Rows)
    (fields : Option (List Entry)) :
    resultSlots (v node) (rows.rename f) (fields.map (List.map (Entry.rename f v))) =
      (resultSlots node rows fields).map (Slot.rename f v) := by
  cases fields with
  | none => rfl
  | some fields =>
    simp [resultSlots, fieldSlots_rename, Rows.sortSlots_rename, Slot.rename]

/-- The words and marks of a statement do not depend on the names in it. -/
theorem slots_rename (f v : String → String) (template : Template) :
    (template.rename f v).slots = template.slots.map (Slot.rename f v) := by
  cases template with
  | nodeQuery node label pattern conditions fields rows =>
    simp only [rename, slots, List.map_append, mapSlots_rename f v, conjunction_rename,
      fieldSlots_rename, Rows.sortSlots_rename, Rows.pageSlots_rename f v, List.isEmpty_map]
    split <;> simp [Slot.rename]
  | customQuery statement arguments globals node fields rows =>
    simp only [rename, slots, List.map_append, mapSlots_rename f v, resultSlots_rename,
      Rows.pageSlots_rename f v, List.isEmpty_map]
    split <;> simp [Slot.rename]
  | customMutation statement arguments globals node fields rows =>
    simp only [rename, slots, List.map_append, mapSlots_rename f v, resultSlots_rename,
      Rows.pageSlots_rename f v, List.isEmpty_map, Option.isSome_map]
    split <;> split <;> simp [Slot.rename]
  | nodeCreate node label written fields =>
    simp [rename, slots, writtenSlots_rename f v, fieldSlots_rename, Slot.rename]
  | nodeUpdate found written fields =>
    simp only [rename, slots, List.map_append, Found.slots_rename, writtenSlots_rename f v,
      fieldSlots_rename, List.isEmpty_map, Found.node_rename]
    split <;> simp [Slot.rename]
  | nodeDelete found doomed fields =>
    simp [rename, slots, Found.slots_rename, fieldSlots_rename, Slot.rename]
  | relationshipCreate source target relationship type written fields payload =>
    simp only [rename, slots, List.map_append, Found.slots_rename, writtenSlots_rename f v,
      fieldSlots_rename, List.isEmpty_map, Found.node_rename]
    split <;> simp [Slot.rename]
  | relationshipDelete source target relationship type sourceRoot targetRoot fields payload =>
    simp [rename, slots, Found.slots_rename, fieldSlots_rename, Slot.rename]

end Template
end CypherSynthesis
