import CypherSynthesis.Proofs.Template
import Mathlib.Data.List.Forall2

/-!
The same request under other names. A renaming changes the names of types, variables, arguments, input
fields, members and selected fields, and the texts of directives; names that mean something by
themselves stay as they are, and no two names become one. Main statement: the template of the renamed
operation has its slots in the same places, with the same words and marks, and with each name and text
renamed.
-/

namespace CypherSynthesis

open Bag (last?)

/-- The names that an operation cannot use for something else. -/
def Operation.meaningful : List String :=
  ["from", "to", "data", "first", "offset", "formatted", "_id", "__typename", "_Neo4jTime",
    "_Neo4jDate", "_Neo4jDateTime", "_Neo4jLocalTime", "_Neo4jLocalDateTime"]

/-- Other names for the same things. -/
structure Renaming where
  map : String → String
  injective : ∀ {a b : String}, map a = map b → a = b
  fixes : ∀ name ∈ Operation.meaningful, map name = name

mutual

/-- Changes the names of members, and no other text. -/
def Json.rename (r : Renaming) : Json → Json
  | .object members => .object (renameMembers r members)
  | .array items => .array (renameItems r items)
  | value => value

def Json.renameItems (r : Renaming) : List Json → List Json
  | [] => []
  | item :: rest => item.rename r :: renameItems r rest

def Json.renameMembers (r : Renaming) : List (String × Json) → List (String × Json)
  | [] => []
  | (name, value) :: rest => (r.map name, value.rename r) :: renameMembers r rest

end

mutual

/-- Changes the names of fields. The names of types stay. -/
def TypeRef.rename (r : Renaming) : TypeRef → TypeRef
  | ⟨name, nonNull, list, fields⟩ => ⟨name, nonNull, list, renameFields r fields⟩

def TypeRef.renameFields (r : Renaming) : List (String × TypeRef) → List (String × TypeRef)
  | [] => []
  | (name, type) :: rest => (r.map name, type.rename r) :: renameFields r rest

end

mutual

def Selection.rename (r : Renaming) : Selection → Selection
  | ⟨name, givenKey, selections⟩ => ⟨r.map name, givenKey.map r.map, renameAll r selections⟩

def Selection.renameAll (r : Renaming) : List Selection → List Selection
  | [] => []
  | selection :: rest => selection.rename r :: renameAll r rest

end

def Argument.rename (r : Renaming) (argument : Argument) : Argument where
  name := r.map argument.name
  type := argument.type.rename r
  value := argument.value.map (Json.rename r)

/-- Changes the texts of a directive: the custom statement, or the names of a relationship and of the
types of its ends. -/
def Directive.rename (r : Renaming) (directive : Directive) : Directive where
  name := directive.name
  arguments := directive.arguments.mapValues fun _ value =>
    match value with
    | .string text => .string (r.map text)
    | other => other

def Operation.rename (r : Renaming) (operation : Operation) : Operation :=
  { operation with
    typeName := r.map operation.typeName
    variableName := r.map operation.variableName
    schemaType := { operation.schemaType with name := r.map operation.schemaType.name }
    selections := operation.selections.map (Selection.rename r)
    arguments := operation.arguments.map (Argument.rename r)
    directives := operation.directives.map (Directive.rename r)
    orderBy := operation.orderBy.map fun key => { key with field := r.map key.field } }

namespace Renaming

variable (r : Renaming)

/-- Entries under other names. -/
def entry (entry : String × Json) : String × Json :=
  (r.map entry.1, entry.2.rename r)

theorem map_eq_iff {a b : String} : r.map a = r.map b ↔ a = b :=
  ⟨r.injective, congrArg r.map⟩

theorem map_eq_iff_of_fixed {name fixed : String} (h : r.map fixed = fixed) :
    r.map name = fixed ↔ name = fixed := by
  constructor
  · intro he
    exact r.injective (he.trans h.symm)
  · rintro rfl
    exact h

theorem mem_map_iff {name : String} {names : List String} (h : ∀ other ∈ names, r.map other = other) :
    r.map name ∈ names ↔ name ∈ names := by
  constructor
  · intro hmem
    exact r.injective (h _ hmem) ▸ hmem
  · intro hmem
    exact (h name hmem).symm ▸ hmem

theorem eraseDups_map (names : List String) :
    (names.map r.map).eraseDups = names.eraseDups.map r.map := by
  cases names with
  | nil => rfl
  | cons name rest =>
    have kept : (rest.map r.map).filter (fun other => !other == r.map name) =
        (rest.filter fun other => !other == name).map r.map := by
      rw [List.filter_map]
      refine congrArg (List.map r.map) (List.filter_congr fun other _ => ?_)
      rw [Function.comp_apply, Bool.eq_iff_iff]
      simp [r.map_eq_iff]
    rw [List.map_cons, List.eraseDups_cons, List.eraseDups_cons, kept,
      eraseDups_map (rest.filter fun other => !other == name), List.map_cons]
termination_by names.length
decreasing_by
  have bound := List.length_filter_le (fun other => !other == name) rest
  simp only [List.length_cons]
  omega

/-- A declared name under another name. -/
def declaration (declaration : String × TypeRef) : String × TypeRef :=
  (r.map declaration.1, declaration.2.rename r)

theorem find?_entry (key : String) (entries : List (String × Json)) :
    (entries.map r.entry).find? (·.1 = r.map key) = (entries.find? (·.1 = key)).map r.entry := by
  rw [List.find?_map]
  simp only [Function.comp_def, entry, r.map_eq_iff]

theorem find?_declaration (key : String) (declarations : List (String × TypeRef)) :
    (declarations.map r.declaration).find? (·.1 = r.map key) =
      (declarations.find? (·.1 = key)).map r.declaration := by
  rw [List.find?_map]
  simp only [Function.comp_def, declaration, r.map_eq_iff]

theorem filter_declaration (key : String) (declarations : List (String × TypeRef)) :
    (declarations.map r.declaration).filter (·.1 = r.map key) =
      (declarations.filter (·.1 = key)).map r.declaration := by
  rw [List.filter_map]
  simp only [Function.comp_def, declaration, r.map_eq_iff]

theorem find?_argument (key : String) (arguments : List Argument) :
    (arguments.map (Argument.rename r)).find? (·.name = r.map key) =
      (arguments.find? (·.name = key)).map (Argument.rename r) := by
  rw [List.find?_map]
  simp only [Function.comp_def, Argument.rename, r.map_eq_iff]

theorem filter_argument (key : String) (arguments : List Argument) :
    (arguments.map (Argument.rename r)).filter (·.name = r.map key) =
      (arguments.filter (·.name = key)).map (Argument.rename r) := by
  rw [List.filter_map]
  simp only [Function.comp_def, Argument.rename, r.map_eq_iff]

theorem renameMembers_eq_map (members : List (String × Json)) :
    Json.renameMembers r members = members.map r.entry := by
  induction members with
  | nil => rw [Json.renameMembers, List.map_nil]
  | cons member rest ih => rw [Json.renameMembers, ih, List.map_cons, entry]

theorem renameFields_eq_map (fields : List (String × TypeRef)) :
    TypeRef.renameFields r fields = fields.map r.declaration := by
  induction fields with
  | nil => rw [TypeRef.renameFields, List.map_nil]
  | cons field rest ih => rw [TypeRef.renameFields, ih, List.map_cons, declaration]

theorem renameAll_eq_map (selections : List Selection) :
    Selection.renameAll r selections = selections.map (Selection.rename r) := by
  induction selections with
  | nil => rw [Selection.renameAll, List.map_nil]
  | cons selection rest ih => rw [Selection.renameAll, ih, List.map_cons]

@[simp] theorem isNull_rename (value : Json) : (value.rename r).isNull = value.isNull := by
  cases value <;> simp [Json.rename, Json.isNull]

@[simp] theorem isArray_rename (value : Json) : (value.rename r).isArray = value.isArray := by
  cases value <;> simp [Json.rename, Json.isArray]

theorem rename_object (members : List (String × Json)) :
    (Json.object members).rename r = .object (members.map r.entry) := by
  rw [Json.rename, renameMembers_eq_map]

@[simp] theorem timed?_rename (type : TypeRef) : (type.rename r).timed? = type.timed? := by
  obtain ⟨name, nonNull, list, fields⟩ := type
  simp only [TypeRef.rename, TypeRef.timed?]

@[simp] theorem typeName_rename (type : TypeRef) : (type.rename r).name = type.name := by
  obtain ⟨name, nonNull, list, fields⟩ := type
  rw [TypeRef.rename]

@[simp] theorem list_rename (type : TypeRef) : (type.rename r).list = type.list := by
  obtain ⟨name, nonNull, list, fields⟩ := type
  rw [TypeRef.rename]

@[simp] theorem fields_rename (type : TypeRef) :
    (type.rename r).fields = type.fields.map r.declaration := by
  obtain ⟨name, nonNull, list, fields⟩ := type
  rw [TypeRef.rename, renameFields_eq_map]

/-- What is found under a name is found under the new one. -/
theorem last?_map (key : String) (entries : List (String × Json)) :
    last? (r.map key) (entries.map r.entry) = (last? key entries).map (Json.rename r) := by
  induction entries with
  | nil => rfl
  | cons first rest ih =>
    rw [List.map_cons, last?, last?, ih]
    cases last? key rest with
    | some value => rfl
    | none =>
      simp only [entry, r.map_eq_iff, Option.map_none, Option.none_or]
      split <;> rfl

theorem names_map (entries : List (String × Json)) :
    Bag.names (entries.map r.entry) = (Bag.names entries).map r.map := by
  rw [Bag.names, Bag.names, ← r.eraseDups_map, List.map_map, List.map_map]
  rfl

theorem filter_ne_map (key : String) (names : List String) :
    (names.map r.map).filter (· ≠ r.map key) = (names.filter (· ≠ key)).map r.map := by
  rw [List.filter_map]
  simp only [Function.comp_def, ne_eq, r.map_eq_iff]

theorem suppliedEntries_map (arguments : List Argument) :
    Parameters.suppliedEntries (arguments.map (Argument.rename r)) =
      (Parameters.suppliedEntries arguments).map r.entry := by
  unfold Parameters.suppliedEntries
  rw [List.filterMap_map, List.map_filterMap]
  refine congrArg (List.filterMap · arguments) (funext fun argument => ?_)
  simp only [Function.comp_apply, Argument.rename, Option.map_map]
  rfl

theorem valueEntries_map (arguments : List Argument) :
    Parameters.valueEntries (arguments.map (Argument.rename r)) =
      (Parameters.valueEntries arguments).map r.entry := by
  unfold Parameters.valueEntries
  rw [suppliedEntries_map, List.filter_map]
  simp only [Function.comp_def, entry, isNull_rename]

theorem nullEntries_map (arguments : List Argument) :
    Parameters.nullEntries (arguments.map (Argument.rename r)) =
      (Parameters.nullEntries arguments).map r.entry := by
  unfold Parameters.nullEntries
  rw [suppliedEntries_map, List.filter_map]
  simp only [Function.comp_def, entry, isNull_rename]

theorem pageEntries_rename (operation : Operation) :
    (operation.rename r).pageEntries = operation.pageEntries.map r.entry := by
  have first : r.map "first" = "first" := r.fixes _ (by simp [Operation.meaningful])
  have offset : r.map "offset" = "offset" := r.fixes _ (by simp [Operation.meaningful])
  unfold Operation.pageEntries Operation.rename
  cases operation.first <;> cases operation.offset <;>
    simp [entry, first, offset, Json.ofInt, Json.rename]

/-- Whether some argument of a name passes a test that does not look at names. -/
theorem any_rename (test : Argument → Bool)
    (h : ∀ argument, test (argument.rename r) = test argument) (key : String)
    (arguments : List Argument) :
    (arguments.map (Argument.rename r)).any (fun other => other.name = r.map key && test other) =
      arguments.any fun other => other.name = key && test other := by
  rw [List.any_map]
  have name (argument : Argument) : (argument.rename r).name = r.map argument.name := rfl
  simp only [Function.comp_def, h, name, r.map_eq_iff]

theorem patternNames_rename (operation : Operation) :
    (operation.rename r).patternNames = operation.patternNames.map r.map := by
  have declared (name : String) :
      (operation.arguments.map (Argument.rename r)).any
          (fun other => other.name = r.map name && other.type.timed?.isSome) =
        operation.arguments.any fun other => other.name = name && other.type.timed?.isSome :=
    r.any_rename (fun other => other.type.timed?.isSome) (fun other => by simp [Argument.rename]) name
      operation.arguments
  unfold Operation.patternNames
  simp only [Operation.rename, valueEntries_map, names_map, List.filter_map, Function.comp_def,
    last?_map, Option.any_map, isArray_rename, declared]

theorem listNames_rename (operation : Operation) :
    (operation.rename r).listNames = operation.listNames.map r.map := by
  unfold Operation.listNames
  simp only [Operation.rename, valueEntries_map, names_map, List.filter_map, Function.comp_def,
    last?_map, Option.any_map, isArray_rename]

theorem unsupplied?_rename (operation : Operation) (idType : String) :
    (operation.rename r).unsupplied? idType = (operation.unsupplied? idType).map r.map := by
  have first : (operation.arguments.map (Argument.rename r)).find? (·.type.name = idType) =
      (operation.arguments.find? (·.type.name = idType)).map (Argument.rename r) := by
    rw [List.find?_map]
    simp only [Function.comp_def, Argument.rename, typeName_rename]
  unfold Operation.unsupplied?
  simp only [Operation.rename, first]
  cases operation.arguments.find? (·.type.name = idType) with
  | none => rfl
  | some argument =>
    have supplied := r.any_rename (fun other => other.value.isSome)
      (fun other => by simp [Argument.rename]) argument.name operation.arguments
    have name : (argument.rename r).name = r.map argument.name := rfl
    simp only [Option.map_some, name, supplied]
    split <;> rfl

theorem createdEntries_rename (operation : Operation) (idType : String) :
    (operation.rename r).createdEntries idType .null =
      (operation.createdEntries idType .null).map r.entry := by
  have supplied := r.suppliedEntries_map operation.arguments
  unfold Operation.createdEntries
  rw [unsupplied?_rename, List.map_append, ← supplied]
  cases operation.unsupplied? idType with
  | none => rfl
  | some name => simp [entry, Json.rename, Operation.rename]

theorem typed_rename (operation : Operation) :
    (operation.rename r).typed = operation.typed.map r.declaration := by
  simp only [Operation.typed, Operation.rename, List.map_map]
  rfl

theorem assignment_rename (type : TypeRef) (key : String) :
    (type.rename r).assignment (r.map key) = (type.assignment key).rename r.map := by
  unfold TypeRef.assignment
  rw [timed?_rename, list_rename]
  cases type.timed? with
  | none => rfl
  | some kind => cases type.list <;> rfl

theorem declared_map (declarations : List (String × TypeRef)) (names : List String) :
    Assignment.declared (declarations.map r.declaration) (names.map r.map) =
      (Assignment.declared declarations names).map (Assignment.rename r.map) := by
  unfold Assignment.declared
  rw [List.filterMap_map, List.map_filterMap]
  refine congrArg (List.filterMap · names) (funext fun key => ?_)
  simp only [Function.comp_def, find?_declaration, Option.map_map, declaration, assignment_rename]

theorem comparisons_rename (type : TypeRef) (key : String) (parent : Option String) (value : Json) :
    (type.rename r).comparisons (r.map key) parent (value.rename r) =
      (type.comparisons key parent value).map (Predicate.rename r.map) := by
  cases value with
  | null | bool | number | string | array =>
    simp [Json.rename, TypeRef.comparisons]
  | object components =>
    have text : r.map "formatted" = "formatted" := r.fixes _ (by simp [Operation.meaningful])
    have formatted : (components.map r.entry).find? (·.1 = "formatted") =
        (components.find? (·.1 = "formatted")).map r.entry := by
      have found := r.find?_entry "formatted" components
      rwa [text] at found
    rw [rename_object, TypeRef.comparisons, TypeRef.comparisons, timed?_rename]
    cases type.timed? with
    | none => rfl
    | some kind =>
      simp only [formatted, Option.any_map, entry, isNull_rename]
      split
      · rfl
      · simp only [List.filter_map, Function.comp_def, entry, isNull_rename, List.map_map]
        rfl

theorem conditions_rename (operation : Operation) :
    (operation.rename r).conditions = operation.conditions.map (Predicate.rename r.map) := by
  have compared (argument : Argument) :
      ((last? (r.map argument.name) ((Parameters.valueEntries operation.arguments).map r.entry)).elim
        [] ((argument.type.rename r).comparisons (r.map argument.name) none)) =
      ((last? argument.name (Parameters.valueEntries operation.arguments)).elim []
        (argument.type.comparisons argument.name none)).map (Predicate.rename r.map) := by
    rw [last?_map]
    cases last? argument.name (Parameters.valueEntries operation.arguments) with
    | none => rfl
    | some value => exact r.comparisons_rename argument.type argument.name none value
  have temporal : (operation.arguments.map (Argument.rename r)).flatMap (fun argument =>
        (last? argument.name ((Parameters.valueEntries operation.arguments).map r.entry)).elim []
          (argument.type.comparisons argument.name none)) =
      (operation.arguments.flatMap fun argument =>
        (last? argument.name (Parameters.valueEntries operation.arguments)).elim []
          (argument.type.comparisons argument.name none)).map (Predicate.rename r.map) := by
    rw [List.flatMap_map, List.map_flatMap]
    exact congrArg (List.flatMap · operation.arguments) (funext compared)
  have internalId : operation.internalId = (operation.rename r).internalId := rfl
  have arguments : (operation.rename r).arguments = operation.arguments.map (Argument.rename r) :=
    rfl
  unfold Operation.conditions
  simp only [← internalId, arguments, nullEntries_map, valueEntries_map, names_map, temporal,
    listNames_rename, List.map_append, List.map_map]
  cases operation.internalId <;> rfl

end Renaming

/-- A node that is wanted, under other names. -/
def Wanted.rename (r : Renaming) (node : String) (wanted : Wanted) : Wanted where
  node := node
  label := r.map wanted.label
  key := r.map wanted.key
  parent := wanted.parent
  types := wanted.types.map (TypeRef.rename r)
  value := wanted.value.rename r

def Link.rename (r : Renaming) (link : Link) : Link :=
  ⟨r.map link.relationship, r.map link.sourceType, r.map link.targetType⟩

namespace Renaming

variable (r : Renaming)

theorem comparisons_wanted (node : String) (wanted : Wanted) :
    (wanted.rename r node).comparisons = wanted.comparisons.map (Predicate.rename r.map) := by
  simp only [Wanted.comparisons, Wanted.rename, List.flatMap_map, List.map_flatMap,
    comparisons_rename]

theorem reading_rename (node : String) (wanted : Wanted) (entries : List (String × Json)) :
    (wanted.rename r node).reading (entries.map r.entry) =
      (wanted.reading entries).rename r node := by
  simp only [Wanted.reading, Wanted.rename, last?_map, Option.getD_map]

theorem wanted?_rename (operation : Operation) (parent : Option String) :
    (operation.rename r).wanted? parent =
      (operation.wanted? parent).map (Wanted.rename r (r.map operation.variableName)) := by
  have arguments : (operation.rename r).arguments = operation.arguments.map (Argument.rename r) :=
    rfl
  unfold Operation.wanted?
  rw [arguments]
  cases hargs : operation.arguments with
  | nil => rfl
  | cons key rest =>
    have types : ((operation.arguments.map (Argument.rename r)).filter
          (·.name = r.map key.name)).map Argument.type =
        ((operation.arguments.filter (·.name = key.name)).map Argument.type).map
          (TypeRef.rename r) := by
      rw [filter_argument, List.map_map, List.map_map]
      rfl
    rw [hargs] at types
    have value : (key.rename r).value = key.value.map (Json.rename r) := rfl
    have name : (key.rename r).name = r.map key.name := rfl
    simp only [List.map_cons] at types ⊢
    simp only [value, name, types]
    cases key.value with
    | none => rfl
    | some given => cases given <;> simp [Json.rename, Wanted.rename, Operation.rename]

theorem wantedEnd?_rename (operation : Operation) {argumentName : String}
    (fixed : r.map argumentName = argumentName) (typeName : String) :
    (operation.rename r).wantedEnd? argumentName (r.map typeName) =
      (operation.wantedEnd? argumentName typeName).map
        (Wanted.rename r (Text.lowerFirst (r.map typeName) ++ "_" ++ argumentName)) := by
  have found := r.find?_argument argumentName operation.arguments
  rw [fixed] at found
  unfold Operation.wantedEnd?
  simp only [Operation.rename, found]
  cases operation.arguments.find? (·.name = argumentName) with
  | none => rfl
  | some argument =>
    obtain ⟨name, type, value⟩ := argument
    cases value with
    | none => rfl
    | some value =>
      cases value with
      | null | bool | number | string | array => simp [Argument.rename, Json.rename]
      | object members =>
        simp only [Argument.rename, Option.map_some, rename_object, fields_rename]
        cases hfields : type.fields with
        | nil => rfl
        | cons field fields =>
          have types := r.filter_declaration field.1 type.fields
          rw [hfields] at types
          have first : r.declaration field = (r.map field.1, field.2.rename r) := rfl
          simp only [List.map_cons, first] at types ⊢
          simp only [find?_entry, types]
          cases members.find? (·.1 = field.1) with
          | none => rfl
          | some member =>
            obtain ⟨memberName, memberValue⟩ := member
            cases memberValue <;>
              simp [entry, Json.rename, Wanted.rename, declaration, Function.comp_def]

theorem directed?_rename (operation : Operation) (directive argument : String) :
    (operation.rename r).directed? directive argument =
      (operation.directed? directive argument).map r.map := by
  have found : (operation.directives.map (Directive.rename r)).find? (·.name = directive) =
      (operation.directives.find? (·.name = directive)).map (Directive.rename r) := by
    rw [List.find?_map]
    rfl
  unfold Operation.directed?
  simp only [Operation.rename, found]
  cases operation.directives.find? (·.name = directive) with
  | none => rfl
  | some directive =>
    simp only [Option.map_some, Directive.rename, Bag.mapValues, Bag.mapEntries, List.find?_map]
    have same : ((fun x : String × Json => decide (x.1 = argument)) ∘ fun x : String × Json =>
        (x.1, match x.2 with | .string text => Json.string (r.map text) | other => other)) =
        fun x => decide (x.1 = argument) := rfl
    rw [same]
    cases directive.arguments.entries.find? (·.1 = argument) with
    | none => rfl
    | some member =>
      obtain ⟨name, value⟩ := member
      cases value <;> rfl

theorem link?_rename (operation : Operation) (settings : Settings) :
    (operation.rename r).link? settings = (operation.link? settings).map (Link.rename r) := by
  unfold Operation.link?
  simp only [directed?_rename]
  cases operation.directed? settings.linkDirective "relationship" with
  | none => rfl
  | some relationship =>
    cases operation.directed? settings.linkDirective "from" with
    | none => rfl
    | some source => cases operation.directed? settings.linkDirective "to" <;> rfl

theorem data?_rename (operation : Operation) :
    (operation.rename r).data? = operation.data?.map fun (fields, members) =>
      (fields.map r.declaration, members.map r.entry) := by
  have data : r.map "data" = "data" := r.fixes _ (by simp [Operation.meaningful])
  have found := r.find?_argument "data" operation.arguments
  have bound := r.last?_map "data" (Parameters.suppliedEntries operation.arguments)
  rw [data] at found bound
  unfold Operation.data?
  simp only [Operation.rename, found, suppliedEntries_map, bound]
  cases operation.arguments.find? (·.name = "data") with
  | none => rfl
  | some argument =>
    cases last? "data" (Parameters.suppliedEntries operation.arguments) with
    | none => rfl
    | some value =>
      cases value with
      | null | bool | number | string | array => simp [Json.rename]
      | object members => simp [rename_object, Argument.rename]

theorem classify_rename (operation : Operation) (customDirective : String) :
    Kind.classify (operation.rename r) customDirective = Kind.classify operation customDirective := by
  have custom : ((operation.rename r).directive? customDirective).isSome =
      (operation.directive? customDirective).isSome := by
    rw [Operation.directive?, Operation.rename, List.find?_map, Option.isSome_map]
    rfl
  simp only [Kind.classify, custom]
  rfl

/-- The properties of a new relationship. -/
theorem written_rename (operation : Operation) :
    ((operation.rename r).data?.elim [] fun (fields, members) =>
        Assignment.declared fields (members.map Prod.fst)) =
      (operation.data?.elim [] fun (fields, members) =>
        Assignment.declared fields (members.map Prod.fst)).map (Assignment.rename r.map) := by
  rw [data?_rename]
  cases operation.data? with
  | none => rfl
  | some data =>
    have members : (data.2.map r.entry).map Prod.fst = (data.2.map Prod.fst).map r.map := by
      rw [List.map_map, List.map_map]
      rfl
    simp only [Option.map_some, Option.elim_some, members, declared_map]

end Renaming

theorem Predicate.map_rename_id (predicates : List Predicate) :
    predicates.map (Predicate.rename id) = predicates := by
  refine (List.map_congr_left fun predicate _ => ?_).trans (List.map_id predicates)
  cases predicate <;> rfl

theorem Assignment.map_rename_id (assignments : List Assignment) :
    assignments.map (Assignment.rename id) = assignments := by
  refine (List.map_congr_left fun assignment _ => ?_).trans (List.map_id assignments)
  cases assignment <;> rfl

namespace Template

variable (r : Renaming)

/-- One name for all variables. -/
def blank : String → String :=
  fun _ => ""

theorem Field.rename_id (field : Field) : field.rename id = field := by
  cases field <;> rfl

theorem Field.ofSelection_rename (bare : Bool) (selection : Selection) :
    Field.ofSelection bare (selection.rename r) = (Field.ofSelection bare selection).rename r.map := by
  have internalId : r.map "_id" = "_id" := r.fixes _ (by simp [Operation.meaningful])
  obtain ⟨name, givenKey, selections⟩ := selection
  simp only [Selection.rename, ofSelection, r.map_eq_iff_of_fixed internalId, Option.isNone_map,
    Option.getD_map]
  split
  · rfl
  · split <;> rfl

theorem Entry.selected_rename (selections : List Selection) :
    selected (selections.map (Selection.rename r)) = (selected selections).map (Selection.rename r) := by
  have typename : r.map "__typename" = "__typename" := r.fixes _ (by simp [Operation.meaningful])
  have name (selection : Selection) : (selection.rename r).name = r.map selection.name := by
    cases selection
    rw [Selection.rename]
  unfold selected
  rw [List.filter_map]
  simp only [Function.comp_def, name, ne_eq, r.map_eq_iff_of_fixed typename]

/-- The entry of a selection does not depend on names, as far as they are not its own. -/
theorem Entry.ofSelection_rename (root root' : String) {linkage linkage' : Option Linkage}
    (bare : linkage'.any (·.relationship.isNone) = linkage.any (·.relationship.isNone))
    (selection : Selection) :
    (ofSelection root' linkage' (selection.rename r)).rename id blank =
      (ofSelection root linkage selection).rename r.map blank := by
  have field (bare : Bool) (selection : Selection) := Field.ofSelection_rename r bare selection
  obtain ⟨name, givenKey, selections⟩ := selection
  unfold ofSelection
  rw [bare, field]
  simp only [Selection.rename, Renaming.renameAll_eq_map, List.isEmpty_map, selected_rename,
    List.map_map, Function.comp_def, field, Option.getD_map]
  split
  · simp only [Entry.rename, Field.rename_id]
    rfl
  · simp only [Entry.rename, List.map_map, Function.comp_def, Field.rename_id]
    rfl

theorem Entry.all_rename (operation : Operation) {root root' : String}
    {linkage linkage' : Option Linkage}
    (bare : linkage'.any (·.relationship.isNone) = linkage.any (·.relationship.isNone)) :
    (all root' linkage' (operation.rename r)).map (Entry.rename id blank) =
      (all root linkage operation).map (Entry.rename r.map blank) := by
  have selections : (operation.rename r).selections =
      operation.selections.map (Selection.rename r) := rfl
  unfold all
  rw [selections, selected_rename, List.map_map, List.map_map, List.map_map]
  exact List.map_congr_left fun selection _ => ofSelection_rename r root root' bare selection

theorem customFields_rename (operation : Operation) :
    (customFields (operation.rename r)).map (List.map (Entry.rename id blank)) =
      (customFields operation).map (List.map (Entry.rename r.map blank)) := by
  have temporal : ∀ name ∈ ["_Neo4jTime", "_Neo4jDate", "_Neo4jDateTime", "_Neo4jLocalTime",
      "_Neo4jLocalDateTime"], r.map name = name := by
    intro name hname
    refine r.fixes name ?_
    simp only [List.mem_cons, List.not_mem_nil, or_false] at hname
    rcases hname with rfl | rfl | rfl | rfl | rfl <;> simp [Operation.meaningful]
  have name : (operation.rename r).schemaType.name = r.map operation.schemaType.name := rfl
  have shape : (operation.rename r).schemaType.shape = operation.schemaType.shape := rfl
  unfold customFields
  rw [name, shape]
  simp only [r.mem_map_iff temporal]
  split
  · exact congrArg some (Entry.all_rename r operation rfl)
  · rfl

theorem Rows.ofOperation_rename (operation : Operation) :
    (ofOperation (operation.rename r)).rename id = (ofOperation operation).rename r.map := by
  simp only [ofOperation, Operation.rename, Rows.rename, List.map_map]
  rfl

theorem Found.ofWanted_rename (node : String) (wanted : Wanted) :
    (ofWanted (wanted.rename r node)).rename id blank = (ofWanted wanted).rename r.map blank := by
  simp only [ofWanted, Found.rename, r.comparisons_wanted, Predicate.map_rename_id]
  rfl

/-- What is looked up first is the same thing under its new name, so the rest can start from it. -/
theorem map_bind_renamed {α β : Type} {found : Option α} {found' : Option β} {g : α → β}
    (hfound : found' = found.map g) {next : α → Option Template} {next' : β → Option Template}
    {form form' : Template → Template} (h : ∀ a, (next' (g a)).map form' = (next a).map form) :
    (found'.bind next').map form' = (found.bind next).map form := by
  subst hfound
  cases found with
  | none => rfl
  | some a => exact h a

/-- Up to the names of variables, the template of a renamed operation is the renamed template. -/
theorem of?_rename (settings : Settings) (operation : Operation) (kind : Kind) :
    (of? settings (operation.rename r) kind).map (rename id blank) =
      (of? settings operation kind).map (rename r.map blank) := by
  have fields : (Entry.all (operation.rename r).variableName none (operation.rename r)).map
        (Entry.rename id blank) =
      (Entry.all operation.variableName none operation).map (Entry.rename r.map blank) :=
    Entry.all_rename r operation rfl
  have source : r.map "from" = "from" := r.fixes _ (by simp [Operation.meaningful])
  have target : r.map "to" = "to" := r.fixes _ (by simp [Operation.meaningful])
  have arguments : (operation.rename r).arguments = operation.arguments.map (Argument.rename r) :=
    rfl
  have globals : (operation.rename r).globalEntries = operation.globalEntries := rfl
  simp only [of?, Option.bind_eq_bind]
  cases kind with
  | nodeQuery =>
    simp only [Option.map_some, rename, r.patternNames_rename, r.conditions_rename, fields,
      Rows.ofOperation_rename, Predicate.map_rename_id, List.map_id]
    rfl
  | customQuery =>
    refine map_bind_renamed (r.directed?_rename operation _ _) fun statement => ?_
    simp only [Option.map_some, arguments, r.valueEntries_map, r.pageEntries_rename,
      ← List.map_append, r.names_map, globals, rename, List.map_id, customFields_rename,
      Rows.ofOperation_rename]
    rfl
  | customMutation =>
    refine map_bind_renamed (r.directed?_rename operation _ _) fun statement => ?_
    simp only [Option.map_some, arguments, r.suppliedEntries_map, r.pageEntries_rename,
      ← List.map_append, r.names_map, globals, rename, List.map_id, customFields_rename,
      Rows.ofOperation_rename]
    rfl
  | nodeCreate =>
    simp only [Option.map_some, rename, r.createdEntries_rename, r.names_map, r.typed_rename,
      r.declared_map, Assignment.map_rename_id, fields]
    rfl
  | nodeUpdate =>
    refine map_bind_renamed (r.wanted?_rename operation _) fun wanted => ?_
    have key (node : String) : (wanted.rename r node).key = r.map wanted.key := rfl
    simp only [Option.map_some, arguments, r.suppliedEntries_map, r.reading_rename, rename,
      Found.ofWanted_rename, r.names_map, r.typed_rename, key, r.filter_ne_map, r.declared_map,
      Assignment.map_rename_id, fields]
  | nodeDelete =>
    refine map_bind_renamed (r.wanted?_rename operation _) fun wanted => ?_
    simp only [Option.map_some, arguments, r.suppliedEntries_map, r.pageEntries_rename,
      ← List.map_append, r.reading_rename, rename, Found.ofWanted_rename, fields]
    rfl
  | relationshipCreate =>
    refine map_bind_renamed (r.link?_rename operation settings) fun link => ?_
    refine map_bind_renamed (r.wantedEnd?_rename operation source _) fun wanted => ?_
    refine map_bind_renamed (r.wantedEnd?_rename operation target _) fun wanted' => ?_
    simp only [Option.map_some, r.written_rename, rename, Found.ofWanted_rename,
      Assignment.map_rename_id]
    exact congrArg (fun entries => some (relationshipCreate _ _ _ _ _ entries _))
      (Entry.all_rename r operation rfl)
  | relationshipDelete =>
    refine map_bind_renamed (r.link?_rename operation settings) fun link => ?_
    refine map_bind_renamed (r.wantedEnd?_rename operation source _) fun wanted => ?_
    refine map_bind_renamed (r.wantedEnd?_rename operation target _) fun wanted' => ?_
    simp only [Option.map_some, rename, Found.ofWanted_rename]
    exact congrArg (fun entries => some (relationshipDelete _ _ _ _ _ _ entries _))
      (Entry.all_rename r operation rfl)

end Template

/-- The slots are the same but for names, texts and variables, and names and texts are renamed. -/
def Slot.RenamedBy (r : Renaming) : Slot → Slot → Prop
  | word s, slot => slot = word s
  | mark c, slot => slot = mark c
  | name s, slot => slot = name (r.map s)
  | text s, slot => slot = text (r.map s)
  | var _, slot => ∃ s, slot = var s

theorem Slot.forall₂_renamedBy {r : Renaming} {slots slots' : List Slot}
    (h : slots'.map (rename id Template.blank) = slots.map (rename r.map Template.blank)) :
    List.Forall₂ (RenamedBy r) slots slots' := by
  induction slots generalizing slots' with
  | nil =>
    obtain rfl : slots' = [] := by simpa using h
    exact .nil
  | cons slot rest ih =>
    cases slots' with
    | nil => cases h
    | cons slot' rest' =>
      obtain ⟨first, others⟩ := List.cons.inj h
      refine .cons ?_ (ih others)
      cases slot <;> cases slot' <;> simp_all [RenamedBy, rename]

/-- A renamed operation has its slots in the same places. -/
theorem Template.exists_renamed (r : Renaming) {settings : Settings} {operation : Operation}
    {kind : Kind} {template : Template} (h : of? settings operation kind = some template) :
    ∃ renamed, of? settings (operation.rename r) kind = some renamed ∧
      List.Forall₂ (Slot.RenamedBy r) template.slots renamed.slots := by
  have both := of?_rename r settings operation kind
  rw [h, Option.map_some] at both
  obtain ⟨renamed, hrenamed, same⟩ := Option.map_eq_some_iff.mp both
  refine ⟨renamed, hrenamed, Slot.forall₂_renamedBy ?_⟩
  rw [← slots_rename, ← slots_rename, same]

end CypherSynthesis
