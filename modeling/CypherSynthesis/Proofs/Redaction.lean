import CypherSynthesis.Proofs.Bag
import CypherSynthesis.Proofs.Conditions
import CypherSynthesis.Synthesizer

/-!
Values with everything taken out that no statement may depend on. Redaction keeps nulls, lists as
lists, and objects with their keys; each function between an operation and its statement either
ignores what redaction takes out or passes it on into parameters.
-/

namespace CypherSynthesis

open Cypher (Fragment)

namespace Json

mutual

/-- The value with its contents taken out. -/
def redact : Json → Json
  | .null => .null
  | .bool _ | .number _ | .string _ => .ofInt 0
  | .array _ => .array []
  | .object members => .object (redactMembers members)

def redactMembers : List (String × Json) → List (String × Json)
  | [] => []
  | (key, value) :: rest => (key, value.redact) :: redactMembers rest

end

theorem redactMembers_eq (members : List (String × Json)) :
    redactMembers members = Bag.mapEntries (fun _ value => value.redact) members := by
  induction members with
  | nil => rfl
  | cons member rest ih => rw [redactMembers, ih]; rfl

theorem find?_redactMembers (members : List (String × Json)) (key : String) :
    Bag.find? key (redactMembers members) = (Bag.find? key members).map redact := by
  rw [redactMembers_eq, Bag.find?_mapEntries]

@[simp] theorem keys_redactMembers (members : List (String × Json)) :
    (redactMembers members).map Prod.fst = members.map Prod.fst := by
  rw [redactMembers_eq, Bag.keys_mapEntries]

theorem redactMembers_filter (members : List (String × Json)) (keep : String × Json → Bool)
    (h : ∀ key value, keep (key, value.redact) = keep (key, value)) :
    redactMembers (members.filter keep) = (redactMembers members).filter keep := by
  simp [redactMembers_eq, Bag.mapEntries, List.filter_map, Function.comp_def, h]

@[simp] theorem isNull_redact (value : Json) : value.redact.isNull = value.isNull := by
  cases value <;> simp only [redact] <;> rfl

@[simp] theorem isArray_redact (value : Json) : value.redact.isArray = value.isArray := by
  cases value <;> simp only [redact] <;> rfl

theorem redact_encodeInt64 (n : Int64) : (encodeInt64 n).redact = encodeInt64 0 := by
  simp only [encodeInt64, ofInt, redact]
  rfl

end Json

namespace Bag

def redact (bag : Bag) : Bag :=
  bag.mapValues fun _ value => value.redact

theorem entries_redact (bag : Bag) : bag.redact.entries = Json.redactMembers bag.entries :=
  (Json.redactMembers_eq bag.entries).symm

@[simp] theorem keys_redact (bag : Bag) : bag.redact.keys = bag.keys :=
  keys_mapValues _ bag

@[simp] theorem get?_redact (bag : Bag) (key : String) :
    bag.redact.get? key = (bag.get? key).map Json.redact :=
  get?_mapValues _ bag key

@[simp] theorem contains_redact (bag : Bag) (key : String) :
    bag.redact.contains key = bag.contains key := by
  simp [contains]

theorem redact_insert (bag : Bag) (key : String) (value : Json) :
    (bag.insert key value).redact = bag.redact.insert key value.redact := by
  apply Bag.ext
  simp only [redact, mapValues, insert]
  induction bag.entries with
  | nil => rfl
  | cons entry rest ih => grind [put, mapEntries]

theorem redact_insertAll (bag : Bag) (entries : List (String × Json)) :
    (bag.insertAll entries).redact = bag.redact.insertAll (Json.redactMembers entries) := by
  induction entries generalizing bag with
  | nil => rfl
  | cons entry rest ih =>
    simpa [insertAll, redact_insert, Json.redactMembers] using ih (bag.insert entry.1 entry.2)

theorem redact_filter (bag : Bag) (keep : String → Json → Bool)
    (h : ∀ key value, keep key value.redact = keep key value) :
    (bag.filter keep).redact = bag.redact.filter keep := by
  apply Bag.ext
  rw [entries_redact]
  simp only [filter]
  rw [entries_redact]
  exact Json.redactMembers_filter bag.entries _ h

theorem keys_filter_redact (bag : Bag) (keep : String → Json → Bool)
    (h : ∀ key value, keep key value.redact = keep key value) :
    (bag.redact.filter keep).keys = (bag.filter keep).keys := by
  rw [← redact_filter bag keep h, keys_redact]

end Bag

namespace Temporal

theorem isSome_formatted?_redact (components : List (String × Json)) :
    (formatted? (Json.redactMembers components)).isSome = (formatted? components).isSome := by
  unfold formatted?
  rw [Json.find?_redactMembers]
  cases Bag.find? formattedKey components with
  | none => rfl
  | some value =>
    simp only [Option.map_some, Json.isNull_redact]
    split <;> rfl

theorem keys_given_redact (components : List (String × Json)) :
    (given (Json.redactMembers components)).map Prod.fst = (given components).map Prod.fst := by
  unfold given
  rw [← Json.redactMembers_filter components _ (by simp), Json.keys_redactMembers]

end Temporal

namespace Predicate

theorem ofTemporal_redact (values : List (String × Json)) (parent : Option String)
    (declared : Temporal.Declared) :
    ofTemporal (Json.redactMembers values) parent declared = ofTemporal values parent declared := by
  have found := Json.find?_redactMembers values declared.name
  cases hvalue : Bag.find? declared.name values with
  | none => simp [ofTemporal, hvalue, found]
  | some value =>
    cases value with
    | object components =>
      have redacted : Bag.find? declared.name (Json.redactMembers values) =
          some (.object (Json.redactMembers components)) := by
        simp [found, hvalue, Json.redact]
      rw [ofTemporal_object parent hvalue, ofTemporal_object parent redacted,
        Temporal.isSome_formatted?_redact, Temporal.keys_given_redact]
    | null | bool | number | string | array =>
      simp [ofTemporal, hvalue, found, Json.redact, Json.ofInt]

theorem temporal_redact (values : List (String × Json)) (declared : List Temporal.Declared)
    (parent : Option String) :
    temporal (Json.redactMembers values) declared parent = temporal values declared parent := by
  unfold temporal
  exact congrArg (declared.flatMap ·) (funext (ofTemporal_redact values parent))

end Predicate

namespace Argument

def redact (argument : Argument) : Argument :=
  { argument with value := argument.value.map Json.redact }

@[simp] theorem type_redact (argument : Argument) : argument.redact.type = argument.type := rfl

@[simp] theorem declaration_redact (argument : Argument) :
    argument.redact.declaration = argument.declaration := rfl

theorem find?_redact {p : Argument → Bool} (h : ∀ argument, p argument.redact = p argument)
    (arguments : List Argument) :
    (arguments.map redact).find? p = (arguments.find? p).map redact := by
  rw [List.find?_map, show p ∘ redact = p from funext h]

end Argument

namespace Filter

def redact (filter : Filter) : Filter :=
  ⟨filter.nulls.redact, filter.values.redact⟩

theorem redact_add (filter : Filter) (argument : Argument) :
    (filter.add argument).redact = filter.redact.add argument.redact := by
  unfold add Argument.redact
  cases argument.value with
  | none => rfl
  | some value =>
    cases value <;> simp [redact, Bag.redact_insert, Json.redact, Json.ofInt]

theorem redact_ofArguments (arguments : List Argument) :
    (ofArguments arguments).redact = ofArguments (arguments.map Argument.redact) := by
  have step (filter : Filter) : (arguments.foldl add filter).redact =
      (arguments.map Argument.redact).foldl add filter.redact := by
    induction arguments generalizing filter with
    | nil => rfl
    | cons argument rest ih => simpa [redact_add] using ih (filter.add argument)
  exact step empty

@[simp] theorem listKeys_redact (filter : Filter) : filter.redact.listKeys = filter.listKeys :=
  filter.values.keys_filter_redact _ (by simp)

@[simp] theorem inlineKeys_redact (filter : Filter) (temporal : List Temporal.Declared) :
    filter.redact.inlineKeys temporal = filter.inlineKeys temporal :=
  filter.values.keys_filter_redact _ (by simp)

@[simp] theorem conditions_redact (filter : Filter) (node : String) (internalId : Bool)
    (temporal : List Temporal.Declared) :
    filter.redact.conditions node internalId temporal =
      filter.conditions node internalId temporal := by
  simp only [conditions, listKeys_redact, Conditions.withTemporal]
  simp only [redact, Bag.keys_redact, Bag.entries_redact, Predicate.temporal_redact]

end Filter

namespace Operation

/-- The operation with the contents of its values taken out. -/
def redact (operation : Operation) : Operation :=
  { operation with
    arguments := operation.arguments.map Argument.redact
    first := operation.first.map fun _ => 0
    offset := operation.offset.map fun _ => 0
    internalId := operation.internalId.map fun _ => 0
    cypherParams := operation.globals?.map fun _ => { entries := [("", .null)] } }

@[simp] theorem variableName_redact (operation : Operation) :
    operation.redact.variableName = operation.variableName := rfl

@[simp] theorem typeName_redact (operation : Operation) :
    operation.redact.typeName = operation.typeName := rfl

@[simp] theorem schemaType_redact (operation : Operation) :
    operation.redact.schemaType = operation.schemaType := rfl

@[simp] theorem orderBy_redact (operation : Operation) :
    operation.redact.orderBy = operation.orderBy := rfl

@[simp] theorem declarations_redact (operation : Operation) :
    operation.redact.declarations = operation.declarations := by
  simp [redact, declarations, Function.comp_def]

@[simp] theorem argument?_redact (operation : Operation) (name : String) :
    operation.redact.argument? name = (operation.argument? name).map Argument.redact :=
  Argument.find?_redact (fun _ => rfl) operation.arguments

@[simp] theorem isSome_globals?_redact (operation : Operation) :
    operation.redact.globals?.isSome = operation.globals?.isSome := by
  unfold redact
  cases h : operation.globals? with
  | none => rfl
  | some globals => rfl

end Operation

namespace Parameters

theorem redact_insertPagination (bag : Bag) (operation : Operation) :
    (insertPagination bag operation).redact = insertPagination bag.redact operation.redact := by
  unfold insertPagination Operation.redact
  cases operation.first <;> cases operation.offset <;>
    simp [Bag.redact_insert, Json.redact_encodeInt64]

theorem redact_supplied (arguments : List Argument) :
    (supplied arguments).redact = supplied (arguments.map Argument.redact) := by
  have entries : Json.redactMembers (arguments.filterMap fun argument =>
        argument.value.map (argument.name, ·)) =
      (arguments.map Argument.redact).filterMap fun argument =>
        argument.value.map (argument.name, ·) := by
    simp [Json.redactMembers_eq, Bag.mapEntries, List.map_filterMap, List.filterMap_map,
      Argument.redact, Function.comp_def]
  unfold supplied Bag.ofList
  rw [Bag.redact_insertAll, entries]
  rfl

theorem redact_ofMutation (operation : Operation) :
    (ofMutation operation).redact = ofMutation operation.redact := by
  simp only [ofMutation, redact_insertPagination, redact_supplied]
  rfl

theorem redact_split (values : Bag) (key : String) :
    split values.redact key = ((split values key).1.redact, (split values key).2.redact) := by
  simp only [split]
  rw [Bag.redact_filter _ _ (by simp), Bag.redact_filter _ _ (by simp)]

theorem keyToGenerate?_redact (arguments : List Argument) (idType : String) (values : Bag) :
    keyToGenerate? (arguments.map Argument.redact) idType values.redact =
      keyToGenerate? arguments idType values := by
  unfold keyToGenerate?
  rw [Argument.find?_redact (fun _ => rfl)]
  cases arguments.find? (fun argument => argument.type.name = idType) with
  | none => rfl
  | some argument =>
    change (if values.redact.contains argument.name then none else some argument.name) = _
    rw [Bag.contains_redact]
    rfl

end Parameters

end CypherSynthesis
