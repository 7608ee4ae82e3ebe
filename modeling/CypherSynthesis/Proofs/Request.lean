import CypherSynthesis.Proofs.Conditions
import CypherSynthesis.Proofs.Parameters

/-!
What an operation asks for, read off its own lists. A name among arguments or directives stands for the
first of that name, a value for the last one supplied, and the names that mean something by themselves
are written out. Nothing here is put together from the functions that make statements; beside each
reading stands the lemma that these look up the same.
-/

namespace CypherSynthesis

open Bag (last?)

/-- The temporal kind of an input type, by its name. -/
def TypeRef.timed? (type : TypeRef) : Option TemporalKind :=
  match type.name with
  | "_Neo4jTimeInput" => some .time
  | "_Neo4jDateInput" => some .date
  | "_Neo4jDateTimeInput" => some .dateTime
  | "_Neo4jLocalTimeInput" => some .localTime
  | "_Neo4jLocalDateTimeInput" => some .localDateTime
  | _ => none

/-- The function that makes a value of a temporal kind. -/
def TemporalKind.function : TemporalKind → String
  | .time => "time"
  | .date => "date"
  | .dateTime => "datetime"
  | .localTime => "localtime"
  | .localDateTime => "localdatetime"

theorem TypeRef.temporalKind?_eq_timed? (type : TypeRef) : type.temporalKind? = type.timed? := by
  unfold temporalKind? TemporalKind.ofInputTypeName? timed?
  simp only [TemporalKind.all, TemporalKind.inputTypeName, TemporalKind.typeName, List.find?_cons,
    List.find?_nil]
  split <;> grind

theorem TemporalKind.constructor_eq_function (kind : TemporalKind) :
    kind.constructor = kind.function := by
  cases kind <;> rfl

/-- Among different names, one has its own declaration alone. -/
theorem filter_eq_singleton {α : Type} {name : α → String} {xs : List α} {x : α}
    (distinct : (xs.map name).Nodup) (hmem : x ∈ xs) : xs.filter (name · = name x) = [x] := by
  induction xs with
  | nil => cases hmem
  | cons first rest ih =>
    obtain ⟨hnew, hrest⟩ := List.nodup_cons.mp distinct
    rcases List.mem_cons.mp hmem with rfl | hmem
    · have others : rest.filter (name · = name x) = [] :=
        List.filter_eq_nil_iff.mpr fun other hother hname =>
          hnew (List.mem_map.mpr ⟨other, hother, by simpa using hname⟩)
      rw [List.filter_cons_of_pos (by simp), others]
    · have other : name first ≠ name x := fun hname => hnew (hname ▸ List.mem_map_of_mem hmem)
      rw [List.filter_cons_of_neg (by simpa using other), ih hrest hmem]

namespace Bag

theorem find?_eq_map_find? (key : String) (entries : List (String × Json)) :
    find? key entries = (entries.find? (·.1 = key)).map Prod.snd := by
  induction entries with
  | nil => rfl
  | cons entry rest ih =>
    rw [find?, List.find?_cons, ih]
    by_cases hkey : entry.1 = key <;> simp [hkey]

theorem get?_of_mem {bag : Bag} {key : String} {value : Json} (h : (key, value) ∈ bag.entries) :
    bag.get? key = some value := by
  obtain ⟨entries, nodup⟩ := bag
  simp only [get?] at h ⊢
  induction entries with
  | nil => cases h
  | cons first rest ih =>
    obtain ⟨hnew, hrest⟩ := List.nodup_cons.mp nodup
    rcases List.mem_cons.mp h with rfl | hmem
    · simp [find?]
    · have other : first.1 ≠ key := fun he => hnew (he ▸ List.mem_map_of_mem hmem)
      rw [find?, if_neg other]
      exact ih hrest hmem

theorem mem_of_get? {bag : Bag} {key : String} {value : Json} (h : bag.get? key = some value) :
    (key, value) ∈ bag.entries := by
  rw [get?, find?_eq_map_find?] at h
  obtain ⟨⟨name, found⟩, hfind, rfl⟩ := Option.map_eq_some_iff.mp h
  obtain rfl : name = key := by simpa using List.find?_some hfind
  exact List.mem_of_find?_eq_some hfind

/-- The names of entries, each at its first place. -/
def names (entries : List (String × Json)) : List String :=
  (entries.map Prod.fst).eraseDups

theorem keys_ofList (entries : List (String × Json)) : (ofList entries).keys = names entries :=
  (Binds.ofList entries).keys

theorem names_of_nodup {entries : List (String × Json)} (h : (entries.map Prod.fst).Nodup) :
    names entries = entries.map Prod.fst := by
  rw [← keys_ofList, ofList_of_nodup h]
  rfl

theorem get?_ofList_eq_last? (entries : List (String × Json)) (key : String) :
    (ofList entries).get? key = last? key entries :=
  (Binds.ofList entries).value key

theorem get?_ofList_of_mem {entries : List (String × Json)} {key : String}
    (h : key ∈ entries.map Prod.fst) (value : Json) :
    (ofList entries).get? key = some ((last? key entries).getD value) := by
  have bound : key ∈ (ofList entries).keys := by
    rw [keys_ofList, names, List.mem_eraseDups]
    exact h
  obtain ⟨found, hfound⟩ := mem_keys_iff.mp bound
  rw [get?_ofList_eq_last?] at hfound ⊢
  simp [hfound]

theorem insertAll_append (bag : Bag) (entries later : List (String × Json)) :
    (bag.insertAll entries).insertAll later = bag.insertAll (entries ++ later) :=
  List.foldl_append.symm

end Bag

namespace Parameters

/-- The supplied nulls, with the names of their arguments. -/
def nullEntries (arguments : List Argument) : List (String × Json) :=
  (suppliedEntries arguments).filter fun entry => entry.2.isNull

/-- The supplied values that are not null, with the names of their arguments. -/
def valueEntries (arguments : List Argument) : List (String × Json) :=
  (suppliedEntries arguments).filter fun entry => !entry.2.isNull

end Parameters

namespace Operation

/-- Pagination that was asked for. -/
def pageEntries (operation : Operation) : List (String × Json) :=
  (operation.first.map fun n => ("first", Json.ofInt n.toInt)).toList ++
    (operation.offset.map fun n => ("offset", Json.ofInt n.toInt)).toList

theorem last?_pageEntries (operation : Operation) (name : String) :
    last? name operation.pageEntries =
      if name = "first" then operation.first.map fun n => Json.ofInt n.toInt
      else if name = "offset" then operation.offset.map fun n => Json.ofInt n.toInt
      else none := by
  unfold pageEntries
  split
  · rename_i hfirst
    subst hfirst
    cases operation.first <;> cases operation.offset <;> rfl
  · rename_i hfirst
    split
    · rename_i hoffset
      subst hoffset
      cases operation.first <;> cases operation.offset <;> rfl
    · rename_i hoffset
      have other (key : String) (h : ¬ name = key) : ¬ key = name := fun he => h he.symm
      cases operation.first <;> cases operation.offset <;>
        simp [last?, other _ hfirst, other _ hoffset]

/-- The request-wide map; an empty one is left out. -/
def globalEntries (operation : Operation) : List (String × Json) :=
  match operation.cypherParams with
  | some params =>
    if params.entries.isEmpty then [] else [("cypherParams", .object params.entries)]
  | none => []

theorem last?_globalEntries (operation : Operation) {name : String} (h : name ≠ "cypherParams") :
    last? name operation.globalEntries = none := by
  unfold globalEntries
  split
  · split
    · rfl
    · simpa [last?] using Ne.symm h
  · rfl

/-- The first argument of the given type, if nothing is supplied under its name. -/
def unsupplied? (operation : Operation) (idType : String) : Option String :=
  match operation.arguments.find? (·.type.name = idType) with
  | some argument =>
    if operation.arguments.any fun other => other.name = argument.name && other.value.isSome then none
    else some argument.name
  | none => none

/-- The entries of a new node: what is supplied, and then the generated key if one is needed. -/
def createdEntries (operation : Operation) (idType : String) (fresh : Json) :
    List (String × Json) :=
  Parameters.suppliedEntries operation.arguments ++
    ((operation.unsupplied? idType).map (·, fresh)).toList

/-- Which entries a new node has does not depend on the key that is generated. -/
theorem names_createdEntries (operation : Operation) (idType : String) (fresh fresh' : Json) :
    (operation.createdEntries idType fresh).map Prod.fst =
      (operation.createdEntries idType fresh').map Prod.fst := by
  unfold createdEntries
  cases operation.unsupplied? idType <;> simp

end Operation

/-- A map projection applies to objects that are not temporal values. -/
theorem SchemaType.isProjectable_iff (type : SchemaType) :
    type.isProjectable = true ↔ type.shape = .object ∧ type.name ∉
      ["_Neo4jTime", "_Neo4jDate", "_Neo4jDateTime", "_Neo4jLocalTime", "_Neo4jLocalDateTime"] := by
  have named : type.isTemporal = true ↔ type.name ∈
      ["_Neo4jTime", "_Neo4jDate", "_Neo4jDateTime", "_Neo4jLocalTime", "_Neo4jLocalDateTime"] := by
    simp [isTemporal, TemporalKind.ofTypeName?, TemporalKind.all, TemporalKind.typeName,
      eq_comm (b := type.name)]
  rw [isProjectable, Bool.and_eq_true, Bool.not_eq_true', ← Bool.not_eq_true, Bool.not_eq_true',
    ← Bool.not_eq_true, named]
  simp [isScalar]

theorem Filter.foldl_add (arguments : List Argument) (filter : Filter) :
    arguments.foldl add filter =
      ⟨filter.nulls.insertAll (Parameters.nullEntries arguments),
        filter.values.insertAll (Parameters.valueEntries arguments)⟩ := by
  unfold Parameters.nullEntries Parameters.valueEntries Parameters.suppliedEntries
  induction arguments generalizing filter with
  | nil => rfl
  | cons argument rest ih =>
    rw [List.foldl_cons, ih]
    cases hvalue : argument.value with
    | none => simp [add, hvalue]
    | some value => cases value <;> simp [add, hvalue, Json.isNull, Bag.insertAll]

/-- What a query filters by: the arguments supplied as null apart from those with another value. -/
theorem Filter.ofArguments_eq (arguments : List Argument) :
    ofArguments arguments =
      ⟨.ofList (Parameters.nullEntries arguments), .ofList (Parameters.valueEntries arguments)⟩ :=
  foldl_add arguments empty

namespace Operation

/-- The declared names with their types. -/
def typed (operation : Operation) : List (String × TypeRef) :=
  operation.arguments.map fun argument => (argument.name, argument.type)

/-- The arguments that a node query matches inside its pattern: neither lists nor of temporal type. -/
def patternNames (operation : Operation) : List String :=
  let entries := Parameters.valueEntries operation.arguments
  (Bag.names entries).filter fun name => (last? name entries).any fun value =>
    !value.isArray &&
      !operation.arguments.any fun argument => argument.name = name && argument.type.timed?.isSome

/-- The arguments that a node query looks up in a list. -/
def listNames (operation : Operation) : List String :=
  let entries := Parameters.valueEntries operation.arguments
  (Bag.names entries).filter fun name => (last? name entries).any Json.isArray

end Operation

namespace Bag

/-- Which names pass a test on their entries. -/
theorem keys_filter (keep : String → Json → Bool) (bag : Bag) :
    (bag.filter keep).keys = bag.keys.filter fun key => (bag.get? key).any (keep key) := by
  rw [keys, keys, List.filter_map]
  refine congrArg (List.map Prod.fst) (List.filter_congr fun entry hentry => ?_)
  simp [get?_of_mem hentry]

theorem keys_filter_ofList (keep : String → Json → Bool) (entries : List (String × Json)) :
    ((ofList entries).filter keep).keys =
      (names entries).filter fun key => (last? key entries).any (keep key) := by
  rw [keys_filter, keys_ofList]
  simp only [get?_ofList_eq_last?]

end Bag

theorem Temporal.any_declared (operation : Operation) (name : String) :
    (declared operation.declarations).any (·.name = name) =
      operation.arguments.any fun argument => argument.name = name && argument.type.timed?.isSome := by
  unfold declared Operation.declarations
  induction operation.arguments with
  | nil => rfl
  | cons argument rest ih =>
    rw [List.map_cons, List.any_cons, ← ih, List.filterMap_cons]
    simp only [Argument.declaration, TypeRef.temporalKind?_eq_timed?]
    cases argument.type.timed? <;> simp

theorem Filter.inlineKeys_eq_patternNames (operation : Operation) :
    (ofArguments operation.arguments).inlineKeys (Temporal.declared operation.declarations) =
      operation.patternNames := by
  rw [inlineKeys, ofArguments_eq, Bag.keys_filter_ofList]
  simp only [Temporal.any_declared]
  rfl

theorem Filter.listKeys_eq_listNames (operation : Operation) :
    (ofArguments operation.arguments).listKeys = operation.listNames := by
  rw [listKeys, ofArguments_eq, Bag.keys_filter_ofList]
  rfl

namespace Parameters

theorem supplied_eq_ofList (arguments : List Argument) :
    supplied arguments = .ofList (suppliedEntries arguments) := rfl

/-- With different names, the last value under a name is that of the argument of that name. -/
theorem last?_suppliedEntries {arguments : List Argument}
    (distinct : (arguments.map Argument.name).Nodup) (name : String) :
    last? name (suppliedEntries arguments) =
      (arguments.find? (·.name = name)).bind (·.value) :=
  (Bag.get?_ofList_eq_last? _ name).symm.trans (get?_supplied distinct name)

theorem insertPagination_eq (bag : Bag) (operation : Operation) :
    insertPagination bag operation = bag.insertAll operation.pageEntries := by
  unfold insertPagination Operation.pageEntries
  cases operation.first <;> cases operation.offset <;> rfl

theorem ofMutation_eq_ofList (operation : Operation) :
    ofMutation operation =
      .ofList (suppliedEntries operation.arguments ++ operation.pageEntries) := by
  rw [ofMutation, insertPagination_eq, supplied_eq_ofList]
  exact Bag.insertAll_append _ _ _

theorem finish_eq (bag selection : Bag) (operation : Operation) :
    finish bag selection operation.globals? =
      bag.insertAll (selection.entries ++ operation.globalEntries) := by
  rw [← Bag.insertAll_append]
  unfold finish Operation.globals? Operation.globalEntries
  cases operation.cypherParams with
  | none => rfl
  | some params => cases hempty : params.entries.isEmpty <;> simp [Option.filter, Bag.isEmpty, hempty,
      Bag.insertAll, globalsKey, Bag.toJson]

theorem isSome_globals? (operation : Operation) :
    operation.globals?.isSome = !operation.globalEntries.isEmpty := by
  unfold Operation.globals? Operation.globalEntries
  cases operation.cypherParams with
  | none => rfl
  | some params => cases hempty : params.entries.isEmpty <;> simp [Option.filter, Bag.isEmpty, hempty]

theorem mem_names_suppliedEntries {arguments : List Argument} {name : String} :
    name ∈ (suppliedEntries arguments).map Prod.fst ↔
      ∃ argument ∈ arguments, argument.name = name ∧ argument.value ≠ none := by
  simp only [suppliedEntries, List.mem_map, List.mem_filterMap, Option.map_eq_some_iff]
  constructor
  · rintro ⟨entry, ⟨argument, hmem, value, hvalue, rfl⟩, rfl⟩
    exact ⟨argument, hmem, rfl, by simp [hvalue]⟩
  · rintro ⟨argument, hmem, rfl, hsupplied⟩
    obtain ⟨value, hvalue⟩ := Option.ne_none_iff_exists'.mp hsupplied
    exact ⟨_, ⟨argument, hmem, value, hvalue, rfl⟩, rfl⟩

theorem contains_supplied (arguments : List Argument) (name : String) :
    (supplied arguments).contains name =
      arguments.any fun argument => argument.name = name && argument.value.isSome := by
  rw [Bool.eq_iff_iff, Bag.contains, Option.isSome_iff_exists, ← Bag.mem_keys_iff,
    supplied_eq_ofList, Bag.keys_ofList, Bag.names, List.mem_eraseDups, mem_names_suppliedEntries]
  simp [Option.isSome_iff_ne_none]

theorem keyToGenerate?_eq (operation : Operation) (idType : String) :
    keyToGenerate? operation.arguments idType (supplied operation.arguments) =
      operation.unsupplied? idType := by
  unfold keyToGenerate? Operation.unsupplied?
  cases operation.arguments.find? (·.type.name = idType) with
  | none => rfl
  | some argument =>
    simp only [Option.bind_eq_bind, Option.bind_some, contains_supplied]

theorem created_eq_ofList (settings : Settings) (fresh : Json) (operation : Operation) :
    created settings fresh operation =
      .ofList (operation.createdEntries settings.idType fresh) := by
  unfold created Operation.createdEntries
  rw [keyToGenerate?_eq, supplied_eq_ofList]
  cases operation.unsupplied? settings.idType with
  | none => simp
  | some name => exact Bag.insertAll_append .empty _ [(name, fresh)]

end Parameters

/-- How a property of the type is written. -/
def TypeRef.assignment (type : TypeRef) (key : String) : Assignment :=
  match type.timed? with
  | some kind => if type.list then .temporalList key kind else .temporal key kind
  | none => .plain key

/-- How the declared ones among the names are written, each as its first declaration says. -/
def Assignment.declared (declarations : List (String × TypeRef)) (names : List String) :
    List Assignment :=
  names.filterMap fun key =>
    (declarations.find? (·.1 = key)).map fun declaration => declaration.2.assignment key

theorem Assignment.ofType_eq (key : String) (type : TypeRef) :
    ofType key type = type.assignment key := by
  rw [ofType, TypeRef.temporalKind?_eq_timed?]
  rfl

theorem Assignment.all_eq_declared (declarations : List Declaration) (names : List String) :
    all declarations names = declared declarations names := by
  simp only [all, declared, typeOf?, Option.map_map, Function.comp_def, ofType_eq]

mutual

/-- What a temporal value is written as: an object as its formatted text if it has one that is not
null, and otherwise without its null components; a list element by element. -/
def Json.asWritten : Json → Json
  | .object members =>
    match members.find? (·.1 = "formatted") with
    | some (_, text) =>
      if text.isNull then .object (members.filter (!·.2.isNull)) else text
    | none => .object (members.filter (!·.2.isNull))
  | .array items => .array (asWrittenEach items)
  | value => value

def Json.asWrittenEach : List Json → List Json
  | [] => []
  | item :: rest => asWritten item :: asWrittenEach rest

end

theorem Temporal.writeForm_object (members : List (String × Json)) :
    writeForm (.object members) = Json.asWritten (.object members) := by
  rw [writeForm, Json.asWritten, formatted?, formattedKey, Bag.find?_eq_map_find?, given]
  cases members.find? (·.1 = "formatted") with
  | none => rfl
  | some entry => cases hnull : entry.2.isNull <;> simp [hnull]

mutual

theorem Temporal.writeForm_eq_asWritten : ∀ value : Json, writeForm value = value.asWritten
  | .null | .bool _ | .number _ | .string _ => by simp [writeForm, Json.asWritten]
  | .object members => writeForm_object members
  | .array items => by rw [writeForm, Json.asWritten, writeForms_eq_asWrittenEach items]

theorem Temporal.writeForms_eq_asWrittenEach :
    ∀ items : List Json, writeForms items = Json.asWrittenEach items
  | [] => by rw [writeForms, Json.asWrittenEach]
  | item :: rest => by
    rw [writeForms, Json.asWrittenEach, writeForm_eq_asWritten item,
      writeForms_eq_asWrittenEach rest]

end

/-- The value of a declared name as it is bound: as it is written if the first declaration of the
name is temporal. -/
def Assignment.written (declarations : List (String × TypeRef)) (name : String) (value : Json) :
    Json :=
  if (declarations.find? (·.1 = name)).any (·.2.timed?.isSome) then value.asWritten else value

theorem Assignment.stored_eq_written (declarations : List Declaration) :
    stored declarations = written declarations := by
  funext name value
  unfold stored written typeOf?
  cases declarations.find? (·.1 = name) with
  | none => rfl
  | some declaration =>
    simp only [Option.map_some, Option.bind_some, Option.any_some, TypeRef.temporalKind?_eq_timed?,
      Temporal.writeForm_eq_asWritten]
    split <;> simp [*]

namespace Operation

/-- The data of a new relationship, if it is an object: the declared fields and the members. -/
def data? (operation : Operation) : Option (List (String × TypeRef) × List (String × Json)) :=
  match operation.arguments.find? (·.name = "data"),
    last? "data" (Parameters.suppliedEntries operation.arguments) with
  | some argument, some (.object members) => some (argument.type.fields, members)
  | _, _ => none

/-- The text that the first directive of a name has under an argument. -/
def directed? (operation : Operation) (directive argument : String) : Option String :=
  match operation.directives.find? (·.name = directive) with
  | some found =>
    match found.arguments.entries.find? (·.1 = argument) with
    | some (_, .string text) => some text
    | _ => none
  | none => none

/-- The statement that the schema supplies for the operation. -/
def statement? (operation : Operation) (settings : Settings) : Option String :=
  operation.directed? settings.customDirective settings.statementArgument

/-- The relationship and the types of its two ends. -/
def link? (operation : Operation) (settings : Settings) : Option Link := do
  let relationship ← operation.directed? settings.linkDirective "relationship"
  let source ← operation.directed? settings.linkDirective "from"
  let target ← operation.directed? settings.linkDirective "to"
  return ⟨relationship, source, target⟩

theorem directed?_eq_string? (operation : Operation) (directive argument : String) :
    operation.directed? directive argument =
      (operation.directive? directive).bind (·.string? argument) := by
  unfold directed? directive?
  cases operation.directives.find? (·.name = directive) with
  | none => rfl
  | some found =>
    simp only [Option.bind_some, Directive.string?, Bag.get?, Bag.find?_eq_map_find?]
    cases found.arguments.entries.find? (·.1 = argument) with
    | none => rfl
    | some entry => obtain ⟨name, value⟩ := entry; cases value <;> rfl

end Operation

theorem Plan.statement?_of_customStatement {settings : Settings} {operation : Operation}
    {statement : String} (h : customStatement settings operation = .ok statement) :
    operation.statement? settings = some statement := by
  rw [Operation.statement?, Operation.directed?_eq_string?]
  unfold customStatement at h
  split at h
  · rename_i found hfound
    rw [hfound, Except.ok.inj h]
  · cases h

theorem Link.string?_of_required {fieldName argument value : String} {directive : Directive}
    (h : required fieldName directive argument = .ok value) :
    directive.string? argument = some value := by
  unfold required at h
  split at h
  · rename_i found hfound
    rw [hfound, Except.ok.inj h]
  · cases h

theorem Link.link?_of_resolve {settings : Settings} {operation : Operation} {link : Link}
    (h : resolve operation settings.linkDirective = .ok link) :
    operation.link? settings = some link := by
  unfold resolve at h
  split at h
  · cases h
  · rename_i directive hdirective
    obtain ⟨relationship, hrelationship, h⟩ := exists_of_bind_eq_ok h
    obtain ⟨source, hsource, h⟩ := exists_of_bind_eq_ok h
    obtain ⟨target, htarget, h⟩ := exists_of_bind_eq_ok h
    obtain rfl := Except.ok.inj h
    simp [Operation.link?, Operation.directed?_eq_string?, hdirective,
      string?_of_required hrelationship, string?_of_required hsource, string?_of_required htarget]

/-- The comparisons of a key of the type with its value: with the formatted text of an object that has
one, and otherwise with each component that is not null. -/
def TypeRef.comparisons (type : TypeRef) (key : String) (parent : Option String) :
    Json → List Predicate
  | .object components =>
    match type.timed? with
    | some kind =>
      if (components.find? (·.1 = "formatted")).any (!·.2.isNull) then
        [.sameValue key kind parent]
      else (components.filter (!·.2.isNull)).map fun component =>
        .sameComponent key component.1 parent
    | none => []
  | _ => []

/-- A node that an operation is about, and the key that it is found by. -/
structure Wanted where
  node : String
  label : String
  key : String
  /-- The parameter that the value of the key is inside of. -/
  parent : Option String
  /-- The types that are declared for the key: one, unless its name is declared twice. -/
  types : List TypeRef
  value : Json

namespace Wanted

/-- The conditions on the key. -/
def comparisons (wanted : Wanted) : List Predicate :=
  wanted.types.flatMap fun type => type.comparisons wanted.key wanted.parent wanted.value

/-- The same node, if its key has the last of these values under its name. -/
def reading (wanted : Wanted) (entries : List (String × Json)) : Wanted :=
  { wanted with value := (last? wanted.key entries).getD wanted.value }

end Wanted

namespace Operation

/-- The node of an update or deletion: found by the first argument, which has a value. -/
def wanted? (operation : Operation) (parent : Option String) : Option Wanted :=
  match operation.arguments with
  | [] => none
  | key :: _ =>
    match key.value with
    | none | some .null => none
    | some value => some {
        node := operation.variableName
        label := operation.typeName
        key := key.name
        parent := parent
        types := (operation.arguments.filter (·.name = key.name)).map Argument.type
        value := value }

/-- One end of a relationship: found by the first field of its argument's type, which has a value in
the argument. -/
def wantedEnd? (operation : Operation) (argumentName typeName : String) : Option Wanted :=
  match operation.arguments.find? (·.name = argumentName) with
  | some ⟨_, type, some (.object members)⟩ =>
    match type.fields with
    | (key, _) :: _ =>
      match members.find? (·.1 = key) with
      | none | some (_, .null) => none
      | some (_, value) => some {
          node := Text.lowerFirst typeName ++ "_" ++ argumentName
          label := typeName
          key := key
          parent := some argumentName
          types := (type.fields.filter (·.1 = key)).map Prod.snd
          value := value }
    | [] => none
  | _ => none

end Operation

namespace Temporal

theorem declared_cons_none {name : String} {type : TypeRef} (rest : List Declaration)
    (h : type.temporalKind? = none) : declared ((name, type) :: rest) = declared rest := by
  simp [declared, h]

theorem declared_cons_some {name : String} {type : TypeRef} {kind : TemporalKind}
    (rest : List Declaration) (h : type.temporalKind? = some kind) :
    declared ((name, type) :: rest) = ⟨name, kind⟩ :: declared rest := by
  simp [declared, h]

theorem isSome_formatted? (components : List (String × Json)) :
    (formatted? components).isSome =
      (components.find? (·.1 = "formatted")).any (!·.2.isNull) := by
  rw [formatted?, formattedKey, Bag.find?_eq_map_find?]
  cases components.find? (·.1 = "formatted") with
  | none => rfl
  | some entry => cases hnull : entry.2.isNull <;> simp [hnull]

end Temporal

namespace Predicate

theorem ofTemporal_eq_comparisons (values : List (String × Json)) (parent : Option String)
    {name : String} {type : TypeRef} {kind : TemporalKind} (hkind : type.timed? = some kind) :
    ofTemporal values parent ⟨name, kind⟩ =
      (Bag.find? name values).elim [] (type.comparisons name parent) := by
  cases hvalue : Bag.find? name values with
  | none => simp [ofTemporal, hvalue]
  | some value =>
    cases value with
    | object components =>
      rw [ofTemporal_object parent hvalue, Temporal.isSome_formatted?, Option.elim_some,
        TypeRef.comparisons]
      simp only [hkind, Temporal.given, List.map_map]
      rfl
    | null | bool | number | string | array => simp [ofTemporal, hvalue, TypeRef.comparisons]

theorem comparisons_of_untimed {type : TypeRef} (h : type.timed? = none) (name : String)
    (parent : Option String) (value : Json) : type.comparisons name parent value = [] := by
  cases value <;> simp [TypeRef.comparisons, h]

/-- Every declaration is compared as its type says, with what is bound under its name. -/
theorem temporal_declared (values : List (String × Json)) (declarations : List Declaration)
    (parent : Option String) :
    temporal values (Temporal.declared declarations) parent =
      declarations.flatMap fun declaration =>
        (Bag.find? declaration.1 values).elim [] (declaration.2.comparisons declaration.1 parent) := by
  induction declarations with
  | nil => rfl
  | cons declaration rest ih =>
    obtain ⟨name, type⟩ := declaration
    rw [List.flatMap_cons, ← ih]
    have same := type.temporalKind?_eq_timed?
    cases hkind : type.timed? with
    | none =>
      rw [Temporal.declared_cons_none rest (same.trans hkind)]
      cases Bag.find? name values <;> simp [comparisons_of_untimed hkind]
    | some kind =>
      rw [Temporal.declared_cons_some rest (same.trans hkind),
        ← ofTemporal_eq_comparisons values parent hkind]
      rfl

/-- If only the key has a value, only the declarations of the key are compared. -/
theorem temporal_of_alone {values : List (String × Json)} {key : String} {value : Json}
    (hvalue : Bag.find? key values = some value)
    (hothers : ∀ other, other ≠ key → Bag.find? other values = none)
    (declarations : List Declaration) (parent : Option String) :
    temporal values (Temporal.declared declarations) parent =
      ((declarations.filter (·.1 = key)).map Prod.snd).flatMap
        fun type => type.comparisons key parent value := by
  rw [temporal_declared]
  induction declarations with
  | nil => rfl
  | cons declaration rest ih =>
    rw [List.flatMap_cons, ih, List.filter_cons]
    by_cases hname : declaration.1 = key
    · simp [hname, hvalue]
    · simp [hname, hothers declaration.1 hname]

/-- Declarations without a value can be left out. -/
theorem temporal_filter {values : List (String × Json)} {key : String} {parent : Option String}
    (declared : List Temporal.Declared)
    (hothers : ∀ other, other ≠ key → Bag.find? other values = none) :
    temporal values (declared.filter (·.name = key)) parent = temporal values declared parent := by
  induction declared with
  | nil => rfl
  | cons declaration rest ih =>
    unfold temporal at ih ⊢
    rw [List.filter_cons, List.flatMap_cons, ← ih]
    split
    · rw [List.flatMap_cons]
    · rename_i hname
      have nothing := hothers declaration.name (by simpa using hname)
      simp [ofTemporal, nothing]

end Predicate

/-- The conditions of a node query: on the internal id, on what is null, on temporal values and on
membership in lists. -/
def Operation.conditions (operation : Operation) : List Predicate :=
  let entries := Parameters.valueEntries operation.arguments
  (if operation.internalId.isSome then [.internalId] else []) ++
    (Bag.names (Parameters.nullEntries operation.arguments)).map .isNull ++
    operation.arguments.flatMap (fun argument =>
      (last? argument.name entries).elim [] (argument.type.comparisons argument.name none)) ++
    operation.listNames.map .memberOf

theorem Filter.predicates_eq_conditions (operation : Operation) :
    ((ofArguments operation.arguments).conditions operation.variableName
      operation.internalId.isSome (Temporal.declared operation.declarations)).predicates =
      operation.conditions := by
  have compared (entries : List (String × Json)) (name : String) :
      Bag.find? name (Bag.ofList entries).entries = last? name entries :=
    Bag.get?_ofList_eq_last? entries name
  rw [predicates_conditions, listKeys_eq_listNames, Predicate.temporal_declared, ofArguments_eq,
    Bag.keys_ofList]
  simp only [compared, Operation.declarations, List.flatMap_map, Argument.declaration]
  rfl

namespace Parameters

/-- The entry of a bound name stands alone. -/
theorem entries_split_entry {values : Bag} {key : String} {value : Json}
    (h : values.get? key = some value) : (split values key).1.entries = [(key, value)] :=
  filter_eq_singleton values.nodup (Bag.mem_of_get? h)

theorem keys_split_others (arguments : List Argument) (key : String) :
    (split (supplied arguments) key).2.keys =
      (Bag.names (suppliedEntries arguments)).filter (· ≠ key) := by
  rw [split, supplied_eq_ofList, Bag.keys_filter_ofList]
  refine List.filter_congr fun name hname => ?_
  rw [Bag.names, List.mem_eraseDups] at hname
  have found := Bag.get?_ofList_of_mem hname .null
  rw [Bag.get?_ofList_eq_last?] at found
  rw [found, Option.any_some]

theorem mem_names_of_keyArgument {operation : Operation} {key : Argument}
    (hkey : Plan.keyArgument operation = .ok key) :
    key.name ∈ (suppliedEntries operation.arguments).map Prod.fst := by
  obtain ⟨rest, value, harguments, hvalue, -⟩ := Plan.keyArgument_eq_ok hkey
  simp [suppliedEntries, harguments, hvalue]

end Parameters

namespace Plan

variable {operation : Operation}

theorem get?_supplied_reading {key : Argument} (hkey : keyArgument operation = .ok key)
    (value : Json) :
    (Parameters.supplied operation.arguments).get? key.name =
      some ((last? key.name (Parameters.suppliedEntries operation.arguments)).getD value) := by
  rw [Parameters.supplied_eq_ofList]
  exact Bag.get?_ofList_of_mem (Parameters.mem_names_of_keyArgument hkey) value

theorem get?_ofMutation_reading {key : Argument} (hkey : keyArgument operation = .ok key)
    (value : Json) :
    (Parameters.ofMutation operation).get? key.name =
      some ((last? key.name (Parameters.suppliedEntries operation.arguments ++
        operation.pageEntries)).getD value) := by
  rw [Parameters.ofMutation_eq_ofList]
  refine Bag.get?_ofList_of_mem ?_ value
  rw [List.map_append]
  exact List.mem_append_left _ (Parameters.mem_names_of_keyArgument hkey)

/-- The node of an update or deletion is the one that is wanted. -/
theorem wanted?_of_keyArgument {key : Argument} (h : keyArgument operation = .ok key)
    (parent : Option String) :
    ∃ value, key.value = some value ∧ operation.wanted? parent =
      some ⟨operation.variableName, operation.typeName, key.name, parent,
        (operation.arguments.filter (·.name = key.name)).map Argument.type, value⟩ := by
  obtain ⟨rest, value, harguments, hvalue, hnull⟩ := keyArgument_eq_ok h
  refine ⟨value, hvalue, ?_⟩
  unfold Operation.wanted?
  simp only [harguments, hvalue]
  cases value <;> first | rfl | cases hnull

/-- It is compared by what is bound under the name of its key. -/
theorem temporal_split (operation : Operation) {values : Bag} {key : String} {value : Json}
    (hvalue : values.get? key = some value) (parent : Option String) :
    Predicate.temporal (Parameters.split values key).1.entries
        (Temporal.declared operation.declarations) parent =
      ((operation.arguments.filter (·.name = key)).map Argument.type).flatMap
        fun type => type.comparisons key parent value := by
  rw [Predicate.temporal_of_alone (Parameters.get?_split_own hvalue)
    fun other => Parameters.get?_split_other values]
  simp only [Operation.declarations, List.filter_map, List.map_map]
  rfl

/-- The end of a relationship, as a node that is wanted. -/
def Endpoint.wanted (e : Endpoint) (types : List TypeRef) (value : Json) : Wanted :=
  ⟨e.node, e.label, e.key, some e.argument, types, value⟩

/-- So are the ends of a relationship. -/
theorem wantedEnd?_of_endpoint {argumentName typeName : String} {e : Endpoint}
    (h : endpoint operation argumentName typeName = .ok e) :
    ∃ types value, operation.wantedEnd? argumentName typeName = some (e.wanted types value) ∧
      e.argument = argumentName ∧
      Predicate.temporal (e.values.filter (·.1 = e.key)) (e.temporal.filter (·.name = e.key))
        (some e.argument) = (e.wanted types value).comparisons := by
  obtain ⟨rfl, argument, type, value, given⟩ := endpoint_eq_ok h
  have own : Bag.find? e.key (e.values.filter (·.1 = e.key)) = some value := by
    rw [Bag.find?_filter_key (fun name => name = e.key)]
    simpa using given.supplied
  have others (other : String) (hother : other ≠ e.key) :
      Bag.find? other (e.values.filter (·.1 = e.key)) = none := by
    rw [Bag.find?_filter_key (fun name => name = e.key)]
    simp [hother]
  refine ⟨(argument.type.fields.filter (·.1 = e.key)).map Prod.snd, value, ?_, rfl, ?_⟩
  · obtain ⟨name, argumentType, argumentValue⟩ := argument
    obtain rfl : argumentValue = some (.object e.values) := given.object
    have found : operation.arguments.find? (·.name = e.argument) =
        some ⟨name, argumentType, some (.object e.values)⟩ := given.found
    obtain ⟨rest, hfields⟩ : ∃ rest, argumentType.fields = (e.key, type) :: rest :=
      List.head?_eq_some_iff.mp given.key
    have supplied := given.supplied
    rw [Bag.find?_eq_map_find?] at supplied
    obtain ⟨⟨member, memberValue⟩, hmember, rfl⟩ := Option.map_eq_some_iff.mp supplied
    have hnull := given.nonNull
    unfold Operation.wantedEnd? Endpoint.wanted
    simp only [found, hfields, hmember, given.node, given.label]
    cases memberValue with
    | null => cases hnull
    | bool | number | string | array | object => rfl
  · rw [given.temporal, Predicate.temporal_filter _ others, Predicate.temporal_of_alone own others]
    rfl

/-- The data of a relationship is not hidden by pagination. -/
theorem relationshipData_eq (operation : Operation) :
    relationshipData operation (Parameters.ofMutation operation) =
      match operation.data? with
      | some (fields, members) =>
        (Assignment.declared fields (members.map Prod.fst),
          (Parameters.ofMutation operation).insert "data"
            (.object (Bag.mapEntries (Assignment.written fields) members)))
      | none => ([], Parameters.ofMutation operation) := by
  have bound : (Parameters.ofMutation operation).get? Parameters.dataKey =
      last? "data" (Parameters.suppliedEntries operation.arguments) := by
    rw [Parameters.ofMutation, Parameters.get?_insertPagination (by decide) (by decide),
      Parameters.supplied_eq_ofList, Bag.get?_ofList_eq_last?]
    rfl
  have found : operation.argument? Parameters.dataKey =
      operation.arguments.find? (·.name = "data") := rfl
  unfold relationshipData Operation.data?
  rw [bound, found]
  simp only [Parameters.dataKey, Assignment.all_eq_declared, Assignment.stored_eq_written]
  cases operation.arguments.find? (·.name = "data") with
  | none => rfl
  | some argument =>
    cases last? "data" (Parameters.suppliedEntries operation.arguments) with
    | none => rfl
    | some value => cases value <;> rfl

end Plan

end CypherSynthesis
