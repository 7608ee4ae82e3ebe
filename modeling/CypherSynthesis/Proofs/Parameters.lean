import CypherSynthesis.Proofs.Bag
import CypherSynthesis.Proofs.Plans

/-!
What is bound under which name: supplied arguments under their own names, pagination and the
request-wide map under reserved ones, and the arguments of a creation or update inside one map.
-/

namespace CypherSynthesis

namespace Parameters

/-- The names of parameters that do not come from arguments. -/
def reserved : List String :=
  [firstKey, offsetKey, Predicate.internalIdKey, globalsKey]

theorem not_mem_reserved {key : String} :
    key ∉ reserved ↔ key ≠ firstKey ∧ key ≠ offsetKey ∧ key ≠ Predicate.internalIdKey ∧
      key ≠ globalsKey := by
  simp [reserved]

theorem get?_insertPagination {bag : Bag} {operation : Operation} {key : String}
    (hfirst : key ≠ firstKey) (hoffset : key ≠ offsetKey) :
    (insertPagination bag operation).get? key = bag.get? key := by
  unfold insertPagination
  cases operation.first <;> cases operation.offset <;> simp [hfirst, hoffset]

theorem isSome_get?_first {bag : Bag} {operation : Operation}
    (h : operation.first.isSome = true) :
    ((insertPagination bag operation).get? firstKey).isSome = true := by
  obtain ⟨first, hfirst⟩ := Option.isSome_iff_exists.mp h
  unfold insertPagination
  cases operation.offset <;> simp [hfirst, firstKey, offsetKey]

theorem isSome_get?_offset {bag : Bag} {operation : Operation}
    (h : operation.offset.isSome = true) :
    ((insertPagination bag operation).get? offsetKey).isSome = true := by
  obtain ⟨offset, hoffset⟩ := Option.isSome_iff_exists.mp h
  simp [insertPagination, hoffset]

theorem get?_finish {bag : Bag} {globals : Option Bag} {key : String} (h : key ≠ globalsKey) :
    (finish bag .empty globals).get? key = bag.get? key := by
  cases globals <;> simp [finish, Bag.insertAll, Bag.empty, h]

theorem isSome_get?_finish {bag : Bag} (globals : Option Bag) {key : String}
    (h : (bag.get? key).isSome = true) :
    ((finish bag .empty globals).get? key).isSome = true := by
  cases globals with
  | none => exact h
  | some globals =>
    simp only [finish, Bag.insertAll, Bag.empty, List.foldl_nil, Bag.get?_insert]
    split
    · rfl
    · exact h

theorem isSome_get?_globals {bag : Bag} {globals : Option Bag} (h : globals.isSome = true) :
    ((finish bag .empty globals).get? globalsKey).isSome = true := by
  obtain ⟨globals, rfl⟩ := Option.isSome_iff_exists.mp h
  simp [finish]

theorem get?_nested (operation : Operation) (arguments : Bag) :
    (nested operation arguments).get? paramsKey = some arguments.toJson := by
  rw [nested, get?_insertPagination (by decide) (by decide)]
  simp

theorem get?_split_entry (values : Bag) (key k : String) :
    (split values key).1.get? k = if k = key then values.get? k else none := by
  simpa [split] using Bag.get?_filter_key (fun k => k = key) values k

theorem get?_split_own {values : Bag} {key : String} {value : Json}
    (h : values.get? key = some value) : (split values key).1.get? key = some value := by
  simpa [get?_split_entry] using h

theorem get?_split_other (values : Bag) {key k : String} (h : k ≠ key) :
    (split values key).1.get? k = none := by
  simp [get?_split_entry, h]

/-- The supplied values of a list of arguments, with their names. -/
def suppliedEntries (arguments : List Argument) : List (String × Json) :=
  arguments.filterMap fun argument => argument.value.map (argument.name, ·)

theorem suppliedEntries_sublist (arguments : List Argument) :
    ((suppliedEntries arguments).map Prod.fst).Sublist (arguments.map Argument.name) := by
  induction arguments with
  | nil => exact .slnil
  | cons argument rest ih =>
    unfold suppliedEntries at ih ⊢
    cases hvalue : argument.value with
    | none => simpa [hvalue] using ih.cons argument.name
    | some value => simpa [hvalue] using ih

theorem nodup_filter_suppliedEntries {arguments : List Argument}
    (distinct : (arguments.map Argument.name).Nodup) (keep : String × Json → Bool) :
    (((suppliedEntries arguments).filter keep).map Prod.fst).Nodup :=
  ((List.filter_sublist.map Prod.fst).trans (suppliedEntries_sublist arguments)).nodup distinct

/-- What passes a test among the supplied entries, by the arguments that it comes from. -/
theorem names_filter_suppliedEntries {keep : String → Json → Bool} {takes : Argument → Bool}
    (arguments : List Argument)
    (h : ∀ argument ∈ arguments, takes argument = argument.value.any (keep argument.name)) :
    ((suppliedEntries arguments).filter fun entry => keep entry.1 entry.2).map Prod.fst =
      (arguments.filter takes).map Argument.name := by
  unfold suppliedEntries
  induction arguments with
  | nil => rfl
  | cons argument rest ih =>
    have first := h argument List.mem_cons_self
    have tail := ih fun other hother => h other (List.mem_cons_of_mem argument hother)
    cases hvalue : argument.value with
    | none =>
      rw [hvalue, Option.any_none] at first
      simpa [hvalue, first] using tail
    | some value =>
      rw [hvalue, Option.any_some] at first
      cases hkeep : keep argument.name value <;> simpa [hvalue, first, hkeep] using tail

/-- With different names, what is supplied under a name is the value of the argument of that name. -/
theorem get?_supplied {arguments : List Argument}
    (distinct : (arguments.map Argument.name).Nodup) (key : String) :
    (supplied arguments).get? key =
      (arguments.find? (·.name = key)).bind (·.value) := by
  have nodup := (suppliedEntries_sublist arguments).nodup distinct
  refine (Bag.get?_ofList nodup key).trans ?_
  clear nodup
  induction arguments with
  | nil => rfl
  | cons argument rest ih =>
    obtain ⟨hnew, hrest⟩ := List.nodup_cons.mp distinct
    have tail := ih hrest
    by_cases hname : argument.name = key
    · have absent : Bag.find? key (suppliedEntries rest) = none :=
        Bag.find?_eq_none fun hmem => hnew (hname ▸ (suppliedEntries_sublist rest).subset hmem)
      unfold suppliedEntries at absent ⊢
      cases hvalue : argument.value <;> simp [hvalue, hname, absent, Bag.find?]
    · unfold suppliedEntries at tail ⊢
      cases hvalue : argument.value <;> simp [hvalue, hname, tail, Bag.find?]

/-- Which keys there are with a generated one depends on the keys alone. -/
theorem keys_created {settings : Settings} {operation operation' : Operation}
    (hname : keyToGenerate? operation.arguments settings.idType (supplied operation.arguments) =
      keyToGenerate? operation'.arguments settings.idType (supplied operation'.arguments))
    (hkeys : (supplied operation.arguments).keys = (supplied operation'.arguments).keys)
    (fresh fresh' : Json) :
    (created settings fresh operation).keys = (created settings fresh' operation').keys := by
  unfold created
  rw [hname]
  split
  · simp only [Bag.keys_insert, hkeys]
  · exact hkeys

end Parameters

namespace Filter

theorem mem_keys_foldl {arguments : List Argument} {filter : Filter} {key : String}
    (h : key ∈ (arguments.foldl add filter).values.keys) :
    key ∈ filter.values.keys ∨
      ∃ argument ∈ arguments, argument.isSupplied = true ∧ argument.name = key := by
  induction arguments generalizing filter with
  | nil => exact .inl h
  | cons argument rest ih =>
    rcases ih h with h | ⟨a, ha, hsupplied, hname⟩
    · unfold add at h
      split at h
      · exact .inl h
      · exact .inl h
      · rename_i value _ hvalue
        rcases Bag.mem_keys_insert.mp h with rfl | h
        · exact .inr ⟨argument, by simp, by simp [Argument.isSupplied, hvalue], rfl⟩
        · exact .inl h
    · exact .inr ⟨a, by simp [ha], hsupplied, hname⟩

theorem mem_keys_values {arguments : List Argument} {key : String}
    (h : key ∈ (ofArguments arguments).values.keys) :
    ∃ argument ∈ arguments, argument.isSupplied = true ∧ argument.name = key := by
  rcases mem_keys_foldl h with h | h
  · cases h
  · exact h

end Filter

/-- Assignments depend on the types of the entries' keys only. -/
theorem Assignment.all_congr {declarations declarations' : List Declaration} {names : List String}
    (h : ∀ key ∈ names, typeOf? declarations key = typeOf? declarations' key) :
    all declarations names = all declarations' names := by
  unfold all
  induction names with
  | nil => rfl
  | cons key rest ih =>
    simp only [List.filterMap_cons, h key List.mem_cons_self,
      ih fun k hk => h k (List.mem_cons_of_mem key hk)]

theorem Assignment.stored_congr {declarations declarations' : List Declaration} {key : String}
    (h : typeOf? declarations key = typeOf? declarations' key) :
    stored declarations key = stored declarations' key := by
  funext value
  simp only [stored, h]

theorem Filter.inlineKeys_congr {filter : Filter} {temporal temporal' : List Temporal.Declared}
    (h : ∀ key ∈ filter.values.keys, temporal.any (·.name = key) = temporal'.any (·.name = key)) :
    filter.inlineKeys temporal = filter.inlineKeys temporal' :=
  congrArg Bag.keys (Bag.filter_congr fun key hkey => by simp only [h key hkey])

/-- The key of an operation on a node is supplied. -/
theorem Plan.get?_supplied_key {operation : Operation} {key : Argument}
    (distinct : (operation.arguments.map Argument.name).Nodup)
    (hkey : keyArgument operation = .ok key) :
    (Parameters.supplied operation.arguments).get? key.name = key.value := by
  obtain ⟨rest, value, harguments, hvalue, -⟩ := keyArgument_eq_ok hkey
  rw [Parameters.get?_supplied distinct, harguments]
  simp

end CypherSynthesis
