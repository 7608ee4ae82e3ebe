import CypherSynthesis.Proofs.FilterCoverage

/-!
The two sides of a filter. Queries collect their arguments in two maps, nulls apart from other values;
mutations collect them in one. Main statement: if the arguments have different names, the two maps share
no name, have every supplied argument in the order of its declaration, and are what the one map holds of
nulls and of other values.
-/

namespace CypherSynthesis

/-- The argument's name and value, if it has a value that passes the test. -/
def Argument.entry? (keep : Json → Bool) (argument : Argument) : Option (String × Json) :=
  (argument.value.filter keep).map (argument.name, ·)

namespace Parameters

/-- What passes a test among the supplied entries is an entry of its own argument. -/
theorem filter_suppliedEntries (keep : Json → Bool) (arguments : List Argument) :
    ((suppliedEntries arguments).filter fun entry => keep entry.2) =
      arguments.filterMap (Argument.entry? keep) := by
  have entry (argument : Argument) :
      (argument.value.map (argument.name, ·)).filter (fun entry => keep entry.2) =
        argument.entry? keep := by
    cases hvalue : argument.value with
    | none => simp [Argument.entry?, hvalue]
    | some value => cases hkeep : keep value <;> simp [Argument.entry?, hvalue, Option.filter, hkeep]
  rw [suppliedEntries, List.filter_filterMap]
  exact congrArg (arguments.filterMap ·) (funext entry)

variable {arguments : List Argument} (distinct : (arguments.map Argument.name).Nodup)

include distinct

/-- With different names no argument takes the place of another. -/
theorem entries_ofList_filter (keep : Json → Bool) :
    (Bag.ofList ((suppliedEntries arguments).filter fun entry => keep entry.2)).entries =
      arguments.filterMap (Argument.entry? keep) := by
  rw [Bag.ofList_of_nodup (nodup_filter_suppliedEntries distinct _)]
  exact filter_suppliedEntries keep arguments

theorem entries_filter_supplied (keep : Json → Bool) :
    ((supplied arguments).filter (fun _ value => keep value)).entries =
      arguments.filterMap (Argument.entry? keep) := by
  have nodup := (suppliedEntries_sublist arguments).nodup distinct
  rw [← filter_suppliedEntries]
  exact congrArg (fun bag => (bag.filter fun _ value => keep value).entries)
    (Bag.ofList_of_nodup nodup)

end Parameters

theorem Argument.mem_names_entries {keep : Json → Bool} {arguments : List Argument} {key : String} :
    key ∈ (arguments.filterMap (Argument.entry? keep)).map Prod.fst ↔
      ∃ argument ∈ arguments, argument.name = key ∧ argument.value.any keep = true := by
  have filtered : (arguments.filterMap (Argument.entry? keep)).map Prod.fst =
      (arguments.filter (·.value.any keep)).map Argument.name := by
    rw [← Parameters.filter_suppliedEntries]
    exact @Parameters.names_filter_suppliedEntries (fun _ => keep) (·.value.any keep) arguments
      fun _ _ => rfl
  rw [filtered, List.mem_map]
  constructor
  · rintro ⟨argument, hmem, hname⟩
    obtain ⟨hargument, hkeep⟩ := List.mem_filter.mp hmem
    exact ⟨argument, hargument, hname, hkeep⟩
  · rintro ⟨argument, hargument, hname, hkeep⟩
    exact ⟨argument, List.mem_filter.mpr ⟨hargument, hkeep⟩, hname⟩

namespace Filter

section Partition

variable {arguments : List Argument} (distinct : (arguments.map Argument.name).Nodup)

include distinct

theorem entries_nulls : (ofArguments arguments).nulls.entries =
    arguments.filterMap (Argument.entry? Json.isNull) := by
  rw [ofArguments_eq]
  exact Parameters.entries_ofList_filter distinct _

theorem entries_values : (ofArguments arguments).values.entries =
    arguments.filterMap (Argument.entry? (!·.isNull)) := by
  rw [ofArguments_eq]
  exact Parameters.entries_ofList_filter distinct (!·.isNull)

/-- A name on both sides would belong to one argument with two values. -/
theorem not_mem_values {key : String} (h : key ∈ (ofArguments arguments).nulls.keys) :
    key ∉ (ofArguments arguments).values.keys := by
  intro hvalues
  rw [Bag.keys, entries_nulls distinct] at h
  rw [Bag.keys, entries_values distinct] at hvalues
  obtain ⟨argument, hmem, rfl, hnull⟩ := Argument.mem_names_entries.mp h
  obtain ⟨other, hother, hname, hvalue⟩ := Argument.mem_names_entries.mp hvalues
  obtain rfl := Argument.eq_of_name_eq distinct hother hmem hname
  cases hargument : other.value with
  | none => simp [hargument] at hnull
  | some value => simp_all

theorem mem_keys_iff (key : String) :
    key ∈ (ofArguments arguments).nulls.keys ∨ key ∈ (ofArguments arguments).values.keys ↔
      ∃ argument ∈ arguments, argument.name = key ∧ argument.isSupplied = true := by
  rw [Bag.keys, Bag.keys, entries_nulls distinct, entries_values distinct]
  simp only [Argument.mem_names_entries]
  constructor
  · rintro (⟨argument, hmem, hname, hvalue⟩ | ⟨argument, hmem, hname, hvalue⟩)
    · exact ⟨argument, hmem, hname, Option.isSome_of_any hvalue⟩
    · exact ⟨argument, hmem, hname, Option.isSome_of_any hvalue⟩
  · rintro ⟨argument, hmem, hname, hsupplied⟩
    obtain ⟨value, hvalue⟩ := Option.isSome_iff_exists.mp hsupplied
    cases hnull : value.isNull with
    | true => exact .inl ⟨argument, hmem, hname, by simp [hvalue, hnull]⟩
    | false => exact .inr ⟨argument, hmem, hname, by simp [hvalue, hnull]⟩

/-- A list is not null, so it is found among the values. -/
theorem filter_isArray_values : (ofArguments arguments).values.entries.filter (·.2.isArray) =
    arguments.filterMap (Argument.entry? Json.isArray) := by
  rw [entries_values distinct, ← Parameters.filter_suppliedEntries, List.filter_filter,
    ← Parameters.filter_suppliedEntries]
  apply List.filter_congr
  rintro ⟨_, value⟩ -
  cases value <;> rfl

theorem isEmpty_iff :
    (ofArguments arguments).isEmpty = true ↔ ∀ argument ∈ arguments, argument.value = none := by
  have entries (argument : Argument) :
      (argument.entry? Json.isNull = none ∧ argument.entry? (!·.isNull) = none) ↔
        argument.value = none := by
    cases hvalue : argument.value with
    | none => simp [Argument.entry?, hvalue]
    | some value => cases hnull : value.isNull <;> simp [Argument.entry?, hvalue, Option.filter, hnull]
  rw [isEmpty, Bag.isEmpty, Bag.isEmpty, entries_nulls distinct, entries_values distinct]
  simp only [Bool.and_eq_true, List.isEmpty_iff, List.filterMap_eq_nil_iff, ← forall_and,
    ← entries]

/-- With different names the nulls and the other values share no name and are all that is supplied,
each side in the order of declaration. They are what the parameters of a mutation hold of nulls and of
other values, and the lists are found among the values in their order. -/
theorem partition_exact :
    let filter := ofArguments arguments
    filter.nulls.entries = arguments.filterMap (Argument.entry? Json.isNull) ∧
    filter.values.entries = arguments.filterMap (Argument.entry? (!·.isNull)) ∧
    (∀ key ∈ filter.nulls.keys, key ∉ filter.values.keys) ∧
    (∀ key, key ∈ filter.nulls.keys ∨ key ∈ filter.values.keys ↔
      ∃ argument ∈ arguments, argument.name = key ∧ argument.isSupplied = true) ∧
    filter.values.entries.filter (·.2.isArray) = arguments.filterMap (Argument.entry? Json.isArray) ∧
    filter.listKeys = (arguments.filterMap (Argument.entry? Json.isArray)).map Prod.fst ∧
    (filter.isEmpty = true ↔ ∀ argument ∈ arguments, argument.value = none) ∧
    filter.values = (Parameters.supplied arguments).filter (fun _ value => !value.isNull) ∧
    filter.nulls = (Parameters.supplied arguments).filter (fun _ value => value.isNull) := by
  intro filter
  have nulls := entries_nulls distinct
  have values := entries_values distinct
  have lists := filter_isArray_values distinct
  refine ⟨nulls, values, fun _ => not_mem_values distinct,
    mem_keys_iff distinct, lists, congrArg (List.map Prod.fst) lists, isEmpty_iff distinct, ?_, ?_⟩
  · exact Bag.ext (values.trans (Parameters.entries_filter_supplied distinct (!·.isNull)).symm)
  · exact Bag.ext (nulls.trans (Parameters.entries_filter_supplied distinct Json.isNull).symm)

end Partition

theorem partition_exact_sought :
    let arguments : List Argument :=
      [⟨"title", .named "String", some (.string "Heat")⟩, ⟨"tagline", .named "String", some .null⟩,
       ⟨"year", .listOf "Int", some (.array [.null])⟩, ⟨"genre", .named "String", none⟩]
    (arguments.map Argument.name).Nodup ∧
      (ofArguments arguments).nulls.entries = [("tagline", .null)] ∧
      (ofArguments arguments).values.entries =
        [("title", .string "Heat"), ("year", .array [.null])] ∧
      (ofArguments arguments).listKeys = ["year"] := by
  intro arguments
  have distinct : (arguments.map Argument.name).Nodup := by decide
  obtain ⟨nulls, values, -, -, -, lists, -⟩ := partition_exact distinct
  exact ⟨distinct, nulls, values, lists⟩

end Filter
end CypherSynthesis
