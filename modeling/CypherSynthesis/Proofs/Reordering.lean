import CypherSynthesis.Proofs.FilterCoverage
import Mathlib.Data.List.Nodup
import Mathlib.Data.List.Perm.Basic

/-!
Arguments in another order. With different names the order of arguments is the order of the maps made
of them and of their declarations, and nothing is found differently: whatever is looked up by name,
in a map or among declarations, is the same.
-/

namespace CypherSynthesis

namespace Bag

/-- The maps have the same entries, in any order. -/
structure Same (a b : Bag) : Prop where
  perm : a.entries.Perm b.entries

namespace Same

variable {a b : Bag}

theorem keys (h : a.Same b) : a.keys.Perm b.keys :=
  h.perm.map Prod.fst

theorem get?_eq (h : a.Same b) (key : String) : a.get? key = b.get? key := by
  refine Option.ext fun value => ?_
  rw [← mem_entries_iff, ← mem_entries_iff, h.perm.mem_iff]

/-- A map is what is found in it. -/
theorem of_get? (h : ∀ key, a.get? key = b.get? key) : a.Same b := by
  refine ⟨(List.perm_ext_iff_of_nodup (List.Nodup.of_map _ a.nodup)
    (List.Nodup.of_map _ b.nodup)).mpr ?_⟩
  intro (key, value)
  rw [mem_entries_iff, mem_entries_iff, h]

theorem ofList {entries entries' : List (String × Json)} (nodup : (entries.map Prod.fst).Nodup)
    (perm : entries.Perm entries') : (ofList entries).Same (ofList entries') := by
  rw [ofList_of_nodup nodup, ofList_of_nodup ((perm.map Prod.fst).nodup_iff.mp nodup)]
  exact ⟨perm⟩

theorem insert (h : a.Same b) (key : String) (value : Json) :
    (a.insert key value).Same (b.insert key value) := by
  refine of_get? fun k => ?_
  rw [get?_insert, get?_insert, h.get?_eq]

theorem insertAll (h : a.Same b) (entries : List (String × Json)) :
    (a.insertAll entries).Same (b.insertAll entries) := by
  induction entries generalizing a b with
  | nil => exact h
  | cons entry rest ih => exact ih (h.insert entry.1 entry.2)

theorem filter (h : a.Same b) (keep : String → Json → Bool) :
    (a.filter keep).Same (b.filter keep) :=
  ⟨h.perm.filter _⟩

theorem mapValues (h : a.Same b) (f : String → Json → Json) :
    (a.mapValues f).Same (b.mapValues f) :=
  ⟨h.perm.map _⟩

end Same

end Bag

/-- The values are equal, or objects with the same members in any order. -/
inductive Json.Reorders : Json → Json → Prop where
  | refl (value : Json) : Reorders value value
  | object {a b : Bag} (same : a.Same b) : Reorders a.toJson b.toJson

namespace Bag

open Parameters (paramsKey)

/-- Parameters that are equal as maps. The arguments of a creation or update are a map of their own,
inside one parameter, and that one is equal as a map too. -/
structure Agrees (a b : Bag) : Prop where
  get?_eq : ∀ key ≠ paramsKey, a.get? key = b.get? key
  params : Option.Rel Json.Reorders (a.get? paramsKey) (b.get? paramsKey)

theorem rel_reorders_refl (value : Option Json) : Option.Rel Json.Reorders value value := by
  cases value with
  | none => exact .none
  | some value => exact .some (.refl value)

theorem Same.agrees {a b : Bag} (h : a.Same b) : a.Agrees b where
  get?_eq key _ := h.get?_eq key
  params := h.get?_eq paramsKey ▸ rel_reorders_refl _

/-- The map of the arguments as the only parameter. -/
theorem Same.agrees_params {a b : Bag} (h : a.Same b) :
    (empty.insert paramsKey a.toJson).Agrees (empty.insert paramsKey b.toJson) where
  get?_eq key hkey := by simp [hkey]
  params := by simpa using Option.Rel.some (Json.Reorders.object h)

namespace Agrees

variable {a b : Bag}

theorem insert (h : a.Agrees b) (key : String) (value : Json) :
    (a.insert key value).Agrees (b.insert key value) where
  get?_eq k hk := by rw [get?_insert, get?_insert, h.get?_eq k hk]
  params := by
    rw [get?_insert, get?_insert]
    split
    · exact rel_reorders_refl _
    · exact h.params

theorem insertAll (h : a.Agrees b) (entries : List (String × Json)) :
    (a.insertAll entries).Agrees (b.insertAll entries) := by
  induction entries generalizing a b with
  | nil => exact h
  | cons entry rest ih => exact ih (h.insert entry.1 entry.2)

end Agrees

end Bag

namespace Parameters

theorem finish_agrees {a b : Bag} (h : a.Agrees b) (selection : Bag) (globals : Option Bag) :
    (finish a selection globals).Agrees (finish b selection globals) := by
  have selected := h.insertAll selection.entries
  cases globals with
  | none => exact selected
  | some globals => exact selected.insert globalsKey globals.toJson

end Parameters

theorem Argument.find?_eq_some_iff {arguments : List Argument}
    (distinct : (arguments.map Argument.name).Nodup) {key : String} {a : Argument} :
    arguments.find? (·.name = key) = some a ↔ a ∈ arguments ∧ a.name = key := by
  constructor
  · intro h
    exact ⟨List.mem_of_find?_eq_some h, by simpa using List.find?_some h⟩
  · rintro ⟨hmem, rfl⟩
    have found : (arguments.find? (·.name = a.name)).isSome = true :=
      List.find?_isSome.mpr ⟨a, hmem, by simp⟩
    obtain ⟨b, hb⟩ := Option.isSome_iff_exists.mp found
    have same : b.name = a.name := by simpa using List.find?_some hb
    rw [hb, Argument.eq_of_name_eq distinct (List.mem_of_find?_eq_some hb) hmem same]

section Arguments

variable {arguments arguments' : List Argument} (perm : arguments.Perm arguments')
  (distinct : (arguments.map Argument.name).Nodup)

include perm distinct

theorem Argument.find?_of_perm (key : String) :
    arguments.find? (·.name = key) = arguments'.find? (·.name = key) := by
  refine Option.ext fun a => ?_
  rw [find?_eq_some_iff distinct, find?_eq_some_iff ((perm.map _).nodup_iff.mp distinct),
    perm.mem_iff]

theorem Assignment.typeOf?_of_perm (key : String) :
    typeOf? (arguments.map Argument.declaration) key =
      typeOf? (arguments'.map Argument.declaration) key := by
  have argument := Argument.find?_of_perm perm distinct key
  simp only [typeOf?, List.find?_map, Argument.declaration, Function.comp_def, Option.map_map]
  exact congrArg (Option.map Argument.type) argument

theorem Parameters.supplied_same : (supplied arguments).Same (supplied arguments') :=
  .ofList ((suppliedEntries_sublist arguments).nodup distinct) (perm.filterMap _)

/-- Some of the supplied values, chosen one by one. -/
theorem Parameters.chosen_same (keep : String × Json → Bool) :
    (Bag.ofList ((suppliedEntries arguments).filter keep)).Same
      (Bag.ofList ((suppliedEntries arguments').filter keep)) := by
  refine .ofList ?_ ((perm.filterMap _).filter keep)
  exact nodup_filter_suppliedEntries distinct keep

theorem Filter.values_same : (ofArguments arguments).values.Same (ofArguments arguments').values := by
  rw [ofArguments_eq, ofArguments_eq]
  exact Parameters.chosen_same perm distinct _

theorem Filter.nulls_same : (ofArguments arguments).nulls.Same (ofArguments arguments').nulls := by
  rw [ofArguments_eq, ofArguments_eq]
  exact Parameters.chosen_same perm distinct _

omit distinct in
theorem Temporal.declared_perm :
    (declared (arguments.map Argument.declaration)).Perm
      (declared (arguments'.map Argument.declaration)) :=
  (perm.map _).filterMap _

end Arguments

theorem Predicate.temporal_perm {values values' : Bag} (same : values.Same values')
    {declared declared' : List Temporal.Declared} (perm : declared.Perm declared')
    (parent : Option String) :
    (temporal values.entries declared parent).Perm (temporal values'.entries declared' parent) := by
  refine perm.flatMap fun d _ => .of_eq ?_
  have found := same.get?_eq d.name
  simp only [Bag.get?] at found
  simp only [ofTemporal, found]

/-- The assignments of the same entries, by declarations that give the same types. -/
theorem Assignment.all_perm {values values' : Bag} (same : values.Same values')
    {declarations declarations' : List Declaration}
    (types : ∀ key, typeOf? declarations key = typeOf? declarations' key) :
    (all declarations values.keys).Perm (all declarations' values'.keys) := by
  rw [all_congr fun key _ => types key]
  exact same.keys.filterMap _

theorem Assignment.stored_same {values values' : Bag} (same : values.Same values')
    {declarations declarations' : List Declaration}
    (types : ∀ key, typeOf? declarations key = typeOf? declarations' key) :
    (values.mapValues (stored declarations)).Same (values'.mapValues (stored declarations')) := by
  rw [Bag.mapValues_congr fun key _ => stored_congr (types key)]
  exact same.mapValues _

/-- What is matched inside the pattern. -/
theorem Filter.inlineKeys_perm {filter filter' : Filter} (same : filter.values.Same filter'.values)
    {temporal temporal' : List Temporal.Declared} (perm : temporal.Perm temporal') :
    (filter.inlineKeys temporal).Perm (filter'.inlineKeys temporal') := by
  rw [inlineKeys_congr fun key _ => perm.any_eq]
  exact (same.filter _).keys

end CypherSynthesis
