import CypherSynthesis.Json.Basic

/-!
Laws of the ordered maps. The keys of a map depend on keys alone, and what is found under a key is
what was inserted under it last.
-/

namespace CypherSynthesis

namespace Bag

theorem isSome_find? (key : String) (entries : List (String × Json)) :
    (find? key entries).isSome = true ↔ key ∈ entries.map Prod.fst := by
  induction entries with
  | nil => simp [find?]
  | cons entry rest ih => grind [find?]

theorem find?_eq_none {key : String} {entries : List (String × Json)}
    (h : key ∉ entries.map Prod.fst) : find? key entries = none := by
  rw [← Option.not_isSome_iff_eq_none, isSome_find?]
  exact h

theorem mem_keys_iff {bag : Bag} {key : String} :
    key ∈ bag.keys ↔ ∃ value, bag.get? key = some value := by
  rw [keys, ← isSome_find?, Option.isSome_iff_exists]
  rfl

theorem keys_insert (bag : Bag) (key : String) (value : Json) :
    (bag.insert key value).keys = if key ∈ bag.keys then bag.keys else bag.keys ++ [key] :=
  keys_put key value bag.entries

theorem mem_keys_insert {bag : Bag} {key k : String} {value : Json} :
    k ∈ (bag.insert key value).keys ↔ k = key ∨ k ∈ bag.keys := by
  rw [keys_insert]
  split <;> grind

theorem nodup_keys (bag : Bag) : bag.keys.Nodup :=
  bag.nodup

theorem put_of_not_mem {key : String} {entries : List (String × Json)}
    (h : key ∉ entries.map Prod.fst) (value : Json) :
    put key value entries = entries ++ [(key, value)] := by
  induction entries with
  | nil => rfl
  | cons entry rest ih => grind [put]

/-- New keys are added behind the old ones. -/
theorem entries_insertAll_of_nodup (bag : Bag) {entries : List (String × Json)}
    (h : ((bag.entries ++ entries).map Prod.fst).Nodup) :
    (bag.insertAll entries).entries = bag.entries ++ entries := by
  induction entries generalizing bag with
  | nil => simp [insertAll]
  | cons entry rest ih =>
    have hnew : entry.1 ∉ bag.entries.map Prod.fst := by grind
    have added : (bag.insert entry.1 entry.2).entries = bag.entries ++ [entry] :=
      put_of_not_mem hnew entry.2
    have tail := ih (bag.insert entry.1 entry.2) (by simpa [added] using h)
    simpa [insertAll, added] using tail

/-- Entries with different keys are the map that they make. -/
theorem ofList_of_nodup {entries : List (String × Json)} (h : (entries.map Prod.fst).Nodup) :
    ofList entries = ⟨entries, h⟩ :=
  Bag.ext (entries_insertAll_of_nodup empty h)

@[simp] theorem ofList_entries (bag : Bag) : ofList bag.entries = bag :=
  ofList_of_nodup bag.nodup

/-- The value of the last entry with the given key. -/
def last? (key : String) : List (String × Json) → Option Json
  | [] => none
  | (k, v) :: rest => (last? key rest).or (if k = key then some v else none)

theorem last?_append (key : String) (entries later : List (String × Json)) :
    last? key (entries ++ later) = (last? key later).or (last? key entries) := by
  induction entries with
  | nil => simp [last?]
  | cons entry rest ih => rw [List.cons_append, last?, last?, ih, Option.or_assoc]

/-- Where no key comes twice, the last entry of a key is its first. -/
theorem last?_eq_find? {entries : List (String × Json)} (h : (entries.map Prod.fst).Nodup)
    (key : String) : last? key entries = find? key entries := by
  induction entries with
  | nil => rfl
  | cons entry rest ih =>
    obtain ⟨hnew, hrest⟩ := List.nodup_cons.mp h
    rw [last?, find?, ih hrest]
    split
    · rename_i hkey
      simp [find?_eq_none (hkey ▸ hnew)]
    · simp

/-- What is inserted last is found. -/
theorem get?_insertAll_eq_last? (bag : Bag) (entries : List (String × Json)) (key : String) :
    (bag.insertAll entries).get? key = (last? key entries).or (bag.get? key) := by
  induction entries generalizing bag with
  | nil => rfl
  | cons entry rest ih =>
    obtain ⟨k, v⟩ := entry
    have step := ih (bag.insert k v)
    simp only [insertAll, List.foldl_cons] at step ⊢
    rw [step, get?_insert, last?, Option.or_assoc]
    by_cases hk : k = key
    · simp [hk]
    · have hk' : ¬ key = k := fun he => hk he.symm
      simp [hk, hk']

/-- Among entries with different keys none replaces another. -/
theorem get?_insertAll {entries : List (String × Json)} (h : (entries.map Prod.fst).Nodup)
    (bag : Bag) (key : String) :
    (bag.insertAll entries).get? key = (find? key entries).or (bag.get? key) := by
  rw [get?_insertAll_eq_last?, last?_eq_find? h]

theorem get?_ofList {entries : List (String × Json)} (h : (entries.map Prod.fst).Nodup)
    (key : String) : (ofList entries).get? key = find? key entries := by
  simp [ofList, get?_insertAll h]

theorem find?_filter_key (p : String → Bool) (entries : List (String × Json)) (key : String) :
    find? key (entries.filter fun entry => p entry.1) =
      if p key then find? key entries else none := by
  induction entries with
  | nil => simp [find?]
  | cons entry rest ih => grind [find?]

theorem get?_filter_key (p : String → Bool) (bag : Bag) (key : String) :
    (bag.filter fun k _ => p k).get? key = if p key then bag.get? key else none :=
  find?_filter_key p bag.entries key

theorem filter_congr {keep keep' : String → Json → Bool} {bag : Bag}
    (h : ∀ key ∈ bag.keys, keep key = keep' key) : bag.filter keep = bag.filter keep' := by
  refine Bag.ext (List.filter_congr fun (key, value) hentry => ?_)
  exact congrFun (h key (List.mem_map_of_mem hentry)) value

theorem mem_keys_of_filter {keep : String → Json → Bool} {bag : Bag} {key : String}
    (h : key ∈ (bag.filter keep).keys) : key ∈ bag.keys := by
  obtain ⟨entry, hentry, rfl⟩ := List.mem_map.mp h
  exact List.mem_map_of_mem (List.mem_filter.mp hentry).1

theorem mapValues_congr {f g : String → Json → Json} {bag : Bag}
    (h : ∀ key ∈ bag.keys, f key = g key) : bag.mapValues f = bag.mapValues g := by
  refine Bag.ext (List.map_congr_left fun (key, value) hentry => ?_)
  exact congrArg (Prod.mk key) (congrFun (h key (List.mem_map_of_mem hentry)) value)

theorem find?_mapEntries (f : String → Json → Json) (entries : List (String × Json))
    (key : String) : find? key (mapEntries f entries) = (find? key entries).map (f key) := by
  induction entries with
  | nil => rfl
  | cons entry rest ih => grind [mapEntries, find?]

theorem get?_mapValues (f : String → Json → Json) (bag : Bag) (key : String) :
    (bag.mapValues f).get? key = (bag.get? key).map (f key) :=
  find?_mapEntries f bag.entries key

@[simp] theorem keys_mapValues (f : String → Json → Json) (bag : Bag) :
    (bag.mapValues f).keys = bag.keys :=
  keys_mapEntries f bag.entries

/-- The bag has the names of `order`, each at its first place there, with the values of `bound`. -/
structure Binds (bag : Bag) (order : List String) (bound : String → Option Json) : Prop where
  keys : bag.keys = order.eraseDups
  value : ∀ key, bag.get? key = bound key

namespace Binds

variable {bag : Bag} {order : List String} {bound : String → Option Json}

theorem congr {order' : List String} {bound' : String → Option Json} (h : bag.Binds order bound)
    (horder : order = order') (hbound : ∀ key, bound key = bound' key) :
    bag.Binds order' bound' where
  keys := horder ▸ h.keys
  value key := (h.value key).trans (hbound key)

theorem empty : Bag.empty.Binds [] fun _ => none where
  keys := rfl
  value _ := rfl

theorem insert (h : bag.Binds order bound) (key : String) (value : Json) :
    (bag.insert key value).Binds (order ++ [key])
      fun k => if k = key then some value else bound k where
  keys := by
    rw [keys_insert, h.keys, List.eraseDups_append]
    by_cases hmem : key ∈ order <;> simp [hmem, List.removeAll, List.eraseDups_cons]
  value k := by rw [get?_insert, h.value]

theorem insertAll (h : bag.Binds order bound) (entries : List (String × Json)) :
    (bag.insertAll entries).Binds (order ++ entries.map Prod.fst)
      fun key => (last? key entries).or (bound key) := by
  induction entries generalizing bag order bound with
  | nil => exact h.congr (by simp) fun _ => rfl
  | cons entry rest ih =>
    refine (ih (h.insert entry.1 entry.2)).congr (by simp) fun key => ?_
    rw [last?, Option.or_assoc]
    by_cases hkey : entry.1 = key
    · simp [hkey]
    · have hkey' : ¬ key = entry.1 := fun he => hkey he.symm
      simp [hkey, hkey']

theorem ofList (entries : List (String × Json)) :
    (Bag.ofList entries).Binds (entries.map Prod.fst) fun key => last? key entries :=
  (empty.insertAll entries).congr (by simp) fun _ => by simp

end Binds

theorem filter_insert (p : String → Bool) (bag : Bag) (key : String) (value : Json) :
    (bag.insert key value).filter (fun k _ => p k) =
      if p key then (bag.filter fun k _ => p k).insert key value else bag.filter fun k _ => p k := by
  refine Bag.ext ?_
  rw [apply_ite entries]
  simp only [insert, filter]
  induction bag.entries with
  | nil => cases hp : p key <;> simp [put, hp]
  | cons entry rest ih => grind [put]

theorem filter_insertAll (p : String → Bool) (bag : Bag) (entries : List (String × Json)) :
    (bag.insertAll entries).filter (fun k _ => p k) =
      (bag.filter fun k _ => p k).insertAll (entries.filter fun entry => p entry.1) := by
  induction entries generalizing bag with
  | nil => rfl
  | cons entry rest ih =>
    have step := ih (bag.insert entry.1 entry.2)
    rw [filter_insert] at step
    simp only [insertAll, List.foldl_cons] at step ⊢
    rw [step]
    cases hp : p entry.1 <;> simp [hp]

end Bag

/-- The value at the end of a path through objects. -/
def Json.at? : Json → List String → Option Json
  | value, [] => some value
  | .object members, key :: rest => (Bag.find? key members).bind (·.at? rest)
  | _, _ :: _ => none

namespace Json

@[simp] theorem at?_nil (value : Json) : value.at? [] = some value := by
  cases value <;> rfl

@[simp] theorem at?_toJson (bag : Bag) (key : String) (rest : List String) :
    bag.toJson.at? (key :: rest) = (bag.get? key).bind (·.at? rest) := rfl

theorem at?_append (value : Json) (path rest : List String) :
    value.at? (path ++ rest) = (value.at? path).bind (·.at? rest) := by
  induction path generalizing value with
  | nil => simp
  | cons key path ih =>
    cases value with
    | object members =>
      simp only [List.cons_append, at?]
      cases Bag.find? key members with
      | none => rfl
      | some member => exact ih member
    | null | bool | number | string | array => rfl

end Json
end CypherSynthesis
