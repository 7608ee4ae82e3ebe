import CypherSynthesis.Json.Number

/-!
JSON values, and the ordered maps that parameters travel in. A map keeps its keys in the order of
their first insertion; inserting a key again replaces its value in place, so that no key comes twice.
-/

namespace CypherSynthesis

inductive Json where
  | null
  | bool (value : Bool)
  | number (value : Number)
  | string (value : String)
  | array (items : List Json)
  | object (members : List (String × Json))
  deriving Inhabited, Repr

namespace Json

def isNull : Json → Bool
  | .null => true
  | _ => false

def isArray : Json → Bool
  | .array _ => true
  | _ => false

def ofInt (n : Int) : Json :=
  .number (.integer n)

end Json

/-- Named values in insertion order. No name comes twice. -/
@[ext] structure Bag where
  entries : List (String × Json)
  nodup : (entries.map Prod.fst).Nodup := by decide
  deriving Repr

namespace Bag

def empty : Bag :=
  ⟨[], List.nodup_nil⟩

instance : Inhabited Bag :=
  ⟨empty⟩

def isEmpty (bag : Bag) : Bool :=
  bag.entries.isEmpty

def keys (bag : Bag) : List String :=
  bag.entries.map Prod.fst

/-- The value of the first entry with the given key. -/
def find? (key : String) : List (String × Json) → Option Json
  | [] => none
  | (k, v) :: rest => if k = key then some v else find? key rest

def get? (bag : Bag) (key : String) : Option Json :=
  find? key bag.entries

def contains (bag : Bag) (key : String) : Bool :=
  (bag.get? key).isSome

/-- Replaces the value of `key` where it stands, or adds it at the end. -/
def put (key : String) (value : Json) : List (String × Json) → List (String × Json)
  | [] => [(key, value)]
  | (k, v) :: rest => if k = key then (k, value) :: rest else (k, v) :: put key value rest

theorem keys_put (key : String) (value : Json) (entries : List (String × Json)) :
    (put key value entries).map Prod.fst =
      if key ∈ entries.map Prod.fst then entries.map Prod.fst
      else entries.map Prod.fst ++ [key] := by
  induction entries with
  | nil => rfl
  | cons entry rest ih => grind [put]

theorem nodup_put (key : String) (value : Json) {entries : List (String × Json)}
    (h : (entries.map Prod.fst).Nodup) : ((put key value entries).map Prod.fst).Nodup := by
  rw [keys_put]
  split
  · exact h
  · rename_i hnew
    rw [List.nodup_append]
    exact ⟨h, by simp, by grind⟩

def insert (bag : Bag) (key : String) (value : Json) : Bag :=
  ⟨put key value bag.entries, nodup_put key value bag.nodup⟩

/-- Inserts the entries one after the other. -/
def insertAll (bag : Bag) (entries : List (String × Json)) : Bag :=
  entries.foldl (fun b (key, value) => b.insert key value) bag

def ofList (entries : List (String × Json)) : Bag :=
  empty.insertAll entries

def filter (keep : String → Json → Bool) (bag : Bag) : Bag :=
  ⟨bag.entries.filter fun (key, value) => keep key value,
    (List.filter_sublist.map Prod.fst).nodup bag.nodup⟩

/-- Changes the values of entries and keeps keys and order. -/
def mapEntries (f : String → Json → Json) (entries : List (String × Json)) :
    List (String × Json) :=
  entries.map fun (key, value) => (key, f key value)

@[simp] theorem keys_mapEntries (f : String → Json → Json) (entries : List (String × Json)) :
    (mapEntries f entries).map Prod.fst = entries.map Prod.fst := by
  simp [mapEntries, Function.comp_def]

def mapValues (f : String → Json → Json) (bag : Bag) : Bag :=
  ⟨mapEntries f bag.entries, by rw [keys_mapEntries]; exact bag.nodup⟩

def toJson (bag : Bag) : Json :=
  .object bag.entries

@[simp] theorem get?_empty (key : String) : empty.get? key = none := rfl

theorem find?_put (key : String) (value : Json) (entries : List (String × Json)) (k : String) :
    find? k (put key value entries) = if k = key then some value else find? k entries := by
  induction entries with
  | nil => grind [put, find?]
  | cons entry rest ih => grind [put, find?]

@[simp] theorem get?_insert (bag : Bag) (key : String) (value : Json) (k : String) :
    (bag.insert key value).get? k = if k = key then some value else bag.get? k :=
  find?_put key value bag.entries k

end Bag

end CypherSynthesis
