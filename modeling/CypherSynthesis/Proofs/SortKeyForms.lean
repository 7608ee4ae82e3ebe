import CypherSynthesis.Proofs.RoundTrip

/-!
The forms of a sort key. Its text is the field, an underscore and the direction; since no direction has
an underscore, the last one of a text is the only place where it can be divided. In JSON a sort key is
its text or an object with its field and perhaps its direction. Main statement: reading accepts exactly
the texts of sort keys with a field, and all forms of a sort key are read as that key.
-/

namespace CypherSynthesis

open Decoder (ofValue ofText)

namespace Document

mutual

/-- A value as a document can be read, whether or not its keys differ. -/
theorem exists_toJson_ofJson (value : Json) : ∃ read, (ofJson value).toJson = .ok read := by
  cases value with
  | null | bool | number | string => exact ⟨_, rfl⟩
  | array items =>
    obtain ⟨read, hread⟩ := exists_toJsonItems_ofJsonItems items
    refine ⟨.array read, ?_⟩
    simp only [ofJson, toJson, hread]
    rfl
  | object members =>
    obtain ⟨bag, hbag⟩ := exists_toBag_ofJsonMembers .empty members
    refine ⟨bag.toJson, ?_⟩
    simp only [ofJson, toJson, hbag]
    rfl

theorem exists_toJsonItems_ofJsonItems (items : List Json) :
    ∃ read, toJsonItems (ofJsonItems items) = .ok read := by
  cases items with
  | nil => exact ⟨[], rfl⟩
  | cons item rest =>
    obtain ⟨first, hfirst⟩ := exists_toJson_ofJson item
    obtain ⟨others, hothers⟩ := exists_toJsonItems_ofJsonItems rest
    refine ⟨first :: others, ?_⟩
    simp only [ofJsonItems, toJsonItems, hfirst, hothers]
    rfl

theorem exists_toBag_ofJsonMembers (bag : Bag) (members : List (String × Json)) :
    ∃ read, toBag bag (ofJsonMembers members) = .ok read := by
  cases members with
  | nil => exact ⟨bag, rfl⟩
  | cons member rest =>
    obtain ⟨name, value⟩ := member
    obtain ⟨first, hfirst⟩ := exists_toJson_ofJson value
    obtain ⟨read, hread⟩ := exists_toBag_ofJsonMembers (bag.insert name first) rest
    refine ⟨read, ?_⟩
    simp only [ofJsonMembers, toBag, hfirst]
    exact hread

end

/-- The text holds the value and nothing else, blanks apart. -/
def Spells (text : String) (value : Json) : Prop :=
  ∃ after, scan maxDepth text = (ofJson value, some after) ∧ after.all isBlank = true

end Document

namespace SortKey

theorem underscore_not_mem_name (direction : SortDirection) : '_' ∉ direction.name.toList := by
  cases direction <;> decide

theorem name_injective {direction direction' : SortDirection}
    (h : direction.name = direction'.name) : direction = direction' := by
  revert h
  cases direction <;> cases direction' <;> decide

/-- The last underscore of a text divides it in one way. -/
theorem eq_of_divided {front front' last last' : List Char} (h : '_' ∉ last) (h' : '_' ∉ last')
    (same : front ++ '_' :: last = front' ++ '_' :: last') : front = front' ∧ last = last' := by
  rcases List.append_eq_append_iff.mp same with ⟨between, hfront, hlast⟩ | ⟨between, hfront, hlast⟩
  · cases between with
    | nil => simp_all
    | cons c rest =>
      obtain ⟨-, rfl⟩ := List.cons.inj hlast
      simp at h
  · cases between with
    | nil => simp_all
    | cons c rest =>
      obtain ⟨-, rfl⟩ := List.cons.inj hlast
      simp at h'

theorem toList_text (key : SortKey) :
    key.text.toList = key.field.toList ++ '_' :: key.direction.name.toList := by
  simp [text]

/-- No text belongs to two sort keys. -/
theorem eq_of_text_eq {key key' : SortKey} (h : key.text = key'.text) : key = key' := by
  have same := congrArg String.toList h
  rw [toList_text, toList_text] at same
  obtain ⟨hfield, hname⟩ :=
    eq_of_divided (underscore_not_mem_name _) (underscore_not_mem_name _) same
  obtain ⟨field, direction⟩ := key
  obtain ⟨field', direction'⟩ := key'
  obtain rfl := String.toList_inj.mp hfield
  obtain rfl := name_injective (String.toList_inj.mp hname)
  rfl

theorem splitLast?_eq_none {cs : List Char} (h : '_' ∉ cs) : splitLast? cs = none := by
  induction cs with
  | nil => rfl
  | cons c rest ih =>
    obtain ⟨hc, hrest⟩ := not_or.mp (mt List.mem_cons.mpr h)
    simp [splitLast?, ih hrest, Ne.symm hc]

theorem splitLast?_append {front last : List Char} (h : '_' ∉ last) :
    splitLast? (front ++ '_' :: last) = some (front, last) := by
  induction front with
  | nil => simp [splitLast?, splitLast?_eq_none h]
  | cons c front ih => simp [splitLast?, ih]

theorem exists_of_splitLast? {cs front last : List Char} (h : splitLast? cs = some (front, last)) :
    cs = front ++ '_' :: last := by
  fun_induction splitLast? cs generalizing front with
  | case1 => cases h
  | case2 c rest front' last' divided ih =>
    obtain ⟨rfl, rfl⟩ := Prod.mk.inj (Option.some.inj h)
    rw [List.cons_append, ← ih divided]
  | case3 rest =>
    obtain ⟨rfl, rfl⟩ := Prod.mk.inj (Option.some.inj h)
    rfl
  | case4 => cases h

/-- Behind the last underscore stands the direction, and all that is in front of it is the field. -/
theorem parse?_of_last {front last : String} (h : '_' ∉ last.toList) :
    parse? (front ++ "_" ++ last) =
      if front = "" then none
      else (SortDirection.all.find? (·.name = last)).map (⟨front, ·⟩) := by
  have chars : (front ++ "_" ++ last).toList = front.toList ++ '_' :: last.toList := by
    simp
  have empty : front.toList.isEmpty = decide (front = "") := by
    rw [Bool.eq_iff_iff]
    simp
  rw [parse?, chars, splitLast?_append h]
  simp only [Option.bind_eq_bind, Option.bind_some, String.ofList_toList, empty, decide_eq_true_eq,
    Option.map_eq_bind]
  rfl

theorem find?_name_eq_some_iff {name : String} {direction : SortDirection} :
    SortDirection.all.find? (·.name = name) = some direction ↔ direction.name = name := by
  constructor
  · intro h
    simpa using List.find?_some h
  · rintro rfl
    cases direction <;> decide

/-- A text is read as a sort key exactly if it is the key's text and the key has a field. -/
theorem parse?_eq_some_iff {s : String} {key : SortKey} :
    parse? s = some key ↔ key.field ≠ "" ∧ s = key.text := by
  constructor
  · intro h
    obtain ⟨⟨front, last⟩, divided, rest⟩ := Option.bind_eq_some_iff.mp h
    dsimp only at rest
    split at rest
    · cases rest
    · rename_i nonempty
      obtain ⟨direction, named, made⟩ := Option.bind_eq_some_iff.mp rest
      obtain rfl := Option.some.inj made
      have hname : direction.name = String.ofList last := find?_name_eq_some_iff.mp named
      refine ⟨by simpa using nonempty, String.toList_inj.mp ?_⟩
      rw [exists_of_splitLast? divided, toList_text, hname]
      simp
  · rintro ⟨nonempty, rfl⟩
    rw [text, parse?_of_last (underscore_not_mem_name _), if_neg nonempty,
      find?_name_eq_some_iff.mpr rfl]
    rfl

/-- How a direction is written in an object: by its name, alone or as the name of nothing. -/
def Written (direction : SortDirection) (value : Json) : Prop :=
  value = .string direction.name ∨ value = .object [(direction.name, .null)]

theorem choiceInValue_of_written {direction : SortDirection} {value : Json}
    (h : Written direction value) :
    Decoder.choiceInValue SortDirection.variants (.ofJson value) = .ok direction := by
  obtain rfl | rfl := h <;> cases direction <;> rfl

/-- The members of an object that give a sort key: its field once, and its direction once or, if that
is ascending, not at all. Other members do not matter, nor does the order. -/
structure GivenBy (key : SortKey) (members : List (String × Json)) : Prop where
  field : members.filter (·.1 = "field") = [("field", .string key.field)]
  direction : (members.filter (·.1 = "direction") = [] ∧ key.direction = .ascending) ∨
    ∃ value, members.filter (·.1 = "direction") = [("direction", value)] ∧
      Written key.direction value

/-- What is still to be read of a sort key when part of its members have been. -/
structure Awaits (key : SortKey) (members : List (String × Json)) (field : Option String)
    (direction : Option SortDirection) : Prop where
  field : (field = some key.field ∧ members.filter (·.1 = "field") = []) ∨
    (field = none ∧ members.filter (·.1 = "field") = [("field", .string key.field)])
  direction : (direction.getD .ascending = key.direction ∧
      members.filter (·.1 = "direction") = []) ∨
    (direction = none ∧ ∃ value, members.filter (·.1 = "direction") = [("direction", value)] ∧
      Written key.direction value)

theorem ofMembers?_eq {key : SortKey} {members : List (String × Json)} {field : Option String}
    {direction : Option SortDirection} (h : key.Awaits members field direction) :
    ofMembers? (Document.ofJsonMembers members) field direction = some key := by
  induction members generalizing field direction with
  | nil =>
    obtain ⟨hfield, hdirection⟩ := h
    simp at hfield hdirection
    obtain ⟨field, direction⟩ := key
    simp_all [Document.ofJsonMembers, ofMembers?]
  | cons member rest ih =>
    obtain ⟨name, value⟩ := member
    obtain ⟨hfield, hdirection⟩ := h
    by_cases isField : name = "field"
    · subst isField
      obtain ⟨-, none⟩ | ⟨rfl, only⟩ := hfield
      · simp at none
      · obtain ⟨rfl, restField⟩ : value = .string key.field ∧ rest.filter (·.1 = "field") = [] := by
          simpa using only
        rw [Document.ofJsonMembers, Document.ofJson, ofMembers?]
        exact ih ⟨.inl ⟨rfl, restField⟩, by simpa using hdirection⟩
    · by_cases isDirection : name = "direction"
      · subst isDirection
        obtain ⟨-, none⟩ | ⟨rfl, value', only, written⟩ := hdirection
        · simp at none
        · obtain ⟨rfl, restDirection⟩ : value = value' ∧ rest.filter (·.1 = "direction") = [] := by
            simpa using only
          rw [Document.ofJsonMembers, ofMembers?, choiceInValue_of_written written]
          exact ih ⟨by simpa using hfield, .inl ⟨rfl, restDirection⟩⟩
      · have skipped : ofMembers? (Document.ofJsonMembers ((name, value) :: rest)) field direction =
            ofMembers? (Document.ofJsonMembers rest) field direction := by
          rw [Document.ofJsonMembers, ofMembers?] <;> simp_all
        rw [skipped]
        exact ih ⟨by simpa [isField] using hfield, by simpa [isDirection] using hdirection⟩

theorem ofValue_string (s : String) (key : SortKey) :
    ofValue decode (.string s) = .ok key ↔ parse? s = some key := by
  unfold ofValue
  rw [Document.ofJson, decode]
  simp only [Document.toJson]
  cases parse? s <;> simp [Except.map, bind, Except.bind, Decoder.faulty_ok, Decoder.mismatch]

theorem ofValue_object {key : SortKey} {members : List (String × Json)} (h : key.GivenBy members) :
    ofValue decode (.object members) = .ok key := by
  have awaits : key.Awaits members none none := by
    refine ⟨.inr ⟨rfl, h.field⟩, ?_⟩
    obtain ⟨none, ascending⟩ | given := h.direction
    · exact .inl ⟨ascending.symm, none⟩
    · exact .inr ⟨rfl, given⟩
  obtain ⟨read, hread⟩ := Document.exists_toJson_ofJson (.object members)
  rw [Document.ofJson] at hread
  unfold ofValue
  rw [Document.ofJson, decode, hread]
  simp only [ofMembers?_eq awaits]
  rfl

/-- A sort key in a text is read as it is in the value that the text holds. -/
theorem ofText_eq {text : String} {value : Json} (h : Document.Spells text value) :
    ofText decode text = ofValue decode value := by
  obtain ⟨after, scanned, blank⟩ := h
  have ends : Document.endOfText (some after) = .ok () := if_pos blank
  have source : decode .text (.ofJson value) = ofValue decode value := rfl
  simp only [ofText, scanned, source, ends]
  cases ofValue decode value <;> rfl

/-- What stands behind the field in the text of a sort key. -/
def suffix : SortDirection → String
  | .ascending => "_asc"
  | .descending => "_desc"

/-- A text is read as a sort key exactly if it is a field, which is not empty, and a suffix; it is
divided at its last underscore, and in no other way. A sort key with a field is read back from its
text. In JSON, as a value or in a text, an object with the field and the direction is read as the same
key as the text of the key, and without a direction as ascending. -/
theorem forms_agree :
    (∀ s key, parse? s = some key ↔ key.field ≠ "" ∧ s = key.field ++ suffix key.direction) ∧
    (∀ front last : String, '_' ∉ last.toList →
      parse? (front ++ "_" ++ last) =
        if front = "" then none
        else (SortDirection.all.find? (·.name = last)).map (⟨front, ·⟩)) ∧
    (∀ key key' : SortKey,
      key.field ++ suffix key.direction = key'.field ++ suffix key'.direction → key = key') ∧
    (∀ s key, parse? s = some key → key.text = s) ∧
    (∀ key : SortKey, key.field ≠ "" → parse? key.text = some key) ∧
    (∀ key members, GivenBy key members →
      ofValue decode (.object members) = .ok key ∧
        (key.field ≠ "" → ofValue decode (.string key.text) = .ok key)) ∧
    (∀ text value, Document.Spells text value → ofText decode text = ofValue decode value) := by
  have text_eq (key : SortKey) : key.field ++ suffix key.direction = key.text := by
    obtain ⟨field, direction⟩ := key
    cases direction <;> rw [text, String.append_assoc] <;> rfl
  refine ⟨?_, fun _ _ => parse?_of_last, ?_, ?_, ?_, ?_, fun _ _ => ofText_eq⟩
  · intro s key
    rw [text_eq, parse?_eq_some_iff]
  · intro key key' same
    rw [text_eq, text_eq] at same
    exact eq_of_text_eq same
  · intro s key h
    exact (parse?_eq_some_iff.mp h).2.symm
  · intro key nonempty
    exact parse?_eq_some_iff.mpr ⟨nonempty, rfl⟩
  · intro key members given
    refine ⟨ofValue_object given, fun nonempty => ?_⟩
    exact (ofValue_string _ _).mpr (parse?_eq_some_iff.mpr ⟨nonempty, rfl⟩)

/-- The field itself ends like a sort key, and the object has its members in another order. -/
theorem forms_agree_released :
    parse? "released_asc__desc" = some ⟨"released_asc_", .descending⟩ ∧
    ofText decode "\"released_asc__desc\" " = .ok ⟨"released_asc_", .descending⟩ ∧
    ofText decode "\x7b\"direction\":\"desc\",\"x\":[],\"field\":\"released_asc_\"\x7d" =
      .ok ⟨"released_asc_", .descending⟩ := by
  obtain ⟨-, -, -, -, parsed, decoded, spelled⟩ := forms_agree
  have nonempty : "released_asc_" ≠ "" := by decide
  have text_eq : text ⟨"released_asc_", .descending⟩ = "released_asc__desc" := by decide
  have given : GivenBy ⟨"released_asc_", .descending⟩ [("direction", .string "desc"),
      ("x", .array []), ("field", .string "released_asc_")] := ⟨rfl, .inr ⟨_, rfl, .inl rfl⟩⟩
  have string : Document.Spells "\"released_asc__desc\" " (.string "released_asc__desc") :=
    ⟨[' '], rfl, rfl⟩
  have object : Document.Spells
      "\x7b\"direction\":\"desc\",\"x\":[],\"field\":\"released_asc_\"\x7d"
      (.object [("direction", .string "desc"), ("x", .array []), ("field", .string "released_asc_")]) :=
    ⟨[], by cbv, rfl⟩
  rw [spelled _ _ string, spelled _ _ object, ← text_eq]
  exact ⟨parsed _ nonempty, (decoded _ _ given).2 nonempty, (decoded _ _ given).1⟩

end SortKey
end CypherSynthesis
