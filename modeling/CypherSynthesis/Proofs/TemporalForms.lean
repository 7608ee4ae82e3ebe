import CypherSynthesis.Proofs.Conditions

/-!
A temporal value in conditions and in writes. A condition compares the value as a whole or component
by component, a write binds its formatted text or its components, and the two choices are made apart.
Main statement: they are the same choice on every component map. If there is a formatted text, it is
what is written and the one thing that is compared; otherwise the components that are compared are
those that are written, in the same order, and none of them is null. In lists, however deep, each
element is written by the same rule and stays in its place.
-/

namespace CypherSynthesis

/-- The element of nested lists at the given places, the outermost first. -/
def Json.element? : Json → List Nat → Option Json
  | value, [] => some value
  | .array items, place :: rest => items[place]?.bind (·.element? rest)
  | _, _ :: _ => none

namespace Temporal

/-- The property is compared as a whole with the value of the formatted text. -/
def wholeText (node : String) (declared : Declared) (parent : Option String) : String :=
  Cypher.sanitize node ++ "." ++ Cypher.quote declared.name ++ " = " ++ declared.kind.constructor ++
    "(" ++ Cypher.reference (parent.toList ++ [declared.name, "formatted"]) ++ ")"

/-- One component of the property is compared with the component of the value. -/
def componentText (node : String) (declared : Declared) (parent : Option String)
    (component : String) : String :=
  Cypher.sanitize node ++ "." ++ Cypher.quote declared.name ++ "." ++ Cypher.quote component ++
    " = " ++ Cypher.reference (parent.toList ++ [declared.name, component])

/-- The member of a component map that counts as its formatted text. -/
def formattedMember? (components : List (String × Json)) : Option Json :=
  (Bag.find? "formatted" components).filter (!·.isNull)

/-- What a value is written as: a component map as its formatted text or else without its null
components, a list as one of the same length, and any other value as it is. -/
def WrittenAs : Json → Json → Prop
  | .object components, written =>
    written = (formattedMember? components).getD (.object (components.filter (!·.2.isNull)))
  | .array items, written => ∃ elements, written = .array elements ∧ elements.length = items.length
  | value, written => written = value

theorem formatted?_eq_formattedMember? (components : List (String × Json)) :
    formatted? components = formattedMember? components := by
  unfold formatted? formattedMember? formattedKey
  cases Bag.find? "formatted" components with
  | none => rfl
  | some value => cases hnull : value.isNull <;> simp [Option.filter, hnull]

theorem text_sameValue (node : String) (declared : Declared) (parent : Option String) :
    ((Predicate.sameValue declared.name declared.kind parent).clause node).text =
      wholeText node declared parent := by
  simp [Predicate.clause, Clause.text, Predicate.fragment, Predicate.path, wholeText, formattedKey,
    Cypher.Piece.render, String.append_assoc]

theorem text_sameComponent (node : String) (declared : Declared) (parent : Option String)
    (component : String) :
    ((Predicate.sameComponent declared.name component parent).clause node).text =
      componentText node declared parent component := by
  simp [Predicate.clause, Clause.text, Predicate.fragment, Predicate.path, componentText,
    Cypher.Piece.render, String.append_assoc]

/-- The conditions on one declared property, as texts. -/
def comparisonTexts (node : String) (values : List (String × Json)) (declared : Declared)
    (parent : Option String) : List String :=
  (Predicate.temporal values [declared] parent).map fun predicate => (predicate.clause node).text

theorem comparisonTexts_eq (node : String) {values : List (String × Json)} {declared : Declared}
    (parent : Option String) {components : List (String × Json)}
    (h : Bag.find? declared.name values = some (.object components)) :
    comparisonTexts node values declared parent =
      match formattedMember? components with
      | some _ => [wholeText node declared parent]
      | none => (given components).map fun member => componentText node declared parent member.1 := by
  have alone : Predicate.temporal values [declared] parent =
      Predicate.ofTemporal values parent declared := List.flatMap_singleton ..
  rw [comparisonTexts, alone, Predicate.ofTemporal_object parent h, formatted?_eq_formattedMember?]
  cases formattedMember? components with
  | some value => simp [text_sameValue]
  | none => simp [text_sameComponent]

example : comparisonTexts "movie"
    [("released", .object [("year", .ofInt 2020), ("formatted", .string "2020-03-01")])]
    ⟨"released", .date⟩ (some "params") = ["movie.released = date($params.released.formatted)"] := by
  decide

theorem writeForms_eq_map (items : List Json) : writeForms items = items.map writeForm := by
  induction items with
  | nil => rw [writeForms, List.map_nil]
  | cons item rest ih => rw [writeForms, ih, List.map_cons]

theorem writtenAs_writeForm (value : Json) : WrittenAs value (writeForm value) := by
  cases value with
  | null | bool | number | string => simp [WrittenAs, writeForm]
  | array items =>
    refine ⟨items.map writeForm, ?_, List.length_map ..⟩
    rw [writeForm, writeForms_eq_map]
  | object components =>
    rw [WrittenAs, writeForm, formatted?_eq_formattedMember?]
    rfl

/-- Writing keeps every element of nested lists in its place. -/
theorem element?_writeForm {value element : Json} {places : List Nat}
    (h : value.element? places = some element) :
    (writeForm value).element? places = some (writeForm element) := by
  induction places generalizing value with
  | nil =>
    rw [Json.element?] at h ⊢
    rw [Option.some.inj h]
  | cons place rest ih =>
    cases value with
    -- Places lead through lists only: an object has no elements, whatever it is written as.
    | null | bool | number | string | object => simp [Json.element?] at h
    | array items =>
      rw [Json.element?] at h
      obtain ⟨item, hitem, hrest⟩ := Option.bind_eq_some_iff.mp h
      rw [writeForm, writeForms_eq_map, Json.element?, List.getElem?_map, hitem]
      exact ih hrest

/-- A component map is compared as it is written. With a formatted text that is the only thing that
is compared and written; without one, what is written is a map without null components, and its keys
are what is compared. Every element of nested lists is written by the same rule in its place. -/
theorem compared_as_written (node : String) (declared : Declared) (parent : Option String)
    {values components : List (String × Json)}
    (h : Bag.find? declared.name values = some (.object components)) :
    (match formattedMember? components with
      | some value =>
        comparisonTexts node values declared parent = [wholeText node declared parent] ∧
          writeForm (.object components) = value
      | none =>
        ∃ members, writeForm (.object components) = .object members ∧
          (∀ member ∈ members, member.2.isNull = false) ∧
          comparisonTexts node values declared parent =
            members.map fun member => componentText node declared parent member.1) ∧
      ∀ value places element, value.element? places = some element →
        ∃ written, (writeForm value).element? places = some written ∧ WrittenAs element written := by
  have texts := comparisonTexts_eq node parent h
  have written : writeForm (.object components) =
      (formattedMember? components).getD (.object (given components)) :=
    writtenAs_writeForm (.object components)
  constructor
  · cases hformatted : formattedMember? components with
    | some value =>
      rw [hformatted] at texts written
      exact ⟨texts, written⟩
    | none =>
      rw [hformatted] at texts written
      refine ⟨given components, written, fun member hmember => ?_, texts⟩
      simpa using (List.mem_filter.mp hmember).2
  · intro value places element helement
    exact ⟨writeForm element, element?_writeForm helement, writtenAs_writeForm element⟩

/-- A month of a year, and a formatted text that is null. -/
def releaseMonth : List (String × Json) :=
  [("year", .ofInt 2020), ("formatted", .null), ("month", .ofInt 3)]

theorem compared_as_written_releaseMonth :
    let values := [("released", Json.object releaseMonth)]
    let dates : Json := .array [.null, .array [.object releaseMonth]]
    Bag.find? "released" values = some (.object releaseMonth) ∧
      (∃ members, writeForm (.object releaseMonth) = .object members ∧
        (∀ member ∈ members, member.2.isNull = false) ∧
        comparisonTexts "movie" values ⟨"released", .date⟩ (some "params") =
          members.map fun member => componentText "movie" ⟨"released", .date⟩ (some "params")
            member.1) ∧
      comparisonTexts "movie" values ⟨"released", .date⟩ (some "params") =
        ["movie.released.year = $params.released.year",
          "movie.released.month = $params.released.month"] ∧
      dates.element? [1, 0] = some (.object releaseMonth) ∧
      ∃ written, (writeForm dates).element? [1, 0] = some written ∧
        WrittenAs (.object releaseMonth) written := by
  intro values dates
  have found : Bag.find? "released" values = some (.object releaseMonth) := rfl
  have placed : dates.element? [1, 0] = some (.object releaseMonth) := rfl
  obtain ⟨agrees, inside⟩ :=
    compared_as_written "movie" ⟨"released", .date⟩ (some "params") found
  exact ⟨found, agrees, by decide, placed, inside dates [1, 0] _ placed⟩

end Temporal

end CypherSynthesis
