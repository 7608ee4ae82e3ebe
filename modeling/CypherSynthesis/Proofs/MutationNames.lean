import CypherSynthesis.Kind

/-!
How a mutation's name tells its kind. The name is cut at its second capital, in the Unicode sense, and
the first segment is compared without regard to the case of ASCII letters; since no ASCII capital is
left behind the first character, only that one can differ from the verb. Main statement: a mutation
without a custom statement has a kind exactly if its name is one of five verbs, alone or in front of a
capital, and the name of any other operation does not matter.
-/

namespace CypherSynthesis

namespace Text

theorem onStrides_of_holds {s : Stride} {rest : List Stride} {n : Nat} (h : s.holds n = true) :
    onStrides (s :: rest) n = true := by
  have above : ¬ n < s.first := by
    simp only [Stride.holds, Bool.and_eq_true, decide_eq_true_eq] at h
    omega
  rw [onStrides, if_neg above, h, Bool.true_or]

/-- The ASCII capitals are the first of all capitals. -/
theorem isUppercase_of_ascii {c : Char} (h : 0x41 ≤ c.toNat ∧ c.toNat ≤ 0x5A) :
    isUppercase c = true := by
  unfold isUppercase uppercaseStrides
  apply onStrides_of_holds
  simp [Stride.holds, h, Nat.mod_one]

theorem isUppercase_of_small {c : Char} (h : 0x61 ≤ c.toNat ∧ c.toNat ≤ 0x7A) :
    isUppercase c = false := by
  obtain ⟨low, high⟩ := h
  have above : Stride.holds ⟨0x41, 0x5A, 1⟩ c.toNat = false := by
    have beyond : ¬ c.toNat ≤ 0x5A := by omega
    simp [Stride.holds, beyond]
  have below : c.toNat < 0xC0 := by omega
  unfold isUppercase uppercaseStrides
  rw [onStrides, above, Bool.false_or, if_neg (Nat.not_lt.mpr (Nat.le_trans (by decide) low))]
  exact if_pos below

theorem toLower_of_not_ascii {c : Char} (h : ¬ (0x41 ≤ c.toNat ∧ c.toNat ≤ 0x5A)) : c.toLower = c :=
  dif_neg h

/-- A character that is no capital in the Unicode sense is none in the ASCII sense either. -/
theorem toLower_of_not_isUppercase {c : Char} (h : isUppercase c = false) : c.toLower = c := by
  apply toLower_of_not_ascii
  intro ascii
  rw [isUppercase_of_ascii ascii] at h
  cases h

theorem toUpper_toLower {c : Char} (h : 0x41 ≤ c.toNat ∧ c.toNat ≤ 0x5A) :
    c.toLower.toUpper = c := by
  have letters : ∀ n < 26, (Char.ofNat (0x41 + n)).toLower.toUpper = Char.ofNat (0x41 + n) := by decide
  have letter := letters (c.toNat - 0x41) (by omega)
  rwa [Nat.add_sub_cancel' h.1, Char.ofNat_toNat] at letter

theorem toLower_toUpper {c : Char} (h : 0x61 ≤ c.toNat ∧ c.toNat ≤ 0x7A) :
    c.toUpper.toLower = c := by
  have letters : ∀ n < 26, (Char.ofNat (0x61 + n)).toUpper.toLower = Char.ofNat (0x61 + n) := by decide
  have letter := letters (c.toNat - 0x61) (by omega)
  rwa [Nat.add_sub_cancel' h.1, Char.ofNat_toNat] at letter

/-- A small letter is the small form of itself and of its capital alone. -/
theorem toLower_eq_iff {c letter : Char} (h : 0x61 ≤ letter.toNat ∧ letter.toNat ≤ 0x7A) :
    c.toLower = letter ↔ c = letter ∨ c = letter.toUpper := by
  constructor
  · intro lowered
    by_cases capital : 0x41 ≤ c.toNat ∧ c.toNat ≤ 0x5A
    · right
      rw [← lowered, toUpper_toLower capital]
    · left
      rw [← lowered, toLower_of_not_ascii capital]
  · rintro (rfl | rfl)
    · exact toLower_of_not_ascii (by omega)
    · exact toLower_toUpper h

end Text

namespace Kind

/-- The verbs that tell the kind of a mutation. -/
def verbs : List (String × Kind) :=
  [("create", nodeCreate), ("update", nodeUpdate), ("delete", nodeDelete),
   ("add", relationshipCreate), ("remove", relationshipDelete)]

/-- The name is the verb, its first letter in either case, followed by nothing or by a text that
starts with a capital. -/
def Opens (verb name : String) : Prop :=
  ∃ (first : Char) (letters rest : List Char), verb.toList = first :: letters ∧
    (name.toList = first :: letters ++ rest ∨ name.toList = first.toUpper :: letters ++ rest) ∧
    ∀ c ∈ rest.head?, Text.isUppercase c = true

theorem ofVerb?_eq_some_iff {verb : String} {kind : Kind} :
    ofVerb? verb = some kind ↔ (verb, kind) ∈ verbs := by
  unfold ofVerb?
  split <;> simp_all [verbs, eq_comm]

/-- Behind its first character a segment has no capital, so its case is already that of the verb. -/
theorem map_toLower_firstSegment (c : Char) (rest : List Char) :
    (firstSegment (c :: rest)).map Char.toLower =
      c.toLower :: rest.takeWhile (!Text.isUppercase ·) := by
  have unchanged : ∀ d ∈ rest.takeWhile (!Text.isUppercase ·), d.toLower = d := by
    intro d hd
    have small := List.all_eq_true.mp List.all_takeWhile d hd
    exact Text.toLower_of_not_isUppercase (by simpa using small)
  rw [firstSegment, List.map_cons, List.map_congr_left unchanged, List.map_id']

/-- Small letters are cut off exactly in front of a capital or at the end. -/
theorem takeWhile_eq_iff {name letters : List Char} (h : ∀ c ∈ letters, Text.isUppercase c = false) :
    name.takeWhile (!Text.isUppercase ·) = letters ↔
      ∃ rest, name = letters ++ rest ∧ ∀ c ∈ rest.head?, Text.isUppercase c = true := by
  constructor
  · rintro rfl
    refine ⟨name.dropWhile (!Text.isUppercase ·), List.takeWhile_append_dropWhile.symm, ?_⟩
    intro c hc
    have stops := List.head?_dropWhile_not (!Text.isUppercase ·) name
    rw [Option.mem_def.mp hc] at stops
    simpa using stops
  · rintro ⟨rest, rfl, capital⟩
    have inside : ∀ c ∈ letters, (!Text.isUppercase c) = true := by
      intro c hc
      rw [h c hc, Bool.not_false]
    rw [List.takeWhile_append_of_pos inside]
    cases rest with
    | nil => simp
    | cons c rest => simp [capital c rfl]

theorem small_of_mem_verbs {entry : String × Kind} (h : entry ∈ verbs) :
    entry.1.toList ≠ [] ∧ ∀ c ∈ entry.1.toList, 0x61 ≤ c.toNat ∧ c.toNat ≤ 0x7A := by
  have all : verbs.all (fun entry => !entry.1.toList.isEmpty &&
      entry.1.toList.all fun c => 0x61 ≤ c.toNat && c.toNat ≤ 0x7A) = true := rfl
  simpa using List.all_eq_true.mp all entry h

theorem firstSegment_eq_iff {verb name : String} {kind : Kind} (h : (verb, kind) ∈ verbs) :
    String.ofList ((firstSegment name.toList).map Char.toLower) = verb ↔ Opens verb name := by
  obtain ⟨nonempty, small⟩ := small_of_mem_verbs h
  cases hverb : verb.toList with
  | nil => exact absurd hverb nonempty
  | cons first letters =>
    rw [hverb] at small
    obtain ⟨firstSmall, lettersSmall⟩ := List.forall_mem_cons.mp small
    have plain : ∀ c ∈ letters, Text.isUppercase c = false := fun c hc =>
      Text.isUppercase_of_small (lettersSmall c hc)
    have cut : String.ofList ((firstSegment name.toList).map Char.toLower) = verb ↔
        (firstSegment name.toList).map Char.toLower = first :: letters := by
      rw [← String.toList_inj, String.toList_ofList, hverb]
    rw [cut]
    constructor
    · intro segment
      cases hname : name.toList with
      | nil => simp [hname, firstSegment] at segment
      | cons c tail =>
        rw [hname, map_toLower_firstSegment] at segment
        obtain ⟨lowered, cutTail⟩ := List.cons.inj segment
        obtain ⟨rest, rfl, capital⟩ := (takeWhile_eq_iff plain).mp cutTail
        refine ⟨first, letters, rest, hverb, ?_, capital⟩
        rcases (Text.toLower_eq_iff firstSmall).mp lowered with rfl | rfl
        · exact .inl hname
        · exact .inr hname
    · rintro ⟨first', letters', rest, hverb', spelled, capital⟩
      obtain ⟨rfl, rfl⟩ := List.cons.inj (hverb.symm.trans hverb')
      have cutTail := (takeWhile_eq_iff plain).mpr ⟨rest, rfl, capital⟩
      rcases spelled with spelled | spelled
      · rw [spelled, List.cons_append, map_toLower_firstSegment, cutTail,
          (Text.toLower_eq_iff firstSmall).mpr (.inl rfl)]
      · rw [spelled, List.cons_append, map_toLower_firstSegment, cutTail,
          (Text.toLower_eq_iff firstSmall).mpr (.inr rfl)]

/-- The name of a mutation tells a kind if a verb opens it. -/
theorem ofMutationName?_eq_some_iff {name : String} {kind : Kind} :
    ofMutationName? name = some kind ↔ ∃ verb, (verb, kind) ∈ verbs ∧ Opens verb name := by
  rw [ofMutationName?, ofVerb?_eq_some_iff]
  constructor
  · intro listed
    exact ⟨_, listed, (firstSegment_eq_iff listed).mp rfl⟩
  · rintro ⟨verb, listed, opens⟩
    rwa [(firstSegment_eq_iff listed).mpr opens]

theorem isSome_directive?_iff {operation : Operation} {name : String} :
    (operation.directive? name).isSome = true ↔
      ∃ directive ∈ operation.directives, directive.name = name := by
  simp [Operation.directive?]

theorem directive?_isSome_eq_false {operation : Operation} {name : String}
    (h : ∀ directive ∈ operation.directives, directive.name ≠ name) :
    (operation.directive? name).isSome = false := by
  rw [← Bool.not_eq_true, isSome_directive?_iff]
  rintro ⟨directive, hmem, hname⟩
  exact h directive hmem hname

theorem classify_of_custom {operation : Operation} {name : String}
    (h : ∃ directive ∈ operation.directives, directive.name = name) :
    classify operation name =
      .ok (match operation.root with
        | .query => customQuery
        | .mutation => customMutation) := by
  have custom := isSome_directive?_iff.mpr h
  cases hroot : operation.root <;> simp [classify, hroot, custom]

theorem classify_query {operation : Operation} {name : String} (query : operation.root = .query)
    (h : ∀ directive ∈ operation.directives, directive.name ≠ name) :
    classify operation name = .ok nodeQuery := by
  simp [classify, query, directive?_isSome_eq_false h]

theorem classify_mutation {operation : Operation} {name : String}
    (mutation : operation.root = .mutation)
    (h : ∀ directive ∈ operation.directives, directive.name ≠ name) :
    classify operation name =
      match ofMutationName? operation.fieldName with
      | some kind => .ok kind
      | none => .error (.unsupportedMutation operation.fieldName) := by
  simp only [classify, mutation, directive?_isSome_eq_false h]
  rfl

/-- A mutation without a custom statement has the kind of the verb that opens its name, and is refused
under its name if none does. The kind of every other operation is told by its root and by whether it
has a custom statement, whatever its name. -/
theorem classified_by_verb (operation : Operation) (customDirective : String) :
    (operation.root = .mutation →
      (∀ directive ∈ operation.directives, directive.name ≠ customDirective) →
      (∀ kind, classify operation customDirective = .ok kind ↔
        ∃ verb, (verb, kind) ∈ verbs ∧ Opens verb operation.fieldName) ∧
      ∀ e, classify operation customDirective = .error e ↔
        e = .unsupportedMutation operation.fieldName ∧
          ∀ entry ∈ verbs, ¬ Opens entry.1 operation.fieldName) ∧
    (operation.root = .query →
      (∀ directive ∈ operation.directives, directive.name ≠ customDirective) →
      ∀ fieldName, classify { operation with fieldName } customDirective = .ok nodeQuery) ∧
    ((∃ directive ∈ operation.directives, directive.name = customDirective) →
      ∀ fieldName, classify { operation with fieldName } customDirective =
        .ok (match operation.root with
          | .query => customQuery
          | .mutation => customMutation)) := by
  refine ⟨fun mutation plain => ?_, fun query plain fieldName => ?_, fun custom fieldName => ?_⟩
  · have classified := classify_mutation mutation plain
    constructor
    · intro kind
      rw [← ofMutationName?_eq_some_iff, classified]
      cases ofMutationName? operation.fieldName <;> simp
    · intro e
      have unopened : ofMutationName? operation.fieldName = none ↔
          ∀ entry ∈ verbs, ¬ Opens entry.1 operation.fieldName := by
        rw [Option.eq_none_iff_forall_ne_some]
        simp only [ne_eq, ofMutationName?_eq_some_iff, not_exists, not_and]
        exact ⟨fun h entry hentry => h entry.2 entry.1 hentry,
          fun h kind verb hverb => h (verb, kind) hverb⟩
      rw [← unopened, classified]
      cases ofMutationName? operation.fieldName <;> simp [eq_comm]
  · exact @classify_query { operation with fieldName } _ query plain
  · exact @classify_of_custom { operation with fieldName } _ custom

/-- A capital outside ASCII ends the verb, and a directive of another name does not matter. -/
def stageRemoval : Operation :=
  { Operation.new .mutation "removeÉtape" "Stage" with directives := [⟨"cypher", .empty⟩] }

theorem classified_by_verb_stageRemoval :
    (stageRemoval.root = .mutation ∧
      (∀ directive ∈ stageRemoval.directives, directive.name ≠ "statement")) ∧
    (classify stageRemoval "statement" = .ok relationshipDelete ∧
      ∀ fieldName, classify { stageRemoval with fieldName } "cypher" = .ok customMutation) := by
  have plain : ∀ directive ∈ stageRemoval.directives, directive.name ≠ "statement" := by
    simp [stageRemoval]
  have opens : Opens "remove" stageRemoval.fieldName :=
    ⟨'r', "emove".toList, 'É' :: "tape".toList, rfl, .inl rfl, by simpa using by decide⟩
  refine ⟨⟨rfl, plain⟩, ?_, ?_⟩
  · exact (((classified_by_verb stageRemoval "statement").1 rfl plain).1 _).mpr
      ⟨"remove", by decide, opens⟩
  · exact (classified_by_verb stageRemoval "cypher").2.2 ⟨_, List.mem_singleton.mpr rfl, rfl⟩

end Kind
end CypherSynthesis
