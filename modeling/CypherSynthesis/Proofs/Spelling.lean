import CypherSynthesis.Cypher.Fragment
import CypherSynthesis.Proofs.Lexer

/-!
What the pieces of a statement say, and when their text says the same. The text of a fragment runs
its pieces together, so a word may swallow the word behind it and a parameter may take on a path that
was not meant. A fragment is spaced if at no boundary between two pieces this can happen. Main
statements: the text of a spaced fragment is read as the tokens of its pieces, one after the other,
and the references found in these tokens are the parameters among the pieces.
-/

namespace CypherSynthesis.Cypher

open Reading (scan flush isSettled scan_append scan_of_divides)

namespace Piece

def chars (piece : Piece) : List Char :=
  piece.render.toList

/-- The tokens of text that is taken as it is. -/
def textTokens (s : String) : List Token :=
  (scan .gap s.toList).1 ++ (scan .gap s.toList).2.flush

def tokens : Piece → List Token
  | fixed s | given s => textTokens s
  | var s => [.word (sanitize s)]
  | name s => [.ofName s]
  | param path => .mark '$' :: pathTokens path
  | literal s => [.text s]

/-- Text of the statement's form is complete in itself and refers to no parameter; a reference names
at least one. -/
def isSound : Piece → Bool
  | fixed s | given s =>
    (scan .gap s.toList).2.isSettled && !(textTokens s).contains (.mark '$')
  | param path => !path.isEmpty
  | var _ | name _ | literal _ => true

/-- Whether the text begins with a character that no name or word in front of it can take in. -/
def isDividing : Piece → Bool
  | fixed s | given s => s.toList.head?.any divides
  | param _ | literal _ => true
  | var _ | name _ => false

/-- Whether the first token would continue the path of a reference. -/
def isPoint (piece : Piece) : Bool :=
  piece.tokens.head? == some (.mark '.')

end Piece

/-- What stands in front of a piece: nothing that could go on, the end of a word or name, the end
of a reference, or a reference and white space behind it. -/
inductive Boundary where
  | closed
  | name
  | reference
  | spaced
  deriving DecidableEq, Repr

namespace Boundary

def admits (boundary : Boundary) (piece : Piece) : Bool :=
  match boundary with
  | closed => true
  | name => piece.isDividing
  | reference => piece.isDividing && !piece.isPoint
  | spaced => !piece.isPoint

/-- The boundary behind text that is complete: white space leaves open whether a path goes on. -/
def behind (boundary : Boundary) (tokens : List Token) : Boundary :=
  if tokens.isEmpty && (boundary == reference || boundary == spaced) then spaced else closed

def next (boundary : Boundary) : Piece → Boundary
  | .fixed s | .given s =>
    if (scan .gap s.toList).2 = .gap then boundary.behind (scan .gap s.toList).1 else name
  | .var _ | .name _ => name
  | .param _ => reference
  | .literal _ => closed

end Boundary

namespace Fragment

def chars (fragment : Fragment) : List Char :=
  fragment.flatMap Piece.chars

def tokens (fragment : Fragment) : List Token :=
  fragment.flatMap Piece.tokens

/-- The parameters of a fragment, as paths. -/
def params (fragment : Fragment) : List (List String) :=
  fragment.filterMap fun
    | .param path => some path
    | _ => none

/-- No piece runs into the one in front of it. -/
def isSpaced : Boundary → Fragment → Bool
  | _, [] => true
  | boundary, piece :: rest =>
    piece.isSound && boundary.admits piece && isSpaced (boundary.next piece) rest

/-- The boundary behind a fragment. -/
def exit : Boundary → Fragment → Boundary
  | boundary, [] => boundary
  | boundary, piece :: rest => exit (boundary.next piece) rest

@[simp] theorem tokens_nil : tokens [] = [] := rfl

@[simp] theorem tokens_cons (piece : Piece) (rest : Fragment) :
    tokens (piece :: rest) = piece.tokens ++ tokens rest := rfl

@[simp] theorem tokens_append (before after : Fragment) :
    tokens (before ++ after) = tokens before ++ tokens after := List.flatMap_append

theorem mem_params {fragment : Fragment} {path : List String} :
    path ∈ fragment.params ↔ Piece.param path ∈ fragment := by
  simp only [params, List.mem_filterMap]
  constructor
  · rintro ⟨piece, hmem, hpiece⟩
    cases piece <;> simp_all
  · exact fun hmem => ⟨_, hmem, rfl⟩

theorem toList_render (fragment : Fragment) : fragment.render.toList = fragment.chars := by
  simp only [render, chars, String.toList_join, List.flatMap_map]
  rfl

theorem isSpaced_append (boundary : Boundary) (before after : Fragment) :
    isSpaced boundary (before ++ after) =
      (isSpaced boundary before && isSpaced (exit boundary before) after) := by
  induction before generalizing boundary with
  | nil => simp [isSpaced, exit]
  | cons piece rest ih => simp only [List.cons_append, isSpaced, exit, ih, Bool.and_assoc]

end Fragment

namespace Piece

theorem reads {piece : Piece} (sound : piece.isSound = true) :
    Reads piece.chars piece.tokens := by
  cases piece with
  | fixed s | given s =>
    simp only [isSound, Bool.and_eq_true] at sound
    exact ⟨sound.1, rfl⟩
  | var s => exact reads_sanitize s
  | name s => exact reads_quote s
  | param path => exact reads_reference path
  | literal s => exact reads_literal s

theorem chars_of_isDividing {piece : Piece} (h : piece.isDividing = true) :
    ∃ c rest, piece.chars = c :: rest ∧ divides c = true := by
  cases piece with
  | fixed s | given s =>
    simp only [isDividing] at h
    cases hs : s.toList with
    | nil => simp [hs] at h
    | cons c rest => exact ⟨c, rest, hs, by simpa [hs] using h⟩
  | var s | name s => simp [isDividing] at h
  | param path => exact ⟨'$', _, toList_reference path, by decide⟩
  | literal s => exact ⟨'"', _, toList_literal s, by decide⟩

end Piece

namespace Boundary

/-- A reading that can be under way at the boundary. -/
def Fits (boundary : Boundary) (reading : Reading) : Prop :=
  reading.isSettled = true ∧ (boundary = closed ∨ boundary = spaced → reading = .gap)

theorem fits_next {piece : Piece} (boundary : Boundary) (sound : piece.isSound = true) :
    (boundary.next piece).Fits (scan .gap piece.chars).2 := by
  refine ⟨(Piece.reads sound).1, fun h => ?_⟩
  cases piece with
  | fixed s | given s =>
    simp only [next] at h
    split at h
    · assumption
    · simp at h
  | var _ | name _ | param _ => simp [next] at h
  | literal s => exact congrArg Prod.snd (scan_literal s)

/-- A piece that the boundary admits ends the token in front of it. -/
theorem scan_chars {piece : Piece} {boundary : Boundary} {reading : Reading}
    (fits : boundary.Fits reading) (admitted : boundary.admits piece = true) :
    scan reading piece.chars =
      (reading.flush ++ (scan .gap piece.chars).1, (scan .gap piece.chars).2) := by
  have dividing (h : piece.isDividing = true) : scan reading piece.chars =
      (reading.flush ++ (scan .gap piece.chars).1, (scan .gap piece.chars).2) := by
    obtain ⟨c, rest, hchars, hc⟩ := Piece.chars_of_isDividing h
    rw [hchars]
    exact scan_of_divides rest fits.1 hc
  cases boundary with
  | closed =>
    cases fits.2 (.inl rfl)
    rfl
  | spaced =>
    cases fits.2 (.inr rfl)
    rfl
  | name => exact dividing admitted
  | reference => exact dividing (Bool.and_eq_true_iff.mp admitted).1

end Boundary

namespace Fragment

theorem scan_chars (fragment : Fragment) (boundary : Boundary) (reading : Reading)
    (fits : boundary.Fits reading) (spaced : fragment.isSpaced boundary = true) :
    (scan reading fragment.chars).2.isSettled = true ∧
      (scan reading fragment.chars).1 ++ (scan reading fragment.chars).2.flush =
        reading.flush ++ fragment.tokens := by
  induction fragment generalizing boundary reading with
  | nil => exact ⟨fits.1, by simp [chars]⟩
  | cons piece rest ih =>
    simp only [isSpaced, Bool.and_eq_true] at spaced
    obtain ⟨⟨sound, admitted⟩, spaced⟩ := spaced
    obtain ⟨settled, tail⟩ := ih _ _ (boundary.fits_next sound) spaced
    have split : chars (piece :: rest) = piece.chars ++ chars rest := rfl
    rw [split, scan_append, Boundary.scan_chars fits admitted]
    refine ⟨settled, ?_⟩
    rw [List.append_assoc, tail, tokens_cons, ← (Piece.reads sound).2]
    simp only [List.append_assoc]

/-- The text of a spaced fragment is read as its tokens. -/
theorem lex_render {fragment : Fragment} (spaced : fragment.isSpaced .closed = true) :
    lex fragment.render = some fragment.tokens := by
  apply lex_of_reads
  rw [toList_render]
  exact scan_chars fragment .closed .gap ⟨rfl, fun _ => rfl⟩ spaced

end Fragment

/-- The names at the start of a list of tokens, as far as points connect them. -/
def leadingPath : List Token → List String
  | first :: .mark '.' :: rest =>
    match first.name? with
    | some name => name :: leadingPath rest
    | none => []
  | first :: _ => first.name?.toList
  | [] => []

/-- The references in a list of tokens: what a dollar sign stands in front of. -/
def references : List Token → List (List String)
  | [] => []
  | .mark '$' :: rest => leadingPath rest :: references rest
  | _ :: rest => references rest

theorem references_of_not_mem (tokens rest : List Token) (h : .mark '$' ∉ tokens) :
    references (tokens ++ rest) = references rest := by
  induction tokens with
  | nil => rfl
  | cons token tokens ih =>
    simp only [List.mem_cons, not_or] at h
    rw [List.cons_append, references, ih h.2]
    exact fun he => h.1 he.symm

theorem mark_ne_ofName (c : Char) (name : String) : Token.mark c ≠ .ofName name := by
  intro h
  have names := congrArg Token.name? h
  rw [Token.name?_ofName] at names
  cases names

theorem dollar_not_mem_pathTokens (path : List String) : .mark '$' ∉ pathTokens path := by
  induction path with
  | nil => simp [pathTokens]
  | cons name rest ih =>
    cases rest with
    | nil => simp [pathTokens, mark_ne_ofName]
    | cons next rest =>
      simp only [pathTokens, List.mem_cons, mark_ne_ofName, Token.mark.injEq, false_or, not_or]
      exact ⟨by decide, by simpa [pathTokens] using ih⟩

/-- A path ends where no point follows. -/
theorem leadingPath_pathTokens {path : List String} (hpath : path ≠ []) (rest : List Token)
    (hrest : rest.head? ≠ some (.mark '.')) : leadingPath (pathTokens path ++ rest) = path := by
  induction path with
  | nil => exact absurd rfl hpath
  | cons name names ih =>
    cases names with
    | nil =>
      cases rest with
      | nil => simp [pathTokens, leadingPath]
      | cons token rest =>
        have : token ≠ .mark '.' := by simpa using hrest
        rw [pathTokens, List.cons_append, List.nil_append, leadingPath]
        · simp
        · intro _ he
          simp_all
    | cons next names =>
      have tail := ih (by simp)
      simp only [pathTokens, List.cons_append, leadingPath, Token.name?_ofName] at tail ⊢
      rw [tail]

theorem Reading.eq_gap_of_flush {reading : Reading} (settled : reading.isSettled = true)
    (h : reading.flush = []) : reading = .gap := by
  cases reading with
  | gap => rfl
  | word _ | tick _ => simp [flush, Reading.finish] at h
  | name _ | text _ | escape _ => simp [isSettled, Reading.finish] at settled

namespace Boundary

theorem next_reference (piece : Piece) : next .reference piece = next .spaced piece := by
  cases piece <;> rfl

theorem next_name (piece : Piece) : next .name piece = next .closed piece := by
  cases piece <;> rfl

/-- White space keeps the boundary, and every other piece makes its own. -/
theorem next_closed (piece : Piece) : next .spaced piece = next .closed piece ∨
    next .closed piece = .closed ∧ next .spaced piece = .spaced := by
  cases piece with
  | fixed s | given s =>
    simp only [next]
    split
    · cases (scan .gap s.toList).1 with
      | nil => exact .inr ⟨rfl, rfl⟩
      | cons token tokens => exact .inl rfl
    · exact .inl rfl
  | var _ | name _ | param _ | literal _ => exact .inl rfl

theorem next_of_tokens_nil {piece : Piece} {boundary : Boundary}
    (sound : piece.isSound = true) (hb : boundary = .reference ∨ boundary = .spaced)
    (h : piece.tokens = []) : boundary.next piece = .spaced := by
  cases piece with
  | fixed s | given s =>
    simp only [Piece.isSound, Bool.and_eq_true] at sound
    obtain ⟨hdone, hflush⟩ := List.append_eq_nil_iff.mp h
    simp only [next, Reading.eq_gap_of_flush sound.1 hflush, if_true, behind, hdone]
    rcases hb with rfl | rfl <;> rfl
  | var _ | name _ | literal _ | param _ => simp [Piece.tokens] at h

end Boundary

namespace Fragment

/-- Behind a reference no spaced fragment begins with a point. -/
theorem head?_tokens_ne_point {fragment : Fragment} {boundary : Boundary}
    (hb : boundary = .reference ∨ boundary = .spaced)
    (spaced : fragment.isSpaced boundary = true) :
    fragment.tokens.head? ≠ some (.mark '.') := by
  induction fragment generalizing boundary with
  | nil => simp
  | cons piece rest ih =>
    simp only [isSpaced, Bool.and_eq_true] at spaced
    obtain ⟨⟨sound, admitted⟩, spaced⟩ := spaced
    cases ht : piece.tokens with
    | nil =>
      rw [tokens_cons, ht, List.nil_append]
      exact ih (.inr rfl) (Boundary.next_of_tokens_nil sound hb ht ▸ spaced)
    | cons token tokens =>
      have noPoint : piece.isPoint = false := by
        rcases hb with rfl | rfl
        · simpa using (Bool.and_eq_true_iff.mp admitted).2
        · simpa [Boundary.admits] using admitted
      simpa [Piece.isPoint, ht] using noPoint

/-- The references in a spaced fragment are its parameters. -/
theorem references_tokens {fragment : Fragment} {boundary : Boundary}
    (spaced : fragment.isSpaced boundary = true) :
    references fragment.tokens = fragment.params := by
  induction fragment generalizing boundary with
  | nil => rfl
  | cons piece rest ih =>
    simp only [isSpaced, Bool.and_eq_true] at spaced
    obtain ⟨⟨sound, _⟩, spaced⟩ := spaced
    rw [tokens_cons]
    cases piece with
    | fixed s | given s =>
      simp only [Piece.isSound, Bool.and_eq_true, Bool.not_eq_true', List.contains_eq_mem,
        decide_eq_false_iff_not] at sound
      rw [Piece.tokens, references_of_not_mem _ _ sound.2, ih spaced]
      rfl
    | var s | literal s =>
      rw [references_of_not_mem _ _ (by simp [Piece.tokens]), ih spaced]
      rfl
    | name s =>
      rw [references_of_not_mem _ _ (by simp [Piece.tokens, mark_ne_ofName]), ih spaced]
      rfl
    | param path =>
      have hpath : path ≠ [] := by simpa [Piece.isSound] using sound
      have noPoint := head?_tokens_ne_point (.inl rfl) spaced
      rw [Piece.tokens, List.cons_append, references, leadingPath_pathTokens hpath _ noPoint,
        references_of_not_mem _ _ (dollar_not_mem_pathTokens path), ih spaced]
      rfl

/-- A spaced fragment has no reference without a name. -/
theorem ne_nil_of_mem_params {fragment : Fragment} {boundary : Boundary}
    (spaced : fragment.isSpaced boundary = true) {path : List String}
    (hpath : path ∈ fragment.params) : path ≠ [] := by
  rw [mem_params] at hpath
  induction fragment generalizing boundary with
  | nil => cases hpath
  | cons piece rest ih =>
    simp only [isSpaced, Bool.and_eq_true] at spaced
    rcases List.mem_cons.mp hpath with rfl | hpath
    · simpa [Piece.isSound] using spaced.1.1
    · exact ih spaced.2 hpath

theorem isSpaced_closed_of_spaced {fragment : Fragment}
    (h : fragment.isSpaced .spaced = true) : fragment.isSpaced .closed = true := by
  induction fragment with
  | nil => rfl
  | cons piece rest ih =>
    simp only [isSpaced, Bool.and_eq_true] at h ⊢
    obtain ⟨⟨sound, _⟩, h⟩ := h
    refine ⟨⟨sound, rfl⟩, ?_⟩
    rcases Boundary.next_closed piece with same | ⟨hclosed, hspaced⟩
    · exact same ▸ h
    · rw [hspaced] at h
      rw [hclosed]
      exact ih h

/-- The end of a reference is the strictest boundary. -/
theorem isSpaced_of_reference {fragment : Fragment} (boundary : Boundary)
    (h : fragment.isSpaced .reference = true) : fragment.isSpaced boundary = true := by
  have strict : fragment.isSpaced .spaced = true ∧ fragment.isSpaced .name = true := by
    cases fragment with
    | nil => exact ⟨rfl, rfl⟩
    | cons piece rest =>
      simp only [isSpaced, Bool.and_eq_true, Boundary.admits] at h ⊢
      obtain ⟨⟨sound, dividing, noPoint⟩, h⟩ := h
      rw [Boundary.next_reference] at h
      refine ⟨⟨⟨sound, noPoint⟩, h⟩, ⟨sound, dividing⟩, ?_⟩
      rw [Boundary.next_name]
      rcases Boundary.next_closed piece with same | ⟨hclosed, hspaced⟩
      · exact same ▸ h
      · rw [hspaced] at h
        rw [hclosed]
        exact isSpaced_closed_of_spaced h
  cases boundary with
  | closed => exact isSpaced_closed_of_spaced strict.1
  | name => exact strict.2
  | reference => exact h
  | spaced => exact strict.1

end Fragment

end CypherSynthesis.Cypher
