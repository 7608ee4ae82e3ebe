import CypherSynthesis.Cypher.Name
import CypherSynthesis.Text.Basic

/-!
Reading statement text back. A word is a longest run of word characters; a name between backticks
ends at the first backtick that is not doubled; a string ends at the first quote that is not escaped;
white space divides tokens, and any other character is a mark of its own. The reader goes over the
text once, one character at a time, so what it makes of a text is known from what it makes of its
parts. Main statements: a quoted name, a sanitized variable and a string literal are each read as one
token that stands for exactly what was written.
-/

namespace CypherSynthesis.Cypher

/-- A token of statement text. Quoted names and strings are given by what they stand for. -/
inductive Token where
  | word (text : String)
  | quoted (name : String)
  | text (value : String)
  | mark (c : Char)
  deriving DecidableEq, Repr

/-- The name that a token stands for, quoted or not. -/
def Token.name? : Token → Option String
  | .word s | .quoted s => some s
  | .text _ | .mark _ => none

/-- The token of a name: bare if it is plain, quoted otherwise. -/
def Token.ofName (name : String) : Token :=
  if isPlain name then .word name else .quoted name

@[simp] theorem Token.name?_ofName (name : String) : (Token.ofName name).name? = some name := by
  unfold ofName
  split <;> rfl

theorem Token.ofName_of_isPlain {name : String} (h : isPlain name = true) :
    Token.ofName name = .word name := by
  simp only [ofName, h, if_true]

/-- What has been read of a token that may not be complete. -/
inductive Reading where
  | gap
  | word (read : List Char)
  | name (read : List Char)
  /-- A backtick inside a name: its end, unless another one follows. -/
  | tick (read : List Char)
  | text (read : List Char)
  | escape (read : List Char)
  deriving DecidableEq, Repr

namespace Reading

/-- The first character of a token, or white space. -/
def start (c : Char) : List Token × Reading :=
  if isWordChar c then ([], .word [c])
  else if c = backtick then ([], .name [])
  else if c = '"' then ([], .text [])
  else if Text.isBlank c then ([], .gap)
  else ([.mark c], .gap)

/-- The token that ends here, if the text may end here. -/
def finish : Reading → Option (List Token)
  | gap => some []
  | word read => some [.word (String.ofList read)]
  | tick read => some [.quoted (String.ofList read)]
  | name _ | text _ | escape _ => none

/-- The token that ends where a character does not belong to it. -/
def flush (reading : Reading) : List Token :=
  reading.finish.getD []

/-- The token under way ends, and `c` begins what follows. -/
def turn (reading : Reading) (c : Char) : List Token × Reading :=
  (reading.flush ++ (start c).1, (start c).2)

def step : Reading → Char → List Token × Reading
  | gap, c => start c
  | word read, c => if isWordChar c then ([], .word (read ++ [c])) else turn (.word read) c
  | name read, c => if c = backtick then ([], .tick read) else ([], .name (read ++ [c]))
  | tick read, c => if c = backtick then ([], .name (read ++ [c])) else turn (.tick read) c
  | text read, c =>
    if c = '"' then ([.text (String.ofList read)], .gap)
    else if c = '\\' then ([], .escape read)
    else ([], .text (read ++ [c]))
  | escape read, c => ([], .text (read ++ [c]))

/-- The tokens completed along a text, and what is under way at its end. -/
def scan : Reading → List Char → List Token × Reading
  | reading, [] => ([], reading)
  | reading, c :: rest =>
    ((reading.step c).1 ++ (scan (reading.step c).2 rest).1, (scan (reading.step c).2 rest).2)

/-- Whether a text may end here. -/
def isSettled (reading : Reading) : Bool :=
  reading.finish.isSome

end Reading

open Reading (scan)

/-- The tokens of a text; none if a name or a string in it has no end. -/
def lex (text : String) : Option (List Token) :=
  let (tokens, reading) := scan .gap text.toList
  reading.finish.map (tokens ++ ·)

/-- A character that can only begin a new token, whatever name or word stands in front of it. -/
def divides (c : Char) : Bool :=
  !isWordChar c && c != backtick

namespace Reading

@[simp] theorem scan_nil (reading : Reading) : scan reading [] = ([], reading) := rfl

theorem scan_cons (reading : Reading) (c : Char) (rest : List Char) :
    scan reading (c :: rest) =
      ((reading.step c).1 ++ (scan (reading.step c).2 rest).1,
        (scan (reading.step c).2 rest).2) := rfl

theorem scan_append (reading : Reading) (before after : List Char) :
    scan reading (before ++ after) =
      ((scan reading before).1 ++ (scan (scan reading before).2 after).1,
        (scan (scan reading before).2 after).2) := by
  induction before generalizing reading with
  | nil => rfl
  | cons c rest ih => simp only [List.cons_append, scan_cons, ih, List.append_assoc]

theorem step_of_divides {reading : Reading} {c : Char} (settled : reading.isSettled = true)
    (hc : divides c = true) : reading.step c = reading.turn c := by
  simp only [divides, Bool.and_eq_true, Bool.not_eq_true', bne_iff_ne, ne_eq] at hc
  cases reading with
  | gap => simp [step, turn, flush, finish]
  | word read => simp [step, hc.1]
  | tick read => simp [step, hc.2]
  | name _ | text _ | escape _ => simp [isSettled, finish] at settled

/-- In front of a dividing character a token that may end does end. -/
theorem scan_of_divides {reading : Reading} {c : Char} (rest : List Char)
    (settled : reading.isSettled = true) (hc : divides c = true) :
    scan reading (c :: rest) =
      (reading.flush ++ (scan .gap (c :: rest)).1, (scan .gap (c :: rest)).2) := by
  have atGap : step .gap c = turn .gap c := step_of_divides rfl hc
  simp only [scan_cons, step_of_divides settled hc, atGap, turn, show flush .gap = [] from rfl,
    List.nil_append, List.append_assoc]

theorem scan_wordChars (read cs : List Char) (h : cs.all isWordChar = true) :
    scan (.word read) cs = ([], .word (read ++ cs)) := by
  induction cs generalizing read with
  | nil => simp
  | cons c rest ih =>
    obtain ⟨hc, hrest⟩ := Bool.and_eq_true_iff.mp (List.all_cons.symm.trans h)
    simp [scan_cons, step, hc, ih (read ++ [c]) hrest]

end Reading

open Reading (start step flush finish isSettled scan_nil scan_cons scan_append scan_of_divides
  scan_wordChars)

theorem isWordChar_of_isWordStart {c : Char} (h : isWordStart c = true) : isWordChar c = true := by
  simp only [isWordStart, isWordChar, Char.isAlphanum, Bool.or_eq_true] at h ⊢
  rcases h with h | h
  · exact .inl (.inl h)
  · exact .inr h

theorem scan_plainWord {cs : List Char} (h : isPlainWord cs = true) :
    scan .gap cs = ([], .word cs) := by
  cases cs with
  | nil => simp [isPlainWord] at h
  | cons c rest =>
    obtain ⟨hc, hrest⟩ := Bool.and_eq_true_iff.mp h
    simp [scan_cons, step, start, isWordChar_of_isWordStart hc, scan_wordChars [c] rest hrest]

theorem scan_doubleBackticks (read cs : List Char) :
    scan (.name read) (doubleBackticks cs) = ([], .name (read ++ cs)) := by
  induction cs generalizing read with
  | nil => simp [doubleBackticks]
  | cons c rest ih =>
    by_cases hc : c = backtick
    · simp [doubleBackticks, hc, scan_cons, step, ih (read ++ [backtick])]
    · simp [doubleBackticks, hc, scan_cons, step, ih (read ++ [c])]

/-- The token under way after a name as it stands in a statement. -/
def nameReading (cs : List Char) : Reading :=
  if isPlainWord cs then .word cs else .tick cs

theorem scan_quoteChars (cs : List Char) : scan .gap (quoteChars cs) = ([], nameReading cs) := by
  by_cases h : isPlainWord cs = true
  · simp only [quoteChars, nameReading, h, if_true, scan_plainWord h]
  · have opening : step .gap backtick = ([], .name []) := by decide
    have closing : scan (.name cs) [backtick] = ([], .tick cs) := by
      simp only [scan_cons, step, if_true, scan_nil, List.append_nil]
    simp only [quoteChars, nameReading, h, Bool.false_eq_true, if_false]
    rw [scan_cons, opening, scan_append, scan_doubleBackticks]
    simp only [List.nil_append, closing]

theorem isWordChar_of_isPlainWord {cs : List Char} (h : isPlainWord cs = true) :
    ∀ c ∈ cs, isWordChar c = true := by
  cases cs with
  | nil => simp [isPlainWord] at h
  | cons c rest =>
    obtain ⟨hc, hrest⟩ := Bool.and_eq_true_iff.mp h
    intro d hd
    rcases List.mem_cons.mp hd with rfl | hd
    · exact isWordChar_of_isWordStart hc
    · exact List.all_eq_true.mp hrest d hd

theorem isWordChar_wordChar (c : Char) : isWordChar (wordChar c) = true := by
  unfold wordChar
  split
  · assumption
  · decide

theorem isWordStart_eq_false_of_isDigit {c : Char} (h : c.isDigit = true) :
    isWordStart c = false := by
  have range : 48 ≤ c.val.toNat ∧ c.val.toNat ≤ 57 := by
    obtain ⟨lower, upper⟩ := Bool.and_eq_true_iff.mp h
    exact ⟨UInt32.le_iff_toNat_le.mp (of_decide_eq_true lower),
      UInt32.le_iff_toNat_le.mp (of_decide_eq_true upper)⟩
  have outside (low high : UInt32) (h : 57 < low.toNat) : ¬ (c.val ≥ low ∧ c.val ≤ high) := by
    simp only [ge_iff_le, UInt32.le_iff_toNat_le]
    omega
  have upper : c.isUpper = false := decide_eq_false (outside _ _ (by decide))
  have lower : c.isLower = false :=
    (Bool.decide_and (c.val ≥ 97) (c.val ≤ 122)).symm.trans
      (decide_eq_false (outside _ _ (by decide)))
  have other : c ≠ '_' := by
    rintro rfl
    exact absurd range.2 (by decide)
  have letter : c.isAlpha = (c.isUpper || c.isLower) := rfl
  rw [isWordStart, letter, upper, lower, decide_eq_false other]
  rfl

/-- A word can stand without backticks exactly if it needs no underscore in front. -/
theorem isPlainWord_eq_not_lacksStart {word : List Char} (h : word.all isWordChar = true) :
    isPlainWord word = !lacksStart word := by
  cases word with
  | nil => rfl
  | cons c rest =>
    obtain ⟨hc, hrest⟩ := Bool.and_eq_true_iff.mp h
    have digit : isWordStart c = !c.isDigit := by
      cases hdigit : c.isDigit with
      | true => exact isWordStart_eq_false_of_isDigit hdigit
      | false => simpa [isWordChar, isWordStart, Char.isAlphanum, hdigit] using hc
    rw [isPlainWord, hrest, Bool.and_true, digit]
    rfl

theorem isPlainWord_plainWord (cs : List Char) : isPlainWord (plainWord cs) = true := by
  have word : (cs.map wordChar).all isWordChar = true := by
    simp [isWordChar_wordChar]
  unfold plainWord
  dsimp only
  split
  · rw [isPlainWord, word]
    decide
  · rename_i starts
    rw [isPlainWord_eq_not_lacksStart word]
    simpa using starts

theorem plainWord_of_isPlainWord {cs : List Char} (h : isPlainWord cs = true) :
    plainWord cs = cs := by
  have same : cs.map wordChar = cs := by
    refine (List.map_congr_left fun c hc => ?_).trans (List.map_id cs)
    simp only [wordChar, isWordChar_of_isPlainWord h c hc, if_true, id]
  have starts : lacksStart cs = false := by
    have word := List.all_eq_true.mpr (isWordChar_of_isPlainWord h)
    simpa [isPlainWord_eq_not_lacksStart word] using h
  simp [plainWord, same, starts]

/-- Sanitizing a variable again changes nothing. -/
theorem sanitize_sanitize (name : String) : sanitize (sanitize name) = sanitize name := by
  simp only [sanitize, String.toList_ofList, plainWord_of_isPlainWord (isPlainWord_plainWord _)]

theorem scan_escapeText (read cs : List Char) :
    scan (.text read) (escapeText cs) = ([], .text (read ++ cs)) := by
  induction cs generalizing read with
  | nil => simp [escapeText]
  | cons c rest ih =>
    by_cases hc : c = '\\' ∨ c = '"'
    · simp [escapeText, hc, scan_cons, step, ih (read ++ [c])]
    · simp only [not_or] at hc
      simp [escapeText, hc, scan_cons, step, ih (read ++ [c])]

/-- The text is read as the given tokens, wherever nothing that follows can belong to its last one. -/
def Reads (cs : List Char) (tokens : List Token) : Prop :=
  (scan .gap cs).2.isSettled = true ∧ (scan .gap cs).1 ++ (scan .gap cs).2.flush = tokens

theorem lex_of_reads {text : String} {tokens : List Token} (h : Reads text.toList tokens) :
    lex text = some tokens := by
  obtain ⟨settled, htokens⟩ := h
  obtain ⟨last, hlast⟩ := Option.isSome_iff_exists.mp settled
  simp only [flush, hlast, Option.getD_some] at htokens
  simp only [lex, hlast, Option.map_some, htokens]

/-- Two texts are read apart if the second begins with a dividing character. -/
theorem Reads.append {before after : List Char} {first second : List Token} {c : Char}
    (hb : Reads before first) (ha : Reads (c :: after) second) (hc : divides c = true) :
    Reads (before ++ c :: after) (first ++ second) := by
  obtain ⟨settled, rfl⟩ := hb
  obtain ⟨settled', rfl⟩ := ha
  simp only [Reads, scan_append, scan_of_divides after settled hc]
  exact ⟨settled', by simp only [List.append_assoc]⟩

theorem flush_nameReading (name : String) :
    (nameReading name.toList).flush = [Token.ofName name] := by
  unfold nameReading Token.ofName isPlain
  split <;> simp [flush, finish]

theorem isSettled_nameReading (cs : List Char) : (nameReading cs).isSettled = true := by
  unfold nameReading
  split <;> rfl

/-- A name as it stands in a statement is one token, and stands for the name. -/
theorem reads_quote (name : String) : Reads (quote name).toList [Token.ofName name] := by
  simp only [Reads, quote, String.toList_ofList, scan_quoteChars, isSettled_nameReading,
    flush_nameReading, List.nil_append, and_self]

/-- A variable is one word. -/
theorem reads_sanitize (name : String) :
    Reads (sanitize name).toList [Token.word (sanitize name)] := by
  simp only [Reads, sanitize, String.toList_ofList, scan_plainWord (isPlainWord_plainWord _)]
  exact ⟨rfl, rfl⟩

theorem toList_literal (s : String) :
    (literal s).toList = '"' :: (escapeText s.toList ++ ['"']) := by
  simp [literal]

theorem scan_literal (s : String) : scan .gap (literal s).toList = ([.text s], .gap) := by
  have opening : step .gap '"' = ([], .text []) := by decide
  have closing : scan (.text s.toList) ['"'] = ([.text s], .gap) := by
    simp only [scan_cons, step, if_true, scan_nil, String.ofList_toList, List.append_nil]
  rw [toList_literal, scan_cons, opening, scan_append, scan_escapeText]
  simp only [List.nil_append, closing]

/-- A string literal is one token, and stands for the text. -/
theorem reads_literal (s : String) : Reads (literal s).toList [.text s] := by
  simp only [Reads, scan_literal]
  exact ⟨rfl, rfl⟩

/-- The tokens of a path: names with points between them. -/
def pathTokens : List String → List Token
  | [] => []
  | [name] => [.ofName name]
  | name :: rest => .ofName name :: .mark '.' :: pathTokens rest

theorem scan_point (cs : List Char) :
    scan .gap ('.' :: cs) = (.mark '.' :: (scan .gap cs).1, (scan .gap cs).2) := by
  have point : step .gap '.' = ([.mark '.'], .gap) := by decide
  rw [scan_cons, point]
  rfl

theorem reads_path (path : List String) :
    Reads (['.'].intercalate (path.map fun name => (quote name).toList)) (pathTokens path) := by
  induction path with
  | nil => exact ⟨rfl, rfl⟩
  | cons name rest ih =>
    cases rest with
    | nil => simpa [pathTokens] using reads_quote name
    | cons next rest =>
      have tail : Reads ('.' :: ['.'].intercalate
          ((next :: rest).map fun name => (quote name).toList))
          (.mark '.' :: pathTokens (next :: rest)) := by
        simp only [Reads, scan_point]
        exact ⟨ih.1, congrArg _ ih.2⟩
      simpa [pathTokens, List.intercalate_cons_cons] using (reads_quote name).append tail (by decide)

theorem toList_reference (path : List String) : (reference path).toList =
    '$' :: ['.'].intercalate (path.map fun name => (quote name).toList) := by
  simp [reference, String.toList_intercalate, Function.comp_def]

/-- A reference is a dollar sign and the names of its path. -/
theorem reads_reference (path : List String) :
    Reads (reference path).toList (.mark '$' :: pathTokens path) := by
  have dollar : step .gap '$' = ([.mark '$'], .gap) := by decide
  obtain ⟨settled, tokens⟩ := reads_path path
  simp only [Reads, toList_reference, scan_cons, dollar]
  exact ⟨settled, congrArg _ tokens⟩

end CypherSynthesis.Cypher
