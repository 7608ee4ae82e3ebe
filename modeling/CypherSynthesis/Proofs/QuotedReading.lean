import CypherSynthesis.Proofs.Plans
import CypherSynthesis.Proofs.Spelling

/-!
Names and string literals, read back one at a time. Here one name or one literal is taken from the
front of a text, and the text behind it is handed on as it is. Main statements: a name as it stands in
a statement is read as that name and nothing more, so different names and different parameter paths
have different texts; a string literal ends at its own closing quote and stands for the text that was
written, in particular where a custom statement is handed to the procedure that runs it.
-/

namespace CypherSynthesis

namespace Cypher

/-- The name whose opening backtick has been read, and the text behind its closing one. Two backticks
stand for one in the name; one alone ends it. -/
def quotedChars? : List Char → Option (List Char × List Char)
  | [] => none
  | c :: rest =>
    if c = backtick then
      match rest with
      | [] => some ([], [])
      | d :: behind =>
        if d = backtick then (quotedChars? behind).map (Prod.map (backtick :: ·) id)
        else some ([], d :: behind)
    else (quotedChars? rest).map (Prod.map (c :: ·) id)

/-- The name at the front: a name between backticks, or a plain word up to its last character. -/
def nameChars? : List Char → Option (List Char × List Char)
  | [] => none
  | c :: rest =>
    if c = backtick then quotedChars? rest
    else if isWordStart c then
      some ((c :: rest).takeWhile isWordChar, (c :: rest).dropWhile isWordChar)
    else none

/-- Reads one name, and gives it with the text behind it. -/
def readName? (text : String) : Option (String × String) :=
  (nameChars? text.toList).map (Prod.map String.ofList String.ofList)

theorem quotedChars?_cons_of_ne {c : Char} (hc : c ≠ backtick) (rest : List Char) :
    quotedChars? (c :: rest) = (quotedChars? rest).map (Prod.map (c :: ·) id) := by
  cases rest <;> simp [quotedChars?, hc]

theorem quotedChars?_doubleBackticks (cs rest : List Char) (h : rest.head? ≠ some backtick) :
    quotedChars? (doubleBackticks cs ++ backtick :: rest) = some (cs, rest) := by
  induction cs with
  | nil =>
    cases rest with
    | nil => rfl
    | cons d behind =>
      have hd : d ≠ backtick := by simpa using h
      simp [doubleBackticks, quotedChars?, hd]
  | cons c cs ih =>
    by_cases hc : c = backtick
    · simp [doubleBackticks, hc, quotedChars?, ih]
    · simp [doubleBackticks, hc, quotedChars?_cons_of_ne hc, ih]

theorem ne_backtick_of_isWordStart {c : Char} (h : isWordStart c = true) : c ≠ backtick := by
  rintro rfl
  exact absurd h (by decide)

/-- A word ends where the text goes on with a character that divides. -/
theorem takeWhile_isWordChar {cs rest : List Char} (hcs : ∀ c ∈ cs, isWordChar c = true)
    (hrest : rest.head?.all divides = true) :
    (cs ++ rest).takeWhile isWordChar = cs ∧ (cs ++ rest).dropWhile isWordChar = rest := by
  have none_taken : rest.takeWhile isWordChar = [] ∧ rest.dropWhile isWordChar = rest := by
    cases rest with
    | nil => exact ⟨rfl, rfl⟩
    | cons c behind =>
      have hc : isWordChar c = false := by
        simp only [List.head?_cons, Option.all_some, divides, Bool.and_eq_true,
          Bool.not_eq_true'] at hrest
        exact hrest.1
      simp [hc]
  rw [List.takeWhile_append_of_pos hcs, List.dropWhile_append_of_pos hcs, none_taken.1,
    none_taken.2, List.append_nil]
  exact ⟨rfl, rfl⟩

theorem nameChars?_quoteChars (cs : List Char) {rest : List Char}
    (h : rest.head?.all divides = true) : nameChars? (quoteChars cs ++ rest) = some (cs, rest) := by
  by_cases hplain : isPlainWord cs = true
  · obtain ⟨taken, left⟩ := takeWhile_isWordChar (isWordChar_of_isPlainWord hplain) h
    rw [quoteChars, if_pos hplain]
    cases cs with
    | nil => exact absurd hplain (by decide)
    | cons c tail =>
      have start : isWordStart c = true := (Bool.and_eq_true_iff.mp hplain).1
      rw [List.cons_append] at taken left ⊢
      rw [nameChars?, if_neg (ne_backtick_of_isWordStart start), if_pos start, taken, left]
  · have lone : rest.head? ≠ some backtick := by
      intro hhead
      rw [hhead] at h
      exact absurd h (by decide)
    rw [quoteChars, if_neg hplain, List.cons_append, nameChars?, if_pos rfl, List.append_assoc]
    exact quotedChars?_doubleBackticks cs rest lone

/-- A name as it stands in a statement is read as that name, and what follows is left. -/
theorem readName?_quote (name : String) {rest : String}
    (h : rest.toList.head?.all divides = true) :
    readName? (quote name ++ rest) = some (name, rest) := by
  rw [readName?, String.toList_append, quote, String.toList_ofList, nameChars?_quoteChars _ h]
  simp

theorem quote_injective : Function.Injective quote := by
  intro name name' same
  have read (name : String) : readName? (quote name) = some (name, "") := by
    have alone := @readName?_quote name "" rfl
    rwa [String.append_empty] at alone
  have both := (read name).symm.trans (same ▸ read name')
  exact (Prod.mk.inj (Option.some.inj both)).1

theorem pathTokens_injective : Function.Injective pathTokens := by
  have nonempty (name : String) (rest : List String) : pathTokens (name :: rest) ≠ [] := by
    cases rest <;> simp [pathTokens]
  intro path path' same
  cases path with
  | nil =>
    cases path' with
    | nil => rfl
    | cons name rest => exact absurd same.symm (nonempty name rest)
  | cons name rest =>
    cases path' with
    | nil => exact absurd same (nonempty name rest)
    | cons name' rest' =>
      have read := leadingPath_pathTokens (List.cons_ne_nil name rest) [] (by simp)
      have read' := leadingPath_pathTokens (List.cons_ne_nil name' rest') [] (by simp)
      exact read.symm.trans (same ▸ read')

/-- Different paths have different references. -/
theorem reference_injective : Function.Injective reference := by
  intro path path' same
  have read := lex_of_reads (reads_reference path)
  rw [same, lex_of_reads (reads_reference path')] at read
  exact (pathTokens_injective (List.cons.inj (Option.some.inj read)).2).symm

/-- A name is one token that stands for exactly this name, wherever the text goes on with something
that is no part of a name. So no two names are written alike, and no two parameters. -/
theorem names_read_back :
    (∀ name rest : String, rest.toList.head?.all divides = true →
      readName? (quote name ++ rest) = some (name, rest)) ∧
    Function.Injective quote ∧
    Function.Injective fun parameter : Option String × String =>
      reference (Predicate.path parameter.1 parameter.2) := by
  refine ⟨fun name rest h => readName?_quote name h, quote_injective, ?_⟩
  rintro ⟨parent, key⟩ ⟨parent', key'⟩ same
  have paths : Predicate.path parent key = Predicate.path parent' key' := reference_injective same
  cases parent <;> cases parent' <;> simp_all [Predicate.path]

/-- Names without a character, of backticks alone, and with a backtick and a line break at the end. -/
theorem names_read_back_strange :
    ") DETACH DELETE (n)".toList.head?.all divides = true ∧
    readName? ("``" ++ ") DETACH DELETE (n)") = some ("", ") DETACH DELETE (n)") ∧
    readName? ("``````" ++ ") DETACH DELETE (n)") = some ("``", ") DETACH DELETE (n)") ∧
    readName? ("`n) //``\n`" ++ ") DETACH DELETE (n)") = some ("n) //`\n", ") DETACH DELETE (n)") ∧
    reference ["a.b"] ≠ reference ["a", "b"] := by
  obtain ⟨read, -, apart⟩ := names_read_back
  have divided : ") DETACH DELETE (n)".toList.head?.all divides = true := by decide
  refine ⟨divided, read "" _ divided, read "``" _ divided, read "n) //`\n" _ divided, fun same => ?_⟩
  exact absurd (@apart (none, "a.b") (some "a", "b") same) (by decide)

/-- The text of a literal whose opening quote has been read, and what stands behind its closing one. A
backslash makes the character behind it part of the text, whatever that is. -/
def textChars? : List Char → Option (List Char × List Char)
  | [] => none
  | c :: rest =>
    if c = '"' then some ([], rest)
    else if c = '\\' then
      match rest with
      | [] => none
      | d :: behind => (textChars? behind).map (Prod.map (d :: ·) id)
    else (textChars? rest).map (Prod.map (c :: ·) id)

/-- The literal at the front. -/
def literalChars? : List Char → Option (List Char × List Char)
  | [] => none
  | c :: rest => if c = '"' then textChars? rest else none

/-- Reads one string literal, and gives its text with what stands behind it. -/
def readLiteral? (text : String) : Option (String × String) :=
  (literalChars? text.toList).map (Prod.map String.ofList String.ofList)

theorem textChars?_cons_of_plain {c : Char} (hquote : c ≠ '"') (hescape : c ≠ '\\')
    (rest : List Char) : textChars? (c :: rest) = (textChars? rest).map (Prod.map (c :: ·) id) := by
  cases rest <;> simp [textChars?, hquote, hescape]

/-- Every quote of the text is behind a backslash, so the first that is not is the closing one. -/
theorem textChars?_escapeText (cs rest : List Char) :
    textChars? (escapeText cs ++ '"' :: rest) = some (cs, rest) := by
  induction cs with
  | nil => cases rest <;> rfl
  | cons c cs ih =>
    by_cases hc : c = '\\' ∨ c = '"'
    · simp [escapeText, hc, textChars?, ih]
    · obtain ⟨hescape, hquote⟩ := not_or.mp hc
      simp [escapeText, hescape, hquote, textChars?_cons_of_plain hquote hescape, ih]

theorem readLiteral?_literal (s rest : String) : readLiteral? (literal s ++ rest) = some (s, rest) := by
  have chars : (literal s ++ rest).toList = '"' :: (escapeText s.toList ++ '"' :: rest.toList) := by
    rw [String.toList_append, toList_literal]
    simp
  rw [readLiteral?, chars, literalChars?, if_pos rfl, textChars?_escapeText]
  simp

theorem escapeText_injective : Function.Injective escapeText := by
  intro cs cs' same
  have read := textChars?_escapeText cs []
  rw [same, textChars?_escapeText cs' []] at read
  exact (Prod.mk.inj (Option.some.inj read)).1.symm

/-- Each occurrence of a character replaced by a text. -/
def replaced (c : Char) (text cs : List Char) : List Char :=
  cs.flatMap fun d => if d = c then text else [d]

/-- Escaping is two replacements: first backslashes are doubled, then one is put in front of quotes. -/
theorem escapeText_eq_replaced (cs : List Char) :
    escapeText cs = replaced '"' ['\\', '"'] (replaced '\\' ['\\', '\\'] cs) := by
  induction cs with
  | nil => rfl
  | cons c cs ih =>
    simp only [replaced, List.flatMap_cons, List.flatMap_append] at ih ⊢
    by_cases hescape : c = '\\'
    · simp [escapeText, hescape, ih]
    · by_cases hquote : c = '"'
      · simp [escapeText, hquote, ih]
      · simp [escapeText, hescape, hquote, ih]

/-- In the other order the backslashes in front of quotes would be doubled too. -/
example : replaced '\\' ['\\', '\\'] (replaced '"' ['\\', '"'] ['"']) ≠ escapeText ['"'] := by
  decide

end Cypher

open Cypher (Fragment literal readLiteral? escapeText replaced)

namespace Query

/-- The text opens with a call, and the first thing that is handed to it is the statement: a literal
that is read as the statement and ends in front of a comma. -/
def Embeds (query : Query) (call statement : String) : Prop :=
  ∃ handed rest, query.text = call ++ handed ∧ readLiteral? handed = some (statement, ", " ++ rest)

theorem embeds_of_statement {query : Query} {call statement : String} {rest : Fragment}
    (h : query.statement = .fixed call :: .literal statement :: .fixed ", " :: rest) :
    query.Embeds call statement := by
  refine ⟨literal statement ++ (", " ++ rest.render), rest.render, ?_,
    Cypher.readLiteral?_literal statement _⟩
  rw [Query.text, h]
  simp only [Fragment.render_cons, Cypher.Piece.render]

end Query

namespace Synthesizer

variable {synthesizer : Synthesizer} {operation : Operation} {query : Query}

theorem customQuery_embeds
    (h : (synthesizer.synthesizeAs .customQuery operation).result = .ok query) :
    ∃ statement, Plan.customStatement synthesizer.settings operation = .ok statement ∧
      query.Embeds "WITH apoc.cypher.runFirstColumn(" statement := by
  obtain ⟨plan, projection, hplan, -, rfl⟩ := synthesizeAs_eq_ok h
  obtain ⟨statement, hstatement, rfl⟩ := Plan.customQuery_eq_ok hplan
  exact ⟨statement, hstatement, Query.embeds_of_statement rfl⟩

theorem customMutation_embeds
    (h : (synthesizer.synthesizeAs .customMutation operation).result = .ok query) :
    ∃ statement, Plan.customStatement synthesizer.settings operation = .ok statement ∧
      query.Embeds "CALL apoc.cypher.doIt(" statement := by
  obtain ⟨plan, projection, hplan, -, rfl⟩ := synthesizeAs_eq_ok h
  obtain ⟨statement, hstatement, rfl⟩ := Plan.customMutation_eq_ok hplan
  exact ⟨statement, hstatement, Query.embeds_of_statement rfl⟩

/-- A literal is read as the text that was written and ends at its closing quote, whatever the text is
and whatever follows. So no two texts are escaped alike, and the custom statement of a query or a
mutation reaches its call as it is and never ends the literal early. -/
theorem statement_embedded :
    (∀ s rest : String, readLiteral? (literal s ++ rest) = some (s, rest)) ∧
    (∀ cs, escapeText cs = replaced '"' ['\\', '"'] (replaced '\\' ['\\', '\\'] cs)) ∧
    Function.Injective escapeText ∧
    ∀ (synthesizer : Synthesizer) (operation : Operation) (query : Query),
      ((synthesizer.synthesizeAs .customQuery operation).result = .ok query →
        ∃ statement, Plan.customStatement synthesizer.settings operation = .ok statement ∧
          query.Embeds "WITH apoc.cypher.runFirstColumn(" statement) ∧
      ((synthesizer.synthesizeAs .customMutation operation).result = .ok query →
        ∃ statement, Plan.customStatement synthesizer.settings operation = .ok statement ∧
          query.Embeds "CALL apoc.cypher.doIt(" statement) :=
  ⟨Cypher.readLiteral?_literal, Cypher.escapeText_eq_replaced, Cypher.escapeText_injective,
    fun _ _ _ => ⟨customQuery_embeds, customMutation_embeds⟩⟩

/-- An operation by a statement that has a quote behind a backslash and ends in two backslashes. -/
def backslashed : Operation :=
  { Operation.new .query "odd" "Odd" with
    selections := [⟨"title", none, []⟩]
    directives := [⟨"cypher", { entries := [("statement", .string "RETURN \"\\\"\" //\\\\")] }⟩] }

theorem statement_embedded_backslashed :
    (∃ query, ((Synthesizer.mk .default Projection.flat .null).synthesizeAs .customQuery
        backslashed).result = .ok query ∧
      query.Embeds "WITH apoc.cypher.runFirstColumn(" "RETURN \"\\\"\" //\\\\") ∧
    (∃ query, ((Synthesizer.mk .default Projection.flat .null).synthesizeAs .customMutation
        backslashed).result = .ok query ∧
      query.Embeds "CALL apoc.cypher.doIt(" "RETURN \"\\\"\" //\\\\") ∧
    readLiteral? ("\"\\\\\\\"\"" ++ "\" + \"") = some ("\\\"", "\" + \"") := by
  obtain ⟨read, -, -, embeds⟩ := statement_embedded
  obtain ⟨asQuery, -⟩ := embeds ⟨.default, Projection.flat, .null⟩ backslashed _
  obtain ⟨-, asMutation⟩ := embeds ⟨.default, Projection.flat, .null⟩ backslashed _
  refine ⟨⟨_, rfl, ?_⟩, ⟨_, rfl, ?_⟩, read "\\\"" "\" + \""⟩
  · obtain ⟨statement, hstatement, embedded⟩ := asQuery rfl
    obtain rfl := Except.ok.inj hstatement
    exact embedded
  · obtain ⟨statement, hstatement, embedded⟩ := asMutation rfl
    obtain rfl := Except.ok.inj hstatement
    exact embedded

end Synthesizer

end CypherSynthesis
