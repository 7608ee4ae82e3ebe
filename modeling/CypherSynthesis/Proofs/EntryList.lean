import CypherSynthesis.Proofs.ProjectionEntries

/-!
The entries of a projection, found again among its tokens. A comma divides two entries unless it
stands inside braces of its own; names are single tokens, so a comma in a quoted name divides nothing.
Main statement: what the flat projector writes has one entry for each projected selection, in their
order and under their response keys.
-/

namespace CypherSynthesis

namespace Cypher

/-- How many braces are open behind a token. -/
def nextDepth (depth : Nat) (token : Token) : Nat :=
  if token = .mark '\x7b' then depth + 1
  else if token = .mark '\x7d' then depth - 1
  else depth

/-- The entries of a map from inside of `depth` further braces, where `entry` has been read of the
first of them. -/
def entriesFrom (depth : Nat) (entry : List Token) : List Token → List (List Token)
  | [] => [entry]
  | token :: rest =>
    if token = .mark ',' ∧ depth = 0 then entry :: entriesFrom 0 [] rest
    else entriesFrom (nextDepth depth token) (entry ++ [token]) rest

/-- The entries between the braces of a map. -/
def entries (tokens : List Token) : List (List Token) :=
  if tokens.isEmpty then [] else entriesFrom 0 [] tokens

/-- The key that an entry has in the map. -/
def entryKey? : List Token → Option String
  | [.mark '.', property] => property.name?
  | key :: .mark ':' :: _ => key.name?
  | _ => none

theorem entryKey?_ofName (key : String) (rest : List Token) :
    entryKey? (.ofName key :: .mark ':' :: rest) = some key := by
  unfold Token.ofName
  split <;> rfl

/-- Inside of `depth` braces no entry ends among the tokens, and they close what they open. -/
def Unbroken (depth : Nat) (tokens : List Token) : Prop :=
  ∀ entry rest, entriesFrom depth entry (tokens ++ rest) = entriesFrom depth (entry ++ tokens) rest

namespace Unbroken

theorem nil (depth : Nat) : Unbroken depth [] := by
  intro entry rest
  rw [List.nil_append, List.append_nil]

theorem append {depth : Nat} {before after : List Token} (h : Unbroken depth before)
    (h' : Unbroken depth after) : Unbroken depth (before ++ after) := by
  intro entry rest
  rw [List.append_assoc, h, h', List.append_assoc]

/-- A token that is neither a comma nor a brace. -/
theorem token (depth : Nat) {token : Token} (hcomma : token ≠ .mark ',')
    (hopen : token ≠ .mark '\x7b') (hclose : token ≠ .mark '\x7d') : Unbroken depth [token] := by
  intro entry rest
  have level : nextDepth depth token = depth := by
    rw [nextDepth, if_neg hopen, if_neg hclose]
  rw [List.singleton_append, entriesFrom, if_neg fun h => hcomma h.1, level]

theorem of_plain (depth : Nat) {tokens : List Token} (hcomma : .mark ',' ∉ tokens)
    (hopen : .mark '\x7b' ∉ tokens) (hclose : .mark '\x7d' ∉ tokens) : Unbroken depth tokens := by
  induction tokens with
  | nil => exact nil depth
  | cons first rest ih =>
    rw [List.mem_cons, not_or] at hcomma hopen hclose
    have here := token depth (Ne.symm hcomma.1) (Ne.symm hopen.1) (Ne.symm hclose.1)
    exact here.append (ih hcomma.2 hopen.2 hclose.2)

/-- Inside of a brace a comma divides nothing. -/
theorem comma (depth : Nat) : Unbroken (depth + 1) [.mark ','] := by
  intro entry rest
  have inside : ¬ (Token.mark ',' = .mark ',' ∧ depth + 1 = 0) := fun h => by omega
  rw [List.singleton_append, entriesFrom, if_neg inside]
  rfl

theorem braced {depth : Nat} {tokens : List Token} (h : Unbroken (depth + 1) tokens) :
    Unbroken depth (.mark '\x7b' :: tokens ++ [.mark '\x7d']) := by
  intro entry rest
  have opening (entry rest : List Token) : entriesFrom depth entry (.mark '\x7b' :: rest) =
      entriesFrom (depth + 1) (entry ++ [.mark '\x7b']) rest := by
    rw [entriesFrom, if_neg (by simp)]
    rfl
  have closing (entry rest : List Token) : entriesFrom (depth + 1) entry (.mark '\x7d' :: rest) =
      entriesFrom depth (entry ++ [.mark '\x7d']) rest := by
    rw [entriesFrom, if_neg (by simp)]
    rfl
  rw [List.append_assoc, List.cons_append, opening, h, List.singleton_append, closing]
  simp

theorem listed {depth : Nat} {fragments : List Fragment}
    (h : ∀ fragment ∈ fragments, Unbroken (depth + 1) fragment.tokens) :
    Unbroken (depth + 1) (Fragment.listed fragments).tokens := by
  have divided : Fragment.tokens [.fixed ", "] = [.mark ','] := rfl
  induction fragments with
  | nil => exact nil (depth + 1)
  | cons first rest ih =>
    have front := h first List.mem_cons_self
    have tail := ih fun other hother => h other (List.mem_cons_of_mem first hother)
    cases rest with
    | nil => exact front
    | cons second rest =>
      have whole := (front.append (comma depth)).append tail
      rw [← divided, ← Fragment.tokens_append, ← Fragment.tokens_append] at whole
      exact whole

end Unbroken

/-- Entries that are listed are found again. -/
theorem entriesFrom_trailing {first : Fragment} {rest : List Fragment}
    (hfirst : Unbroken 0 first.tokens) (hrest : ∀ fragment ∈ rest, Unbroken 0 fragment.tokens) :
    entriesFrom 0 [] (first.tokens ++ (Fragment.trailing rest).tokens) =
      first.tokens :: rest.map Fragment.tokens := by
  induction rest generalizing first with
  | nil =>
    rw [hfirst]
    rfl
  | cons second rest ih =>
    have tail := ih (hrest second List.mem_cons_self) fun other hother =>
      hrest other (List.mem_cons_of_mem second hother)
    have divided : (Fragment.trailing (second :: rest)).tokens =
        .mark ',' :: (second.tokens ++ (Fragment.trailing rest).tokens) := by
      simp [Fragment.trailing]
      rfl
    rw [hfirst, divided, List.nil_append, entriesFrom, if_pos ⟨rfl, rfl⟩, tail, List.map_cons]

theorem entries_listed {fragments : List Fragment}
    (h : ∀ fragment ∈ fragments, Unbroken 0 fragment.tokens ∧ fragment.tokens ≠ []) :
    entries (Fragment.listed fragments).tokens = fragments.map Fragment.tokens := by
  cases fragments with
  | nil => rfl
  | cons first rest =>
    obtain ⟨hfirst, nonempty⟩ := h first List.mem_cons_self
    have hrest (fragment : Fragment) (hmem : fragment ∈ rest) : Unbroken 0 fragment.tokens :=
      (h fragment (List.mem_cons_of_mem first hmem)).1
    rw [entries, Fragment.listed_cons, Fragment.tokens_append, if_neg (by simp [nonempty]),
      entriesFrom_trailing hfirst hrest, List.map_cons]

end Cypher

open Cypher (Fragment Token Unbroken entryKey?)

namespace Projection

theorem unbroken_leaf (depth : Nat) (node : String) (bare : Bool) (selection : Selection) :
    Unbroken depth (leaf node bare selection).tokens := by
  unfold leaf
  split
  · rw [tokens_internalId]
    apply Unbroken.of_plain <;> simp [Cypher.mark_ne_ofName]
  · split
    · rw [tokens_shorthand]
      apply Unbroken.of_plain <;> simp [Cypher.mark_ne_ofName]
    · rw [tokens_full]
      apply Unbroken.of_plain <;> simp [Cypher.mark_ne_ofName]

theorem unbroken_endpointField {depth : Nat} {parent : Selection} {node : String}
    {selection : Selection} {fragment : Fragment}
    (h : endpointField parent node selection = .ok fragment) : Unbroken depth fragment.tokens := by
  unfold endpointField at h
  split at h
  · rw [← Except.ok.inj h]
    exact unbroken_leaf depth node false selection
  · cases h

/-- One end of a relationship is one entry, whatever its fields are. -/
theorem unbroken_endpoint {depth : Nat} {selection : Selection} {node : String}
    {fragment : Fragment} (h : endpoint selection node = .ok fragment) :
    Unbroken depth fragment.tokens := by
  obtain ⟨fields, hfields, hfragment⟩ := exists_of_bind_eq_ok h
  have inner : Unbroken (depth + 1) (Fragment.listed fields).tokens :=
    Unbroken.listed (forall_mem_of_mapM hfields fun _ _ => unbroken_endpointField)
  have front : Unbroken depth
      [.ofName selection.responseKey, .mark ':', .word (Cypher.sanitize node)] := by
    apply Unbroken.of_plain <;> simp [Cypher.mark_ne_ofName]
  rw [← Except.ok.inj hfragment, Fragment.tokens_append, tokens_endpointKey, tokens_braced]
  exact front.append inner.braced

theorem unbroken_entry {depth : Nat} {request : SelectionRequest} {selection : Selection}
    {fragment : Fragment} (h : entry request selection = .ok fragment) :
    Unbroken depth fragment.tokens := by
  unfold entry at h
  split at h
  · rw [← Except.ok.inj h]
    exact unbroken_leaf depth _ _ selection
  · split at h
    · exact unbroken_endpoint h
    · cases h

theorem entryKey?_leaf (node : String) (bare : Bool) (selection : Selection) :
    entryKey? (leaf node bare selection).tokens = some selection.responseKey := by
  unfold leaf
  split
  · rw [tokens_internalId]
    exact Cypher.entryKey?_ofName _ _
  · split
    · rw [tokens_shorthand]
      exact Token.name?_ofName _
    · rw [tokens_full]
      exact Cypher.entryKey?_ofName _ _

theorem entryKey?_entry {request : SelectionRequest} {selection : Selection} {fragment : Fragment}
    (h : entry request selection = .ok fragment) :
    entryKey? fragment.tokens = some selection.responseKey := by
  unfold entry at h
  split at h
  · rw [← Except.ok.inj h]
    exact entryKey?_leaf _ _ selection
  · split at h
    · obtain ⟨fields, -, hfragment⟩ := exists_of_bind_eq_ok h
      rw [← Except.ok.inj hfragment, Fragment.tokens_append, tokens_endpointKey, tokens_braced]
      exact Cypher.entryKey?_ofName _ _
    · cases h

/-- Fragments that are made for selections and listed are found again, each under its key. -/
theorem entries_of_mapM {make : Selection → Except SynthesisError Fragment}
    {selections : List Selection} {fragments : List Fragment}
    (h : selections.mapM make = .ok fragments)
    (unbroken : ∀ selection fragment, make selection = .ok fragment → Unbroken 0 fragment.tokens)
    (keyed : ∀ selection fragment, make selection = .ok fragment →
      entryKey? fragment.tokens = some selection.responseKey) :
    ∃ part : Selection → Fragment,
      Cypher.entries (Fragment.listed fragments).tokens =
        selections.map (fun selection => (part selection).tokens) ∧
      ∀ selection ∈ selections, make selection = .ok (part selection) := by
  obtain ⟨part, rfl, hpart⟩ := exists_map_of_mapM h
  refine ⟨part, ?_, hpart⟩
  rw [Cypher.entries_listed, List.map_map]
  · rfl
  · intro fragment hfragment
    obtain ⟨selection, hselection, rfl⟩ := List.mem_map.mp hfragment
    have made := hpart selection hselection
    -- An entry has a key, so it is not empty.
    refine ⟨unbroken selection _ made, fun empty => ?_⟩
    have key := keyed selection _ made
    rw [empty] at key
    cases key

/-- The entries of a flat projection are those of the projected selections. -/
theorem entries_flat {request : SelectionRequest} {projection : Projection}
    (h : flat request = .ok projection) :
    ∃ part : Selection → Fragment,
      Cypher.entries projection.fragment.tokens =
        (projected request.selections).map (fun selection => (part selection).tokens) ∧
      ∀ selection ∈ projected request.selections, entry request selection = .ok (part selection) := by
  obtain ⟨fragments, hfragments, hprojection⟩ := exists_of_bind_eq_ok h
  rw [← Except.ok.inj hprojection]
  exact entries_of_mapM hfragments (fun _ _ => unbroken_entry) fun _ _ => entryKey?_entry

end Projection

end CypherSynthesis
