import CypherSynthesis.Proofs.Failure
import CypherSynthesis.Proofs.MutationVariables

/-!
Which selections the flat projector takes, and what it makes of them. A selection is flat if it has no
children, or if it is an end of the relationship and its children have none; the type name leaves no
trace and counts as flat. Main statement: the projector succeeds exactly on flat selections, and
otherwise refuses the first one that is not; its text, read back and divided at its own commas, has
one entry for each projected selection, in their order and under their response keys, and so has the
text inside each end of a relationship.
-/

namespace CypherSynthesis

/-- The first element of a list that does not have the property. -/
def FirstWithout {α : Type} (property : α → Prop) (xs : List α) (x : α) : Prop :=
  ∃ before after, xs = before ++ x :: after ∧ (∀ y ∈ before, property y) ∧ ¬ property x

namespace Requirement

variable {α β : Type}

/-- Requirements that are met can be put in front. -/
theorem Guard.prepend {requirements later : List Requirement} {x : Except SynthesisError β}
    (all : AllMet requirements) (h : Guard later x) : Guard (requirements ++ later) x where
  ok hall := h.ok (allMet_append.mp hall).2
  error e he := by
    rcases firstUnmet_append.mp he with he | ⟨-, he⟩
    · exact absurd all he.not_allMet
    · exact h.error e he

/-- A list is gone through in order, and some of its elements are passed over. -/
theorem Guard.traverse {keep : α → Bool} {f : α → Except SynthesisError β}
    {requirements : α → List Requirement}
    (passed : ∀ x, keep x = false → AllMet (requirements x))
    (kept : ∀ x, keep x = true → Guard (requirements x) (f x)) (xs : List α) :
    Guard (xs.flatMap requirements) ((xs.filter keep).mapM f) := by
  induction xs with
  | nil => exact .pure []
  | cons x rest ih =>
    rw [List.flatMap_cons]
    cases hkeep : keep x with
    | false =>
      rw [List.filter_cons_of_neg (by simp [hkeep])]
      exact ih.prepend (passed x hkeep)
    | true =>
      rw [List.filter_cons_of_pos hkeep, List.mapM_cons]
      exact (kept x hkeep).bind fun y _ => ih.map (y :: ·)

theorem Guard.ok_iff {requirements : List Requirement} {x : Except SynthesisError β}
    (h : Guard requirements x) : (∃ y, x = .ok y) ↔ AllMet requirements := by
  refine ⟨fun ⟨y, hy⟩ => ?_, h.ok⟩
  rcases allMet_or_firstUnmet requirements with all | ⟨e, he⟩
  · exact all
  · have failed := h.error e he
    rw [hy] at failed
    cases failed

theorem Guard.error_iff {requirements : List Requirement} {x : Except SynthesisError β}
    (h : Guard requirements x) (e : SynthesisError) : x = .error e ↔ FirstUnmet requirements e := by
  refine ⟨fun hx => ?_, h.error e⟩
  rcases allMet_or_firstUnmet requirements with all | ⟨e', he⟩
  · obtain ⟨y, hy⟩ := h.ok all
    rw [hx] at hy
    cases hy
  · have failed := h.error e' he
    rw [hx] at failed
    rwa [Except.error.inj failed]

theorem allMet_flatMap {requirements : α → List Requirement} {xs : List α} :
    AllMet (xs.flatMap requirements) ↔ ∀ x ∈ xs, AllMet (requirements x) := by
  induction xs with
  | nil => simp [allMet_nil]
  | cons x rest ih => rw [List.flatMap_cons, allMet_append, ih, List.forall_mem_cons]

theorem firstUnmet_flatMap {requirements : α → List Requirement} {xs : List α}
    {e : SynthesisError} :
    FirstUnmet (xs.flatMap requirements) e ↔
      ∃ x, FirstWithout (fun x => AllMet (requirements x)) xs x ∧ FirstUnmet (requirements x) e := by
  induction xs with
  | nil => simp [FirstUnmet, FirstWithout]
  | cons x rest ih =>
    rw [List.flatMap_cons, firstUnmet_append, ih]
    constructor
    · rintro (he | ⟨all, y, ⟨before, after, hrest, hbefore, hy⟩, he⟩)
      · exact ⟨x, ⟨[], rest, rfl, by simp, he.not_allMet⟩, he⟩
      · have earlier : ∀ z ∈ x :: before, AllMet (requirements z) :=
          List.forall_mem_cons.mpr ⟨all, hbefore⟩
        exact ⟨y, ⟨x :: before, after, congrArg (x :: ·) hrest, earlier, hy⟩, he⟩
    · rintro ⟨y, ⟨before, after, hsplit, hbefore, hy⟩, he⟩
      cases before with
      | nil =>
        rw [List.nil_append] at hsplit
        obtain ⟨rfl, rfl⟩ := List.cons.inj hsplit
        exact .inl he
      | cons first before =>
        rw [List.cons_append] at hsplit
        obtain ⟨rfl, hrest⟩ := List.cons.inj hsplit
        obtain ⟨all, hbefore⟩ := List.forall_mem_cons.mp hbefore
        exact .inr ⟨all, y, ⟨before, after, hrest, hbefore, hy⟩, he⟩

end Requirement

open Cypher (Fragment Token entryKey?)
open Requirement (Guard AllMet FirstUnmet)

namespace Projection

/-- A field without children, or one that leaves no trace. -/
def Shallow (selection : Selection) : Prop :=
  selection.name = typenameField ∨ selection.isLeaf = true

/-- An end of the relationship that the projection is around. -/
def IsEnd (linkage : Option Linkage) (selection : Selection) : Prop :=
  linkage.isSome = true ∧ (selection.name = sourceField ∨ selection.name = targetField)

/-- A selection that can be projected without knowing the schema. -/
def Flat (linkage : Option Linkage) (selection : Selection) : Prop :=
  Shallow selection ∨
    (IsEnd linkage selection ∧ ∀ child ∈ selection.selections, Shallow child)

instance (selection : Selection) : Decidable (Shallow selection) :=
  inferInstanceAs (Decidable (_ ∨ _))

instance (linkage : Option Linkage) (selection : Selection) :
    Decidable (IsEnd linkage selection) :=
  inferInstanceAs (Decidable (_ ∧ _))

instance (linkage : Option Linkage) (selection : Selection) : Decidable (Flat linkage selection) :=
  inferInstanceAs (Decidable (_ ∨ _))

/-- The error for a field with children that is no end of a relationship. -/
def nestedError (request : SelectionRequest) (selection : Selection) : SynthesisError :=
  .selection ("nested selection '" ++ selection.name ++ "' on " ++ request.schemaType.name ++
    " needs a schema-aware selection compiler")

/-- The error for a field with children inside an end of a relationship. -/
def nestedChildError (parent child : Selection) : SynthesisError :=
  .selection ("nested selection '" ++ parent.name ++ "." ++ child.name ++
    "' needs a schema-aware selection compiler")

/-- Why a selection is refused: an end of the relationship for the first of its children that has
children, any other for itself. -/
def Refused (request : SelectionRequest) (selection : Selection) (e : SynthesisError) : Prop :=
  (IsEnd request.linkage selection ∧
    ∃ child, FirstWithout Shallow selection.selections child ∧
      e = nestedChildError selection child) ∨
  (¬ IsEnd request.linkage selection ∧ e = nestedError request selection)

/-- What the children of an end have to meet. -/
def childRequirement (parent child : Selection) : List Requirement :=
  [⟨Shallow child, nestedChildError parent child⟩]

/-- What a selection has to meet. -/
def requirements (request : SelectionRequest) (selection : Selection) : List Requirement :=
  if Shallow selection then []
  else if IsEnd request.linkage selection then
    selection.selections.flatMap (childRequirement selection)
  else [⟨False, nestedError request selection⟩]

theorem allMet_childRequirement {parent child : Selection} :
    AllMet (childRequirement parent child) ↔ Shallow child := by
  simp [childRequirement, AllMet]

theorem firstUnmet_childRequirement {parent child : Selection} {e : SynthesisError} :
    FirstUnmet (childRequirement parent child) e ↔
      ¬ Shallow child ∧ nestedChildError parent child = e := by
  simp [childRequirement, FirstUnmet]

theorem allMet_requirements {request : SelectionRequest} {selection : Selection} :
    AllMet (requirements request selection) ↔ Flat request.linkage selection := by
  unfold requirements Flat
  by_cases hshallow : Shallow selection
  · simp [hshallow, AllMet]
  · by_cases hend : IsEnd request.linkage selection
    · simp only [hshallow, hend, if_false, if_true, Requirement.allMet_flatMap,
        allMet_childRequirement, false_or, true_and]
    · simp [hshallow, hend, AllMet]

theorem firstUnmet_requirements {request : SelectionRequest} {selection : Selection}
    {e : SynthesisError} (h : ¬ Flat request.linkage selection) :
    FirstUnmet (requirements request selection) e ↔ Refused request selection e := by
  have hshallow : ¬ Shallow selection := fun hshallow => h (.inl hshallow)
  unfold requirements Refused
  by_cases hend : IsEnd request.linkage selection
  · simp only [hshallow, hend, if_false, if_true, Requirement.firstUnmet_flatMap,
      allMet_childRequirement, firstUnmet_childRequirement, true_and, not_true, false_and, or_false]
    refine exists_congr fun child => and_congr_right fun first => ?_
    obtain ⟨-, -, -, -, hchild⟩ := first
    exact ⟨fun he => he.2.symm, fun he => ⟨hchild, he.symm⟩⟩
  · simp [hshallow, hend, FirstUnmet, eq_comm]

theorem isSome_endpointVariable? (linkage : Option Linkage) (selection : Selection) :
    (endpointVariable? linkage selection.name).isSome = true ↔ IsEnd linkage selection := by
  cases linkage with
  | none => simp [endpointVariable?, IsEnd]
  | some linkage =>
    have chosen : endpointVariable? (some linkage) selection.name =
        if selection.name = sourceField then some linkage.source
        else if selection.name = targetField then some linkage.target else none := rfl
    rw [chosen, IsEnd]
    by_cases hsource : selection.name = sourceField
    · rw [if_pos hsource]
      simp [hsource]
    · rw [if_neg hsource]
      by_cases htarget : selection.name = targetField
      · rw [if_pos htarget]
        simp [htarget]
      · rw [if_neg htarget]
        simp [hsource, htarget]

theorem endpointField_guard (parent : Selection) (node : String) {child : Selection}
    (h : child.name ≠ typenameField) :
    Guard (childRequirement parent child) (endpointField parent node child) := by
  unfold endpointField
  split
  · rename_i hleaf
    exact .met (.inr hleaf) (.pure _)
  · rename_i hnested
    exact .unmet fun hshallow => hshallow.elim h hnested

theorem endpoint_guard (selection : Selection) (node : String) :
    Guard (selection.selections.flatMap (childRequirement selection))
      (endpoint selection node) := by
  have fields : Guard (selection.selections.flatMap (childRequirement selection))
      ((projected selection.selections).mapM (endpointField selection node)) := by
    refine Guard.traverse (fun child hpassed => ?_) (fun child hkept => ?_) selection.selections
    · exact allMet_childRequirement.mpr (.inl (by simpa using hpassed))
    · exact endpointField_guard selection node (by simpa using hkept)
  exact fields.map _

theorem entry_guard (request : SelectionRequest) {selection : Selection}
    (h : selection.name ≠ typenameField) :
    Guard (requirements request selection) (entry request selection) := by
  have ends := isSome_endpointVariable? request.linkage selection
  unfold entry requirements
  by_cases hleaf : selection.isLeaf = true
  · have hshallow : Shallow selection := .inr hleaf
    rw [if_pos hshallow, if_pos hleaf]
    exact .pure _
  · have hshallow : ¬ Shallow selection := fun hshallow => hshallow.elim h hleaf
    rw [if_neg hshallow, if_neg hleaf]
    cases hnode : endpointVariable? request.linkage selection.name with
    | some node =>
      rw [if_pos (ends.mp (by rw [hnode]; rfl))]
      exact endpoint_guard selection node
    | none =>
      have hend : ¬ IsEnd request.linkage selection := fun hend => by
        have some := ends.mpr hend
        rw [hnode] at some
        cases some
      rw [if_neg hend]
      exact .unmet id

theorem flat_guard (request : SelectionRequest) :
    Guard (request.selections.flatMap (requirements request)) (flat request) := by
  have entries : Guard (request.selections.flatMap (requirements request))
      ((projected request.selections).mapM (entry request)) := by
    refine Guard.traverse (fun selection hpassed => ?_) (fun selection hkept => ?_)
      request.selections
    · exact allMet_requirements.mpr (.inl (.inl (by simpa using hpassed)))
    · exact entry_guard request (by simpa using hkept)
  exact entries.map _

/-- The entry is that of the selection: it has the response key, and that of an end of a relationship
has between its braces an entry for each projected child, in their order and under their keys. -/
structure Projects (linkage : Option Linkage) (selection : Selection) (entry : List Token) :
    Prop where
  key : entryKey? entry = some selection.responseKey
  children : selection.isLeaf = false → ∃ node fields,
    endpointVariable? linkage selection.name = some node ∧
      entry = [.ofName selection.responseKey, .mark ':', .word (Cypher.sanitize node),
        .mark '\x7b'] ++ fields ++ [.mark '\x7d'] ∧
      List.Forall₂ (fun child field => entryKey? field = some child.responseKey)
        (projected selection.selections) (Cypher.entries fields)

theorem entryKey?_endpointField {parent : Selection} {node : String} {child : Selection}
    {fragment : Fragment} (h : endpointField parent node child = .ok fragment) :
    entryKey? fragment.tokens = some child.responseKey := by
  unfold endpointField at h
  split at h
  · rw [← Except.ok.inj h]
    exact entryKey?_leaf node false child
  · cases h

theorem projects_entry {request : SelectionRequest} {selection : Selection} {fragment : Fragment}
    (h : entry request selection = .ok fragment) :
    Projects request.linkage selection fragment.tokens := by
  refine ⟨entryKey?_entry h, fun hnested => ?_⟩
  unfold entry at h
  rw [if_neg (by simp [hnested])] at h
  split at h
  · rename_i node hnode
    obtain ⟨fields, hfields, hfragment⟩ := exists_of_bind_eq_ok h
    obtain ⟨part, hentries, hpart⟩ := entries_of_mapM hfields
      (fun _ _ => unbroken_endpointField) fun _ _ => entryKey?_endpointField
    refine ⟨node, (Fragment.listed fields).tokens, hnode, ?_, ?_⟩
    · rw [← Except.ok.inj hfragment, Fragment.tokens_append, tokens_endpointKey, tokens_braced]
      rfl
    · rw [hentries, List.forall₂_map_right_iff]
      exact List.forall₂_same.mpr fun child hchild => entryKey?_endpointField (hpart child hchild)
  · cases h

theorem projects_flat {request : SelectionRequest} {projection : Projection}
    (h : flat request = .ok projection) :
    ∃ tokens, Cypher.lex projection.fragment.render = some tokens ∧
      List.Forall₂ (Projects request.linkage) (projected request.selections)
        (Cypher.entries tokens) := by
  have spelled := spells_flat (SameVariables.self request) h
  obtain ⟨part, hentries, hpart⟩ := entries_flat h
  refine ⟨_, Fragment.lex_render spelled.spaced, ?_⟩
  rw [hentries, List.forall₂_map_right_iff]
  exact List.forall₂_same.mpr fun selection hselection => projects_entry (hpart selection hselection)

/-- The flat projector takes exactly flat selections and projects each of them once. Otherwise its
error is that of the first selection that is not flat. It reads no parameters, so the next free index
stays the same. -/
theorem flat_exact (request : SelectionRequest) :
    ((∃ projection, flat request = .ok projection) ↔
      ∀ selection ∈ request.selections, Flat request.linkage selection) ∧
    (∀ e, flat request = .error e ↔
      ∃ selection, FirstWithout (Flat request.linkage) request.selections selection ∧
        Refused request selection e) ∧
    ∀ projection, flat request = .ok projection →
      projection.parameters = .empty ∧ projection.nextIndex = request.paramIndex ∧
      ∃ tokens, Cypher.lex projection.fragment.render = some tokens ∧
        List.Forall₂ (Projects request.linkage) (projected request.selections)
          (Cypher.entries tokens) := by
  have guarded := flat_guard request
  refine ⟨?_, fun e => ?_, fun projection hprojection => ?_⟩
  · rw [guarded.ok_iff, Requirement.allMet_flatMap]
    simp only [allMet_requirements]
  · rw [guarded.error_iff, Requirement.firstUnmet_flatMap]
    simp only [allMet_requirements]
    refine exists_congr fun selection => and_congr_right fun first => ?_
    obtain ⟨-, -, -, -, hselection⟩ := first
    exact firstUnmet_requirements hselection
  · obtain ⟨entries, -, hentries⟩ := exists_of_bind_eq_ok hprojection
    obtain rfl := Except.ok.inj hentries
    exact ⟨rfl, rfl, projects_flat hprojection⟩

/-- Keys with commas, braces and backticks, at the top and inside an end. -/
def strangeRequest : SelectionRequest where
  selections :=
    [⟨"title", none, []⟩, ⟨"a,b", some "c\x7b`", []⟩,
     ⟨"__typename", none, [⟨"x", none, [⟨"y", none, []⟩]⟩]⟩,
     ⟨"from", some "who, then", [⟨"_id", none, []⟩, ⟨"name", some "\x7d,", []⟩]⟩]
  root := "r"
  schemaType := .object "Person"
  paramIndex := 7
  linkage := some ⟨"person_from", "movie_to", some "r"⟩

theorem flat_exact_strangeRequest :
    (∀ selection ∈ strangeRequest.selections, Flat strangeRequest.linkage selection) ∧
      ∃ projection, flat strangeRequest = .ok projection ∧
        projection.fragment.render = ".title, `c\x7b```: r.`a,b`, " ++
          "`who, then`: person_from \x7b_id: ID(person_from), `\x7d,`: person_from.name\x7d" ∧
        projection.nextIndex = 7 ∧
        ∃ tokens, Cypher.lex projection.fragment.render = some tokens ∧
          List.Forall₂ (Projects strangeRequest.linkage) (projected strangeRequest.selections)
            (Cypher.entries tokens) := by
  obtain ⟨accepts, -, projects⟩ := flat_exact strangeRequest
  have flatness : ∀ selection ∈ strangeRequest.selections,
      Flat strangeRequest.linkage selection := by decide
  obtain ⟨projection, hprojection⟩ := accepts.mpr flatness
  obtain ⟨-, index, read⟩ := projects projection hprojection
  have text : projection.fragment.render = ".title, `c\x7b```: r.`a,b`, " ++
      "`who, then`: person_from \x7b_id: ID(person_from), `\x7d,`: person_from.name\x7d" := by
    rw [← Except.ok.inj hprojection]
    decide +kernel
  exact ⟨flatness, projection, hprojection, text, index, read⟩

end Projection

end CypherSynthesis
