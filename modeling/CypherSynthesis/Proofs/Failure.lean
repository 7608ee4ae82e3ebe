import CypherSynthesis.Proofs.MutationNames
import CypherSynthesis.Proofs.Request

/-!
When an operation has no query, and why. An operation has to meet the requirements of its kind, one
after the other; the first that it does not meet is the error. Only an operation that meets them all
is shown to the projector, once, and then the projector's answer decides: its error is the only one
that is left, and a query is made around anything else.
-/

namespace CypherSynthesis

/-- What an operation has to meet, and the error if it does not. -/
structure Requirement where
  met : Prop
  error : SynthesisError

namespace Requirement

def AllMet (requirements : List Requirement) : Prop :=
  ∀ requirement ∈ requirements, requirement.met

/-- The error belongs to the first requirement that is not met. -/
def FirstUnmet : List Requirement → SynthesisError → Prop
  | [], _ => False
  | requirement :: rest, e =>
    (¬ requirement.met ∧ requirement.error = e) ∨ (requirement.met ∧ FirstUnmet rest e)

theorem allMet_nil : AllMet [] :=
  fun _ h => nomatch h

theorem allMet_cons {requirement : Requirement} {rest : List Requirement} :
    AllMet (requirement :: rest) ↔ requirement.met ∧ AllMet rest := by
  simp [AllMet]

theorem allMet_append {requirements later : List Requirement} :
    AllMet (requirements ++ later) ↔ AllMet requirements ∧ AllMet later := by
  simp [AllMet, or_imp, forall_and]

theorem firstUnmet_append {requirements later : List Requirement} {e : SynthesisError} :
    FirstUnmet (requirements ++ later) e ↔
      FirstUnmet requirements e ∨ (AllMet requirements ∧ FirstUnmet later e) := by
  induction requirements with
  | nil => simp [FirstUnmet, AllMet]
  | cons requirement rest ih =>
    rw [List.cons_append, FirstUnmet, FirstUnmet, ih, allMet_cons, and_or_left, and_assoc, or_assoc]

theorem allMet_or_firstUnmet (requirements : List Requirement) :
    AllMet requirements ∨ ∃ e, FirstUnmet requirements e := by
  induction requirements with
  | nil => exact .inl allMet_nil
  | cons requirement rest ih =>
    rcases Classical.em requirement.met with hmet | hmet
    · rcases ih with hrest | ⟨e, he⟩
      · exact .inl (allMet_cons.mpr ⟨hmet, hrest⟩)
      · exact .inr ⟨e, .inr ⟨hmet, he⟩⟩
    · exact .inr ⟨requirement.error, .inl ⟨hmet, rfl⟩⟩

theorem FirstUnmet.not_allMet {requirements : List Requirement} {e : SynthesisError}
    (h : FirstUnmet requirements e) : ¬ AllMet requirements := by
  induction requirements with
  | nil => cases h
  | cons requirement rest ih =>
    intro all
    obtain ⟨hmet, hrest⟩ := allMet_cons.mp all
    rcases h with ⟨hunmet, -⟩ | ⟨-, h⟩
    · exact hunmet hmet
    · exact ih h hrest

theorem FirstUnmet.unique {requirements : List Requirement} {e e' : SynthesisError}
    (h : FirstUnmet requirements e) (h' : FirstUnmet requirements e') : e = e' := by
  induction requirements with
  | nil => cases h
  | cons requirement rest ih =>
    rcases h with ⟨hunmet, rfl⟩ | ⟨hmet, h⟩
    · rcases h' with ⟨-, rfl⟩ | ⟨hmet, -⟩
      · rfl
      · exact absurd hmet hunmet
    · rcases h' with ⟨hunmet, -⟩ | ⟨-, h'⟩
      · exact absurd hmet hunmet
      · exact ih h h'

/-- The computation succeeds if the requirements are met, and otherwise fails with the error of the
first that is not. -/
structure Guard {α : Type} (requirements : List Requirement) (x : Except SynthesisError α) :
    Prop where
  ok : AllMet requirements → ∃ a, x = .ok a
  error : ∀ e, FirstUnmet requirements e → x = .error e

namespace Guard

variable {α β : Type} {requirements later : List Requirement} {x : Except SynthesisError α}

theorem pure (a : α) : Guard [] (.ok a : Except SynthesisError α) where
  ok _ := ⟨a, rfl⟩
  error _ h := h.elim

theorem met {condition : Prop} (hmet : condition) {e : SynthesisError}
    (h : Guard requirements x) : Guard (⟨condition, e⟩ :: requirements) x where
  ok all := h.ok (allMet_cons.mp all).2
  error e' he := by
    rcases he with ⟨hunmet, -⟩ | ⟨-, he⟩
    · exact absurd hmet hunmet
    · exact h.error e' he

theorem unmet {condition : Prop} (hunmet : ¬ condition) {e : SynthesisError} :
    Guard (⟨condition, e⟩ :: requirements) (.error e : Except SynthesisError α) where
  ok all := absurd (allMet_cons.mp all).1 hunmet
  error e' he := by
    rcases he with ⟨-, he⟩ | ⟨hmet, -⟩
    · exact congrArg Except.error he
    · exact absurd hmet hunmet

theorem bind (h : Guard requirements x) {f : α → Except SynthesisError β}
    (hf : ∀ a, x = .ok a → Guard later (f a)) : Guard (requirements ++ later) (x >>= f) where
  ok all := by
    obtain ⟨hfirst, hlater⟩ := allMet_append.mp all
    obtain ⟨a, rfl⟩ := h.ok hfirst
    exact (hf a rfl).ok hlater
  error e he := by
    rcases firstUnmet_append.mp he with he | ⟨hfirst, he⟩
    · rw [h.error e he]
      rfl
    · obtain ⟨a, rfl⟩ := h.ok hfirst
      exact (hf a rfl).error e he

theorem map (h : Guard requirements x) (f : α → β) :
    Guard requirements (do return f (← x)) := by
  have mapped := h.bind fun a _ => Guard.pure (f a)
  rwa [List.append_nil] at mapped

end Guard

/-- The first directive of the name has the argument, and it is a string. -/
def HasString (operation : Operation) (directiveName argument : String) : Prop :=
  ∃ directive text, operation.directives.find? (·.name = directiveName) = some directive ∧
    directive.arguments.entries.find? (·.1 = argument) = some (argument, .string text)

/-- Custom statements: there is one. -/
def custom (settings : Settings) (operation : Operation) : List Requirement :=
  [⟨HasString operation settings.customDirective settings.statementArgument,
    .missingStatement operation.fieldName settings.customDirective⟩]

/-- Nodes that are found by a key: there is a first argument, and its value is not null. -/
def keyed (operation : Operation) : List Requirement :=
  [⟨operation.arguments ≠ [], .missingArgument operation.fieldName "primary key"⟩,
   ⟨∃ key rest value, operation.arguments = key :: rest ∧ key.value = some value ∧ value ≠ .null,
    .missingArgument operation.fieldName (operation.arguments.head?.elim "" Argument.name)⟩]

/-- Relationships: the linking directive is there and names the relationship and its two ends. -/
def linked (settings : Settings) (operation : Operation) : List Requirement :=
  let named (argument : String) : Requirement :=
    ⟨HasString operation settings.linkDirective argument,
      .missingLink operation.fieldName (.missing settings.linkDirective argument)⟩
  [⟨∃ directive ∈ operation.directives, directive.name = settings.linkDirective,
    .missingLink operation.fieldName (.absent settings.linkDirective)⟩,
   named "relationship", named "from", named "to"]

/-- One end of a relationship: the first argument of its name is an object, the type of the argument
has a first field, and the field's value is not null. -/
def endpoint (operation : Operation) (name : String) : List Requirement :=
  let argument? := operation.arguments.find? (·.name = name)
  let firstField := (argument?.bind (·.type.fields.head?)).elim "" Prod.fst
  [⟨∃ argument members, argument? = some argument ∧ argument.value = some (.object members),
    .missingArgument operation.fieldName name⟩,
   ⟨∃ argument, argument? = some argument ∧ argument.type.fields ≠ [],
    .missingArgument operation.fieldName (name ++ ".<primary key>")⟩,
   ⟨∃ argument members value, argument? = some argument ∧
      argument.value = some (.object members) ∧
      members.find? (·.1 = firstField) = some (firstField, value) ∧ value ≠ .null,
    .missingArgument operation.fieldName (name ++ "." ++ firstField)⟩]

/-- What an operation of the given kind has to meet, in order. -/
def ofKind (settings : Settings) (operation : Operation) : Kind → List Requirement
  | .nodeQuery | .nodeCreate => []
  | .customQuery | .customMutation => custom settings operation
  | .nodeUpdate | .nodeDelete => keyed operation
  | .relationshipCreate | .relationshipDelete =>
    linked settings operation ++ endpoint operation "from" ++ endpoint operation "to"

end Requirement

open Requirement (Guard)

theorem Directive.string?_eq_some {directive : Directive} {name text : String} :
    directive.string? name = some text ↔
      directive.arguments.entries.find? (·.1 = name) = some (name, .string text) := by
  have found := Bag.find?_eq_map_find? name directive.arguments.entries
  unfold string? Bag.get?
  rw [found]
  cases hfind : directive.arguments.entries.find? (·.1 = name) with
  | none => simp
  | some entry =>
    obtain ⟨key, value⟩ := entry
    obtain rfl : key = name := by simpa using List.find?_some hfind
    cases value <;> simp

namespace Plan

theorem customStatement_guard (settings : Settings) (operation : Operation) :
    Guard (Requirement.custom settings operation) (customStatement settings operation) := by
  unfold customStatement
  split
  · rename_i text hfound
    obtain ⟨directive, hdirective, htext⟩ := Option.bind_eq_some_iff.mp hfound
    exact .met ⟨directive, text, hdirective, Directive.string?_eq_some.mp htext⟩ (.pure text)
  · rename_i hnone
    refine .unmet ?_
    rintro ⟨directive, text, hdirective, htext⟩
    have found : operation.directive? settings.customDirective = some directive := hdirective
    simp [found, Directive.string?_eq_some.mpr htext] at hnone

theorem keyArgument_guard (operation : Operation) :
    Guard (Requirement.keyed operation) (keyArgument operation) := by
  unfold keyArgument Requirement.keyed
  cases operation.arguments with
  | nil => exact .unmet (by simp)
  | cons key rest =>
    refine .met (by simp) ?_
    dsimp only
    cases hvalue : key.value with
    | none => exact .unmet (by simp [hvalue])
    | some value =>
      cases value with
      | null => exact .unmet (by simp [hvalue])
      | bool | number | string | array | object =>
        exact .met ⟨key, rest, _, rfl, hvalue, nofun⟩ (.pure key)

end Plan

namespace Link

/-- The directive of the given name, or the error that it is absent. -/
def directive (operation : Operation) (directiveName : String) : Except SynthesisError Directive :=
  match operation.directive? directiveName with
  | some directive => .ok directive
  | none => .error (.missingLink operation.fieldName (.absent directiveName))

theorem resolve_eq_bind (operation : Operation) (directiveName : String) :
    resolve operation directiveName = (do
      let directive ← directive operation directiveName
      let relationship ← required operation.fieldName directive "relationship"
      let sourceType ← required operation.fieldName directive "from"
      let targetType ← required operation.fieldName directive "to"
      return ⟨relationship, sourceType, targetType⟩) := by
  unfold resolve directive
  cases operation.directive? directiveName <;> rfl

theorem directive_eq_ok {operation : Operation} {directiveName : String} {found : Directive}
    (h : directive operation directiveName = .ok found) :
    operation.directive? directiveName = some found := by
  unfold directive at h
  split at h
  · rename_i hfound
    rw [hfound, Except.ok.inj h]
  · cases h

theorem directive_guard (operation : Operation) (directiveName : String) :
    Guard [⟨∃ directive ∈ operation.directives, directive.name = directiveName,
      .missingLink operation.fieldName (.absent directiveName)⟩]
      (directive operation directiveName) := by
  unfold directive
  cases hfound : operation.directive? directiveName with
  | none =>
    refine .unmet fun hlinked => ?_
    simpa [hfound] using Kind.isSome_directive?_iff.mpr hlinked
  | some found =>
    exact .met (Kind.isSome_directive?_iff.mp (by simp [hfound])) (.pure found)

theorem required_guard {operation : Operation} {directiveName : String} {found : Directive}
    (hfound : operation.directive? directiveName = some found) (argument : String) :
    Guard [⟨Requirement.HasString operation directiveName argument,
      .missingLink operation.fieldName (.missing directiveName argument)⟩]
      (required operation.fieldName found argument) := by
  have name : found.name = directiveName := by simpa using List.find?_some hfound
  unfold required
  split
  · rename_i text htext
    exact .met ⟨found, text, hfound, Directive.string?_eq_some.mp htext⟩ (.pure text)
  · rename_i hnone
    rw [name]
    refine .unmet ?_
    rintro ⟨other, text, hother, htext⟩
    obtain rfl : found = other := Option.some.inj (hfound.symm.trans hother)
    simp [Directive.string?_eq_some.mpr htext] at hnone

theorem resolve_guard (settings : Settings) (operation : Operation) :
    Guard (Requirement.linked settings operation) (resolve operation settings.linkDirective) := by
  rw [resolve_eq_bind]
  refine (directive_guard operation settings.linkDirective).bind fun found hok => ?_
  have hfound := directive_eq_ok hok
  refine (required_guard hfound "relationship").bind fun relationship _ => ?_
  refine (required_guard hfound "from").bind fun sourceType _ => ?_
  exact (required_guard hfound "to").map _

end Link

namespace Plan

theorem endpoint_guard (operation : Operation) (name typeName : String) :
    Guard (Requirement.endpoint operation name) (endpoint operation name typeName) := by
  have first : operation.argument? name = operation.arguments.find? (·.name = name) := rfl
  unfold endpoint Requirement.endpoint
  rw [first]
  cases operation.arguments.find? (·.name = name) with
  | none => exact .unmet (by simp)
  | some argument =>
    dsimp only
    cases hvalue : argument.value with
    | none => exact .unmet (by simp [hvalue])
    | some value =>
      cases value with
      | null | bool | number | string | array => exact .unmet (by simp [hvalue])
      | object members =>
        refine .met ⟨argument, members, rfl, hvalue⟩ ?_
        dsimp only
        cases hfields : argument.type.fields with
        | nil => exact .unmet (by simp [hfields])
        | cons field rest =>
          refine .met ⟨argument, rfl, by simp [hfields]⟩ ?_
          simp only [Option.bind_some, hfields, List.head?_cons, Option.elim_some,
            Bag.find?_eq_map_find?]
          cases hfind : members.find? (·.1 = field.1) with
          | none => exact .unmet (by simp [hvalue, hfind])
          | some member =>
            obtain ⟨key, value⟩ := member
            obtain rfl : key = field.1 := by simpa using List.find?_some hfind
            cases value with
            | null => exact .unmet (by simp [hvalue, hfind])
            | bool | number | string | array | object =>
              exact .met ⟨argument, members, _, rfl, hvalue, hfind, nofun⟩ (.pure _)

theorem endpoints_guard (settings : Settings) (operation : Operation) :
    Guard (Requirement.linked settings operation ++ Requirement.endpoint operation "from" ++
      Requirement.endpoint operation "to") (endpoints settings operation) := by
  rw [List.append_assoc]
  refine (Link.resolve_guard settings operation).bind fun link _ => ?_
  refine (endpoint_guard operation "from" link.sourceType).bind fun source _ => ?_
  exact (endpoint_guard operation "to" link.targetType).map _

end Plan

/-- The plan of an operation is guarded by the requirements of its kind. -/
theorem Synthesizer.planned_guard (synthesizer : Synthesizer) (kind : Kind) (operation : Operation) :
    Guard (Requirement.ofKind synthesizer.settings operation kind)
      (synthesizer.planned kind operation) := by
  cases kind with
  | nodeQuery => exact .pure _
  | nodeCreate =>
    rw [planned_nodeCreate]
    exact .pure _
  | customQuery | customMutation =>
    exact (Plan.customStatement_guard synthesizer.settings operation).map _
  | nodeUpdate | nodeDelete =>
    exact (Plan.keyArgument_guard operation).map fun key => _
  | relationshipCreate =>
    exact (Plan.endpoints_guard synthesizer.settings operation).map fun ends =>
      Plan.relationshipCreateBetween operation ends.1 ends.2.1 ends.2.2
  | relationshipDelete =>
    exact (Plan.endpoints_guard synthesizer.settings operation).map fun ends =>
      Plan.relationshipDeleteBetween operation ends.1 ends.2.1 ends.2.2

/-- A key is generated for the first argument of the id type of a new node, unless a value is
supplied under its name. -/
def NeedsKey (settings : Settings) (operation : Operation) : Kind → Prop
  | .nodeCreate => ∃ argument,
      operation.arguments.find? (·.type.name = settings.idType) = some argument ∧
      ∀ other ∈ operation.arguments, other.name = argument.name → other.value = none
  | _ => False

theorem Operation.isSome_unsupplied?_iff (settings : Settings) (operation : Operation) :
    (operation.unsupplied? settings.idType).isSome = true ↔
      NeedsKey settings operation .nodeCreate := by
  unfold unsupplied? NeedsKey
  cases operation.arguments.find? (·.type.name = settings.idType) with
  | none => simp
  | some argument =>
    dsimp only
    split
    · rename_i hsupplied
      simpa [Option.isSome_iff_ne_none] using hsupplied
    · rename_i hmissing
      simpa using hmissing

/-- Keys are generated where they are needed. -/
theorem Synthesizer.isSome_generatedFor?_iff (synthesizer : Synthesizer) (kind : Kind)
    (operation : Operation) :
    (synthesizer.generatedFor? kind operation).isSome = true ↔
      NeedsKey synthesizer.settings operation kind := by
  cases kind with
  | nodeCreate =>
    rw [generatedFor?, Parameters.keyToGenerate?_eq]
    exact operation.isSome_unsupplied?_iff synthesizer.settings
  | customQuery | nodeQuery | customMutation | nodeUpdate | nodeDelete | relationshipCreate
  | relationshipDelete => exact ⟨fun generated => absurd generated Bool.false_ne_true, False.elim⟩

/-- Whether the projection comes into the text: what a custom statement results in is returned as it
is if its type has no properties. -/
def Kind.Projects (operation : Operation) : Kind → Prop
  | .customQuery | .customMutation => operation.schemaType.shape = .object ∧
      operation.schemaType.name ∉
        ["_Neo4jTime", "_Neo4jDate", "_Neo4jDateTime", "_Neo4jLocalTime", "_Neo4jLocalDateTime"]
  | _ => True

/-- The query is made around the answer of the projector: its text has the projection in one place, and
everything that the projection reads is bound. -/
structure MadeAround (operation : Operation) (kind : Kind) (form : Projection → Query) : Prop where
  text : kind.Projects operation → ∃ before after : String, ∀ projection,
    (form projection).text = before ++ projection.fragment.render ++ after
  parameters : ∀ projection name value, (name, value) ∈ projection.parameters.entries →
    name ≠ "cypherParams" → (form projection).parameters.get? name = some value

namespace Plan

open Cypher (Fragment)

variable {operation : Operation}

/-- The statement has the projection in one place. -/
def Surrounds (statement : Fragment → Fragment) : Prop :=
  ∃ before after, ∀ projection, statement projection = before ++ projection ++ after

namespace Surrounds

variable {statement : Fragment → Fragment}

theorem bare : Surrounds fun projection => projection :=
  ⟨[], [], fun _ => by simp⟩

theorem before (opening : Fragment) (h : Surrounds statement) :
    Surrounds fun projection => opening ++ statement projection := by
  obtain ⟨before, after, surrounds⟩ := h
  exact ⟨opening ++ before, after, fun projection => by simp [surrounds]⟩

theorem after (h : Surrounds statement) (closing : Fragment) :
    Surrounds fun projection => statement projection ++ closing := by
  obtain ⟨before, after, surrounds⟩ := h
  exact ⟨before, after ++ closing, fun projection => by simp [surrounds]⟩

end Surrounds

theorem customProjection_surrounds (operation : Operation) (tail : Fragment)
    (h : operation.schemaType.isProjectable = true) :
    Surrounds fun projection => customProjection operation projection tail := by
  have braced : Surrounds fun projection => projection.braced :=
    (Surrounds.bare.before [.fixed "\x7b"]).after [.fixed "\x7d"]
  simp only [customProjection, h, if_true]
  exact ((braced.after _).after _).after _

theorem statement_surrounds {synthesizer : Synthesizer} {kind : Kind} {plan : Plan}
    (hplan : synthesizer.planned kind operation = .ok plan) (h : kind.Projects operation) :
    Surrounds plan.statement := by
  cases kind with
  | nodeQuery =>
    obtain rfl := Except.ok.inj hplan
    exact ((((Surrounds.bare.before _).after _).after _).after _).after _
  | customQuery =>
    obtain ⟨statement, -, rfl⟩ := customQuery_eq_ok hplan
    exact ((((customProjection_surrounds operation _
      (operation.schemaType.isProjectable_iff.mpr h)).before _).after _).after _)
  | customMutation =>
    obtain ⟨statement, -, rfl⟩ := customMutation_eq_ok hplan
    exact (customProjection_surrounds operation _
      (operation.schemaType.isProjectable_iff.mpr h)).before _
  | nodeCreate =>
    rw [Synthesizer.planned_nodeCreate] at hplan
    obtain rfl := Except.ok.inj hplan
    exact (Surrounds.bare.before _).after _
  | nodeUpdate =>
    obtain ⟨key, -, rfl⟩ := nodeUpdate_eq_ok hplan
    exact (Surrounds.bare.before _).after _
  | nodeDelete =>
    obtain ⟨key, -, rfl⟩ := nodeDelete_eq_ok hplan
    exact (Surrounds.bare.before _).after _
  | relationshipCreate =>
    obtain ⟨link, source, target, -, rfl⟩ := relationshipCreate_eq_ok hplan
    exact (Surrounds.bare.before _).after _
  | relationshipDelete =>
    obtain ⟨link, source, target, -, rfl⟩ := relationshipDelete_eq_ok hplan
    exact (Surrounds.bare.before _).after _

theorem query_madeAround {synthesizer : Synthesizer} {kind : Kind} {plan : Plan}
    (hplan : synthesizer.planned kind operation = .ok plan) :
    MadeAround operation kind (plan.query operation) where
  text h := by
    obtain ⟨before, after, surrounds⟩ := statement_surrounds hplan h
    refine ⟨before.render, after.render, fun projection => ?_⟩
    rw [text_query, surrounds, Fragment.render_append, Fragment.render_append]
  parameters projection name value hmem hname := by
    have globals := operation.last?_globalEntries hname
    have selected : Bag.last? name projection.parameters.entries = some value := by
      rw [Bag.last?_eq_find? projection.parameters.nodup]
      exact Bag.get?_of_mem hmem
    rw [query, Parameters.finish_eq, Bag.get?_insertAll_eq_last?, Bag.last?_append, globals, selected]
    rfl

end Plan

open Requirement (AllMet FirstUnmet)

/-- What comes of an operation taken to be of the given kind: the error of the first requirement that
is not met, and if all are met, one request to the projector and what its answer makes of it. -/
structure Outcome.Follows (outcome : Outcome) (synthesizer : Synthesizer) (operation : Operation)
    (kind : Kind) : Prop where
  fails : ∀ e, outcome.result = .error e ↔
    FirstUnmet (Requirement.ofKind synthesizer.settings operation kind) e ∨
    (AllMet (Requirement.ofKind synthesizer.settings operation kind) ∧
      ∃ request, outcome.requests = [request] ∧ synthesizer.projector request = .error e)
  answers : AllMet (Requirement.ofKind synthesizer.settings operation kind) → ∃ request form,
    outcome.requests = [request] ∧ request.paramIndex = 1 ∧
    request.selections = operation.selections ∧ request.schemaType = operation.schemaType ∧
    outcome.result = (synthesizer.projector request).map form ∧ MadeAround operation kind form
  keepsQuiet : ¬ AllMet (Requirement.ofKind synthesizer.settings operation kind) → outcome.requests = []
  generates : NeedsKey synthesizer.settings operation kind → outcome.keysGenerated = 1
  generatesNone : ¬ NeedsKey synthesizer.settings operation kind → outcome.keysGenerated = 0

/-- What tells the kind of an operation: its root, whether it has a custom statement, and otherwise
the verb that opens a mutation's name. -/
def Kind.Told (operation : Operation) (customDirective : String) (kind : Kind) : Prop :=
  let custom := ∃ directive ∈ operation.directives, directive.name = customDirective
  match operation.root with
  | .query => (custom ∧ kind = .customQuery) ∨ (¬ custom ∧ kind = .nodeQuery)
  | .mutation => (custom ∧ kind = .customMutation) ∨
      (¬ custom ∧ ∃ verb, (verb, kind) ∈ verbs ∧ Opens verb operation.fieldName)

theorem Kind.classify_eq_ok_iff {operation : Operation} {customDirective : String} {kind : Kind} :
    classify operation customDirective = .ok kind ↔ Told operation customDirective kind := by
  unfold Told
  by_cases custom : ∃ directive ∈ operation.directives, directive.name = customDirective
  · rw [classify_of_custom custom]
    cases operation.root <;> simp only [custom, not_true, true_and, false_and, or_false,
      Except.ok.injEq, eq_comm (b := kind)]
  · have plain : ∀ directive ∈ operation.directives, directive.name ≠ customDirective :=
      fun directive hmem hname => custom ⟨directive, hmem, hname⟩
    cases hroot : operation.root with
    | query =>
      simp only [classify_query hroot plain, custom, not_false_eq_true, true_and, false_and,
        false_or, Except.ok.injEq, eq_comm (b := kind)]
    | mutation =>
      rw [classify_mutation hroot plain]
      simp only [custom, false_and, not_false_eq_true, true_and, false_or,
        ← ofMutationName?_eq_some_iff]
      cases ofMutationName? operation.fieldName <;> simp

theorem Kind.classify_eq_error {operation : Operation} {directive : String} {e : SynthesisError}
    (h : classify operation directive = .error e) :
    e = .unsupportedMutation operation.fieldName := by
  simp only [classify] at h
  split at h
  · cases h
  · split at h
    · cases h
    · split at h
      · cases h
      · exact (Except.error.inj h).symm

namespace Synthesizer

theorem keysGenerated_synthesizeAs {synthesizer : Synthesizer} {kind : Kind} {operation : Operation}
    {plan : Plan} (hplan : synthesizer.planned kind operation = .ok plan) :
    (synthesizer.synthesizeAs kind operation).keysGenerated =
      (synthesizer.generatedFor? kind operation).toList.length := by
  rw [synthesizeAs_eq, hplan]
  dsimp only
  split <;> rfl

theorem synthesizeAs_follows (synthesizer : Synthesizer) (kind : Kind) (operation : Operation) :
    (synthesizer.synthesizeAs kind operation).Follows synthesizer operation kind := by
  have guarded := synthesizer.planned_guard kind operation
  have generated := synthesizer.isSome_generatedFor?_iff kind operation
  rcases Requirement.allMet_or_firstUnmet (Requirement.ofKind synthesizer.settings operation kind)
    with all | ⟨e, he⟩
  · obtain ⟨plan, hplan⟩ := guarded.ok all
    have requests := requests_synthesizeAs hplan
    have result : (synthesizer.synthesizeAs kind operation).result =
        (synthesizer.projector (plan.request operation)).map (plan.query operation) := by
      rw [result_synthesizeAs, hplan]
      rfl
    refine ⟨fun e => ?_, fun _ => ⟨_, _, requests, rfl, rfl, rfl, result,
      Plan.query_madeAround hplan⟩, fun hnot => absurd all hnot, fun needs => ?_, fun needs => ?_⟩
    · rw [result]
      constructor
      · intro he
        cases hanswer : synthesizer.projector (plan.request operation) with
        | ok projection => simp [hanswer, Except.map] at he
        | error e' =>
          obtain rfl : e' = e := by simpa [hanswer, Except.map] using he
          exact .inr ⟨all, _, requests, hanswer⟩
      · rintro (he | ⟨-, request, hrequest, he⟩)
        · exact absurd all he.not_allMet
        · obtain rfl : plan.request operation = request := by simpa [requests] using hrequest
          rw [he]
          rfl
    · obtain ⟨name, hname⟩ := Option.isSome_iff_exists.mp (generated.mpr needs)
      rw [keysGenerated_synthesizeAs hplan, hname]
      rfl
    · have none : synthesizer.generatedFor? kind operation = none := by
        rw [← Option.not_isSome_iff_eq_none, generated]
        exact needs
      rw [keysGenerated_synthesizeAs hplan, none]
      rfl
  · have failed : synthesizer.synthesizeAs kind operation = ⟨{}, .error e⟩ := by
      rw [synthesizeAs_eq, guarded.error e he]
    have quiet : ¬ NeedsKey synthesizer.settings operation kind := by
      rw [← generated, generatedFor?_of_error (guarded.error e he)]
      exact Bool.false_ne_true
    rw [failed]
    refine ⟨fun e' => ⟨fun he' => .inl (Except.error.inj he' ▸ he), ?_⟩,
      fun all => absurd all he.not_allMet, fun _ => rfl, fun needs => absurd needs quiet,
      fun _ => rfl⟩
    rintro (he' | ⟨all, -⟩)
    · exact congrArg Except.error (he.unique he')
    · exact absurd all he.not_allMet

/-- Failure is exact. An operation fails with the error of the first requirement that it does not
meet, and otherwise only if the projector does. The projector is asked once, with parameters counted
from one, if all requirements are met and not at all if they are not; its answer makes the query. A key
is generated only for a new node that needs one. -/
theorem failure_exact (synthesizer : Synthesizer) (operation : Operation) :
    (∀ kind, (synthesizer.synthesizeAs kind operation).Follows synthesizer operation kind) ∧
    (∀ kind, Kind.Told operation synthesizer.settings.customDirective kind →
      (synthesizer.synthesize operation).Follows synthesizer operation kind) ∧
    ((∀ kind, ¬ Kind.Told operation synthesizer.settings.customDirective kind) →
      (synthesizer.synthesize operation).result =
        .error (.unsupportedMutation operation.fieldName) ∧
      (synthesizer.synthesize operation).requests = [] ∧
      (synthesizer.synthesize operation).keysGenerated = 0) := by
  refine ⟨fun kind => synthesizer.synthesizeAs_follows kind operation, fun kind told => ?_,
    fun untold => ?_⟩
  · have follows := synthesizer.synthesizeAs_follows kind operation
    rw [synthesize_eq, Kind.classify_eq_ok_iff.mpr told]
    exact ⟨follows.fails, follows.answers, follows.keepsQuiet, follows.generates,
      follows.generatesNone⟩
  · rw [synthesize_eq]
    cases hkind : Kind.classify operation synthesizer.settings.customDirective with
    | ok kind => exact absurd (Kind.classify_eq_ok_iff.mp hkind) (untold kind)
    | error e =>
      rw [Kind.classify_eq_error hkind]
      exact ⟨rfl, rfl, rfl⟩

/-- A new part without the actor's id and without a film. The second argument called `from` and the
second directive are not looked at. -/
def unfinishedPart : Operation :=
  { Operation.new .mutation "AddMovieActors" "Movie" with
    arguments := [
      ⟨"from", .input "_ActorInput" [("id", .required "ID")],
        some (.object [("name", .string "Keanu"), ("id", .null)])⟩,
      ⟨"from", .input "_ActorInput" [("id", .required "ID")], some (.object [("id", .string "a1")])⟩]
    directives := [
      ⟨"MutationMeta", { entries := [("relationship", .string "PLAYS"), ("from", .string "Actor"),
        ("to", .string "Movie")] }⟩,
      ⟨"MutationMeta", .empty⟩] }

/-- Both ends are refused, and the error names the key of the first. -/
theorem failure_exact_unfinishedPart :
    let synthesizer : Synthesizer := ⟨.default, Projection.flat, .null⟩
    (¬ AllMet (Requirement.endpoint unfinishedPart "from") ∧
      ¬ AllMet (Requirement.endpoint unfinishedPart "to")) ∧
    (synthesizer.synthesize unfinishedPart).result =
      .error (.missingArgument "AddMovieActors" "from.id") ∧
    (synthesizer.synthesize unfinishedPart).requests = [] := by
  intro synthesizer
  have source : FirstUnmet (Requirement.endpoint unfinishedPart "from")
      (.missingArgument "AddMovieActors" "from.id") := by
    refine .inr ⟨⟨_, _, rfl, rfl⟩, .inr ⟨⟨_, rfl, nofun⟩, .inl ⟨?_, rfl⟩⟩⟩
    rintro ⟨argument, members, value, hargument, hmembers, hvalue, hnull⟩
    cases hargument
    cases hmembers
    cases hvalue
    exact hnull rfl
  have target : FirstUnmet (Requirement.endpoint unfinishedPart "to")
      (.missingArgument "AddMovieActors" "to") := by
    refine .inl ⟨?_, rfl⟩
    rintro ⟨argument, members, hargument, -⟩
    cases hargument
  have told : Kind.Told unfinishedPart "cypher" .relationshipCreate := by
    refine .inr ⟨?_, "add", by decide, 'a', "dd".toList, "MovieActors".toList, rfl, .inr rfl, ?_⟩
    · simp [unfinishedPart]
    · simpa using by decide
  have linked : AllMet (Requirement.linked .default unfinishedPart) := by
    simp only [Requirement.linked, Requirement.allMet_cons]
    exact ⟨⟨_, List.mem_cons_self, rfl⟩, ⟨_, _, rfl, rfl⟩, ⟨_, _, rfl, rfl⟩, ⟨_, _, rfl, rfl⟩,
      Requirement.allMet_nil⟩
  have follows := (synthesizer.failure_exact unfinishedPart).2.1 _ told
  have unmet : FirstUnmet (Requirement.ofKind .default unfinishedPart .relationshipCreate)
      (.missingArgument "AddMovieActors" "from.id") :=
    Requirement.firstUnmet_append.mpr (.inl (Requirement.firstUnmet_append.mpr (.inr ⟨linked, source⟩)))
  exact ⟨⟨source.not_allMet, target.not_allMet⟩, (follows.fails _).mpr (.inl unmet),
    follows.keepsQuiet unmet.not_allMet⟩

end Synthesizer
end CypherSynthesis
