import CypherSynthesis.Proofs.Conditions
import CypherSynthesis.Proofs.Spelling
import CypherSynthesis.Proofs.Template

/-!
The text of a statement says what its template says. A fragment spells a list of slots if it is
spaced and its tokens are the tokens of the slots; each part of a statement spells the part of the
template that it stands for, and parts are put together where no boundary is lost.
-/

namespace CypherSynthesis

open Cypher (Boundary Fragment Piece)
open Slot (word mark var name listed reference)

/-- Behind the given boundary the fragment is read as the slots say. -/
structure Spells (boundary : Boundary) (fragment : Fragment) (slots : List Slot) : Prop where
  spaced : fragment.isSpaced boundary = true
  tokens : fragment.tokens = slots.map Slot.token

namespace Spells

theorem nil (boundary : Boundary) : Spells boundary [] [] :=
  ⟨rfl, rfl⟩

theorem append {boundary : Boundary} {before after : Fragment} {first second : List Slot}
    (hb : Spells boundary before first)
    (ha : Spells (Fragment.exit boundary before) after second) :
    Spells boundary (before ++ after) (first ++ second) :=
  ⟨by rw [Fragment.isSpaced_append, hb.spaced, ha.spaced]; rfl,
    by rw [Fragment.tokens_append, hb.tokens, ha.tokens, List.map_append]⟩

theorem anywhere {fragment : Fragment} {slots : List Slot} (boundary : Boundary)
    (h : Spells .reference fragment slots) : Spells boundary fragment slots :=
  ⟨Fragment.isSpaced_of_reference boundary h.spaced, h.tokens⟩

/-- What may follow a reference may follow anything. -/
theorem append_anywhere {boundary : Boundary} {before after : Fragment} {first second : List Slot}
    (hb : Spells boundary before first) (ha : Spells .reference after second) :
    Spells boundary (before ++ after) (first ++ second) :=
  hb.append (ha.anywhere _)

/-- Anything may follow a fragment that is complete at its end. -/
theorem append_closed {boundary : Boundary} {before after : Fragment} {first second : List Slot}
    (hb : Spells boundary before first) (hexit : Fragment.exit boundary before = .closed)
    (ha : Spells .closed after second) : Spells boundary (before ++ after) (first ++ second) :=
  hb.append (hexit ▸ ha)

theorem congr {boundary : Boundary} {fragment : Fragment} {slots slots' : List Slot}
    (h : Spells boundary fragment slots) (same : slots.map Slot.token = slots'.map Slot.token) :
    Spells boundary fragment slots' :=
  ⟨h.spaced, h.tokens.trans same⟩

theorem closed_of_spaced {fragment : Fragment} {slots : List Slot}
    (h : Spells .spaced fragment slots) : Spells .closed fragment slots :=
  ⟨Fragment.isSpaced_closed_of_spaced h.spaced, h.tokens⟩

/-- A list whose parts are spelled is spelled, if its separator keeps them apart. -/
theorem joined {α : Type} {separator : String} {slot : Slot} {part : α → Fragment}
    {slots : α → List Slot} (hsep : Spells .reference [.fixed separator] [slot])
    (hexit : ∀ boundary, Fragment.exit boundary [.fixed separator] = .closed) (xs : List α)
    (h : ∀ x ∈ xs, Spells .closed (part x) (slots x)) :
    Spells .closed (Fragment.joined separator (xs.map part)) (Slot.joined slot (xs.map slots)) := by
  induction xs with
  | nil => exact nil .closed
  | cons x rest ih =>
    have first := h x (by simp)
    cases rest with
    | nil => exact first
    | cons next rest =>
      have tail := ih fun y hy => h y (by simp [hy])
      have between := hsep.anywhere (Fragment.exit .closed (part x))
      have := first.append (between.append_closed (hexit _) tail)
      simpa [Fragment.joined, Slot.joined] using this

theorem comma : Spells .reference [.fixed ", "] [mark ','] :=
  ⟨rfl, rfl⟩

theorem exit_comma (boundary : Boundary) : Fragment.exit boundary [.fixed ", "] = .closed := by
  cases boundary <;> rfl

theorem listed {α : Type} {part : α → Fragment} {slots : α → List Slot} (xs : List α)
    (h : ∀ x ∈ xs, Spells .closed (part x) (slots x)) :
    Spells .closed (Fragment.listed (xs.map part)) (Slot.listed (xs.map slots)) :=
  joined comma exit_comma xs h

theorem pathTokens_eq {path : List String} {slots : List Slot}
    (h : path.map Cypher.Token.ofName = slots.map Slot.token) :
    Cypher.pathTokens path =
      (Slot.joined (mark '.') (slots.map fun slot => [slot])).map Slot.token := by
  induction path generalizing slots with
  | nil =>
    have : slots = [] := by simpa using h.symm
    simp [this, Cypher.pathTokens, Slot.joined]
  | cons first rest ih =>
    cases slots with
    | nil => simp at h
    | cons slot slots =>
      simp only [List.map_cons, List.cons.injEq] at h
      have tail := ih h.2
      cases rest with
      | nil =>
        have : slots = [] := by simpa using h.2.symm
        simp [this, Cypher.pathTokens, Slot.joined, h.1]
      | cons next rest =>
        cases slots with
        | nil => simp at h
        | cons next' slots => simp_all [Cypher.pathTokens, Slot.joined, Slot.token]

/-- A reference is spelled by its path. -/
theorem param {path : List String} {slots : List Slot} (hpath : path ≠ [])
    (h : path.map Cypher.Token.ofName = slots.map Slot.token) :
    Spells .reference [.param path] (reference slots) := by
  refine ⟨?_, ?_⟩
  · have sound : (Piece.param path).isSound = true := by simpa [Piece.isSound] using hpath
    simp only [Fragment.isSpaced, sound]
    rfl
  · simp only [Fragment.tokens_cons, Fragment.tokens_nil, Piece.tokens, reference, List.append_nil,
      List.map_cons, pathTokens_eq h]
    rfl

end Spells

/-- The path of a value, in a parameter of its own or inside its parent. -/
theorem path_tokens {parent : Option String} (h : ∀ p ∈ parent, Cypher.isPlain p = true)
    (path : List String) (slots : List Slot)
    (hpath : path.map Cypher.Token.ofName = slots.map Slot.token) :
    (parent.toList ++ path).map Cypher.Token.ofName =
      (parent.toList.map word ++ slots).map Slot.token := by
  cases parent with
  | none => exact hpath
  | some p =>
    simp only [Option.toList_some, List.map_append, hpath, List.map_cons, List.map_nil,
      Cypher.Token.ofName_of_isPlain (h p rfl)]
    rfl

namespace Predicate

/-- The parameter that the condition's values are inside of can stand without backticks. -/
def HasPlainParent : Predicate → Prop
  | sameValue _ _ parent | sameComponent _ _ parent => ∀ p ∈ parent, Cypher.isPlain p = true
  | internalId | isNull _ | memberOf _ => True

theorem slots_congr {node node' : String} (h : Cypher.sanitize node = Cypher.sanitize node')
    (predicate : Predicate) :
    (predicate.slots node).map Slot.token = (predicate.slots node').map Slot.token := by
  cases predicate <;> simp [slots, Slot.token, h]

theorem spells (node : String) {predicate : Predicate} (h : predicate.HasPlainParent) :
    Spells .closed (predicate.fragment node) (predicate.slots node) := by
  cases predicate with
  | internalId => exact ⟨rfl, rfl⟩
  | isNull key => exact ⟨rfl, rfl⟩
  | memberOf key => exact ⟨rfl, rfl⟩
  | sameValue key kind parent =>
    have start : Spells .closed
        [.var node, .fixed ".", .name key, .fixed " = ", .fixed kind.constructor, .fixed "("]
        [var node, mark '.', name key, mark '=', word kind.function, mark '('] := by
      cases kind <;> exact ⟨rfl, rfl⟩
    have value := Spells.param (by simp)
      (path_tokens h [key, "formatted"] [name key, word "formatted"] rfl)
    have close : Spells .reference [.fixed ")"] [mark ')'] := ⟨rfl, rfl⟩
    simpa [fragment, slots, path, Temporal.formattedKey] using
      (start.append_anywhere value).append_anywhere close
  | sameComponent key component parent =>
    have start : Spells .closed
        [.var node, .fixed ".", .name key, .fixed ".", .name component, .fixed " = "]
        [var node, mark '.', name key, mark '.', name component, mark '='] := ⟨rfl, rfl⟩
    have value := Spells.param (by simp)
      (path_tokens h [key, component] [name key, name component] rfl)
    simpa [fragment, slots, path] using start.append_anywhere value

theorem hasPlainParent_of_mem_temporal (values : List (String × Json)) (declared : List Temporal.Declared)
    {parent : Option String} (h : ∀ p ∈ parent, Cypher.isPlain p = true) :
    ∀ predicate ∈ temporal values declared parent, predicate.HasPlainParent := by
  intro predicate hmem
  obtain ⟨declaration, _, hmem⟩ := List.mem_flatMap.mp hmem
  unfold ofTemporal at hmem
  split at hmem
  · split at hmem
    · rw [List.mem_singleton.mp hmem]
      exact h
    · obtain ⟨entry, _, rfl⟩ := List.mem_map.mp hmem
      exact h
  · simp at hmem

theorem spells_and : Spells .reference [.fixed " AND "] [word "AND"] :=
  ⟨rfl, rfl⟩

theorem exit_and (boundary : Boundary) : Fragment.exit boundary [.fixed " AND "] = .closed := by
  cases boundary <;> rfl

/-- Conditions on a variable, under a name that comes to the same. -/
theorem spells_joined {node node' : String} (same : Cypher.sanitize node = Cypher.sanitize node')
    {predicates : List Predicate} (h : ∀ predicate ∈ predicates, predicate.HasPlainParent) :
    Spells .closed (Fragment.joined " AND " (predicates.map (fragment node)))
      (Template.conjunction node' predicates) :=
  Spells.joined spells_and exit_and predicates fun predicate hmem =>
    (spells node (h predicate hmem)).congr (slots_congr same predicate)

end Predicate

namespace Assignment

theorem spells {parent : String} (h : Cypher.isPlain parent = true) (assignment : Assignment) :
    Spells .closed (assignment.fragment parent) (assignment.slots parent) := by
  have value (key : String) : Spells .reference [.param [parent, key]]
      (reference [word parent, name key]) := by
    have plain : ∀ p ∈ some parent, Cypher.isPlain p = true := by simpa using h
    exact Spells.param (by simp) (path_tokens plain [key] [name key] rfl)
  cases assignment with
  | plain key =>
    have start : Spells .closed [.name key, .fixed ":"] [name key, mark ':'] := ⟨rfl, rfl⟩
    exact start.append_anywhere (value key)
  | temporal key kind =>
    have start : Spells .closed [.name key, .fixed ": ", .fixed kind.constructor, .fixed "("]
        [name key, mark ':', word kind.function, mark '('] := by
      cases kind <;> exact ⟨rfl, rfl⟩
    have close : Spells .reference [.fixed ")"] [mark ')'] := ⟨rfl, rfl⟩
    exact (start.append_anywhere (value key)).append_anywhere close
  | temporalList key kind =>
    have start : Spells .closed [.name key, .fixed ": [value IN "]
        [name key, mark ':', mark '[', word "value", word "IN"] := ⟨rfl, rfl⟩
    have close : Spells .reference
        [.fixed " | ", .fixed kind.constructor, .fixed "(value)]"]
        [mark '|', word kind.function, mark '(', word "value", mark ')', mark ']'] := by
      cases kind <;> exact ⟨rfl, rfl⟩
    exact (start.append_anywhere (value key)).append_anywhere close

theorem spells_listed {parent : String} (h : Cypher.isPlain parent = true)
    (assignments : List Assignment) :
    Spells .closed (listed parent assignments) (Template.writtenSlots parent assignments) :=
  Spells.listed assignments fun assignment _ => spells h assignment

end Assignment

/-- If a function succeeds on every element of a list, the results are the values of a total one. -/
theorem exists_map_of_mapM {α β ε : Type} [Inhabited β] {f : α → Except ε β} {xs : List α}
    {ys : List β} (h : xs.mapM f = .ok ys) :
    ∃ g : α → β, ys = xs.map g ∧ ∀ x ∈ xs, f x = .ok (g x) := by
  refine ⟨fun x => match f x with | .ok y => y | .error _ => default, ?_⟩
  induction xs generalizing ys with
  | nil =>
    cases h
    exact ⟨rfl, by simp⟩
  | cons x rest ih =>
    rw [List.mapM_cons] at h
    cases hx : f x with
    | error e => simp [hx, bind, Except.bind] at h
    | ok y =>
      cases hrest : rest.mapM f with
      | error e => simp [hx, hrest, bind, Except.bind] at h
      | ok tail =>
        obtain ⟨htail, hall⟩ := ih hrest
        simp only [hx, hrest, bind, Except.bind, pure, Except.pure, Except.ok.injEq] at h
        refine ⟨by simp [← h, htail, hx], ?_⟩
        intro z hz
        rcases List.mem_cons.mp hz with rfl | hz
        · simp only [hx]
        · exact hall z hz

namespace Projection

open Template (Field Entry)

theorem tokens_congr {node node' : String} (h : Cypher.sanitize node = Cypher.sanitize node')
    (field : Field) : (field.slots node).map Slot.token = (field.slots node').map Slot.token := by
  cases field <;> simp [Field.slots, Slot.token, h]

theorem spells_leaf {node node' : String} (h : Cypher.sanitize node = Cypher.sanitize node')
    (bare : Bool) (selection : Selection) :
    Spells .closed (leaf node bare selection)
      ((Field.ofSelection bare selection).slots node') := by
  have same : Spells .closed (leaf node bare selection)
      ((Field.ofSelection bare selection).slots node) := by
    unfold leaf Field.ofSelection internalIdField Selection.responseKey
    split
    · exact ⟨rfl, rfl⟩
    · split <;> exact ⟨rfl, rfl⟩
  exact same.congr (tokens_congr h _)

/-- One end of a relationship with its fields. -/
theorem spells_endpoint {selection : Selection} {node node' : String} {fragment : Fragment}
    (h : Cypher.sanitize node = Cypher.sanitize node')
    (hok : endpoint selection node = .ok fragment) :
    Spells .closed fragment
      (Entry.endpoint (selection.givenKey.getD selection.name) node'
        ((Entry.selected selection.selections).map (.ofSelection false))).slots := by
  unfold endpoint at hok
  cases hfields : (projected selection.selections).mapM (endpointField selection node) with
  | error e => simp [hfields, bind, Except.bind] at hok
  | ok fields =>
    obtain ⟨part, rfl, hpart⟩ := exists_map_of_mapM hfields
    simp only [hfields, bind, Except.bind, pure, Except.pure, Except.ok.injEq] at hok
    subst hok
    have inner : Spells .closed
        (Fragment.listed ((projected selection.selections).map part))
        (Slot.listed ((Entry.selected selection.selections).map fun s =>
          (Field.ofSelection false s).slots node')) := by
      refine Spells.listed _ fun s hs => ?_
      have hok := hpart s hs
      unfold endpointField at hok
      split at hok
      · rw [← Except.ok.inj hok]
        exact spells_leaf h false s
      · cases hok
    have start : Spells .closed
        [.name selection.responseKey, .fixed ": ", .var node, .fixed " ", .fixed "\x7b"]
        [name (selection.givenKey.getD selection.name), mark ':', var node', mark '\x7b'] :=
      ⟨rfl, by simp only [List.map_cons, List.map_nil, Slot.token, ← h]; rfl⟩
    have close : Spells .reference [.fixed "\x7d"] [mark '\x7d'] := ⟨rfl, rfl⟩
    have whole := (start.append_closed rfl inner).append_anywhere close
    simpa [Fragment.braced, Entry.slots, List.map_map, Function.comp_def] using whole

/-- The variables of a request, under names that come to the same. -/
structure SameVariables (request : SelectionRequest) (root : String)
    (linkage : Option Linkage) : Prop where
  root : Cypher.sanitize request.root = Cypher.sanitize root
  bare : isBare request.linkage = linkage.any (·.relationship.isNone)
  ends : ∀ fieldName node, endpointVariable? request.linkage fieldName = some node →
    Cypher.sanitize node = Cypher.sanitize
      (linkage.elim "" fun l => if fieldName = "from" then l.source else l.target)

theorem spells_entry {request : SelectionRequest} {root : String} {linkage : Option Linkage}
    (same : SameVariables request root linkage) {selection : Selection} {fragment : Fragment}
    (hok : entry request selection = .ok fragment) :
    Spells .closed fragment (Entry.ofSelection root linkage selection).slots := by
  unfold entry at hok
  unfold Entry.ofSelection
  have leaf : selection.isLeaf = selection.selections.isEmpty := rfl
  rw [leaf] at hok
  by_cases hleaf : selection.selections.isEmpty = true
  · simp only [hleaf, if_true, Except.ok.injEq] at hok ⊢
    rw [← hok, ← same.bare]
    exact spells_leaf same.root _ selection
  · simp only [hleaf, Bool.false_eq_true, if_false] at hok ⊢
    split at hok
    · rename_i node hnode
      exact spells_endpoint (same.ends _ _ hnode) hok
    · cases hok

/-- What the flat projector writes is spelled by the entries of the selected fields. -/
theorem spells_flat {request : SelectionRequest} {root : String} {linkage : Option Linkage}
    (same : SameVariables request root linkage) {projection : Projection}
    (hok : flat request = .ok projection) :
    Spells .closed projection.fragment (Template.fieldSlots
      ((Entry.selected request.selections).map (Entry.ofSelection root linkage))) := by
  unfold flat at hok
  cases hentries : (projected request.selections).mapM (entry request) with
  | error e => simp [hentries, bind, Except.bind] at hok
  | ok entries =>
    obtain ⟨part, rfl, hpart⟩ := exists_map_of_mapM hentries
    simp only [hentries, bind, Except.bind, pure, Except.pure, Except.ok.injEq] at hok
    subst hok
    have inner : Spells .closed (Fragment.listed ((projected request.selections).map part))
        (Slot.listed ((Entry.selected request.selections).map fun s =>
          (Entry.ofSelection root linkage s).slots)) :=
      Spells.listed _ fun s hs => spells_entry same (hpart s hs)
    simpa [Template.fieldSlots, List.map_map, Function.comp_def] using inner

end Projection

namespace Parameters

/-- An entry of a map literal: a key and its parameter, or the request-wide map. -/
def entryFragment : Option String → Fragment
  | some key => [.name key, .fixed ":", .param [key]]
  | none => [.name globalsKey, .fixed ": ", .param [globalsKey]]

def entrySlots : Option String → List Slot
  | some key => [name key, mark ':'] ++ reference [name key]
  | none => [word "cypherParams", mark ':'] ++ reference [word "cypherParams"]

/-- The entries of a map literal. -/
def mapEntries (keys : List String) (globals : Bool) : List (Option String) :=
  keys.map some ++ if globals then [none] else []

theorem isEmpty_mapEntries (keys : List String) (globals : Bool) :
    (mapEntries keys globals).isEmpty = (keys.isEmpty && !globals) := by
  cases keys <;> cases globals <;> rfl

theorem mapLiteral_eq (keys : List String) (globals : Bool) :
    mapLiteral keys none globals =
      if keys.isEmpty && !globals then []
      else (Fragment.listed ((mapEntries keys globals).map entryFragment)).braced := by
  have entries : (keys.map fun key => [Piece.name key, .fixed ":", .param [key]]) ++
      (if globals then [[.name globalsKey, .fixed ": ", .param [globalsKey]]] else []) =
      (mapEntries keys globals).map entryFragment := by
    cases globals <;> simp [mapEntries, entryFragment, Function.comp_def]
  simp only [mapLiteral, Option.toList_none, List.nil_append, entries, List.isEmpty_map,
    isEmpty_mapEntries]

theorem mapSlots_eq (keys : List String) (globals : Bool) :
    Template.mapSlots keys globals =
      if keys.isEmpty && !globals then []
      else [mark '\x7b'] ++ listed ((mapEntries keys globals).map entrySlots) ++ [mark '\x7d'] := by
  have entries : (keys.map fun key => [name key, mark ':'] ++ reference [name key]) ++
      (if globals then [[word "cypherParams", mark ':'] ++ reference [word "cypherParams"]]
        else []) = (mapEntries keys globals).map entrySlots := by
    cases globals <;> simp [mapEntries, entrySlots, Function.comp_def]
  simp only [Template.mapSlots, entries, List.isEmpty_map, isEmpty_mapEntries]

theorem spells_entryFragment (key : Option String) :
    Spells .closed (entryFragment key) (entrySlots key) := by
  cases key <;> exact ⟨rfl, rfl⟩

theorem spells_mapLiteral (keys : List String) (globals : Bool) :
    Spells .closed (mapLiteral keys none globals) (Template.mapSlots keys globals) := by
  rw [mapLiteral_eq, mapSlots_eq]
  split
  · exact Spells.nil .closed
  · have opening : Spells .closed [.fixed "\x7b"] [mark '\x7b'] := ⟨rfl, rfl⟩
    have closing : Spells .reference [.fixed "\x7d"] [mark '\x7d'] := ⟨rfl, rfl⟩
    exact (opening.append_closed rfl
      (Spells.listed _ fun key _ => spells_entryFragment key)).append_anywhere closing

end Parameters

namespace Paging

theorem spells_orderBy (node : String) (operation : Operation) :
    Spells .reference (orderBy node operation.orderBy)
      ((Template.Rows.ofOperation operation).sortSlots node) := by
  unfold orderBy Template.Rows.sortSlots
  simp only [Template.Rows.ofOperation]
  by_cases hempty : operation.orderBy.isEmpty = true
  · simp only [hempty, if_true]
    exact Spells.nil .reference
  · simp only [hempty, Bool.false_eq_true, if_false]
    have opening : Spells .reference [.fixed " ORDER BY "] [word "ORDER", word "BY"] := ⟨rfl, rfl⟩
    refine opening.append_closed rfl (Spells.listed operation.orderBy fun key _ => ?_)
    obtain ⟨field, direction⟩ := key
    cases direction with
    | ascending | descending =>
      simp only [sortEntry, Template.Rows.keySlots, SortDirection.keyword]
      exact ⟨rfl, rfl⟩

/-- Offset and limit, behind the space in front of them. -/
theorem spells_skipLimit (operation : Operation) :
    Spells .reference ([.fixed " "] ++ skipLimit operation)
      (Template.Rows.ofOperation operation).pageSlots := by
  unfold skipLimit Template.Rows.pageSlots Template.Rows.ofOperation
  cases operation.offset <;> cases operation.first <;> exact ⟨rfl, rfl⟩

end Paging

/-- The match of a node found by its key, at the start of a statement or on a line of its own. -/
theorem Target.spells_matchClause (target : Target) {conditions : Conditions}
    (hnode : Cypher.sanitize conditions.node = Cypher.sanitize target.node)
    (hconditions : ∀ predicate ∈ conditions.predicates, predicate.HasPlainParent)
    (hparent : ∀ p ∈ target.parent, Cypher.isPlain p = true) :
    Spells .spaced (target.matchClause conditions.clauses)
      (Template.Found.slots ⟨target.node, target.label, target.key, target.parent,
        conditions.predicates⟩) := by
  have compared := Predicate.spells_joined hnode hconditions
  simp only [matchClause, Conditions.conjunction?_clauses, Template.Found.slots]
  by_cases hempty : conditions.predicates.isEmpty = true
  · simp only [hempty, if_true]
    have start : Spells .spaced
        [.fixed "MATCH (", .var target.node, .fixed ":", .name target.label, .fixed " \x7b",
          .name target.key, .fixed ": "]
        [word "MATCH", mark '(', var target.node, mark ':', name target.label, mark '\x7b',
          name target.key, mark ':'] := ⟨rfl, rfl⟩
    have value := Spells.param (by simp) (path_tokens hparent [target.key] [name target.key] rfl)
    have close : Spells .reference [.fixed "\x7d)"] [mark '\x7d', mark ')'] := ⟨rfl, rfl⟩
    exact (start.append_anywhere value).append_anywhere close
  · simp only [hempty, Bool.false_eq_true, if_false]
    have start : Spells .spaced
        [.fixed "MATCH (", .var target.node, .fixed ":", .name target.label, .fixed ") WHERE "]
        [word "MATCH", mark '(', var target.node, mark ':', name target.label, mark ')',
          word "WHERE"] := ⟨rfl, rfl⟩
    exact start.append_closed rfl compared

/-- So if the conditions are the temporal comparisons of some values. -/
theorem Target.spells_matchClause_temporal (target : Target) (values : List (String × Json))
    (declared : List Temporal.Declared)
    (hparent : ∀ p ∈ target.parent, Cypher.isPlain p = true) :
    Spells .spaced
      (target.matchClause
        ((Conditions.new target.node).withTemporal values declared target.parent).clauses)
      (Template.Found.slots ⟨target.node, target.label, target.key, target.parent,
        Predicate.temporal values declared target.parent⟩) := by
  have plain := Predicate.hasPlainParent_of_mem_temporal values declared hparent
  rw [← Conditions.predicates_withTemporal target.node] at plain ⊢
  exact target.spells_matchClause (Cypher.sanitize_sanitize target.node) plain hparent

/-- A WHERE clause, and what follows on it. -/
theorem Clause.spells_whereClause {conditions : Conditions} {node : String}
    (hnode : Cypher.sanitize conditions.node = Cypher.sanitize node)
    (hconditions : ∀ predicate ∈ conditions.predicates, predicate.HasPlainParent)
    {tail : Fragment} {slots : List Slot} (htail : Spells .spaced tail slots) :
    Spells .closed (whereClause conditions.clauses ++ tail)
      ((if conditions.predicates.isEmpty then []
        else word "WHERE" :: Template.conjunction node conditions.predicates) ++
          slots) := by
  simp only [whereClause, Conditions.conjunction?_clauses]
  by_cases hempty : conditions.predicates.isEmpty = true
  · simp only [hempty, if_true, List.nil_append]
    exact htail.closed_of_spaced
  · simp only [hempty, Bool.false_eq_true, if_false]
    have start : Spells .closed [.fixed "WHERE "] [word "WHERE"] := ⟨rfl, rfl⟩
    have space : Spells .reference [.fixed " "] [] := ⟨rfl, rfl⟩
    have joined := Predicate.spells_joined hnode hconditions
    have whole := (start.append_closed rfl joined).append_anywhere (space.append htail)
    simpa using whole

namespace Filter

theorem hasPlainParent_conditions (filter : Filter) (node : String) (internalId : Bool)
    (temporal : List Temporal.Declared) :
    ∀ predicate ∈ (filter.conditions node internalId temporal).predicates,
      predicate.HasPlainParent := by
  intro predicate hmem
  simp only [predicates_conditions, List.mem_append, List.mem_map] at hmem
  rcases hmem with ((hmem | ⟨key, _, rfl⟩) | hmem) | ⟨key, _, rfl⟩
  · split at hmem
    · rw [List.mem_singleton.mp hmem]
      trivial
    · simp at hmem
  · trivial
  · exact Predicate.hasPlainParent_of_mem_temporal _ _ (by simp) predicate hmem
  · trivial

end Filter

end CypherSynthesis
