import CypherSynthesis.Proofs.Conditions
import CypherSynthesis.Proofs.Parameters

/-!
Where the parameters of a statement are found. A fragment resolves in a value if the path of each of
its parameters leads somewhere in it; each part of a statement resolves wherever the values that it is
about lie.
-/

namespace CypherSynthesis

open Cypher (Fragment Piece)

namespace Cypher.Fragment

/-- Every parameter of the fragment has a value in `root`. -/
def Resolves (root : Json) (fragment : Fragment) : Prop :=
  ∀ path, Piece.param path ∈ fragment → (root.at? path).isSome = true

variable {root : Json}

@[simp] theorem resolves_nil : Resolves root [] :=
  fun _ h => nomatch h

@[simp] theorem resolves_fixed {text : String} {rest : Fragment} :
    Resolves root (.fixed text :: rest) ↔ Resolves root rest := by
  simp [Resolves]

@[simp] theorem resolves_var {name : String} {rest : Fragment} :
    Resolves root (.var name :: rest) ↔ Resolves root rest := by
  simp [Resolves]

@[simp] theorem resolves_name {name : String} {rest : Fragment} :
    Resolves root (.name name :: rest) ↔ Resolves root rest := by
  simp [Resolves]

@[simp] theorem resolves_literal {text : String} {rest : Fragment} :
    Resolves root (.literal text :: rest) ↔ Resolves root rest := by
  simp [Resolves]

@[simp] theorem resolves_param {path : List String} {rest : Fragment} :
    Resolves root (.param path :: rest) ↔
      (root.at? path).isSome = true ∧ Resolves root rest := by
  simp [Resolves, or_imp, forall_and]

@[simp] theorem resolves_append {before after : Fragment} :
    Resolves root (before ++ after) ↔ Resolves root before ∧ Resolves root after := by
  simp only [Resolves, List.mem_append, or_imp, forall_and]

theorem resolves_joined {separator : String} {parts : List Fragment}
    (h : ∀ part ∈ parts, Resolves root part) : Resolves root (joined separator parts) := by
  induction parts with
  | nil => simp [joined]
  | cons part rest ih =>
    have first := h part (by simp)
    have tail := ih fun part hpart => h part (by simp [hpart])
    cases rest with
    | nil => exact first
    | cons next rest => simp [joined, first, tail]

theorem resolves_listed {parts : List Fragment} (h : ∀ part ∈ parts, Resolves root part) :
    Resolves root (listed parts) :=
  resolves_joined h

theorem resolves_braced {fragment : Fragment} (h : Resolves root fragment) :
    Resolves root fragment.braced := by
  simpa [braced] using h

end Cypher.Fragment

open Cypher.Fragment (Resolves resolves_joined resolves_listed resolves_braced)

variable {root : Json}

/-- The values are found in `root` by their keys, at the top or inside the parent. -/
def LiesIn (root : Json) (parent : Option String) (values : List (String × Json)) : Prop :=
  ∀ key value, Bag.find? key values = some value → root.at? (parent.toList ++ [key]) = some value

theorem LiesIn.filter {values : List (String × Json)} {parent : Option String}
    (lies : LiesIn root parent values) (p : String → Bool) :
    LiesIn root parent (values.filter fun entry => p entry.1) := by
  intro key value h
  rw [Bag.find?_filter_key] at h
  split at h
  · exact lies key value h
  · cases h

theorem LiesIn.isSome {values : List (String × Json)} {parent : Option String}
    (lies : LiesIn root parent values) {key : String} (hkey : key ∈ values.map Prod.fst) :
    (root.at? (parent.toList ++ [key])).isSome = true := by
  obtain ⟨value, hvalue⟩ := Option.isSome_iff_exists.mp ((Bag.isSome_find? key values).mpr hkey)
  simp [lies key value hvalue]

namespace Temporal

theorem isSome_find?_formatted {components : List (String × Json)}
    (h : (formatted? components).isSome = true) :
    (Bag.find? formattedKey components).isSome = true := by
  unfold formatted? at h
  split at h
  · simp [*]
  · simp at h

theorem isSome_find?_given {components : List (String × Json)} {component : String}
    (h : component ∈ (given components).map Prod.fst) :
    (Bag.find? component components).isSome = true := by
  obtain ⟨entry, hentry, rfl⟩ := List.mem_map.mp h
  rw [Bag.isSome_find?]
  exact List.mem_map_of_mem (List.mem_filter.mp hentry).1

end Temporal

/-- A temporal comparison reads what the value has. -/
theorem Predicate.resolves_temporal {values : List (String × Json)}
    {declared : List Temporal.Declared} {parent : Option String} (lies : LiesIn root parent values)
    (node : String) :
    ∀ predicate ∈ temporal values declared parent, Resolves root (predicate.fragment node) := by
  intro predicate hmem
  obtain ⟨declaration, _, hmem⟩ := List.mem_flatMap.mp hmem
  cases hvalue : Bag.find? declaration.name values with
  | none => simp [ofTemporal, hvalue] at hmem
  | some value =>
    cases value with
    | object components =>
      have inside (component : String) (h : (Bag.find? component components).isSome = true) :
          (root.at? (path parent declaration.name ++ [component])).isSome = true := by
        rw [path, Json.at?_append, lies _ _ hvalue]
        simpa [Json.at?] using h
      rw [ofTemporal_object parent hvalue] at hmem
      split at hmem
      · rename_i hformatted
        rw [List.mem_singleton.mp hmem]
        simpa [fragment] using inside _ (Temporal.isSome_find?_formatted hformatted)
      · obtain ⟨component, hcomponent, rfl⟩ := List.mem_map.mp hmem
        simpa [fragment] using inside _ (Temporal.isSome_find?_given hcomponent)
    | null | bool | number | string | array => simp [ofTemporal, hvalue] at hmem

theorem Conditions.resolves_conjunction {conditions : Conditions} {conjunction : Fragment}
    (h : ∀ predicate ∈ conditions.predicates, Resolves root (predicate.fragment conditions.node))
    (hsome : Clause.conjunction? conditions.clauses = some conjunction) :
    Resolves root conjunction := by
  rw [conjunction?_clauses] at hsome
  split at hsome
  · cases hsome
  · obtain rfl := Option.some.inj hsome
    refine resolves_joined fun part hpart => ?_
    obtain ⟨predicate, hpredicate, rfl⟩ := List.mem_map.mp hpart
    exact h predicate hpredicate

/-- The match of a node reads the value of its key. -/
theorem Target.resolves_matchClause (target : Target) {values : List (String × Json)}
    (declared : List Temporal.Declared) (lies : LiesIn root target.parent values)
    (hkey : (Bag.find? target.key values).isSome = true) :
    Resolves root (target.matchClause
      ((Conditions.new target.node).withTemporal values declared target.parent).clauses) := by
  unfold matchClause
  split
  · rename_i conjunction hsome
    have compared : Resolves root conjunction := by
      refine Conditions.resolves_conjunction (fun predicate hpredicate => ?_) hsome
      rw [Conditions.predicates_withTemporal] at hpredicate
      exact Predicate.resolves_temporal lies _ predicate hpredicate
    simpa using compared
  · obtain ⟨value, hvalue⟩ := Option.isSome_iff_exists.mp hkey
    simp [Predicate.path, lies _ _ hvalue]

theorem Clause.resolves_whereClause {conditions : Conditions}
    (h : ∀ predicate ∈ conditions.predicates, Resolves root (predicate.fragment conditions.node)) :
    Resolves root (whereClause conditions.clauses) := by
  unfold whereClause
  split
  · rename_i conjunction hsome
    simpa using Conditions.resolves_conjunction h hsome
  · simp

theorem Parameters.resolves_mapLiteral {keys : List String} {globals : Bool}
    (h : ∀ key ∈ keys, (root.at? [key]).isSome = true)
    (hglobals : globals = true → (root.at? [globalsKey]).isSome = true) :
    Resolves root (mapLiteral keys none globals) := by
  have braces (parts : List Fragment) (hparts : ∀ part ∈ parts, Resolves root part) :
      Resolves root (if parts.isEmpty then [] else (Fragment.listed parts).braced) := by
    split
    · simp
    · exact resolves_braced (resolves_listed hparts)
  refine braces _ fun part hpart => ?_
  rcases List.mem_append.mp hpart with hpart | hpart
  · obtain ⟨key, hkey, rfl⟩ := List.mem_map.mp hpart
    simpa using h key hkey
  · split at hpart
    · rename_i hg
      rw [List.mem_singleton.mp hpart]
      simpa using hglobals hg
    · simp at hpart

theorem Assignment.resolves_listed {parent : String} (declarations : List Declaration)
    {names : List String} (h : ∀ key ∈ names, (root.at? [parent, key]).isSome = true) :
    Resolves root (listed parent (all declarations names)) := by
  refine Cypher.Fragment.resolves_listed fun part hpart => ?_
  obtain ⟨assignment, hassignment, rfl⟩ := List.mem_map.mp hpart
  obtain ⟨key, hkey, hsome⟩ := List.mem_filterMap.mp hassignment
  obtain ⟨type, _, rfl⟩ := Option.map_eq_some_iff.mp hsome
  have hvalue := h key hkey
  unfold ofType
  split
  · split <;> simpa [fragment] using hvalue
  · simpa [fragment] using hvalue

namespace Paging

theorem resolves_orderBy (node : String) (keys : List SortKey) :
    Resolves root (orderBy node keys) := by
  unfold orderBy
  split
  · simp
  · have listed : Resolves root (Fragment.listed (keys.map (sortEntry node))) := by
      refine resolves_listed fun part hpart => ?_
      obtain ⟨key, _, rfl⟩ := List.mem_map.mp hpart
      simp [sortEntry]
    simpa using listed

/-- What the end of an operation's statement reads is bound. -/
structure BoundIn (root : Json) (operation : Operation) : Prop where
  first : operation.first.isSome = true → (root.at? [Parameters.firstKey]).isSome = true
  offset : operation.offset.isSome = true → (root.at? [Parameters.offsetKey]).isSome = true

theorem resolves_skipLimit {operation : Operation} (bound : BoundIn root operation) :
    Resolves root (skipLimit operation) := by
  unfold skipLimit
  refine resolves_joined fun part hpart => ?_
  rcases List.mem_append.mp hpart with hpart | hpart
  · split at hpart
    · rename_i h
      rw [List.mem_singleton.mp hpart]
      simpa using bound.offset h
    · simp at hpart
  · split at hpart
    · rename_i h
      rw [List.mem_singleton.mp hpart]
      simpa using bound.first h
    · simp at hpart

end Paging

namespace Plan

theorem resolves_nodeQuery {operation : Operation} {projection : Fragment}
    (lies : LiesIn root none (Filter.ofArguments operation.arguments).values.entries)
    (internalId : operation.internalId.isSome = true →
      (root.at? [Predicate.internalIdKey]).isSome = true)
    (bound : Paging.BoundIn root operation) (h : Resolves root projection) :
    Resolves root ((nodeQuery operation).statement projection) := by
  have pattern : Resolves root (Parameters.mapLiteral
      ((Filter.ofArguments operation.arguments).inlineKeys
        (Temporal.declared operation.declarations)) none false) :=
    Parameters.resolves_mapLiteral
      (fun key hkey => lies.isSome (Bag.mem_keys_of_filter hkey)) (by simp)
  have conditions : Resolves root (Clause.whereClause
      ((Filter.ofArguments operation.arguments).conditions operation.variableName
        operation.internalId.isSome (Temporal.declared operation.declarations)).clauses) := by
    refine Clause.resolves_whereClause fun predicate hpredicate => ?_
    simp only [Filter.predicates_conditions, List.mem_append, List.mem_map] at hpredicate
    rcases hpredicate with ((hpredicate | ⟨key, _, rfl⟩) | hpredicate) | ⟨key, hkey, rfl⟩
    · split at hpredicate
      · rename_i hid
        rw [List.mem_singleton.mp hpredicate]
        simpa [Predicate.fragment] using internalId hid
      · simp at hpredicate
    · simp [Predicate.fragment]
    · exact Predicate.resolves_temporal lies _ predicate hpredicate
    · simpa [Predicate.fragment] using lies.isSome (Bag.mem_keys_of_filter hkey)
  simpa [nodeQuery, h, pattern, conditions] using
    ⟨Paging.resolves_orderBy operation.variableName operation.orderBy,
      Paging.resolves_skipLimit bound⟩

/-- The bag's values are in parameters of their own, next to the request-wide map. -/
structure ArgumentsIn (root : Json) (operation : Operation) (bag : Bag) : Prop where
  keys : ∀ key ∈ bag.keys, (root.at? [key]).isSome = true
  globals : operation.globals?.isSome = true → (root.at? [Parameters.globalsKey]).isSome = true

theorem resolves_customArguments {operation : Operation} {bag : Bag}
    (arguments : ArgumentsIn root operation bag) (empty : String) :
    Resolves root (customArguments operation bag empty) := by
  unfold customArguments
  dsimp only
  split
  · simp
  · exact Parameters.resolves_mapLiteral arguments.keys arguments.globals

theorem resolves_customProjection (operation : Operation) {projection tail : Fragment}
    (h : Resolves root projection) (htail : Resolves root tail) :
    Resolves root (customProjection operation projection tail) := by
  unfold customProjection
  split
  · simpa [htail] using
      ⟨resolves_braced h, Paging.resolves_orderBy operation.variableName operation.orderBy⟩
  · simp

theorem resolves_customQueryOf {operation : Operation} (statement : String)
    {projection : Fragment} (h : Resolves root projection)
    (arguments : ArgumentsIn root operation
      (Parameters.insertPagination (Filter.ofArguments operation.arguments).values operation))
    (bound : Paging.BoundIn root operation) :
    Resolves root ((customQueryOf operation statement).statement projection) := by
  simpa [customQueryOf] using
    ⟨resolves_customArguments arguments "null",
      resolves_customProjection operation h Cypher.Fragment.resolves_nil,
      Paging.resolves_skipLimit bound⟩

theorem resolves_customMutationOf {operation : Operation} (statement : String)
    {projection : Fragment} (h : Resolves root projection)
    (arguments : ArgumentsIn root operation (Parameters.ofMutation operation))
    (bound : Paging.BoundIn root operation) :
    Resolves root ((customMutationOf operation statement).statement projection) := by
  have tail : Resolves root ([.fixed " "] ++ Paging.skipLimit operation) := by
    simpa using Paging.resolves_skipLimit bound
  simpa [customMutationOf] using
    ⟨resolves_customArguments arguments "\x7b\x7d", resolves_customProjection operation h tail⟩

theorem resolves_nodeCreateWith {operation : Operation} {values : Bag} {projection : Fragment}
    (h : Resolves root projection)
    (keys : ∀ key ∈ values.keys, (root.at? [Parameters.paramsKey, key]).isSome = true) :
    Resolves root ((nodeCreateWith operation values).statement projection) := by
  simpa [nodeCreateWith, h] using Assignment.resolves_listed operation.declarations keys

theorem resolves_keyMatch {operation : Operation} {key : String} {entry : Bag}
    {parent : Option String} (lies : LiesIn root parent entry.entries)
    (hkey : (entry.get? key).isSome = true) :
    Resolves root (keyMatch operation key entry parent) :=
  Target.resolves_matchClause ⟨operation.variableName, operation.typeName, key, parent⟩
    (Temporal.declared operation.declarations) lies hkey

theorem resolves_nodeUpdateBy {operation : Operation} {key : String} {projection : Fragment}
    (h : Resolves root projection)
    (clause : Resolves root (keyMatch operation key
      (Parameters.split (Parameters.supplied operation.arguments) key).1
      (some Parameters.paramsKey)))
    (keys : ∀ k ∈ (Parameters.split (Parameters.supplied operation.arguments) key).2.keys,
      (root.at? [Parameters.paramsKey, k]).isSome = true) :
    Resolves root ((nodeUpdateBy operation key).statement projection) := by
  have written := Assignment.resolves_listed operation.declarations keys
  simp only [nodeUpdateBy]
  split
  · simpa [h] using clause
  · simpa [h, written] using clause

theorem resolves_nodeDeleteBy {operation : Operation} {key : String} {projection : Fragment}
    (h : Resolves root projection)
    (clause : Resolves root (keyMatch operation key
      (Parameters.split (Parameters.ofMutation operation) key).1 none)) :
    Resolves root ((nodeDeleteBy operation key).statement projection) := by
  simpa [nodeDeleteBy, h] using clause

theorem Endpoint.resolves_matchClause {e : Endpoint} (lies : LiesIn root (some e.argument) e.values)
    (hkey : (Bag.find? e.key e.values).isSome = true) : Resolves root e.matchClause := by
  have entry : Bag.find? e.key (e.values.filter (·.1 = e.key)) = Bag.find? e.key e.values := by
    rw [Bag.find?_filter_key (fun name => name = e.key)]
    simp
  exact Target.resolves_matchClause ⟨e.node, e.label, e.key, some e.argument⟩
    (e.temporal.filter (·.name = e.key)) (lies.filter fun k => k = e.key) (entry ▸ hkey)

theorem resolves_relationshipCreateBetween {operation : Operation} {link : Link}
    {source target : Endpoint} {projection : Fragment} (h : Resolves root projection)
    (hsource : Resolves root source.matchClause) (htarget : Resolves root target.matchClause)
    (data : Resolves root (Assignment.listed Parameters.dataKey
      (relationshipData operation (Parameters.ofMutation operation)).1)) :
    Resolves root ((relationshipCreateBetween operation link source target).statement
      projection) := by
  simp only [relationshipCreateBetween]
  split
  · simp [h, hsource, htarget]
  · simpa [h, hsource, htarget] using resolves_braced data

theorem resolves_relationshipDeleteBetween {operation : Operation} {link : Link}
    {source target : Endpoint} {projection : Fragment} (h : Resolves root projection)
    (hsource : Resolves root source.matchClause) (htarget : Resolves root target.matchClause) :
    Resolves root ((relationshipDeleteBetween operation link source target).statement
      projection) := by
  simp [relationshipDeleteBetween, h, hsource, htarget]

end Plan

end CypherSynthesis
