import CypherSynthesis.Proofs.Conditions

/-!
Conditions in whatever order they are added. Each addition fills one of the four groups and leaves the
others alone, so what a sequence of additions comes to is known group by group: the internal id once,
and in each other group what its own additions bring, one after the other. Main statement: the clauses
are these four groups, whole and in their fixed order, so additions of different groups can change
places, the internal id can be asked for again, and a WHERE clause is missing only if no addition
brings a condition.
-/

namespace CypherSynthesis

namespace Conditions

inductive Group where
  | internalId
  | nulls
  | temporal
  | members
  deriving DecidableEq, Repr

/-- One way to add conditions, with what it is given. -/
inductive Addition where
  | internalId
  | nulls (keys : List String)
  | temporal (values : List (String × Json)) (declared : List Temporal.Declared)
    (parent : Option String)
  | members (keys : List String)
  deriving Repr

namespace Addition

def group : Addition → Group
  | internalId => .internalId
  | nulls _ => .nulls
  | temporal .. => .temporal
  | members _ => .members

/-- The conditions that the addition brings. -/
def predicates : Addition → List Predicate
  | internalId => [.internalId]
  | nulls keys => keys.map .isNull
  | temporal values declared parent => Predicate.temporal values declared parent
  | members keys => keys.map .memberOf

def clauses (node : String) (addition : Addition) : List Clause :=
  addition.predicates.map (·.clause node)

end Addition

def add (conditions : Conditions) : Addition → Conditions
  | .internalId => conditions.withInternalId
  | .nulls keys => conditions.withNulls keys
  | .temporal values declared parent => conditions.withTemporal values declared parent
  | .members keys => conditions.withMembers keys

/-- The conditions on a node after all additions. -/
def ofAdditions (node : String) (additions : List Addition) : Conditions :=
  additions.foldl add (new node)

def asksId (additions : List Addition) : Bool :=
  additions.any (·.group = .internalId)

/-- What the additions to one group bring, in their order. -/
def gathered (group : Group) (additions : List Addition) : List Predicate :=
  (additions.filter (·.group = group)).flatMap Addition.predicates

theorem asksId_append (before after : List Addition) :
    asksId (before ++ after) = (asksId before || asksId after) :=
  List.any_append

theorem gathered_append (group : Group) (before after : List Addition) :
    gathered group (before ++ after) = gathered group before ++ gathered group after := by
  rw [gathered, List.filter_append, List.flatMap_append]
  rfl

/-- An addition goes to its own group and leaves the others as they are. -/
theorem add_eq (conditions : Conditions) (addition : Addition) :
    conditions.add addition =
      { node := conditions.node
        internalId := conditions.internalId || asksId [addition]
        nulls := conditions.nulls ++ gathered .nulls [addition]
        temporal := conditions.temporal ++ gathered .temporal [addition]
        members := conditions.members ++ gathered .members [addition] } := by
  cases addition <;>
    simp [add, withInternalId, withNulls, withTemporal, withMembers, asksId, gathered,
      Addition.group, Addition.predicates]

/-- What a sequence of additions comes to, whatever was there before. -/
theorem foldl_add (conditions : Conditions) (additions : List Addition) :
    additions.foldl add conditions =
      { node := conditions.node
        internalId := conditions.internalId || asksId additions
        nulls := conditions.nulls ++ gathered .nulls additions
        temporal := conditions.temporal ++ gathered .temporal additions
        members := conditions.members ++ gathered .members additions } := by
  induction additions generalizing conditions with
  | nil => simp [asksId, gathered]
  | cons first rest ih =>
    have id := asksId_append [first] rest
    have groups (group : Group) := gathered_append group [first] rest
    rw [List.singleton_append] at id
    simp only [List.singleton_append] at groups
    rw [List.foldl_cons, ih, add_eq, id, groups, groups, groups]
    simp only [Bool.or_assoc, List.append_assoc]

theorem ofAdditions_eq (node : String) (additions : List Addition) :
    ofAdditions node additions =
      ⟨Cypher.sanitize node, asksId additions, gathered .nulls additions,
        gathered .temporal additions, gathered .members additions⟩ := by
  rw [ofAdditions, foldl_add]
  simp [new]

/-- The clauses of one group, addition by addition. -/
def gatheredClauses (node : String) (group : Group) (additions : List Addition) : List Clause :=
  (additions.filter (·.group = group)).flatMap (Addition.clauses node)

theorem map_clause_gathered (node : String) (group : Group) (additions : List Addition) :
    (gathered group additions).map (·.clause node) = gatheredClauses node group additions := by
  rw [gathered, List.map_flatMap]
  rfl

theorem clauses_ofAdditions (node : String) (additions : List Addition) :
    (ofAdditions node additions).clauses =
      (if asksId additions then [Predicate.internalId.clause (Cypher.sanitize node)] else []) ++
        gatheredClauses (Cypher.sanitize node) .nulls additions ++
        gatheredClauses (Cypher.sanitize node) .temporal additions ++
        gatheredClauses (Cypher.sanitize node) .members additions := by
  rw [clauses_eq, ofAdditions_eq]
  simp only [predicates, List.map_append, map_clause_gathered]
  cases asksId additions <;> rfl

/-- Of two additions to different groups at most one is to the group in question. -/
theorem gathered_swap (group : Group) {first second : Addition} (h : first.group ≠ second.group) :
    gathered group [second, first] = gathered group [first, second] := by
  by_cases hfirst : first.group = group
  · have hsecond : second.group ≠ group := fun same => h (hfirst.trans same.symm)
    simp [gathered, hfirst, hsecond]
  · simp [gathered, List.filter_cons, hfirst]

/-- Additions to different groups can change places. -/
theorem ofAdditions_swap (node : String) (before : List Addition) {first second : Addition}
    (after : List Addition) (h : first.group ≠ second.group) :
    ofAdditions node (before ++ second :: first :: after) =
      ofAdditions node (before ++ first :: second :: after) := by
  have around (x y : Addition) : before ++ x :: y :: after = before ++ ([x, y] ++ after) := rfl
  have id : asksId [second, first] = asksId [first, second] := by
    simp [asksId, Bool.or_comm]
  simp only [ofAdditions_eq, around, asksId_append, gathered_append, gathered_swap _ h, id]

/-- Asking for the internal id once more changes nothing. -/
theorem ofAdditions_internalId_again (node : String) {before after : List Addition}
    (h : .internalId ∈ before ++ after) :
    ofAdditions node (before ++ .internalId :: after) = ofAdditions node (before ++ after) := by
  have around : before ++ .internalId :: after = before ++ ([.internalId] ++ after) := rfl
  have asked : asksId (before ++ after) = true := List.any_eq_true.mpr ⟨_, h, rfl⟩
  have id : asksId (before ++ ([.internalId] ++ after)) = true := by
    simp [asksId, Addition.group]
  have others (group : Group) (hgroup : group ≠ .internalId) :
      gathered group (before ++ ([.internalId] ++ after)) = gathered group (before ++ after) := by
    have nothing : gathered group [.internalId] = [] := by
      simp [gathered, Addition.group, Ne.symm hgroup]
    rw [gathered_append, gathered_append, nothing, List.nil_append, gathered_append]
  rw [around, ofAdditions_eq, ofAdditions_eq, asked, id, others .nulls (by decide),
    others .temporal (by decide), others .members (by decide)]

theorem predicates_ofAdditions_eq_nil_iff (node : String) (additions : List Addition) :
    (ofAdditions node additions).predicates = [] ↔
      ∀ addition ∈ additions, addition.predicates = [] := by
  rw [ofAdditions_eq]
  simp only [predicates, List.append_eq_nil_iff, gathered, List.flatMap_eq_nil_iff,
    List.mem_filter, decide_eq_true_eq, and_imp]
  constructor
  · rintro ⟨⟨⟨id, nulls⟩, temporal⟩, members⟩ addition hmem
    cases addition with
    | internalId =>
      have asked : asksId additions = true := List.any_eq_true.mpr ⟨_, hmem, rfl⟩
      simp [asked] at id
    | nulls keys => exact nulls _ hmem rfl
    | temporal values declared parent => exact temporal _ hmem rfl
    | members keys => exact members _ hmem rfl
  · intro h
    have unasked : asksId additions = false := by
      refine Bool.eq_false_iff.mpr fun asked => ?_
      obtain ⟨addition, hmem, hgroup⟩ := List.any_eq_true.mp asked
      cases addition with
      | internalId => simpa [Addition.predicates] using h _ hmem
      | nulls _ | temporal _ _ _ | members _ => simp [Addition.group] at hgroup
    simp only [unasked, Bool.false_eq_true, if_false, true_and]
    exact ⟨⟨fun addition hmem _ => h addition hmem, fun addition hmem _ => h addition hmem⟩,
      fun addition hmem _ => h addition hmem⟩

/-- There is no WHERE clause only if no addition brings a condition. -/
theorem whereClause_eq_empty_iff (node : String) (additions : List Addition) :
    (Clause.whereClause (ofAdditions node additions).clauses).render = "" ↔
      ∀ addition ∈ additions, addition.clauses node = [] := by
  simp only [Addition.clauses, List.map_eq_nil_iff]
  rw [← predicates_ofAdditions_eq_nil_iff node, whereClause_clauses]
  cases (ofAdditions node additions).predicates with
  | nil => simp
  | cons first rest => simp [Cypher.Piece.render]

/-- The order of additions does not matter but within a group. The clauses are the internal id if it
was asked for, then the conditions on null properties, the temporal comparisons and the memberships,
each group as its own additions bring it and nothing left out. -/
theorem addition_order_immaterial (node : String) (additions : List Addition) :
    (ofAdditions node additions).clauses =
        (if asksId additions then [Predicate.internalId.clause (Cypher.sanitize node)] else []) ++
          gatheredClauses (Cypher.sanitize node) .nulls additions ++
          gatheredClauses (Cypher.sanitize node) .temporal additions ++
          gatheredClauses (Cypher.sanitize node) .members additions ∧
      (∀ before first second after, additions = before ++ first :: second :: after →
        first.group ≠ second.group →
        (ofAdditions node (before ++ second :: first :: after)).clauses =
          (ofAdditions node additions).clauses) ∧
      (∀ before after, additions = before ++ after → .internalId ∈ additions →
        (ofAdditions node (before ++ .internalId :: after)).clauses =
          (ofAdditions node additions).clauses) ∧
      ((Clause.whereClause (ofAdditions node additions).clauses).render = "" ↔
        ∀ addition ∈ additions, addition.clauses node = []) := by
  refine ⟨clauses_ofAdditions node additions, ?_, ?_, whereClause_eq_empty_iff node additions⟩
  · rintro before first second after rfl hgroups
    rw [ofAdditions_swap node before after hgroups]
  · rintro before after rfl hmem
    rw [ofAdditions_internalId_again node hmem]

/-- A film is looked for in every way, the last ways first. -/
def soughtFilm : List Addition :=
  [.members ["genres"],
   .temporal [("released", .object [("year", .ofInt 1999)])] [⟨"released", .date⟩] none,
   .nulls ["born"], .internalId]

theorem addition_order_immaterial_soughtFilm :
    Group.members ≠ Group.temporal ∧ .internalId ∈ soughtFilm ∧
      (ofAdditions "movie"
          [.temporal [("released", .object [("year", .ofInt 1999)])] [⟨"released", .date⟩] none,
            .members ["genres"], .nulls ["born"], .internalId]).clauses =
        (ofAdditions "movie" soughtFilm).clauses ∧
      (ofAdditions "movie" (.internalId :: soughtFilm)).clauses =
        (ofAdditions "movie" soughtFilm).clauses ∧
      (ofAdditions "movie" soughtFilm).clauses.map Clause.text =
        ["ID(movie) = $_id", "movie.born IS NULL", "movie.released.year = $released.year",
          "movie.genres IN $genres"] := by
  have asked : .internalId ∈ soughtFilm := by simp [soughtFilm]
  obtain ⟨-, swap, again, -⟩ := addition_order_immaterial "movie" soughtFilm
  exact ⟨by decide, asked, swap [] _ _ _ rfl (by decide), again [] soughtFilm rfl asked, by decide⟩

end Conditions

end CypherSynthesis
