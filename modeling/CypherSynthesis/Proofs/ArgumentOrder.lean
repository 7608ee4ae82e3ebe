import CypherSynthesis.Proofs.Reordering
import CypherSynthesis.Proofs.StatementText

/-!
The order of arguments is immaterial. Where arguments are told apart by their names, putting them in
another order gives the same error, or a statement with the members of each of its groups in another
order and parameters that are equal as maps. The groups are the entries of the pattern and the
conditions of a node query, the arguments of a custom statement, and the properties that are written;
everything around them is the same text.
-/

namespace CypherSynthesis

open Cypher (Fragment Piece)

/-- Members of a statement in the order of the arguments, and what stands between two of them. -/
structure Group where
  separator : String
  members : List Fragment

namespace Group

/-- The entries of a map literal. -/
def ofMap (keys : List String) (globals : Bool) : Group :=
  ⟨", ", (Parameters.mapEntries keys globals).map Parameters.entryFragment⟩

def ofConditions (conditions : Conditions) : Group :=
  ⟨" AND ", conditions.predicates.map (Predicate.fragment conditions.node)⟩

/-- The properties that are written to a node. -/
def ofAssignments (declarations : List Declaration) (values : Bag) : Group :=
  ⟨", ", (Assignment.all declarations values.keys).map (Assignment.fragment Parameters.paramsKey)⟩

/-- The groups of a statement, in the order in which they stand. -/
def all (settings : Settings) (fresh : Json) (operation : Operation) : Kind → List Group
  | .nodeQuery =>
    let filter := Filter.ofArguments operation.arguments
    let temporal := Temporal.declared operation.declarations
    [ofMap (filter.inlineKeys temporal) false,
     ofConditions
      (filter.conditions operation.variableName operation.internalId.isSome temporal)]
  | .customQuery =>
    let values := (Filter.ofArguments operation.arguments).values
    [ofMap (Parameters.insertPagination values operation).keys operation.globals?.isSome]
  | .customMutation =>
    [ofMap (Parameters.ofMutation operation).keys operation.globals?.isSome]
  | .nodeCreate =>
    [ofAssignments operation.declarations (Parameters.created settings fresh operation)]
  | .nodeUpdate =>
    let supplied := Parameters.supplied operation.arguments
    operation.arguments.head?.toList.map fun key =>
      ofAssignments operation.declarations (Parameters.split supplied key.name).2
  | .nodeDelete | .relationshipCreate | .relationshipDelete => []

end Group

/-- The statements have the same text around their groups, and the members of each group of one are
those of the other in any order. -/
inductive Regrouped : List Group → List Group → Fragment → Fragment → Prop where
  | text (text : Fragment) : Regrouped [] [] text text
  | group {members members' : List Fragment} {groups groups' : List Group} {x y : Fragment}
    (text : Fragment) (separator : String) (perm : members.Perm members')
    (rest : Regrouped groups groups' x y) :
    Regrouped (⟨separator, members⟩ :: groups) (⟨separator, members'⟩ :: groups')
      (text ++ (Fragment.joined separator members ++ x))
      (text ++ (Fragment.joined separator members' ++ y))

namespace Regrouped

variable {groups groups' : List Group} {x y : Fragment}

theorem prepend (text : Fragment) (h : Regrouped groups groups' x y) :
    Regrouped groups groups' (text ++ x) (text ++ y) := by
  cases h with
  | text => exact .text (text ++ x)
  | group front separator perm rest =>
    simpa using Regrouped.group (text ++ front) separator perm rest

/-- A group between brackets, or what stands for it if it has no members. -/
theorem optional (text empty opening closing : Fragment) (separator : String)
    {members members' : List Fragment} (perm : members.Perm members')
    (rest : Regrouped groups groups' x y) :
    Regrouped (⟨separator, members⟩ :: groups) (⟨separator, members'⟩ :: groups')
      (text ++ ((if members.isEmpty then empty
        else opening ++ (Fragment.joined separator members ++ closing)) ++ x))
      (text ++ ((if members'.isEmpty then empty
        else opening ++ (Fragment.joined separator members' ++ closing)) ++ y)) := by
  have isEmpty : members'.isEmpty = members.isEmpty := by
    rw [Bool.eq_iff_iff, List.isEmpty_iff, List.isEmpty_iff]
    exact ⟨fun h => (h ▸ perm).eq_nil, fun h => (h ▸ perm).nil_eq.symm⟩
  rw [isEmpty]
  cases h : members.isEmpty with
  | true =>
    -- The group is still there, with no members.
    obtain rfl := List.isEmpty_iff.mp h
    obtain rfl := perm.nil_eq
    simpa [Fragment.joined] using Regrouped.group (text ++ empty) separator perm rest
  | false =>
    simpa using Regrouped.group (text ++ opening) separator perm (rest.prepend closing)

end Regrouped

/-- Plans that ask for the same projection, with statements of the given groups. -/
structure Plan.Agrees (groups groups' : List Group) (a b : Plan) : Prop where
  root : a.root = b.root
  linkage : a.linkage = b.linkage
  statement : ∀ projection, Regrouped groups groups' (a.statement projection) (b.statement projection)
  parameters : a.parameters.Agrees b.parameters

/-- Equal plans but for the order of parameters. -/
theorem Plan.Agrees.of_statement_eq {a b : Plan} (root : a.root = b.root)
    (linkage : a.linkage = b.linkage) (statement : a.statement = b.statement)
    (parameters : a.parameters.Same b.parameters) :
    Plan.Agrees [] [] a b :=
  ⟨root, linkage, fun _ => statement ▸ .text _, parameters.agrees⟩

namespace Plan

open Parameters (insertPagination_eq)

/-- A map literal is its group between braces. -/
theorem mapLiteral_eq_group (keys : List String) (globals : Bool) :
    Parameters.mapLiteral keys none globals =
      if (Group.ofMap keys globals).members.isEmpty then []
      else [.fixed "\x7b"] ++ Fragment.joined ", " (Group.ofMap keys globals).members ++
        [.fixed "\x7d"] := by
  simp only [Parameters.mapLiteral_eq, Group.ofMap, List.isEmpty_map,
    Parameters.isEmpty_mapEntries]
  rfl

theorem customArguments_eq_group (operation : Operation) (bag : Bag) (empty : String) :
    customArguments operation bag empty =
      if (Group.ofMap bag.keys operation.globals?.isSome).members.isEmpty then [.fixed empty]
      else [.fixed "\x7b"] ++
        Fragment.joined ", " (Group.ofMap bag.keys operation.globals?.isSome).members ++
          [.fixed "\x7d"] := by
  rw [customArguments, mapLiteral_eq_group]
  cases (Group.ofMap bag.keys operation.globals?.isSome).members.isEmpty <;> rfl

theorem whereClause_eq_group (conditions : Conditions) :
    Clause.whereClause conditions.clauses =
      if (Group.ofConditions conditions).members.isEmpty then []
      else [.fixed "WHERE "] ++ Fragment.joined " AND " (Group.ofConditions conditions).members ++
        [.fixed " "] := by
  simp only [Conditions.whereClause_clauses, Group.ofConditions, List.isEmpty_map]

theorem listed_eq_group (declarations : List Declaration) (values : Bag) :
    Assignment.listed Parameters.paramsKey (Assignment.all declarations values.keys) =
      Fragment.joined ", " (Group.ofAssignments declarations values).members := rfl

theorem isEmpty_all_eq_group (declarations : List Declaration) (values : Bag) :
    (Assignment.all declarations values.keys).isEmpty =
      (Group.ofAssignments declarations values).members.isEmpty :=
  List.isEmpty_map.symm

theorem members_ofMap_perm {keys keys' : List String} (perm : keys.Perm keys') (globals : Bool) :
    (Group.ofMap keys globals).members.Perm (Group.ofMap keys' globals).members :=
  ((perm.map _).append_right _).map _

section Order

variable {operation : Operation} {arguments : List Argument}
  (perm : operation.arguments.Perm arguments)
  (distinct : (operation.arguments.map Argument.name).Nodup)

include perm distinct

theorem types_of_perm (key : String) :
    Assignment.typeOf? operation.declarations key =
      Assignment.typeOf? (Operation.declarations { operation with arguments }) key :=
  Assignment.typeOf?_of_perm perm distinct key

theorem argument?_of_perm (name : String) :
    operation.argument? name = Operation.argument? { operation with arguments } name :=
  Argument.find?_of_perm perm distinct name

theorem values_paged_same :
    (Parameters.insertPagination (Filter.ofArguments operation.arguments).values operation).Same
      (Parameters.insertPagination (Filter.ofArguments arguments).values
        { operation with arguments }) := by
  rw [insertPagination_eq, insertPagination_eq]
  exact (Filter.values_same perm distinct).insertAll _

theorem ofMutation_same :
    (Parameters.ofMutation operation).Same
      (Parameters.ofMutation { operation with arguments }) := by
  rw [Parameters.ofMutation, Parameters.ofMutation, insertPagination_eq, insertPagination_eq]
  exact (Parameters.supplied_same perm distinct).insertAll _

theorem conditions_perm :
    (Group.ofConditions ((Filter.ofArguments operation.arguments).conditions operation.variableName
        operation.internalId.isSome (Temporal.declared operation.declarations))).members.Perm
      (Group.ofConditions ((Filter.ofArguments arguments).conditions operation.variableName
        operation.internalId.isSome
        (Temporal.declared (Operation.declarations { operation with arguments })))).members := by
  simp only [Group.ofConditions, Filter.node_conditions, Filter.predicates_conditions]
  have values := Filter.values_same perm distinct
  have nulls := (Filter.nulls_same perm distinct).keys.map Predicate.isNull
  have temporal := Predicate.temporal_perm values (Temporal.declared_perm perm) none
  have members := (values.filter fun _ value => value.isArray).keys.map Predicate.memberOf
  exact (((nulls.append_left _).append temporal).append members).map _

theorem nodeQuery_agrees (settings : Settings) (fresh : Json) :
    Agrees (Group.all settings fresh operation .nodeQuery)
      (Group.all settings fresh { operation with arguments } .nodeQuery)
      (nodeQuery operation) (nodeQuery { operation with arguments }) where
  root := rfl
  linkage := rfl
  statement projection := by
    have pattern := Filter.inlineKeys_perm (Filter.values_same perm distinct)
      (Temporal.declared_perm perm)
    simp only [nodeQuery, mapLiteral_eq_group, whereClause_eq_group, List.append_assoc]
    exact .optional _ _ _ _ _ (members_ofMap_perm pattern false)
      (.optional _ _ _ _ _ (conditions_perm perm distinct) (.text _))
  parameters := by
    have paged := values_paged_same perm distinct
    unfold nodeQuery nodeQueryParameters
    dsimp only
    cases operation.internalId with
    | none => exact paged.agrees
    | some id => exact (paged.insert _ _).agrees

theorem customQueryOf_agrees (settings : Settings) (fresh : Json) (statement : String) :
    Agrees (Group.all settings fresh operation .customQuery)
      (Group.all settings fresh { operation with arguments } .customQuery)
      (customQueryOf operation statement) (customQueryOf { operation with arguments } statement) where
  root := rfl
  linkage := rfl
  statement projection := by
    have paged := values_paged_same perm distinct
    simp only [customQueryOf, customArguments_eq_group, List.append_assoc]
    exact .optional _ _ _ _ _ (members_ofMap_perm paged.keys _) (.text _)
  parameters := by
    simp only [customQueryOf]
    exact (values_paged_same perm distinct).agrees

theorem customMutationOf_agrees (settings : Settings) (fresh : Json) (statement : String) :
    Agrees (Group.all settings fresh operation .customMutation)
      (Group.all settings fresh { operation with arguments } .customMutation)
      (customMutationOf operation statement)
      (customMutationOf { operation with arguments } statement) where
  root := rfl
  linkage := rfl
  statement projection := by
    have supplied := ofMutation_same perm distinct
    simp only [customMutationOf, customArguments_eq_group, List.append_assoc]
    exact .optional _ _ _ _ _ (members_ofMap_perm supplied.keys _) (.text _)
  parameters := by
    simp only [customMutationOf]
    exact (ofMutation_same perm distinct).agrees

/-- The argument that needs a generated key is the first one of the id type, so these keep their
order. -/
theorem keyToGenerate?_of_perm {idType : String}
    (generated : operation.arguments.filter (·.type.name = idType) =
      arguments.filter (·.type.name = idType)) :
    Parameters.keyToGenerate? operation.arguments idType (Parameters.supplied operation.arguments) =
      Parameters.keyToGenerate? arguments idType (Parameters.supplied arguments) := by
  have same := Parameters.supplied_same perm distinct
  have first : operation.arguments.find? (·.type.name = idType) =
      arguments.find? (·.type.name = idType) := by
    rw [← List.head?_filter, ← List.head?_filter, generated]
  simp only [Parameters.keyToGenerate?, Bag.contains, same.get?_eq, first]
  rfl

theorem created_same {settings : Settings} (fresh : Json)
    (generated : operation.arguments.filter (·.type.name = settings.idType) =
      arguments.filter (·.type.name = settings.idType)) :
    (Parameters.created settings fresh operation).Same
      (Parameters.created settings fresh { operation with arguments }) := by
  have same := Parameters.supplied_same perm distinct
  unfold Parameters.created
  dsimp only
  rw [keyToGenerate?_of_perm perm distinct generated]
  split
  · exact same.insert _ _
  · exact same

theorem assignments_perm {values values' : Bag} (same : values.Same values') :
    (Group.ofAssignments operation.declarations values).members.Perm
      (Group.ofAssignments (Operation.declarations { operation with arguments }) values').members :=
  (Assignment.all_perm same (types_of_perm perm distinct)).map _

theorem nodeCreate_agrees (settings : Settings) (fresh : Json)
    (generated : operation.arguments.filter (·.type.name = settings.idType) =
      arguments.filter (·.type.name = settings.idType)) :
    Agrees (Group.all settings fresh operation .nodeCreate)
      (Group.all settings fresh { operation with arguments } .nodeCreate)
      (nodeCreateWith operation (Parameters.created settings fresh operation))
      (nodeCreateWith { operation with arguments }
        (Parameters.created settings fresh { operation with arguments })) where
  root := rfl
  linkage := rfl
  statement projection := by
    have values := created_same perm distinct fresh generated
    simp only [nodeCreateWith, listed_eq_group, List.append_assoc]
    exact .group _ _ (assignments_perm perm distinct values) (.text _)
  parameters := by
    have values := created_same perm distinct fresh generated
    have bound := Assignment.stored_same values (types_of_perm perm distinct)
    simp only [nodeCreateWith, Parameters.nested, insertPagination_eq]
    exact bound.agrees_params.insertAll _

/-- The key of an operation is matched by its type and its value, wherever it stands. -/
theorem keyMatch_of_perm {key : Argument} (hkey : key ∈ operation.arguments) {values values' : Bag}
    (same : values.Same values') {value : Json} (hvalue : values.get? key.name = some value)
    (parent : Option String) :
    keyMatch operation key.name (Parameters.split values key.name).1 parent =
      keyMatch { operation with arguments } key.name (Parameters.split values' key.name).1 parent := by
  have distinct' : (arguments.map Argument.name).Nodup := (perm.map _).nodup_iff.mp distinct
  have hvalue' : values'.get? key.name = some value := same.get?_eq _ ▸ hvalue
  have compared := temporal_split operation hvalue
  have compared' := temporal_split { operation with arguments } hvalue'
  rw [filter_eq_singleton distinct hkey] at compared
  rw [filter_eq_singleton distinct' (perm.mem_iff.mp hkey)] at compared'
  unfold keyMatch Conditions.withTemporal
  rw [compared, compared']

omit perm distinct in
theorem keyArgument_of_head (head : operation.arguments.head? = arguments.head?) :
    keyArgument operation = keyArgument { operation with arguments } := by
  unfold keyArgument
  cases harguments : operation.arguments with
  | nil =>
    rw [harguments] at head
    simp [List.head?_eq_none_iff.mp head.symm]
  | cons key rest =>
    rw [harguments] at head
    obtain ⟨rest', hrest⟩ := List.head?_eq_some_iff.mp head.symm
    simp only [hrest]

theorem nodeUpdateBy_agrees (settings : Settings) (fresh : Json) {key : Argument}
    (hkey : keyArgument operation = .ok key)
    (head : operation.arguments.head? = arguments.head?) :
    Agrees (Group.all settings fresh operation .nodeUpdate)
      (Group.all settings fresh { operation with arguments } .nodeUpdate)
      (nodeUpdateBy operation key.name) (nodeUpdateBy { operation with arguments } key.name) := by
  obtain ⟨rest, value, harguments, hgiven, -⟩ := keyArgument_eq_ok hkey
  have same := Parameters.supplied_same perm distinct
  have updates : (Parameters.split (Parameters.supplied operation.arguments) key.name).2.Same
      (Parameters.split (Parameters.supplied arguments) key.name).2 :=
    same.filter fun k _ => k ≠ key.name
  have hvalue : (Parameters.supplied operation.arguments).get? key.name = some value :=
    (get?_supplied_key distinct hkey).trans hgiven
  refine ⟨rfl, rfl, fun projection => ?_, ?_⟩
  -- Only the properties that are set are in the order of the arguments: the key stays in front, and it
  -- is matched by its own type and value.
  · have groups (operation : Operation) (h : operation.arguments.head? = some key) :
        Group.all settings fresh operation .nodeUpdate =
          [Group.ofAssignments operation.declarations
            (Parameters.split (Parameters.supplied operation.arguments) key.name).2] := by
      simp [Group.all, h]
    have first : operation.arguments.head? = some key := by simp [harguments]
    have clause := keyMatch_of_perm perm distinct (by simp [harguments]) same hvalue
      (some Parameters.paramsKey)
    rw [groups operation first, groups { operation with arguments } (head ▸ first)]
    simp only [nodeUpdateBy, clause, listed_eq_group, isEmpty_all_eq_group, List.append_assoc]
    exact .prepend _ (.optional _ _ _ _ _ (assignments_perm perm distinct updates) (.text _))
  · have bound := Assignment.stored_same updates (types_of_perm perm distinct)
    have entry := Parameters.entries_split_entry hvalue
    have entry' := Parameters.entries_split_entry (same.get?_eq key.name ▸ hvalue)
    simp only [nodeUpdateBy, Parameters.nested, insertPagination_eq, entry, entry']
    exact (bound.insertAll _).agrees_params.insertAll _

theorem nodeDeleteBy_agrees {key : Argument} (hkey : keyArgument operation = .ok key) :
    Agrees [] [] (nodeDeleteBy operation key.name)
      (nodeDeleteBy { operation with arguments } key.name) := by
  obtain ⟨rest, value, harguments, hgiven, -⟩ := keyArgument_eq_ok hkey
  have same := ofMutation_same perm distinct
  have hsupplied : (Parameters.supplied operation.arguments).get? key.name = some value :=
    (get?_supplied_key distinct hkey).trans hgiven
  obtain ⟨bound, hbound⟩ : ∃ bound,
      (Parameters.ofMutation operation).get? key.name = some bound := by
    rw [← Option.isSome_iff_exists, Parameters.ofMutation, insertPagination_eq,
      Bag.get?_insertAll_eq_last?, hsupplied]
    simp
  have clause := keyMatch_of_perm perm distinct (by simp [harguments]) same hbound none
  simp only [nodeDeleteBy, clause]
  exact .of_statement_eq rfl rfl rfl same

theorem endpoints_of_perm (settings : Settings) :
    endpoints settings operation = endpoints settings { operation with arguments } := by
  have resolved : Link.resolve { operation with arguments } settings.linkDirective =
      Link.resolve operation settings.linkDirective := rfl
  simp only [endpoints, endpoint, resolved, argument?_of_perm perm distinct]

/-- The properties of a new relationship are in one argument, which is found by its name. -/
theorem relationshipData_of_perm :
    (relationshipData operation (Parameters.ofMutation operation)).1 =
      (relationshipData { operation with arguments }
        (Parameters.ofMutation { operation with arguments })).1 ∧
    (relationshipData operation (Parameters.ofMutation operation)).2.Same
      (relationshipData { operation with arguments }
        (Parameters.ofMutation { operation with arguments })).2 := by
  have same := ofMutation_same perm distinct
  unfold relationshipData
  rw [argument?_of_perm perm distinct, same.get?_eq]
  split
  · exact ⟨rfl, same.insert _ _⟩
  · exact ⟨rfl, same⟩

theorem relationshipCreateBetween_agrees (link : Link) (source target : Endpoint) :
    Agrees [] [] (relationshipCreateBetween operation link source target)
      (relationshipCreateBetween { operation with arguments } link source target) := by
  obtain ⟨assignments, parameters⟩ := relationshipData_of_perm perm distinct
  simp only [relationshipCreateBetween, assignments]
  exact .of_statement_eq rfl rfl rfl parameters

theorem relationshipDeleteBetween_agrees (link : Link) (source target : Endpoint) :
    Agrees [] [] (relationshipDeleteBetween operation link source target)
      (relationshipDeleteBetween { operation with arguments } link source target) := by
  simp only [relationshipDeleteBetween]
  exact .of_statement_eq rfl rfl rfl (ofMutation_same perm distinct)

end Order

end Plan

/-- The operations have the same arguments in another order. The first argument of an update or
deletion stays, as it is the key, and so does the order of arguments of the id type in a creation, as
the first of them gets a generated key. -/
structure Operation.Reordered (settings : Settings) (kind : Kind) (a b : Operation) : Prop where
  arguments : a.arguments.Perm b.arguments
  rest : { a with arguments := b.arguments } = b
  key : kind = .nodeUpdate ∨ kind = .nodeDelete → a.arguments.head? = b.arguments.head?
  generated : kind = .nodeCreate → a.arguments.filter (·.type.name = settings.idType) =
    b.arguments.filter (·.type.name = settings.idType)

/-- The statements are the same up to the order in their groups, and the parameters are equal as
maps. -/
structure Query.Agrees (groups groups' : List Group) (a b : Query) : Prop where
  statement : Regrouped groups groups' a.statement b.statement
  parameters : a.parameters.Agrees b.parameters

theorem Query.Agrees.text_eq {a b : Query} (h : a.Agrees [] [] b) : a.text = b.text := by
  obtain ⟨statement⟩ := a
  obtain ⟨hstatement, -⟩ := h
  cases hstatement
  rfl

namespace Synthesizer

variable {synthesizer : Synthesizer} {kind : Kind} {a b : Operation}

theorem plan_concur (distinct : (a.arguments.map Argument.name).Nodup)
    (reordered : a.Reordered synthesizer.settings kind b) :
    Concur (Plan.Agrees (Group.all synthesizer.settings synthesizer.fresh a kind)
        (Group.all synthesizer.settings synthesizer.fresh b kind))
      (synthesizer.planned kind a) (synthesizer.planned kind b) := by
  obtain ⟨arguments, rfl⟩ : ∃ arguments, b = { a with arguments } :=
    ⟨b.arguments, reordered.rest.symm⟩
  have perm : a.arguments.Perm arguments := reordered.arguments
  cases kind with
  | nodeQuery => exact .ok (Plan.nodeQuery_agrees perm distinct _ _)
  | nodeCreate =>
    rw [planned_nodeCreate, planned_nodeCreate]
    exact .ok (Plan.nodeCreate_agrees perm distinct _ _ (reordered.generated rfl))
  | customQuery =>
    exact .bind_eq rfl fun statement _ => .ok (Plan.customQueryOf_agrees perm distinct _ _ statement)
  | customMutation =>
    exact .bind_eq rfl fun statement _ => .ok (Plan.customMutationOf_agrees perm distinct _ _ statement)
  | nodeUpdate =>
    have head := reordered.key (.inl rfl)
    exact .bind_eq (Plan.keyArgument_of_head head) fun key hkey =>
      .ok (Plan.nodeUpdateBy_agrees perm distinct _ _ hkey head)
  | nodeDelete =>
    exact .bind_eq (Plan.keyArgument_of_head (reordered.key (.inr rfl))) fun key hkey =>
      .ok (Plan.nodeDeleteBy_agrees perm distinct hkey)
  | relationshipCreate =>
    exact .bind_eq (Plan.endpoints_of_perm perm distinct _) fun (link, source, target) _ =>
      .ok (Plan.relationshipCreateBetween_agrees perm distinct link source target)
  | relationshipDelete =>
    exact .bind_eq (Plan.endpoints_of_perm perm distinct _) fun (link, source, target) _ =>
      .ok (Plan.relationshipDeleteBetween_agrees perm distinct link source target)

theorem result_concur (distinct : (a.arguments.map Argument.name).Nodup)
    (reordered : a.Reordered synthesizer.settings kind b) :
    Concur (Query.Agrees (Group.all synthesizer.settings synthesizer.fresh a kind)
        (Group.all synthesizer.settings synthesizer.fresh b kind))
      (synthesizer.synthesizeAs kind a).result (synthesizer.synthesizeAs kind b).result := by
  have globals : a.globals? = b.globals? := by
    rw [← reordered.rest]
    rfl
  rw [result_synthesizeAs, result_synthesizeAs]
  refine (plan_concur distinct reordered).bind fun p q _ _ agrees => ?_
  have request : p.request a = q.request b := by
    rw [← reordered.rest]
    simp only [Plan.request, agrees.root, agrees.linkage]
  refine .bind_eq (by rw [request]) fun projection _ => .ok ⟨agrees.statement _, ?_⟩
  simp only [Plan.query, globals]
  exact Parameters.finish_agrees agrees.parameters projection.parameters b.globals?

/-- Arguments in another order give the same error, or the same query up to the order in its groups
and maps. A deletion or a statement about relationships has no groups, so its text is the same. -/
theorem argument_order_immaterial (synthesizer : Synthesizer) {kind : Kind} {a b : Operation}
    (distinct : (a.arguments.map Argument.name).Nodup)
    (reordered : a.Reordered synthesizer.settings kind b) :
    let groups := Group.all synthesizer.settings synthesizer.fresh
    Concur (Query.Agrees (groups a kind) (groups b kind))
      (synthesizer.synthesizeAs kind a).result (synthesizer.synthesizeAs kind b).result ∧
    (kind = .nodeDelete ∨ kind = .relationshipCreate ∨ kind = .relationshipDelete →
      (synthesizer.synthesizeAs kind a).result.map Query.text =
        (synthesizer.synthesizeAs kind b).result.map Query.text) ∧
    ((∀ k, Kind.classify a synthesizer.settings.customDirective = .ok k → k = kind) →
      Concur (Query.Agrees (groups a kind) (groups b kind))
        (synthesizer.synthesize a).result (synthesizer.synthesize b).result) := by
  intro groups
  have concur := result_concur distinct reordered
  refine ⟨concur, fun ungrouped => ?_, fun classified => ?_⟩
  · have none (operation : Operation) :
        Group.all synthesizer.settings synthesizer.fresh operation kind = [] := by
      rcases ungrouped with rfl | rfl | rfl <;> rfl
    rw [none a, none b] at concur
    exact concur.map_eq fun _ _ agrees => agrees.text_eq
  · have sameKind : Kind.classify b synthesizer.settings.customDirective =
        Kind.classify a synthesizer.settings.customDirective := by
      rw [← reordered.rest]
      rfl
    exact synthesize_concur sameKind classified concur

/-- A film with a new title and date, supplied in either order behind its key. -/
def redatedFilm (dateFirst : Bool) : Operation :=
  let title : Argument := ⟨"title", .named "String", some (.string "Heat")⟩
  let released : Argument :=
    ⟨"released", .named "_Neo4jDateInput", some (.object [("year", .ofInt 1995)])⟩
  { Operation.new .mutation "UpdateMovie" "Movie" with
    selections := [⟨"title", none, []⟩]
    arguments := ⟨"id", .required "ID", some (.string "m1")⟩ ::
      if dateFirst then [released, title] else [title, released] }

theorem argument_order_immaterial_redatedFilm :
    let synthesizer : Synthesizer := ⟨.default, Projection.flat, .null⟩
    let groups := Group.all .default .null
    ((redatedFilm true).arguments.map Argument.name).Nodup ∧
    (redatedFilm true).Reordered .default .nodeUpdate (redatedFilm false) ∧
    (∃ query, (synthesizer.synthesize (redatedFilm true)).result = .ok query ∧
      query.text = "MATCH (movie:Movie \x7bid: $params.id\x7d)\n" ++
        "SET movie += \x7breleased: date($params.released), title:$params.title\x7d\n" ++
        "RETURN movie \x7b.title\x7d AS movie" ∧
      query.parameters.entries = [("params", .object [("released", .object [("year", .ofInt 1995)]),
        ("title", .string "Heat"), ("id", .string "m1")])]) ∧
    (∃ query, (synthesizer.synthesize (redatedFilm false)).result = .ok query ∧
      query.text = "MATCH (movie:Movie \x7bid: $params.id\x7d)\n" ++
        "SET movie += \x7btitle:$params.title, released: date($params.released)\x7d\n" ++
        "RETURN movie \x7b.title\x7d AS movie" ∧
      query.parameters.entries = [("params", .object [("title", .string "Heat"),
        ("released", .object [("year", .ofInt 1995)]), ("id", .string "m1")])]) ∧
    (groups (redatedFilm true) .nodeUpdate).map (·.members.map Fragment.render) =
      [["released: date($params.released)", "title:$params.title"]] ∧
    Concur (Query.Agrees (groups (redatedFilm true) .nodeUpdate)
        (groups (redatedFilm false) .nodeUpdate))
      (synthesizer.synthesize (redatedFilm true)).result
      (synthesizer.synthesize (redatedFilm false)).result := by
  intro synthesizer groups
  have distinct : ((redatedFilm true).arguments.map Argument.name).Nodup := by decide
  have reordered : (redatedFilm true).Reordered .default .nodeUpdate (redatedFilm false) :=
    ⟨(List.Perm.swap _ _ _).cons _, rfl, fun _ => rfl, fun h => nomatch h⟩
  have classified : Kind.classify (redatedFilm true) Settings.default.customDirective =
      .ok .nodeUpdate := rfl
  obtain ⟨-, -, same⟩ := argument_order_immaterial synthesizer distinct reordered
  refine ⟨distinct, reordered, ⟨_, rfl, by decide +kernel, rfl⟩, ⟨_, rfl, by decide +kernel, rfl⟩,
    by decide +kernel, same fun k hk => Except.ok.inj (hk.symm.trans classified)⟩

end Synthesizer

end CypherSynthesis
