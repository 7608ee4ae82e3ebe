import CypherSynthesis.Proofs.Renaming
import CypherSynthesis.Proofs.StatementText

/-!
No name and no text of an operation gets out of its place. Whatever an operation is called and
whatever it names, the text of its query is read back as the template of its kind: each name, variable
and custom statement is one token that stands for exactly what the operation has there, and all other
tokens are decided by the kind and the shape of the operation.
-/

namespace CypherSynthesis

open Cypher (Boundary Fragment Piece)
open Slot (word mark var name)
open Template (Entry Found Rows fieldSlots relationName)

namespace Plan

theorem spells_nodeQuery (operation : Operation) {projection : Fragment}
    (h : Spells .closed projection
      (fieldSlots (Entry.all operation.variableName none operation))) :
    Spells .closed ((nodeQuery operation).statement projection)
      (Template.nodeQuery operation.variableName operation.typeName
        operation.patternNames operation.conditions
        (Entry.all operation.variableName none operation) (Rows.ofOperation operation)).slots := by
  have start : Spells .closed
      [.fixed "MATCH (", .var operation.variableName, .fixed ":", .name operation.typeName,
        .fixed " "]
      [word "MATCH", mark '(', var operation.variableName, mark ':', name operation.typeName] :=
    ⟨rfl, rfl⟩
  have close : Spells .reference [.fixed ") "] [mark ')'] := ⟨rfl, rfl⟩
  have result : Spells .spaced [.fixed "RETURN ", .var operation.variableName, .fixed " \x7b"]
      [word "RETURN", var operation.variableName, mark '\x7b'] := ⟨rfl, rfl⟩
  have named : Spells .reference [.fixed "\x7d AS ", .var operation.variableName]
      [mark '\x7d', word "AS", var operation.variableName] := ⟨rfl, rfl⟩
  have tail := (((result.append_closed rfl h).append_anywhere named).append_anywhere
    (Paging.spells_orderBy operation.variableName operation)).append_anywhere
    (Paging.spells_skipLimit operation)
  have filtered := Clause.spells_whereClause
    ((congrArg Cypher.sanitize (Filter.node_conditions (Filter.ofArguments operation.arguments)
      operation.variableName operation.internalId.isSome
      (Temporal.declared operation.declarations))).trans (Cypher.sanitize_sanitize _))
    (Filter.hasPlainParent_conditions _ _ _ _) tail
  have pattern := Parameters.spells_mapLiteral ((Filter.ofArguments operation.arguments).inlineKeys
    (Temporal.declared operation.declarations)) false
  have whole := (start.append_closed rfl pattern).append_anywhere (close.append_closed rfl filtered)
  rw [Filter.predicates_eq_conditions, Filter.inlineKeys_eq_patternNames] at whole
  simpa [nodeQuery, Template.slots, Filter.inlineKeys_eq_patternNames] using whole

/-- The argument map of a custom statement, or what stands for an empty one. -/
theorem spells_customArguments (operation : Operation) {bag : Bag} {names : List String}
    (hnames : bag.keys = names) {empty : String} {slots : List Slot}
    (hempty : Spells .closed [.fixed empty] slots) :
    Spells .closed (customArguments operation bag empty)
      (if names.isEmpty && !!operation.globalEntries.isEmpty then slots
        else Template.mapSlots names (!operation.globalEntries.isEmpty)) := by
  have entries := Parameters.spells_mapLiteral names (!operation.globalEntries.isEmpty)
  unfold customArguments
  rw [hnames, Parameters.isSome_globals?]
  rw [Parameters.mapLiteral_eq] at entries ⊢
  generalize (names.isEmpty && !!operation.globalEntries.isEmpty) = nothing at entries ⊢
  cases nothing with
  | true => exact hempty
  | false => exact entries

/-- The projection of a custom statement's result, behind the space in front of it. -/
theorem spells_customProjection (operation : Operation) {projection tail : Fragment}
    {slots : List Slot} (h : Spells .closed projection
      (fieldSlots (Entry.all operation.variableName none operation)))
    (htail : Spells .reference tail slots) :
    Spells .closed (customProjection operation projection tail)
      (Template.resultSlots operation.variableName (Rows.ofOperation operation)
        (Template.customFields operation) ++
        (if (Template.customFields operation).isSome then slots else [])) := by
  unfold customProjection Template.customFields
  simp only [← SchemaType.isProjectable_iff]
  by_cases hproj : operation.schemaType.isProjectable = true
  · simp only [hproj, if_true, Template.resultSlots, Option.isSome_some]
    have opening : Spells .closed [.fixed "\x7b"] [mark '\x7b'] := ⟨rfl, rfl⟩
    have named : Spells .reference
        [.fixed "\x7d", .fixed " AS ", .var operation.variableName]
        [mark '\x7d', word "AS", var operation.variableName] := ⟨rfl, rfl⟩
    have whole := (((opening.append_closed rfl h).append_anywhere named).append_anywhere
      (Paging.spells_orderBy operation.variableName operation)).append_anywhere htail
    simpa [Fragment.braced] using whole
  · simp only [hproj, Bool.false_eq_true, if_false]
    exact Spells.nil .closed

theorem spells_customQueryOf (operation : Operation) (statement : String) {projection : Fragment}
    (h : Spells .closed projection
      (fieldSlots (Entry.all operation.variableName none operation))) :
    Spells .closed ((customQueryOf operation statement).statement projection)
      (Template.customQuery statement
        (Bag.names (Parameters.valueEntries operation.arguments ++ operation.pageEntries))
        (!operation.globalEntries.isEmpty) operation.variableName (Template.customFields operation)
        (Rows.ofOperation operation)).slots := by
  have start : Spells .closed
      [.fixed "WITH apoc.cypher.runFirstColumn(", .literal statement, .fixed ", "]
      [word "WITH", word "apoc", mark '.', word "cypher", mark '.', word "runFirstColumn",
        mark '(', .text statement, mark ','] := ⟨rfl, rfl⟩
  have null : Spells .closed [.fixed "null"] [word "null"] := ⟨rfl, rfl⟩
  have result : Spells .reference
      [.fixed ", True) AS x UNWIND x AS ", .var operation.variableName, .fixed " RETURN ",
        .var operation.variableName, .fixed " "]
      [mark ',', word "True", mark ')', word "AS", word "x", word "UNWIND", word "x", word "AS",
        var operation.variableName, word "RETURN", var operation.variableName] := ⟨rfl, rfl⟩
  have fields := spells_customProjection operation h (Spells.nil .reference)
  have keys : (Parameters.insertPagination (Filter.ofArguments operation.arguments).values
      operation).keys =
      Bag.names (Parameters.valueEntries operation.arguments ++ operation.pageEntries) := by
    rw [Parameters.insertPagination_eq, Filter.ofArguments_eq, ← Bag.keys_ofList]
    exact congrArg Bag.keys (Bag.insertAll_append _ _ _)
  have arguments := spells_customArguments operation keys null
  have whole := ((start.append_closed rfl arguments).append_anywhere
    (result.append_closed rfl fields)).append_anywhere (Paging.spells_skipLimit operation)
  simpa [customQueryOf, Template.slots] using whole

theorem spells_customMutationOf (operation : Operation) (statement : String)
    {projection : Fragment} (h : Spells .closed projection
      (fieldSlots (Entry.all operation.variableName none operation))) :
    Spells .closed ((customMutationOf operation statement).statement projection)
      (Template.customMutation statement
        (Bag.names (Parameters.suppliedEntries operation.arguments ++ operation.pageEntries))
        (!operation.globalEntries.isEmpty) operation.variableName (Template.customFields operation)
        (Rows.ofOperation operation)).slots := by
  have start : Spells .closed
      [.fixed "CALL apoc.cypher.doIt(", .literal statement, .fixed ", "]
      [word "CALL", word "apoc", mark '.', word "cypher", mark '.', word "doIt", mark '(',
        .text statement, mark ','] := ⟨rfl, rfl⟩
  have braces : Spells .closed [.fixed "\x7b\x7d"] [mark '\x7b', mark '\x7d'] := ⟨rfl, rfl⟩
  have result : Spells .reference
      [.fixed ") YIELD value\nWITH apoc.map.values(value, [keys(value)[0]])[0] AS ",
        .var operation.variableName, .fixed "\nRETURN ", .var operation.variableName, .fixed " "]
      [mark ')', word "YIELD", word "value", word "WITH", word "apoc", mark '.', word "map",
        mark '.', word "values", mark '(', word "value", mark ',', mark '[', word "keys", mark '(',
        word "value", mark ')', mark '[', word "0", mark ']', mark ']', mark ')', mark '[',
        word "0", mark ']', word "AS", var operation.variableName, word "RETURN",
        var operation.variableName] := ⟨rfl, rfl⟩
  have fields := spells_customProjection operation h (Paging.spells_skipLimit operation)
  have keys : (Parameters.ofMutation operation).keys =
      Bag.names (Parameters.suppliedEntries operation.arguments ++ operation.pageEntries) := by
    rw [Parameters.ofMutation_eq_ofList, Bag.keys_ofList]
  have arguments := spells_customArguments operation keys braces
  have whole := (start.append_closed rfl arguments).append_anywhere (result.append_closed rfl fields)
  simpa [customMutationOf, Template.slots] using whole

theorem spells_nodeCreateWith (settings : Settings) (fresh : Json) (operation : Operation)
    {projection : Fragment} (h : Spells .closed projection
      (fieldSlots (Entry.all operation.variableName none operation))) :
    Spells .closed ((nodeCreateWith operation
        (Parameters.created settings fresh operation)).statement projection)
      (Template.nodeCreate operation.variableName operation.typeName
        (Assignment.declared operation.typed
          (Bag.names (operation.createdEntries settings.idType .null)))
        (Entry.all operation.variableName none operation)).slots := by
  have start : Spells .closed
      [.fixed "CREATE (", .var operation.variableName, .fixed ":", .name operation.typeName,
        .fixed " \x7b"]
      [word "CREATE", mark '(', var operation.variableName, mark ':', name operation.typeName,
        mark '\x7b'] := ⟨rfl, rfl⟩
  have result : Spells .reference
      [.fixed "\x7d)\nRETURN ", .var operation.variableName, .fixed " \x7b"]
      [mark '\x7d', mark ')', word "RETURN", var operation.variableName, mark '\x7b'] := ⟨rfl, rfl⟩
  have named : Spells .reference [.fixed "\x7d AS ", .var operation.variableName]
      [mark '\x7d', word "AS", var operation.variableName] := ⟨rfl, rfl⟩
  have params : Cypher.isPlain "params" = true := by decide
  -- The template stands for any generated key: only the names of the entries are looked at.
  have keys : (Parameters.created settings fresh operation).keys =
      Bag.names (operation.createdEntries settings.idType .null) := by
    rw [Parameters.created_eq_ofList, Bag.keys_ofList]
    exact congrArg List.eraseDups (operation.names_createdEntries settings.idType fresh .null)
  have written := Assignment.spells_listed params
    (Assignment.all operation.declarations (Parameters.created settings fresh operation).keys)
  have whole := ((start.append_closed rfl written).append_anywhere
    (result.append_closed rfl h)).append_anywhere named
  have typed : operation.typed = operation.declarations := rfl
  rw [Assignment.all_eq_declared, keys] at whole
  rw [typed]
  simpa [nodeCreateWith, Template.slots, Parameters.paramsKey, Assignment.all_eq_declared, keys]
    using whole

/-- The match of a node by what is bound under the name of its key. -/
theorem spells_keyMatch (operation : Operation) {values : Bag} {key : String} {value : Json}
    (hvalue : values.get? key = some value) (parent : Option String)
    (hparent : ∀ p ∈ parent, Cypher.isPlain p = true) :
    Spells .spaced (keyMatch operation key (Parameters.split values key).1 parent)
      (Found.ofWanted ⟨operation.variableName, operation.typeName, key, parent,
        (operation.arguments.filter (·.name = key)).map Argument.type, value⟩).slots := by
  have found := Target.spells_matchClause_temporal
    ⟨operation.variableName, operation.typeName, key, parent⟩
    (Parameters.split values key).1.entries (Temporal.declared operation.declarations) hparent
  rwa [temporal_split operation hvalue] at found

theorem spells_nodeUpdateBy {operation : Operation} {key : Argument}
    (hkey : keyArgument operation = .ok key) {projection : Fragment}
    (h : Spells .closed projection
      (fieldSlots (Entry.all operation.variableName none operation))) :
    ∃ wanted, operation.wanted? (some "params") = some wanted ∧
      Spells .closed ((nodeUpdateBy operation key.name).statement projection)
        (Template.nodeUpdate
          (.ofWanted (wanted.reading (Parameters.suppliedEntries operation.arguments)))
          (Assignment.declared operation.typed
            ((Bag.names (Parameters.suppliedEntries operation.arguments)).filter (· ≠ wanted.key)))
          (Entry.all operation.variableName none operation)).slots := by
  obtain ⟨value, -, hwanted⟩ := wanted?_of_keyArgument hkey (some "params")
  refine ⟨_, hwanted, ?_⟩
  have params : Cypher.isPlain "params" = true := by decide
  have found := spells_keyMatch operation (get?_supplied_reading hkey value) (some "params")
    (by simpa using params)
  have updates : (Parameters.split (Parameters.supplied operation.arguments) key.name).2.keys =
      (Bag.names (Parameters.suppliedEntries operation.arguments)).filter (· ≠ key.name) :=
    Parameters.keys_split_others operation.arguments key.name
  have line : Spells .reference [.fixed "\n"] [] := ⟨rfl, rfl⟩
  have result : Spells .spaced [.fixed "RETURN ", .var operation.variableName, .fixed " \x7b"]
      [word "RETURN", var operation.variableName, mark '\x7b'] := ⟨rfl, rfl⟩
  have named : Spells .reference [.fixed "\x7d AS ", .var operation.variableName]
      [mark '\x7d', word "AS", var operation.variableName] := ⟨rfl, rfl⟩
  have tail := (result.append_closed rfl h).append_anywhere named
  have written := Assignment.spells_listed params
    (Assignment.declared operation.typed
      ((Bag.names (Parameters.suppliedEntries operation.arguments)).filter (· ≠ key.name)))
  have assigned : Assignment.all operation.declarations
      (Parameters.split (Parameters.supplied operation.arguments) key.name).2.keys =
      Assignment.declared operation.typed
        ((Bag.names (Parameters.suppliedEntries operation.arguments)).filter (· ≠ key.name)) := by
    rw [Assignment.all_eq_declared, updates]
    rfl
  simp only [nodeUpdateBy, Template.slots, assigned]
  split
  · have whole := found.closed_of_spaced.append_anywhere (line.append tail)
    simpa [Found.ofWanted, Wanted.reading, Parameters.paramsKey] using whole
  · have set : Spells .spaced [.fixed "SET ", .var operation.variableName, .fixed " += \x7b"]
        [word "SET", var operation.variableName, mark '+', mark '=', mark '\x7b'] := ⟨rfl, rfl⟩
    have close : Spells .reference [.fixed "\x7d\n"] [mark '\x7d'] := ⟨rfl, rfl⟩
    have setting := (set.append_closed rfl written).append_anywhere
      (close.append_closed rfl tail.closed_of_spaced)
    have whole := found.closed_of_spaced.append_anywhere (line.append setting)
    simpa [Found.ofWanted, Wanted.reading, Parameters.paramsKey] using whole

theorem spells_nodeDeleteBy {operation : Operation} {key : Argument}
    (hkey : keyArgument operation = .ok key) {projection : Fragment}
    (h : Spells .closed projection
      (fieldSlots (Entry.all operation.variableName none operation))) :
    ∃ wanted, operation.wanted? none = some wanted ∧
      Spells .closed ((nodeDeleteBy operation key.name).statement projection)
        (Template.nodeDelete
          (.ofWanted (wanted.reading
            (Parameters.suppliedEntries operation.arguments ++ operation.pageEntries)))
          (operation.variableName ++ "_toDelete")
          (Entry.all operation.variableName none operation)).slots := by
  obtain ⟨value, -, hwanted⟩ := wanted?_of_keyArgument hkey none
  refine ⟨_, hwanted, ?_⟩
  have found := spells_keyMatch operation (get?_ofMutation_reading hkey value) none (by simp)
  have kept : Spells .reference
      [.fixed "\nWITH ", .var operation.variableName, .fixed " AS ",
        .var (operation.variableName ++ "_toDelete"), .fixed ", ", .var operation.variableName,
        .fixed " \x7b"]
      [word "WITH", var operation.variableName, word "AS",
        var (operation.variableName ++ "_toDelete"), mark ',', var operation.variableName,
        mark '\x7b'] := ⟨rfl, rfl⟩
  have deleted : Spells .reference
      [.fixed "\x7d AS ", .var operation.variableName, .fixed "\nDETACH DELETE ",
        .var (operation.variableName ++ "_toDelete"), .fixed "\nRETURN ",
        .var operation.variableName]
      [mark '\x7d', word "AS", var operation.variableName, word "DETACH", word "DELETE",
        var (operation.variableName ++ "_toDelete"), word "RETURN", var operation.variableName] :=
    ⟨rfl, rfl⟩
  have whole := found.closed_of_spaced.append_anywhere
    ((kept.append_closed rfl h).append_anywhere deleted)
  simpa [nodeDeleteBy, Template.slots, Found.ofWanted, Wanted.reading] using whole

/-- The end of a relationship is matched as the node that is wanted there. -/
structure Endpoint.Meets (e : Endpoint) (wanted : Wanted) : Prop where
  node : e.node = wanted.node
  spells : Spells .spaced e.matchClause (Found.ofWanted wanted).slots

theorem meets_of_endpoint {operation : Operation} {argumentName typeName : String} {e : Endpoint}
    (plain : Cypher.isPlain argumentName = true)
    (h : endpoint operation argumentName typeName = .ok e) :
    ∃ wanted, operation.wantedEnd? argumentName typeName = some wanted ∧ e.Meets wanted := by
  obtain ⟨types, value, hwanted, rfl, compared⟩ := wantedEnd?_of_endpoint h
  refine ⟨_, hwanted, rfl, ?_⟩
  have found := Target.spells_matchClause_temporal ⟨e.node, e.label, e.key, some e.argument⟩
    (e.values.filter (·.1 = e.key)) (e.temporal.filter (·.name = e.key)) (by simpa using plain)
  rwa [compared] at found

theorem meets_of_endpoints {settings : Settings} {operation : Operation} {link : Link}
    {source target : Endpoint} (h : endpoints settings operation = .ok (link, source, target)) :
    operation.link? settings = some link ∧
      (∃ wanted, operation.wantedEnd? "from" link.sourceType = some wanted ∧
        source.Meets wanted) ∧
      ∃ wanted, operation.wantedEnd? "to" link.targetType = some wanted ∧ target.Meets wanted := by
  obtain ⟨hlink, hsource, htarget⟩ := endpoints_eq_ok h
  exact ⟨Link.link?_of_resolve hlink, meets_of_endpoint (by decide) hsource,
    meets_of_endpoint (by decide) htarget⟩

/-- The matches of both ends, each on a line of its own. -/
theorem spells_ends {source target : Endpoint} {wanted wanted' : Wanted}
    (hsource : source.Meets wanted) (htarget : target.Meets wanted') :
    Spells .closed (source.matchClause ++ ([.fixed "\n"] ++ target.matchClause))
      ((Found.ofWanted wanted).slots ++ (Found.ofWanted wanted').slots) := by
  have line : Spells .reference [.fixed "\n"] [] := ⟨rfl, rfl⟩
  exact hsource.spells.closed_of_spaced.append_anywhere (line.append htarget.spells)

/-- The properties of a new relationship, if it has any. -/
theorem spells_properties (written : List Assignment) :
    Spells .reference
      (if written.isEmpty then []
        else [.fixed " "] ++ (Assignment.listed Parameters.dataKey written).braced)
      (if written.isEmpty then []
        else [mark '\x7b'] ++ Template.writtenSlots "data" written ++ [mark '\x7d']) := by
  split
  · exact Spells.nil .reference
  · have opening : Spells .reference [.fixed " ", .fixed "\x7b"] [mark '\x7b'] := ⟨rfl, rfl⟩
    have closing : Spells .reference [.fixed "\x7d"] [mark '\x7d'] := ⟨rfl, rfl⟩
    have plain : Cypher.isPlain "data" = true := by decide
    have whole := (opening.append_closed rfl
      (Assignment.spells_listed plain written)).append_anywhere closing
    simpa [Fragment.braced, Parameters.dataKey] using whole

theorem spells_relationshipCreateBetween (operation : Operation) (link : Link)
    {source target : Endpoint} {wanted wanted' : Wanted} (hsource : source.Meets wanted)
    (htarget : target.Meets wanted') {projection : Fragment} {fields : List Entry}
    (h : Spells .closed projection (fieldSlots fields)) :
    Spells .closed ((relationshipCreateBetween operation link source target).statement projection)
      (Template.relationshipCreate (.ofWanted wanted) (.ofWanted wanted') (relationName link)
        link.relationship
        (operation.data?.elim [] fun (declared, members) =>
          Assignment.declared declared (members.map Prod.fst))
        fields operation.schemaType.name).slots := by
  have data : (relationshipData operation (Parameters.ofMutation operation)).1 =
      operation.data?.elim [] fun (declared, members) =>
        Assignment.declared declared (members.map Prod.fst) := by
    rw [relationshipData_eq]
    cases operation.data? <;> rfl
  have created : Spells .reference
      [.fixed "\nCREATE (", .var source.node, .fixed ")-[",
        .var (Cypher.sanitize (relationName link)), .fixed ":", .name link.relationship]
      [word "CREATE", mark '(', var source.node, mark ')', mark '-', mark '[',
        var (Cypher.sanitize (relationName link)), mark ':', name link.relationship] := ⟨rfl, rfl⟩
  have result : Spells .reference
      [.fixed "]->(", .var target.node, .fixed ")\nRETURN ",
        .var (Cypher.sanitize (relationName link)), .fixed " \x7b "]
      [mark ']', mark '-', mark '>', mark '(', var target.node, mark ')', word "RETURN",
        var (Cypher.sanitize (relationName link)), mark '\x7b'] := ⟨rfl, rfl⟩
  have named : Spells .reference [.fixed " \x7d AS ", .var operation.schemaType.name]
      [mark '\x7d', word "AS", var operation.schemaType.name] := ⟨rfl, rfl⟩
  have tail := (result.append_closed rfl h).append_anywhere named
  have whole := (spells_ends hsource htarget).append_anywhere
    (created.append_anywhere ((spells_properties
      (relationshipData operation (Parameters.ofMutation operation)).1).append_anywhere tail))
  rw [data] at whole
  refine Spells.congr (by simpa [relationshipCreateBetween, relationName, data] using whole) ?_
  simp [Template.slots, Found.ofWanted, Slot.token, Cypher.sanitize_sanitize, relationName,
    hsource.node, htarget.node]

theorem spells_relationshipDeleteBetween (operation : Operation) (link : Link)
    {source target : Endpoint} {wanted wanted' : Wanted} (hsource : source.Meets wanted)
    (htarget : target.Meets wanted') {projection : Fragment} {fields : List Entry}
    (h : Spells .closed projection (fieldSlots fields)) :
    Spells .closed ((relationshipDeleteBetween operation link source target).statement projection)
      (Template.relationshipDelete (.ofWanted wanted) (.ofWanted wanted')
        (wanted.node ++ wanted'.node) link.relationship ("_" ++ wanted.node) ("_" ++ wanted'.node)
        fields operation.schemaType.name).slots := by
  have deleted : Spells .reference
      [.fixed "\nOPTIONAL MATCH (", .var source.node, .fixed ")-[", .var (source.node ++ target.node),
        .fixed ":", .name link.relationship, .fixed "]->(", .var target.node, .fixed ")\nDELETE ",
        .var (source.node ++ target.node), .fixed "\nWITH COUNT(*) AS scope, ", .var source.node,
        .fixed " AS ", .var (Cypher.sanitize ("_" ++ source.node)), .fixed ", ", .var target.node,
        .fixed " AS ", .var (Cypher.sanitize ("_" ++ target.node)), .fixed "\nRETURN \x7b"]
      [word "OPTIONAL", word "MATCH", mark '(', var source.node, mark ')', mark '-', mark '[',
        var (source.node ++ target.node), mark ':', name link.relationship, mark ']', mark '-',
        mark '>', mark '(', var target.node, mark ')', word "DELETE",
        var (source.node ++ target.node), word "WITH", word "COUNT", mark '(', mark '*', mark ')',
        word "AS", word "scope", mark ',', var source.node, word "AS",
        var (Cypher.sanitize ("_" ++ source.node)), mark ',', var target.node, word "AS",
        var (Cypher.sanitize ("_" ++ target.node)), word "RETURN", mark '\x7b'] := ⟨rfl, rfl⟩
  have named : Spells .reference [.fixed "\x7d AS ", .var operation.schemaType.name]
      [mark '\x7d', word "AS", var operation.schemaType.name] := ⟨rfl, rfl⟩
  have whole := (spells_ends hsource htarget).append_anywhere
    ((deleted.append_closed rfl h).append_anywhere named)
  refine Spells.congr (by simpa [relationshipDeleteBetween] using whole) ?_
  simp [Template.slots, Found.ofWanted, Slot.token, Cypher.sanitize_sanitize, hsource.node,
    htarget.node]

/-- A plan about one node projects the fields of that node. -/
theorem spells_node {plan : Plan} {operation : Operation} {projection : Projection}
    (hroot : plan.root = operation.variableName) (hlinkage : plan.linkage = none)
    (h : Projection.flat (plan.request operation) = .ok projection) :
    Spells .closed projection.fragment
      (fieldSlots (Entry.all operation.variableName none operation)) := by
  have root : (plan.request operation).root = operation.variableName := hroot
  have linkage : (plan.request operation).linkage = none := hlinkage
  have same : Projection.SameVariables (plan.request operation) operation.variableName none :=
    ⟨by rw [root], by rw [linkage]; rfl, fun fieldName node hnode => by
      rw [linkage] at hnode; cases hnode⟩
  exact Projection.spells_flat same h

/-- A plan about a relationship projects fields of its ends, under variables that come to the
same. -/
theorem spells_link (plan : Plan) {operation : Operation} {projection : Projection}
    {root : String} {bound linkage : Linkage} (hlinkage : plan.linkage = some bound)
    (hroot : Cypher.sanitize plan.root = Cypher.sanitize root)
    (hsource : Cypher.sanitize bound.source = Cypher.sanitize linkage.source)
    (htarget : Cypher.sanitize bound.target = Cypher.sanitize linkage.target)
    (hrelationship : bound.relationship.isNone = linkage.relationship.isNone)
    (h : Projection.flat (plan.request operation) = .ok projection) :
    Spells .closed projection.fragment
      (fieldSlots (Entry.all root (some linkage) operation)) := by
  have bound' : (plan.request operation).linkage = some bound := hlinkage
  have same : Projection.SameVariables (plan.request operation) root (some linkage) := by
    refine ⟨hroot, ?_, fun fieldName node hnode => ?_⟩
    · simpa [bound', Projection.isBare] using hrelationship
    · simp only [bound', Projection.endpointVariable?, bind, Option.bind, Option.elim] at hnode ⊢
      split at hnode
      · rename_i hfrom
        obtain rfl := Option.some.inj hnode
        simpa [show fieldName = "from" from hfrom] using hsource
      · rename_i hfrom
        split at hnode
        · obtain rfl := Option.some.inj hnode
          simpa [show ¬ fieldName = "from" from hfrom] using htarget
        · cases hnode
  exact Projection.spells_flat same h

theorem sanitize_projectedEnd (operation : Operation) (link : Link) (source target : String) :
    Cypher.sanitize
        (projectedEnd operation link (Cypher.sanitize source) (Cypher.sanitize target)) =
      Cypher.sanitize (projectedEnd operation link source target) := by
  unfold projectedEnd
  split <;> exact Cypher.sanitize_sanitize _

end Plan

/-- A statement with its projected fields spells the template of its operation. -/
theorem Synthesizer.exists_template {settings : Settings} {fresh : Json} {kind : Kind}
    {operation : Operation} {plan : Plan} {projection : Projection}
    (hplan : (Synthesizer.mk settings Projection.flat fresh).planned kind operation = .ok plan)
    (hflat : Projection.flat (plan.request operation) = .ok projection) :
    ∃ template, Template.of? settings operation kind = some template ∧
      Spells .closed (plan.statement projection.fragment) template.slots := by
  cases kind with
  | nodeQuery =>
    obtain rfl := Except.ok.inj hplan
    exact ⟨_, rfl, Plan.spells_nodeQuery operation (Plan.spells_node rfl rfl hflat)⟩
  | customQuery =>
    obtain ⟨statement, hstatement, rfl⟩ := Plan.customQuery_eq_ok hplan
    refine ⟨_, ?_, Plan.spells_customQueryOf operation statement (Plan.spells_node rfl rfl hflat)⟩
    simp [Template.of?, Plan.statement?_of_customStatement hstatement]
  | customMutation =>
    obtain ⟨statement, hstatement, rfl⟩ := Plan.customMutation_eq_ok hplan
    refine ⟨_, ?_,
      Plan.spells_customMutationOf operation statement (Plan.spells_node rfl rfl hflat)⟩
    simp [Template.of?, Plan.statement?_of_customStatement hstatement]
  | nodeCreate =>
    rw [planned_nodeCreate] at hplan
    obtain rfl := Except.ok.inj hplan
    exact ⟨_, rfl, Plan.spells_nodeCreateWith settings fresh operation
      (Plan.spells_node rfl rfl hflat)⟩
  | nodeUpdate =>
    obtain ⟨key, hkey, rfl⟩ := Plan.nodeUpdate_eq_ok hplan
    obtain ⟨wanted, hwanted, spelled⟩ :=
      Plan.spells_nodeUpdateBy hkey (Plan.spells_node rfl rfl hflat)
    exact ⟨_, by simp [Template.of?, hwanted], spelled⟩
  | nodeDelete =>
    obtain ⟨key, hkey, rfl⟩ := Plan.nodeDelete_eq_ok hplan
    obtain ⟨wanted, hwanted, spelled⟩ :=
      Plan.spells_nodeDeleteBy hkey (Plan.spells_node rfl rfl hflat)
    exact ⟨_, by simp [Template.of?, hwanted], spelled⟩
  | relationshipCreate =>
    obtain ⟨link, source, target, hends, rfl⟩ := Plan.relationshipCreate_eq_ok hplan
    obtain ⟨hlink, ⟨wanted, hwanted, hsource⟩, wanted', hwanted', htarget⟩ :=
      Plan.meets_of_endpoints hends
    have fields : Spells .closed projection.fragment (fieldSlots
        (Entry.all (Template.rootEnd operation link wanted.node wanted'.node)
          (some ⟨wanted.node, wanted'.node, some (relationName link)⟩) operation)) := by
      rw [← hsource.node, ← htarget.node]
      exact Plan.spells_link (Plan.relationshipCreateBetween operation link source target) rfl rfl
        rfl rfl (by simp only [Option.isNone_some]) hflat
    refine ⟨_, ?_, Plan.spells_relationshipCreateBetween operation link hsource htarget fields⟩
    simp [Template.of?, hlink, hwanted, hwanted']
  | relationshipDelete =>
    obtain ⟨link, source, target, hends, rfl⟩ := Plan.relationshipDelete_eq_ok hplan
    obtain ⟨hlink, ⟨wanted, hwanted, hsource⟩, wanted', hwanted', htarget⟩ :=
      Plan.meets_of_endpoints hends
    have fields : Spells .closed projection.fragment (fieldSlots
        (Entry.all (Template.rootEnd operation link ("_" ++ wanted.node) ("_" ++ wanted'.node))
          (some ⟨"_" ++ wanted.node, "_" ++ wanted'.node, none⟩) operation)) := by
      rw [← hsource.node, ← htarget.node]
      exact Plan.spells_link (Plan.relationshipDeleteBetween operation link source target) rfl
        (Plan.sanitize_projectedEnd operation link _ _) (Cypher.sanitize_sanitize _)
        (Cypher.sanitize_sanitize _) rfl hflat
    refine ⟨_, ?_, Plan.spells_relationshipDeleteBetween operation link hsource htarget fields⟩
    simp [Template.of?, hlink, hwanted, hwanted']

/-- The token is what the slot asks for. A name may be quoted or not, but it is exactly that name. -/
def Slot.Holds : Slot → Cypher.Token → Prop
  | word s, token => token = .word s
  | mark c, token => token = .mark c
  | var s, token => token = .word (Cypher.sanitize s)
  | name s, token => token.name? = some s
  | text s, token => token = .text s

theorem Slot.holds_token (slot : Slot) : slot.Holds slot.token := by
  cases slot with
  | name s => exact Cypher.Token.name?_ofName s
  | word | mark | var | text => rfl

theorem Slot.forall₂_holds (slots : List Slot) :
    List.Forall₂ Slot.Holds slots (slots.map Slot.token) := by
  induction slots with
  | nil => exact .nil
  | cons slot rest ih => exact .cons slot.holds_token ih

/-- The text is read back as the tokens of the template. -/
theorem Synthesizer.lex_text (settings : Settings) (fresh : Json) (operation : Operation)
    {query : Query}
    (h : ((Synthesizer.mk settings Projection.flat fresh).synthesize operation).result =
      .ok query) :
    ∃ kind template, Kind.classify operation settings.customDirective = .ok kind ∧
      Template.of? settings operation kind = some template ∧
      Cypher.lex query.text = some (template.slots.map Slot.token) := by
  obtain ⟨kind, hkind, h⟩ := synthesize_eq_ok h
  obtain ⟨plan, projection, hplan, hflat, rfl⟩ := synthesizeAs_eq_ok h
  obtain ⟨template, htemplate, spelled⟩ := exists_template hplan hflat
  refine ⟨kind, template, hkind, htemplate, ?_⟩
  rw [← spelled.tokens]
  exact Fragment.lex_render spelled.spaced

/-- The text of a query is read back as the template of its operation: token by token it is what the
slots ask for. Under other names the operation is of the same kind, and its template has the same words
and marks in the same places and its names and texts renamed. -/
theorem Synthesizer.lex_text_synthesize (settings : Settings) (fresh : Json)
    (operation : Operation) {query : Query}
    (h : ((Synthesizer.mk settings Projection.flat fresh).synthesize operation).result =
      .ok query) :
    ∃ kind template tokens, Kind.classify operation settings.customDirective = .ok kind ∧
      Template.of? settings operation kind = some template ∧
      Cypher.lex query.text = some tokens ∧
      List.Forall₂ Slot.Holds template.slots tokens ∧
      ∀ r : Renaming, Kind.classify (operation.rename r) settings.customDirective = .ok kind ∧
        ∃ renamed, Template.of? settings (operation.rename r) kind = some renamed ∧
          List.Forall₂ (Slot.RenamedBy r) template.slots renamed.slots := by
  obtain ⟨kind, template, hkind, htemplate, hlex⟩ := lex_text settings fresh operation h
  refine ⟨kind, template, _, hkind, htemplate, hlex, Slot.forall₂_holds template.slots, fun r =>
    ⟨?_, Template.exists_renamed r htemplate⟩⟩
  rw [r.classify_rename, hkind]

/-- A query whose label, keys, sort field and response key try to end the text that they stand in. -/
def hostileQuery : Operation :=
  { Operation.new .query "movies" "Mo`vie) DETACH DELETE (x" with
    variableName := "m //"
    arguments :=
      [⟨"ti`tle: \"x\"", .named "String", some (.string "`")⟩,
        ⟨"in", .named "Int", some (.array [])⟩,
        ⟨"gone", .named "String", some .null⟩,
        ⟨"on", .named "_Neo4jDateInput", some (.object [("a-b", .bool true)])⟩]
    selections := [⟨"year", some "a\nb", []⟩]
    orderBy := [⟨"`", .descending⟩] }

/-- A custom statement that tries to end the text that it stands in. -/
def hostileCall : Operation :=
  { Operation.new .mutation "run" "Movie" with
    directives := [⟨"cypher", { entries := [("statement", .string "x\" //\\")] }⟩]
    arguments := [⟨"a b", .named "Int", some .null⟩]
    selections := [⟨"year", none, []⟩] }

theorem Synthesizer.lex_text_hostileQuery :
    (∃ query template, ((Synthesizer.mk .default Projection.flat .null).synthesize
        hostileQuery).result = .ok query ∧
      Template.of? .default hostileQuery .nodeQuery = some template ∧
      (∀ r : Renaming, ∃ renamed,
        Template.of? .default (hostileQuery.rename r) .nodeQuery = some renamed ∧
          List.Forall₂ (Slot.RenamedBy r) template.slots renamed.slots) ∧
      Cypher.lex query.text = some
        [.word "MATCH", .mark '(', .word "m___", .mark ':', .quoted "Mo`vie) DETACH DELETE (x",
          .mark '\x7b', .quoted "ti`tle: \"x\"", .mark ':', .mark '$', .quoted "ti`tle: \"x\"",
          .mark '\x7d', .mark ')', .word "WHERE", .word "m___", .mark '.', .word "gone",
          .word "IS", .word "NULL", .word "AND", .word "m___", .mark '.', .word "on", .mark '.',
          .quoted "a-b", .mark '=', .mark '$', .word "on", .mark '.', .quoted "a-b", .word "AND",
          .word "m___", .mark '.', .word "in", .word "IN", .mark '$', .word "in", .word "RETURN",
          .word "m___", .mark '\x7b', .quoted "a\nb", .mark ':', .word "m___", .mark '.',
          .word "year", .mark '\x7d', .word "AS", .word "m___", .word "ORDER", .word "BY",
          .word "m___", .mark '.', .quoted "`", .word "DESC"]) ∧
    ∃ query, ((Synthesizer.mk .default Projection.flat .null).synthesize hostileCall).result =
        .ok query ∧
      Cypher.lex query.text = some
        [.word "CALL", .word "apoc", .mark '.', .word "cypher", .mark '.', .word "doIt", .mark '(',
          .text "x\" //\\", .mark ',', .mark '\x7b', .quoted "a b", .mark ':', .mark '$',
          .quoted "a b", .mark '\x7d', .mark ')', .word "YIELD", .word "value", .word "WITH",
          .word "apoc", .mark '.', .word "map", .mark '.', .word "values", .mark '(',
          .word "value", .mark ',', .mark '[', .word "keys", .mark '(', .word "value", .mark ')',
          .mark '[', .word "0", .mark ']', .mark ']', .mark ')', .mark '[', .word "0", .mark ']',
          .word "AS", .word "movie", .word "RETURN", .word "movie", .mark '\x7b', .mark '.',
          .word "year", .mark '\x7d', .word "AS", .word "movie"] := by
  constructor
  · obtain ⟨kind, template, tokens, hkind, htemplate, -, -, renamed⟩ :=
      lex_text_synthesize .default .null hostileQuery rfl
    obtain ⟨kind', template', hkind', htemplate', hlex⟩ :=
      lex_text .default .null hostileQuery rfl
    cases hkind
    cases hkind'
    cases htemplate
    cases htemplate'
    exact ⟨_, _, rfl, rfl, fun r => (renamed r).2, hlex⟩
  · obtain ⟨kind, template, hkind, htemplate, hlex⟩ :=
      lex_text .default .null hostileCall rfl
    cases hkind
    cases htemplate
    exact ⟨_, rfl, hlex⟩

end CypherSynthesis
