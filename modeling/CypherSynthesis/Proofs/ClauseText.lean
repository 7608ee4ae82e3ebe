import CypherSynthesis.Proofs.Request

/-!
The clauses of a mutation, written out as text. A node is matched with its key inside the pattern or
under conditions on the key; behind the matches stand the clauses that change the graph and the
projection. Main statements: the statements of updates, deletions and relationships are these texts,
for the nodes that the operation asks for.
-/

namespace CypherSynthesis

open Cypher (Fragment Piece quote reference sanitize)

/-- A condition on the node. -/
def Predicate.spelled (node : String) : Predicate → String
  | internalId => "ID(" ++ sanitize node ++ ") = " ++ reference ["_id"]
  | isNull key => sanitize node ++ "." ++ quote key ++ " IS NULL"
  | sameValue key kind parent =>
    sanitize node ++ "." ++ quote key ++ " = " ++ kind.function ++ "(" ++
      reference (parent.toList ++ [key, "formatted"]) ++ ")"
  | sameComponent key component parent =>
    sanitize node ++ "." ++ quote key ++ "." ++ quote component ++ " = " ++
      reference (parent.toList ++ [key, component])
  | memberOf key => sanitize node ++ "." ++ quote key ++ " IN " ++ reference [key]

/-- A property that is written with its value inside `parent`. -/
def Assignment.spelled (parent : String) : Assignment → String
  | plain key => quote key ++ ":" ++ reference [parent, key]
  | temporal key kind =>
    quote key ++ ": " ++ kind.function ++ "(" ++ reference [parent, key] ++ ")"
  | temporalList key kind =>
    quote key ++ ": [value IN " ++ reference [parent, key] ++ " | " ++ kind.function ++ "(value)]"

theorem Predicate.render_fragment (node : String) (predicate : Predicate) :
    (predicate.fragment node).render = predicate.spelled node := by
  cases predicate <;>
    simp [fragment, spelled, path, internalIdKey, Temporal.formattedKey, Piece.render,
      TemporalKind.constructor_eq_function, String.append_assoc]

theorem Assignment.render_fragment (parent : String) (assignment : Assignment) :
    (assignment.fragment parent).render = assignment.spelled parent := by
  cases assignment <;>
    simp [fragment, spelled, Piece.render, TemporalKind.constructor_eq_function,
      String.append_assoc]

namespace Wanted

/-- Where the value of the key is. -/
def path (wanted : Wanted) : List String :=
  wanted.parent.toList ++ [wanted.key]

/-- The node with the key inside its pattern. -/
def inlineText (wanted : Wanted) : String :=
  "MATCH (" ++ sanitize wanted.node ++ ":" ++ quote wanted.label ++ " \x7b" ++ quote wanted.key ++
    ": " ++ reference wanted.path ++ "\x7d)"

/-- The node under conditions. -/
def comparedText (wanted : Wanted) (conditions : List String) : String :=
  "MATCH (" ++ sanitize wanted.node ++ ":" ++ quote wanted.label ++ ") WHERE " ++
    " AND ".intercalate conditions

/-- The clause that the node is matched by. -/
def clause (wanted : Wanted) : String :=
  if wanted.comparisons.isEmpty then wanted.inlineText
  else wanted.comparedText (wanted.comparisons.map (·.spelled wanted.node))

end Wanted

namespace Operation

variable (operation : Operation) (properties : List String) (projection : String)

/-- The text of a statement that creates a node with the given properties. -/
def creationText : String :=
  let node := sanitize operation.variableName
  "CREATE (" ++ node ++ ":" ++ quote operation.typeName ++ " \x7b" ++
    ", ".intercalate properties ++ "\x7d)\nRETURN " ++ node ++ " \x7b" ++ projection ++
    "\x7d AS " ++ node

/-- The text of a statement that finds a node and sets the given properties; without any it has no
clause for them. -/
def updateText (found : String) : String :=
  let node := sanitize operation.variableName
  found ++ "\n" ++
    (if properties = [] then ""
     else "SET " ++ node ++ " += \x7b" ++ ", ".intercalate properties ++ "\x7d\n") ++
    "RETURN " ++ node ++ " \x7b" ++ projection ++ "\x7d AS " ++ node

/-- The text of a statement that finds a node and deletes it. -/
def deletionText (found : String) : String :=
  let node := sanitize operation.variableName
  let doomed := sanitize (operation.variableName ++ "_toDelete")
  found ++ "\nWITH " ++ node ++ " AS " ++ doomed ++ ", " ++ node ++ " \x7b" ++ projection ++
    "\x7d AS " ++ node ++ "\nDETACH DELETE " ++ doomed ++ "\nRETURN " ++ node

/-- The text of a statement that finds two nodes and creates a relationship with the given properties
between them. -/
def linkText (link : Link) (source target : Wanted) (found : String) : String :=
  let relationship :=
    sanitize (String.ofList (link.relationship.toList.flatMap Text.lowercase) ++ "_relation")
  found ++ "\nCREATE (" ++ sanitize source.node ++ ")-[" ++
    relationship ++ ":" ++ quote link.relationship ++
    (if properties = [] then "" else " \x7b" ++ ", ".intercalate properties ++ "\x7d") ++
    "]->(" ++ sanitize target.node ++ ")\nRETURN " ++ relationship ++ " \x7b " ++
    projection ++ " \x7d AS " ++ sanitize operation.schemaType.name

/-- The text of a statement that finds two nodes and deletes the relationship between them. -/
def unlinkText (link : Link) (source target : Wanted) (found : String) : String :=
  let relationship := sanitize (source.node ++ target.node)
  found ++ "\nOPTIONAL MATCH (" ++ sanitize source.node ++ ")-[" ++
    relationship ++ ":" ++ quote link.relationship ++ "]->(" ++ sanitize target.node ++
    ")\nDELETE " ++ relationship ++ "\nWITH COUNT(*) AS scope, " ++ sanitize source.node ++ " AS " ++
    sanitize ("_" ++ source.node) ++ ", " ++ sanitize target.node ++ " AS " ++
    sanitize ("_" ++ target.node) ++ "\nRETURN \x7b" ++ projection ++ "\x7d AS " ++
    sanitize operation.schemaType.name

/-- The properties that an update sets: those of the arguments other than the key. -/
def updatedProperties (key : String) : List String :=
  (Assignment.declared operation.typed
    ((Bag.names (Parameters.suppliedEntries operation.arguments)).filter (· ≠ key))).map
      (·.spelled "params")

/-- The properties of a new relationship: those of its data. -/
def dataProperties : List String :=
  operation.data?.elim [] fun (fields, members) =>
    (Assignment.declared fields (members.map Prod.fst)).map (·.spelled "data")

end Operation

namespace Predicate

/-- A variable is spelled the same once it is a word. -/
@[simp] theorem spelled_sanitize (node : String) (predicate : Predicate) :
    predicate.spelled (sanitize node) = predicate.spelled node := by
  cases predicate <;> simp [spelled, Cypher.sanitize_sanitize]

theorem render_conjunction (node : String) (predicates : List Predicate) :
    (Fragment.joined " AND " (predicates.map (fragment node))).render =
      " AND ".intercalate (predicates.map (·.spelled node)) := by
  simp only [Fragment.render_joined, List.map_map, Function.comp_def, render_fragment]

end Predicate

namespace Assignment

theorem render_listed (parent : String) (assignments : List Assignment) :
    (listed parent assignments).render = ", ".intercalate (assignments.map (·.spelled parent)) := by
  simp only [listed, Fragment.listed, Fragment.render_joined, List.map_map, Function.comp_def,
    render_fragment]

/-- A clause that is there only if something is assigned. -/
theorem render_clause (parent : String) (assignments : List Assignment)
    (opening closing : Fragment) :
    Fragment.render (if assignments.isEmpty then []
      else opening ++ listed parent assignments ++ closing) =
      if assignments.map (·.spelled parent) = [] then ""
      else opening.render ++ ", ".intercalate (assignments.map (·.spelled parent)) ++
        closing.render := by
  cases assignments with
  | nil => rfl
  | cons assignment rest =>
    rw [if_neg (by simp), if_neg (by simp), Fragment.render_append, Fragment.render_append,
      render_listed]

end Assignment

/-- Conditions as they are collected come to the clause of the key. -/
theorem Wanted.render_matchClause (wanted : Wanted) {conditions : Conditions}
    (hnode : conditions.node = sanitize wanted.node)
    (hconditions : conditions.predicates = wanted.comparisons) :
    (Target.matchClause ⟨wanted.node, wanted.label, wanted.key, wanted.parent⟩
      conditions.clauses).render = wanted.clause := by
  unfold Target.matchClause clause inlineText comparedText
  rw [Conditions.conjunction?_clauses, hconditions]
  cases hempty : wanted.comparisons.isEmpty with
  | true =>
    simp only [if_true, Fragment.render_cons, Fragment.render_nil, Piece.render, Predicate.path,
      path, String.append_assoc, String.append_empty]
  | false =>
    simp only [Bool.false_eq_true, if_false, Fragment.render_append, Fragment.render_cons,
      Fragment.render_nil, Piece.render, Predicate.render_conjunction, hnode,
      Predicate.spelled_sanitize, String.append_assoc, String.append_empty]

namespace Plan

variable {operation : Operation}

/-- The node of an operation is matched by the clause of its key, as it is bound. -/
theorem render_keyMatch (operation : Operation) {values : Bag} {key : String} {value : Json}
    (hvalue : values.get? key = some value) (parent : Option String) :
    (keyMatch operation key (Parameters.split values key).1 parent).render =
      Wanted.clause ⟨operation.variableName, operation.typeName, key, parent,
        (operation.arguments.filter (·.name = key)).map Argument.type, value⟩ := by
  unfold keyMatch
  refine Wanted.render_matchClause ⟨operation.variableName, operation.typeName, key, parent,
    (operation.arguments.filter (·.name = key)).map Argument.type, value⟩ ?_ ?_
  · rfl
  · rw [Conditions.predicates_withTemporal, temporal_split operation hvalue]
    rfl

/-- So is one end of a relationship. -/
theorem Endpoint.render_matchClause {argumentName typeName : String} {e : Endpoint}
    (h : endpoint operation argumentName typeName = .ok e) :
    ∃ wanted, operation.wantedEnd? argumentName typeName = some wanted ∧ e.node = wanted.node ∧
      e.matchClause.render = wanted.clause := by
  obtain ⟨types, value, hwanted, -, hcompared⟩ := wantedEnd?_of_endpoint h
  refine ⟨e.wanted types value, hwanted, rfl,
    Wanted.render_matchClause (e.wanted types value) rfl ?_⟩
  rw [Conditions.predicates_withTemporal, hcompared]

theorem render_nodeCreateWith (operation : Operation) (values : Bag) (projection : Fragment) :
    ((nodeCreateWith operation values).statement projection).render =
      operation.creationText
        ((Assignment.declared operation.typed values.keys).map (·.spelled "params"))
        projection.render := by
  unfold nodeCreateWith Operation.creationText
  simp only [Fragment.render_append, Fragment.render_cons, Fragment.render_nil,
    Assignment.render_listed, Assignment.all_eq_declared, Piece.render, Parameters.paramsKey,
    String.append_assoc, String.append_empty]
  rfl

theorem render_nodeUpdateBy {key : Argument} (hkey : keyArgument operation = .ok key)
    (projection : Fragment) :
    ∃ wanted, operation.wanted? (some "params") = some wanted ∧ wanted.key = key.name ∧
      ((nodeUpdateBy operation key.name).statement projection).render =
        operation.updateText (operation.updatedProperties wanted.key) projection.render
          (wanted.reading (Parameters.suppliedEntries operation.arguments)).clause := by
  obtain ⟨value, -, hwanted⟩ := wanted?_of_keyArgument hkey (some "params")
  refine ⟨_, hwanted, rfl, ?_⟩
  have found := render_keyMatch operation (get?_supplied_reading hkey value) (some "params")
  have properties : Assignment.all operation.declarations
      (Parameters.split (Parameters.supplied operation.arguments) key.name).2.keys =
        Assignment.declared operation.typed
          ((Bag.names (Parameters.suppliedEntries operation.arguments)).filter (· ≠ key.name)) := by
    rw [Parameters.keys_split_others, Assignment.all_eq_declared]
    rfl
  unfold nodeUpdateBy Operation.updateText Operation.updatedProperties
  simp only [Fragment.render_append, Fragment.render_cons, Fragment.render_nil, found, properties,
    Assignment.render_clause, Piece.render, Parameters.paramsKey, String.append_assoc,
    String.append_empty]
  rfl

theorem render_nodeDeleteBy {key : Argument} (hkey : keyArgument operation = .ok key)
    (projection : Fragment) :
    ∃ wanted, operation.wanted? none = some wanted ∧ wanted.key = key.name ∧
      ((nodeDeleteBy operation key.name).statement projection).render =
        operation.deletionText projection.render
          (wanted.reading (Parameters.suppliedEntries operation.arguments ++
            operation.pageEntries)).clause := by
  obtain ⟨value, -, hwanted⟩ := wanted?_of_keyArgument hkey none
  refine ⟨_, hwanted, rfl, ?_⟩
  have found := render_keyMatch operation (get?_ofMutation_reading hkey value) none
  unfold nodeDeleteBy Operation.deletionText
  simp only [Fragment.render_append, Fragment.render_cons, Fragment.render_nil, found, Piece.render,
    String.append_assoc, String.append_empty]
  rfl

/-- The properties of a new relationship are those of its data. -/
theorem map_spelled_relationshipData (operation : Operation) :
    (relationshipData operation (Parameters.ofMutation operation)).1.map (·.spelled "data") =
      operation.dataProperties := by
  rw [relationshipData_eq, Operation.dataProperties]
  cases operation.data? with
  | none => rfl
  | some data => rfl

/-- The ends of a relationship are the ones that are wanted. -/
theorem render_endpoints {settings : Settings} {link : Link} {source target : Endpoint}
    (h : endpoints settings operation = .ok (link, source, target)) :
    operation.link? settings = some link ∧ ∃ wanted wanted',
      operation.wantedEnd? "from" link.sourceType = some wanted ∧
      operation.wantedEnd? "to" link.targetType = some wanted' ∧
      source.node = wanted.node ∧ target.node = wanted'.node ∧
      source.matchClause.render = wanted.clause ∧ target.matchClause.render = wanted'.clause := by
  obtain ⟨hlink, hsource, htarget⟩ := endpoints_eq_ok h
  obtain ⟨wanted, hwanted, hnode, hclause⟩ := Endpoint.render_matchClause hsource
  obtain ⟨wanted', hwanted', hnode', hclause'⟩ := Endpoint.render_matchClause htarget
  exact ⟨Link.link?_of_resolve hlink, wanted, wanted', hwanted, hwanted', hnode, hnode', hclause,
    hclause'⟩

theorem render_relationshipCreateBetween {settings : Settings} {link : Link}
    {source target : Endpoint} (h : endpoints settings operation = .ok (link, source, target))
    (projection : Fragment) :
    operation.link? settings = some link ∧ ∃ wanted wanted',
      operation.wantedEnd? "from" link.sourceType = some wanted ∧
      operation.wantedEnd? "to" link.targetType = some wanted' ∧
      ((relationshipCreateBetween operation link source target).statement projection).render =
        operation.linkText operation.dataProperties projection.render link wanted wanted'
          (wanted.clause ++ "\n" ++ wanted'.clause) := by
  obtain ⟨hlink, wanted, wanted', hwanted, hwanted', hnode, hnode', hclause, hclause'⟩ :=
    render_endpoints h
  refine ⟨hlink, wanted, wanted', hwanted, hwanted', ?_⟩
  have properties (assignments : List Assignment) :
      Fragment.render (if assignments.isEmpty then []
        else [.fixed " "] ++ (Assignment.listed "data" assignments).braced) =
      if assignments.map (·.spelled "data") = [] then ""
      else " \x7b" ++ ", ".intercalate (assignments.map (·.spelled "data")) ++ "\x7d" :=
    Assignment.render_clause "data" assignments [.fixed " ", .fixed "\x7b"] [.fixed "\x7d"]
  unfold relationshipCreateBetween Operation.linkText
  simp only [Parameters.dataKey, Fragment.render_append, Fragment.render_cons, Fragment.render_nil,
    hclause, hclause', hnode, hnode', properties, map_spelled_relationshipData, Piece.render,
    Cypher.sanitize_sanitize, String.append_assoc, String.append_empty]

theorem render_relationshipDeleteBetween {settings : Settings} {link : Link}
    {source target : Endpoint} (h : endpoints settings operation = .ok (link, source, target))
    (projection : Fragment) :
    operation.link? settings = some link ∧ ∃ wanted wanted',
      operation.wantedEnd? "from" link.sourceType = some wanted ∧
      operation.wantedEnd? "to" link.targetType = some wanted' ∧
      ((relationshipDeleteBetween operation link source target).statement projection).render =
        operation.unlinkText projection.render link wanted wanted'
          (wanted.clause ++ "\n" ++ wanted'.clause) := by
  obtain ⟨hlink, wanted, wanted', hwanted, hwanted', hnode, hnode', hclause, hclause'⟩ :=
    render_endpoints h
  refine ⟨hlink, wanted, wanted', hwanted, hwanted', ?_⟩
  unfold relationshipDeleteBetween Operation.unlinkText
  simp only [Fragment.render_append, Fragment.render_cons, Fragment.render_nil, hclause, hclause',
    hnode, hnode', Piece.render, Cypher.sanitize_sanitize, String.append_assoc,
    String.append_empty]

end Plan

end CypherSynthesis
