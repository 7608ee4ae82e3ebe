import CypherSynthesis.Proofs.Parameters
import CypherSynthesis.Proofs.Redaction
import Mathlib.Data.List.Forall2

/-!
Values never reach the text. Two operations that differ only in the contents of their values are
given the same text, or the same error, whatever the projector and the generated keys: the text of an
operation is the text of its redaction, and operations that differ in contents alone have the same
redaction.
-/

namespace CypherSynthesis

open Cypher (Fragment)

namespace Json

/-- A value that is neither null nor made of other values. -/
def isScalar : Json → Bool
  | .bool _ | .number _ | .string _ => true
  | .null | .array _ | .object _ => false

mutual

/-- Both values are null, or scalars, or lists, or objects with the same keys and values of the same
shape. -/
inductive SameShape : Json → Json → Prop where
  | null : SameShape .null .null
  | scalar {v w : Json} : v.isScalar = true → w.isScalar = true → SameShape v w
  | array (items items' : List Json) : SameShape (.array items) (.array items')
  | object {members members' : List (String × Json)} :
    SameMembers members members' → SameShape (.object members) (.object members')

inductive SameMembers : List (String × Json) → List (String × Json) → Prop where
  | nil : SameMembers [] []
  | cons {v w : Json} {members members' : List (String × Json)} (key : String) :
    SameShape v w → SameMembers members members' →
      SameMembers ((key, v) :: members) ((key, w) :: members')

end

theorem redact_of_isScalar {v : Json} (h : v.isScalar = true) : v.redact = .ofInt 0 := by
  cases v <;> simp_all [isScalar, redact]

mutual

theorem SameShape.redact_eq {v w : Json} : SameShape v w → v.redact = w.redact
  | .null => rfl
  | .scalar hv hw => by rw [redact_of_isScalar hv, redact_of_isScalar hw]
  | .array _ _ => by simp only [redact]
  | .object same => by simp only [redact, same.redact_eq]

theorem SameMembers.redact_eq {members members' : List (String × Json)} :
    SameMembers members members' → redactMembers members = redactMembers members'
  | .nil => rfl
  | .cons key same rest => by simp only [redactMembers, same.redact_eq, rest.redact_eq]

end

end Json

/-- The arguments differ in the contents of their values at most. -/
structure Argument.SameButValue (a b : Argument) : Prop where
  name : a.name = b.name
  type : a.type = b.type
  value : Option.Rel Json.SameShape a.value b.value

theorem Argument.SameButValue.redact_eq {a b : Argument} (same : a.SameButValue b) :
    a.redact = b.redact := by
  obtain ⟨name, type, value⟩ := a
  obtain ⟨name', type', value'⟩ := b
  obtain ⟨rfl, rfl, hvalue⟩ := same
  cases hvalue with
  | none => rfl
  | some shape => simp [redact, shape.redact_eq]

theorem Argument.map_redact_eq {as bs : List Argument}
    (same : List.Forall₂ Argument.SameButValue as bs) : as.map redact = bs.map redact := by
  induction same with
  | nil => rfl
  | cons head _ ih => simp [head.redact_eq, ih]

namespace Operation

/-- The operations differ in the contents of argument values, in the numbers asked for, and in the
request-wide parameters at most. -/
structure SameButValues (a b : Operation) : Prop where
  arguments : List.Forall₂ Argument.SameButValue a.arguments b.arguments
  first : a.first.isSome = b.first.isSome
  offset : a.offset.isSome = b.offset.isSome
  internalId : a.internalId.isSome = b.internalId.isSome
  globals : a.globals?.isSome = b.globals?.isSome
  rest : { a with
    arguments := b.arguments
    first := b.first
    offset := b.offset
    internalId := b.internalId
    cypherParams := b.cypherParams } = b

theorem map_const_of_isSome {α β : Type} {x y : Option α} (h : x.isSome = y.isSome) (c : β) :
    (x.map fun _ => c) = y.map fun _ => c := by
  cases x <;> cases y <;> simp_all

theorem SameButValues.redact_eq {a b : Operation} (same : a.SameButValues b) :
    a.redact = b.redact := by
  unfold redact
  rw [Argument.map_redact_eq same.arguments, map_const_of_isSome same.first,
    map_const_of_isSome same.offset, map_const_of_isSome same.internalId,
    map_const_of_isSome same.globals]
  rw [← same.rest]

end Operation

theorem Paging.skipLimit_redact (operation : Operation) :
    skipLimit operation.redact = skipLimit operation := by
  unfold skipLimit Operation.redact
  simp only [Option.isSome_map]

namespace Plan

open Paging (skipLimit_redact)

/-- What the text of a plan depends on. -/
def form (plan : Plan) : String × Option Linkage × (Fragment → Fragment) :=
  (plan.root, plan.linkage, plan.statement)

theorem form_nodeQuery_redact (operation : Operation) :
    (nodeQuery operation.redact).form = (nodeQuery operation).form := by
  have filter : Filter.ofArguments operation.redact.arguments =
      (Filter.ofArguments operation.arguments).redact :=
    (Filter.redact_ofArguments operation.arguments).symm
  have internalId : operation.redact.internalId.isSome = operation.internalId.isSome :=
    Option.isSome_map
  simp only [nodeQuery, form, filter, internalId, Filter.inlineKeys_redact,
    Filter.conditions_redact, Operation.declarations_redact, skipLimit_redact,
    Operation.variableName_redact, Operation.typeName_redact, Operation.orderBy_redact]

theorem customArguments_redact (operation : Operation) (bag : Bag) (empty : String) :
    customArguments operation.redact bag.redact empty = customArguments operation bag empty := by
  simp only [customArguments, Bag.keys_redact, Operation.isSome_globals?_redact]

theorem customProjection_redact (operation : Operation) (projection tail : Fragment) :
    customProjection operation.redact projection tail =
      customProjection operation projection tail := rfl

theorem form_customQueryOf_redact (operation : Operation) (statement : String) :
    (customQueryOf operation.redact statement).form = (customQueryOf operation statement).form := by
  have bag : Parameters.insertPagination (Filter.ofArguments operation.redact.arguments).values
        operation.redact =
      (Parameters.insertPagination (Filter.ofArguments operation.arguments).values
        operation).redact := by
    rw [Parameters.redact_insertPagination]
    exact congrArg (Parameters.insertPagination ·.values operation.redact)
      (Filter.redact_ofArguments operation.arguments).symm
  simp only [customQueryOf, form, bag, customArguments_redact, customProjection_redact,
    skipLimit_redact, Operation.variableName_redact]

theorem form_customMutationOf_redact (operation : Operation) (statement : String) :
    (customMutationOf operation.redact statement).form =
      (customMutationOf operation statement).form := by
  simp only [customMutationOf, form, ← Parameters.redact_ofMutation, customArguments_redact,
    customProjection_redact, skipLimit_redact, Operation.variableName_redact]

theorem keys_created_redact (settings : Settings) (fresh fresh' : Json) (operation : Operation) :
    (Parameters.created settings fresh' operation.redact).keys =
      (Parameters.created settings fresh operation).keys := by
  have supplied : Parameters.supplied operation.redact.arguments =
      (Parameters.supplied operation.arguments).redact :=
    (Parameters.redact_supplied operation.arguments).symm
  refine Parameters.keys_created ?_ ?_ fresh' fresh
  · rw [supplied]
    exact Parameters.keyToGenerate?_redact operation.arguments _ _
  · rw [supplied, Bag.keys_redact]

theorem form_nodeCreateWith_redact (operation : Operation) {values values' : Bag}
    (keys : values'.keys = values.keys) :
    (nodeCreateWith operation.redact values').form = (nodeCreateWith operation values).form := by
  simp only [nodeCreateWith, form, keys, Operation.declarations_redact,
    Operation.variableName_redact, Operation.typeName_redact]

theorem keyArgument_redact (operation : Operation) :
    keyArgument operation.redact = (keyArgument operation).map Argument.redact := by
  unfold keyArgument Operation.redact
  cases operation.arguments with
  | nil => rfl
  | cons argument rest =>
    obtain ⟨name, type, value⟩ := argument
    cases value with
    | none => rfl
    | some value => cases value <;> simp [Argument.redact, Json.redact, Json.ofInt, Except.map]

theorem keyMatch_redact (operation : Operation) (key : String) (entry : Bag)
    (parent : Option String) :
    keyMatch operation.redact key entry.redact parent = keyMatch operation key entry parent := by
  simp only [keyMatch, Conditions.withTemporal, Bag.entries_redact, Predicate.temporal_redact,
    Operation.declarations_redact, Operation.variableName_redact, Operation.typeName_redact]

theorem form_nodeUpdateBy_redact (operation : Operation) (key : String) :
    (nodeUpdateBy operation.redact key).form = (nodeUpdateBy operation key).form := by
  have supplied : Parameters.supplied operation.redact.arguments =
      (Parameters.supplied operation.arguments).redact :=
    (Parameters.redact_supplied operation.arguments).symm
  have clause : keyMatch operation.redact key
        (Parameters.split (Parameters.supplied operation.redact.arguments) key).1
        (some Parameters.paramsKey) =
      keyMatch operation key (Parameters.split (Parameters.supplied operation.arguments) key).1
        (some Parameters.paramsKey) := by
    rw [supplied, Parameters.redact_split, keyMatch_redact]
  have assignments : Assignment.all operation.redact.declarations
        (Parameters.split (Parameters.supplied operation.redact.arguments) key).2.keys =
      Assignment.all operation.declarations
        (Parameters.split (Parameters.supplied operation.arguments) key).2.keys := by
    simp only [supplied, Parameters.redact_split, Bag.keys_redact, Operation.declarations_redact]
  simp only [nodeUpdateBy, form, Operation.variableName_redact]
  rw [clause, assignments]

theorem form_nodeDeleteBy_redact (operation : Operation) (key : String) :
    (nodeDeleteBy operation.redact key).form = (nodeDeleteBy operation key).form := by
  simp only [nodeDeleteBy, form, ← Parameters.redact_ofMutation, Parameters.redact_split,
    keyMatch_redact, Operation.variableName_redact]

def Endpoint.redact (e : Endpoint) : Endpoint :=
  { e with values := Json.redactMembers e.values }

@[simp] theorem Endpoint.node_redact (e : Endpoint) : e.redact.node = e.node := rfl

theorem Endpoint.matchClause_redact (e : Endpoint) : e.redact.matchClause = e.matchClause := by
  let target : Target := ⟨e.node, e.label, e.key, some e.argument⟩
  change target.matchClause ((Conditions.new e.node).withTemporal
    ((Json.redactMembers e.values).filter (·.1 = e.key)) _ _).clauses = _
  rw [← Json.redactMembers_filter e.values _ fun _ _ => rfl, Conditions.withTemporal,
    Predicate.temporal_redact]
  rfl

theorem endpoint_redact (operation : Operation) (argumentName typeName : String) :
    endpoint operation.redact argumentName typeName =
      (endpoint operation argumentName typeName).map Endpoint.redact := by
  unfold endpoint
  rw [Operation.argument?_redact]
  cases operation.argument? argumentName with
  | none => rfl
  | some argument =>
    obtain ⟨name, type, value⟩ := argument
    cases value with
    | none => rfl
    | some value =>
      cases value with
      | object members =>
        cases hfields : type.fields with
        | nil => simp [Argument.redact, Json.redact, hfields]; rfl
        | cons field rest =>
          obtain ⟨key, keyType⟩ := field
          simp only [Option.map_some, Argument.redact, Json.redact, hfields,
            Json.find?_redactMembers]
          cases Bag.find? key members with
          | none => rfl
          | some value =>
            simp only [Option.map_some, Option.all_some, Json.isNull_redact]
            split <;> rfl
      | null | bool | number | string | array => simp [Argument.redact, Json.redact, Json.ofInt]; rfl

theorem endpoints_redact (settings : Settings) (operation : Operation) :
    endpoints settings operation.redact =
      (endpoints settings operation).map fun (link, source, target) =>
        (link, source.redact, target.redact) := by
  have resolved : Link.resolve operation.redact settings.linkDirective =
      Link.resolve operation settings.linkDirective := rfl
  unfold endpoints
  rw [resolved]
  cases Link.resolve operation settings.linkDirective with
  | error e => rfl
  | ok link =>
    simp only [endpoint_redact, bind, Except.bind]
    cases endpoint operation Projection.sourceField link.sourceType with
    | error e => rfl
    | ok source =>
      cases endpoint operation Projection.targetField link.targetType with
      | error e => rfl
      | ok target => rfl

theorem relationshipData_redact (operation : Operation) (bag : Bag) :
    (relationshipData operation.redact bag.redact).1 = (relationshipData operation bag).1 := by
  unfold relationshipData
  rw [Operation.argument?_redact, Bag.get?_redact]
  cases operation.argument? Parameters.dataKey with
  | none => rfl
  | some argument =>
    cases bag.get? Parameters.dataKey with
    | none => rfl
    | some value =>
      cases value with
      | object members =>
        simp only [Option.map_some, Json.redact, Argument.type_redact, Json.keys_redactMembers]
      | null | bool | number | string | array => simp [Json.redact, Json.ofInt]

theorem projectedEnd_redact (operation : Operation) (link : Link) (source target : String) :
    projectedEnd operation.redact link source target =
      projectedEnd operation link source target := rfl

theorem form_relationshipCreateBetween_redact (operation : Operation) (link : Link)
    (source target : Endpoint) :
    (relationshipCreateBetween operation.redact link source.redact target.redact).form =
      (relationshipCreateBetween operation link source target).form := by
  have data := relationshipData_redact operation (Parameters.ofMutation operation)
  rw [Parameters.redact_ofMutation] at data
  simp only [relationshipCreateBetween, form, Endpoint.matchClause_redact, Endpoint.node_redact,
    projectedEnd_redact, Operation.schemaType_redact]
  rw [data]

theorem form_relationshipDeleteBetween_redact (operation : Operation) (link : Link)
    (source target : Endpoint) :
    (relationshipDeleteBetween operation.redact link source.redact target.redact).form =
      (relationshipDeleteBetween operation link source target).form := by
  simp only [relationshipDeleteBetween, form, Endpoint.matchClause_redact, Endpoint.node_redact,
    projectedEnd_redact, Operation.schemaType_redact]

end Plan

namespace Synthesizer

/-- Computations with the same last step, up to what is looked at, come to the same. -/
theorem map_bind_congr {ε α β γ : Type} {form : β → γ} {g : α → α} {f f' : α → Except ε β}
    (x : Except ε α) (h : ∀ a, (f' (g a)).map form = (f a).map form) :
    (x.map g >>= f').map form = (x >>= f).map form := by
  cases x with
  | error e => rfl
  | ok a => exact h a

theorem form_planned_redact (settings : Settings) (projector : Projector) (fresh fresh' : Json)
    (kind : Kind) (operation : Operation) :
    ((Synthesizer.mk settings projector fresh').planned kind operation.redact).map Plan.form =
      ((Synthesizer.mk settings projector fresh).planned kind operation).map Plan.form := by
  have statement : Plan.customStatement settings operation.redact =
      (Plan.customStatement settings operation).map id := by
    cases h : Plan.customStatement settings operation <;> exact h
  cases kind with
  | nodeQuery => exact congrArg Except.ok (Plan.form_nodeQuery_redact operation)
  | nodeCreate =>
    rw [planned_nodeCreate, planned_nodeCreate]
    exact congrArg Except.ok (Plan.form_nodeCreateWith_redact operation
      (Plan.keys_created_redact settings fresh fresh' operation))
  | customQuery =>
    change (Plan.customQuery settings operation.redact).map Plan.form = _
    rw [Plan.customQuery, statement]
    exact map_bind_congr _ fun text =>
      congrArg Except.ok (Plan.form_customQueryOf_redact operation text)
  | customMutation =>
    change (Plan.customMutation settings operation.redact).map Plan.form = _
    rw [Plan.customMutation, statement]
    exact map_bind_congr _ fun text =>
      congrArg Except.ok (Plan.form_customMutationOf_redact operation text)
  | nodeUpdate =>
    change (Plan.nodeUpdate operation.redact).map Plan.form = _
    rw [Plan.nodeUpdate, Plan.keyArgument_redact]
    exact map_bind_congr _ fun key =>
      congrArg Except.ok (Plan.form_nodeUpdateBy_redact operation key.name)
  | nodeDelete =>
    change (Plan.nodeDelete operation.redact).map Plan.form = _
    rw [Plan.nodeDelete, Plan.keyArgument_redact]
    exact map_bind_congr _ fun key =>
      congrArg Except.ok (Plan.form_nodeDeleteBy_redact operation key.name)
  | relationshipCreate =>
    change (Plan.relationshipCreate settings operation.redact).map Plan.form = _
    rw [Plan.relationshipCreate, Plan.endpoints_redact]
    exact map_bind_congr _ fun (link, source, target) => congrArg Except.ok
      (Plan.form_relationshipCreateBetween_redact operation link source target)
  | relationshipDelete =>
    change (Plan.relationshipDelete settings operation.redact).map Plan.form = _
    rw [Plan.relationshipDelete, Plan.endpoints_redact]
    exact map_bind_congr _ fun (link, source, target) => congrArg Except.ok
      (Plan.form_relationshipDeleteBetween_redact operation link source target)

/-- The text of a query comes from the form of its plan and the projector's answer. -/
theorem map_text_synthesizeAs (synthesizer : Synthesizer) (kind : Kind) (operation : Operation) :
    (synthesizer.synthesizeAs kind operation).result.map Query.text =
      ((synthesizer.planned kind operation).map Plan.form).bind fun (root, linkage, statement) =>
        (synthesizer.projector ⟨operation.selections, root, operation.schemaType,
          Plan.firstParamIndex, linkage⟩).map fun projection =>
            (statement projection.fragment).render := by
  rw [result_synthesizeAs]
  cases synthesizer.planned kind operation with
  | error e => rfl
  | ok plan =>
    change (synthesizer.projector (plan.request operation) >>= fun projection =>
        .ok (plan.query operation projection)).map Query.text =
      (synthesizer.projector (plan.request operation)).map fun projection =>
        (plan.statement projection.fragment).render
    cases synthesizer.projector (plan.request operation) <;> rfl

theorem map_text_synthesizeAs_redact (settings : Settings) (projector : Projector)
    (fresh fresh' : Json) (kind : Kind) (operation : Operation) :
    ((Synthesizer.mk settings projector fresh').synthesizeAs kind operation.redact).result.map
        Query.text =
      ((Synthesizer.mk settings projector fresh).synthesizeAs kind operation).result.map
        Query.text := by
  rw [map_text_synthesizeAs, map_text_synthesizeAs, form_planned_redact settings projector fresh fresh']
  rfl

/-- Operations that differ in the contents of values alone have the same text or the same error. -/
theorem text_noninterference (settings : Settings) (projector : Projector) (fresh fresh' : Json)
    {a b : Operation} (same : a.SameButValues b) :
    (∀ kind, ((Synthesizer.mk settings projector fresh).synthesizeAs kind a).result.map Query.text =
      ((Synthesizer.mk settings projector fresh').synthesizeAs kind b).result.map Query.text) ∧
    ((Synthesizer.mk settings projector fresh).synthesize a).result.map Query.text =
      ((Synthesizer.mk settings projector fresh').synthesize b).result.map Query.text := by
  have every (kind : Kind) :
      ((Synthesizer.mk settings projector fresh).synthesizeAs kind a).result.map Query.text =
        ((Synthesizer.mk settings projector fresh').synthesizeAs kind b).result.map Query.text := by
    rw [← map_text_synthesizeAs_redact settings projector fresh .null kind a, same.redact_eq,
      map_text_synthesizeAs_redact settings projector fresh' .null kind b]
  refine ⟨every, ?_⟩
  have classified : Kind.classify a settings.customDirective =
      Kind.classify b settings.customDirective := by
    have redacted (operation : Operation) : Kind.classify operation.redact settings.customDirective =
        Kind.classify operation settings.customDirective := rfl
    rw [← redacted a, same.redact_eq, redacted b]
  rw [synthesize_eq, synthesize_eq, classified]
  cases Kind.classify b settings.customDirective with
  | error e => rfl
  | ok kind => exact every kind

/-- An update of the film released in a year, with a new title. -/
def retitled (year : Int) (title : Json) (first : Int64) : Operation :=
  { Operation.new .mutation "UpdateMovie" "Movie" with
    arguments :=
      [⟨"released", .named "_Neo4jDateInput",
        some (.object [("year", .ofInt year), ("month", .null)])⟩,
       ⟨"title", .named "String", some title⟩]
    first := some first }

theorem text_noninterference_retitled :
    (retitled 1999 (.string "The Matrix") 1).SameButValues (retitled 2003 (.bool true) 7) ∧
      (∀ kind,
        ((Synthesizer.mk .default Projection.flat .null).synthesizeAs kind
          (retitled 1999 (.string "The Matrix") 1)).result.map Query.text =
        ((Synthesizer.mk .default Projection.flat (.string "a")).synthesizeAs kind
          (retitled 2003 (.bool true) 7)).result.map Query.text) ∧
      ((Synthesizer.mk .default Projection.flat .null).synthesize
          (retitled 1999 (.string "The Matrix") 1)).result.map Query.text =
        ((Synthesizer.mk .default Projection.flat (.string "a")).synthesize
          (retitled 2003 (.bool true) 7)).result.map Query.text := by
  have released : Json.SameShape (.object [("year", .ofInt 1999), ("month", .null)])
      (.object [("year", .ofInt 2003), ("month", .null)]) :=
    .object (.cons "year" (.scalar rfl rfl) (.cons "month" .null .nil))
  have same : (retitled 1999 (.string "The Matrix") 1).SameButValues (retitled 2003 (.bool true) 7) :=
    ⟨.cons ⟨rfl, rfl, .some released⟩ (.cons ⟨rfl, rfl, .some (.scalar rfl rfl)⟩ .nil),
      rfl, rfl, rfl, rfl, rfl⟩
  exact ⟨same, text_noninterference .default Projection.flat .null (.string "a") same⟩

end Synthesizer

end CypherSynthesis
