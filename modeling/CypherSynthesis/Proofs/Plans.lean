import CypherSynthesis.Synthesizer

/-!
What a successful synthesis is made of. A query comes from a plan of the operation's kind and one
answer of the projector; the plans that can fail are complete only if the operation has what they are
about: a key with a value, a custom statement, or both ends of a relationship.
-/

namespace CypherSynthesis

/-- A computation that succeeds does so through its first step. -/
theorem exists_of_bind_eq_ok {ε α β : Type} {x : Except ε α} {f : α → Except ε β} {b : β}
    (h : x >>= f = .ok b) : ∃ a, x = .ok a ∧ f a = .ok b := by
  cases x with
  | error e => cases h
  | ok a => exact ⟨a, rfl, h⟩

theorem exists_of_return_eq_ok {ε α β : Type} {x : Except ε α} {f : α → β} {b : β}
    (h : (do return f (← x)) = Except.ok b) : ∃ a, x = .ok a ∧ b = f a := by
  obtain ⟨a, ha, hb⟩ := exists_of_bind_eq_ok h
  exact ⟨a, ha, (Except.ok.inj hb).symm⟩

/-- The computations have the same first step, and the same second one if that succeeds. -/
theorem bind_congr_ok {ε α β : Type} {x x' : Except ε α} {f f' : α → Except ε β} (hx : x = x')
    (hf : ∀ a, x' = .ok a → f a = f' a) : x >>= f = x' >>= f' := by
  subst hx
  cases x with
  | error e => rfl
  | ok a => exact hf a rfl

/-- Both computations fail with the same error, or both succeed with related results. -/
inductive Concur {α : Type} (related : α → α → Prop) :
    Except SynthesisError α → Except SynthesisError α → Prop where
  | error (e : SynthesisError) : Concur related (.error e) (.error e)
  | ok {a b : α} (h : related a b) : Concur related (.ok a) (.ok b)

namespace Concur

variable {α β : Type} {related : α → α → Prop}

theorem mono {related' : α → α → Prop} {x y : Except SynthesisError α} (h : Concur related x y)
    (hr : ∀ a b, related a b → related' a b) : Concur related' x y := by
  cases h with
  | error e => exact .error e
  | ok h => exact .ok (hr _ _ h)

theorem bind {related' : β → β → Prop} {x y : Except SynthesisError α}
    {f g : α → Except SynthesisError β} (h : Concur related x y)
    (hf : ∀ a b, x = .ok a → y = .ok b → related a b → Concur related' (f a) (g b)) :
    Concur related' (x >>= f) (y >>= g) := by
  cases h with
  | error e => exact .error e
  | ok h => exact hf _ _ rfl rfl h

/-- Computations with the same first step concur if their second steps do. -/
theorem bind_eq {x x' : Except SynthesisError β} {f f' : β → Except SynthesisError α}
    (same : x = x') (h : ∀ a, x = .ok a → Concur related (f a) (f' a)) :
    Concur related (x >>= f) (x' >>= f') := by
  subst same
  cases x with
  | error e => exact .error e
  | ok a => exact h a rfl

theorem map_eq {x y : Except SynthesisError α} (h : Concur related x y) {f : α → β}
    (hf : ∀ a b, related a b → f a = f b) : x.map f = y.map f := by
  cases h with
  | error e => rfl
  | ok h => exact congrArg Except.ok (hf _ _ h)

end Concur

namespace Plan

theorem text_query (plan : Plan) (operation : Operation) (projection : Projection) :
    (plan.query operation projection).text = (plan.statement projection.fragment).render := rfl

theorem customQuery_eq_ok {settings : Settings} {operation : Operation} {plan : Plan}
    (h : customQuery settings operation = .ok plan) :
    ∃ statement, customStatement settings operation = .ok statement ∧
      plan = customQueryOf operation statement :=
  exists_of_return_eq_ok h

theorem customMutation_eq_ok {settings : Settings} {operation : Operation} {plan : Plan}
    (h : customMutation settings operation = .ok plan) :
    ∃ statement, customStatement settings operation = .ok statement ∧
      plan = customMutationOf operation statement :=
  exists_of_return_eq_ok h

/-- A node is found by the first declared argument, and that has a value. -/
theorem keyArgument_eq_ok {operation : Operation} {key : Argument}
    (h : keyArgument operation = .ok key) :
    ∃ rest value, operation.arguments = key :: rest ∧ key.value = some value ∧
      value.isNull = false := by
  unfold keyArgument at h
  split at h
  · cases h
  · rename_i argument rest harguments
    split at h
    · cases h
    · cases h
    · rename_i value hnull hvalue
      obtain rfl := Except.ok.inj h
      refine ⟨rest, value, harguments, hvalue, ?_⟩
      cases value <;> first | rfl | exact absurd rfl hnull

theorem nodeUpdate_eq_ok {operation : Operation} {plan : Plan}
    (h : nodeUpdate operation = .ok plan) :
    ∃ key, keyArgument operation = .ok key ∧ plan = nodeUpdateBy operation key.name :=
  exists_of_return_eq_ok h

theorem nodeDelete_eq_ok {operation : Operation} {plan : Plan}
    (h : nodeDelete operation = .ok plan) :
    ∃ key, keyArgument operation = .ok key ∧ plan = nodeDeleteBy operation key.name :=
  exists_of_return_eq_ok h

/-- What an operation says about one end of a relationship: its argument is an object, and the first
field of the argument's type has a value in it. -/
structure Endpoint.Given (operation : Operation) (typeName : String) (e : Endpoint)
    (argument : Argument) (type : TypeRef) (value : Json) : Prop where
  found : operation.argument? e.argument = some argument
  object : argument.value = some (.object e.values)
  key : argument.type.fields.head? = some (e.key, type)
  supplied : Bag.find? e.key e.values = some value
  nonNull : value.isNull = false
  node : e.node = Text.lowerFirst typeName ++ "_" ++ e.argument
  label : e.label = typeName
  temporal : e.temporal = Temporal.declared argument.type.fields

theorem endpoint_eq_ok {operation : Operation} {argumentName typeName : String} {e : Endpoint}
    (h : endpoint operation argumentName typeName = .ok e) :
    e.argument = argumentName ∧
      ∃ argument type value, e.Given operation typeName argument type value := by
  unfold endpoint at h
  split at h
  · cases h
  · rename_i argument hargument
    split at h
    · rename_i members hvalue
      split at h
      · cases h
      · rename_i key type rest hfields
        split at h
        · cases h
        · rename_i hgiven
          obtain rfl := Except.ok.inj h
          cases hget : Bag.find? key members with
          | none => simp [hget] at hgiven
          | some value =>
            have hnull : value.isNull = false := by simpa [hget] using hgiven
            exact ⟨rfl, argument, type, value, hargument, hvalue, by simp [hfields], hget, hnull,
              rfl, rfl, rfl⟩
    · cases h

theorem endpoints_eq_ok {settings : Settings} {operation : Operation} {link : Link}
    {source target : Endpoint} (h : endpoints settings operation = .ok (link, source, target)) :
    Link.resolve operation settings.linkDirective = .ok link ∧
      endpoint operation Projection.sourceField link.sourceType = .ok source ∧
      endpoint operation Projection.targetField link.targetType = .ok target := by
  obtain ⟨link', hlink, h⟩ := exists_of_bind_eq_ok h
  obtain ⟨source', hsource, h⟩ := exists_of_bind_eq_ok h
  obtain ⟨target', htarget, h⟩ := exists_of_bind_eq_ok h
  obtain ⟨rfl, rfl, rfl⟩ : link' = link ∧ source' = source ∧ target' = target := by
    simpa using Except.ok.inj h
  exact ⟨hlink, hsource, htarget⟩

/-- A new relationship has properties if its data is an object. -/
theorem relationshipData_cases (operation : Operation) (bag : Bag) :
    relationshipData operation bag = ([], bag) ∨
      ∃ argument members, operation.argument? Parameters.dataKey = some argument ∧
        bag.get? Parameters.dataKey = some (.object members) ∧
        relationshipData operation bag =
          (Assignment.all argument.type.fields (members.map Prod.fst),
            bag.insert Parameters.dataKey
              (.object (Bag.mapEntries (Assignment.stored argument.type.fields) members))) := by
  unfold relationshipData
  split
  · rename_i argument members hargument hvalue
    exact .inr ⟨argument, members, hargument, hvalue, rfl⟩
  · exact .inl rfl

theorem relationshipCreate_eq_ok {settings : Settings} {operation : Operation} {plan : Plan}
    (h : relationshipCreate settings operation = .ok plan) :
    ∃ link source target, endpoints settings operation = .ok (link, source, target) ∧
      plan = relationshipCreateBetween operation link source target := by
  obtain ⟨⟨link, source, target⟩, hends, hplan⟩ := exists_of_bind_eq_ok h
  exact ⟨link, source, target, hends, (Except.ok.inj hplan).symm⟩

theorem relationshipDelete_eq_ok {settings : Settings} {operation : Operation} {plan : Plan}
    (h : relationshipDelete settings operation = .ok plan) :
    ∃ link source target, endpoints settings operation = .ok (link, source, target) ∧
      plan = relationshipDeleteBetween operation link source target := by
  obtain ⟨⟨link, source, target⟩, hends, hplan⟩ := exists_of_bind_eq_ok h
  exact ⟨link, source, target, hends, (Except.ok.inj hplan).symm⟩

end Plan

/-- The values of a new node: the supplied arguments, and the key if one is needed. -/
def Parameters.created (settings : Settings) (fresh : Json) (operation : Operation) : Bag :=
  match keyToGenerate? operation.arguments settings.idType (supplied operation.arguments) with
  | some name => (supplied operation.arguments).insert name fresh
  | none => supplied operation.arguments

namespace Synthesizer

/-- The plan of an operation, whatever was done to find it. -/
def planned (synthesizer : Synthesizer) (kind : Kind) (operation : Operation) :
    Except SynthesisError Plan :=
  ((synthesizer.plan kind operation).run.run {}).1

/-- The argument that a key is generated for. -/
def generatedFor? (synthesizer : Synthesizer) (kind : Kind) (operation : Operation) :
    Option String :=
  match kind with
  | .nodeCreate =>
    Parameters.keyToGenerate? operation.arguments synthesizer.settings.idType
      (Parameters.supplied operation.arguments)
  | _ => none

theorem planned_nodeCreate (synthesizer : Synthesizer) (operation : Operation) :
    synthesizer.planned .nodeCreate operation =
      .ok (Plan.nodeCreateWith operation
        (Parameters.created synthesizer.settings synthesizer.fresh operation)) := by
  simp only [planned, plan, Plan.nodeCreate, Parameters.generateKey, Parameters.created]
  cases Parameters.keyToGenerate? operation.arguments synthesizer.settings.idType
    (Parameters.supplied operation.arguments) <;> rfl

/-- A plan leaves a trace only if it generates a key. -/
theorem run_plan (synthesizer : Synthesizer) (kind : Kind) (operation : Operation) (trace : Trace) :
    (synthesizer.plan kind operation).run.run trace =
      (synthesizer.planned kind operation,
        { trace with
          keysGenerated :=
            trace.keysGenerated + (synthesizer.generatedFor? kind operation).toList.length
          log := trace.log ++
            (synthesizer.generatedFor? kind operation).toList.map generatedRecord }) := by
  have none : trace = { trace with
      keysGenerated := trace.keysGenerated + ([] : List String).length
      log := trace.log ++ [] } := by
    rw [List.append_nil]
    rfl
  cases kind with
  | nodeCreate =>
    rw [planned_nodeCreate]
    simp only [plan, Plan.nodeCreate, Parameters.generateKey, Parameters.created, generatedFor?]
    cases Parameters.keyToGenerate? operation.arguments synthesizer.settings.idType
        (Parameters.supplied operation.arguments) with
    | none => exact congrArg (Prod.mk _) none
    | some name => rfl
  | customQuery | nodeQuery | customMutation | nodeUpdate | nodeDelete | relationshipCreate
  | relationshipDelete => exact congrArg (Prod.mk _) none

theorem generatedFor?_of_error {synthesizer : Synthesizer} {kind : Kind} {operation : Operation}
    {e : SynthesisError} (h : synthesizer.planned kind operation = .error e) :
    synthesizer.generatedFor? kind operation = none := by
  cases kind with
  | nodeCreate =>
    rw [planned_nodeCreate] at h
    cases h
  | customQuery | nodeQuery | customMutation | nodeUpdate | nodeDelete | relationshipCreate
  | relationshipDelete => rfl

theorem run_bind {α β : Type} (synthesis : Synthesis α) (rest : α → Synthesis β) (trace : Trace) :
    (synthesis >>= rest).run.run trace =
      match synthesis.run.run trace with
      | (.ok a, trace) => (rest a).run.run trace
      | (.error e, trace) => (.error e, trace) := by
  rw [ExceptT.run_bind, StateT.run_bind]
  cases synthesis.run.run trace with
  | mk result trace => cases result <;> rfl

theorem run_lift {α : Type} (result : Except SynthesisError α) (trace : Trace) :
    (liftM result : Synthesis α).run.run trace = (result, trace) := rfl

theorem run_record (records : List LogRecord) (trace : Trace) :
    (Synthesis.record records).run.run trace =
      (.ok (), { trace with log := trace.log ++ records }) := rfl

theorem run_project (synthesizer : Synthesizer) (request : SelectionRequest) (trace : Trace) :
    (synthesizer.project request).run.run trace =
      (synthesizer.projector request,
        { trace with requests := trace.requests ++ [request] }) := rfl

/-- A plan, then one request to the projector, then the query. -/
theorem run_query (synthesizer : Synthesizer) (kind : Kind) (operation : Operation)
    (trace : Trace) :
    (synthesizer.query kind operation).run.run trace =
      match synthesizer.planned kind operation with
      | .error e => (.error e, trace)
      | .ok plan =>
        let generated := (synthesizer.generatedFor? kind operation).toList
        let request := plan.request operation
        let asked : Trace := ⟨trace.requests ++ [request], trace.keysGenerated + generated.length,
          trace.log ++ generated.map generatedRecord⟩
        match synthesizer.projector request with
        | .error e => (.error e, asked)
        | .ok projection =>
          let query := plan.query operation projection
          (.ok query, { asked with log := asked.log ++ queryRecords operation kind query }) := by
  rw [query, run_bind, run_plan]
  cases hplan : synthesizer.planned kind operation with
  | error e =>
    rw [generatedFor?_of_error hplan]
    simp
  | ok plan =>
    dsimp only
    rw [run_bind, run_project]
    cases synthesizer.projector (plan.request operation) <;> rfl

theorem synthesizeAs_eq (synthesizer : Synthesizer) (kind : Kind) (operation : Operation) :
    synthesizer.synthesizeAs kind operation =
      match synthesizer.planned kind operation with
      | .error e => ⟨{}, .error e⟩
      | .ok plan =>
        let generated := (synthesizer.generatedFor? kind operation).toList
        let request := plan.request operation
        match synthesizer.projector request with
        | .error e => ⟨⟨[request], generated.length, generated.map generatedRecord⟩, .error e⟩
        | .ok projection =>
          let query := plan.query operation projection
          ⟨⟨[request], generated.length,
            generated.map generatedRecord ++ queryRecords operation kind query⟩, .ok query⟩ := by
  rw [synthesizeAs, Synthesis.outcome, run_query]
  cases synthesizer.planned kind operation with
  | error e => rfl
  | ok plan =>
    dsimp only
    cases synthesizer.projector (plan.request operation) <;> simp

theorem synthesize_eq (synthesizer : Synthesizer) (operation : Operation) :
    synthesizer.synthesize operation =
      match Kind.classify operation synthesizer.settings.customDirective with
      | .error e => ⟨{}, .error e⟩
      | .ok kind =>
        let outcome := synthesizer.synthesizeAs kind operation
        { outcome with
          log := classifiedRecord operation kind :: outcome.log } := by
  rw [synthesize, Synthesis.outcome, run_bind, run_lift]
  cases Kind.classify operation synthesizer.settings.customDirective with
  | error e => rfl
  | ok kind =>
    dsimp only
    rw [run_bind, run_record]
    dsimp only
    rw [run_query, synthesizeAs_eq]
    cases synthesizer.planned kind operation with
    | error e => rfl
    | ok plan =>
      dsimp only
      cases synthesizer.projector (plan.request operation) <;> simp

/-- A plan, then one answer of the projector. -/
theorem result_synthesizeAs (synthesizer : Synthesizer) (kind : Kind) (operation : Operation) :
    (synthesizer.synthesizeAs kind operation).result =
      synthesizer.planned kind operation >>= fun plan =>
        synthesizer.projector (plan.request operation) >>= fun projection =>
          .ok (plan.query operation projection) := by
  rw [synthesizeAs_eq]
  cases synthesizer.planned kind operation with
  | error e => rfl
  | ok plan =>
    change _ = synthesizer.projector (plan.request operation) >>= fun projection =>
      .ok (plan.query operation projection)
    dsimp only
    cases synthesizer.projector (plan.request operation) <;> rfl

theorem synthesizeAs_eq_ok {synthesizer : Synthesizer} {kind : Kind} {operation : Operation}
    {query : Query} (h : (synthesizer.synthesizeAs kind operation).result = .ok query) :
    ∃ plan projection, synthesizer.planned kind operation = .ok plan ∧
      synthesizer.projector (plan.request operation) = .ok projection ∧
      query = plan.query operation projection := by
  rw [result_synthesizeAs] at h
  obtain ⟨plan, hplan, h⟩ := exists_of_bind_eq_ok h
  obtain ⟨projection, hprojection, h⟩ := exists_of_bind_eq_ok h
  exact ⟨plan, projection, hplan, hprojection, (Except.ok.inj h).symm⟩

theorem requests_synthesizeAs {synthesizer : Synthesizer} {kind : Kind} {operation : Operation}
    {plan : Plan} (hplan : synthesizer.planned kind operation = .ok plan) :
    (synthesizer.synthesizeAs kind operation).requests = [plan.request operation] := by
  simp only [synthesizeAs_eq, hplan]
  split <;> rfl

/-- The query was made with the given answer of the projector. -/
def Answered (synthesizer : Synthesizer) (kind : Kind) (operation : Operation)
    (projection : Projection) : Prop :=
  ∃ request, (synthesizer.synthesizeAs kind operation).requests = [request] ∧
    synthesizer.projector request = .ok projection

theorem answered {synthesizer : Synthesizer} {kind : Kind} {operation : Operation} {plan : Plan}
    {projection : Projection} (hplan : synthesizer.planned kind operation = .ok plan)
    (hprojection : synthesizer.projector (plan.request operation) = .ok projection) :
    synthesizer.Answered kind operation projection :=
  ⟨_, requests_synthesizeAs hplan, hprojection⟩

theorem synthesize_eq_ok {synthesizer : Synthesizer} {operation : Operation} {query : Query}
    (h : (synthesizer.synthesize operation).result = .ok query) :
    ∃ kind, Kind.classify operation synthesizer.settings.customDirective = .ok kind ∧
      (synthesizer.synthesizeAs kind operation).result = .ok query := by
  rw [synthesize_eq] at h
  split at h
  · cases h
  · rename_i kind hkind
    exact ⟨kind, hkind, h⟩

/-- Operations of one kind concur if they do so when they are taken to be of that kind. -/
theorem synthesize_concur {synthesizer : Synthesizer} {kind : Kind} {a b : Operation}
    {related : Query → Query → Prop}
    (sameKind : Kind.classify b synthesizer.settings.customDirective =
      Kind.classify a synthesizer.settings.customDirective)
    (classified : ∀ k, Kind.classify a synthesizer.settings.customDirective = .ok k → k = kind)
    (h : Concur related (synthesizer.synthesizeAs kind a).result
      (synthesizer.synthesizeAs kind b).result) :
    Concur related (synthesizer.synthesize a).result (synthesizer.synthesize b).result := by
  rw [synthesize_eq, synthesize_eq, sameKind]
  cases hkind : Kind.classify a synthesizer.settings.customDirective with
  | error e => exact .error e
  | ok k =>
    obtain rfl := classified k hkind
    exact h

end Synthesizer
end CypherSynthesis
