import CypherSynthesis.Proofs.Injection
import CypherSynthesis.Proofs.ProjectionEntries

/-!
What a response key changes. Main statement: giving a field another key, or none, changes the entry of
the field in the projection and nothing else, and the property is read from the same variable. There
is one exception: a new relationship is returned as a projection of itself, but the fields named under
it are those of one of its ends, so there a field without a key of its own is read from the
relationship and one with a key from the end.
-/

namespace CypherSynthesis

open Cypher (Fragment Piece Token Closes DifferInEntry)

/-- A place among selections: at the top, or among the fields of a selection at the top. -/
inductive Place where
  | top (before after : List Selection)
  | within (before : List Selection) (parent : Selection) (innerBefore innerAfter : List Selection)
    (after : List Selection)

namespace Place

/-- The selections with a field at that place. -/
def fill (field : Selection) : Place → List Selection
  | top before after => before ++ field :: after
  | within before parent innerBefore innerAfter after =>
    before ++ { parent with selections := innerBefore ++ field :: innerAfter } :: after

def isTop : Place → Bool
  | top .. => true
  | within .. => false

/-- What is selected there leaves a trace in a projection. -/
def IsProjected : Place → Prop
  | top .. => True
  | within _ parent .. => parent.name ≠ Projection.typenameField

end Place

/-- The last character of a name stays the last of its variable. -/
theorem Cypher.getLast?_plainWord {cs : List Char} (h : cs ≠ []) :
    (plainWord cs).getLast? = cs.getLast?.map wordChar := by
  have word : (cs.map wordChar).getLast? = cs.getLast?.map wordChar := List.getLast?_map ..
  unfold plainWord
  dsimp only
  split
  · cases hcs : cs.map wordChar with
    | nil => exact absurd (List.map_eq_nil_iff.mp hcs) h
    | cons c rest => rw [← word, hcs, List.getLast?_cons_cons]
  · exact word

theorem Cypher.sanitize_ne_sanitize {before before' after after' : String} {c c' : Char}
    (hc : after.toList.getLast? = some c) (hc' : after'.toList.getLast? = some c')
    (h : wordChar c ≠ wordChar c') : sanitize (before ++ after) ≠ sanitize (before' ++ after') := by
  have last {s t : String} {c : Char} (hc : t.toList.getLast? = some c) :
      (sanitize (s ++ t)).toList.getLast? = some (wordChar c) := by
    have nonempty : t.toList ≠ [] := by
      intro he
      simp [he] at hc
    rw [sanitize, String.toList_ofList, getLast?_plainWord (by simp [nonempty]),
      String.toList_append, List.getLast?_append, hc]
    rfl
  intro he
  have same := last (s := before) hc
  rw [he, last hc'] at same
  exact h (Option.some.inj same).symm

/-- The statement puts its projection into the braces behind `base`. -/
def Framed (base : String) (statement : Fragment → Fragment) : Prop :=
  ∃ (opening closing : Fragment) (front : List Token),
    (∀ projection, statement projection = opening ++ projection ++ closing) ∧
    opening.tokens = front ++ [.word base, .mark '\x7b'] ∧ Closes closing.tokens

namespace Framed

/-- The last two tokens in front of the projection are `base` and a brace. -/
theorem intro {base text : String} {lead pieces rest : Fragment}
    (hpieces : pieces.tokens.reverse.take 2 = [.mark '\x7b', .word base])
    (htext : (Piece.textTokens text).head? = some (.mark '\x7d')) :
    Framed base fun projection => lead ++ pieces ++ projection ++ .fixed text :: rest := by
  have split : pieces.tokens =
      (pieces.tokens.reverse.drop 2).reverse ++ [.word base, .mark '\x7b'] := by
    have whole := congrArg List.reverse (List.take_append_drop 2 pieces.tokens.reverse)
    rw [hpieces, List.reverse_append, List.reverse_reverse] at whole
    exact whole.symm
  refine ⟨lead ++ pieces, .fixed text :: rest,
    lead.tokens ++ (pieces.tokens.reverse.drop 2).reverse, fun _ => rfl, ?_, .inl ?_⟩
  · rw [List.append_assoc, ← split, Fragment.tokens_append]
  · rw [Fragment.tokens_cons, List.head?_append, Piece.tokens, htext]
    rfl

/-- The brace may belong to the projection. -/
theorem intro_braced {base text : String} {lead pieces brace rest : Fragment}
    (hpieces : (pieces ++ brace).tokens.reverse.take 2 = [.mark '\x7b', .word base])
    (htext : (Piece.textTokens text).head? = some (.mark '\x7d')) :
    Framed base fun projection => lead ++ pieces ++ (brace ++ projection ++ .fixed text :: rest) := by
  have whole := @intro base text lead (pieces ++ brace) rest hpieces htext
  simpa only [List.append_assoc] using whole

theorem append {base : String} {statement : Fragment → Fragment} (h : Framed base statement)
    {tail : Fragment} : Framed base fun projection => statement projection ++ tail := by
  obtain ⟨opening, closing, front, hstatement, hopening, hclosing⟩ := h
  refine ⟨opening, closing ++ tail, front, fun projection => ?_, hopening, ?_⟩
  · simp only [hstatement, List.append_assoc]
  · unfold Closes at hclosing ⊢
    rw [Fragment.tokens_append, List.head?_append]
    rcases hclosing with h | h
    · exact .inl (by rw [h]; rfl)
    · exact .inr (by rw [h]; rfl)

end Framed

namespace Plan

theorem nodeQuery_framed (operation : Operation) :
    Framed (Cypher.sanitize operation.variableName) (nodeQuery operation).statement := by
  simp only [nodeQuery]
  exact .append (.append (.append (.intro rfl rfl)))

theorem customProjection_eq {operation : Operation}
    (h : operation.schemaType.isProjectable = true) (projection tail : Fragment) :
    customProjection operation projection tail =
      [.fixed "\x7b"] ++ projection ++ .fixed "\x7d" :: ([.fixed " AS ",
        .var operation.variableName] ++ Paging.orderBy operation.variableName operation.orderBy ++
        tail) := by
  simp [customProjection, h, Fragment.braced]

theorem customQueryOf_framed {operation : Operation}
    (h : operation.schemaType.isProjectable = true) (statement : String) :
    Framed (Cypher.sanitize operation.variableName) (customQueryOf operation statement).statement := by
  simp only [customQueryOf, customProjection_eq h]
  exact .append (.append (.intro_braced rfl rfl))

theorem customMutationOf_framed {operation : Operation}
    (h : operation.schemaType.isProjectable = true) (statement : String) :
    Framed (Cypher.sanitize operation.variableName)
      (customMutationOf operation statement).statement := by
  simp only [customMutationOf, customProjection_eq h]
  exact .intro_braced rfl rfl

theorem nodeCreateWith_framed (operation : Operation) (values : Bag) :
    Framed (Cypher.sanitize operation.variableName)
      (nodeCreateWith operation values).statement := by
  simp only [nodeCreateWith]
  exact .intro rfl rfl

theorem nodeUpdateBy_framed (operation : Operation) (key : String) :
    Framed (Cypher.sanitize operation.variableName) (nodeUpdateBy operation key).statement := by
  simp only [nodeUpdateBy]
  exact .intro rfl rfl

theorem nodeDeleteBy_framed (operation : Operation) (key : String) :
    Framed (Cypher.sanitize operation.variableName) (nodeDeleteBy operation key).statement := by
  simp only [nodeDeleteBy]
  exact .intro rfl rfl

theorem relationshipCreateBetween_framed (operation : Operation) (link : Link)
    (source target : Endpoint) :
    Framed (Cypher.sanitize (Template.relationName link))
      (relationshipCreateBetween operation link source target).statement := by
  rw [← Cypher.sanitize_sanitize (Template.relationName link)]
  simp only [relationshipCreateBetween, Template.relationName]
  exact .intro rfl rfl

/-- In a bare map nothing stands in front of the brace but the keyword. -/
theorem relationshipDeleteBetween_framed (operation : Operation) (link : Link)
    (source target : Endpoint) :
    Framed "RETURN" (relationshipDeleteBetween operation link source target).statement := by
  simp only [relationshipDeleteBetween]
  exact .intro rfl rfl

end Plan

namespace Synthesizer

open Projection (source isBare internalIdField typenameField)

theorem plan_of_selections (synthesizer : Synthesizer) (kind : Kind) (operation : Operation)
    (selections : List Selection) :
    synthesizer.planned kind { operation with selections } = synthesizer.planned kind operation := by
  cases kind <;> rfl

/-- Whether two keys of a field stand for different variables: in a new relationship, at the top, if
one is given and the other is not. -/
def Parts (kind : Kind) (place : Place) (key key' : Option String) : Prop :=
  kind = .relationshipCreate ∧ place.isTop = true ∧ key.isSome ≠ key'.isSome

theorem source_eq {base node : String} {bare : Bool}
    (h : base = Cypher.sanitize node ∨ bare = true) (key : Option String) :
    source base node bare key = Cypher.sanitize node := by
  rcases h with rfl | rfl <;> simp [source]

/-- The variable of a new relationship is none of its ends. -/
theorem relationName_ne {settings : Settings} {operation : Operation} {link : Link}
    {first second : Plan.Endpoint}
    (hends : Plan.endpoints settings operation = .ok (link, first, second)) :
    Cypher.sanitize (Template.relationName link) ≠
      Cypher.sanitize (Plan.projectedEnd operation link first.node second.node) := by
  obtain ⟨-, hfirst, hsecond⟩ := Plan.endpoints_eq_ok hends
  obtain ⟨hfirst, _, _, _, given⟩ := Plan.endpoint_eq_ok hfirst
  obtain ⟨hsecond, _, _, _, given'⟩ := Plan.endpoint_eq_ok hsecond
  have relation : "_relation".toList.getLast? = some 'n' := by decide
  unfold Plan.projectedEnd Template.relationName
  split
  · rw [given'.node, hsecond]
    exact Cypher.sanitize_ne_sanitize relation (by decide : "to".toList.getLast? = some 'o') (by decide)
  · rw [given.node, hfirst]
    exact Cypher.sanitize_ne_sanitize relation (by decide : "from".toList.getLast? = some 'm')
      (by decide)

/-- Where a statement puts its projection, and whether the key of a field at the top decides on the
variable that it is read from. -/
theorem plan_framed {settings : Settings} {fresh : Json} {kind : Kind} {operation : Operation}
    {plan : Plan}
    (hplan : (Synthesizer.mk settings Projection.flat fresh).planned kind operation = .ok plan)
    (projected : kind = .customQuery ∨ kind = .customMutation →
      operation.schemaType.isProjectable = true) :
    ∃ base, Framed base plan.statement ∧ ∀ before after key key',
      source base plan.root (isBare plan.linkage) key =
        source base plan.root (isBare plan.linkage) key' ↔
      ¬ Parts kind (.top before after) key key' := by
  -- It makes no difference where the variable in front of the braces is the one that keyed fields name,
  -- or where every field names its variable.
  have same {kind : Kind} (hkind : kind ≠ .relationshipCreate) {base node : String} {bare : Bool}
      (h : base = Cypher.sanitize node ∨ bare = true) (place : Place) (key key' : Option String) :
      source base node bare key = source base node bare key' ↔ ¬ Parts kind place key key' := by
    rw [source_eq h, source_eq h]
    simp [Parts, hkind]
  cases kind with
  | nodeQuery =>
    obtain rfl := Except.ok.inj hplan
    exact ⟨_, Plan.nodeQuery_framed operation, fun _ _ => same (by decide) (.inl rfl) _⟩
  | customQuery =>
    obtain ⟨statement, -, rfl⟩ := Plan.customQuery_eq_ok hplan
    exact ⟨_, Plan.customQueryOf_framed (projected (.inl rfl)) statement,
      fun _ _ => same (by decide) (.inl rfl) _⟩
  | customMutation =>
    obtain ⟨statement, -, rfl⟩ := Plan.customMutation_eq_ok hplan
    exact ⟨_, Plan.customMutationOf_framed (projected (.inr rfl)) statement,
      fun _ _ => same (by decide) (.inl rfl) _⟩
  | nodeCreate =>
    rw [planned_nodeCreate] at hplan
    obtain rfl := Except.ok.inj hplan
    exact ⟨_, Plan.nodeCreateWith_framed operation _, fun _ _ => same (by decide) (.inl rfl) _⟩
  | nodeUpdate =>
    obtain ⟨key, -, rfl⟩ := Plan.nodeUpdate_eq_ok hplan
    exact ⟨_, Plan.nodeUpdateBy_framed operation key.name, fun _ _ => same (by decide) (.inl rfl) _⟩
  | nodeDelete =>
    obtain ⟨key, -, rfl⟩ := Plan.nodeDelete_eq_ok hplan
    exact ⟨_, Plan.nodeDeleteBy_framed operation key.name, fun _ _ => same (by decide) (.inl rfl) _⟩
  | relationshipCreate =>
    obtain ⟨link, first, second, hends, rfl⟩ := Plan.relationshipCreate_eq_ok hplan
    -- The projection is rooted at one end, but it stands behind the relationship.
    have apart := relationName_ne hends
    refine ⟨_, Plan.relationshipCreateBetween_framed operation link first second, ?_⟩
    intro before after key key'
    simp only [Plan.relationshipCreateBetween, isBare, Option.any_some, Option.isNone_some]
    cases key <;> cases key' <;> simp [source, Parts, Place.isTop, apart, apart.symm]
  | relationshipDelete =>
    obtain ⟨link, first, second, -, rfl⟩ := Plan.relationshipDelete_eq_ok hplan
    exact ⟨_, Plan.relationshipDeleteBetween_framed operation link first second,
      fun _ _ => same (by decide) (.inr rfl) _⟩

/-- The queries of two keys of a field. Their parameters are the same, and so are their texts but for
the entry of the field. The entries look up the same property under the two keys, and in the same
variable unless the keys part. -/
def Rekeyed (kind : Kind) (place : Place) (name : String) (key key' : Option String)
    (query query' : Query) : Prop :=
  query.parameters = query'.parameters ∧
    ∃ tokens tokens' variableName variableName', Cypher.lex query.text = some tokens ∧
      Cypher.lex query'.text = some tokens' ∧
      DifferInEntry ⟨key.getD name, variableName, name⟩ ⟨key'.getD name, variableName', name⟩
        tokens tokens' ∧
      (variableName = variableName' ↔ ¬ Parts kind place key key')

theorem lex_query {settings : Settings} {fresh : Json} {kind : Kind} {operation : Operation}
    {plan : Plan} {projection : Projection}
    (hplan : (Synthesizer.mk settings Projection.flat fresh).planned kind operation = .ok plan)
    (hflat : Projection.flat (plan.request operation) = .ok projection) :
    Cypher.lex (plan.query operation projection).text =
      some (plan.statement projection.fragment).tokens := by
  obtain ⟨template, -, spelled⟩ := exists_template hplan hflat
  exact Fragment.lex_render spelled.spaced

theorem result_rekeyed (settings : Settings) (fresh : Json) {kind : Kind} (operation : Operation)
    {place : Place} {name : String} (key key' : Option String)
    (htypename : name ≠ typenameField) (hid : name ≠ internalIdField) (hplace : place.IsProjected)
    (projected : kind = .customQuery ∨ kind = .customMutation →
      operation.schemaType.isProjectable = true) :
    let synthesizer : Synthesizer := ⟨settings, Projection.flat, fresh⟩
    Concur (Rekeyed kind place name key key')
      (synthesizer.synthesizeAs kind
        { operation with selections := place.fill ⟨name, key, []⟩ }).result
      (synthesizer.synthesizeAs kind
        { operation with selections := place.fill ⟨name, key', []⟩ }).result := by
  intro synthesizer
  have plans (selections : List Selection) := plan_of_selections synthesizer kind operation selections
  rw [result_synthesizeAs, result_synthesizeAs, plans, plans]
  refine .bind_eq rfl fun plan hplan => ?_
  obtain ⟨base, ⟨opening, closing, front, hstatement, hopening, hclosing⟩, hsource⟩ :=
    plan_framed hplan projected
  cases place with
  | top before after =>
    refine (Projection.flat_top_concur key key' htypename (plan.request operation) before
      after).bind fun p q hp hq ⟨hparameters, around⟩ => .ok ?_
    refine ⟨by simp only [Plan.query, hparameters]; rfl, _, _, _, _,
      lex_query ((plans _).trans hplan) hp, lex_query ((plans _).trans hplan) hq, ?_,
      hsource before after key key'⟩
    rw [hstatement, hstatement]
    exact Projection.differ_top hid hopening hclosing around
  | within before parent innerBefore innerAfter after =>
    refine (Projection.flat_within_concur key key' htypename (plan.request operation) before hplace
      innerBefore innerAfter after).bind fun p q hp hq ⟨hparameters, around⟩ => .ok ?_
    obtain ⟨variableName, differ⟩ := Projection.differ_within hid opening closing around
    refine ⟨by simp only [Plan.query, hparameters]; rfl, _, _, variableName, variableName,
      lex_query ((plans _).trans hplan) hp, lex_query ((plans _).trans hplan) hq, ?_, ?_⟩
    · rw [hstatement, hstatement]
      exact differ
    · simp [Parts, Place.isTop]

/-- Another response key renames the entry of a field. The variable that the property is read from
stays the same except at the top of a new relationship, where a key makes it another one. -/
theorem response_key_renames (settings : Settings) (fresh : Json) {kind : Kind}
    (operation : Operation) {place : Place} {name : String} (key key' : Option String)
    (htypename : name ≠ typenameField) (hid : name ≠ internalIdField) (hplace : place.IsProjected)
    (projected : kind = .customQuery ∨ kind = .customMutation →
      operation.schemaType.isProjectable = true) :
    let synthesizer : Synthesizer := ⟨settings, Projection.flat, fresh⟩
    let keyed (key : Option String) : Operation :=
      { operation with selections := place.fill ⟨name, key, []⟩ }
    Concur (Rekeyed kind place name key key') (synthesizer.synthesizeAs kind (keyed key)).result
      (synthesizer.synthesizeAs kind (keyed key')).result ∧
    ((∀ k, Kind.classify operation settings.customDirective = .ok k → k = kind) →
      Concur (Rekeyed kind place name key key') (synthesizer.synthesize (keyed key)).result
        (synthesizer.synthesize (keyed key')).result) := by
  intro synthesizer keyed
  have concur : Concur (Rekeyed kind place name key key')
      (synthesizer.synthesizeAs kind (keyed key)).result
      (synthesizer.synthesizeAs kind (keyed key')).result :=
    result_rekeyed settings fresh operation key key' htypename hid hplace projected
  exact ⟨concur, fun classified => synthesize_concur rfl classified concur⟩

/-- An actor joins the cast of a film. -/
def castMember (selections : List Selection) : Operation :=
  { Operation.new .mutation "AddMovieActors" "Movie" with
    schemaType := .object "_AddMovieActorsPayload"
    selections
    arguments :=
      [⟨"from", .input "_PersonInput" [("id", .required "ID")],
          some (.object [("id", .string "p1")])⟩,
       ⟨"to", .input "_MovieInput" [("id", .required "ID")],
          some (.object [("id", .string "m1")])⟩]
    directives := [⟨"MutationMeta", { entries := [("relationship", .string "ACTED_IN"),
      ("from", .string "Person"), ("to", .string "Movie")] }⟩] }

/-- The name of the actor is read from the actor, whatever its key. -/
theorem response_key_renames_castMember :
    let synthesizer : Synthesizer := ⟨.default, Projection.flat, .null⟩
    let place : Place := .within [] ⟨"from", none, []⟩ [] [] []
    place.IsProjected ∧ (castMember []).schemaType.isProjectable = true ∧
    ∃ query query',
      (synthesizer.synthesize (castMember [⟨"from", none, [⟨"name", none, []⟩]⟩])).result =
        .ok query ∧
      (synthesizer.synthesize (castMember [⟨"from", none, [⟨"name", some "n", []⟩]⟩])).result =
        .ok query' ∧
      Rekeyed .relationshipCreate place "name" none (some "n") query query' := by
  have hplace : Place.IsProjected (.within [] ⟨"from", none, []⟩ [] [] []) :=
    (by decide : "from" ≠ typenameField)
  have classified : Kind.classify (castMember []) Settings.default.customDirective =
      .ok .relationshipCreate := rfl
  obtain ⟨-, concur⟩ := response_key_renames .default .null (castMember []) none (some "n")
    (by decide : "name" ≠ typenameField) (by decide) hplace fun _ => rfl
  refine ⟨hplace, rfl, _, _, rfl, rfl, ?_⟩
  cases concur fun k hk => Except.ok.inj (hk.symm.trans classified) with
  | ok rekeyed => exact rekeyed

/-- The role of an actor is read from the relationship without a key, and from the actor with one. -/
theorem role_read_from_actor :
    let synthesizer : Synthesizer := ⟨.default, Projection.flat, .null⟩
    let link := "MATCH (person_from:Person \x7bid: $from.id\x7d)\n" ++
      "MATCH (movie_to:Movie \x7bid: $to.id\x7d)\n" ++
      "CREATE (person_from)-[acted_in_relation:ACTED_IN]->(movie_to)\n"
    (∃ query, (synthesizer.synthesize (castMember [⟨"role", none, []⟩])).result = .ok query ∧
      query.text = link ++ "RETURN acted_in_relation \x7b .role \x7d AS _AddMovieActorsPayload") ∧
    ∃ query, (synthesizer.synthesize (castMember [⟨"role", some "r", []⟩])).result = .ok query ∧
      query.text = link ++
        "RETURN acted_in_relation \x7b r: person_from.role \x7d AS _AddMovieActorsPayload" := by
  refine ⟨⟨_, rfl, ?_⟩, _, rfl, ?_⟩
  · decide +kernel
  · decide +kernel

end Synthesizer

end CypherSynthesis
