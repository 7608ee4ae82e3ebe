import CypherSynthesis.Proofs.Request
import Mathlib.Data.List.Basic

/-!
The exact parameters of a query. Whatever builds them writes names over what is bound already, so a
name has the value that was written last, and the names stand in the order in which they were first
written: arguments, pagination, the internal id, what the projection reads, the request-wide map.
-/

namespace CypherSynthesis

open Bag (last?)
open Parameters (suppliedEntries valueEntries)

namespace Bag

/-- Each name once, at its first place, with its last value. -/
def settled (entries : List (String × Json)) : List (String × Json) :=
  (names entries).filterMap fun name => (last? name entries).map (name, ·)

theorem entries_eq_filterMap (bag : Bag) :
    bag.entries = bag.keys.filterMap fun name => (bag.get? name).map (name, ·) := by
  obtain ⟨entries, nodup⟩ := bag
  simp only [keys, get?]
  induction entries with
  | nil => rfl
  | cons entry rest ih =>
    obtain ⟨hnew, hrest⟩ := List.nodup_cons.mp nodup
    have others : (rest.map Prod.fst).filterMap (fun name => (find? name (entry :: rest)).map (name, ·)) =
        (rest.map Prod.fst).filterMap fun name => (find? name rest).map (name, ·) := by
      refine List.filterMap_congr fun name hname => ?_
      have other : entry.1 ≠ name := fun he => hnew (he ▸ hname)
      rw [find?, if_neg other]
    rw [List.map_cons, List.filterMap_cons, others, ← ih hrest]
    simp [find?]

/-- A bag is told by its names in their order and by its values. -/
theorem eq_of_keys {bag bag' : Bag} (hkeys : bag.keys = bag'.keys)
    (hvalues : ∀ key, bag.get? key = bag'.get? key) : bag = bag' := by
  refine Bag.ext ?_
  rw [entries_eq_filterMap, entries_eq_filterMap, hkeys]
  simp only [hvalues]

theorem entries_ofList (entries : List (String × Json)) :
    (ofList entries).entries = settled entries := by
  rw [entries_eq_filterMap, keys_ofList]
  simp only [get?_ofList_eq_last?]
  rfl

theorem settled_of_nodup {entries : List (String × Json)} (h : (entries.map Prod.fst).Nodup) :
    settled entries = entries := by
  rw [← entries_ofList, ofList_of_nodup h]

/-- Values are changed where they stand. -/
theorem last?_map (form : String → Json → Json) (key : String) (entries : List (String × Json)) :
    last? key (entries.map fun entry => (entry.1, form entry.1 entry.2)) =
      (last? key entries).map (form key) := by
  induction entries with
  | nil => rfl
  | cons entry rest ih =>
    rw [List.map_cons, last?, last?, ih]
    by_cases hkey : entry.1 = key
    · cases last? key rest <;> simp [hkey]
    · cases last? key rest <;> simp [hkey]

end Bag

namespace Operation

/-- The internal id, which only node queries bind. -/
def idEntries (operation : Operation) : Kind → List (String × Json)
  | .nodeQuery => (operation.internalId.map fun n => ("_id", Json.ofInt n.toInt)).toList
  | _ => []

/-- The map of a new node: what is supplied and the generated key, in write form. -/
def createdMembers (operation : Operation) (idType : String) (fresh : Json) :
    List (String × Json) :=
  (Bag.settled (operation.createdEntries idType fresh)).map fun (name, value) =>
    (name, Assignment.written operation.typed name value)

/-- The map of an update: what is supplied in write form, but the key, the first argument, as it is
and last. -/
def updatedMembers (operation : Operation) : List (String × Json) :=
  match operation.arguments with
  | [] => []
  | key :: _ =>
    let entries := suppliedEntries operation.arguments
    ((Bag.settled (entries.filter (·.1 ≠ key.name))).map fun (name, value) =>
      (name, Assignment.written operation.typed name value)) ++
      ((last? key.name entries).map (key.name, ·)).toList

/-- The data of a new relationship. The members of an object are put into write form as the first
argument called `data` declares them. -/
def dataForm (operation : Operation) : Json → Json
  | .object members =>
    match operation.arguments.find? (·.name = "data") with
    | some argument => .object (members.map fun (name, value) =>
        (name, Assignment.written argument.type.fields name value))
    | none => .object members
  | value => value

/-- What the arguments of an operation bind, by its kind. -/
def argumentEntries (operation : Operation) (settings : Settings) (fresh : Json) :
    Kind → List (String × Json)
  | .nodeQuery | .customQuery => valueEntries operation.arguments
  | .nodeCreate => [("params", .object (operation.createdMembers settings.idType fresh))]
  | .nodeUpdate => [("params", .object operation.updatedMembers)]
  | .customMutation | .nodeDelete | .relationshipDelete => suppliedEntries operation.arguments
  | .relationshipCreate => (suppliedEntries operation.arguments).map fun (name, value) =>
      (name, if name = "data" then operation.dataForm value else value)

theorem append_idEntries (operation : Operation) (entries : List (String × Json)) {kind : Kind}
    (h : kind ≠ .nodeQuery) : entries ++ operation.idEntries kind = entries := by
  cases kind <;> first | exact List.append_nil entries | exact absurd rfl h

/-- Data is converted if it is an object and is declared. -/
theorem dataForm_eq (operation : Operation) {value : Json}
    (h : last? "data" (suppliedEntries operation.arguments) = some value) :
    operation.dataForm value =
      match operation.data? with
      | some (fields, members) => .object (Bag.mapEntries (Assignment.written fields) members)
      | none => value := by
  unfold dataForm data?
  rw [h]
  cases operation.arguments.find? (·.name = "data") <;> cases value <;> rfl

theorem last?_of_data? {operation : Operation} {fields : List (String × TypeRef)}
    {members : List (String × Json)} (h : operation.data? = some (fields, members)) :
    last? "data" (suppliedEntries operation.arguments) = some (.object members) := by
  unfold data? at h
  split at h
  · rename_i found
    obtain ⟨-, rfl⟩ := Prod.mk.inj (Option.some.inj h)
    exact found
  · cases h

end Operation

namespace Parameters

/-- The value of a name among the parameters of a query, where `selection` is what the projection
reads: the first of these that there is. Of a name that is listed twice the last value counts. -/
def value? (settings : Settings) (fresh : Json) (operation : Operation) (kind : Kind)
    (selection : List (String × Json)) (key : String) : Option Json :=
  (last? key operation.globalEntries).or <| (last? key selection).or <|
    (last? key (operation.idEntries kind)).or <| (last? key operation.pageEntries).or <|
    last? key (operation.argumentEntries settings fresh kind)

/-- The names of the parameters of a query in the order in which they are written. -/
def order (settings : Settings) (fresh : Json) (operation : Operation) (kind : Kind)
    (selection : List (String × Json)) : List String :=
  (operation.argumentEntries settings fresh kind ++ operation.pageEntries ++
    operation.idEntries kind ++ selection ++ operation.globalEntries).map Prod.fst

/-- The map of a creation. -/
theorem entries_created (settings : Settings) (fresh : Json) (operation : Operation) :
    ((created settings fresh operation).mapValues
        (Assignment.stored operation.declarations)).entries =
      operation.createdMembers settings.idType fresh := by
  rw [Assignment.stored_eq_written, created_eq_ofList]
  simp only [Bag.mapValues, Bag.entries_ofList]
  rfl

/-- The map of an update: the key was taken out before the others were put into write form, and is
written back last. -/
theorem entries_updated {operation : Operation} {key : Argument}
    (hkey : Plan.keyArgument operation = .ok key) :
    (((split (supplied operation.arguments) key.name).2.mapValues
        (Assignment.stored operation.declarations)).insertAll
          (split (supplied operation.arguments) key.name).1.entries).entries =
      operation.updatedMembers := by
  obtain ⟨rest, value, harguments, -, -⟩ := Plan.keyArgument_eq_ok hkey
  have bound := Plan.get?_supplied_reading hkey value
  have last := bound
  rw [supplied_eq_ofList, Bag.get?_ofList_eq_last?] at last
  have others : (split (supplied operation.arguments) key.name).2 =
      .ofList ((suppliedEntries operation.arguments).filter fun entry => entry.1 ≠ key.name) :=
    Bag.filter_insertAll (fun name => name ≠ key.name) .empty _
  have apart : key.name ∉ (split (supplied operation.arguments) key.name).2.keys := by
    simp [keys_split_others]
  have members : operation.updatedMembers =
      ((Bag.settled ((suppliedEntries operation.arguments).filter (·.1 ≠ key.name))).map
        fun (name, value) => (name, Assignment.written operation.typed name value)) ++
        ((last? key.name (suppliedEntries operation.arguments)).map (key.name, ·)).toList := by
    unfold Operation.updatedMembers
    split
    · rename_i hnone
      rw [hnone] at harguments
      cases harguments
    · rename_i first others hfirst
      obtain ⟨rfl, -⟩ := List.cons.inj (hfirst.symm.trans harguments)
      rfl
  rw [entries_split_entry bound, Assignment.stored_eq_written, members, last,
    Bag.entries_insertAll_of_nodup]
  · simp only [Bag.mapValues, others, Bag.entries_ofList]
    rfl
  · rw [List.map_append, List.nodup_append]
    refine ⟨Bag.nodup_keys _, by simp, ?_⟩
    rintro name hname _ hlast rfl
    obtain rfl : name = key.name := by simpa using hlast
    exact apart ((Bag.keys_mapValues _ _) ▸ hname)

/-- The values of a query, with pagination. -/
theorem insertPagination_values (operation : Operation) :
    insertPagination (Filter.ofArguments operation.arguments).values operation =
      .ofList (valueEntries operation.arguments ++ operation.pageEntries) := by
  rw [insertPagination_eq, Filter.ofArguments_eq]
  exact Bag.insertAll_append _ _ _

theorem nested_eq (operation : Operation) (members : Bag) :
    nested operation members =
      .ofList ([("params", .object members.entries)] ++ operation.pageEntries) := by
  rw [nested, insertPagination_eq]
  exact Bag.insertAll_append .empty [("params", .object members.entries)] _

end Parameters

namespace Plan

open Parameters

variable {operation : Operation}

theorem nodeQueryParameters_eq (operation : Operation) :
    nodeQueryParameters operation =
      .ofList (valueEntries operation.arguments ++ operation.pageEntries ++
        operation.idEntries .nodeQuery) := by
  unfold nodeQueryParameters Operation.idEntries
  rw [insertPagination_values]
  cases operation.internalId with
  | none => simp
  | some id => exact Bag.insertAll_append .empty _ [("_id", encodeInt64 id)]

/-- The data of a new relationship is bound in its place. -/
theorem relationshipData_eq_ofList (operation : Operation) (settings : Settings) (fresh : Json) :
    (relationshipData operation (ofMutation operation)).2 =
      .ofList (operation.argumentEntries settings fresh .relationshipCreate ++
        operation.pageEntries) := by
  have unpaged : last? "data" operation.pageEntries = none := by
    rw [Operation.last?_pageEntries]
    rfl
  have converted (key : String) :
      last? key (operation.argumentEntries settings fresh .relationshipCreate) =
        (last? key (suppliedEntries operation.arguments)).map fun value =>
          if key = "data" then operation.dataForm value else value :=
    Bag.last?_map (fun name value => if name = "data" then operation.dataForm value else value)
      key (suppliedEntries operation.arguments)
  have names : (operation.argumentEntries settings fresh .relationshipCreate).map Prod.fst =
      (suppliedEntries operation.arguments).map Prod.fst := by
    simp [Operation.argumentEntries, Function.comp_def]
  have keys : (Bag.ofList (suppliedEntries operation.arguments ++ operation.pageEntries)).keys =
      (Bag.ofList (operation.argumentEntries settings fresh .relationshipCreate ++
        operation.pageEntries)).keys := by
    rw [Bag.keys_ofList, Bag.keys_ofList, Bag.names, Bag.names, List.map_append, List.map_append,
      names]
  rw [relationshipData_eq, ofMutation_eq_ofList]
  cases hdata : operation.data? with
  | none =>
    refine Bag.eq_of_keys keys fun key => ?_
    simp only [Bag.get?_ofList_eq_last?, Bag.last?_append, converted]
    by_cases hkey : key = "data"
    · subst hkey
      cases hvalue : last? "data" (suppliedEntries operation.arguments) with
      | none => rfl
      | some value => simp [operation.dataForm_eq hvalue, hdata]
    · simp [hkey]
  | some data =>
    obtain ⟨fields, members⟩ := data
    have hvalue := Operation.last?_of_data? hdata
    have bound : (Bag.ofList (suppliedEntries operation.arguments ++ operation.pageEntries)).get?
        "data" = some (.object members) := by
      rw [Bag.get?_ofList_eq_last?, Bag.last?_append, unpaged, hvalue]
      rfl
    refine Bag.eq_of_keys ?_ fun key => ?_
    · rw [← keys, Bag.keys_insert, if_pos (Bag.mem_keys_iff.mpr ⟨_, bound⟩)]
    · rw [Bag.get?_insert]
      simp only [Bag.get?_ofList_eq_last?, Bag.last?_append, converted]
      by_cases hkey : key = "data"
      · subst hkey
        simp [unpaged, hvalue, operation.dataForm_eq hvalue, hdata]
      · simp [hkey]

/-- What the plan of an operation binds by itself. -/
theorem parameters_eq_ofList {synthesizer : Synthesizer} {kind : Kind} {plan : Plan}
    (hplan : synthesizer.planned kind operation = .ok plan) :
    plan.parameters = .ofList
      (operation.argumentEntries synthesizer.settings synthesizer.fresh kind ++
        operation.pageEntries ++ operation.idEntries kind) := by
  cases kind with
  | nodeQuery =>
    obtain rfl := Except.ok.inj hplan
    exact nodeQueryParameters_eq operation
  | customQuery =>
    obtain ⟨statement, -, rfl⟩ := customQuery_eq_ok hplan
    rw [Operation.append_idEntries _ _ (by decide)]
    exact insertPagination_values operation
  | customMutation =>
    obtain ⟨statement, -, rfl⟩ := customMutation_eq_ok hplan
    rw [Operation.append_idEntries _ _ (by decide)]
    exact ofMutation_eq_ofList operation
  | nodeCreate =>
    rw [Synthesizer.planned_nodeCreate] at hplan
    obtain rfl := Except.ok.inj hplan
    rw [Operation.append_idEntries _ _ (by decide), Operation.argumentEntries, ← entries_created]
    exact nested_eq operation _
  | nodeUpdate =>
    obtain ⟨key, hkey, rfl⟩ := nodeUpdate_eq_ok hplan
    rw [Operation.append_idEntries _ _ (by decide), Operation.argumentEntries, ← entries_updated hkey]
    exact nested_eq operation _
  | nodeDelete =>
    obtain ⟨key, -, rfl⟩ := nodeDelete_eq_ok hplan
    rw [Operation.append_idEntries _ _ (by decide)]
    exact ofMutation_eq_ofList operation
  | relationshipCreate =>
    obtain ⟨link, source, target, -, rfl⟩ := relationshipCreate_eq_ok hplan
    rw [Operation.append_idEntries _ _ (by decide)]
    exact relationshipData_eq_ofList operation _ _
  | relationshipDelete =>
    obtain ⟨link, source, target, -, rfl⟩ := relationshipDelete_eq_ok hplan
    rw [Operation.append_idEntries _ _ (by decide)]
    exact ofMutation_eq_ofList operation

/-- With what the projection reads and the request-wide map, these are the parameters of the query. -/
theorem query_binds {synthesizer : Synthesizer} {kind : Kind} {plan : Plan}
    (hplan : synthesizer.planned kind operation = .ok plan) (projection : Projection) :
    (plan.query operation projection).parameters.Binds
      (order synthesizer.settings synthesizer.fresh operation kind projection.parameters.entries)
      (value? synthesizer.settings synthesizer.fresh operation kind
        projection.parameters.entries) := by
  have whole : (plan.query operation projection).parameters = .ofList
      (operation.argumentEntries synthesizer.settings synthesizer.fresh kind ++
        operation.pageEntries ++ operation.idEntries kind ++ projection.parameters.entries ++
        operation.globalEntries) := by
    rw [Plan.query, finish_eq, parameters_eq_ofList hplan,
      List.append_assoc _ projection.parameters.entries]
    exact Bag.insertAll_append _ _ _
  rw [whole]
  refine (Bag.Binds.ofList _).congr rfl fun key => ?_
  simp only [value?, Bag.last?_append]

end Plan

namespace Synthesizer

/-- The parameters of a query by name and in order: the request-wide map over what the projection
reads, that over the internal id, that over pagination, and all of them over arguments. -/
theorem parameters_exact (synthesizer : Synthesizer) {kind : Kind} {operation : Operation}
    {query : Query} (h : (synthesizer.synthesizeAs kind operation).result = .ok query) :
    ∃ projection, synthesizer.Answered kind operation projection ∧
      query.parameters.Binds
        (Parameters.order synthesizer.settings synthesizer.fresh operation kind
          projection.parameters.entries)
        (Parameters.value? synthesizer.settings synthesizer.fresh operation kind
          projection.parameters.entries) := by
  obtain ⟨plan, projection, hplan, hprojection, rfl⟩ := synthesizeAs_eq_ok h
  exact ⟨projection, answered hplan hprojection, Plan.query_binds hplan projection⟩

/-- A user reviews a film on a day. Arguments, pagination and the projection share names. -/
def reviewedFilm : Operation :=
  { Operation.new .mutation "AddUserReviewed" "_AddUserReviewedPayload" with
    arguments :=
      [⟨"first", .named "String", some (.string "page")⟩,
       ⟨"from", .input "_UserInput" [("id", .required "ID")], some (.object [("id", .string "u")])⟩,
       ⟨"to", .input "_MovieInput" [("id", .required "ID")], some (.object [("id", .string "m")])⟩,
       ⟨"data", .input "_ReviewedInput" [("on", .named "_Neo4jDateInput")],
        some (.object [("on", .object [("formatted", .string "1999-03-31")]), ("note", .null)])⟩,
       ⟨"offset", .named "Int", none⟩]
    directives := [⟨"MutationMeta", { entries :=
      [("relationship", .string "REVIEWED"), ("from", .string "User"), ("to", .string "Movie")] }⟩]
    first := some 5
    offset := some 10
    cypherParams := some { entries := [("locale", .string "en")] } }

/-- A projector that reads two parameters of its own. -/
def pagedProjector : Projector := fun request =>
  .ok ⟨[], { entries := [("1_first", .ofInt 3), ("offset", .ofInt 0)] }, request.paramIndex + 1⟩

theorem parameters_exact_reviewedFilm :
    let synthesizer : Synthesizer := ⟨.default, pagedProjector, .null⟩
    ∃ query, (synthesizer.synthesizeAs .relationshipCreate reviewedFilm).result = .ok query ∧
      query.parameters.entries =
        [("first", .ofInt 5), ("from", .object [("id", .string "u")]),
          ("to", .object [("id", .string "m")]),
          ("data", .object [("on", .string "1999-03-31"), ("note", .null)]), ("offset", .ofInt 0),
          ("1_first", .ofInt 3), ("cypherParams", .object [("locale", .string "en")])] ∧
      ∃ projection, synthesizer.Answered .relationshipCreate reviewedFilm projection ∧
        query.parameters.Binds
          (Parameters.order .default .null reviewedFilm .relationshipCreate
            projection.parameters.entries)
          (Parameters.value? .default .null reviewedFilm .relationshipCreate
            projection.parameters.entries) := by
  intro synthesizer
  exact ⟨_, rfl, rfl, synthesizer.parameters_exact rfl⟩

end Synthesizer

end CypherSynthesis
