import CypherSynthesis.Operation.Decode
import CypherSynthesis.Proofs.Bag

/-!
Operations survive their JSON form. An encoded record is read back member by member: each member that
was written is found among the fields of the record type, and each one that was left out stands for
the value that the record has before anything is read. Main statement: decoding an encoded operation
gives the operation back, so two operations with the same encoding are one.
-/

namespace CypherSynthesis

namespace Json

mutual

/-- No object inside the value has a key twice. -/
def Distinct : Json → Prop
  | .array items => DistinctItems items
  | .object members => (members.map Prod.fst).Nodup ∧ DistinctMembers members
  | .null | .bool _ | .number _ | .string _ => True

def DistinctItems : List Json → Prop
  | [] => True
  | item :: rest => item.Distinct ∧ DistinctItems rest

def DistinctMembers : List (String × Json) → Prop
  | [] => True
  | (_, value) :: rest => value.Distinct ∧ DistinctMembers rest

end

end Json

namespace Document

mutual

/-- A value as a document is read as the value. -/
theorem toJson_ofJson {value : Json} (h : value.Distinct) : (ofJson value).toJson = .ok value := by
  cases value with
  | null | bool | number | string => simp only [ofJson, toJson, Except.map]
  | array items =>
    simp only [Json.Distinct] at h
    simp only [ofJson, toJson, toJsonItems_ofJsonItems h]
    rfl
  | object members =>
    simp only [Json.Distinct] at h
    simp only [ofJson, toJson, toBag_ofJsonMembers .empty h.2]
    exact congrArg (fun bag => Except.ok (Bag.toJson bag)) (Bag.ofList_of_nodup h.1)

theorem toJsonItems_ofJsonItems {items : List Json} (h : Json.DistinctItems items) :
    toJsonItems (ofJsonItems items) = .ok items := by
  cases items with
  | nil => simp only [ofJsonItems, toJsonItems]
  | cons item rest =>
    simp only [Json.DistinctItems] at h
    simp only [ofJsonItems, toJsonItems, toJson_ofJson h.1, toJsonItems_ofJsonItems h.2]
    rfl

theorem toBag_ofJsonMembers {members : List (String × Json)} (bag : Bag)
    (h : Json.DistinctMembers members) :
    toBag bag (ofJsonMembers members) = .ok (bag.insertAll members) := by
  cases members with
  | nil => simp only [ofJsonMembers, toBag]; rfl
  | cons member rest =>
    obtain ⟨name, value⟩ := member
    simp only [Json.DistinctMembers] at h
    simp only [ofJsonMembers, toBag, toJson_ofJson h.1]
    exact toBag_ofJsonMembers (bag.insert name value) h.2

end

theorem height_lt_of_mem_items {items : List Json} {item : Json} (h : item ∈ items) :
    (ofJson item).height < (ofJson (.array items)).height := by
  simp only [ofJson, height]
  induction items with
  | nil => cases h
  | cons first rest ih =>
    simp only [ofJsonItems, heightItems]
    rcases List.mem_cons.mp h with rfl | h
    · omega
    · have := ih h
      omega

theorem height_lt_of_mem_members {members : List (String × Json)} {name : String} {value : Json}
    (h : (name, value) ∈ members) :
    (ofJson value).height < (ofJson (.object members)).height := by
  simp only [ofJson, height]
  induction members with
  | nil => cases h
  | cons first rest ih =>
    obtain ⟨name', value'⟩ := first
    simp only [ofJsonMembers, heightMembers]
    rcases List.mem_cons.mp h with h | h
    · obtain ⟨rfl, rfl⟩ := Prod.mk.inj h
      omega
    · have := ih h
      omega

/-- An item of a list nests less deep than a record that ends with the list. -/
theorem height_lt_of_mem_listMember {items : List Json} {item : Json} (h : item ∈ items)
    (front : List (String × Json)) (name : String) :
    (ofJson item).height < (ofJson (.object (front ++ Json.listMember name items))).height := by
  have inList := height_lt_of_mem_items h
  have member : (name, Json.array items) ∈ Json.listMember name items := by
    cases items with
    | nil => cases h
    | cons => exact List.mem_singleton.mpr rfl
  have inRecord := height_lt_of_mem_members (List.mem_append_right front member)
  omega

end Document

namespace Decoder

variable {α σ : Type}

theorem faulty_ok (a : α) : faulty (.ok a) = .ok a := rfl

theorem ofValue_json {value : Json} (h : value.Distinct) : ofValue json value = .ok value := by
  simp only [ofValue, json, Document.toJson_ofJson h, faulty_ok]

theorem ofValue_bag {entries : Bag} (h : Json.DistinctMembers entries.entries) :
    ofValue bag entries.toJson = .ok entries := by
  simp only [ofValue, bag, Bag.toJson, Document.ofJson, Document.toBag_ofJsonMembers .empty h]
  exact congrArg Except.ok (Bag.ofList_entries entries)

theorem ofValue_int64 (n : Int64) : ofValue int64 (encodeInt64 n) = .ok n := by
  have range : (decide (Int64.minValue.toInt ≤ n.toInt) &&
      decide (n.toInt ≤ Int64.maxValue.toInt)) = true := by
    simp only [n.minValue_le_toInt, n.toInt_le, decide_true, Bool.and_self]
  simp only [ofValue, encodeInt64, Json.ofInt, Document.ofJson, int64]
  rw [if_pos range, Int64.ofInt_toInt]

/-- A value that is not null is read by itself. -/
theorem ofValue_nullable {decode : Decoder α} {value : Json} {a : α} (hnull : value.isNull = false)
    (h : ofValue decode value = .ok a) : ofValue (nullable decode) value = .ok (some a) := by
  unfold ofValue at h ⊢
  cases value with
  | null => cases hnull
  | bool | number | string | array | object =>
    simp only [Document.ofJson] at h ⊢
    simp only [nullable, h]
    rfl

theorem mapM_ofJsonItems {decode : Decoder α} {encode : α → Json} (xs : List α)
    (h : ∀ x ∈ xs, ofValue decode (encode x) = .ok x) :
    (Document.ofJsonItems (xs.map encode)).mapM (decode .value) = .ok xs := by
  induction xs with
  | nil => rfl
  | cons x rest ih =>
    have first : decode .value (.ofJson (encode x)) = .ok x := h x (by simp)
    have tail := ih fun y hy => h y (by simp [hy])
    rw [List.map_cons, Document.ofJsonItems, List.mapM_cons, first, tail]
    rfl

/-- A list is read back if each of its elements is. -/
theorem ofValue_list {decode : Decoder α} {encode : α → Json} (xs : List α)
    (h : ∀ x ∈ xs, ofValue decode (encode x) = .ok x) :
    ofValue (list decode) (.array (xs.map encode)) = .ok xs := by
  simp only [ofValue, Document.ofJson, list, mapM_ofJsonItems xs h]
  rfl

theorem ofValue_choice {variants : List (String × α)} {name : String} {a : α}
    (h : variants.find? (·.1 = name) = some (name, a)) :
    ofValue (choice variants) (.string name) = .ok a := by
  have chosen : variant variants name = .ok a := by simp only [variant, h]
  simp only [ofValue, Document.ofJson, choice, choiceInValue]
  exact chosen

/-- Reading the members one after the other takes one record to another. -/
inductive Fills (fields : List (Field σ)) : List (String × Json) → σ → σ → Prop where
  | nil (record : σ) : Fills fields [] record record
  | cons {name : String} {value : Json} {rest : List (String × Json)} {field : Field σ}
    {set : σ → σ} {record record' : σ} : fields.find? (·.name = name) = some field →
    field.decode .value (.ofJson value) = .ok set → Fills fields rest (set record) record' →
    Fills fields ((name, value) :: rest) record record'

namespace Fills

variable {fields : List (Field σ)} {members members' : List (String × Json)} {record record' : σ}

theorem append {record'' : σ} (h : Fills fields members record record')
    (h' : Fills fields members' record' record'') :
    Fills fields (members ++ members') record record'' := by
  induction h with
  | nil => exact h'
  | cons found decoded _ ih => exact .cons found decoded (ih h')

/-- One member, by the decoder of its field. -/
theorem one {name : String} {required : Bool} {decode : Decoder α} {set : α → σ → σ} {value : Json}
    {a : α}
    (found : fields.find? (·.name = name) =
      some ⟨name, required, fun source document => (decode source document).map set⟩)
    (h : ofValue decode value = .ok a) (hset : set a record = record') :
    Fills fields [(name, value)] record record' := by
  rw [← hset]
  refine .cons found ?_ (.nil _)
  have decoded : decode .value (.ofJson value) = .ok a := h
  simp only [decoded]
  rfl

/-- A member that is left out stands for what the record has without it. -/
theorem optional {name : String} {required : Bool} {decode : Decoder α} {set : Option α → σ → σ}
    {encode : α → Json} {x : Option α}
    (found : fields.find? (·.name = name) =
      some ⟨name, required, fun source document => (nullable decode source document).map set⟩)
    (h : ∀ a ∈ x, (encode a).isNull = false ∧ ofValue decode (encode a) = .ok a)
    (absent : set none record = record) (hset : set x record = record') :
    Fills fields (Json.optionalMember name (x.map encode)) record record' := by
  cases x with
  | none =>
    rw [← hset, absent]
    exact .nil record
  | some a => exact one found (ofValue_nullable (h a rfl).1 (h a rfl).2) hset

/-- A list that is left out stands for what the record has without it. -/
theorem list {name : String} {required : Bool} {decode : Decoder α} {set : List α → σ → σ}
    {encode : α → Json} {xs : List α}
    (found : fields.find? (·.name = name) =
      some ⟨name, required, fun source document => (Decoder.list decode source document).map set⟩)
    (h : ∀ x ∈ xs, ofValue decode (encode x) = .ok x) (absent : set [] record = record)
    (hset : set xs record = record') :
    Fills fields (Json.listMember name (xs.map encode)) record record' := by
  cases xs with
  | nil =>
    rw [← hset, absent]
    exact .nil record
  | cons x rest => exact one found (ofValue_list (x :: rest) h) hset

theorem fromMembers_eq (h : Fills fields members record record') (seen : List String)
    (distinct : (members.map Prod.fst ++ seen).Nodup) :
    fromMembers fields .value (Document.ofJsonMembers members) seen record =
      .ok ((members.map Prod.fst).reverse ++ seen, record') := by
  induction h generalizing seen with
  | nil record => rfl
  | @cons name value rest field set record record' found decoded _ ih =>
    have unseen : seen.contains name = false := by
      simp only [List.map_cons, List.cons_append, List.nodup_cons, List.mem_append, not_or] at distinct
      simpa using distinct.1.2
    have tail := ih (name :: seen) (by
      rw [List.map_cons, List.cons_append] at distinct
      exact List.perm_middle.nodup_iff.mpr distinct)
    simp only [Document.ofJsonMembers, fromMembers, faulty_ok, bind, Except.bind, found, unseen,
      decoded, Bool.false_eq_true, if_false]
    rw [tail]
    simp

/-- A record is read back if its members are, and none that it needs is left out. -/
theorem ofValue_record (name : String) {blank : σ} (h : Fills fields members blank record)
    (distinct : (members.map Prod.fst).Nodup)
    (complete : (fields.filter (·.required)).map Field.name ⊆ members.map Prod.fst) :
    ofValue (Decoder.record name fields blank) (.object members) = .ok record := by
  have filled := h.fromMembers_eq [] (by simpa using distinct)
  have nothing : missing fields ((members.map Prod.fst).reverse ++ []) = .ok () := by
    unfold missing
    rw [List.find?_eq_none.mpr]
    intro field hfield hmissing
    simp only [Bool.and_eq_true, Bool.not_eq_true', List.append_nil, List.contains_reverse]
      at hmissing
    have present : field.name ∈ members.map Prod.fst :=
      complete (List.mem_map_of_mem (List.mem_filter.mpr ⟨hfield, hmissing.1⟩))
    exact Bool.false_ne_true (hmissing.2.symm.trans (List.contains_iff_mem.mpr present))
  simp only [ofValue, Document.ofJson, Decoder.record, filled]
  simp only [bind, Except.bind, nothing]
  rfl

end Fills

end Decoder

open Decoder (ofValue Fills)

theorem Json.names_optionalMember (name : String) (value : Option Json) :
    ((optionalMember name value).map Prod.fst).Sublist [name] := by
  cases value <;> simp [optionalMember]

theorem Json.names_listMember (name : String) (items : List Json) :
    ((listMember name items).map Prod.fst).Sublist [name] := by
  cases items <;> simp [listMember]

theorem Root.decode_encode (root : Root) : ofValue decode root.encode = .ok root := by
  cases root <;> exact Decoder.ofValue_choice rfl

theorem TypeShape.decode_encode (shape : TypeShape) : ofValue decode shape.encode = .ok shape := by
  cases shape <;> exact Decoder.ofValue_choice rfl

theorem SchemaType.decode_encode (type : SchemaType) : ofValue decode type.encode = .ok type := by
  unfold decode encode
  apply Fills.ofValue_record
  · exact .cons rfl rfl (.one rfl type.shape.decode_encode rfl)
  · simp
  · simp [Field.needed, Field.optional]

/-- A declared name is read back if its type is. -/
theorem Declaration.decodeWith_encode {decode : Decoder TypeRef} {declaration : Declaration}
    (h : ofValue decode declaration.2.encode = .ok declaration.2) :
    ofValue (decodeWith decode) declaration.encode = .ok declaration := by
  unfold decodeWith encode
  apply Fills.ofValue_record
  · exact .cons rfl rfl (.one rfl h rfl)
  · simp
  · simp [Field.needed]

theorem encodeDeclarations_eq (declarations : List (String × TypeRef)) :
    encodeDeclarations declarations = declarations.map Declaration.encode := by
  induction declarations with
  | nil => simp only [encodeDeclarations, List.map_nil]
  | cons declaration rest ih => simp only [encodeDeclarations, List.map_cons, ih, Declaration.encode]

theorem encodeSelections_eq (selections : List Selection) :
    encodeSelections selections = selections.map Selection.encode := by
  induction selections with
  | nil => simp only [encodeSelections, List.map_nil]
  | cons selection rest ih => simp only [encodeSelections, List.map_cons, ih]

namespace TypeRef

theorem encode_eq (type : TypeRef) : type.encode =
    .object ([("name", .string type.name), ("nonNull", .bool type.nonNull),
        ("list", .bool type.list)] ++
      Json.listMember "fields" (type.fields.map Declaration.encode)) := by
  obtain ⟨name, nonNull, list, fields⟩ := type
  rw [encode, encodeDeclarations_eq]

/-- The type of an input field nests less deep than the type that it is a field of. -/
theorem height_field_lt {type : TypeRef} {declaration : Declaration}
    (h : declaration ∈ type.fields) :
    (Document.ofJson declaration.2.encode).height < (Document.ofJson type.encode).height := by
  have inField : (Document.ofJson declaration.2.encode).height <
      (Document.ofJson declaration.encode).height :=
    Document.height_lt_of_mem_members (by simp : ("type", declaration.2.encode) ∈ _)
  have inType : (Document.ofJson declaration.encode).height <
      (Document.ofJson type.encode).height := by
    rw [encode_eq]
    exact Document.height_lt_of_mem_listMember (List.mem_map_of_mem h) ..
  omega

theorem decodeWithin_encode (fuel : Nat) (type : TypeRef)
    (h : (Document.ofJson type.encode).height < fuel) :
    ofValue (decodeWithin fuel) type.encode = .ok type := by
  induction fuel generalizing type with
  | zero => omega
  | succ fuel ih =>
    have fields (declaration : Declaration) (hmem : declaration ∈ type.fields) :
        ofValue (Declaration.decodeWith (decodeWithin fuel)) declaration.encode = .ok declaration := by
      have shorter := height_field_lt hmem
      exact Declaration.decodeWith_encode (ih declaration.2 (by omega))
    rw [encode_eq]
    obtain ⟨name, nonNull, list, declarations⟩ := type
    unfold decodeWithin
    apply Fills.ofValue_record
    · exact .cons rfl rfl (.cons rfl rfl (.cons rfl rfl (.list rfl fields rfl rfl)))
    · rw [List.map_append]
      exact ((List.Sublist.refl _).append (Json.names_listMember _ _)).nodup (by simp)
    · simp [Field.needed, Field.optional]

theorem decode_encode (type : TypeRef) : ofValue decode type.encode = .ok type := by
  have within := decodeWithin_encode _ type (Nat.lt_add_one _)
  unfold ofValue at within ⊢
  rw [decode]
  exact within

end TypeRef

namespace Selection

theorem encode_eq (selection : Selection) : selection.encode =
    .object ([("name", .string selection.name)] ++
      Json.optionalMember "alias" (selection.givenKey.map .string) ++
      Json.listMember "selections" (selection.selections.map encode)) := by
  obtain ⟨name, givenKey, selections⟩ := selection
  rw [encode, encodeSelections_eq]

/-- A selected field nests less deep than the field that it is selected from. -/
theorem height_child_lt {selection child : Selection} (h : child ∈ selection.selections) :
    (Document.ofJson child.encode).height < (Document.ofJson selection.encode).height := by
  rw [encode_eq selection]
  exact Document.height_lt_of_mem_listMember (List.mem_map_of_mem h) ..

theorem decodeWithin_encode (fuel : Nat) (selection : Selection)
    (h : (Document.ofJson selection.encode).height < fuel) :
    ofValue (decodeWithin fuel) selection.encode = .ok selection := by
  induction fuel generalizing selection with
  | zero => omega
  | succ fuel ih =>
    have children (child : Selection) (hmem : child ∈ selection.selections) :
        ofValue (decodeWithin fuel) child.encode = .ok child := by
      have shorter := height_child_lt hmem
      exact ih child (by omega)
    rw [encode_eq]
    obtain ⟨name, givenKey, selections⟩ := selection
    unfold decodeWithin
    apply Fills.ofValue_record
    · exact .append (.append (.one rfl rfl rfl) (.optional rfl (fun _ _ => ⟨rfl, rfl⟩) rfl rfl))
        (.list rfl children rfl rfl)
    · rw [List.map_append, List.map_append]
      exact (((List.Sublist.refl _).append (Json.names_optionalMember _ _)).append
        (Json.names_listMember _ _)).nodup (by simp)
    · simp [Field.needed, Field.optional]

theorem decode_encode (selection : Selection) : ofValue decode selection.encode = .ok selection := by
  have within := decodeWithin_encode _ selection (Nat.lt_add_one _)
  unfold ofValue at within ⊢
  rw [decode]
  exact within

end Selection

theorem Argument.decode_encode {argument : Argument}
    (h : ∀ value ∈ argument.value, value.Distinct) :
    ofValue decode argument.encode = .ok argument := by
  obtain ⟨name, type, value⟩ := argument
  unfold decode encode
  apply Fills.ofValue_record
  · refine .append (.append (.one rfl rfl rfl) (.one rfl type.decode_encode rfl)) ?_
    -- An explicit null is a member, so it is not taken for an argument without a value.
    cases value with
    | none => exact .nil _
    | some value => exact .one rfl (Decoder.ofValue_json (h value rfl)) rfl
  · rw [List.map_append]
    exact ((List.Sublist.refl _).append (Json.names_optionalMember _ _)).nodup (by simp)
  · simp [Field.needed, Field.optional]

theorem Directive.decode_encode {directive : Directive}
    (h : Json.DistinctMembers directive.arguments.entries) :
    ofValue decode directive.encode = .ok directive := by
  unfold decode encode
  apply Fills.ofValue_record
  · exact .cons rfl rfl (.one rfl (Decoder.ofValue_bag h) rfl)
  · simp
  · simp [Field.needed, Field.optional]

/-- A sort key is written in its object form, whatever its field. -/
theorem SortKey.decode_encode (key : SortKey) : ofValue decode key.encode = .ok key := by
  obtain ⟨field, direction⟩ := key
  have distinct : (encode ⟨field, direction⟩).Distinct := by
    simp [encode, SortDirection.encode, Json.Distinct, Json.DistinctMembers]
  have whole := Document.toJson_ofJson distinct
  have members : ofMembers? [(.ok "field", .string (.ok field)),
      (.ok "direction", .string (.ok direction.name))] none none = some ⟨field, direction⟩ := by
    cases direction <;> rfl
  simp only [encode, SortDirection.encode, Document.ofJson, Document.ofJsonMembers] at whole
  simp only [ofValue, encode, SortDirection.encode, Document.ofJson, Document.ofJsonMembers, decode,
    whole, members]
  rfl

/-- No object in the values of the operation has a key twice. -/
structure Operation.Distinct (operation : Operation) : Prop where
  arguments : ∀ argument ∈ operation.arguments, ∀ value ∈ argument.value, value.Distinct
  directives : ∀ directive ∈ operation.directives,
    Json.DistinctMembers directive.arguments.entries
  cypherParams : ∀ params ∈ operation.cypherParams, Json.DistinctMembers params.entries

namespace Operation

theorem decode_encode {operation : Operation} (h : operation.Distinct) :
    ofValue decode operation.encode = .ok operation := by
  unfold decode encode
  rw [encodeSelections_eq]
  have selections (selection : Selection) (_ : selection ∈ operation.selections) :=
    selection.decode_encode
  have arguments (argument : Argument) (hmem : argument ∈ operation.arguments) :=
    Argument.decode_encode (h.arguments argument hmem)
  have directives (directive : Directive) (hmem : directive ∈ operation.directives) :=
    Directive.decode_encode (h.directives directive hmem)
  have sortKeys (key : SortKey) (_ : key ∈ operation.orderBy) := key.decode_encode
  have number (n : Option Int64) : ∀ i ∈ n,
      (encodeInt64 i).isNull = false ∧ ofValue Decoder.int64 (encodeInt64 i) = .ok i :=
    fun i _ => ⟨rfl, Decoder.ofValue_int64 i⟩
  have params (bag : Bag) (hbag : bag ∈ operation.cypherParams) :
      bag.toJson.isNull = false ∧ ofValue Decoder.bag bag.toJson = .ok bag :=
    ⟨rfl, Decoder.ofValue_bag (h.cypherParams bag hbag)⟩
  -- The members that are always there give everything but the options and the sort order.
  have present : Fills fields
      [("root", operation.root.encode),
       ("fieldName", .string operation.fieldName),
       ("typeName", .string operation.typeName),
       ("variableName", .string operation.variableName),
       ("schemaType", operation.schemaType.encode),
       ("selections", .array (operation.selections.map Selection.encode)),
       ("arguments", .array (operation.arguments.map Argument.encode)),
       ("directives", .array (operation.directives.map Directive.encode))]
      (new .query "" "")
      { operation with
        first := none
        offset := none
        orderBy := []
        internalId := none
        cypherParams := none } :=
    .append (.one rfl operation.root.decode_encode rfl) <|
    .cons rfl rfl <| .cons rfl rfl <| .cons rfl rfl <|
    .append (.one rfl operation.schemaType.decode_encode rfl) <|
    .append (.one rfl (Decoder.ofValue_list _ selections) rfl) <|
    .append (.one rfl (Decoder.ofValue_list _ arguments) rfl) <|
    .one rfl (Decoder.ofValue_list _ directives) rfl
  apply Fills.ofValue_record
  · exact ((((present.append (.optional rfl (number _) rfl rfl)).append
      (.optional rfl (number _) rfl rfl)).append (.list rfl sortKeys rfl rfl)).append
      (.optional rfl (number _) rfl rfl)).append (.optional rfl params rfl rfl)
  · have distinct : (["root", "fieldName", "typeName", "variableName", "schemaType", "selections",
        "arguments", "directives"] ++ ["first"] ++ ["offset"] ++ ["orderBy"] ++ ["_id"] ++
        ["cypherParams"]).Nodup := by decide
    simp only [List.map_append]
    exact ((((((List.Sublist.refl _).append (Json.names_optionalMember _ _)).append
      (Json.names_optionalMember _ _)).append (Json.names_listMember _ _)).append
      (Json.names_optionalMember _ _)).append (Json.names_optionalMember _ _)).nodup distinct
  · simp [fields, Field.needed, Field.optional]

/-- Decoding an encoded operation gives it back. So nothing of it is lost: another operation, such as
one with an explicit null where this has no value, has another encoding. -/
theorem restored_from_value {operation : Operation} (h : operation.Distinct) :
    ofValue decode operation.encode = .ok operation ∧
      ∀ other : Operation, other.Distinct → other.encode = operation.encode → other = operation := by
  refine ⟨decode_encode h, fun other hother same => ?_⟩
  have decoded := decode_encode hother
  rw [same, decode_encode h] at decoded
  exact (Except.ok.inj decoded).symm

/-- A user rates a film. The stars are not supplied, the comment is an explicit null, the time is
nested, and the request-wide parameters are there but empty. -/
def ratedFilmRequest : Operation :=
  { Operation.new .mutation "AddUserRated" "_AddUserRatedPayload" with
    selections :=
      [⟨"rating", some "stars", []⟩, ⟨"from", none, [⟨"name", none, []⟩, ⟨"born", some "", []⟩]⟩]
    arguments :=
      [⟨"from", .input "_UserInput"
          [("at", .input "_At" [("day", .listOf "Int")]), ("id", .required "ID")],
        some (.object [("at", .object [("day", .array [.ofInt 1, .null])]), ("id", .string "u")])⟩,
       ⟨"stars", .named "Int", none⟩,
       ⟨"comment", .named "String", some .null⟩]
    directives :=
      [⟨"MutationMeta", { entries := [("relationship", .string "RATED"), ("from", .string "User")] }⟩]
    first := some (-3)
    orderBy := [⟨"", .descending⟩, ⟨"name_asc", .ascending⟩]
    cypherParams := some .empty }

theorem restored_from_value_ratedFilmRequest :
    ratedFilmRequest.Distinct ∧
      ofValue decode ratedFilmRequest.encode = .ok ratedFilmRequest ∧
      ∀ other : Operation, other.Distinct → other.encode = ratedFilmRequest.encode →
        other = ratedFilmRequest := by
  have distinct : ratedFilmRequest.Distinct := by
    constructor
    · simp [ratedFilmRequest, Json.Distinct, Json.DistinctItems, Json.DistinctMembers, Json.ofInt]
    · simp [ratedFilmRequest, Json.Distinct, Json.DistinctMembers]
    · simp [ratedFilmRequest, Bag.empty, Json.DistinctMembers]
  exact ⟨distinct, restored_from_value distinct⟩

end Operation

end CypherSynthesis
