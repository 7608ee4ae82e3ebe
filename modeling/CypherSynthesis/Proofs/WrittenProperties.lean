import CypherSynthesis.Proofs.Bindings
import CypherSynthesis.Proofs.ClauseText
import CypherSynthesis.Proofs.StatementText
import Mathlib.Data.List.Forall2

/-!
Written properties and the values bound for them. Three kinds of operation write properties, each
from the entries of one map that is bound as a parameter. An entry that is declared is written once,
in the order of the map; a temporal one goes through the constructor of its type and is bound in write
form, and any other is bound as it was. The map itself keeps all its entries, declared or not.
-/

namespace CypherSynthesis

open Bag (last?)
open Cypher (Fragment Token)
open Parameters (suppliedEntries)

/-- A map whose declared entries are written as properties. -/
structure Writing where
  /-- The parameter that the map is bound to. -/
  parent : String
  declarations : List (String × TypeRef)
  entries : List (String × Json)

namespace Writing

/-- What becomes of an entry: the text that writes its property, if there is one, and what is bound
in its place. -/
inductive Prepares (writing : Writing) : String × Json → Option String × (String × Json) → Prop where
  | undeclared {key : String} {value : Json} (unknown : key ∉ writing.declarations.map Prod.fst) :
    Prepares writing (key, value) (none, (key, value))
  | plain {key : String} {value : Json} {type : TypeRef}
    (declared : (key, type) ∈ writing.declarations) (untimed : type.timed? = none) :
    Prepares writing (key, value)
      (some (Cypher.quote key ++ ":" ++ Cypher.reference [writing.parent, key]), (key, value))
  | temporal {key : String} {value : Json} {type : TypeRef} {kind : TemporalKind}
    (declared : (key, type) ∈ writing.declarations) (timed : type.timed? = some kind)
    (single : type.list = false) :
    Prepares writing (key, value)
      (some (Cypher.quote key ++ ": " ++ kind.function ++
        "(" ++ Cypher.reference [writing.parent, key] ++ ")"), (key, value.asWritten))
  | temporalList {key : String} {value : Json} {type : TypeRef} {kind : TemporalKind}
    (declared : (key, type) ∈ writing.declarations) (timed : type.timed? = some kind)
    (list : type.list = true) :
    Prepares writing (key, value)
      (some (Cypher.quote key ++ ": [value IN " ++ Cypher.reference [writing.parent, key] ++ " | " ++
        kind.function ++ "(value)]"), (key, value.asWritten))

/-- The properties are written by the given texts, and the map is bound with the given entries. -/
def Prepared (writing : Writing) (properties : List String) (bound : List (String × Json)) : Prop :=
  ∃ prepared, List.Forall₂ writing.Prepares writing.entries prepared ∧
    properties = prepared.filterMap Prod.fst ∧ bound = prepared.map Prod.snd

/-- The entries of a new node. -/
def ofCreation (settings : Settings) (fresh : Json) (operation : Operation) : Writing :=
  ⟨"params", operation.typed, operation.createdEntries settings.idType fresh⟩

/-- The entries of an update that finds its node by another argument than the given ones. -/
def ofUpdate (operation : Operation) (others : List Argument) : Writing :=
  ⟨"params", operation.typed, suppliedEntries others⟩

/-- The data of a new relationship, if it is an object. -/
def ofData? (operation : Operation) : Option Writing :=
  operation.data?.map fun (fields, members) => ⟨"data", fields, members⟩

end Writing

/-- Among different names, a declaration is found under its own. -/
theorem find?_declaration {declarations : List (String × TypeRef)} {key : String} {type : TypeRef}
    (distinct : (declarations.map Prod.fst).Nodup) (h : (key, type) ∈ declarations) :
    declarations.find? (·.1 = key) = some (key, type) := by
  rw [← List.head?_filter, @filter_eq_singleton _ Prod.fst _ (key, type) distinct h, List.head?_cons]

theorem Cypher.references_assignment (name : String) (rest : List Token) :
    references (.ofName name :: .mark ':' :: rest) = references rest :=
  references_of_not_mem [.ofName name, .mark ':'] rest (by simp [mark_ne_ofName])

/-- The text gives the property of the given name the value of the parameter of that name inside
`parent`, and reads no other parameter. -/
def Assigns (parent text name : String) : Prop :=
  ∃ rest, Cypher.lex text = some (.ofName name :: .mark ':' :: rest) ∧
    Cypher.references rest = [[parent, name]]

/-- The text has to do with the property of the given name: it begins with it or reads its
parameter. -/
def Mentions (parent text name : String) : Prop :=
  ∃ tokens, Cypher.lex text = some tokens ∧
    (tokens.head? = some (.ofName name) ∨ [parent, name] ∈ Cypher.references tokens)

theorem Assigns.mentions_iff {parent text name other : String} (h : Assigns parent text name) :
    Mentions parent text other ↔ other = name := by
  obtain ⟨rest, lexed, reads⟩ := h
  constructor
  · rintro ⟨tokens, hlex, hother⟩
    obtain rfl := Option.some.inj (lexed.symm.trans hlex)
    rcases hother with hother | hother
    · have names := congrArg Token.name? (Option.some.inj hother)
      rw [Token.name?_ofName, Token.name?_ofName] at names
      exact (Option.some.inj names).symm
    · rw [Cypher.references_assignment, reads] at hother
      simpa using hother
  · rintro rfl
    exact ⟨_, lexed, .inl rfl⟩

/-- Texts that each write one property have to do with no other. -/
theorem not_mentions_of_assigns {parent other : String} {texts names : List String}
    (h : List.Forall₂ (Assigns parent) texts names) (hother : other ∉ names) :
    ∀ text ∈ texts, ¬ Mentions parent text other := by
  induction h with
  | nil =>
    intro text htext
    cases htext
  | cons first _ ih =>
    simp only [List.mem_cons, not_or] at hother
    intro text htext hmentions
    rcases List.mem_cons.mp htext with rfl | htext
    · exact hother.1 (first.mentions_iff.mp hmentions)
    · exact ih hother.2 text htext hmentions

theorem assigns_of_tokens {parent key : String} {fragment : Fragment} {rest : List Token}
    (spaced : fragment.isSpaced .closed = true)
    (tokens : fragment.tokens = .ofName key :: .mark ':' :: rest)
    (params : fragment.params = [[parent, key]]) : Assigns parent fragment.render key := by
  have lexed := Fragment.lex_render spaced
  have reads := Fragment.references_tokens spaced
  rw [tokens] at lexed reads
  rw [Cypher.references_assignment, params] at reads
  exact ⟨rest, lexed, reads⟩

namespace Writing

/-- What becomes of an entry, computed. -/
def prepare (writing : Writing) (entry : String × Json) : Option String × (String × Json) :=
  ((writing.declarations.find? (·.1 = entry.1)).map fun declaration =>
      (declaration.2.assignment entry.1).spelled writing.parent,
    (entry.1, Assignment.written writing.declarations entry.1 entry.2))

theorem prepares_prepare (writing : Writing) (entry : String × Json) :
    writing.Prepares entry (writing.prepare entry) := by
  obtain ⟨key, value⟩ := entry
  unfold prepare Assignment.written
  cases hfound : writing.declarations.find? (·.1 = key) with
  | none =>
    refine .undeclared fun hkey => ?_
    obtain ⟨declaration, hdeclaration, rfl⟩ := List.mem_map.mp hkey
    simpa using List.find?_eq_none.mp hfound declaration hdeclaration
  | some declaration =>
    obtain ⟨name, type⟩ := declaration
    obtain rfl : name = key := by simpa using List.find?_some hfound
    have declared := List.mem_of_find?_eq_some hfound
    cases hkind : type.timed? with
    | none =>
      simpa [hkind, TypeRef.assignment, Assignment.spelled] using Prepares.plain declared hkind
    | some kind =>
      cases hlist : type.list with
      | false =>
        simpa [hkind, hlist, TypeRef.assignment, Assignment.spelled] using
          Prepares.temporal declared hkind hlist
      | true =>
        simpa [hkind, hlist, TypeRef.assignment, Assignment.spelled] using
          Prepares.temporalList declared hkind hlist

/-- The assignments of a map and its values as they are bound are what becomes of its entries. -/
theorem prepared_declared (writing : Writing) :
    writing.Prepared
      ((Assignment.declared writing.declarations (writing.entries.map Prod.fst)).map
        (·.spelled writing.parent))
      (writing.entries.map fun (name, value) =>
        (name, Assignment.written writing.declarations name value)) := by
  refine ⟨writing.entries.map writing.prepare, ?_, ?_, ?_⟩
  · rw [List.forall₂_map_right_iff, List.forall₂_same]
    exact fun entry _ => writing.prepares_prepare entry
  · simp [Assignment.declared, List.map_filterMap, List.filterMap_map, Function.comp_def, prepare]
  · simp [Function.comp_def, prepare]

theorem Prepares.assigns {writing : Writing} {entry : String × Json}
    {prepared : Option String × (String × Json)} (h : writing.Prepares entry prepared)
    (plain : Cypher.isPlain writing.parent = true) :
    ∀ text ∈ prepared.1, Assigns writing.parent text entry.1 := by
  have assigns (assignment : Assignment) {rest : List Token}
      (tokens : (assignment.fragment writing.parent).tokens = .ofName entry.1 :: .mark ':' :: rest)
      (params : (assignment.fragment writing.parent).params = [[writing.parent, entry.1]]) :
      ∀ text ∈ some (assignment.spelled writing.parent), Assigns writing.parent text entry.1 := by
    intro text htext
    rw [← Option.mem_some_iff.mp htext, ← assignment.render_fragment]
    exact assigns_of_tokens (Assignment.spells plain assignment).spaced tokens params
  cases h with
  | undeclared unknown =>
    intro text htext
    cases htext
  | @plain key _ _ declared untimed => exact assigns (.plain key) rfl rfl
  | @temporal key _ _ kind declared timed single => exact assigns (.temporal key kind) rfl rfl
  | @temporalList key _ _ kind declared timed list => exact assigns (.temporalList key kind) rfl rfl

/-- If all entries are declared, each has a text that writes its property. -/
theorem Prepared.assigns {writing : Writing} {properties : List String}
    {bound : List (String × Json)} (h : writing.Prepared properties bound)
    (plain : Cypher.isPlain writing.parent = true)
    (declared : ∀ name ∈ writing.entries.map Prod.fst, name ∈ writing.declarations.map Prod.fst) :
    List.Forall₂ (Assigns writing.parent) properties (writing.entries.map Prod.fst) := by
  obtain ⟨prepared, related, rfl, -⟩ := h
  generalize writing.entries = entries at related declared ⊢
  induction related with
  | nil => exact .nil
  | @cons entry prepared _ _ first _ ih =>
    have tail := ih fun name hname => declared name (by simp [hname])
    obtain ⟨text, bound⟩ := prepared
    cases text with
    | none =>
      cases first with
      | undeclared unknown => exact absurd (declared _ (by simp)) unknown
    | some text => exact .cons (first.assigns plain text rfl) tail

/-- With different names, what is bound is a matter of the declared types alone. -/
theorem Prepared.bound_eq {writing : Writing} {properties : List String}
    {bound : List (String × Json)} (distinct : (writing.declarations.map Prod.fst).Nodup)
    (h : writing.Prepared properties bound) :
    bound = writing.entries.map fun entry =>
      (entry.1, Assignment.written writing.declarations entry.1 entry.2) := by
  obtain ⟨prepared, related, -, rfl⟩ := h
  generalize writing.entries = entries at related
  induction related with
  | nil => rfl
  | cons first _ ih =>
    rw [List.map_cons, List.map_cons, ih]
    refine congrArg (· :: _) ?_
    unfold Assignment.written
    cases first with
    | @undeclared key _ unknown =>
      have missing : writing.declarations.find? (·.1 = key) = none :=
        List.find?_eq_none.mpr fun declaration hdeclaration hname =>
          unknown (of_decide_eq_true hname ▸ List.mem_map_of_mem hdeclaration)
      simp [missing]
    | plain declared untimed => simp [find?_declaration distinct declared, untimed]
    | temporal declared timed _ | temporalList declared timed _ =>
      simp [find?_declaration distinct declared, timed]

end Writing

namespace Operation

theorem names_typed (operation : Operation) :
    operation.typed.map Prod.fst = operation.arguments.map Argument.name := by
  simp [typed, Function.comp_def]

theorem nodup_typed {operation : Operation}
    (distinct : (operation.arguments.map Argument.name).Nodup) :
    (operation.typed.map Prod.fst).Nodup :=
  operation.names_typed ▸ distinct

/-- The argument that a key is generated for has no value under its name. -/
theorem not_mem_of_unsupplied? {operation : Operation} {idType name : String}
    (h : operation.unsupplied? idType = some name) :
    name ∉ (suppliedEntries operation.arguments).map Prod.fst := by
  rw [Parameters.mem_names_suppliedEntries]
  rintro ⟨other, hother, hname, hvalue⟩
  unfold unsupplied? at h
  split at h
  · split at h
    · cases h
    · rename_i missing
      obtain rfl := Option.some.inj h
      exact missing (List.any_eq_true.mpr
        ⟨other, hother, by simpa [hname] using Option.isSome_iff_ne_none.mpr hvalue⟩)
  · cases h

end Operation

/-- What is bound for a supplied argument: its value, in write form if its type is temporal. -/
def Argument.boundEntry? (argument : Argument) : Option (String × Json) :=
  argument.value.map fun value =>
    (argument.name, if argument.type.timed?.isSome then value.asWritten else value)

namespace Parameters

theorem nodup_suppliedEntries {arguments : List Argument}
    (distinct : (arguments.map Argument.name).Nodup) :
    ((suppliedEntries arguments).map Prod.fst).Nodup :=
  (suppliedEntries_sublist arguments).nodup distinct

theorem names_filterMap_value (form : Argument → Json → Json) (arguments : List Argument) :
    (arguments.filterMap fun argument => argument.value.map fun value =>
        (argument.name, form argument value)).map Prod.fst =
      (arguments.filter Argument.isSupplied).map Argument.name := by
  unfold Argument.isSupplied
  induction arguments with
  | nil => rfl
  | cons argument rest ih =>
    cases hvalue : argument.value with
    | none => simpa [hvalue] using ih
    | some value => simpa [hvalue] using ih

theorem names_suppliedEntries (arguments : List Argument) :
    (suppliedEntries arguments).map Prod.fst =
      (arguments.filter Argument.isSupplied).map Argument.name :=
  names_filterMap_value (fun _ value => value) arguments

theorem names_boundEntries (arguments : List Argument) :
    (arguments.filterMap Argument.boundEntry?).map Prod.fst =
      (arguments.filter Argument.isSupplied).map Argument.name :=
  names_filterMap_value _ arguments

/-- With different names, an argument is written as its own type says. -/
theorem written_suppliedEntries {operation : Operation} {arguments : List Argument}
    (distinct : (operation.arguments.map Argument.name).Nodup)
    (among : arguments ⊆ operation.arguments) :
    (suppliedEntries arguments).map (fun (name, value) =>
        (name, Assignment.written operation.typed name value)) =
      arguments.filterMap Argument.boundEntry? := by
  unfold suppliedEntries Argument.boundEntry?
  rw [List.map_filterMap]
  refine List.filterMap_congr fun argument hargument => ?_
  have declared : (argument.name, argument.type) ∈ operation.typed :=
    List.mem_map_of_mem (among hargument)
  have found := find?_declaration (Operation.nodup_typed distinct) declared
  cases argument.value with
  | none => rfl
  | some value => simp [Assignment.written, found]

/-- With different names a generated key is new, so the entries of a new node are its map. -/
theorem nodup_createdEntries (operation : Operation) (idType : String) (fresh : Json)
    (distinct : (operation.arguments.map Argument.name).Nodup) :
    ((operation.createdEntries idType fresh).map Prod.fst).Nodup := by
  have supplied := nodup_suppliedEntries distinct
  unfold Operation.createdEntries
  cases hkey : operation.unsupplied? idType with
  | none => simpa using supplied
  | some name =>
    rw [List.map_append, List.nodup_append]
    refine ⟨supplied, by simp, ?_⟩
    rintro other hother _ hname rfl
    obtain rfl : other = name := by simpa using hname
    exact Operation.not_mem_of_unsupplied? hkey hother

/-- The key of an update and what else is supplied. -/
theorem suppliedEntries_key {key : Argument} {rest : List Argument} {value : Json}
    (distinct : ((key :: rest).map Argument.name).Nodup) (hvalue : key.value = some value) :
    last? key.name (suppliedEntries (key :: rest)) = some value ∧
      (suppliedEntries (key :: rest)).filter (·.1 ≠ key.name) = suppliedEntries rest := by
  have others : ∀ entry ∈ suppliedEntries rest, entry.1 ≠ key.name := by
    intro entry hentry hname
    have hmem : entry.1 ∈ rest.map Argument.name :=
      (suppliedEntries_sublist rest).subset (List.mem_map_of_mem hentry)
    exact (List.nodup_cons.mp distinct).1 (hname ▸ hmem)
  have entries : suppliedEntries (key :: rest) = (key.name, value) :: suppliedEntries rest := by
    simp [suppliedEntries, hvalue]
  refine ⟨?_, ?_⟩
  · rw [last?_suppliedEntries distinct]
    simp [hvalue]
  · rw [entries, List.filter_cons_of_neg (by simp)]
    exact List.filter_eq_self.mpr fun entry hentry => by simpa using others entry hentry

end Parameters

/-- A map is bound to the name, unless the projection binds something to it. -/
def Query.BindsMap (query : Query) (projection : Projection) (name : String)
    (entries : List (String × Json)) : Prop :=
  query.parameters.get? name =
    (Bag.last? name projection.parameters.entries).or (some (.object entries))

/-- The query writes the properties that its operation writes, and binds their values. The map of an
update has the key behind the properties. -/
def Query.Writes (settings : Settings) (fresh : Json) (operation : Operation) (query : Query)
    (projection : Projection) : Kind → Prop
  | .nodeCreate => ∃ properties bound,
      (Writing.ofCreation settings fresh operation).Prepared properties bound ∧
      query.text = operation.creationText properties projection.fragment.render ∧
      query.BindsMap projection "params" bound
  | .nodeUpdate => ∃ key rest value properties bound,
      operation.arguments = key :: rest ∧ key.value = some value ∧
      (Writing.ofUpdate operation rest).Prepared properties bound ∧
      query.text = operation.updateText properties projection.fragment.render
        (Wanted.clause ⟨operation.variableName, operation.typeName, key.name, some "params",
          [key.type], value⟩) ∧
      query.BindsMap projection "params" (bound ++ [(key.name, value)])
  | .relationshipCreate => ∃ link source target properties,
      operation.link? settings = some link ∧
      operation.wantedEnd? "from" link.sourceType = some source ∧
      operation.wantedEnd? "to" link.targetType = some target ∧
      query.text = operation.linkText properties projection.fragment.render link source target
        (source.clause ++ "\n" ++ target.clause) ∧
      match Writing.ofData? operation with
      | some writing => ∃ bound, writing.Prepared properties bound ∧
          query.BindsMap projection "data" bound
      | none => properties = []
  | _ => True

namespace Plan

open Parameters

variable {synthesizer : Synthesizer} {operation : Operation} {plan : Plan}

/-- Neither pagination nor the request-wide map comes between a map and its name. -/
theorem bindsMap_query {kind : Kind} (hplan : synthesizer.planned kind operation = .ok plan)
    (hkind : kind ≠ .nodeQuery) (projection : Projection) {name : String}
    (hname : name ∉ ["cypherParams", "first", "offset"]) {entries : List (String × Json)}
    (h : last? name (operation.argumentEntries synthesizer.settings synthesizer.fresh kind) =
      some (.object entries)) :
    (plan.query operation projection).BindsMap projection name entries := by
  simp only [List.mem_cons, List.not_mem_nil, or_false, not_or] at hname
  have noId : operation.idEntries kind = [] := operation.append_idEntries [] hkind
  have value := (query_binds hplan projection).value name
  rw [value?, operation.last?_globalEntries hname.1, noId, operation.last?_pageEntries,
    if_neg hname.2.1, if_neg hname.2.2, h] at value
  exact value

theorem nodeCreate_writes (distinct : (operation.arguments.map Argument.name).Nodup)
    (hplan : synthesizer.planned .nodeCreate operation = .ok plan) (projection : Projection) :
    (plan.query operation projection).Writes synthesizer.settings synthesizer.fresh operation
      projection .nodeCreate := by
  have nodup := nodup_createdEntries operation synthesizer.settings.idType synthesizer.fresh distinct
  refine ⟨_, _, (Writing.ofCreation _ _ operation).prepared_declared, ?_, ?_⟩
  · rw [Synthesizer.planned_nodeCreate] at hplan
    obtain rfl := Except.ok.inj hplan
    rw [text_query, render_nodeCreateWith, created_eq_ofList, Bag.keys_ofList,
      Bag.names_of_nodup nodup]
    rfl
  · refine bindsMap_query hplan (by decide) projection (by decide) ?_
    rw [Operation.argumentEntries, Operation.createdMembers, Bag.settled_of_nodup nodup]
    rfl

theorem nodeUpdate_writes (distinct : (operation.arguments.map Argument.name).Nodup)
    (hplan : synthesizer.planned .nodeUpdate operation = .ok plan) (projection : Projection) :
    (plan.query operation projection).Writes synthesizer.settings synthesizer.fresh operation
      projection .nodeUpdate := by
  obtain ⟨key, hkey, rfl⟩ := nodeUpdate_eq_ok hplan
  obtain ⟨rest, value, harguments, hvalue, -⟩ := keyArgument_eq_ok hkey
  have distinct' : ((key :: rest).map Argument.name).Nodup := harguments ▸ distinct
  obtain ⟨last, others⟩ := suppliedEntries_key distinct' hvalue
  refine ⟨key, rest, value, _, _, harguments, hvalue,
    (Writing.ofUpdate operation rest).prepared_declared, ?_, ?_⟩
  · obtain ⟨wanted, hwanted, -, htext⟩ := render_nodeUpdateBy hkey projection.fragment
    obtain ⟨value', hvalue', hwanted'⟩ := wanted?_of_keyArgument hkey (some "params")
    obtain rfl := Option.some.inj (hvalue.symm.trans hvalue')
    obtain rfl := Option.some.inj (hwanted'.symm.trans hwanted)
    have types : operation.arguments.filter (·.name = key.name) = [key] :=
      filter_eq_singleton distinct (by simp [harguments])
    rw [text_query, htext, Operation.updatedProperties,
      Bag.names_of_nodup (nodup_suppliedEntries distinct), List.filter_map, types]
    simp only [Wanted.reading, harguments, last]
    simp only [Function.comp_def, others]
    rfl
  · refine bindsMap_query hplan (by decide) projection (by decide) ?_
    rw [Operation.argumentEntries, Operation.updatedMembers]
    simp only [harguments, others, last,
      Bag.settled_of_nodup (nodup_suppliedEntries (List.nodup_cons.mp distinct').2)]
    rfl

theorem relationshipCreate_writes
    (hplan : synthesizer.planned .relationshipCreate operation = .ok plan)
    (projection : Projection) :
    (plan.query operation projection).Writes synthesizer.settings synthesizer.fresh operation
      projection .relationshipCreate := by
  obtain ⟨link, source, target, hends, rfl⟩ := relationshipCreate_eq_ok hplan
  obtain ⟨hlink, wanted, wanted', hwanted, hwanted', htext⟩ :=
    render_relationshipCreateBetween hends projection.fragment
  refine ⟨link, wanted, wanted', operation.dataProperties, hlink, hwanted, hwanted',
    (text_query _ _ _).trans htext, ?_⟩
  unfold Writing.ofData? Operation.dataProperties
  cases hdata : operation.data? with
  | none => rfl
  | some data =>
    obtain ⟨fields, members⟩ := data
    have supplied := Operation.last?_of_data? hdata
    refine ⟨_, (Writing.mk "data" fields members).prepared_declared,
      bindsMap_query hplan (by decide) projection (by decide) ?_⟩
    rw [Operation.argumentEntries]
    refine (Bag.last?_map (fun name value =>
      if name = "data" then operation.dataForm value else value) "data" _).trans ?_
    rw [supplied, Option.map_some, if_pos rfl, operation.dataForm_eq supplied, hdata]
    rfl

end Plan

namespace Synthesizer

/-- What is written and what is bound agree. A query that writes properties writes the declared
entries of its map in their order, each by the text that its type asks for, and binds the map with
all its entries in place and only the temporal ones put into write form. -/
theorem writes_as_bound (synthesizer : Synthesizer) {kind : Kind} {operation : Operation}
    {query : Query} (distinct : (operation.arguments.map Argument.name).Nodup)
    (h : (synthesizer.synthesizeAs kind operation).result = .ok query) :
    ∃ projection, synthesizer.Answered kind operation projection ∧
      query.Writes synthesizer.settings synthesizer.fresh operation projection kind := by
  obtain ⟨plan, projection, hplan, hprojection, rfl⟩ := synthesizeAs_eq_ok h
  refine ⟨projection, answered hplan hprojection, ?_⟩
  cases kind with
  | nodeCreate => exact Plan.nodeCreate_writes distinct hplan projection
  | nodeUpdate => exact Plan.nodeUpdate_writes distinct hplan projection
  | relationshipCreate => exact Plan.relationshipCreate_writes hplan projection
  | customQuery | nodeQuery | customMutation | nodeDelete | relationshipDelete => trivial

/-- A new part in a film, with data of every sort: a plain role, a first day by its components, a list
of times and a note that is not declared. -/
def newPart : Operation :=
  { Operation.new .mutation "AddMovieActors" "Movie" with
    schemaType := .object "_AddMovieActorsPayload"
    arguments := [
      ⟨"from", .input "_ActorInput" [("id", .required "ID")], some (.object [("id", .string "a1")])⟩,
      ⟨"to", .input "_MovieInput" [("id", .required "ID")], some (.object [("id", .string "m1")])⟩,
      ⟨"data", .input "_PartInput" [("role", .named "String"), ("since", .named "_Neo4jDateInput"),
          ("calls", .listOf "_Neo4jTimeInput")],
        some (.object [("calls", .array [.object [("formatted", .string "08:00")]]),
          ("note", .null), ("role", .string "Neo"),
          ("since", .object [("year", .ofInt 1999), ("day", .null)])])⟩]
    directives := [⟨"MutationMeta", { entries := [("relationship", .string "ACTED_IN"),
      ("from", .string "Actor"), ("to", .string "Movie")] }⟩] }

theorem writes_as_bound_newPart :
    let synthesizer : Synthesizer := ⟨.default, Projection.flat, .null⟩
    (newPart.arguments.map Argument.name).Nodup ∧
    ∃ query, (synthesizer.synthesizeAs .relationshipCreate newPart).result = .ok query ∧
      query.text = "MATCH (actor_from:Actor \x7bid: $from.id\x7d)\n" ++
        "MATCH (movie_to:Movie \x7bid: $to.id\x7d)\n" ++
        "CREATE (actor_from)-[acted_in_relation:ACTED_IN \x7b" ++
        "calls: [value IN $data.calls | time(value)], role:$data.role, since: date($data.since)\x7d]" ++
        "->(movie_to)\nRETURN acted_in_relation \x7b  \x7d AS _AddMovieActorsPayload" ∧
      query.parameters.get? "data" = some (.object [("calls", .array [.string "08:00"]),
        ("note", .null), ("role", .string "Neo"), ("since", .object [("year", .ofInt 1999)])]) ∧
      ∃ projection, synthesizer.Answered .relationshipCreate newPart projection ∧
        query.Writes .default .null newPart projection .relationshipCreate := by
  intro synthesizer
  have distinct : (newPart.arguments.map Argument.name).Nodup := by decide
  exact ⟨distinct, _, rfl, by decide +kernel, rfl, synthesizer.writes_as_bound distinct rfl⟩

end Synthesizer

end CypherSynthesis
