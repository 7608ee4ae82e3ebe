import CypherSynthesis.Proofs.FilterCoverage

/-!
Where a node query puts its arguments. There are four routes: into the pattern, a test for null,
comparisons of temporal parts, and membership in a list. Each route takes the arguments that their
type and value send there, in the order of their declaration, and no argument takes two of them. Main
statement: the text in front of RETURN is made of the internal id and of what the four routes say, and
of nothing else.
-/

namespace CypherSynthesis

open Cypher (quote reference sanitize)
open Bag (last?)
open Parameters (nullEntries suppliedEntries valueEntries)

def Json.isObject : Json → Bool
  | object _ => true
  | _ => false

/-- Where a node query can put an argument. -/
inductive Route where
  | pattern
  | null
  | comparison
  | membership
  deriving DecidableEq, Repr

namespace Route

/-- Whether the route is the one for the argument's type and value. -/
def takes (route : Route) (argument : Argument) : Bool :=
  match route with
  | pattern => argument.value.any (fun value => !value.isNull && !value.isArray) &&
      argument.type.timed?.isNone
  | null => argument.value.any Json.isNull
  | comparison => argument.value.any Json.isObject && argument.type.timed?.isSome
  | membership => argument.value.any Json.isArray

/-- The comparisons of a temporal value that is an object: with its formatted text if that is not
null, and otherwise with each component that is not null. -/
def comparisonTexts (node name : String) (kind : TemporalKind) (components : List (String × Json)) :
    List String :=
  if (components.find? (·.1 = "formatted")).any (!·.2.isNull) then
    [node ++ "." ++ quote name ++ " = " ++ kind.function ++ "(" ++
      reference [name, "formatted"] ++ ")"]
  else
    (components.filter (!·.2.isNull)).map fun component =>
      node ++ "." ++ quote name ++ "." ++ quote component.1 ++ " = " ++ reference [name, component.1]

/-- What the statement says of an argument on its route. -/
def texts (node : String) (route : Route) (argument : Argument) : List String :=
  match route with
  | pattern => [quote argument.name ++ ":" ++ reference [argument.name]]
  | null => [node ++ "." ++ quote argument.name ++ " IS NULL"]
  | comparison =>
    match argument.type.timed?, argument.value with
    | some kind, some (.object components) => comparisonTexts node argument.name kind components
    | _, _ => []
  | membership => [node ++ "." ++ quote argument.name ++ " IN " ++ reference [argument.name]]

/-- The route of a type and a value; a single value of temporal type has none. -/
def of? (type : TypeRef) (value : Json) : Option Route :=
  if value.isNull then some null
  else if value.isArray then some membership
  else if type.timed?.isNone then some pattern
  else if value.isObject then some comparison
  else none

theorem takes_iff {argument : Argument} {value : Json} (hvalue : argument.value = some value)
    {route : Route} : route.takes argument = true ↔ of? argument.type value = some route := by
  cases hkind : argument.type.timed? <;> cases value <;> cases route <;>
    simp [takes, of?, hvalue, hkind, Json.isNull, Json.isArray, Json.isObject]

/-- No two routes are for the same type and value. -/
theorem eq_of_takes {argument : Argument} {route route' : Route}
    (h : route.takes argument = true) (h' : route'.takes argument = true) : route = route' := by
  cases hvalue : argument.value with
  | none => cases route <;> simp [takes, hvalue] at h
  | some value =>
    rw [takes_iff hvalue] at h h'
    exact Option.some.inj (h.symm.trans h')

/-- A supplied argument has a route unless it is a single value of temporal type. -/
theorem exists_takes_iff {argument : Argument} {value : Json} (hvalue : argument.value = some value) :
    (∃ route : Route, route.takes argument = true) ↔
      ¬ (argument.type.timed?.isSome = true ∧ value.isNull = false ∧ value.isArray = false ∧
        value.isObject = false) := by
  simp only [takes_iff hvalue, ← Option.isSome_iff_exists]
  unfold of?
  cases hkind : argument.type.timed? <;> cases value <;>
    simp [Json.isNull, Json.isArray, Json.isObject]

end Route

namespace Operation

/-- The arguments that take a route, as they are declared. -/
def routed (operation : Operation) (route : Route) : List Argument :=
  operation.arguments.filter route.takes

/-- What the statement says on a route. -/
def routeTexts (operation : Operation) (route : Route) : List String :=
  (operation.routed route).flatMap (route.texts (sanitize operation.variableName))

/-- The conditions of a node query: on the internal id, then what three of the routes say. -/
def conditionTexts (operation : Operation) : List String :=
  (if operation.internalId.isSome then
    ["ID(" ++ sanitize operation.variableName ++ ") = " ++ reference ["_id"]] else []) ++
    operation.routeTexts .null ++ operation.routeTexts .comparison ++
    operation.routeTexts .membership

/-- The properties inside the pattern; no braces without any. -/
def patternText (operation : Operation) : String :=
  if operation.routeTexts .pattern = [] then ""
  else "\x7b" ++ ", ".intercalate (operation.routeTexts .pattern) ++ "\x7d"

/-- The WHERE clause; nothing without conditions. -/
def whereText (operation : Operation) : String :=
  if operation.conditionTexts = [] then ""
  else "WHERE " ++ " AND ".intercalate operation.conditionTexts ++ " "

/-- The text of a node query in front of RETURN. -/
def searchText (operation : Operation) : String :=
  "MATCH (" ++ sanitize operation.variableName ++ ":" ++ quote operation.typeName ++ " " ++
    operation.patternText ++ ") " ++ operation.whereText

/-- A route that says one thing of each argument. -/
theorem routeTexts_eq_map {operation : Operation} {route : Route} {text : Argument → String}
    (h : ∀ argument, route.texts (sanitize operation.variableName) argument = [text argument]) :
    operation.routeTexts route = (operation.routed route).map text := by
  rw [routeTexts, funext h]
  exact List.map_eq_flatMap.symm

theorem whereText_eq_empty_iff (operation : Operation) :
    operation.whereText = "" ↔ operation.internalId = none ∧
      operation.routeTexts .null = [] ∧ operation.routeTexts .comparison = [] ∧
      operation.routeTexts .membership = [] := by
  have empty : operation.whereText = "" ↔ operation.conditionTexts = [] := by
    unfold whereText
    split
    · simp [*]
    · simp [*]
  rw [empty, conditionTexts]
  cases operation.internalId <;> simp

/-- With different names no name is on two routes. -/
theorem route_eq_of_mem {operation : Operation} {route route' : Route} {name : String}
    (distinct : (operation.arguments.map Argument.name).Nodup)
    (h : name ∈ (operation.routed route).map Argument.name)
    (h' : name ∈ (operation.routed route').map Argument.name) : route = route' := by
  obtain ⟨argument, hargument, rfl⟩ := List.mem_map.mp h
  obtain ⟨other, hother, hname⟩ := List.mem_map.mp h'
  obtain ⟨hmem, htakes⟩ := List.mem_filter.mp hargument
  obtain ⟨hmem', htakes'⟩ := List.mem_filter.mp hother
  obtain rfl := Argument.eq_of_name_eq distinct hmem' hmem hname
  exact Route.eq_of_takes htakes htakes'

end Operation

section Distinct

variable {operation : Operation} (distinct : (operation.arguments.map Argument.name).Nodup)

include distinct

/-- The names of the values that are not null and pass a test. -/
theorem Parameters.names_filter_valueEntries {keep : String → Json → Bool} {route : Route}
    (h : ∀ argument ∈ operation.arguments,
      route.takes argument = argument.value.any fun value => !value.isNull && keep argument.name value) :
    ((Bag.names (valueEntries operation.arguments)).filter fun name =>
        (last? name (valueEntries operation.arguments)).any (keep name)) =
      (operation.routed route).map Argument.name := by
  have nodup : ((valueEntries operation.arguments).map Prod.fst).Nodup :=
    nodup_filter_suppliedEntries distinct _
  have both : (valueEntries operation.arguments).filter (fun entry => keep entry.1 entry.2) =
      (suppliedEntries operation.arguments).filter fun entry =>
        !entry.2.isNull && keep entry.1 entry.2 := by
    rw [valueEntries, List.filter_filter]
    exact List.filter_congr fun entry _ => Bool.and_comm ..
  rw [← Bag.keys_filter_ofList, Bag.ofList_of_nodup nodup]
  refine (congrArg (List.map Prod.fst) both).trans ?_
  exact @names_filter_suppliedEntries (fun name value => !value.isNull && keep name value)
    route.takes operation.arguments h

namespace Operation

theorem patternNames_eq :
    operation.patternNames = (operation.routed .pattern).map Argument.name := by
  refine Parameters.names_filter_valueEntries distinct fun argument hmem => ?_
  rw [Argument.any_timed distinct hmem, Route.takes]
  cases argument.value <;> cases argument.type.timed? <;> simp

theorem listNames_eq :
    operation.listNames = (operation.routed .membership).map Argument.name := by
  refine Parameters.names_filter_valueEntries distinct fun argument _ => ?_
  rw [Route.takes]
  cases argument.value with
  | none => rfl
  | some value => cases value <;> rfl

theorem nullNames_eq : Bag.names (nullEntries operation.arguments) =
    (operation.routed .null).map Argument.name := by
  have nodup : ((nullEntries operation.arguments).map Prod.fst).Nodup :=
    Parameters.nodup_filter_suppliedEntries distinct _
  rw [Bag.names_of_nodup nodup]
  exact @Parameters.names_filter_suppliedEntries (fun _ value => value.isNull) (Route.takes .null)
    operation.arguments fun _ _ => rfl

/-- What is compared of an argument. -/
theorem map_spelled_comparisons {argument : Argument} (hmem : argument ∈ operation.arguments) :
    ((last? argument.name (valueEntries operation.arguments)).elim []
        (argument.type.comparisons argument.name none)).map (·.spelled operation.variableName) =
      if Route.takes .comparison argument then
        Route.texts (sanitize operation.variableName) .comparison argument else [] := by
  rw [Parameters.last?_valueEntries distinct hmem]
  obtain ⟨name, type, value⟩ := argument
  simp only [Route.takes, Route.texts]
  cases value with
  | none => simp
  | some value =>
    cases value with
    | null | bool | number | string | array =>
      simp [TypeRef.comparisons, Json.isNull, Json.isObject, Option.filter]
    | object components =>
      rcases Option.eq_none_or_eq_some type.timed? with hkind | ⟨kind, hkind⟩
      · simp [TypeRef.comparisons, Json.isNull, Json.isObject, Option.filter, hkind]
      · have given : (some (Json.object components)).filter (!·.isNull) =
            some (.object components) := rfl
        simp only [given, Option.elim_some, TypeRef.comparisons, hkind, Option.any_some,
          Json.isObject, Option.isSome_some, Bool.and_self, if_true, Route.comparisonTexts]
        split
        · simp [Predicate.spelled]
        · simp [Predicate.spelled, Function.comp_def]

/-- The comparisons follow the declarations. -/
theorem map_spelled_flatMap (arguments : List Argument)
    (declared : ∀ argument ∈ arguments, argument ∈ operation.arguments) :
    (arguments.flatMap fun argument =>
      (last? argument.name (valueEntries operation.arguments)).elim []
        (argument.type.comparisons argument.name none)).map (·.spelled operation.variableName) =
      (arguments.filter (Route.takes .comparison)).flatMap
        (Route.texts (sanitize operation.variableName) .comparison) := by
  induction arguments with
  | nil => rfl
  | cons argument rest ih =>
    have tail := ih fun other hother => declared other (List.mem_cons_of_mem argument hother)
    have here := map_spelled_comparisons distinct (declared argument List.mem_cons_self)
    rw [List.flatMap_cons, List.map_append, here, tail, List.filter_cons]
    split <;> simp

/-- The conditions are what the internal id and three of the routes say. -/
theorem map_spelled_conditions :
    operation.conditions.map (·.spelled operation.variableName) = operation.conditionTexts := by
  have nulls : ((Bag.names (nullEntries operation.arguments)).map Predicate.isNull).map
      (·.spelled operation.variableName) = operation.routeTexts .null := by
    rw [nullNames_eq distinct, routeTexts_eq_map fun _ => rfl, List.map_map, List.map_map]
    rfl
  have members : (operation.listNames.map Predicate.memberOf).map
      (·.spelled operation.variableName) = operation.routeTexts .membership := by
    rw [listNames_eq distinct, routeTexts_eq_map fun _ => rfl, List.map_map, List.map_map]
    rfl
  have comparisons : (operation.arguments.flatMap fun argument =>
      (last? argument.name (valueEntries operation.arguments)).elim []
        (argument.type.comparisons argument.name none)).map (·.spelled operation.variableName) =
      operation.routeTexts .comparison :=
    map_spelled_flatMap distinct operation.arguments fun _ => id
  have internalId : (if operation.internalId.isSome then [Predicate.internalId] else []).map
      (·.spelled operation.variableName) =
      if operation.internalId.isSome then
        ["ID(" ++ sanitize operation.variableName ++ ") = " ++ reference ["_id"]] else [] := by
    cases operation.internalId <;> rfl
  simp only [conditions, conditionTexts, List.map_append, internalId, nulls, comparisons, members]

/-- The search as a text. -/
theorem text_search : (Search.ofOperation operation).text operation.variableName operation.typeName =
    operation.searchText := by
  have pattern : operation.patternNames.map Search.matched = operation.routeTexts .pattern := by
    rw [patternNames_eq distinct, routeTexts_eq_map fun _ => rfl, List.map_map]
    rfl
  unfold Search.text Search.ofOperation searchText patternText whereText
  simp only [pattern, map_spelled_conditions distinct]

end Operation

end Distinct

namespace Synthesizer

/-- In front of RETURN a node query says what the four routes say of the arguments, and the internal
id. No name is on two routes; a supplied argument is on none only if it is a single value of temporal
type; and without conditions there is no WHERE. -/
theorem arguments_routed (synthesizer : Synthesizer) {operation : Operation} {query : Query}
    (distinct : (operation.arguments.map Argument.name).Nodup)
    (h : (synthesizer.synthesizeAs .nodeQuery operation).result = .ok query) :
    (∃ rest, query.text = operation.searchText ++ "RETURN " ++ rest) ∧
    (∀ route route' : Route, ∀ name ∈ (operation.routed route).map Argument.name,
      name ∈ (operation.routed route').map Argument.name → route = route') ∧
    (∀ argument ∈ operation.arguments, ∀ value, argument.value = some value →
      ((∃ route, argument ∈ operation.routed route) ↔
        ¬ (argument.type.timed?.isSome = true ∧ value.isNull = false ∧
          value.isArray = false ∧ value.isObject = false))) ∧
    (operation.whereText = "" ↔ operation.internalId = none ∧ operation.routeTexts .null = [] ∧
      operation.routeTexts .comparison = [] ∧ operation.routeTexts .membership = []) := by
  obtain ⟨plan, projection, hplan, _, rfl⟩ := synthesizeAs_eq_ok h
  obtain rfl : Plan.nodeQuery operation = plan := Except.ok.inj hplan
  obtain ⟨rest, htext⟩ := Plan.render_nodeQuery operation projection.fragment
  rw [Operation.text_search distinct] at htext
  refine ⟨⟨rest, htext⟩, ?_, ?_, operation.whereText_eq_empty_iff⟩
  · intro route route' name hname hname'
    exact Operation.route_eq_of_mem distinct hname hname'
  · intro argument hmem value hvalue
    rw [← Route.exists_takes_iff hvalue]
    simp [Operation.routed, hmem]

/-- Films by arguments that meet every branch: lists and null under a temporal type, an object under
another one. -/
def searched : Operation :=
  { Operation.new .query "Movie" "Movie" with
    internalId := some 7
    arguments :=
      [⟨"years", .listOf "_Neo4jDateInput", some (.array [.ofInt 1995])⟩,
       ⟨"seen", .named "_Neo4jDateInput", some (.object [("year", .ofInt 1995), ("day", .null)])⟩,
       ⟨"made", .named "_Neo4jDateInput", some (.object [("formatted", .string "1994-01-02")])⟩,
       ⟨"shown", .named "_Neo4jDateInput", some .null⟩,
       ⟨"place", .named "Point", some (.object [("x", .ofInt 1)])⟩,
       ⟨"lost", .named "_Neo4jDateInput", some (.string "1995")⟩,
       ⟨"rated", .named "Int", none⟩,
       ⟨"title", .named "String", some (.string "Heat")⟩]
    selections := [⟨"title", none, []⟩] }

theorem searched_routed :
    (searched.arguments.map Argument.name).Nodup ∧
    searched.routeTexts .pattern = ["place:$place", "title:$title"] ∧
    searched.conditionTexts = ["ID(movie) = $_id", "movie.shown IS NULL",
      "movie.seen.year = $seen.year", "movie.made = date($made.formatted)",
      "movie.years IN $years"] ∧
    ∃ query, ((Synthesizer.mk .default Projection.flat .null).synthesizeAs .nodeQuery
        searched).result = .ok query ∧
      (∃ rest, query.text = searched.searchText ++ "RETURN " ++ rest) ∧
      (searched.whereText = "" ↔ searched.internalId = none ∧ searched.routeTexts .null = [] ∧
        searched.routeTexts .comparison = [] ∧ searched.routeTexts .membership = []) := by
  have distinct : (searched.arguments.map Argument.name).Nodup := by decide
  obtain ⟨text, -, -, empty⟩ := arguments_routed (Synthesizer.mk .default Projection.flat .null)
    distinct rfl
  exact ⟨distinct, by decide +kernel, by decide +kernel, _, rfl, text, empty⟩

end Synthesizer

end CypherSynthesis
