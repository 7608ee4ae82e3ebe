import CypherSynthesis.Proofs.ArgumentOrder
import CypherSynthesis.Proofs.Failure
import CypherSynthesis.Proofs.ProjectionEntries

/-!
What a custom statement is handed. A statement of the schema gets its arguments in a map that gives
each name the value of the parameter of that name: arguments in the order of their declaration, then
pagination, then the request-wide map. Queries and mutations call different procedures on the same
statement. A query leaves out what was supplied as null and a mutation does not, so that the two hand
over the same names if and only if nothing was supplied as null.
-/

namespace CypherSynthesis

open Cypher (Fragment Token)

namespace Cypher

/-- The entries of a map behind its opening brace: each key with the parameter whose value it gets. -/
def readEntries : List Token → Option (List (String × String))
  | key :: .mark ':' :: .mark '$' :: parameter :: .mark c :: rest => do
    let entry := (← key.name?, ← parameter.name?)
    if c = ',' then return entry :: (← readEntries rest)
    else if c = '\x7d' ∧ rest = [] then return [entry]
    else none
  | _ => none

/-- The entries of a map that has parameters for its values. -/
def readMap? : List Token → Option (List (String × String))
  | .mark '\x7b' :: rest => if rest = [.mark '\x7d'] then some [] else readEntries rest
  | _ => none

theorem readMap?_of_readEntries {tokens : List Token} {entries : List (String × String)}
    (h : readEntries tokens = some entries) :
    readMap? (.mark '\x7b' :: tokens) = some entries := by
  rw [readMap?, if_neg, h]
  rintro rfl
  simp [readEntries] at h

end Cypher

namespace Parameters

/-- The name that an entry of a map literal has. -/
def entryName (key : Option String) : String :=
  key.getD globalsKey

theorem tokens_entryFragment (key : Option String) :
    (entryFragment key).tokens =
      [.ofName (entryName key), .mark ':', .mark '$', .ofName (entryName key)] := by
  cases key <;> rfl

theorem entryNames_mapEntries (keys : List String) (operation : Operation) :
    (mapEntries keys operation.globals?.isSome).map entryName =
      keys ++ operation.globalEntries.map Prod.fst := by
  unfold mapEntries Operation.globals? Operation.globalEntries
  cases operation.cypherParams with
  | none => simp [entryName, Function.comp_def]
  | some params =>
    cases hempty : params.entries.isEmpty <;>
      simp [entryName, Function.comp_def, Option.filter, Bag.isEmpty, hempty, globalsKey]

/-- A map literal says what its entries say. -/
theorem readEntries_listed (first : Option String) (rest : List (Option String)) :
    Cypher.readEntries
        ((Fragment.listed ((first :: rest).map entryFragment)).tokens ++ [.mark '\x7d']) =
      some (((first :: rest).map entryName).map fun name => (name, name)) := by
  induction rest generalizing first with
  | nil =>
    simp [Fragment.listed, Fragment.joined, tokens_entryFragment, Cypher.readEntries]
  | cons next rest ih =>
    have split : (Fragment.listed ((first :: next :: rest).map entryFragment)).tokens =
        (entryFragment first).tokens ++ .mark ',' ::
          (Fragment.listed ((next :: rest).map entryFragment)).tokens := by
      simp only [Fragment.listed, List.map_cons, Fragment.joined, Fragment.tokens_append,
        List.append_assoc]
      rfl
    rw [split, tokens_entryFragment]
    simp only [List.cons_append, List.nil_append, Cypher.readEntries, Token.name?_ofName, ih next,
      Option.bind_eq_bind, Option.bind_some, if_true]
    rfl

end Parameters

/-- The text is a map that gives each name the value of the parameter of that name. Without names, and
only then, it is what stands for a map without entries. -/
structure HandsOver (text empty : String) (names : List String) : Prop where
  empty_iff : text = empty ↔ names = []
  entries : names ≠ [] → ∃ tokens, Cypher.lex text = some tokens ∧
    Cypher.readMap? tokens = some (names.map fun name => (name, name))

/-- A call of a procedure on a custom statement. -/
structure Call where
  opening : String
  closing : String
  /-- What stands for a map without entries. -/
  empty : String

namespace Call

def ofQuery : Call :=
  ⟨"WITH apoc.cypher.runFirstColumn(", ", True) AS x UNWIND x AS ", "null"⟩

def ofMutation : Call :=
  ⟨"CALL apoc.cypher.doIt(",
    ") YIELD value\nWITH apoc.map.values(value, [keys(value)[0]])[0] AS ", "\x7b\x7d"⟩

/-- The query begins with the call, on the statement and on the parameters of the given names. -/
def Opens (call : Call) (query : Query) (statement : String) (names : List String) : Prop :=
  ∃ passed rest, query.text =
      call.opening ++ Cypher.literal statement ++ ", " ++ passed ++ call.closing ++ rest ∧
    HandsOver passed call.empty names

end Call

namespace Plan

open Parameters

theorem handsOver_customArguments (operation : Operation) (bag : Bag) {empty : String}
    (hempty : ((Cypher.lex empty).bind Cypher.readMap?).getD [] = []) :
    HandsOver (customArguments operation bag empty).render empty
      (bag.keys ++ operation.globalEntries.map Prod.fst) := by
  have spaced := (spells_mapLiteral bag.keys operation.globals?.isSome).spaced
  have members : (Group.ofMap bag.keys operation.globals?.isSome).members =
      (mapEntries bag.keys operation.globals?.isSome).map entryFragment := rfl
  rw [mapLiteral_eq_group, members] at spaced
  rw [customArguments_eq_group, members, ← entryNames_mapEntries]
  cases hentries : mapEntries bag.keys operation.globals?.isSome with
  | nil => exact ⟨by simp [Cypher.Piece.render], fun hnames => absurd rfl hnames⟩
  | cons first rest =>
    let literal := (Fragment.listed ((first :: rest).map entryFragment)).braced
    rw [hentries] at spaced
    have lexed : Cypher.lex literal.render = some literal.tokens := Fragment.lex_render spaced
    have read := Cypher.readMap?_of_readEntries (readEntries_listed first rest)
    rw [← List.cons_append, ← Projection.tokens_braced] at read
    have named : (first :: rest).map entryName ≠ [] := by simp
    refine ⟨⟨fun htext => ?_, fun hnames => absurd hnames named⟩,
      fun _ => ⟨literal.tokens, lexed, read⟩⟩
    -- What stands for an empty map is not read as a map with entries.
    have same : Cypher.lex empty = some literal.tokens := htext ▸ lexed
    rw [same, Option.bind_some, read] at hempty
    exact absurd (List.map_eq_nil_iff.mp hempty) named

end Plan

/-- The names that a custom statement is handed, where an argument counts by its value. -/
def Operation.handedNames (operation : Operation) (counts : Json → Bool) : List String :=
  (operation.arguments.filter (·.value.any counts)).map Argument.name ++
    operation.pageEntries.map Prod.fst ++ operation.globalEntries.map Prod.fst

namespace Parameters

theorem nodup_pageNames (operation : Operation) : (operation.pageEntries.map Prod.fst).Nodup := by
  unfold Operation.pageEntries
  cases operation.first <;> cases operation.offset <;> simp

theorem mem_pageNames {operation : Operation} {name : String}
    (h : name ∈ operation.pageEntries.map Prod.fst) : name = firstKey ∨ name = offsetKey := by
  unfold Operation.pageEntries at h
  cases hfirst : operation.first <;> cases hoffset : operation.offset <;>
    simp_all [firstKey, offsetKey]

/-- Pagination goes behind arguments of other names. -/
theorem keys_insertPagination_ofList {entries : List (String × Json)} (operation : Operation)
    (distinct : (entries.map Prod.fst).Nodup)
    (unpaged : ∀ name ∈ entries.map Prod.fst, name ≠ firstKey ∧ name ≠ offsetKey) :
    (insertPagination (.ofList entries) operation).keys =
      entries.map Prod.fst ++ operation.pageEntries.map Prod.fst := by
  have nodup : ((entries ++ operation.pageEntries).map Prod.fst).Nodup := by
    rw [List.map_append, List.nodup_append]
    refine ⟨distinct, nodup_pageNames operation, ?_⟩
    rintro name hname _ hpage rfl
    rcases mem_pageNames hpage with hfirst | hoffset
    · exact (unpaged name hname).1 hfirst
    · exact (unpaged name hname).2 hoffset
  have paged : insertPagination (.ofList entries) operation =
      .ofList (entries ++ operation.pageEntries) :=
    (insertPagination_eq _ operation).trans (Bag.insertAll_append _ _ _)
  rw [paged, Bag.keys_ofList, Bag.names_of_nodup nodup, List.map_append]

/-- What is bound for a custom statement, where an argument counts by its value. -/
theorem keys_handed {operation : Operation} (counts : Json → Bool)
    (distinct : (operation.arguments.map Argument.name).Nodup)
    (unpaged : ∀ argument ∈ operation.arguments,
      argument.name ≠ firstKey ∧ argument.name ≠ offsetKey) :
    (insertPagination (.ofList ((suppliedEntries operation.arguments).filter
        fun entry => counts entry.2)) operation).keys ++ operation.globalEntries.map Prod.fst =
      operation.handedNames counts := by
  have names := @names_filter_suppliedEntries (fun _ value => counts value)
    (fun argument => argument.value.any counts) operation.arguments fun _ _ => rfl
  rw [keys_insertPagination_ofList operation, names]
  · rfl
  · rw [names]
    exact (List.filter_sublist.map Argument.name).nodup distinct
  · rw [names]
    intro name hname
    obtain ⟨argument, hargument, rfl⟩ := List.mem_map.mp hname
    exact unpaged argument (List.mem_filter.mp hargument).1

end Parameters

namespace Plan

open Parameters

theorem customStatement_of_directive {settings : Settings} {operation : Operation}
    {directive : Directive} {statement : String}
    (hdirective : operation.directive? settings.customDirective = some directive)
    (hstatement : directive.arguments.get? settings.statementArgument = some (.string statement)) :
    customStatement settings operation = .ok statement := by
  have found : directive.string? settings.statementArgument = some statement := by
    rw [Directive.string?, hstatement]
  simp only [customStatement, hdirective, Option.bind_some, found]

variable {operation : Operation} (statement : String)
  (distinct : (operation.arguments.map Argument.name).Nodup)
  (unpaged : ∀ argument ∈ operation.arguments,
    argument.name ≠ firstKey ∧ argument.name ≠ offsetKey)

include distinct unpaged

/-- A query hands over the arguments that are not null. -/
theorem customQueryOf_opens (projection : Projection) :
    Call.ofQuery.Opens ((customQueryOf operation statement).query operation projection) statement
      (operation.handedNames (!·.isNull)) := by
  have values : (Filter.ofArguments operation.arguments).values =
      .ofList (valueEntries operation.arguments) := by rw [Filter.ofArguments_eq]
  have keys := keys_handed (!·.isNull) distinct unpaged
  have handed := handsOver_customArguments operation
    (insertPagination (Filter.ofArguments operation.arguments).values operation)
    (show ((Cypher.lex "null").bind Cypher.readMap?).getD [] = [] by decide)
  rw [values] at handed
  let node : Cypher.Piece := .var operation.variableName
  let opening : Fragment := [node, .fixed " RETURN ", node, .fixed " "]
  let paging : Fragment := .fixed " " :: Paging.skipLimit operation
  refine ⟨_, (opening ++ customProjection operation projection.fragment [] ++ paging).render, ?_,
    keys ▸ handed⟩
  simp [Query.text, Plan.query, customQueryOf, values, Cypher.Piece.render, Call.ofQuery,
    String.append_assoc, opening, paging, node]

/-- A mutation hands over all arguments that are supplied. -/
theorem customMutationOf_opens (projection : Projection) :
    Call.ofMutation.Opens ((customMutationOf operation statement).query operation projection)
      statement (operation.handedNames fun _ => true) := by
  have all : (suppliedEntries operation.arguments).filter (fun _ => true) =
      suppliedEntries operation.arguments := List.filter_eq_self.mpr fun _ _ => rfl
  have keys := keys_handed (fun _ => true) distinct unpaged
  have handed := handsOver_customArguments operation (ofMutation operation)
    (show ((Cypher.lex "\x7b\x7d").bind Cypher.readMap?).getD [] = [] by decide)
  rw [all] at keys
  let node : Cypher.Piece := .var operation.variableName
  let opening : Fragment := [node, .fixed "\nRETURN ", node, .fixed " "]
  let paging : Fragment := .fixed " " :: Paging.skipLimit operation
  refine ⟨_, (opening ++ customProjection operation projection.fragment paging).render, ?_,
    keys ▸ handed⟩
  simp [Query.text, Plan.query, customMutationOf, Cypher.Piece.render, Call.ofMutation,
    String.append_assoc, opening, paging, node]

end Plan

/-- Nulls are all that counts for one of the two and not for the other. -/
theorem Operation.handedNames_eq_iff (operation : Operation) :
    operation.handedNames (fun _ => true) = operation.handedNames (!·.isNull) ↔
      ∀ argument ∈ operation.arguments, argument.value ≠ some .null := by
  unfold handedNames
  rw [List.append_cancel_right_eq, List.append_cancel_right_eq]
  constructor
  · intro names argument hmem hnull
    -- The arguments that are not null are some of the supplied ones, and as many.
    have some : operation.arguments.filter (·.value.any (!·.isNull)) =
        (operation.arguments.filter (·.value.any fun _ => true)).filter
          (·.value.any (!·.isNull)) := by
      rw [List.filter_filter]
      refine List.filter_congr fun other _ => ?_
      cases other.value <;> simp
    have lengths := congrArg List.length names
    rw [List.length_map, List.length_map, some, eq_comm, List.length_filter_eq_length_iff] at lengths
    have counted := lengths argument (List.mem_filter.mpr ⟨hmem, by simp [hnull]⟩)
    simp [hnull, Json.isNull] at counted
  · intro given
    refine congrArg (List.map Argument.name) (List.filter_congr fun argument hmem => ?_)
    have hvalue := given argument hmem
    cases hargument : argument.value with
    | none => rfl
    | some value => cases value <;> first | rfl | exact absurd hargument hvalue

namespace Synthesizer

/-- A custom statement is called with the same text on it by a query and a mutation, or both fail with
the same error. A query hands over the arguments that are not null and a mutation those that are
supplied; these are the same names unless an argument is null. -/
theorem custom_arguments_handed (synthesizer : Synthesizer) {operation : Operation}
    {directive : Directive} {statement : String}
    (hdirective : operation.directive? synthesizer.settings.customDirective = some directive)
    (hstatement : directive.arguments.get? synthesizer.settings.statementArgument =
      some (.string statement))
    (distinct : (operation.arguments.map Argument.name).Nodup)
    (unpaged : ∀ argument ∈ operation.arguments,
      argument.name ≠ "first" ∧ argument.name ≠ "offset") :
    Concur (fun query mutation =>
        Call.ofQuery.Opens query statement (operation.handedNames (!·.isNull)) ∧
        Call.ofMutation.Opens mutation statement (operation.handedNames fun _ => true))
      (synthesizer.synthesizeAs .customQuery operation).result
      (synthesizer.synthesizeAs .customMutation operation).result ∧
    (operation.handedNames (fun _ => true) = operation.handedNames (!·.isNull) ↔
      ∀ argument ∈ operation.arguments, argument.value ≠ some .null) := by
  refine ⟨?_, operation.handedNames_eq_iff⟩
  have custom := Plan.customStatement_of_directive hdirective hstatement
  have queryPlan : synthesizer.planned .customQuery operation =
      .ok (Plan.customQueryOf operation statement) := by
    change Plan.customQuery synthesizer.settings operation = _
    rw [Plan.customQuery, custom]
    rfl
  have mutationPlan : synthesizer.planned .customMutation operation =
      .ok (Plan.customMutationOf operation statement) := by
    change Plan.customMutation synthesizer.settings operation = _
    rw [Plan.customMutation, custom]
    rfl
  rw [result_synthesizeAs, result_synthesizeAs, queryPlan, mutationPlan]
  -- Both ask the projector for the same.
  change Concur _
    (synthesizer.projector ((Plan.customQueryOf operation statement).request operation) >>= _)
    (synthesizer.projector ((Plan.customMutationOf operation statement).request operation) >>= _)
  refine Concur.bind_eq rfl fun projection _ => .ok ?_
  exact ⟨Plan.customQueryOf_opens statement distinct unpaged projection,
    Plan.customMutationOf_opens statement distinct unpaged projection⟩

/-- A film is rated by a statement of the schema, with the given arguments. -/
def rating (arguments : List Argument) : Operation :=
  { Operation.new .mutation "rateMovie" "Movie" with
    arguments := arguments
    selections := [⟨"title", none, []⟩]
    directives := [⟨"cypher", { entries := [("statement", .string "RETURN $rating")] }⟩] }

theorem custom_arguments_handed_rating :
    let operation := { rating [⟨"title", .named "String", some (.string "Heat")⟩,
        ⟨"rating", .named "Float", some .null⟩, ⟨"critic", .named "String", none⟩] with
      first := some 5
      cypherParams := some { entries := [("user", .string "u")] } }
    let synthesizer : Synthesizer := ⟨.default, Projection.flat, .null⟩
    operation.directive? "cypher" =
      some ⟨"cypher", { entries := [("statement", .string "RETURN $rating")] }⟩ ∧
    (operation.arguments.map Argument.name).Nodup ∧
    (∀ argument ∈ operation.arguments, argument.name ≠ "first" ∧ argument.name ≠ "offset") ∧
    Concur (fun query mutation =>
        Call.ofQuery.Opens query "RETURN $rating" ["title", "first", "cypherParams"] ∧
        Call.ofMutation.Opens mutation "RETURN $rating"
          ["title", "rating", "first", "cypherParams"])
      (synthesizer.synthesizeAs .customQuery operation).result
      (synthesizer.synthesizeAs .customMutation operation).result := by
  intro operation synthesizer
  have distinct : (operation.arguments.map Argument.name).Nodup := by decide
  have unpaged : ∀ argument ∈ operation.arguments,
      argument.name ≠ "first" ∧ argument.name ≠ "offset" := by decide
  exact ⟨rfl, distinct, unpaged,
    (custom_arguments_handed synthesizer rfl rfl distinct unpaged).1⟩

/-- A rating that is null is not an argument to be handed over, but a mutation does hand it over. -/
theorem null_rating_handed :
    let operation := rating [⟨"rating", .named "Float", some .null⟩]
    operation.handedNames (!·.isNull) = [] ∧
    ∃ query, ((Synthesizer.mk .default Projection.flat .null).synthesize operation).result =
        .ok query ∧
      query.text = "CALL apoc.cypher.doIt(\"RETURN $rating\", \x7brating:$rating\x7d) YIELD value\n" ++
        "WITH apoc.map.values(value, [keys(value)[0]])[0] AS movie\n" ++
        "RETURN movie \x7b.title\x7d AS movie " ∧
      ¬ Call.ofMutation.Opens query "RETURN $rating" [] := by
  let statement : Fragment := [.fixed "CALL apoc.cypher.doIt(", .literal "RETURN $rating",
    .fixed ", ", .fixed "\x7b", .name "rating", .fixed ":", .param ["rating"], .fixed "\x7d",
    .fixed ") YIELD value\nWITH apoc.map.values(value, [keys(value)[0]])[0] AS ", .var "movie",
    .fixed "\nRETURN ", .var "movie", .fixed " ", .fixed "\x7b", .fixed ".", .name "title",
    .fixed "\x7d", .fixed " AS ", .var "movie", .fixed " "]
  have literal : Cypher.literal "RETURN $rating" = "\"RETURN $rating\"" := by decide
  have rating : Cypher.quote "rating" = "rating" := by decide
  have parameter : Cypher.reference ["rating"] = "$rating" := by decide
  have movie : Cypher.sanitize "movie" = "movie" := by decide
  have title : Cypher.quote "title" = "title" := by decide
  refine ⟨by decide, ⟨statement, { entries := [("rating", .null)] }⟩, rfl, ?_, ?_⟩
  · change statement.render = _
    simp only [statement, Fragment.render_cons, Fragment.render_nil, Cypher.Piece.render, literal,
      rating, parameter, movie, title]
    rfl
  · rintro ⟨passed, rest, htext, handed⟩
    obtain rfl := handed.empty_iff.mpr rfl
    change statement.render = _ at htext
    have empty : Call.ofMutation.empty = "\x7b" ++ "\x7d" := rfl
    rw [empty, literal] at htext
    -- The two texts part behind the brace: one closes the map, the other has a name in it.
    simp only [statement, Fragment.render_cons, Cypher.Piece.render, literal, rating,
      Call.ofMutation, String.append_assoc, String.append_right_inj] at htext
    have first := congrArg (fun text : String => text.toList.head?) htext
    simp [String.toList_append] at first

end Synthesizer

end CypherSynthesis
