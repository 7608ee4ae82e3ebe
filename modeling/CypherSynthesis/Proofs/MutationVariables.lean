import CypherSynthesis.Proofs.ClauseText
import CypherSynthesis.Proofs.EntryList
import CypherSynthesis.Proofs.Scopes

/-!
The variables of mutations. They are made from type names by lower-casing, suffixes and sanitizing,
which lets different names come to the same. Main statement: in whatever names, the two ends of a
relationship and the relationship are three variables, and so are the scope and the two ends where a
deleted relationship is returned; a node to delete has another variable than what is returned of it;
and the ends of a relationship are projected from the variables that they have where it is returned.
-/

namespace CypherSynthesis

open Cypher (Fragment Token Step quote reference sanitize mentioned mentionedFrom)

namespace Cypher

theorem length_sanitize (name : String) :
    name.toList.length ≤ (sanitize name).toList.length ∧
      (sanitize name).toList.length ≤ name.toList.length + 1 := by
  rw [sanitize, String.toList_ofList, plainWord]
  split <;> simp

/-- Sanitizing adds one character at most. -/
theorem sanitize_ne_of_length {name name' : String}
    (h : name.toList.length + 1 < name'.toList.length) : sanitize name ≠ sanitize name' := by
  intro same
  have upper := (length_sanitize name).2
  have lower := (length_sanitize name').1
  rw [same] at upper
  omega

theorem head?_sanitize (name : String) : (sanitize ("_" ++ name)).toList.head? = some '_' := by
  rw [sanitize, String.toList_ofList, plainWord]
  split
  · rfl
  · rw [String.toList_append]
    rfl

end Cypher

namespace Link

def sourceNode (link : Link) : String :=
  Text.lowerFirst link.sourceType ++ "_from"

def targetNode (link : Link) : String :=
  Text.lowerFirst link.targetType ++ "_to"

/-- The variables of the ends while the relationship is made or found. -/
def source (link : Link) : String :=
  sanitize link.sourceNode

def target (link : Link) : String :=
  sanitize link.targetNode

/-- The variable of a new relationship. -/
def created (link : Link) : String :=
  sanitize (Template.relationName link)

/-- The variable of a relationship to delete. -/
def deleted (link : Link) : String :=
  sanitize (link.sourceNode ++ link.targetNode)

/-- The variables of the ends behind a deletion. -/
def sourceRoot (link : Link) : String :=
  sanitize ("_" ++ link.sourceNode)

def targetRoot (link : Link) : String :=
  sanitize ("_" ++ link.targetNode)

variable (link : Link)

theorem source_ne_target : link.source ≠ link.target := by
  unfold source sourceNode target targetNode
  exact Cypher.sanitize_ne_sanitize (by decide : "_from".toList.getLast? = some 'm')
    (by decide : "_to".toList.getLast? = some 'o') (by decide)

theorem created_nodup : [link.source, link.target, link.created].Nodup := by
  have relation : "_relation".toList.getLast? = some 'n' := by decide
  have source : link.source ≠ link.created :=
    Cypher.sanitize_ne_sanitize (by decide : "_from".toList.getLast? = some 'm') relation (by decide)
  have target : link.target ≠ link.created :=
    Cypher.sanitize_ne_sanitize (by decide : "_to".toList.getLast? = some 'o') relation (by decide)
  simp [source, target, link.source_ne_target]

/-- The deleted relationship has the end of the target's variable, but it is longer. -/
theorem deleted_nodup : [link.source, link.target, link.deleted].Nodup := by
  have suffix : "_to".toList.getLast? = some 'o' := by decide
  have source : link.source ≠ link.deleted := by
    unfold Link.source sourceNode deleted targetNode
    rw [← String.append_assoc]
    exact Cypher.sanitize_ne_sanitize (by decide : "_from".toList.getLast? = some 'm') suffix
      (by decide)
  have target : link.target ≠ link.deleted := by
    refine Cypher.sanitize_ne_of_length ?_
    have five : "_from".toList.length = 5 := by decide
    rw [String.toList_append, List.length_append, sourceNode, String.toList_append,
      List.length_append]
    omega
  simp [source, target, link.source_ne_target]

/-- Behind a deletion the variables of the ends begin with an underscore. -/
theorem roots_nodup : ["scope", link.sourceRoot, link.targetRoot].Nodup := by
  have other (name : String) : "scope" ≠ sanitize ("_" ++ name) := by
    intro same
    have first := Cypher.head?_sanitize name
    rw [← same] at first
    exact absurd first (by decide)
  have apart : link.sourceRoot ≠ link.targetRoot := by
    unfold sourceRoot targetRoot sourceNode targetNode
    rw [← String.append_assoc, ← String.append_assoc]
    exact Cypher.sanitize_ne_sanitize (by decide : "_from".toList.getLast? = some 'm')
      (by decide : "_to".toList.getLast? = some 'o') (by decide)
  have source : "scope" ≠ link.sourceRoot := other _
  have target : "scope" ≠ link.targetRoot := other _
  simp [source, target, apart]

/-- The clauses of a new relationship, with what they say of the nodes and the relationship. -/
def creation (first second relationship : String) : List Step :=
  [.find link.source first, .find link.target second,
    .link "CREATE" link.source link.created relationship link.target]

/-- The clauses that delete a relationship. -/
def deletion (first second relationship : String) : List Step :=
  [.find link.source first, .find link.target second,
    .link "OPTIONAL MATCH" link.source link.deleted relationship link.target,
    .erase "DELETE" link.deleted]

/-- The clause behind a deletion: only the ends are carried on. -/
def handover : Step :=
  .carry [.value "COUNT(*)" "scope", .copy link.source link.sourceRoot,
    .copy link.target link.targetRoot]

end Link

namespace Operation

/-- The variable of a node to delete. -/
def doomed (operation : Operation) : String :=
  sanitize (operation.variableName ++ "_toDelete")

theorem doomed_ne (operation : Operation) : operation.doomed ≠ sanitize operation.variableName := by
  refine Ne.symm (Cypher.sanitize_ne_of_length ?_)
  have nine : "_toDelete".toList.length = 9 := by decide
  rw [String.toList_append, List.length_append]
  omega

/-- The clauses that delete a node and keep what is returned of it. -/
def deletion (operation : Operation) (description body : String) : List Step :=
  let node := sanitize operation.variableName
  [.find node description, .carry [.copy node operation.doomed, .projection node body node],
    .erase "DETACH DELETE" operation.doomed]

end Operation

namespace Cypher.Step

/-- Two nodes are found and linked. -/
theorem run_linked {source target relationship : String}
    (nodup : [source, target, relationship].Nodup) (first second keyword description : String) :
    run [] [.find source first, .find target second,
      .link keyword source relationship description target] =
        some [source, target, relationship] := by
  have one : [source].Nodup := nodup.sublist (by simp)
  have two : [source, target].Nodup := nodup.sublist (by simp)
  rw [run_cons_of_next _ (next_eq_some_iff.mpr ⟨by simp [used], one, rfl⟩),
    run_cons_of_next _ (next_eq_some_iff.mpr ⟨by simp [used], two, rfl⟩),
    run_cons_of_next _ (next_eq_some_iff.mpr ⟨by simp [used], nodup, rfl⟩)]
  rfl

end Cypher.Step

namespace Link

variable (link : Link) (first second relationship : String)

theorem run_creation : Step.run [] (link.creation first second relationship) =
    some [link.source, link.target, link.created] :=
  Step.run_linked link.created_nodup first second "CREATE" relationship

theorem run_deletion : Step.run [] (link.deletion first second relationship) =
    some [link.source, link.target, link.deleted] := by
  have linked := Step.run_linked link.deleted_nodup first second "OPTIONAL MATCH" relationship
  have erased : (Step.erase "DELETE" link.deleted).next [link.source, link.target, link.deleted] =
      some [link.source, link.target, link.deleted] :=
    Step.next_eq_some_iff.mpr ⟨by simp [Step.used], link.deleted_nodup, rfl⟩
  have parts : link.deletion first second relationship =
      [.find link.source first, .find link.target second,
        .link "OPTIONAL MATCH" link.source link.deleted relationship link.target] ++
      [.erase "DELETE" link.deleted] := rfl
  rw [parts, Step.run_append, linked, Option.bind_some, Step.run_cons_of_next [] erased, Step.run]

theorem run_handover : Step.run [] (link.deletion first second relationship ++ [link.handover]) =
    some ["scope", link.sourceRoot, link.targetRoot] := by
  have used : link.handover.used = [link.source, link.target] := rfl
  have carried : link.handover.next [link.source, link.target, link.deleted] =
      some ["scope", link.sourceRoot, link.targetRoot] :=
    Step.next_eq_some_iff.mpr ⟨by simp [used], link.roots_nodup, rfl⟩
  rw [Step.run_append, run_deletion, Option.bind_some, Step.run_cons_of_next [] carried]
  rfl

end Link

theorem Operation.run_deletion (operation : Operation) (description body : String) :
    Step.run [] (operation.deletion description body) =
      some [operation.doomed, sanitize operation.variableName] := by
  have apart : [operation.doomed, sanitize operation.variableName].Nodup := by
    simp [operation.doomed_ne]
  unfold deletion
  rw [Step.run_cons_of_next _ (Step.next_eq_some_iff.mpr
      ⟨by simp [Step.used], (by simp : [sanitize operation.variableName].Nodup), rfl⟩),
    Step.run_cons_of_next _ (Step.next_eq_some_iff.mpr
      ⟨by simp [Step.used, Cypher.Carried.source?], apart, rfl⟩),
    Step.run_cons_of_next _ (Step.next_eq_some_iff.mpr ⟨by simp [Step.used], apart, rfl⟩)]
  rfl

/-- The entry of a selection around a relationship names no variables but those of the ends, and if it
is the entry of an end, it names the variable of this end. -/
def NamesEnds (source target : String) (selection : Selection) (entry : List Token) : Prop :=
  (∀ name ∈ mentioned entry, name = source ∨ name = target) ∧
    (selection.isLeaf = false →
      selection.name = Projection.sourceField ∧ (∀ name, name ∈ mentioned entry ↔ name = source) ∨
      selection.name = Projection.targetField ∧ (∀ name, name ∈ mentioned entry ↔ name = target))

/-- A projection of the selections that names the variables of the ends. -/
def ProjectsEnds (source target : String) (selections : List Selection) (body : String) : Prop :=
  ∃ tokens, Cypher.lex body = some tokens ∧
    List.Forall₂ (NamesEnds source target) (Projection.projected selections) (Cypher.entries tokens)

namespace Projection

/-- A field names the variable that it is given, if any. -/
theorem mentionedFrom_leaf (last : Option Token) (node : String) (bare : Bool)
    (selection : Selection) :
    ∀ name ∈ mentionedFrom last (leaf node bare selection).tokens, name = sanitize node := by
  intro name hname
  unfold leaf at hname
  split at hname
  · rw [tokens_internalId, Cypher.mentionedFrom_key] at hname
    simpa [mentionedFrom] using hname
  · split at hname
    · rw [tokens_shorthand] at hname
      simp [mentionedFrom, Cypher.mentionedFrom_property] at hname
    · rw [tokens_full, Cypher.mentionedFrom_key] at hname
      simpa [mentionedFrom, Cypher.mentionedFrom_property] using hname

/-- The entry of an end names its variable and no other. -/
theorem mem_mentioned_endpoint {selection : Selection} {node : String} {fragment : Fragment}
    (h : endpoint selection node = .ok fragment) (name : String) :
    name ∈ mentioned fragment.tokens ↔ name = sanitize node := by
  obtain ⟨fields, hfields, hfragment⟩ := exists_of_bind_eq_ok h
  have inner : ∀ name ∈ mentionedFrom (some (.mark '\x7b')) (Fragment.listed fields).tokens,
      name = sanitize node := by
    refine Cypher.forall_mentionedFrom_listed (forall_mem_of_mapM hfields ?_) _
    intro child field hchild
    unfold endpointField at hchild
    split at hchild
    · rw [← Except.ok.inj hchild]
      exact fun last => mentionedFrom_leaf last node false child
    · cases hchild
  -- The variable stands in front of the brace, so it is named even if there are no fields.
  have front : mentionedFrom none
      [.ofName selection.responseKey, .mark ':', .word (sanitize node)] = [sanitize node] := by
    rw [Cypher.mentionedFrom_key]
    simp [mentionedFrom]
  have opening := Cypher.mentionedFrom_mark (by decide : '\x7b' ≠ ':') (by decide) none
    [.ofName selection.responseKey, .mark ':', .word (sanitize node)]
    ((Fragment.listed fields).tokens ++ [.mark '\x7d'])
  have closing := Cypher.mentionedFrom_mark (by decide : '\x7d' ≠ ':') (by decide)
    (some (.mark '\x7b')) (Fragment.listed fields).tokens []
  have whole : mentioned fragment.tokens =
      sanitize node :: mentionedFrom (some (.mark '\x7b')) (Fragment.listed fields).tokens := by
    rw [front, closing, mentionedFrom, List.append_nil] at opening
    rw [← Except.ok.inj hfragment, Fragment.tokens_append, tokens_endpointKey, tokens_braced]
    exact opening
  rw [whole, List.mem_cons]
  exact ⟨fun hname => hname.elim id (inner name), .inl⟩

theorem SameVariables.self (request : SelectionRequest) :
    SameVariables request request.root request.linkage := by
  refine ⟨rfl, rfl, fun fieldName node hnode => ?_⟩
  cases hlinkage : request.linkage with
  | none =>
    rw [hlinkage] at hnode
    cases hnode
  | some linkage =>
    rw [hlinkage] at hnode
    have chosen : (if fieldName = "from" then some linkage.source
        else if fieldName = "to" then some linkage.target else none) = some node := hnode
    rw [Option.elim_some]
    split at chosen
    · rename_i hsource
      rw [if_pos hsource, Option.some.inj chosen]
    · rename_i hsource
      rw [if_neg hsource]
      split at chosen
      · rw [Option.some.inj chosen]
      · cases chosen

variable {request : SelectionRequest} {linkage : Linkage} (hlinkage : request.linkage = some linkage)
  (hroot : request.root = linkage.source ∨ request.root = linkage.target)

include hlinkage hroot

theorem namesEnds_entry {selection : Selection} {fragment : Fragment}
    (h : entry request selection = .ok fragment) :
    NamesEnds (sanitize linkage.source) (sanitize linkage.target) selection fragment.tokens := by
  unfold entry at h
  by_cases hleaf : selection.isLeaf = true
  · rw [if_pos hleaf] at h
    rw [← Except.ok.inj h]
    refine ⟨fun name hname => ?_, fun hnested => by simp [hleaf] at hnested⟩
    have named := mentionedFrom_leaf none request.root _ selection name hname
    rcases hroot with hroot | hroot
    · exact .inl (hroot ▸ named)
    · exact .inr (hroot ▸ named)
  · rw [if_neg hleaf, hlinkage] at h
    simp only [endpointVariable?, Option.bind_eq_bind, Option.bind_some] at h
    by_cases hsource : selection.name = sourceField
    · rw [if_pos hsource] at h
      have named := mem_mentioned_endpoint h
      exact ⟨fun name hname => .inl ((named name).mp hname), fun _ => .inl ⟨hsource, named⟩⟩
    · rw [if_neg hsource] at h
      by_cases htarget : selection.name = targetField
      · rw [if_pos htarget] at h
        have named := mem_mentioned_endpoint h
        exact ⟨fun name hname => .inr ((named name).mp hname), fun _ => .inr ⟨htarget, named⟩⟩
      · rw [if_neg htarget] at h
        cases h

theorem projectsEnds_flat {projection : Projection} (h : flat request = .ok projection) :
    ProjectsEnds (sanitize linkage.source) (sanitize linkage.target) request.selections
      projection.fragment.render := by
  obtain ⟨part, hentries, hpart⟩ := entries_flat h
  have spelled := spells_flat (SameVariables.self request) h
  refine ⟨_, Fragment.lex_render spelled.spaced, ?_⟩
  rw [hentries, List.forall₂_map_right_iff]
  refine List.forall₂_same.mpr fun selection hselection => ?_
  exact namesEnds_entry hlinkage hroot (hpart selection hselection)

end Projection

/-- What a clause says of a wanted node behind its variable. -/
def Wanted.description (wanted : Wanted) : String :=
  if wanted.comparisons.isEmpty then
    quote wanted.label ++ " \x7b" ++ quote wanted.key ++ ": " ++ reference wanted.path ++ "\x7d)"
  else
    quote wanted.label ++ ") WHERE " ++
      " AND ".intercalate (wanted.comparisons.map (·.spelled wanted.node))

theorem Wanted.clause_eq_text (wanted : Wanted) :
    wanted.clause = (Step.find (sanitize wanted.node) wanted.description).text := by
  unfold clause description inlineText comparedText
  split <;> simp only [Step.text, String.append_assoc]

/-- What a clause says of a new relationship: its type, and its properties if there are any. -/
def Link.description (link : Link) (properties : List String) : String :=
  quote link.relationship ++
    if properties = [] then "" else " \x7b" ++ ", ".intercalate properties ++ "\x7d"

namespace Operation

theorem node_of_wantedEnd? {operation : Operation} {argumentName typeName : String} {wanted : Wanted}
    (h : operation.wantedEnd? argumentName typeName = some wanted) :
    wanted.node = Text.lowerFirst typeName ++ ("_" ++ argumentName) := by
  unfold wantedEnd? at h
  repeat' split at h
  all_goals cases h
  exact String.append_assoc

variable (operation : Operation) {link : Link} {source target : Wanted}

theorem linkText_eq_statement (hsource : source.node = link.sourceNode)
    (htarget : target.node = link.targetNode) (properties : List String) (projection : String) :
    operation.linkText properties projection link source target
        (source.clause ++ "\n" ++ target.clause) =
      Step.statement "\n"
        (link.creation source.description target.description (link.description properties))
        (link.created ++ " \x7b " ++ projection ++ " \x7d AS " ++
          sanitize operation.schemaType.name) := by
  -- The fixed texts run over the ends of clauses, so they are cut there first.
  have create : "\nCREATE (" = "\n" ++ ("CREATE" ++ " (") := rfl
  have returned : ")\nRETURN " = ")" ++ ("\n" ++ "RETURN ") := rfl
  unfold linkText
  rw [create, returned]
  simp only [Wanted.clause_eq_text, hsource, htarget, Link.creation, Link.source, Link.target,
    Link.created, Template.relationName, Link.description, Step.statement, Step.text,
    String.append_assoc, -String.reduceAppend]

theorem unlinkText_eq_statement (hsource : source.node = link.sourceNode)
    (htarget : target.node = link.targetNode) (projection : String) :
    operation.unlinkText projection link source target (source.clause ++ "\n" ++ target.clause) =
      Step.statement "\n"
        (link.deletion source.description target.description (link.description []) ++
          [link.handover])
        ("\x7b" ++ projection ++ "\x7d AS " ++ sanitize operation.schemaType.name) := by
  have found : "\nOPTIONAL MATCH (" = "\n" ++ ("OPTIONAL MATCH" ++ " (") := rfl
  have erased : ")\nDELETE " = ")" ++ ("\n" ++ ("DELETE" ++ " ")) := rfl
  have carried : "\nWITH COUNT(*) AS scope, " =
      "\n" ++ ("WITH " ++ ("COUNT(*)" ++ (" AS " ++ ("scope" ++ ", ")))) := rfl
  have returned : "\nRETURN \x7b" = "\n" ++ ("RETURN " ++ "\x7b") := rfl
  have plain : link.description [] = quote link.relationship := String.append_empty
  unfold unlinkText
  rw [found, erased, carried, returned, source.clause_eq_text, target.clause_eq_text, hsource,
    htarget, plain]
  unfold Link.deletion Link.handover Link.source Link.target Link.deleted Link.sourceRoot
    Link.targetRoot
  simp only [Step.statement, Step.text, List.cons_append, List.nil_append, List.map_cons,
    List.map_nil, Cypher.Carried.text, String.intercalate_cons_cons, String.intercalate_singleton,
    String.append_assoc, -String.reduceAppend]

theorem deletionText_eq_statement {wanted : Wanted} (hnode : wanted.node = operation.variableName)
    (projection : String) :
    operation.deletionText projection wanted.clause =
      Step.statement "\n" (operation.deletion wanted.description projection)
        (sanitize operation.variableName) := by
  have carried : "\nWITH " = "\n" ++ "WITH " := rfl
  have erased : "\nDETACH DELETE " = "\n" ++ ("DETACH DELETE" ++ " ") := rfl
  have returned : "\nRETURN " = "\n" ++ "RETURN " := rfl
  unfold deletionText
  rw [carried, erased, returned]
  simp only [Wanted.clause_eq_text, hnode, deletion, doomed, Step.statement, Step.text,
    List.map_cons, List.map_nil, Cypher.Carried.text, String.intercalate_cons_cons,
    String.intercalate_singleton, String.append_assoc, -String.reduceAppend]

end Operation

namespace Plan

theorem endpoints_nodes {settings : Settings} {operation : Operation} {link : Link}
    {source target : Endpoint} (h : endpoints settings operation = .ok (link, source, target)) :
    source.node = link.sourceNode ∧ target.node = link.targetNode := by
  obtain ⟨-, _, _, hwanted, hwanted', hnode, hnode', -⟩ := render_endpoints h
  exact ⟨hnode.trans (Operation.node_of_wantedEnd? hwanted),
    hnode'.trans (Operation.node_of_wantedEnd? hwanted')⟩

theorem projectedEnd_cases (operation : Operation) (link : Link) (source target : String) :
    projectedEnd operation link source target = source ∨
      projectedEnd operation link source target = target := by
  unfold projectedEnd
  split
  · exact .inr rfl
  · exact .inl rfl

end Plan

namespace Query

/-- The text finds the ends that are wanted, makes a new relationship with the properties of its data,
and returns a projection in the scope of its three variables. -/
def Creates (query : Query) (operation : Operation) (link : Link) (body : String) : Prop :=
  ∃ source target, operation.wantedEnd? "from" link.sourceType = some source ∧
    operation.wantedEnd? "to" link.targetType = some target ∧
    let steps := link.creation source.description target.description
      (link.description operation.dataProperties)
    query.text = Step.statement "\n" steps (link.created ++ " \x7b " ++ body ++ " \x7d AS " ++
      sanitize operation.schemaType.name) ∧
    Step.run [] steps = some [link.source, link.target, link.created]

/-- The text deletes a relationship between the ends that are wanted in the scope of its three
variables, and returns a projection in the scope of what is carried on. -/
def Deletes (query : Query) (operation : Operation) (link : Link) (body : String) : Prop :=
  ∃ source target, operation.wantedEnd? "from" link.sourceType = some source ∧
    operation.wantedEnd? "to" link.targetType = some target ∧
    let steps := link.deletion source.description target.description (link.description [])
    query.text = Step.statement "\n" (steps ++ [link.handover])
      ("\x7b" ++ body ++ "\x7d AS " ++ sanitize operation.schemaType.name) ∧
    Step.run [] steps = some [link.source, link.target, link.deleted] ∧
    Step.run [] (steps ++ [link.handover]) = some ["scope", link.sourceRoot, link.targetRoot]

/-- The text deletes the node that is wanted, by its key as it is bound, and returns what was
projected of it. -/
def DeletesNode (query : Query) (operation : Operation) (body : String) : Prop :=
  ∃ wanted, operation.wanted? none = some wanted ∧
    let bound := Parameters.suppliedEntries operation.arguments ++ operation.pageEntries
    let steps := operation.deletion (wanted.reading bound).description body
    query.text = Step.statement "\n" steps (sanitize operation.variableName) ∧
    Step.run [] steps = some [operation.doomed, sanitize operation.variableName]

end Query

namespace Synthesizer

variable {synthesizer : Synthesizer} {operation : Operation} {query : Query}

theorem relationshipCreate_scoped
    (h : (synthesizer.synthesizeAs .relationshipCreate operation).result = .ok query) :
    ∃ link projection, Link.resolve operation synthesizer.settings.linkDirective = .ok link ∧
      synthesizer.Answered .relationshipCreate operation projection ∧
      query.Creates operation link projection.fragment.render ∧
      (synthesizer.projector = Projection.flat →
        ProjectsEnds link.source link.target operation.selections projection.fragment.render) := by
  obtain ⟨plan, projection, hplan, hprojection, rfl⟩ := synthesizeAs_eq_ok h
  have hanswered := answered hplan hprojection
  obtain ⟨link, source, target, hends, rfl⟩ := Plan.relationshipCreate_eq_ok hplan
  obtain ⟨-, wanted, wanted', hwanted, hwanted', htext⟩ :=
    Plan.render_relationshipCreateBetween hends projection.fragment
  rw [Operation.linkText_eq_statement operation (Operation.node_of_wantedEnd? hwanted)
    (Operation.node_of_wantedEnd? hwanted')] at htext
  refine ⟨link, projection, (Plan.endpoints_eq_ok hends).1, hanswered,
    ⟨wanted, wanted', hwanted, hwanted', htext, link.run_creation _ _ _⟩, fun flat => ?_⟩
  rw [flat] at hprojection
  obtain ⟨hsource, htarget⟩ := Plan.endpoints_nodes hends
  have ends := Projection.projectsEnds_flat rfl
    (Plan.projectedEnd_cases operation link source.node target.node) hprojection
  rw [hsource, htarget] at ends
  exact ends

theorem relationshipDelete_scoped
    (h : (synthesizer.synthesizeAs .relationshipDelete operation).result = .ok query) :
    ∃ link projection, Link.resolve operation synthesizer.settings.linkDirective = .ok link ∧
      synthesizer.Answered .relationshipDelete operation projection ∧
      query.Deletes operation link projection.fragment.render ∧
      (synthesizer.projector = Projection.flat →
        ProjectsEnds link.sourceRoot link.targetRoot operation.selections
          projection.fragment.render) := by
  obtain ⟨plan, projection, hplan, hprojection, rfl⟩ := synthesizeAs_eq_ok h
  have hanswered := answered hplan hprojection
  obtain ⟨link, source, target, hends, rfl⟩ := Plan.relationshipDelete_eq_ok hplan
  obtain ⟨-, wanted, wanted', hwanted, hwanted', htext⟩ :=
    Plan.render_relationshipDeleteBetween hends projection.fragment
  rw [Operation.unlinkText_eq_statement operation (Operation.node_of_wantedEnd? hwanted)
    (Operation.node_of_wantedEnd? hwanted')] at htext
  refine ⟨link, projection, (Plan.endpoints_eq_ok hends).1, hanswered,
    ⟨wanted, wanted', hwanted, hwanted', htext, link.run_deletion _ _ _, link.run_handover _ _ _⟩,
    fun flat => ?_⟩
  rw [flat] at hprojection
  obtain ⟨hsource, htarget⟩ := Plan.endpoints_nodes hends
  have ends := Projection.projectsEnds_flat rfl (Plan.projectedEnd_cases operation link
    (sanitize ("_" ++ source.node)) (sanitize ("_" ++ target.node))) hprojection
  rw [Cypher.sanitize_sanitize, Cypher.sanitize_sanitize, hsource, htarget] at ends
  exact ends

theorem nodeDelete_scoped
    (h : (synthesizer.synthesizeAs .nodeDelete operation).result = .ok query) :
    ∃ projection, synthesizer.Answered .nodeDelete operation projection ∧
      query.DeletesNode operation projection.fragment.render := by
  obtain ⟨plan, projection, hplan, hprojection, rfl⟩ := synthesizeAs_eq_ok h
  have hanswered := answered hplan hprojection
  obtain ⟨key, hkey, rfl⟩ := Plan.nodeDelete_eq_ok hplan
  obtain ⟨value, -, hwanted⟩ := Plan.wanted?_of_keyArgument hkey none
  obtain ⟨wanted, hwanted', -, htext⟩ := Plan.render_nodeDeleteBy hkey projection.fragment
  obtain rfl := Option.some.inj (hwanted.symm.trans hwanted')
  rw [Operation.deletionText_eq_statement operation rfl] at htext
  exact ⟨projection, hanswered, _, hwanted, htext, operation.run_deletion _ _⟩

/-- Whatever the types of a relationship and its ends are named, its mutations never give two things
in scope one variable, and they project the ends from the variables that are in scope. A node to
delete has a variable of its own. -/
theorem mutation_variables_apart (synthesizer : Synthesizer) (operation : Operation) :
    (∀ query, (synthesizer.synthesizeAs .relationshipCreate operation).result = .ok query →
      ∃ link projection, Link.resolve operation synthesizer.settings.linkDirective = .ok link ∧
        synthesizer.Answered .relationshipCreate operation projection ∧
        query.Creates operation link projection.fragment.render ∧
        [link.source, link.target, link.created].Nodup ∧
        (synthesizer.projector = Projection.flat →
          ProjectsEnds link.source link.target operation.selections projection.fragment.render)) ∧
    (∀ query, (synthesizer.synthesizeAs .relationshipDelete operation).result = .ok query →
      ∃ link projection, Link.resolve operation synthesizer.settings.linkDirective = .ok link ∧
        synthesizer.Answered .relationshipDelete operation projection ∧
        query.Deletes operation link projection.fragment.render ∧
        [link.source, link.target, link.deleted].Nodup ∧
        ["scope", link.sourceRoot, link.targetRoot].Nodup ∧
        (synthesizer.projector = Projection.flat →
          ProjectsEnds link.sourceRoot link.targetRoot operation.selections
            projection.fragment.render)) ∧
    (∀ query, (synthesizer.synthesizeAs .nodeDelete operation).result = .ok query →
      (∃ projection, synthesizer.Answered .nodeDelete operation projection ∧
        query.DeletesNode operation projection.fragment.render) ∧
      operation.doomed ≠ sanitize operation.variableName) := by
  refine ⟨fun query h => ?_, fun query h => ?_, fun query h => ?_⟩
  · obtain ⟨link, projection, hlink, hanswered, creates, ends⟩ := relationshipCreate_scoped h
    obtain ⟨_, _, -, -, -, scope⟩ := id creates
    exact ⟨link, projection, hlink, hanswered, creates, Step.nodup_of_run scope .nil, ends⟩
  · obtain ⟨link, projection, hlink, hanswered, deletes, ends⟩ := relationshipDelete_scoped h
    obtain ⟨_, _, -, -, -, before, behind⟩ := id deletes
    exact ⟨link, projection, hlink, hanswered, deletes, Step.nodup_of_run before .nil,
      Step.nodup_of_run behind .nil, ends⟩
  · exact ⟨nodeDelete_scoped h, operation.doomed_ne⟩

/-- A relationship without a name, between types of which one has none and one begins with a digit. -/
def unnamed : Operation :=
  { Operation.new .mutation "" "" with
    selections :=
      [⟨"from", none, [⟨"name", none, []⟩]⟩, ⟨"to", some "from", [⟨"name", some "to", []⟩]⟩,
       ⟨"since", some "year", []⟩]
    arguments :=
      [⟨"from", .input "_Input" [("id", .required "ID")], some (.object [("id", .string "p1")])⟩,
       ⟨"to", .input "_1Input" [("id", .required "ID")], some (.object [("id", .string "m1")])⟩]
    directives := [⟨"MutationMeta", { entries := [("relationship", .string ""),
      ("from", .string ""), ("to", .string "1")] }⟩] }

/-- A node of a type without a name. -/
def nameless : Operation :=
  { Operation.new .mutation "" "" with
    arguments := [⟨"id", .required "ID", some (.string "p1")⟩]
    selections := [⟨"name", none, []⟩] }

theorem unnamed_apart :
    let synthesizer : Synthesizer := ⟨.default, Projection.flat, .null⟩
    let link : Link := ⟨"", "", "1"⟩
    Link.resolve unnamed synthesizer.settings.linkDirective = .ok link ∧
    [link.source, link.target, link.created, link.deleted] =
      ["_from", "_1_to", "_relation", "_from1_to"] ∧
    [link.sourceRoot, link.targetRoot] = ["__from", "_1_to"] ∧
    (∃ query, (synthesizer.synthesizeAs .relationshipCreate unnamed).result = .ok query ∧
      query.text = "MATCH (_from:`` \x7bid: $from.id\x7d)\nMATCH (_1_to:`1` \x7bid: $to.id\x7d)\n" ++
        "CREATE (_from)-[_relation:``]->(_1_to)\nRETURN _relation \x7b from: _from \x7b.name\x7d, " ++
        "from: _1_to \x7bto: _1_to.name\x7d, year: _1_to.since \x7d AS _" ∧
      ∃ body, query.Creates unnamed link body ∧
        ProjectsEnds "_from" "_1_to" unnamed.selections body) ∧
    (∃ query, (synthesizer.synthesizeAs .relationshipDelete unnamed).result = .ok query ∧
      query.text = "MATCH (_from:`` \x7bid: $from.id\x7d)\nMATCH (_1_to:`1` \x7bid: $to.id\x7d)\n" ++
        "OPTIONAL MATCH (_from)-[_from1_to:``]->(_1_to)\nDELETE _from1_to\n" ++
        "WITH COUNT(*) AS scope, _from AS __from, _1_to AS _1_to\n" ++
        "RETURN \x7bfrom: __from \x7b.name\x7d, from: _1_to \x7bto: _1_to.name\x7d, " ++
        "year: _1_to.since\x7d AS _" ∧
      ∃ body, query.Deletes unnamed link body ∧
        ProjectsEnds "__from" "_1_to" unnamed.selections body) ∧
    ∃ query, (synthesizer.synthesizeAs .nodeDelete nameless).result = .ok query ∧
      query.text = "MATCH (_:`` \x7bid: $id\x7d)\nWITH _ AS _toDelete, _ \x7b.name\x7d AS _\n" ++
        "DETACH DELETE _toDelete\nRETURN _" ∧
      (∃ body, query.DeletesNode nameless body) ∧ nameless.doomed ≠ "_" := by
  have resolved : Link.resolve unnamed Settings.default.linkDirective = .ok ⟨"", "", "1"⟩ := rfl
  obtain ⟨creates, deletes, -⟩ :=
    mutation_variables_apart ⟨.default, Projection.flat, .null⟩ unnamed
  obtain ⟨-, -, deletesNode⟩ :=
    mutation_variables_apart ⟨.default, Projection.flat, .null⟩ nameless
  refine ⟨rfl, by decide, by decide, ⟨_, rfl, by decide +kernel, ?_⟩,
    ⟨_, rfl, by decide +kernel, ?_⟩, _, rfl, by decide +kernel, ?_, (deletesNode _ rfl).2⟩
  · obtain ⟨link, projection, hlink, -, created, -, ends⟩ := creates _ rfl
    obtain rfl := Except.ok.inj (hlink.symm.trans resolved)
    exact ⟨projection.fragment.render, created, ends rfl⟩
  · obtain ⟨link, projection, hlink, -, deleted, -, -, ends⟩ := deletes _ rfl
    obtain rfl := Except.ok.inj (hlink.symm.trans resolved)
    exact ⟨projection.fragment.render, deleted, ends rfl⟩
  · obtain ⟨⟨projection, -, deleted⟩, -⟩ := deletesNode _ rfl
    exact ⟨projection.fragment.render, deleted⟩

end Synthesizer

end CypherSynthesis
