import CypherSynthesis.Proofs.ConditionOrder
import CypherSynthesis.Proofs.Injection
import CypherSynthesis.Proofs.SortOrder

/-!
The words that variables come to. A name is made a plain word where it is written, and on some ways to
the text it has been made one before. Main statements: the word is always plain and a plain word stays
as it is, so it makes no difference how often that is done; and in every statement each variable that
is used is the same word as one that was bound in front of it, the conditions of a WHERE being about
the node just found and a sort order about what was just returned.
-/

namespace CypherSynthesis

open Cypher (Fragment Piece isPlain sanitize)

theorem Cypher.isPlain_sanitize (name : String) : isPlain (sanitize name) = true := by
  rw [isPlain, sanitize, String.toList_ofList]
  exact isPlainWord_plainWord _

theorem Cypher.sanitize_of_isPlain {name : String} (h : isPlain name = true) :
    sanitize name = name := by
  rw [sanitize, plainWord_of_isPlainWord h, String.ofList_toList]

/-- The piece with its variable made plain beforehand. -/
def Cypher.Piece.sanitized : Piece → Piece
  | var s => var (sanitize s)
  | piece => piece

def Cypher.Fragment.sanitized (fragment : Fragment) : Fragment :=
  fragment.map Piece.sanitized

namespace Cypher.Fragment

theorem render_sanitized (fragment : Fragment) : fragment.sanitized.render = fragment.render := by
  have same (piece : Piece) : piece.sanitized.render = piece.render := by
    cases piece with
    | var s => exact sanitize_sanitize s
    | fixed | name | param | literal | given => rfl
  rw [render, render, sanitized, List.map_map]
  exact congrArg String.join (List.map_congr_left fun piece _ => same piece)

theorem sanitized_joined (separator : String) (parts : List Fragment) :
    (joined separator parts).sanitized = joined separator (parts.map sanitized) := by
  induction parts with
  | nil => rfl
  | cons part rest ih =>
    cases rest with
    | nil => rfl
    | cons next rest =>
      have front : joined separator (part :: next :: rest) =
          part ++ [.fixed separator] ++ joined separator (next :: rest) := rfl
      rw [front, sanitized, List.map_append, List.map_append]
      exact congrArg (part.sanitized ++ [Piece.fixed separator] ++ ·) ih

end Cypher.Fragment

/-- A node variable that has been made plain before gives the same conditions. -/
theorem Conditions.text_clauses_sanitize (node : String) (additions : List Addition) :
    (ofAdditions (sanitize node) additions).clauses.map Clause.text =
      (ofAdditions node additions).clauses.map Clause.text := by
  rw [ofAdditions_eq, ofAdditions_eq, Cypher.sanitize_sanitize]

/-- So does a sort order. -/
theorem Paging.render_orderBy_sanitize (node : String) (keys : List SortKey) :
    (orderBy (sanitize node) keys).render = (orderBy node keys).render := by
  have entries : keys.map (sortEntry (sanitize node)) =
      (keys.map (sortEntry node)).map Fragment.sanitized := by
    rw [List.map_map]
    rfl
  unfold orderBy
  split
  · rfl
  · rw [Fragment.render_append, Fragment.render_append, Fragment.listed, entries,
      ← Fragment.sanitized_joined, Fragment.render_sanitized]
    rfl

/-- The request with its variables made plain beforehand. -/
def SelectionRequest.sanitized (request : SelectionRequest) : SelectionRequest :=
  { request with
    root := sanitize request.root
    linkage := request.linkage.map fun linkage =>
      ⟨sanitize linkage.source, sanitize linkage.target, linkage.relationship.map sanitize⟩ }

/-- A function that differs by a map of its results does so along a list. -/
theorem mapM_eq_map {ε α β : Type} {f g : α → Except ε β} {change : β → β}
    (h : ∀ x, g x = (f x).map change) (xs : List α) :
    xs.mapM g = (xs.mapM f).map (List.map change) := by
  induction xs with
  | nil => rfl
  | cons x rest ih =>
    rw [List.mapM_cons, List.mapM_cons, h, ih]
    cases f x with
    | error e => rfl
    | ok y => cases rest.mapM f <;> rfl

namespace Projection

def text (projection : Projection) : String :=
  projection.fragment.render

theorem leaf_sanitize (node : String) (bare : Bool) (selection : Selection) :
    leaf (sanitize node) bare selection = (leaf node bare selection).sanitized := by
  unfold leaf
  split
  · rfl
  · split <;> rfl

theorem endpoint_sanitize (selection : Selection) (node : String) :
    endpoint selection (sanitize node) = (endpoint selection node).map Fragment.sanitized := by
  have field (child : Selection) : endpointField selection (sanitize node) child =
      (endpointField selection node child).map Fragment.sanitized := by
    unfold endpointField
    split
    · rw [leaf_sanitize]
      rfl
    · rfl
  unfold endpoint
  rw [mapM_eq_map field]
  cases (projected selection.selections).mapM (endpointField selection node) with
  | error e => rfl
  | ok fields =>
    refine congrArg Except.ok ?_
    rw [Fragment.listed, ← Fragment.sanitized_joined]
    simp [Fragment.sanitized, Fragment.braced, Fragment.listed, Piece.sanitized]

theorem endpointVariable?_sanitized (request : SelectionRequest) (fieldName : String) :
    endpointVariable? request.sanitized.linkage fieldName =
      (endpointVariable? request.linkage fieldName).map sanitize := by
  cases hlinkage : request.linkage with
  | none => simp [SelectionRequest.sanitized, hlinkage, endpointVariable?]
  | some linkage =>
    simp only [SelectionRequest.sanitized, hlinkage, endpointVariable?, Option.map_some,
      Option.bind_eq_bind, Option.bind_some]
    split
    · rfl
    · split <;> rfl

theorem isBare_sanitized (request : SelectionRequest) :
    isBare request.sanitized.linkage = isBare request.linkage := by
  cases hlinkage : request.linkage with
  | none => simp [SelectionRequest.sanitized, hlinkage]
  | some linkage => simp [SelectionRequest.sanitized, hlinkage, isBare]

theorem entry_sanitized (request : SelectionRequest) (selection : Selection) :
    entry request.sanitized selection = (entry request selection).map Fragment.sanitized := by
  unfold entry
  split
  · rw [isBare_sanitized]
    exact congrArg Except.ok (leaf_sanitize request.root _ selection)
  · rw [endpointVariable?_sanitized]
    cases endpointVariable? request.linkage selection.name with
    | none => rfl
    | some node => exact endpoint_sanitize selection node

/-- And so does a flat projection, or it is refused for the same reason. -/
theorem text_flat_sanitized (request : SelectionRequest) :
    (flat request.sanitized).map text = (flat request).map text := by
  have entries : (projected request.sanitized.selections).mapM (entry request.sanitized) =
      ((projected request.selections).mapM (entry request)).map (List.map Fragment.sanitized) :=
    mapM_eq_map (entry_sanitized request) _
  unfold flat
  rw [entries]
  cases (projected request.selections).mapM (entry request) with
  | error e => rfl
  | ok fragments =>
    refine congrArg Except.ok ?_
    change (Fragment.joined ", " (fragments.map Fragment.sanitized)).render =
      (Fragment.joined ", " fragments).render
    rw [← Fragment.sanitized_joined, Fragment.render_sanitized]

end Projection

/-- The variables along a statement: all that are bound, those that may be used where the statement
is, and, while a WITH lists what it carries on, the names that it has given. -/
structure Scope where
  names : List String
  visible : List String
  carried : Option (List String)
  deriving DecidableEq, Repr

namespace Scope

def empty : Scope := ⟨[], [], none⟩

/-- Binds a name. What a WITH names can be used behind its list only. -/
def bind (scope : Scope) (name : String) : Scope :=
  match scope.carried with
  | none => ⟨name :: scope.names, name :: scope.visible, none⟩
  | some carried => { scope with carried := some (name :: carried) }

/-- Conditions may use the node just found and no other variable, and a sort order what was just
returned. The clause behind a WITH has the names that it has given and no others. -/
def enter (scope : Scope) (keyword : String) : Scope :=
  if keyword = "WITH" then ⟨scope.names, scope.names, some []⟩
  else if keyword ∈ ["WHERE", "ORDER"] then { scope with visible := scope.names.take 1 }
  else if keyword ∈ ["MATCH", "OPTIONAL", "CREATE", "SET", "DELETE", "DETACH", "UNWIND", "RETURN"] then
    ⟨scope.carried.getD scope.names, scope.carried.getD scope.names, none⟩
  else scope

end Scope

namespace Slot

/-- Goes over the slots of a statement. A pattern with a colon and the word AS bind variables, every
other variable is used and has to be visible; what follows a point or a dollar sign is neither. -/
def resolve (scope : Scope) : List Slot → Option Scope
  | [] => some scope
  | mark '(' :: var v :: mark ':' :: rest => resolve (scope.bind (sanitize v)) rest
  | mark '[' :: var v :: mark ':' :: rest => resolve (scope.bind (sanitize v)) rest
  | word "AS" :: var v :: rest => resolve (scope.bind (sanitize v)) rest
  | word "AS" :: word w :: rest => resolve (scope.bind w) rest
  | mark '.' :: _ :: rest => resolve scope rest
  | mark '$' :: _ :: rest => resolve scope rest
  | word keyword :: rest => resolve (scope.enter keyword) rest
  | var v :: rest => if sanitize v ∈ scope.visible then resolve scope rest else none
  | _ :: rest => resolve scope rest

/-- The second variable is the word that the first one comes to; the third is not. -/
example : (resolve .empty [mark '(', var "a b", mark ':', name "T", mark ')', var "a_b"]).isSome ∧
    resolve .empty [mark '(', var "a b", mark ':', name "T", mark ')', var "ab"] = none := by
  decide

/-- The slots take one scope to another, whatever follows them. -/
def Leads (scope : Scope) (slots : List Slot) (behind : Scope) : Prop :=
  ∀ rest, resolve scope (slots ++ rest) = resolve behind rest

namespace Leads

theorem nil (scope : Scope) : Leads scope [] scope :=
  fun _ => rfl

theorem append {scope between behind : Scope} {first second : List Slot}
    (h : Leads scope first between) (h' : Leads between second behind) :
    Leads scope (first ++ second) behind := by
  intro rest
  rw [List.append_assoc, h, h']

theorem resolve_eq {scope behind : Scope} {slots : List Slot} (h : Leads scope slots behind) :
    resolve scope slots = some behind := by
  have whole := h []
  rwa [List.append_nil] at whole

theorem joined {α : Type} {scope : Scope} {separator : Slot} {slots : α → List Slot} {xs : List α}
    (between : Leads scope [separator] scope) (h : ∀ x ∈ xs, Leads scope (slots x) scope) :
    Leads scope (Slot.joined separator (xs.map slots)) scope := by
  induction xs with
  | nil => exact nil scope
  | cons x rest ih =>
    have first := h x List.mem_cons_self
    cases rest with
    | nil => exact first
    | cons next rest =>
      have tail := ih fun y hy => h y (List.mem_cons_of_mem x hy)
      exact first.append (between.append tail)

theorem listed {α : Type} {scope : Scope} {slots : α → List Slot} {xs : List α}
    (h : ∀ x ∈ xs, Leads scope (slots x) scope) :
    Leads scope (Slot.listed (xs.map slots)) scope :=
  joined (fun _ => rfl) h

theorem braced {scope : Scope} {slots : List Slot} (h : Leads scope slots scope) :
    Leads scope ([mark '\x7b'] ++ slots ++ [mark '\x7d']) scope := by
  have opening : Leads scope [mark '\x7b'] scope := fun _ => rfl
  exact (opening.append h).append fun _ => rfl

/-- What has been projected gets a name. -/
theorem named (scope : Scope) (v : String) :
    Leads scope [mark '\x7d', word "AS", var v] (scope.bind (sanitize v)) :=
  fun _ => rfl

end Leads

end Slot

open Slot (Leads word mark var name)

/-- A condition uses the variable of its node. -/
theorem Predicate.leads {scope : Scope} {node : String} (h : sanitize node ∈ scope.visible)
    (predicate : Predicate) : Leads scope (predicate.slots node) scope := by
  intro rest
  cases predicate with
  | internalId | isNull key | memberOf key => exact if_pos h
  | sameValue key kind parent => cases parent <;> cases kind <;> exact if_pos h
  | sameComponent key component parent => cases parent <;> exact if_pos h

theorem Assignment.leads (scope : Scope) (parent : String) (assignment : Assignment) :
    Leads scope (assignment.slots parent) scope := by
  intro rest
  cases assignment with
  | plain key => rfl
  | temporal key kind | temporalList key kind => cases kind <;> rfl

namespace Template

theorem Field.leads {scope : Scope} {node : String} (h : sanitize node ∈ scope.visible)
    (field : Field) : Leads scope (field.slots node) scope := by
  intro rest
  cases field with
  | own key => rfl
  | internalId key | property key source => exact if_pos h

/-- The variable that an entry is about. -/
def Entry.node : Entry → String
  | field node _ | endpoint _ node _ => node

theorem Entry.leads {scope : Scope} {entry : Entry} (h : sanitize entry.node ∈ scope.visible) :
    Leads scope entry.slots scope := by
  cases entry with
  | field node field => exact field.leads h
  | endpoint key node fields =>
    have opening : Leads scope [name key, mark ':', var node, mark '\x7b'] scope :=
      fun _ => if_pos h
    have inner : Leads scope (Slot.listed (fields.map (Field.slots node))) scope :=
      .listed fun field _ => field.leads h
    exact (opening.append inner).append fun _ => rfl

/-- The entries are about these variables and no others. -/
def About (nodes : List String) (fields : List Entry) : Prop :=
  ∀ entry ∈ fields, entry.node ∈ nodes

theorem About.leads {nodes : List String} {fields : List Entry} (h : About nodes fields)
    {scope : Scope} (visible : ∀ node ∈ nodes, sanitize node ∈ scope.visible) :
    Leads scope (fieldSlots fields) scope :=
  .listed fun entry hentry => Entry.leads (visible entry.node (h entry hentry))

theorem leads_writtenSlots (scope : Scope) (parent : String) (written : List Assignment) :
    Leads scope (writtenSlots parent written) scope :=
  .listed fun assignment _ => assignment.leads scope parent

theorem leads_mapSlots (scope : Scope) (keys : List String) (globals : Bool) :
    Leads scope (mapSlots keys globals) scope := by
  rw [Parameters.mapSlots_eq]
  split
  · exact .nil scope
  · have entries : Leads scope
        (Slot.listed ((Parameters.mapEntries keys globals).map Parameters.entrySlots)) scope :=
      .listed fun key _ => by cases key <;> exact fun _ => rfl
    exact entries.braced

/-- The arguments of a custom statement, or what stands for none. -/
theorem leads_handed {scope : Scope} {absent : List Slot} (h : Leads scope absent scope)
    (arguments : List String) (globals : Bool) :
    Leads scope (if arguments.isEmpty && !globals then absent else mapSlots arguments globals)
      scope := by
  split
  · exact h
  · exact leads_mapSlots scope arguments globals

theorem leads_conjunction {scope : Scope} {node : String} (h : sanitize node ∈ scope.visible)
    (conditions : List Predicate) : Leads scope (conjunction node conditions) scope :=
  .joined (fun _ => rfl) fun predicate _ => predicate.leads h

/-- The scope behind a node that has been found. Only its variable is visible if there are conditions. -/
def Found.behind (names : List String) (found : Found) : Scope :=
  let node := sanitize found.node
  ⟨node :: names, if found.conditions.isEmpty then node :: names else [node], none⟩

/-- The node is bound, and conditions on its key use its variable. -/
theorem Found.leads (names visible : List String) (found : Found) :
    Leads ⟨names, visible, none⟩ found.slots (found.behind names) := by
  unfold slots behind
  split
  · intro rest
    cases found.parent <;> rfl
  · have pattern : Leads ⟨names, visible, none⟩
        [word "MATCH", mark '(', var found.node, mark ':', name found.label, mark ')', word "WHERE"]
        ⟨sanitize found.node :: names, [sanitize found.node], none⟩ := fun _ => rfl
    exact pattern.append (leads_conjunction List.mem_cons_self found.conditions)

namespace Rows

theorem leads_keySlots {scope : Scope} {node : String} (h : sanitize node ∈ scope.visible)
    (key : SortKey) : Leads scope (keySlots node key) scope := by
  obtain ⟨field, direction⟩ := key
  intro rest
  cases direction <;> exact if_pos h

/-- Rows are sorted by the variable that they have just been given. -/
theorem leads_sortSlots (node : String) (names visible : List String) (rows : Rows) :
    ∃ visible', Leads ⟨sanitize node :: names, visible, none⟩ (rows.sortSlots node)
      ⟨sanitize node :: names, visible', none⟩ := by
  unfold sortSlots
  split
  · exact ⟨visible, .nil _⟩
  · have keys : Leads ⟨sanitize node :: names, [sanitize node], none⟩
        (Slot.listed (rows.sort.map (keySlots node)))
        ⟨sanitize node :: names, [sanitize node], none⟩ :=
      .listed fun key _ => leads_keySlots List.mem_cons_self key
    have opening : Leads ⟨sanitize node :: names, visible, none⟩ [word "ORDER", word "BY"]
        ⟨sanitize node :: names, [sanitize node], none⟩ := fun _ => rfl
    exact ⟨_, opening.append keys⟩

theorem leads_pageSlots (scope : Scope) (rows : Rows) : Leads scope rows.pageSlots scope := by
  obtain ⟨sort, skip, limit⟩ := rows
  intro rest
  cases skip <;> cases limit <;> rfl

end Rows

/-- Each variable of the statement is bound before it is used. -/
def IsScoped (template : Template) : Prop :=
  ∃ behind, Slot.resolve .empty template.slots = some behind

theorem IsScoped.of_leads {template : Template} {slots : List Slot} {behind : Scope}
    (h : Leads .empty slots behind) (same : template.slots = slots) : template.IsScoped :=
  ⟨behind, by rw [same, h.resolve_eq]⟩

section

variable {node : String} {fields : List Entry}

/-- A node is projected and returned under its own name. -/
theorem leads_returned (h : About [node] fields) (visible : List String) :
    Leads ⟨[sanitize node], visible, none⟩
      ([word "RETURN", var node, mark '\x7b'] ++ fieldSlots fields ++
        [mark '\x7d', word "AS", var node])
      ⟨[sanitize node, sanitize node], [sanitize node, sanitize node], none⟩ := by
  let scope : Scope := ⟨[sanitize node], [sanitize node], none⟩
  have opening : Leads ⟨[sanitize node], visible, none⟩ [word "RETURN", var node, mark '\x7b'] scope :=
    fun _ => if_pos List.mem_cons_self
  have projected : Leads scope (fieldSlots fields) scope := h.leads (by simp [scope])
  exact (opening.append projected).append fun _ => rfl

theorem nodeQuery_isScoped (h : About [node] fields) (label : String) (pattern : List String)
    (conditions : List Predicate) (rows : Rows) :
    (nodeQuery node label pattern conditions fields rows).IsScoped := by
  let scope : Scope := ⟨[sanitize node], [sanitize node], none⟩
  have found : Leads .empty [word "MATCH", mark '(', var node, mark ':', name label] scope :=
    fun _ => rfl
  have closed : Leads scope [mark ')'] scope := fun _ => rfl
  have conditioned : Leads scope
      (if conditions.isEmpty then [] else word "WHERE" :: conjunction node conditions) scope := by
    split
    · exact .nil scope
    · have opening : Leads scope [word "WHERE"] scope := fun _ => rfl
      exact opening.append (leads_conjunction List.mem_cons_self conditions)
  obtain ⟨visible, sorted⟩ := rows.leads_sortSlots node [sanitize node] [sanitize node, sanitize node]
  have whole := (((((found.append (leads_mapSlots scope pattern false)).append closed).append
    conditioned).append (leads_returned h _)).append sorted).append (rows.leads_pageSlots _)
  exact .of_leads whole (by simp only [slots, List.append_assoc])

/-- The result of a custom statement, projected if its type has properties. -/
theorem leads_resultSlots {fields : Option (List Entry)} (h : ∀ entries ∈ fields, About [node] entries)
    (names : List String) (rows : Rows) :
    ∃ behind, Leads ⟨sanitize node :: names, sanitize node :: names, none⟩
      (resultSlots node rows fields) behind := by
  let scope : Scope := ⟨sanitize node :: names, sanitize node :: names, none⟩
  cases fields with
  | none => exact ⟨_, .nil scope⟩
  | some entries =>
    have opening : Leads scope [mark '\x7b'] scope := fun _ => rfl
    have projected : Leads scope (fieldSlots entries) scope := (h entries rfl).leads (by simp [scope])
    obtain ⟨visible, sorted⟩ := rows.leads_sortSlots node scope.names (sanitize node :: scope.visible)
    exact ⟨_, ((opening.append projected).append (.named scope node)).append sorted⟩

theorem customQuery_isScoped {fields : Option (List Entry)}
    (h : ∀ entries ∈ fields, About [node] entries) (statement : String) (arguments : List String)
    (globals : Bool) (rows : Rows) :
    (customQuery statement arguments globals node fields rows).IsScoped := by
  have call : Leads .empty [word "WITH", word "apoc", mark '.', word "cypher", mark '.',
      word "runFirstColumn", mark '(', .text statement, mark ','] ⟨[], [], some []⟩ := fun _ => rfl
  have absent : Leads ⟨[], [], some []⟩ [word "null"] ⟨[], [], some []⟩ := fun _ => rfl
  have rowed : Leads ⟨[], [], some []⟩
      [mark ',', word "True", mark ')', word "AS", word "x", word "UNWIND", word "x", word "AS",
        var node, word "RETURN", var node]
      ⟨[sanitize node, "x"], [sanitize node, "x"], none⟩ := fun _ => if_pos List.mem_cons_self
  obtain ⟨behind, result⟩ := leads_resultSlots h ["x"] rows
  have whole := (((call.append (leads_handed absent arguments globals)).append rowed).append
    result).append (rows.leads_pageSlots behind)
  exact .of_leads whole rfl

theorem customMutation_isScoped {fields : Option (List Entry)}
    (h : ∀ entries ∈ fields, About [node] entries) (statement : String) (arguments : List String)
    (globals : Bool) (rows : Rows) :
    (customMutation statement arguments globals node fields rows).IsScoped := by
  have call : Leads .empty [word "CALL", word "apoc", mark '.', word "cypher", mark '.',
      word "doIt", mark '(', .text statement, mark ','] .empty := fun _ => rfl
  have absent : Leads .empty [mark '\x7b', mark '\x7d'] .empty := fun _ => rfl
  have rowed : Leads .empty
      [mark ')', word "YIELD", word "value", word "WITH", word "apoc", mark '.', word "map",
        mark '.', word "values", mark '(', word "value", mark ',', mark '[', word "keys", mark '(',
        word "value", mark ')', mark '[', word "0", mark ']', mark ']', mark ')', mark '[',
        word "0", mark ']', word "AS", var node, word "RETURN", var node]
      ⟨[sanitize node], [sanitize node], none⟩ := fun _ => if_pos List.mem_cons_self
  obtain ⟨behind, result⟩ := leads_resultSlots h [] rows
  have paged : Leads behind (if fields.isSome then rows.pageSlots else []) behind := by
    split
    · exact rows.leads_pageSlots behind
    · exact .nil behind
  have whole := (((call.append (leads_handed absent arguments globals)).append rowed).append
    result).append paged
  exact .of_leads whole rfl

theorem nodeCreate_isScoped (h : About [node] fields) (label : String)
    (written : List Assignment) : (nodeCreate node label written fields).IsScoped := by
  let scope : Scope := ⟨[sanitize node], [sanitize node], none⟩
  have created : Leads .empty
      [word "CREATE", mark '(', var node, mark ':', name label, mark '\x7b'] scope := fun _ => rfl
  have closed : Leads scope [mark '\x7d', mark ')'] scope := fun _ => rfl
  have whole := ((created.append (leads_writtenSlots scope "params" written)).append closed).append
    (leads_returned h _)
  exact .of_leads whole (by simp [slots])

end

theorem nodeUpdate_isScoped {found : Found} {fields : List Entry} (h : About [found.node] fields)
    (written : List Assignment) : (nodeUpdate found written fields).IsScoped := by
  have changed (visible : List String) : ∃ visible', Leads ⟨[sanitize found.node], visible, none⟩
      (if written.isEmpty then []
        else [word "SET", var found.node, mark '+', mark '=', mark '\x7b'] ++
          writtenSlots "params" written ++ [mark '\x7d'])
      ⟨[sanitize found.node], visible', none⟩ := by
    split
    · exact ⟨visible, .nil _⟩
    · have opening : Leads ⟨[sanitize found.node], visible, none⟩
          [word "SET", var found.node, mark '+', mark '=', mark '\x7b']
          ⟨[sanitize found.node], [sanitize found.node], none⟩ := fun _ => if_pos List.mem_cons_self
      exact ⟨_, (opening.append (leads_writtenSlots _ "params" written)).append fun _ => rfl⟩
  obtain ⟨visible, changes⟩ := changed (found.behind []).visible
  have whole := ((found.leads [] []).append changes).append (leads_returned h visible)
  exact .of_leads whole (by simp only [slots, List.append_assoc])

theorem nodeDelete_isScoped {found : Found} {fields : List Entry} (h : About [found.node] fields)
    (doomed : String) : (nodeDelete found doomed fields).IsScoped := by
  let node := sanitize found.node
  let carrying : Scope := ⟨[node], [node], some [sanitize doomed]⟩
  have opening : Leads (found.behind [])
      [word "WITH", var found.node, word "AS", var doomed, mark ',', var found.node, mark '\x7b']
      carrying := fun _ => (if_pos List.mem_cons_self).trans (if_pos List.mem_cons_self)
  have projected : Leads carrying (fieldSlots fields) carrying := h.leads (by simp [carrying, node])
  have deleted : Leads carrying
      [mark '\x7d', word "AS", var found.node, word "DETACH", word "DELETE", var doomed,
        word "RETURN", var found.node]
      ⟨[node, sanitize doomed], [node, sanitize doomed], none⟩ :=
    fun _ => (if_pos (List.mem_cons_of_mem node List.mem_cons_self)).trans
      (if_pos List.mem_cons_self)
  exact .of_leads ((((found.leads [] []).append opening).append projected).append deleted) rfl

section

variable {source target : Found}

/-- Both ends of a relationship are found, each by conditions on itself. -/
theorem leads_ends : Leads .empty (source.slots ++ target.slots)
    (target.behind [sanitize source.node]) :=
  (source.leads [] []).append (target.leads [sanitize source.node] (source.behind []).visible)

theorem relationshipCreate_isScoped {fields : List Entry}
    (h : About [source.node, target.node] fields) (relationship type : String)
    (written : List Assignment) (payload : String) :
    (relationshipCreate source target relationship type written fields payload).IsScoped := by
  let names := [sanitize relationship, sanitize target.node, sanitize source.node]
  let scope : Scope := ⟨names, names, none⟩
  have created : Leads (target.behind [sanitize source.node])
      [word "CREATE", mark '(', var source.node, mark ')', mark '-', mark '[', var relationship,
        mark ':', name type] scope :=
    fun _ => if_pos (List.mem_cons_of_mem _ List.mem_cons_self)
  have properties : Leads scope (if written.isEmpty then []
      else [mark '\x7b'] ++ writtenSlots "data" written ++ [mark '\x7d']) scope := by
    split
    · exact .nil scope
    · exact (leads_writtenSlots scope "data" written).braced
  have returned : Leads scope
      [mark ']', mark '-', mark '>', mark '(', var target.node, mark ')', word "RETURN",
        var relationship, mark '\x7b'] scope :=
    fun _ => (if_pos (List.mem_cons_of_mem _ List.mem_cons_self)).trans (if_pos List.mem_cons_self)
  have projected : Leads scope (fieldSlots fields) scope := h.leads (by simp [scope, names])
  exact .of_leads (((((leads_ends.append created).append properties).append returned).append
    projected).append (.named scope payload)) rfl

theorem relationshipDelete_isScoped {sourceRoot targetRoot : String} {fields : List Entry}
    (h : About [sourceRoot, targetRoot] fields) (relationship type payload : String) :
    (relationshipDelete source target relationship type sourceRoot targetRoot fields
      payload).IsScoped := by
  let found := [sanitize relationship, sanitize target.node, sanitize source.node]
  have sourceFound : sanitize source.node ∈ found := by simp [found]
  have targetFound : sanitize target.node ∈ found := by simp [found]
  have deleted : Leads (target.behind [sanitize source.node])
      [word "OPTIONAL", word "MATCH", mark '(', var source.node, mark ')', mark '-', mark '[',
        var relationship, mark ':', name type, mark ']', mark '-', mark '>', mark '(',
        var target.node, mark ')', word "DELETE", var relationship] ⟨found, found, none⟩ :=
    fun _ => (if_pos (List.mem_cons_of_mem _ List.mem_cons_self)).trans
      ((if_pos targetFound).trans (if_pos List.mem_cons_self))
  -- The ends get new names, and behind the list these are all that is left.
  let names := [sanitize targetRoot, sanitize sourceRoot, "scope"]
  let scope : Scope := ⟨names, names, none⟩
  have carried : Leads ⟨found, found, none⟩
      [word "WITH", word "COUNT", mark '(', mark '*', mark ')', word "AS", word "scope", mark ',',
        var source.node, word "AS", var sourceRoot, mark ',', var target.node, word "AS",
        var targetRoot, word "RETURN", mark '\x7b'] scope :=
    fun _ => (if_pos sourceFound).trans (if_pos targetFound)
  have projected : Leads scope (fieldSlots fields) scope := h.leads (by simp [scope, names])
  exact .of_leads (((leads_ends.append (deleted.append carried)).append projected).append
    (.named scope payload)) rfl

end

/-- Without a relationship a flat projection is about its root. -/
theorem about_root {plan : Plan} {operation : Operation} {projection : Projection}
    (hlinkage : plan.linkage = none)
    (h : Projection.flat (plan.request operation) = .ok projection) (root : String) :
    About [root] (Entry.all root none operation) := by
  intro entry hentry
  obtain ⟨selection, hselection, rfl⟩ := List.mem_map.mp hentry
  obtain ⟨part, -, hpart⟩ := Projection.entries_flat h
  obtain ⟨hleaf, -⟩ := Projection.entry_of_unlinked hlinkage (hpart selection hselection)
  have empty : selection.selections.isEmpty = true := hleaf
  rw [Entry.ofSelection, if_pos empty]
  exact List.mem_singleton_self root

/-- Around a relationship it is about the ends, and its root is one of them. -/
theorem about_ends (operation : Operation) (link : Link) (source target : String)
    (relationship : Option String) :
    About [source, target] (Entry.all (rootEnd operation link source target)
      (some ⟨source, target, relationship⟩) operation) := by
  intro entry hentry
  obtain ⟨selection, -, rfl⟩ := List.mem_map.mp hentry
  unfold Entry.ofSelection
  split
  · unfold rootEnd
    split <;> simp [Entry.node]
  · simp only [Entry.node, Option.elim_some]
    split <;> simp

end Template

namespace Synthesizer

open Template (about_root about_ends)

theorem isScoped_of_template {settings : Settings} {fresh : Json} {kind : Kind}
    {operation : Operation} {plan : Plan} {projection : Projection} {template : Template}
    (hplan : (Synthesizer.mk settings Projection.flat fresh).planned kind operation = .ok plan)
    (hflat : Projection.flat (plan.request operation) = .ok projection)
    (htemplate : Template.of? settings operation kind = some template) : template.IsScoped := by
  have custom (hlinkage : plan.linkage = none) : ∀ entries ∈ Template.customFields operation,
      Template.About [operation.variableName] entries := by
    intro entries hentries
    unfold Template.customFields at hentries
    split at hentries
    · rw [← Option.some.inj hentries]
      exact about_root hlinkage hflat operation.variableName
    · cases hentries
  cases kind with
  | nodeQuery =>
    obtain rfl := Except.ok.inj hplan
    obtain rfl := Option.some.inj htemplate
    exact Template.nodeQuery_isScoped (about_root rfl hflat _) _ _ _ _
  | customQuery =>
    obtain ⟨statement, -, rfl⟩ := Plan.customQuery_eq_ok hplan
    obtain ⟨written, -, htemplate⟩ := Option.bind_eq_some_iff.mp htemplate
    obtain rfl := Option.some.inj htemplate
    exact Template.customQuery_isScoped (custom rfl) _ _ _ _
  | customMutation =>
    obtain ⟨statement, -, rfl⟩ := Plan.customMutation_eq_ok hplan
    obtain ⟨written, -, htemplate⟩ := Option.bind_eq_some_iff.mp htemplate
    obtain rfl := Option.some.inj htemplate
    exact Template.customMutation_isScoped (custom rfl) _ _ _ _
  | nodeCreate =>
    rw [planned_nodeCreate] at hplan
    obtain rfl := Except.ok.inj hplan
    obtain rfl := Option.some.inj htemplate
    exact Template.nodeCreate_isScoped (about_root rfl hflat _) _ _
  | nodeUpdate =>
    obtain ⟨key, hkey, rfl⟩ := Plan.nodeUpdate_eq_ok hplan
    obtain ⟨value, -, hwanted⟩ := Plan.wanted?_of_keyArgument hkey (some "params")
    rw [Template.of?, hwanted] at htemplate
    obtain rfl := Option.some.inj htemplate
    exact Template.nodeUpdate_isScoped (about_root rfl hflat _) _
  | nodeDelete =>
    obtain ⟨key, hkey, rfl⟩ := Plan.nodeDelete_eq_ok hplan
    obtain ⟨value, -, hwanted⟩ := Plan.wanted?_of_keyArgument hkey none
    rw [Template.of?, hwanted] at htemplate
    obtain rfl := Option.some.inj htemplate
    exact Template.nodeDelete_isScoped (about_root rfl hflat _) _
  | relationshipCreate =>
    obtain ⟨link, -, htemplate⟩ := Option.bind_eq_some_iff.mp htemplate
    obtain ⟨source, -, htemplate⟩ := Option.bind_eq_some_iff.mp htemplate
    obtain ⟨target, -, htemplate⟩ := Option.bind_eq_some_iff.mp htemplate
    obtain rfl := Option.some.inj htemplate
    exact Template.relationshipCreate_isScoped (about_ends operation link _ _ _) _ _ _ _
  | relationshipDelete =>
    obtain ⟨link, -, htemplate⟩ := Option.bind_eq_some_iff.mp htemplate
    obtain ⟨source, -, htemplate⟩ := Option.bind_eq_some_iff.mp htemplate
    obtain ⟨target, -, htemplate⟩ := Option.bind_eq_some_iff.mp htemplate
    obtain rfl := Option.some.inj htemplate
    exact Template.relationshipDelete_isScoped (about_ends operation link _ _ _) _ _ _

/-- Names are made plain words once and for all: a plain word stays as it is, and writing with a name
that was made plain before gives the same conditions, the same sort order and the same projection. In
every statement of every kind, a variable is used as the word that it was bound as. -/
theorem variables_as_bound (settings : Settings) (fresh : Json) :
    (∀ name, isPlain (sanitize name) = true) ∧
    (∀ name, isPlain name = true → sanitize name = name) ∧
    (∀ name, sanitize (sanitize name) = sanitize name) ∧
    (∀ node additions, (Conditions.ofAdditions (sanitize node) additions).clauses.map Clause.text =
      (Conditions.ofAdditions node additions).clauses.map Clause.text) ∧
    (∀ node keys, (Paging.orderBy (sanitize node) keys).render = (Paging.orderBy node keys).render) ∧
    (∀ request : SelectionRequest, (Projection.flat request.sanitized).map Projection.text =
      (Projection.flat request).map Projection.text) ∧
    ∀ kind operation query,
      ((Synthesizer.mk settings Projection.flat fresh).synthesizeAs kind operation).result =
        .ok query →
      ∃ template, Template.of? settings operation kind = some template ∧
        Cypher.lex query.text = some (template.slots.map Slot.token) ∧ template.IsScoped := by
  refine ⟨Cypher.isPlain_sanitize, fun _ => Cypher.sanitize_of_isPlain, Cypher.sanitize_sanitize,
    Conditions.text_clauses_sanitize, Paging.render_orderBy_sanitize,
    Projection.text_flat_sanitized, fun kind operation query h => ?_⟩
  obtain ⟨plan, projection, hplan, hflat, rfl⟩ := synthesizeAs_eq_ok h
  obtain ⟨template, htemplate, spelled⟩ := exists_template hplan hflat
  refine ⟨template, htemplate, ?_, isScoped_of_template hplan hflat htemplate⟩
  rw [← spelled.tokens]
  exact Fragment.lex_render spelled.spaced

/-- Cats under a variable that begins with a digit and has a blank, a dash and a letter that no plain
word has. -/
def nineLives : Operation :=
  { Operation.new .query "Cat" "Cat" with
    variableName := "9 lives-ü"
    internalId := some 7
    arguments :=
      [⟨"born", .named "_Neo4jDateInput", some (.object [("year", .ofInt 1995)])⟩,
       ⟨"owner", .named "String", some .null⟩]
    selections := [⟨"name", some "called", []⟩, ⟨"_id", none, []⟩]
    orderBy := [⟨"called", .descending⟩] }

theorem variables_as_bound_nineLives :
    isPlain "_9_lives__" = true ∧ sanitize "_9_lives__" = "_9_lives__" ∧
    ∃ query, ((Synthesizer.mk .default Projection.flat .null).synthesizeAs .nodeQuery
        nineLives).result = .ok query ∧
      query.text = "MATCH (_9_lives__:Cat ) WHERE ID(_9_lives__) = $_id AND " ++
        "_9_lives__.owner IS NULL AND _9_lives__.born.year = $born.year RETURN _9_lives__ " ++
        "\x7bcalled: _9_lives__.name, _id: ID(_9_lives__)\x7d AS _9_lives__ " ++
        "ORDER BY _9_lives__.called DESC " ∧
      ∃ template, Template.of? .default nineLives .nodeQuery = some template ∧
        Cypher.lex query.text = some (template.slots.map Slot.token) ∧ template.IsScoped := by
  obtain ⟨-, kept, -, -, -, -, bound⟩ := variables_as_bound .default .null
  have plain : isPlain "_9_lives__" = true := by decide
  exact ⟨plain, kept _ plain, _, rfl, by decide +kernel, bound .nodeQuery nineLives _ rfl⟩

end Synthesizer

end CypherSynthesis
