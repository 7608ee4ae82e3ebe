import CypherSynthesis.Proofs.Plans
import CypherSynthesis.Proofs.StatementText

/-!
Entries of map projections. An entry is a property with a point in front, read from the variable that
the projection is applied to, or a key with the property of a named variable. Which variable a
projection is applied to is told by the token in front of its brace, and what stands inside complete
braces does not matter. Main statements: projections of selections that differ in the key of one field
are texts that differ in one entry, at the top and inside the end of a relationship.
-/

namespace CypherSynthesis

namespace Cypher

/-- While tokens are read: what stood in front of each brace that is open, the innermost first, and
the token in front. -/
structure Nesting where
  bases : List (Option Token)
  last : Option Token

namespace Nesting

def next (nesting : Nesting) (token : Token) : Nesting where
  bases :=
    if token = .mark '\x7b' then nesting.last :: nesting.bases
    else if token = .mark '\x7d' then nesting.bases.tail
    else nesting.bases
  last := some token

def read (nesting : Nesting) (tokens : List Token) : Nesting :=
  tokens.foldl next nesting

theorem bases_next_open (nesting : Nesting) :
    (nesting.next (.mark '\x7b')).bases = nesting.last :: nesting.bases := rfl

theorem bases_next_close (nesting : Nesting) :
    (nesting.next (.mark '\x7d')).bases = nesting.bases.tail := rfl

theorem read_append (nesting : Nesting) (before after : List Token) :
    nesting.read (before ++ after) = (nesting.read before).read after :=
  List.foldl_append

end Nesting

/-- What the innermost map is a projection of that is open behind the tokens. -/
def base? (tokens : List Token) : Option Token :=
  ((Nesting.mk [] none).read tokens).bases.head?.join

/-- Every brace that the tokens open is closed by them. -/
def Balanced (tokens : List Token) : Prop :=
  ∀ nesting : Nesting, (nesting.read tokens).bases = nesting.bases

namespace Balanced

theorem nil : Balanced [] :=
  fun _ => rfl

theorem append {before after : List Token} (h : Balanced before) (h' : Balanced after) :
    Balanced (before ++ after) := by
  intro nesting
  rw [Nesting.read_append, h', h]

theorem of_no_brace {tokens : List Token} (hopen : .mark '\x7b' ∉ tokens)
    (hclose : .mark '\x7d' ∉ tokens) : Balanced tokens := by
  intro nesting
  induction tokens generalizing nesting with
  | nil => rfl
  | cons token rest ih =>
    rw [List.mem_cons, not_or] at hopen hclose
    obtain ⟨hopen, hopens⟩ := hopen
    obtain ⟨hclose, hcloses⟩ := hclose
    have step : (nesting.next token).bases = nesting.bases := by
      simp only [Nesting.next, Ne.symm hopen, Ne.symm hclose, if_false]
    exact (ih hopens hcloses (nesting.next token)).trans step

theorem braced {tokens : List Token} (h : Balanced tokens) :
    Balanced (.mark '\x7b' :: tokens ++ [.mark '\x7d']) := by
  intro nesting
  have inner := h (nesting.next (.mark '\x7b'))
  have whole : nesting.read (.mark '\x7b' :: tokens ++ [.mark '\x7d']) =
      ((nesting.next (.mark '\x7b')).read tokens).next (.mark '\x7d') := by
    rw [Nesting.read_append]
    rfl
  rw [whole, Nesting.bases_next_close, inner, Nesting.bases_next_open]
  rfl

end Balanced

/-- Behind a brace and whatever is complete, the innermost map is a projection of what stands in
front of the brace. -/
theorem base?_of_balanced (front : List Token) (base : Token) {inner : List Token}
    (h : Balanced inner) : base? (front ++ [base, .mark '\x7b'] ++ inner) = some base := by
  unfold base?
  rw [Nesting.read_append, h, Nesting.read_append]
  rfl

/-- A property of a variable, under the key that it has in the response. -/
structure Lookup where
  key : String
  source : String
  property : String
  deriving DecidableEq, Repr

/-- What an entry of a projection of `base` looks up: the shorthand with a point takes the property
from the base, under its own name. -/
def Lookup.read? (base : Option Token) : List Token → Option Lookup
  | [.mark '.', property] =>
    match base, property.name? with
    | some (.word variableName), some name => some ⟨name, variableName, name⟩
    | _, _ => none
  | [key, .mark ':', .word variableName, .mark '.', property] =>
    match key.name?, property.name? with
    | some key, some name => some ⟨key, variableName, name⟩
    | _, _ => none
  | _ => none

/-- The tokens end where an entry of a projection of `base` begins. -/
structure Opens (base : Token) (tokens : List Token) : Prop where
  base? : base? tokens = some base
  last : tokens.getLast? = some (.mark '\x7b') ∨ tokens.getLast? = some (.mark ',')

/-- The tokens begin where an entry of a map ends. -/
def Closes (tokens : List Token) : Prop :=
  tokens.head? = some (.mark '\x7d') ∨ tokens.head? = some (.mark ',')

/-- The texts are the same but for one entry of a map, which looks up one property in the first and
another in the second. -/
def DifferInEntry (first second : Lookup) (tokens tokens' : List Token) : Prop :=
  ∃ base before entry entry' after, tokens = before ++ entry ++ after ∧
    tokens' = before ++ entry' ++ after ∧ Opens base before ∧ Closes after ∧
    Lookup.read? (some base) entry = some first ∧ Lookup.read? (some base) entry' = some second

namespace Fragment

/-- Fragments that are listed in front of another. -/
def leading (fragments : List Fragment) : Fragment :=
  fragments.flatMap (· ++ [.fixed ", "])

/-- Fragments that are listed behind another. -/
def trailing (fragments : List Fragment) : Fragment :=
  fragments.flatMap ([.fixed ", "] ++ ·)

theorem listed_cons (fragment : Fragment) (rest : List Fragment) :
    listed (fragment :: rest) = fragment ++ trailing rest := by
  induction rest generalizing fragment with
  | nil => simp [listed, joined, trailing]
  | cons second rest ih =>
    have tail := ih second
    simp only [listed, joined, trailing, List.flatMap_cons] at tail ⊢
    rw [tail]
    simp

/-- A list around one of its members. -/
theorem listed_append (before : List Fragment) (fragment : Fragment) (after : List Fragment) :
    listed (before ++ fragment :: after) = leading before ++ fragment ++ trailing after := by
  induction before with
  | nil => simpa [leading] using listed_cons fragment after
  | cons first rest ih =>
    have step (fragments : List Fragment) (h : fragments ≠ []) :
        listed (first :: fragments) = first ++ [.fixed ", "] ++ listed fragments := by
      cases fragments with
      | nil => exact absurd rfl h
      | cons => rfl
    rw [List.cons_append, step _ (by simp), ih]
    simp [leading]

theorem balanced_leading {fragments : List Fragment}
    (h : ∀ fragment ∈ fragments, Balanced fragment.tokens) : Balanced (leading fragments).tokens := by
  induction fragments with
  | nil => exact .nil
  | cons fragment rest ih =>
    have comma : Balanced (tokens [.fixed ", "]) := .of_no_brace (by decide) (by decide)
    have front := (h fragment List.mem_cons_self).append comma
    have behind := ih fun other hother => h other (List.mem_cons_of_mem fragment hother)
    simpa [leading] using front.append behind

theorem balanced_listed {fragments : List Fragment}
    (h : ∀ fragment ∈ fragments, Balanced fragment.tokens) : Balanced (listed fragments).tokens := by
  rcases List.eq_nil_or_concat fragments with rfl | ⟨before, last, rfl⟩
  · exact .nil
  · rw [List.concat_eq_append, listed_append]
    have front : Balanced (leading before).tokens :=
      balanced_leading fun fragment hfragment => h fragment (by simp [hfragment])
    simpa [trailing] using front.append (h last (by simp))

end Fragment

/-- Behind an opening brace and entries that are complete, the next entry begins. -/
theorem opens_leading (front : List Token) (base : Token) {entries : List Fragment}
    (h : ∀ entry ∈ entries, Balanced entry.tokens) :
    Opens base (front ++ [base, .mark '\x7b'] ++ (Fragment.leading entries).tokens) where
  base? := base?_of_balanced front base (Fragment.balanced_leading h)
  last := by
    rcases List.eq_nil_or_concat entries with rfl | ⟨before, last, rfl⟩
    · exact .inl (by simp [Fragment.leading])
    · have comma : Piece.tokens (.fixed ", ") = [.mark ','] := rfl
      have whole : front ++ [base, .mark '\x7b'] ++ (Fragment.leading (before.concat last)).tokens =
          front ++ [base, .mark '\x7b'] ++ (Fragment.leading before).tokens ++ last.tokens ++
            [.mark ','] := by
        simp [Fragment.leading, comma]
      exact .inr (whole ▸ List.getLast?_concat)

theorem closes_trailing (entries : List Fragment) {after : List Token} (h : Closes after) :
    Closes ((Fragment.trailing entries).tokens ++ after) := by
  cases entries with
  | nil => exact h
  | cons entry rest => exact .inr rfl

end Cypher

open Cypher (Fragment Token Balanced Lookup Closes DifferInEntry opens_leading closes_trailing)

theorem mapM_around {ε α β : Type} (g : α → Except ε β) (xs : List α) (x : α) (ys : List α) :
    (xs ++ x :: ys).mapM g =
      xs.mapM g >>= fun front => g x >>= fun b => ys.mapM g >>= fun back =>
        .ok (front ++ b :: back) := by
  simp [List.mapM_append, List.mapM_cons]
  rfl

/-- Computations over lists that differ in one element. -/
theorem Concur.mapM_around {α β : Type} {related : β → β → Prop}
    {g : α → Except SynthesisError β} (xs : List α) {x y : α} (ys : List α)
    (h : Concur related (g x) (g y)) :
    Concur (fun bs cs => ∃ front b c back, xs.mapM g = .ok front ∧ related b c ∧
        bs = front ++ b :: back ∧ cs = front ++ c :: back)
      ((xs ++ x :: ys).mapM g) ((xs ++ y :: ys).mapM g) := by
  rw [CypherSynthesis.mapM_around, CypherSynthesis.mapM_around]
  refine .bind_eq rfl fun front hfront => ?_
  refine h.bind fun b c _ _ hbc => ?_
  exact .bind_eq rfl fun back _ => .ok ⟨front, b, c, back, hfront, hbc, rfl, rfl⟩

theorem forall_mem_of_mapM {ε α β : Type} [Inhabited β] {g : α → Except ε β} {xs : List α}
    {ys : List β} {P : β → Prop} (h : xs.mapM g = .ok ys) (hP : ∀ x y, g x = .ok y → P y) :
    ∀ y ∈ ys, P y := by
  obtain ⟨part, rfl, hpart⟩ := exists_map_of_mapM h
  intro y hy
  obtain ⟨x, hx, rfl⟩ := List.mem_map.mp hy
  exact hP x (part x) (hpart x hx)

namespace Projection

theorem tokens_shorthand (name : String) :
    Fragment.tokens [.fixed ".", .name name] = [.mark '.', .ofName name] := rfl

theorem tokens_full (key node name : String) :
    Fragment.tokens [.name key, .fixed ": ", .var node, .fixed ".", .name name] =
      [.ofName key, .mark ':', .word (Cypher.sanitize node), .mark '.', .ofName name] := rfl

theorem tokens_internalId (key node : String) :
    Fragment.tokens [.name key, .fixed ": ID(", .var node, .fixed ")"] =
      [.ofName key, .mark ':', .word "ID", .mark '(', .word (Cypher.sanitize node), .mark ')'] := rfl

/-- A field without children is looked up under its response key: in the base of the projection if it
has no key of its own, unless the map is bare, and in the given variable otherwise. -/
theorem read?_leaf (base node : String) (bare : Bool) {name : String} (key : Option String)
    (hid : name ≠ internalIdField) :
    Lookup.read? (some (.word base)) (leaf node bare ⟨name, key, []⟩).tokens =
      some ⟨key.getD name, if key.isNone && !bare then base else Cypher.sanitize node, name⟩ := by
  simp only [leaf, hid, if_false, Selection.responseKey]
  split
  · rename_i hkey
    have hnone : key = none := by simpa using (Bool.and_eq_true_iff.mp hkey).1
    rw [tokens_shorthand]
    simp [Lookup.read?, hnone]
  · rw [tokens_full]
    simp [Lookup.read?]

theorem balanced_leaf (node : String) (bare : Bool) (selection : Selection) :
    Balanced (leaf node bare selection).tokens := by
  unfold leaf
  split
  · rw [tokens_internalId]
    apply Balanced.of_no_brace <;> simp [Cypher.mark_ne_ofName]
  · split
    · rw [tokens_shorthand]
      apply Balanced.of_no_brace <;> simp [Cypher.mark_ne_ofName]
    · rw [tokens_full]
      apply Balanced.of_no_brace <;> simp [Cypher.mark_ne_ofName]

theorem balanced_endpointField {parent : Selection} {node : String} {selection : Selection}
    {fragment : Fragment} (h : endpointField parent node selection = .ok fragment) :
    Balanced fragment.tokens := by
  unfold endpointField at h
  split at h
  · rw [← Except.ok.inj h]
    exact balanced_leaf node false selection
  · cases h

theorem tokens_endpointKey (key node : String) :
    Fragment.tokens [.name key, .fixed ": ", .var node, .fixed " "] =
      [.ofName key, .mark ':', .word (Cypher.sanitize node)] := rfl

theorem tokens_braced (fragment : Fragment) :
    fragment.braced.tokens = .mark '\x7b' :: fragment.tokens ++ [.mark '\x7d'] := by
  simp only [Fragment.braced, Fragment.tokens_append]
  rfl

theorem balanced_endpoint {selection : Selection} {node : String} {fragment : Fragment}
    (h : endpoint selection node = .ok fragment) : Balanced fragment.tokens := by
  obtain ⟨fields, hfields, hfragment⟩ := exists_of_bind_eq_ok h
  have inner := Fragment.balanced_listed (forall_mem_of_mapM hfields fun _ _ => balanced_endpointField)
  have front : Balanced [.ofName selection.responseKey, .mark ':', .word (Cypher.sanitize node)] := by
    apply Balanced.of_no_brace <;> simp [Cypher.mark_ne_ofName]
  have whole := front.append inner.braced
  rw [← Except.ok.inj hfragment, Fragment.tokens_append, tokens_endpointKey, tokens_braced]
  exact whole

theorem balanced_entry {request : SelectionRequest} {selection : Selection} {fragment : Fragment}
    (h : entry request selection = .ok fragment) : Balanced fragment.tokens := by
  unfold entry at h
  split at h
  · rw [← Except.ok.inj h]
    exact balanced_leaf _ _ selection
  · split at h
    · exact balanced_endpoint h
    · cases h

theorem projected_around (before : List Selection) {selection : Selection} (after : List Selection)
    (h : selection.name ≠ typenameField) :
    projected (before ++ selection :: after) = projected before ++ selection :: projected after := by
  simp [projected, h]

/-- Entries of a map that differ in the one they are around. -/
def Around (x y : Fragment) (related : Fragment → Fragment → Prop) : Prop :=
  ∃ front b c back, (∀ entry ∈ front, Balanced entry.tokens) ∧ related b c ∧
    x = Fragment.leading front ++ b ++ Fragment.trailing back ∧
    y = Fragment.leading front ++ c ++ Fragment.trailing back

/-- Listed entries of selections that differ in one. -/
theorem listed_concur {related : Fragment → Fragment → Prop}
    {g : Selection → Except SynthesisError Fragment} (before : List Selection) {x y : Selection}
    (after : List Selection) (h : Concur related (g x) (g y))
    (hx : x.name ≠ typenameField) (hy : y.name ≠ typenameField)
    (balanced : ∀ selection fragment, g selection = .ok fragment → Balanced fragment.tokens) :
    Concur (fun bs cs => Around (Fragment.listed bs) (Fragment.listed cs) related)
      ((projected (before ++ x :: after)).mapM g) ((projected (before ++ y :: after)).mapM g) := by
  rw [projected_around before after hx, projected_around before after hy]
  refine (h.mapM_around (projected before) (projected after)).mono ?_
  rintro _ _ ⟨front, b, c, back, hfront, hbc, rfl, rfl⟩
  refine ⟨front, b, c, back, forall_mem_of_mapM hfront balanced, hbc, ?_, ?_⟩
  · exact Fragment.listed_append front b back
  · exact Fragment.listed_append front c back

section Keys

variable {name : String} (key key' : Option String) (htypename : name ≠ typenameField)

/-- The entries of one field under two keys. -/
def Keyed (name : String) (key key' : Option String) (node : String) (bare : Bool)
    (b c : Fragment) : Prop :=
  b = leaf node bare ⟨name, key, []⟩ ∧ c = leaf node bare ⟨name, key', []⟩

include htypename

theorem flat_top_concur (request : SelectionRequest) (before after : List Selection) :
    Concur (fun p q => p.parameters = q.parameters ∧
        Around p.fragment q.fragment (Keyed name key key' request.root (isBare request.linkage)))
      (flat { request with selections := before ++ ⟨name, key, []⟩ :: after })
      (flat { request with selections := before ++ ⟨name, key', []⟩ :: after }) := by
  have entries : Concur (Keyed name key key' request.root (isBare request.linkage))
      (entry request ⟨name, key, []⟩) (entry request ⟨name, key', []⟩) := .ok ⟨rfl, rfl⟩
  have listed := listed_concur before after entries htypename htypename fun _ _ => balanced_entry
  exact listed.bind fun _ _ _ _ around => .ok ⟨rfl, around⟩

/-- The fields of one end of a relationship, under the key of the end. -/
def Ended (related : Fragment → Fragment → Prop) (key node : String) (b c : Fragment) : Prop :=
  ∃ fields fields', Around fields fields' related ∧
    b = [.name key, .fixed ": ", .var node, .fixed " "] ++ fields.braced ∧
    c = [.name key, .fixed ": ", .var node, .fixed " "] ++ fields'.braced

theorem endpoint_concur (parent : Selection) (node : String) (before after : List Selection) :
    Concur (Ended (Keyed name key key' node false) parent.responseKey node)
      (endpoint { parent with selections := before ++ ⟨name, key, []⟩ :: after } node)
      (endpoint { parent with selections := before ++ ⟨name, key', []⟩ :: after } node) := by
  have fields : Concur (Keyed name key key' node false)
      (endpointField parent node ⟨name, key, []⟩) (endpointField parent node ⟨name, key', []⟩) :=
    .ok ⟨rfl, rfl⟩
  have listed :=
    listed_concur before after fields htypename htypename fun _ _ => balanced_endpointField
  exact listed.bind fun _ _ _ _ around => .ok ⟨_, _, around, rfl, rfl⟩

theorem flat_within_concur (request : SelectionRequest) (before : List Selection)
    {parent : Selection} (hparent : parent.name ≠ typenameField)
    (innerBefore innerAfter after : List Selection) :
    Concur (fun p q => p.parameters = q.parameters ∧ Around p.fragment q.fragment fun b c =>
        ∃ node, Ended (Keyed name key key' node false) parent.responseKey node b c)
      (flat { request with selections := before ++
        { parent with selections := innerBefore ++ ⟨name, key, []⟩ :: innerAfter } :: after })
      (flat { request with selections := before ++
        { parent with selections := innerBefore ++ ⟨name, key', []⟩ :: innerAfter } :: after }) := by
  have nested (field : Selection) : Selection.isLeaf
      { parent with selections := innerBefore ++ field :: innerAfter } = false := by
    simp [Selection.isLeaf]
  have entries : Concur
      (fun b c => ∃ node, Ended (Keyed name key key' node false) parent.responseKey node b c)
      (entry request { parent with selections := innerBefore ++ ⟨name, key, []⟩ :: innerAfter })
      (entry request { parent with selections := innerBefore ++ ⟨name, key', []⟩ :: innerAfter }) := by
    simp only [entry, nested, Bool.false_eq_true, if_false]
    cases endpointVariable? request.linkage parent.name with
    | none => exact .error _
    | some node =>
      exact (endpoint_concur key key' htypename parent node innerBefore innerAfter).mono
        fun _ _ h => ⟨node, h⟩
  have listed := listed_concur before after entries hparent hparent fun _ _ => balanced_entry
  exact listed.bind fun _ _ _ _ around => .ok ⟨rfl, around⟩

end Keys

/-- The variable that a field is read from in a projection of `base`. -/
def source (base node : String) (bare : Bool) (key : Option String) : String :=
  if key.isNone && !bare then base else Cypher.sanitize node

/-- An entry at the top is one of the projection that the statement opens. -/
theorem differ_top {name base node : String} {key key' : Option String} {bare : Bool}
    (hid : name ≠ internalIdField) {opening x y closing : Fragment} {front : List Token}
    (hopening : opening.tokens = front ++ [.word base, .mark '\x7b'])
    (hclosing : Closes closing.tokens)
    (h : Around x y (Keyed name key key' node bare)) :
    DifferInEntry ⟨key.getD name, source base node bare key, name⟩
      ⟨key'.getD name, source base node bare key', name⟩
      (opening ++ x ++ closing).tokens (opening ++ y ++ closing).tokens := by
  obtain ⟨entries, b, c, others, balanced, ⟨rfl, rfl⟩, rfl, rfl⟩ := h
  refine ⟨_, _, _, _, _, ?_, ?_, opens_leading front (.word base) balanced,
    closes_trailing others hclosing, read?_leaf base node bare key hid,
    read?_leaf base node bare key' hid⟩
  · simp only [Fragment.tokens_append, hopening, List.append_assoc]
  · simp only [Fragment.tokens_append, hopening, List.append_assoc]

/-- An entry of one end of a relationship is one of the projection of that end. -/
theorem differ_within {name endKey : String} {key key' : Option String}
    (hid : name ≠ internalIdField) (opening : Fragment) {x y : Fragment} (closing : Fragment)
    (h : Around x y fun b c => ∃ node, Ended (Keyed name key key' node false) endKey node b c) :
    ∃ variableName, DifferInEntry ⟨key.getD name, variableName, name⟩
      ⟨key'.getD name, variableName, name⟩
      (opening ++ x ++ closing).tokens (opening ++ y ++ closing).tokens := by
  obtain ⟨entries, b, c, others, -, ⟨node, fields, fields', inner, rfl, rfl⟩, rfl, rfl⟩ := h
  obtain ⟨first, b, c, last, balanced, ⟨rfl, rfl⟩, rfl, rfl⟩ := inner
  have read (k : Option String) := read?_leaf (Cypher.sanitize node) node false k hid
  simp only [ite_self] at read
  refine ⟨Cypher.sanitize node, _, _, _, _, _, ?_, ?_,
    opens_leading (opening.tokens ++ (Fragment.leading entries).tokens ++ [.ofName endKey, .mark ':'])
      (.word (Cypher.sanitize node)) balanced,
    closes_trailing last (.inl rfl : Closes ([.mark '\x7d'] ++ (Fragment.trailing others).tokens ++
      closing.tokens)), read key, read key'⟩
  · simp only [Fragment.tokens_append, tokens_endpointKey, tokens_braced]
    simp
  · simp only [Fragment.tokens_append, tokens_endpointKey, tokens_braced]
    simp

end Projection

end CypherSynthesis
