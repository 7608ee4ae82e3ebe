import CypherSynthesis.Cypher.Name

/-!
Statement text in pieces. Fixed words and punctuation, variables, names, parameter references and
string literals are kept apart until the text is rendered, so it is plain from a fragment which parts
of a statement come from the request.
-/

namespace CypherSynthesis.Cypher

inductive Piece where
  /-- Words and punctuation of the statement's form. -/
  | fixed (text : String)
  | var (name : String)
  | name (name : String)
  /-- A parameter, or a value inside one. -/
  | param (path : List String)
  | literal (text : String)
  /-- Text that a projector made and that is taken as it is. -/
  | given (text : String)
  deriving DecidableEq, Repr

def Piece.render : Piece → String
  | .fixed s => s
  | .var s => sanitize s
  | .name s => quote s
  | .param path => reference path
  | .literal s => Cypher.literal s
  | .given s => s

abbrev Fragment := List Piece

namespace Fragment

def render (fragment : Fragment) : String :=
  String.join (fragment.map Piece.render)

/-- Fragments with a fixed text between each two of them. -/
def joined (separator : String) : List Fragment → Fragment
  | [] => []
  | [fragment] => fragment
  | fragment :: rest => fragment ++ [.fixed separator] ++ joined separator rest

def listed (fragments : List Fragment) : Fragment :=
  joined ", " fragments

/-- Between braces. -/
def braced (fragment : Fragment) : Fragment :=
  [.fixed "\x7b"] ++ fragment ++ [.fixed "\x7d"]

@[simp] theorem render_nil : render [] = "" := rfl

@[simp] theorem render_cons (piece : Piece) (rest : Fragment) :
    render (piece :: rest) = piece.render ++ render rest :=
  String.join_cons

@[simp] theorem render_append (before after : Fragment) :
    render (before ++ after) = render before ++ render after := by
  simp only [render, List.map_append, String.join_append]

theorem render_joined (separator : String) (fragments : List Fragment) :
    (joined separator fragments).render = separator.intercalate (fragments.map render) := by
  induction fragments with
  | nil => simp [joined]
  | cons fragment rest ih =>
    cases rest with
    | nil => simp [joined]
    | cons next rest =>
      simp only [List.map_cons] at ih
      simp [joined, ih, Piece.render, String.append_assoc]

end Fragment
end CypherSynthesis.Cypher
