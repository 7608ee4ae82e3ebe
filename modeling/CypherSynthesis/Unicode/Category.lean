import CypherSynthesis.Text.Case
import CypherSynthesis.Text.Category

/-!
The general categories, and simple case folding: characters that differ only in case fold to the same
character, most of them to their lower case. The properties in this directory are those of the version
before the most recent one, the seventeenth: what that version has assigned is unassigned here, and
U+0295 is a lower-case letter still.
-/

namespace CypherSynthesis.Unicode

open Text (CharSet)

/-- The code points that the most recent version has assigned. -/
def recent : CharSet :=
  .ofStrides [⟨0x88F, 0x88F, 1⟩, ⟨0xC5C, 0xC5C, 1⟩, ⟨0xCDC, 0xCDC, 1⟩, ⟨0x1ACF, 0x1ADD, 1⟩,
    ⟨0x1AE0, 0x1AEB, 1⟩, ⟨0x20C1, 0x20C1, 1⟩, ⟨0x2B96, 0x2B96, 1⟩, ⟨0xA7CE, 0xA7CF, 1⟩,
    ⟨0xA7D2, 0xA7D4, 2⟩, ⟨0xA7F1, 0xA7F1, 1⟩, ⟨0xFBC3, 0xFBD2, 1⟩, ⟨0xFD90, 0xFD91, 1⟩,
    ⟨0xFDC8, 0xFDCE, 1⟩, ⟨0x10940, 0x10959, 1⟩, ⟨0x10EC5, 0x10EC7, 1⟩, ⟨0x10ED0, 0x10ED8, 1⟩,
    ⟨0x10EFA, 0x10EFB, 1⟩, ⟨0x11B60, 0x11B67, 1⟩, ⟨0x11DB0, 0x11DDB, 1⟩, ⟨0x11DE0, 0x11DE9, 1⟩,
    ⟨0x16EA0, 0x16EB8, 1⟩, ⟨0x16EBB, 0x16ED3, 1⟩, ⟨0x16FF2, 0x16FF6, 1⟩, ⟨0x187F8, 0x187FF, 1⟩,
    ⟨0x18D09, 0x18D1E, 1⟩, ⟨0x18D80, 0x18DF2, 1⟩, ⟨0x1CCFA, 0x1CCFC, 1⟩, ⟨0x1CEBA, 0x1CED0, 1⟩,
    ⟨0x1CEE0, 0x1CEF0, 1⟩, ⟨0x1E6C0, 0x1E6DE, 1⟩, ⟨0x1E6E0, 0x1E6F5, 1⟩, ⟨0x1E6FE, 0x1E6FF, 1⟩,
    ⟨0x1F6D8, 0x1F6D8, 1⟩, ⟨0x1F777, 0x1F77A, 1⟩, ⟨0x1F8D0, 0x1F8D8, 1⟩, ⟨0x1FA54, 0x1FA57, 1⟩,
    ⟨0x1FA8A, 0x1FA8A, 1⟩, ⟨0x1FA8E, 0x1FA8E, 1⟩, ⟨0x1FAC8, 0x1FAC8, 1⟩, ⟨0x1FACD, 0x1FACD, 1⟩,
    ⟨0x1FAEA, 0x1FAEA, 1⟩, ⟨0x1FAEF, 0x1FAEF, 1⟩, ⟨0x1FBFA, 0x1FBFA, 1⟩, ⟨0x2B73A, 0x2B73F, 1⟩,
    ⟨0x2CEA2, 0x2CEAD, 1⟩, ⟨0x323B0, 0x33479, 1⟩]

open Text (Category CharSet)

def glottal : CharSet := .ofCodes [0x295]

def assigned : CharSet :=
  .diff (.ofStrides (Category.assigned.flatMap (·.strides))) recent

def category : Category → CharSet
  | .lowercaseLetter =>
    .union (.diff (.ofStrides Category.lowercaseLetter.strides) recent) glottal
  | .otherLetter =>
    .diff (.diff (.ofStrides Category.otherLetter.strides) recent) glottal
  | .unassigned => assigned.compl
  | other => .diff (.ofStrides other.strides) recent

def categories (members : List Category) : CharSet :=
  .unionAll (members.map category)

open Text (CaseRun CharSet)

/-- The characters that fold to another one although they have no lower case of their own. -/
def foldingRuns : List CaseRun :=
  [⟨0xB5, 0xB5, 1, 775⟩, ⟨0x17F, 0x17F, 1, -268⟩, ⟨0x345, 0x345, 1, 116⟩, ⟨0x3C2, 0x3C2, 1, 1⟩,
   ⟨0x3D0, 0x3D0, 1, -30⟩, ⟨0x3D1, 0x3D1, 1, -25⟩, ⟨0x3D5, 0x3D5, 1, -15⟩, ⟨0x3D6, 0x3D6, 1, -22⟩,
   ⟨0x3F0, 0x3F0, 1, -54⟩, ⟨0x3F1, 0x3F1, 1, -48⟩, ⟨0x3F5, 0x3F5, 1, -64⟩,
   ⟨0x1C80, 0x1C80, 1, -6222⟩, ⟨0x1C81, 0x1C81, 1, -6221⟩, ⟨0x1C82, 0x1C82, 1, -6212⟩,
   ⟨0x1C83, 0x1C84, 1, -6210⟩, ⟨0x1C85, 0x1C85, 1, -6211⟩, ⟨0x1C86, 0x1C86, 1, -6204⟩,
   ⟨0x1C87, 0x1C87, 1, -6180⟩, ⟨0x1C88, 0x1C88, 1, 35267⟩, ⟨0x1E9B, 0x1E9B, 1, -58⟩,
   ⟨0x1FBE, 0x1FBE, 1, -7173⟩, ⟨0x1FD3, 0x1FD3, 1, -7235⟩, ⟨0x1FE3, 0x1FE3, 1, -7219⟩,
   ⟨0xFB05, 0xFB05, 1, 1⟩]

/-- The code points that fold, each with the one that it folds to. -/
def foldPairs : List (Nat × Nat) :=
  let pairs (r : CaseRun) : List (Nat × Nat) :=
    r.stride.codes.map fun n => (n, (n + r.shift).toNat)
  ((foldingRuns ++ Text.lowercaseRuns).flatMap pairs).filter fun pair =>
    !recent.holdsCode pair.1

def asciiFoldPairs : List (Nat × Nat) :=
  foldPairs.filter (·.1 < 0x80)

/-- Adds what differs from a member only in case: what the members fold to, and then whatever folds
to one of these. -/
def foldedBy (pairs : List (Nat × Nat)) (s : CharSet) : CharSet :=
  let targets := (pairs.filter fun pair => s.holdsCode pair.1).map Prod.snd
  let closed := s.union (.ofCodes targets)
  let sources := (pairs.filter fun pair => closed.holdsCode pair.2).map Prod.fst
  closed.union (.ofCodes sources)

def folded (s : CharSet) : CharSet := foldedBy foldPairs s

/-- The same with the letters of ASCII alone. -/
def asciiFolded (s : CharSet) : CharSet := foldedBy asciiFoldPairs s

end CypherSynthesis.Unicode
