import CypherSynthesis.Unicode.Emoji
import CypherSynthesis.Unicode.Mark

/-!
The classes by which text is divided into what readers take for one character.
-/

namespace CypherSynthesis.Unicode.GraphemeBreak

open Text (CharSet)

def carriageReturn : CharSet := .single '\r'

def lineFeed : CharSet := .single '\n'

def zeroWidthJoiner : CharSet := .ofCodes [0x200D]

def extend : CharSet := .union graphemeExtend emojiModifier

/-- Separators, controls and what cannot be seen, unless it belongs to the characters around it. -/
def control : CharSet :=
  .diff
    (.unionAll [category .lineSeparator, category .paragraphSeparator, category .control,
      category .format, .inter (category .unassigned) defaultIgnorable])
    (.unionAll [carriageReturn, lineFeed, .ofCodes [0x200C], zeroWidthJoiner,
      prependedConcatenationMark, graphemeExtend])

/-- Marks and consonants that belong to the characters behind them. -/
def prepend : CharSet :=
  .union prependedConcatenationMark (.ofRanges
    [(0xD4E, 0xD4E), (0x111C2, 0x111C3), (0x113D1, 0x113D1), (0x1193F, 0x1193F),
     (0x11941, 0x11941), (0x11A3A, 0x11A3A), (0x11A84, 0x11A89), (0x11D46, 0x11D46),
     (0x11F02, 0x11F02)])

/-- Spacing marks that stand for themselves. -/
def separateMark : CharSet :=
  .ofRanges
    [(0x102B, 0x102C), (0x1038, 0x1038), (0x1062, 0x1064), (0x1067, 0x106D), (0x1083, 0x1083),
     (0x1087, 0x108C), (0x108F, 0x108F), (0x109A, 0x109C), (0x1A61, 0x1A61), (0x1A63, 0x1A64),
     (0xAA7B, 0xAA7B), (0xAA7D, 0xAA7D), (0x11720, 0x11721)]

def spacingMark : CharSet :=
  .union (.diff (.diff (category .spacingMark) graphemeExtend) separateMark)
    (.ofCodes [0xE33, 0xEB3])

def leadingJamo : CharSet :=
  .ofRanges [(0x1100, 0x115F), (0xA960, 0xA97C)]

def vowelJamo : CharSet :=
  .ofRanges [(0x1160, 0x11A7), (0xD7B0, 0xD7C6), (0x16D63, 0x16D63), (0x16D67, 0x16D6A)]

def trailingJamo : CharSet :=
  .ofRanges [(0x11A8, 0x11FF), (0xD7CB, 0xD7FB)]

/-- Syllables without a trailing consonant, which are followed by those with one. -/
def openSyllable : CharSet :=
  .ofStrides [⟨0xAC00, 0xD788, 28⟩]

def closedSyllable : CharSet :=
  .diff (.ofRanges [(0xAC00, 0xD7A3)]) openSyllable

def classes : List (List String × CharSet) :=
  [(["cn", "control"], control),
   (["cr"], carriageReturn),
   (["ex", "extend"], extend),
   (["l"], leadingJamo),
   (["lf"], lineFeed),
   (["lv"], openSyllable),
   (["lvt"], closedSyllable),
   (["pp", "prepend"], prepend),
   (["ri", "regionalindicator"], regionalIndicator),
   (["sm", "spacingmark"], spacingMark),
   (["t"], trailingJamo),
   (["v"], vowelJamo),
   (["zwj"], zeroWidthJoiner)]

end CypherSynthesis.Unicode.GraphemeBreak
