import CypherSynthesis.Unicode.Break.Word
import CypherSynthesis.Unicode.Punctuation

/-!
The classes by which text is divided into sentences.
-/

namespace CypherSynthesis.Unicode.SentenceBreak

open Text (CharSet)

/-- Full stops, which may also end an abbreviation. -/
def stop : CharSet := .ofCodes [0x2E, 0x2024, 0xFE52, 0xFF0E]

def terminator : CharSet := .diff sentenceTerminal stop

def separator : CharSet := .ofRanges [(0x85, 0x85), (0x2028, 0x2029)]

def space : CharSet :=
  .diff whiteSpace (.union separator (.ofList ['\r', '\n']))

def extend : CharSet :=
  .unionAll [graphemeExtend, category .spacingMark, .ofCodes [0x200D]]

def format : CharSet :=
  .diff (category .format)
    (.unionAll [.ofRanges [(0x200C, 0x200D)], graphemeExtend, prependedConcatenationMark])

def lower : CharSet :=
  .diff lowercase (.union graphemeExtend (.ofRanges [(0x10D0, 0x10FA), (0x10FD, 0x10FF)]))

def upper : CharSet :=
  .diff (.union (category .titlecaseLetter) uppercase)
    (.ofRanges [(0x1C90, 0x1CBA), (0x1CBD, 0x1CBF)])

def otherLetter : CharSet :=
  .diff (.union alphabetic (.ofCodes [0x5F3, 0x70F])) (.unionAll [lower, upper, extend])

def numeric : CharSet :=
  .unionAll [category .decimalNumber, .ofRanges [(0x66B, 0x66C)], WordBreak.numberMark]

/-- Quotation marks that may open as well as close. -/
def quotation : CharSet :=
  .ofRanges
    [(0x22, 0x22), (0x27, 0x27), (0xAB, 0xAB), (0xBB, 0xBB), (0x2018, 0x2019), (0x201B, 0x201D),
     (0x201F, 0x201F), (0x2039, 0x203A), (0x275B, 0x2760), (0x2E00, 0x2E0D), (0x2E1C, 0x2E1D),
     (0x2E20, 0x2E21), (0x1F676, 0x1F678)]

def bracket : CharSet :=
  .diff
    (.unionAll [category .openPunctuation, category .closePunctuation,
      category .initialPunctuation, category .finalPunctuation, quotation])
    (.unionAll [.ofCodes [0x5F3], stop, terminator])

def comma : CharSet :=
  .ofRanges
    [(0x2C, 0x2D), (0x3A, 0x3B), (0x37E, 0x37E), (0x55D, 0x55D), (0x60C, 0x60D), (0x7F8, 0x7F8),
     (0x1802, 0x1802), (0x1808, 0x1808), (0x2013, 0x2014), (0x3001, 0x3001), (0xFE10, 0xFE11),
     (0xFE13, 0xFE14), (0xFE31, 0xFE32), (0xFE50, 0xFE51), (0xFE54, 0xFE55), (0xFE58, 0xFE58),
     (0xFE63, 0xFE63), (0xFF0C, 0xFF0D), (0xFF1A, 0xFF1B), (0xFF64, 0xFF64)]

def classes : List (List String × CharSet) :=
  [(["at", "aterm"], stop),
   (["cl", "close"], bracket),
   (["cr"], .single '\r'),
   (["ex", "extend"], extend),
   (["fo", "format"], format),
   (["le", "oletter"], otherLetter),
   (["lf"], .single '\n'),
   (["lo", "lower"], lower),
   (["nu", "numeric"], numeric),
   (["sc", "scontinue"], comma),
   (["se", "sep"], separator),
   (["sp"], space),
   (["st", "sterm"], terminator),
   (["up", "upper"], upper)]

end CypherSynthesis.Unicode.SentenceBreak
