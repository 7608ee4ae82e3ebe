import CypherSynthesis.Unicode.Emoji
import CypherSynthesis.Unicode.Script
import CypherSynthesis.Unicode.Letter

/-!
The classes by which text is divided into words.
-/

namespace CypherSynthesis.Unicode.WordBreak

open Text (CharSet)

def newline : CharSet :=
  .ofRanges [(0xB, 0xC), (0x85, 0x85), (0x2028, 0x2029)]

def zeroWidthJoiner : CharSet := .ofCodes [0x200D]

def extend : CharSet :=
  .diff (.unionAll [graphemeExtend, category .spacingMark, emojiModifier]) zeroWidthJoiner

def format : CharSet :=
  .diff (category .format)
    (.unionAll [.ofRanges [(0x200B, 0x200D)], prependedConcatenationMark, graphemeExtend])

def katakana : CharSet :=
  .union (scriptSet "katakana") (.ofRanges
    [(0x3031, 0x3035), (0x309B, 0x309C), (0x30A0, 0x30A0), (0x30FC, 0x30FC), (0xFF70, 0xFF70)])

def hebrewLetter : CharSet :=
  .inter (scriptSet "hebrew") (category .otherLetter)

/-- Characters of scripts that put no blanks between words. -/
def unspaced : CharSet :=
  .ofRanges
    [(0xE01, 0xE3A), (0xE40, 0xE4E), (0xE81, 0xE82), (0xE84, 0xE84), (0xE86, 0xE8A),
     (0xE8C, 0xEA3), (0xEA5, 0xEA5), (0xEA7, 0xEBD), (0xEC0, 0xEC4), (0xEC6, 0xEC6),
     (0xEC8, 0xECE), (0xEDC, 0xEDF), (0x1000, 0x103F), (0x1050, 0x108F), (0x109A, 0x109F),
     (0x1780, 0x17D3), (0x17D7, 0x17D7), (0x17DC, 0x17DD), (0x1950, 0x196D), (0x1970, 0x1974),
     (0x1980, 0x19AB), (0x19B0, 0x19C9), (0x19DA, 0x19DA), (0x19DE, 0x19DF), (0x1A20, 0x1A5E),
     (0x1A60, 0x1A7C), (0x1AA0, 0x1AAD), (0xA9E0, 0xA9EF), (0xA9FA, 0xA9FE), (0xAA60, 0xAAC2),
     (0xAADB, 0xAADF), (0x11700, 0x1171A), (0x1171D, 0x1172B), (0x1173A, 0x1173B),
     (0x1173F, 0x11746)]

/-- Characters that go with letters without being letters. -/
def letterLike : CharSet :=
  .ofRanges
    [(0x2C2, 0x2C5), (0x2D2, 0x2D7), (0x2DE, 0x2DF), (0x2E5, 0x2EB), (0x2ED, 0x2ED),
     (0x2EF, 0x2FF), (0x55A, 0x55C), (0x55E, 0x55E), (0x58A, 0x58A), (0x5F3, 0x5F3),
     (0x70F, 0x70F), (0xA708, 0xA716), (0xA720, 0xA721), (0xA789, 0xA78A), (0xAB5B, 0xAB5B)]

def letter : CharSet :=
  .union letterLike (.diff alphabetic
    (.unionAll [ideographic, katakana, unspaced, scriptSet "hiragana", extend, hebrewLetter]))

def midLetter : CharSet :=
  .ofCodes [0x3A, 0xB7, 0x387, 0x55F, 0x5F4, 0x2027, 0xFE13, 0xFE55, 0xFF1A]

def midNumber : CharSet :=
  .ofCodes [0x2C, 0x3B, 0x37E, 0x589, 0x60C, 0x60D, 0x66C, 0x7F8, 0x2044, 0xFE10, 0xFE14, 0xFE50,
    0xFE54, 0xFF0C, 0xFF1B]

def midLetterOrNumber : CharSet :=
  .ofCodes [0x2E, 0x2018, 0x2019, 0x2024, 0xFE52, 0xFF07, 0xFF0E]

/-- Marks in front of numbers. -/
def numberMark : CharSet :=
  .ofRanges
    [(0x600, 0x605), (0x6DD, 0x6DD), (0x890, 0x891), (0x8E2, 0x8E2), (0x110BD, 0x110BD),
     (0x110CD, 0x110CD)]

def numeric : CharSet :=
  .unionAll [category .decimalNumber, .ofCodes [0x66B], numberMark]

def connector : CharSet :=
  .ofCodes [0x5F, 0x202F, 0x203F, 0x2040, 0x2054, 0xFE33, 0xFE34, 0xFE4D, 0xFE4E, 0xFE4F, 0xFF3F]

def space : CharSet :=
  .ofRanges
    [(0x20, 0x20), (0x1680, 0x1680), (0x2000, 0x2006), (0x2008, 0x200A), (0x205F, 0x205F),
     (0x3000, 0x3000)]

def classes : List (List String × CharSet) :=
  [(["le", "aletter"], letter),
   (["cr"], .single '\r'),
   (["dq", "doublequote"], .ofCodes [0x22]),
   (["extend"], extend),
   (["ex", "extendnumlet"], connector),
   (["fo", "format"], format),
   (["hl", "hebrewletter"], hebrewLetter),
   (["ka", "katakana"], katakana),
   (["lf"], .single '\n'),
   (["mb", "midnumlet"], midLetterOrNumber),
   (["ml", "midletter"], midLetter),
   (["mn", "midnum"], midNumber),
   (["nl", "newline"], newline),
   (["nu", "numeric"], numeric),
   (["ri", "regionalindicator"], regionalIndicator),
   (["sq", "singlequote"], .ofCodes [0x27]),
   (["wsegspace"], space),
   (["zwj"], zeroWidthJoiner)]

end CypherSynthesis.Unicode.WordBreak

namespace CypherSynthesis.Unicode

open Text (CharSet)

/-- Characters that do not separate letters of one word. -/
def caseIgnorable : CharSet :=
  .unionAll [category .nonspacingMark, category .enclosingMark, category .format,
    category .modifierLetter, category .modifierSymbol, WordBreak.midLetter,
    WordBreak.midLetterOrNumber, .ofCodes [0x27]]

end CypherSynthesis.Unicode
