import CypherSynthesis.Unicode.Age
import CypherSynthesis.Unicode.Break.Grapheme
import CypherSynthesis.Unicode.Break.Sentence
import CypherSynthesis.Unicode.Identifier
import CypherSynthesis.Unicode.ScriptExtension

/-!
Properties by their names, such as `Dash`, `Lu`, `Greek` and `Age=6.0`.
-/

namespace CypherSynthesis.Unicode

open Text (Category CharSet)

/-! ### General categories -/

/-- Each general category and each group of them, under its abbreviation and its names. -/
def categoryNames : List (List String × List Category) :=
  [(["lu", "uppercaseletter"], [.uppercaseLetter]),
   (["ll", "lowercaseletter"], [.lowercaseLetter]),
   (["lt", "titlecaseletter"], [.titlecaseLetter]),
   (["lc", "casedletter"], [.uppercaseLetter, .lowercaseLetter, .titlecaseLetter]),
   (["lm", "modifierletter"], [.modifierLetter]),
   (["lo", "otherletter"], [.otherLetter]),
   (["l", "letter"], Category.letters),
   (["mn", "nonspacingmark"], [.nonspacingMark]),
   (["mc", "spacingmark"], [.spacingMark]),
   (["me", "enclosingmark"], [.enclosingMark]),
   (["m", "mark", "combiningmark"], Category.marks),
   (["nd", "decimalnumber", "digit"], [.decimalNumber]),
   (["nl", "letternumber"], [.letterNumber]),
   (["no", "othernumber"], [.otherNumber]),
   (["n", "number"], Category.numbers),
   (["pc", "connectorpunctuation"], [.connectorPunctuation]),
   (["pd", "dashpunctuation"], [.dashPunctuation]),
   (["ps", "openpunctuation"], [.openPunctuation]),
   (["pe", "closepunctuation"], [.closePunctuation]),
   (["pi", "initialpunctuation"], [.initialPunctuation]),
   (["pf", "finalpunctuation"], [.finalPunctuation]),
   (["po", "otherpunctuation"], [.otherPunctuation]),
   (["p", "punctuation", "punct"], Category.punctuation),
   (["sm", "mathsymbol"], [.mathSymbol]),
   (["sc", "currencysymbol"], [.currencySymbol]),
   (["sk", "modifiersymbol"], [.modifierSymbol]),
   (["so", "othersymbol"], [.otherSymbol]),
   (["s", "symbol"], Category.symbols),
   (["zs", "spaceseparator"], [.spaceSeparator]),
   (["zl", "lineseparator"], [.lineSeparator]),
   (["zp", "paragraphseparator"], [.paragraphSeparator]),
   (["z", "separator"], Category.separators),
   (["cc", "control", "cntrl"], [.control]),
   (["cf", "format"], [.format]),
   (["co", "privateuse"], [.privateUse]),
   (["cn", "unassigned"], [.unassigned]),
   (["c", "other"], Category.others)]

def category? (name : String) : Option CharSet :=
  if name = "any" then some (CharSet.empty.compl)
  else if name = "assigned" then some assigned
  else if name = "ascii" then some .ascii
  else (categoryNames.find? (·.1.contains name)).map fun entry => categories entry.2

/-! ### Properties that hold or do not hold -/

def asciiHexDigit : CharSet :=
  .ofRanges [(0x30, 0x39), (0x41, 0x46), (0x61, 0x66)]

/-- Hexadecimal digits, those of double width included. -/
def hexDigit : CharSet :=
  .union asciiHexDigit (.ofRanges [(0xFF10, 0xFF19), (0xFF21, 0xFF26), (0xFF41, 0xFF46)])

def propertyNames : List (List String × CharSet) :=
  [(["alphabetic", "alpha"], alphabetic),
   (["asciihexdigit", "ahex"], asciiHexDigit),
   (["bidicontrol", "bidic"], bidiControl),
   (["bidimirrored", "bidim"], bidiMirrored),
   (["cased"], cased),
   (["caseignorable", "ci"], caseIgnorable),
   (["changeswhencasefolded", "cwcf"], changesWhenCasefolded),
   (["changeswhencasemapped", "cwcm"], changesWhenCasemapped),
   (["changeswhenlowercased", "cwl"], changesWhenLowercased),
   (["changeswhentitlecased", "cwt"], changesWhenTitlecased),
   (["changeswhenuppercased", "cwu"], changesWhenUppercased),
   (["dash"], dash),
   (["defaultignorablecodepoint", "di"], defaultIgnorable),
   (["deprecated", "dep"], deprecated),
   (["diacritic", "dia"], diacritic),
   (["emoji"], emoji),
   (["emojicomponent", "ecomp"], emojiComponent),
   (["emojimodifier", "emod"], emojiModifier),
   (["emojimodifierbase", "ebase"], emojiModifierBase),
   (["emojipresentation", "epres"], emojiPresentation),
   (["extendedpictographic", "extpict"], extendedPictographic),
   (["extender", "ext"], extender),
   (["graphemebase", "grbase"], graphemeBase),
   (["graphemeextend", "grext"], graphemeExtend),
   (["graphemelink", "grlink"], graphemeLink),
   (["hexdigit", "hex"], hexDigit),
   (["hyphen"], hyphen),
   (["idcompatmathcontinue"], idCompatMathContinue),
   (["idcompatmathstart"], idCompatMathStart),
   (["idcontinue", "idc"], idContinue),
   (["ideographic", "ideo"], ideographic),
   (["idsbinaryoperator", "idsb"], idsBinaryOperator),
   (["idstart", "ids"], idStart),
   (["idstrinaryoperator", "idst"], idsTrinaryOperator),
   (["idsunaryoperator", "idsu"], idsUnaryOperator),
   (["joincontrol", "joinc"], joinControl),
   (["logicalorderexception", "loe"], logicalOrderException),
   (["lowercase", "lower"], lowercase),
   (["math"], math),
   (["modifiercombiningmark", "mcm"], modifierCombiningMark),
   (["noncharactercodepoint", "nchar"], noncharacter),
   (["otheralphabetic", "oalpha"], otherAlphabetic),
   (["otherdefaultignorablecodepoint", "odi"], otherDefaultIgnorable),
   (["othergraphemeextend", "ogrext"], otherGraphemeExtend),
   (["otheridcontinue", "oidc"], otherIdContinue),
   (["otheridstart", "oids"], otherIdStart),
   (["otherlowercase", "olower"], otherLowercase),
   (["othermath", "omath"], otherMath),
   (["otheruppercase", "oupper"], otherUppercase),
   (["patternsyntax", "patsyn"], patternSyntax),
   (["patternwhitespace", "patws"], patternWhiteSpace),
   (["prependedconcatenationmark", "pcm"], prependedConcatenationMark),
   (["quotationmark", "qmark"], quotationMark),
   (["radical"], radical),
   (["regionalindicator", "ri"], regionalIndicator),
   (["sentenceterminal", "sterm"], sentenceTerminal),
   (["softdotted", "sd"], softDotted),
   (["terminalpunctuation", "term"], terminalPunctuation),
   (["unifiedideograph", "uideo"], unifiedIdeograph),
   (["uppercase", "upper"], uppercase),
   (["variationselector", "vs"], variationSelector),
   (["whitespace", "wspace", "space"], whiteSpace),
   (["xidcontinue", "xidc"], xidContinue),
   (["xidstart", "xids"], xidStart)]

/-! ### Properties with a value -/

def lookup? (table : List (List String × CharSet)) (name : String) : Option CharSet :=
  (table.find? (·.1.contains name)).map Prod.snd

def valuedProperties : List (List String × (String → Option CharSet)) :=
  [(["age"], assignedBy?),
   (["generalcategory", "gc"], category?),
   (["graphemeclusterbreak", "gcb"], lookup? GraphemeBreak.classes),
   (["script", "sc"], fun name => (script? name).map (·.set)),
   (["scriptextensions", "scx"], fun name => (script? name).map usedIn),
   (["sentencebreak", "sb"], lookup? SentenceBreak.classes),
   (["wordbreak", "wb"], lookup? WordBreak.classes)]

/-! ### Names -/

/-- A name as it is compared: in lower case, without blanks, underscores, hyphens, a leading `is`
and whatever is not ASCII. -/
def plainName (name : List Char) : String :=
  let lower := name.map Char.toLower
  let (announced, rest) := match lower with
    | 'i' :: 's' :: rest => (true, rest)
    | lower => (false, lower)
  let plain := rest.filter fun c => c ≠ ' ' && c ≠ '_' && c ≠ '-' && c.toNat < 0x80
  if announced && plain = ['c'] then "isc" else String.ofList plain

/-- The set of a name alone: a property, a general category or a script. -/
def namedSet? (name : List Char) : Option CharSet :=
  let name := plainName name
  (lookup? propertyNames name).orElse fun _ =>
    (category? name).orElse fun _ => (script? name).map (·.set)

/-- The set of a property with a value. -/
def valueSet? (name value : List Char) : Option CharSet := do
  let (_, values) ← valuedProperties.find? (·.1.contains (plainName name))
  values (plainName value)

/-- What stands before the first occurrence of a text, and what behind it. -/
def cutAt (mark : List Char) : List Char → Option (List Char × List Char)
  | [] => none
  | c :: rest =>
    if mark.isPrefixOf (c :: rest) then some ([], (c :: rest).drop mark.length)
    else (cutAt mark rest).map fun (front, back) => (c :: front, back)

/-- The set of a name, which may be followed by `!=`, a colon or an equals sign and a value. All
three mean the same. -/
def property? (text : List Char) : Option CharSet :=
  let cut := [['!', '='], [':'], ['=']].findSome? fun mark => cutAt mark text
  match cut with
  | some (name, value) => valueSet? name value
  | none => namedSet? text

end CypherSynthesis.Unicode
