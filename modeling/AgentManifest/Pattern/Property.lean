import AgentManifest.Pattern.CharSet
import AgentManifest.Text.Age
import AgentManifest.Text.Property.Word
import AgentManifest.Text.ScriptExtension
import AgentManifest.Text.Segment

/-!
# Properties of characters by name

The sets that a pattern names by a property: a property that characters have or lack, a general
category, a script, or a value of a property with several values. Names are read without case,
blanks, hyphens and underscores, and without a leading "is".
-/

namespace AgentManifest.Pattern
namespace CharSet

/-! ## General categories -/

/-- The letter of a group of general categories, by its names. -/
def majorNames : List (String × Char) :=
  [("l", 'L'), ("letter", 'L'), ("m", 'M'), ("mark", 'M'), ("combiningmark", 'M'), ("n", 'N'),
    ("number", 'N'), ("p", 'P'), ("punctuation", 'P'), ("punct", 'P'), ("s", 'S'), ("symbol", 'S'),
    ("z", 'Z'), ("separator", 'Z'), ("c", 'C'), ("other", 'C')]

/-- General categories by their names. -/
def categoryNames : List (String × Text.Category) :=
  [("lu", .lu), ("uppercaseletter", .lu), ("ll", .ll), ("lowercaseletter", .ll), ("lt", .lt),
    ("titlecaseletter", .lt), ("lm", .lm), ("modifierletter", .lm), ("lo", .lo),
    ("otherletter", .lo), ("mn", .mn), ("nonspacingmark", .mn), ("mc", .mc), ("spacingmark", .mc),
    ("me", .me), ("enclosingmark", .me), ("nd", .nd), ("decimalnumber", .nd), ("digit", .nd),
    ("nl", .nl), ("letternumber", .nl), ("no", .no), ("othernumber", .no), ("pc", .pc),
    ("connectorpunctuation", .pc), ("pd", .pd), ("dashpunctuation", .pd), ("ps", .ps),
    ("openpunctuation", .ps), ("pe", .pe), ("closepunctuation", .pe), ("pi", .pi),
    ("initialpunctuation", .pi), ("pf", .pf), ("finalpunctuation", .pf), ("po", .po),
    ("otherpunctuation", .po), ("sm", .sm), ("mathsymbol", .sm), ("sc", .sc),
    ("currencysymbol", .sc), ("sk", .sk), ("modifiersymbol", .sk), ("so", .so),
    ("othersymbol", .so), ("zs", .zs), ("spaceseparator", .zs), ("zl", .zl),
    ("lineseparator", .zl), ("zp", .zp), ("paragraphseparator", .zp), ("cc", .cc),
    ("control", .cc), ("cntrl", .cc), ("cf", .cf), ("format", .cf), ("co", .co),
    ("privateuse", .co), ("cn", .cn), ("unassigned", .cn)]

/-- The characters whose general category is admitted. -/
def ofCategory (admits : Text.Category → Bool) : CharSet where
  has c := admits (Text.category c)
  room := 48 * (Text.categoryRuns.filter fun (_, _, k) => admits k).length

/-- The characters of a general category or a group of them. -/
def category? (name : String) : Option CharSet :=
  if name == "any" then some all
  else if name == "assigned" then some (ofCategory fun k => k != .cn)
  else if name == "ascii" then some (range '\x00' '\x7f')
  else if name == "lc" || name == "casedletter" then
    some (ofCategory fun k => [.lu, .ll, .lt].contains k)
  else
    match categoryNames.lookup name with
    | some k => some (ofCategory fun k' => k' == k)
    | Option.none => (majorNames.lookup name).map fun m => ofCategory fun k => k.major == m

/-! ## Properties that characters have or lack -/

/-- Properties of letters and words, with their long and their short names. -/
def wordProperties : List (String × String × CharSet) :=
  [("alphabetic", "alpha", .having Text.isAlphabetic 750),
    ("caseignorable", "ci", .having Text.isCaseIgnorable 450),
    ("cased", "cased", .having Text.isCased 160),
    ("changeswhencasefolded", "cwcf", .having Text.changesWhenCasefolded 620),
    ("changeswhencasemapped", "cwcm", .having Text.changesWhenCasemapped 130),
    ("changeswhenlowercased", "cwl", .having Text.changesWhenLowercased 610),
    ("changeswhentitlecased", "cwt", .having Text.changesWhenTitlecased 630),
    ("changeswhenuppercased", "cwu", .having Text.changesWhenUppercased 630),
    ("idcontinue", "idc", .having Text.isIdContinue 790),
    ("idstart", "ids", .having Text.isIdStart 680),
    ("joincontrol", "joinc", .having Text.isJoinControl 1),
    ("lowercase", "lower", .having Text.isLowercase 670),
    ("otheralphabetic", "oalpha", ofRanges Text.otherAlphabetic),
    ("otheridcontinue", "oidc", ofRanges Text.otherIdContinue),
    ("otheridstart", "oids", ofRanges Text.otherIdStart),
    ("otherlowercase", "olower", ofRanges Text.otherLowercase),
    ("otheruppercase", "oupper", ofRanges Text.otherUppercase),
    ("uppercase", "upper", .having Text.isUppercase 650),
    ("xidcontinue", "xidc",
      .having (fun c => Text.isIdContinue c && !Text.unstableIdContinue.has c) 800),
    ("xidstart", "xids", .having (fun c => Text.isIdStart c && !Text.unstableIdStart.has c) 690)]

/-- Properties of marks and controls, with their long and their short names. -/
def markProperties : List (String × String × CharSet) :=
  [("bidicontrol", "bidic", ofRanges Text.directionControls),
    ("defaultignorablecodepoint", "di", ofRanges Text.defaultIgnorables),
    ("diacritic", "dia", ofRanges Text.diacritics),
    ("extender", "ext", ofRanges Text.extenders),
    ("graphemebase", "grbase", .having Text.isGraphemeBase 890),
    ("graphemeextend", "grext", .having Text.extendsGrapheme 370),
    ("graphemelink", "grlink", ofRanges Text.viramas),
    ("logicalorderexception", "loe", ofRanges Text.logicalOrderExceptions),
    ("modifiercombiningmark", "mcm", ofRanges Text.reorderedMarks),
    ("noncharactercodepoint", "nchar", ofRanges Text.noncharacters),
    ("otherdefaultignorablecodepoint", "odi", ofRanges Text.otherDefaultIgnorable),
    ("othergraphemeextend", "ogrext", ofRanges Text.otherGraphemeExtend),
    ("prependedconcatenationmark", "pcm", ofRanges Text.prependedMarks),
    ("variationselector", "vs", ofRanges Text.variationSelectors)]

/-- Properties of signs, with their long and their short names. -/
def signProperties : List (String × String × CharSet) :=
  [("asciihexdigit", "ahex", hexDigit),
    ("bidimirrored", "bidim", ofRanges Text.mirrored),
    ("dash", "dash", ofRanges Text.dashes),
    ("deprecated", "dep", ofRanges Text.deprecated),
    ("hexdigit", "hex", ofRanges Text.hexDigits),
    ("hyphen", "hyphen", ofRanges Text.hyphens),
    ("idcompatmathcontinue", "idcompatmathcontinue", ofRanges Text.mathIdContinue),
    ("idcompatmathstart", "idcompatmathstart", ofRanges Text.mathIdStart),
    ("math", "math", .having Text.isMath 140),
    ("othermath", "omath", ofRanges Text.otherMath),
    ("patternsyntax", "patsyn", ofRanges Text.patternSyntax),
    ("patternwhitespace", "patws", ofRanges Text.patternWhiteSpace),
    ("quotationmark", "qmark", ofRanges Text.quotationMarks),
    ("sentenceterminal", "sterm", ofRanges Text.sentenceTerminals),
    ("softdotted", "sd", ofRanges Text.softDotted),
    ("terminalpunctuation", "term", ofRanges Text.terminalPunctuation),
    ("whitespace", "wspace", .having Text.isBlank 10),
    ("space", "space", .having Text.isBlank 10)]

/-- Properties of ideographs and pictures, with their long and their short names. -/
def pictographProperties : List (String × String × CharSet) :=
  [("emoji", "emoji", ofRanges Text.emoji),
    ("emojicomponent", "ecomp", ofRanges Text.emojiComponents),
    ("emojimodifier", "emod", ofRanges Text.emojiModifiers),
    ("emojimodifierbase", "ebase", ofRanges Text.emojiModifierBases),
    ("emojipresentation", "epres", ofRanges Text.emojiPresentation),
    ("extendedpictographic", "extpict", ofRanges Text.extendedPictographs),
    ("ideographic", "ideo", ofRanges Text.ideographs),
    ("idsbinaryoperator", "idsb", ofRanges Text.binaryPlans),
    ("idstrinaryoperator", "idst", ofRanges Text.ternaryPlans),
    ("idsunaryoperator", "idsu", ofRanges Text.unaryPlans),
    ("radical", "radical", ofRanges Text.radicals),
    ("regionalindicator", "ri", ofRanges Text.regionalIndicators),
    ("unifiedideograph", "uideo", ofRanges Text.unifiedIdeographs)]

/-- The characters that have a property. -/
def binary? (name : String) : Option CharSet :=
  let named := (wordProperties ++ markProperties ++ signProperties ++ pictographProperties).find?
    fun (long, short, _) => name == long || name == short
  named.map fun (_, _, a) => a

/-! ## Properties with several values -/

/-- The characters of a script. -/
def script? (name : String) : Option CharSet := (Text.script? name).map fun s => ofRanges s.ranges

/-- The characters used in a script. -/
def usedIn? (name : String) : Option CharSet :=
  (Text.script? name).map fun s => .having (Text.isUsedIn s) (s.ranges.length + 10)

/-- The characters that have been there since a version, or longer. -/
def since? (name : String) : Option CharSet :=
  let version := Text.additions.find? fun ((major, minor), _) =>
    name == s!"{major}.{minor}" || name == s!"v{major}{minor}"
  version.map fun (v, _) => .having (Text.isAsOldAs v) 730

/-- Parts in a visible character by their names. -/
def graphemeBreakNames : List (String × Text.GraphemeBreak) :=
  [("cn", .control), ("control", .control), ("cr", .carriageReturn), ("ex", .extending),
    ("extend", .extending), ("l", .leadingConsonant), ("lf", .lineFeed), ("lv", .openSyllable),
    ("lvt", .closedSyllable), ("pp", .prepended), ("prepend", .prepended),
    ("ri", .regionalIndicator), ("regionalindicator", .regionalIndicator), ("sm", .spacingMark),
    ("spacingmark", .spacingMark), ("t", .trailingConsonant), ("v", .vowel), ("zwj", .joiner)]

/-- Parts in a word by their names. -/
def wordBreakNames : List (String × Text.WordBreak) :=
  [("le", .letter), ("aletter", .letter), ("cr", .carriageReturn), ("dq", .doubleQuote),
    ("doublequote", .doubleQuote), ("extend", .extending), ("ex", .connector),
    ("extendnumlet", .connector), ("fo", .format), ("format", .format), ("hl", .hebrewLetter),
    ("hebrewletter", .hebrewLetter), ("ka", .katakana), ("katakana", .katakana), ("lf", .lineFeed),
    ("ml", .midLetter), ("midletter", .midLetter), ("mn", .midNumber), ("midnum", .midNumber),
    ("mb", .midNumberOrLetter), ("midnumlet", .midNumberOrLetter), ("nl", .newline),
    ("newline", .newline), ("nu", .number), ("numeric", .number), ("ri", .regionalIndicator),
    ("regionalindicator", .regionalIndicator), ("sq", .singleQuote), ("singlequote", .singleQuote),
    ("wsegspace", .space), ("zwj", .joiner)]

/-- Parts in a sentence by their names. -/
def sentenceBreakNames : List (String × Text.SentenceBreak) :=
  [("at", .pointTerminal), ("aterm", .pointTerminal), ("cr", .carriageReturn), ("cl", .closing),
    ("close", .closing), ("ex", .extending), ("extend", .extending), ("fo", .format),
    ("format", .format), ("lf", .lineFeed), ("lo", .lower), ("lower", .lower), ("nu", .number),
    ("numeric", .number), ("le", .otherLetter), ("oletter", .otherLetter), ("sc", .continuation),
    ("scontinue", .continuation), ("st", .terminal), ("sterm", .terminal), ("se", .separator),
    ("sep", .separator), ("sp", .space), ("up", .upper), ("upper", .upper)]

/-! ## Names -/

/-- A name of a property as it is looked up. A leading "is" does not count, so that the name of the
comments of the standard is the only one to keep it. -/
def plainName (name : List Char) : String :=
  let letters (cs : List Char) : List Char :=
    (cs.filter fun c => !(c == ' ' || c == '-' || c == '_') && decide (c.toNat < 0x80)).map
      Char.toLower
  match name with
  | i :: s :: rest =>
    if (i == 'i' || i == 'I') && (s == 's' || s == 'S') then
      if letters rest == ['c'] then "isc" else String.ofList (letters rest)
    else String.ofList (letters name)
  | _ => String.ofList (letters name)

/-- The characters with a property, of a general category or of a script. -/
def property? (name : List Char) : Option CharSet :=
  let plain := plainName name
  binary? plain <|> category? plain <|> script? plain

/-- The characters with a value of a property. -/
def propertyValue? (name value : List Char) : Option CharSet :=
  let plain := plainName name
  let value := plainName value
  if plain == "gc" || plain == "generalcategory" then category? value
  else if plain == "sc" || plain == "script" then script? value
  else if plain == "scx" || plain == "scriptextensions" then usedIn? value
  else if plain == "age" then since? value
  else if plain == "gcb" || plain == "graphemeclusterbreak" then
    (graphemeBreakNames.lookup value).map fun k =>
      .having (fun c => Text.graphemeBreak? c == some k) 400
  else if plain == "wb" || plain == "wordbreak" then
    (wordBreakNames.lookup value).map fun k => .having (fun c => Text.wordBreak? c == some k) 300
  else if plain == "sb" || plain == "sentencebreak" then
    (sentenceBreakNames.lookup value).map fun k =>
      .having (fun c => Text.sentenceBreak? c == some k) 300
  else Option.none

end CharSet
end AgentManifest.Pattern
