import AgentManifest.Text.Character
import AgentManifest.Text.Property.Mark
import AgentManifest.Text.Property.Pictograph
import AgentManifest.Text.Property.Sign
import AgentManifest.Text.Property.Word
import AgentManifest.Text.Script

/-!
# Parts of a text

What a character does where a text is cut into visible characters, words or sentences. A character
without a kind of its own stands for itself.
-/

namespace AgentManifest.Text

/-! ## Visible characters -/

/-- What a character does within a visible character. -/
inductive GraphemeBreak where
  | carriageReturn
  | lineFeed
  | control
  | extending
  | joiner
  | regionalIndicator
  | prepended
  | spacingMark
  | leadingConsonant
  | vowel
  | trailingConsonant
  | openSyllable
  | closedSyllable
  deriving DecidableEq, Repr, Inhabited

/-- Consonants that begin a syllable. -/
def leadingConsonants : Ranges := [(0x1100, 0x115f), (0xa960, 0xa97c)]

/-- Vowels within a syllable. -/
def syllableVowels : Ranges :=
  [(0x1160, 0x11a7), (0xd7b0, 0xd7c6), (0x16d63, 0x16d63), (0x16d67, 0x16d6a)]

/-- Consonants that end a syllable. -/
def trailingConsonants : Ranges := [(0x11a8, 0x11ff), (0xd7cb, 0xd7fb)]

/-- Whole syllables. Every twenty-eighth one has no consonant at its end. -/
def syllables : Ranges := [(0xac00, 0xd7a3)]

/-- Marks with a width that do not belong to the character before them. -/
def separateMarks : Ranges := [
  (0x102b, 0x102c), (0x1038, 0x1038), (0x1062, 0x1064), (0x1067, 0x106d), (0x1083, 0x1083),
  (0x1087, 0x108c), (0x108f, 0x108f), (0x109a, 0x109c), (0x1a61, 0x1a61), (0x1a63, 0x1a64),
  (0xaa7b, 0xaa7b), (0xaa7d, 0xaa7d), (0x11720, 0x11721)]

/-- What a character does within a visible character, if it has a part there. -/
def graphemeBreak? (c : Char) : Option GraphemeBreak :=
  let k := category c
  if c = '\r' then some .carriageReturn
  else if c = '\n' then some .lineFeed
  else if c = '\u200d' then some .joiner
  else if extendsGrapheme c ∨ emojiModifiers.has c then some .extending
  else if prependedMarks.has c ∨ precedingConsonants.has c then some .prepended
  else if regionalIndicators.has c then some .regionalIndicator
  else if [.zl, .zp, .cc, .cf].contains k ∨ (k = .cn ∧ defaultIgnorables.has c) then some .control
  else if leadingConsonants.has c then some .leadingConsonant
  else if syllableVowels.has c then some .vowel
  else if trailingConsonants.has c then some .trailingConsonant
  else if syllables.has c then
    some (if (c.toNat - 0xac00) % 28 = 0 then .openSyllable else .closedSyllable)
  else if (k = .mc ∧ !separateMarks.has c) ∨ c = '\u0e33' ∨ c = '\u0eb3' then some .spacingMark
  else none

/-! ## Words -/

/-- What a character does within a word. -/
inductive WordBreak where
  | carriageReturn
  | lineFeed
  | newline
  | extending
  | joiner
  | format
  | regionalIndicator
  | katakana
  | hebrewLetter
  | letter
  | singleQuote
  | doubleQuote
  | midNumberOrLetter
  | midLetter
  | midNumber
  | number
  | connector
  | space
  deriving DecidableEq, Repr, Inhabited

/-- Format characters that go with the digits behind them. -/
def numberSigns : Ranges :=
  [(0x600, 0x605), (0x6dd, 0x6dd), (0x890, 0x891), (0x8e2, 0x8e2), (0x110bd, 0x110bd),
    (0x110cd, 0x110cd)]

/-- Characters that join Katakana without being of that script. -/
def katakanaSigns : Ranges :=
  [(0x3031, 0x3035), (0x309b, 0x309c), (0x30a0, 0x30a0), (0x30fc, 0x30fc), (0xff70, 0xff70)]

/-- Signs that go with letters. -/
def letterSigns : Ranges := [
  (0x2c2, 0x2c5), (0x2d2, 0x2d7), (0x2de, 0x2df), (0x2e5, 0x2eb), (0x2ed, 0x2ed), (0x2ef, 0x2ff),
  (0x55a, 0x55c), (0x55e, 0x55e), (0x58a, 0x58a), (0x5f3, 0x5f3), (0x70f, 0x70f), (0xa708, 0xa716),
  (0xa720, 0xa721), (0xa789, 0xa78a), (0xab5b, 0xab5b)]

/-- The scripts that are written without blanks between words. -/
def unspacedScripts : List String :=
  ["thai", "laoo", "mymr", "khmr", "tale", "talu", "lana", "tavt", "ahom", "hira"]

/-- Signs that may stand between two letters. -/
def midLetters : Ranges := [
  (0x3a, 0x3a), (0xb7, 0xb7), (0x387, 0x387), (0x55f, 0x55f), (0x5f4, 0x5f4), (0x2027, 0x2027),
  (0xfe13, 0xfe13), (0xfe55, 0xfe55), (0xff1a, 0xff1a)]

/-- Signs that may stand between two digits. -/
def midNumbers : Ranges := [
  (0x2c, 0x2c), (0x3b, 0x3b), (0x37e, 0x37e), (0x589, 0x589), (0x60c, 0x60d), (0x66c, 0x66c),
  (0x7f8, 0x7f8), (0x2044, 0x2044), (0xfe10, 0xfe10), (0xfe14, 0xfe14), (0xfe50, 0xfe50),
  (0xfe54, 0xfe54), (0xff0c, 0xff0c), (0xff1b, 0xff1b)]

/-- Signs that may stand between two letters or two digits. -/
def midNumbersOrLetters : Ranges := [
  (0x2e, 0x2e), (0x2018, 0x2019), (0x2024, 0x2024), (0xfe52, 0xfe52), (0xff07, 0xff07),
  (0xff0e, 0xff0e)]

/-- What a character does within a word, if it has a part there. -/
def wordBreak? (c : Char) : Option WordBreak :=
  let k := category c
  if c = '\r' then some .carriageReturn
  else if c = '\n' then some .lineFeed
  else if ['\x0b', '\x0c', '\u0085', '\u2028', '\u2029'].contains c then some .newline
  else if c = '\u200d' then some .joiner
  else if extendsGrapheme c ∨ k = .mc ∨ emojiModifiers.has c then some .extending
  else if regionalIndicators.has c then some .regionalIndicator
  else if k = .nd ∨ c = '\u066b' ∨ numberSigns.has c then some .number
  else if letterSigns.has c then some .letter
  else if k = .cf ∧ c ≠ '\u200b' then some .format
  else if isInScript "kana" c ∨ katakanaSigns.has c then some .katakana
  else if k = .lo ∧ isInScript "hebr" c then some .hebrewLetter
  else if c = '\'' then some .singleQuote
  else if c = '"' then some .doubleQuote
  else if midNumbersOrLetters.has c then some .midNumberOrLetter
  else if midLetters.has c then some .midLetter
  else if midNumbers.has c then some .midNumber
  else if k = .pc ∨ c = '\u202f' then some .connector
  else if k = .zs ∧ c ≠ '\u00a0' ∧ c ≠ '\u2007' then some .space
  else if isAlphabetic c ∧ !ideographs.has c ∧ !unspacedScripts.any (isInScript · c) then
    some .letter
  else none

/-! ## Sentences -/

/-- What a character does within a sentence. -/
inductive SentenceBreak where
  | carriageReturn
  | lineFeed
  | separator
  | extending
  | format
  | space
  | lower
  | upper
  | otherLetter
  | number
  | pointTerminal
  | continuation
  | terminal
  | closing
  deriving DecidableEq, Repr, Inhabited

/-- Points that end a sentence, or only a word. -/
def pointTerminals : Ranges :=
  [(0x2e, 0x2e), (0x2024, 0x2024), (0xfe52, 0xfe52), (0xff0e, 0xff0e)]

/-- Signs behind which a sentence goes on. -/
def sentenceContinuations : Ranges := [
  (0x2c, 0x2d), (0x3a, 0x3b), (0x37e, 0x37e), (0x55d, 0x55d), (0x60c, 0x60d), (0x7f8, 0x7f8),
  (0x1802, 0x1802), (0x1808, 0x1808), (0x2013, 0x2014), (0x3001, 0x3001), (0xfe10, 0xfe11),
  (0xfe13, 0xfe14), (0xfe31, 0xfe32), (0xfe50, 0xfe51), (0xfe54, 0xfe55), (0xfe58, 0xfe58),
  (0xfe63, 0xfe63), (0xff0c, 0xff0d), (0xff1a, 0xff1b), (0xff64, 0xff64)]

/-- Quotation marks and the like that close a sentence without being brackets. -/
def closingSigns : Ranges := [
  (0x22, 0x22), (0x27, 0x27), (0x275b, 0x2760), (0x2e00, 0x2e01), (0x2e06, 0x2e08),
  (0x2e0b, 0x2e0b), (0x1f676, 0x1f678)]

/-- Georgian letters of the common form, which are small and yet of no case within a sentence. -/
def caselessSmalls : Ranges := [(0x10d0, 0x10fa), (0x10fd, 0x10ff)]

/-- Georgian letters of the capital form, which are of no case within a sentence either. -/
def caselessCapitals : Ranges := [(0x1c90, 0x1cba), (0x1cbd, 0x1cbf)]

/-- What a character does within a sentence, if it has a part there. -/
def sentenceBreak? (c : Char) : Option SentenceBreak :=
  let k := category c
  if c = '\r' then some .carriageReturn
  else if c = '\n' then some .lineFeed
  else if c = '\u0085' ∨ c = '\u2028' ∨ c = '\u2029' then some .separator
  else if extendsGrapheme c ∨ k = .mc ∨ c = '\u200d' then some .extending
  else if k = .nd ∨ c = '\u066b' ∨ c = '\u066c' ∨ numberSigns.has c then some .number
  else if k = .cf then some .format
  else if isBlank c then some .space
  else if isLowercase c ∧ !caselessSmalls.has c then some .lower
  else if (k = .lt ∨ isUppercase c) ∧ !caselessCapitals.has c then some .upper
  else if isAlphabetic c ∨ c = '\u05f3' then some .otherLetter
  else if pointTerminals.has c then some .pointTerminal
  else if sentenceContinuations.has c then some .continuation
  else if sentenceTerminals.has c then some .terminal
  else if [.ps, .pe, .pi, .pf].contains k ∨ closingSigns.has c then some .closing
  else none

end AgentManifest.Text
