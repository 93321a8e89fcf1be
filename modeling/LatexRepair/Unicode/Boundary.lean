import LatexRepair.Unicode.Grapheme
import LatexRepair.Unicode.Letter
import LatexRepair.Unicode.Script
import LatexRepair.Unicode.Blank

/-!
# Classes of characters at boundaries

Where a text may be cut between what a reader sees as one character, between words and
between sentences is told from classes of characters, one division for each of the three.
-/

namespace LatexRepair

/-! ## Visible characters -/

/-- What a character is to the division into visible characters. -/
inductive GraphemeClass where
  | control
  | carriageReturn
  | lineFeed
  | extend
  | prepend
  | spacingMark
  | joiner
  | regionalIndicator
  /-- Consonants in front of Korean syllables. -/
  | leading
  /-- Vowels of Korean syllables. -/
  | vowel
  /-- Consonants behind Korean syllables. -/
  | trailing
  /-- Korean syllables of a consonant and a vowel. -/
  | openSyllable
  /-- Korean syllables with a consonant at the end. -/
  | closedSyllable
deriving DecidableEq, Inhabited

/-- The code points of letters that stand before the consonant they belong to. -/
def prependedLetterRanges : CodeRanges :=
  [(0xd4e, 0xd4e), (0x111c2, 0x111c3), (0x113d1, 0x113d1), (0x1193f, 0x1193f), (0x11941, 0x11941),
    (0x11a3a, 0x11a3a), (0x11a84, 0x11a89), (0x11d46, 0x11d46), (0x11f02, 0x11f02)]

/-- The code points of marks that take space but do not join the character before them. -/
def apartMarkRanges : CodeRanges :=
  [(0x102b, 0x102c), (0x1038, 0x1038), (0x1062, 0x1064), (0x1067, 0x106d), (0x1083, 0x1083),
    (0x1087, 0x108c), (0x108f, 0x108f), (0x109a, 0x109c), (0x1a61, 0x1a61), (0x1a63, 0x1a64),
    (0xaa7b, 0xaa7b), (0xaa7d, 0xaa7d), (0x11720, 0x11721)]

/-- The code points of vowels of Korean syllables and of vowels that behave like them. -/
def vowelRanges : CodeRanges :=
  [(0x1160, 0x11a7), (0xd7b0, 0xd7c6), (0x16d63, 0x16d63), (0x16d67, 0x16d6a)]

/-- The place of a character among the Korean syllables, if it is one. -/
def syllable? (c : Char) : Option Nat :=
  if 0xac00 ≤ c.toNat && c.toNat ≤ 0xd7a3 then some (c.toNat - 0xac00) else none

namespace GraphemeClass

/-- A mark, or what modifies a picture; the joiner is a class of its own. -/
def isExtend (c : Char) : Bool :=
  isGraphemeExtend c || emojiModifierRanges.holds c

/-- Signs that reach over digits, and letters in front of their consonant. -/
def isPrepend (c : Char) : Bool :=
  prependedConcatenationMarkRanges.holds c || prependedLetterRanges.holds c

/-- The character is in the class. -/
def holds (k : GraphemeClass) (c : Char) : Bool :=
  match k with
  | control =>
    (hasCategory [.lineSeparator, .paragraphSeparator, .control, .format] c ||
      (!isAssigned c && isDefaultIgnorable c)) &&
      !(c = '\r' || c = '\n' || joinControlRanges.holds c || isExtend c || isPrepend c)
  | carriageReturn => c = '\r'
  | lineFeed => c = '\n'
  | extend => isExtend c
  | prepend => isPrepend c
  | spacingMark =>
    (Category.spacingMark.holds c && !isExtend c && !apartMarkRanges.holds c) ||
      c = '\u0e33' || c = '\u0eb3'
  | joiner => c = '\u200d'
  | regionalIndicator => regionalIndicatorRanges.holds c
  | leading => CodeRanges.holds [(0x1100, 0x115f), (0xa960, 0xa97c)] c
  | vowel => vowelRanges.holds c
  | trailing => CodeRanges.holds [(0x11a8, 0x11ff), (0xd7cb, 0xd7fb)] c
  | openSyllable => (syllable? c).any (· % 28 = 0)
  | closedSyllable => (syllable? c).any (· % 28 ≠ 0)

end GraphemeClass

/-! ## Words -/

/-- What a character is to the division into words. -/
inductive WordClass where
  | carriageReturn
  | lineFeed
  | newline
  | extend
  | joiner
  | regionalIndicator
  | katakana
  | hebrewLetter
  | letter
  | singleQuote
  | doubleQuote
  | midNumberLetter
  | midLetter
  | midNumber
  | numeric
  | connector
  | space
  | format
deriving DecidableEq, Inhabited

/-- The character belongs to the script with the given name. -/
def isOfScript (name : String) (c : Char) : Bool :=
  (Script.all.find? (·.names.contains name)).any (·.holds c)

/-- The code points of modifier symbols and of others that count as letters of words. -/
def wordLetterRanges : CodeRanges :=
  [(0x2c2, 0x2c5), (0x2d2, 0x2d7), (0x2de, 0x2df), (0x2e5, 0x2eb), (0x2ed, 0x2ed), (0x2ef, 0x2ff),
    (0x55a, 0x55c), (0x55e, 0x55e), (0x58a, 0x58a), (0x5f3, 0x5f3), (0x70f, 0x70f),
    (0xa708, 0xa716), (0xa720, 0xa721), (0xa789, 0xa78a), (0xab5b, 0xab5b)]

/-- The code points of characters of scripts whose words are not told apart by spaces. -/
def unspacedRanges : CodeRanges :=
  [(0xe01, 0xe3a), (0xe40, 0xe4e), (0xe81, 0xe82), (0xe84, 0xe84), (0xe86, 0xe8a), (0xe8c, 0xea3),
    (0xea5, 0xea5), (0xea7, 0xebd), (0xec0, 0xec4), (0xec6, 0xec6), (0xec8, 0xece),
    (0xedc, 0xedf), (0x1000, 0x103f), (0x1050, 0x108f), (0x109a, 0x109f), (0x1780, 0x17d3),
    (0x17d7, 0x17d7), (0x17dc, 0x17dd), (0x1950, 0x196d), (0x1970, 0x1974), (0x1980, 0x19ab),
    (0x19b0, 0x19c9), (0x19da, 0x19da), (0x19de, 0x19df), (0x1a20, 0x1a5e), (0x1a60, 0x1a7c),
    (0x1aa0, 0x1aad), (0xa9e0, 0xa9ef), (0xa9fa, 0xa9fe), (0xaa60, 0xaac2), (0xaadb, 0xaadf),
    (0x11700, 0x1171a), (0x1171d, 0x1172b), (0x1173a, 0x1173b), (0x1173f, 0x11746)]

/-- The code points of sounds and marks that are used with Katakana. -/
def katakanaSignRanges : CodeRanges :=
  [(0x3031, 0x3035), (0x309b, 0x309c), (0x30a0, 0x30a0), (0x30fc, 0x30fc), (0xff70, 0xff70)]

/-- The code points of punctuation that may stand between two digits of a number. -/
def midNumberRanges : CodeRanges :=
  [(0x2c, 0x2c), (0x3b, 0x3b), (0x37e, 0x37e), (0x589, 0x589), (0x60c, 0x60d), (0x66c, 0x66c),
    (0x7f8, 0x7f8), (0x2044, 0x2044), (0xfe10, 0xfe10), (0xfe14, 0xfe14), (0xfe50, 0xfe50),
    (0xfe54, 0xfe54), (0xff0c, 0xff0c), (0xff1b, 0xff1b)]

namespace WordClass

/-- A mark, or what modifies a picture; the joiner is a class of its own. -/
def isExtend (c : Char) : Bool :=
  (isGraphemeExtend c || Category.spacingMark.holds c || emojiModifierRanges.holds c)

/-- A digit, a decimal separator, or a sign that reaches over digits. -/
def isNumeric (c : Char) : Bool :=
  Category.decimalNumber.holds c || c = '\u066b' ||
    (prependedConcatenationMarkRanges.holds c && c ≠ '\u070f')

/-- A character that is used as one of Katakana. -/
def isKatakana (c : Char) : Bool :=
  isOfScript "Katakana" c || katakanaSignRanges.holds c

/-- A letter of Hebrew. -/
def isHebrewLetter (c : Char) : Bool :=
  Category.otherLetter.holds c && isOfScript "Hebrew" c

/-- A letter of scripts whose words are told apart by spaces. -/
def isLetter (c : Char) : Bool :=
  (isAlphabetic c || wordLetterRanges.holds c) &&
    !(ideographicRanges.holds c || isKatakana c || unspacedRanges.holds c ||
      isOfScript "Hiragana" c || isExtend c || isHebrewLetter c || isNumeric c)

/-- The character is in the class. -/
def holds (k : WordClass) (c : Char) : Bool :=
  match k with
  | carriageReturn => c = '\r'
  | lineFeed => c = '\n'
  | newline => CodeRanges.holds [(0xb, 0xc), (0x85, 0x85), (0x2028, 0x2029)] c
  | extend => isExtend c
  | joiner => c = '\u200d'
  | regionalIndicator => regionalIndicatorRanges.holds c
  | katakana => isKatakana c
  | hebrewLetter => isHebrewLetter c
  | letter => isLetter c
  | singleQuote => c = '\''
  | doubleQuote => c = '"'
  | midNumberLetter => midNumberLetterRanges.holds c
  | midLetter => midLetterRanges.holds c
  | midNumber => midNumberRanges.holds c
  | numeric => isNumeric c
  | connector => Category.connectorPunctuation.holds c || c = '\u202f'
  | space =>
    Category.spaceSeparator.holds c && !(c = '\u00a0' || c = '\u2007' || c = '\u202f')
  | format =>
    Category.format.holds c &&
      !(CodeRanges.holds [(0x200b, 0x200d)] c || isExtend c ||
        prependedConcatenationMarkRanges.holds c)

end WordClass

/-! ## Sentences -/

/-- What a character is to the division into sentences. -/
inductive SentenceClass where
  | carriageReturn
  | lineFeed
  | extend
  | separator
  | format
  | space
  | lower
  | upper
  | letter
  | numeric
  /-- Points, which may end a sentence or not. -/
  | point
  /-- Punctuation within a sentence. -/
  | continuation
  /-- Punctuation that ends a sentence. -/
  | terminal
  /-- Quotes and brackets. -/
  | close
deriving DecidableEq, Inhabited

/-- The code points of letters of lower case in Georgian, which has no upper case in use. -/
def georgianLowerRanges : CodeRanges :=
  [(0x10d0, 0x10fa), (0x10fd, 0x10ff)]

/-- The code points of letters of upper case in Georgian, which do not start sentences. -/
def georgianUpperRanges : CodeRanges :=
  [(0x1c90, 0x1cbf)]

/-- The code points of points. -/
def pointRanges : CodeRanges :=
  [(0x2e, 0x2e), (0x2024, 0x2024), (0xfe52, 0xfe52), (0xff0e, 0xff0e)]

/-- The code points of punctuation within a sentence. -/
def continuationRanges : CodeRanges :=
  [(0x2c, 0x2d), (0x3a, 0x3b), (0x37e, 0x37e), (0x55d, 0x55d), (0x60c, 0x60d), (0x7f8, 0x7f8),
    (0x1802, 0x1802), (0x1808, 0x1808), (0x2013, 0x2014), (0x3001, 0x3001), (0xfe10, 0xfe11),
    (0xfe13, 0xfe14), (0xfe31, 0xfe32), (0xfe50, 0xfe51), (0xfe54, 0xfe55), (0xfe58, 0xfe58),
    (0xfe63, 0xfe63), (0xff0c, 0xff0d), (0xff1a, 0xff1b), (0xff64, 0xff64)]

/-- The code points of quotes that may open or close. -/
def ambiguousQuoteRanges : CodeRanges :=
  [(0x22, 0x22), (0x27, 0x27), (0xab, 0xab), (0xbb, 0xbb), (0x2018, 0x2019), (0x201b, 0x201d),
    (0x201f, 0x201f), (0x2039, 0x203a), (0x275b, 0x2760), (0x2e00, 0x2e0d), (0x2e1c, 0x2e1d),
    (0x2e20, 0x2e21), (0x1f676, 0x1f678)]

namespace SentenceClass

/-- A mark, or a joiner. -/
def isExtend (c : Char) : Bool :=
  isGraphemeExtend c || Category.spacingMark.holds c || c = '\u200d'

/-- A separator of lines or paragraphs. -/
def isSeparator (c : Char) : Bool :=
  CodeRanges.holds [(0x85, 0x85), (0x2028, 0x2029)] c

/-- A letter of lower case. -/
def isLower (c : Char) : Bool :=
  isLowercase c && !(isGraphemeExtend c || georgianLowerRanges.holds c)

/-- A letter of upper or title case. -/
def isUpper (c : Char) : Bool :=
  (isUppercase c || Category.titlecaseLetter.holds c) && !georgianUpperRanges.holds c

/-- A digit, a separator of numbers, or a sign that reaches over digits. -/
def isNumeric (c : Char) : Bool :=
  WordClass.isNumeric c || c = '\u066c'

/-- Punctuation that ends a sentence for certain. -/
def isTerminal (c : Char) : Bool :=
  sentenceTerminalRanges.holds c && !pointRanges.holds c

/-- The character is in the class. -/
def holds (k : SentenceClass) (c : Char) : Bool :=
  match k with
  | carriageReturn => c = '\r'
  | lineFeed => c = '\n'
  | extend => isExtend c
  | separator => isSeparator c
  | format =>
    Category.format.holds c && !(joinControlRanges.holds c || isExtend c || isNumeric c)
  | space => isBlank c && !(isSeparator c || c = '\r' || c = '\n')
  | lower => isLower c
  | upper => isUpper c
  | letter =>
    (isAlphabetic c || c = '\u05f3') && !(isLower c || isUpper c || isExtend c || isNumeric c)
  | numeric => isNumeric c
  | point => pointRanges.holds c
  | continuation => continuationRanges.holds c
  | terminal => isTerminal c
  | close =>
    (hasCategory
        [.openPunctuation, .closePunctuation, .initialPunctuation, .finalPunctuation] c ||
      ambiguousQuoteRanges.holds c) &&
      !(c = '\u05f3' || pointRanges.holds c || isTerminal c)

end SentenceClass

end LatexRepair
