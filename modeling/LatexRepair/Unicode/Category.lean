import LatexRepair.Unicode.Category.Letter
import LatexRepair.Unicode.Category.Mark
import LatexRepair.Unicode.Category.Number
import LatexRepair.Unicode.Category.Punctuation
import LatexRepair.Unicode.Category.Symbol

/-!
# General categories

Every character has one general category: what kind of letter, mark, number, punctuation,
symbol or separator it is. The code points without a character have none.
-/

namespace LatexRepair

/-- The general category of a character. -/
inductive Category where
  | uppercaseLetter
  | lowercaseLetter
  | titlecaseLetter
  | modifierLetter
  | otherLetter
  | nonspacingMark
  | spacingMark
  | enclosingMark
  | decimalNumber
  | letterNumber
  | otherNumber
  | connectorPunctuation
  | dashPunctuation
  | openPunctuation
  | closePunctuation
  | initialPunctuation
  | finalPunctuation
  | otherPunctuation
  | mathSymbol
  | currencySymbol
  | modifierSymbol
  | otherSymbol
  | spaceSeparator
  | lineSeparator
  | paragraphSeparator
  | control
  | format
  | privateUse
deriving DecidableEq, Inhabited

namespace Category

/-- The letters that have case. -/
def casedLetters : List Category :=
  [uppercaseLetter, lowercaseLetter, titlecaseLetter]

/-- The letters. -/
def letters : List Category :=
  casedLetters ++ [modifierLetter, otherLetter]

/-- The marks. -/
def marks : List Category :=
  [nonspacingMark, spacingMark, enclosingMark]

/-- The numbers. -/
def numbers : List Category :=
  [decimalNumber, letterNumber, otherNumber]

/-- The punctuation. -/
def punctuation : List Category :=
  [connectorPunctuation, dashPunctuation, openPunctuation, closePunctuation,
    initialPunctuation, finalPunctuation, otherPunctuation]

/-- The symbols. -/
def symbols : List Category :=
  [mathSymbol, currencySymbol, modifierSymbol, otherSymbol]

/-- The separators. -/
def separators : List Category :=
  [spaceSeparator, lineSeparator, paragraphSeparator]

/-- What is seen only by its effect, or by agreement. -/
def others : List Category :=
  [control, format, privateUse]

/-- All categories. -/
def all : List Category :=
  letters ++ marks ++ numbers ++ punctuation ++ symbols ++ separators ++ others

/-- The code points of the characters with the category. -/
def ranges : Category → CodeRanges
  | uppercaseLetter => uppercaseLetterRanges
  | lowercaseLetter => lowercaseLetterRanges
  | titlecaseLetter => titlecaseLetterRanges
  | modifierLetter => modifierLetterRanges
  | otherLetter => otherLetterRanges
  | nonspacingMark => nonspacingMarkRanges
  | spacingMark => spacingMarkRanges
  | enclosingMark => enclosingMarkRanges
  | decimalNumber => digitRanges
  | letterNumber => letterNumberRanges
  | otherNumber => otherNumberRanges
  | connectorPunctuation => connectorPunctuationRanges
  | dashPunctuation => dashPunctuationRanges
  | openPunctuation => openPunctuationRanges
  | closePunctuation => closePunctuationRanges
  | initialPunctuation => initialPunctuationRanges
  | finalPunctuation => finalPunctuationRanges
  | otherPunctuation => otherPunctuationRanges
  | mathSymbol => mathSymbolRanges
  | currencySymbol => currencySymbolRanges
  | modifierSymbol => modifierSymbolRanges
  | otherSymbol => otherSymbolRanges
  | spaceSeparator => spaceSeparatorRanges
  | lineSeparator => lineSeparatorRanges
  | paragraphSeparator => paragraphSeparatorRanges
  | control => controlRanges
  | format => formatRanges
  | privateUse => privateUseRanges

/-- The character has the category. -/
def holds (g : Category) (c : Char) : Bool :=
  g.ranges.holds c

theorem mem_all (g : Category) : g ∈ all := by
  cases g <;> decide

end Category

/-- The character has one of the categories. -/
def hasCategory (gs : List Category) (c : Char) : Bool :=
  gs.any (·.holds c)

/-- The code point has a character. -/
def isAssigned (c : Char) : Bool :=
  hasCategory Category.all c

/-- The character is a letter. -/
def isLetter (c : Char) : Bool :=
  hasCategory Category.letters c

/-- The character is a mark. -/
def isMark (c : Char) : Bool :=
  hasCategory Category.marks c

/-- The character is a number. -/
def isNumber (c : Char) : Bool :=
  hasCategory Category.numbers c

end LatexRepair
