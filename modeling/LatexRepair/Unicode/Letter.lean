import LatexRepair.Unicode.Category
import LatexRepair.Unicode.Listed.Letters
import LatexRepair.Unicode.Listed.Signs

/-!
# Letters and case

Which characters count as letters, and as letters of upper or lower case. The general
category decides for most of them; numbers and symbols made of letters are listed beside it.
A character has case if it counts as upper or lower case or stands for a pair of both
(`isCased`).
-/

namespace LatexRepair

/-- The character counts as lower case. -/
def isLowercase (c : Char) : Bool :=
  Category.lowercaseLetter.holds c || otherLowercaseRanges.holds c

/-- The character counts as upper case. -/
def isUppercase (c : Char) : Bool :=
  Category.uppercaseLetter.holds c || otherUppercaseRanges.holds c

/-- The character has case. -/
def isCased (c : Char) : Bool :=
  isLowercase c || isUppercase c || Category.titlecaseLetter.holds c

/-- The character counts as a letter. -/
def isAlphabetic (c : Char) : Bool :=
  isLetter c || Category.letterNumber.holds c || otherAlphabeticRanges.holds c

/-- The code points of punctuation that may stand between two letters of a word. -/
def midLetterRanges : CodeRanges :=
  [(0x3a, 0x3a), (0xb7, 0xb7), (0x387, 0x387), (0x55f, 0x55f), (0x5f4, 0x5f4), (0x2027, 0x2027),
    (0xfe13, 0xfe13), (0xfe55, 0xfe55), (0xff1a, 0xff1a)]

/-- The code points of punctuation that may stand between two letters of a word, and between
two digits of a number too. -/
def midNumberLetterRanges : CodeRanges :=
  [(0x2e, 0x2e), (0x2018, 0x2019), (0x2024, 0x2024), (0xfe52, 0xfe52), (0xff07, 0xff07),
    (0xff0e, 0xff0e)]

/-- The character does not count for whether a letter stands next to another. -/
def isCaseIgnorable (c : Char) : Bool :=
  hasCategory [.nonspacingMark, .enclosingMark, .format, .modifierLetter, .modifierSymbol] c ||
    c = '\'' || midLetterRanges.holds c || midNumberLetterRanges.holds c

example : isCased 'ª' = true ∧ isCased 'あ' = false ∧ isAlphabetic 'あ' = true := by decide +kernel

end LatexRepair
