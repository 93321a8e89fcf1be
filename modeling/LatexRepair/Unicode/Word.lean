import LatexRepair.Unicode.Letter

/-!
# Words and names

The characters that words are made of, and those that names in languages may start and go on
with. Words are made of letters, marks, decimal digits, connecting punctuation such as the
underscore, and the two joiners.
-/

namespace LatexRepair

/-- A character that words are made of. -/
def isWordChar (c : Char) : Bool :=
  isAlphabetic c || isMark c || Category.decimalNumber.holds c ||
    Category.connectorPunctuation.holds c || joinControlRanges.holds c

/-- Punctuation and white space of pattern languages, which no name has. -/
def isPatternSign (c : Char) : Bool :=
  patternSyntaxRanges.holds c || patternWhiteSpaceRanges.holds c

/-- A character that a name may start with. -/
def isIdStart (c : Char) : Bool :=
  (isLetter c || Category.letterNumber.holds c || otherIdStartRanges.holds c) &&
    !isPatternSign c

/-- A character that a name may go on with. -/
def isIdContinue (c : Char) : Bool :=
  isIdStart c ||
    ((hasCategory [.nonspacingMark, .spacingMark, .decimalNumber, .connectorPunctuation] c ||
      otherIdContinueRanges.holds c) && !isPatternSign c)

/-- A character that a name may start with in each of its forms. -/
def isXidStart (c : Char) : Bool :=
  isIdStart c && !notXidStartRanges.holds c

/-- A character that a name may go on with in each of its forms. -/
def isXidContinue (c : Char) : Bool :=
  isIdContinue c && !notXidContinueRanges.holds c

example : isWordChar '_' = true ∧ isWordChar '-' = false := by decide +kernel

end LatexRepair
