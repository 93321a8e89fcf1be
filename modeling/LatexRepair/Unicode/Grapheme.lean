import LatexRepair.Unicode.Category
import LatexRepair.Unicode.Listed.Signs

/-!
# What is seen as one character

A reader sees a character together with the marks behind it, and does not see some
characters at all.
-/

namespace LatexRepair

/-- The character joins the one before it. -/
def isGraphemeExtend (c : Char) : Bool :=
  hasCategory [.nonspacingMark, .enclosingMark] c || otherGraphemeExtendRanges.holds c

/-- The character can be seen without another one. -/
def isGraphemeBase (c : Char) : Bool :=
  isAssigned c && !isGraphemeExtend c &&
    !hasCategory [.control, .format, .privateUse, .lineSeparator, .paragraphSeparator] c

/-- The code points of format characters that are shown nevertheless: marks of notes and of
the layout of hieroglyphs. -/
def shownFormatRanges : CodeRanges :=
  [(0xfff9, 0xfffb), (0x13430, 0x1343f)]

/-- The character is not shown where it is not supported. -/
def isDefaultIgnorable (c : Char) : Bool :=
  (Category.format.holds c && !prependedConcatenationMarkRanges.holds c &&
    !shownFormatRanges.holds c) ||
    otherDefaultIgnorableRanges.holds c || variationSelectorRanges.holds c

example : isDefaultIgnorable '\u200b' = true ∧ isGraphemeExtend '\u0301' = true := by
  decide +kernel

end LatexRepair
