import LatexRepair.Unicode.Grapheme
import LatexRepair.Unicode.Letter

/-!
# The latest edition

The tables hold the characters of edition 16.0 of Unicode, which patterns know. Texts are
lowered, quoted and used as names by edition 17.0. This module lists the characters that
edition 17.0 adds, by general category, and says what they change about letters and marks.

No character leaves an edition; only the letter `ʕ` has lost its case.
-/

namespace LatexRepair.Latest

/-- The code points that the edition adds, by the category of their characters. -/
def additions : List (Category × CodeRanges) := [
  (.uppercaseLetter, [(0xa7ce, 0xa7ce), (0xa7d2, 0xa7d2), (0xa7d4, 0xa7d4), (0x16ea0, 0x16eb8)]),
  (.lowercaseLetter, [(0xa7cf, 0xa7cf), (0x16ebb, 0x16ed3)]),
  (.modifierLetter,
    [(0xa7f1, 0xa7f1), (0x10ec5, 0x10ec5), (0x11dd9, 0x11dd9), (0x16ff2, 0x16ff3),
      (0x1e6ff, 0x1e6ff)]),
  (.otherLetter,
    [(0x88f, 0x88f), (0xc5c, 0xc5c), (0xcdc, 0xcdc), (0x10940, 0x10959), (0x10ec6, 0x10ec7),
      (0x11db0, 0x11dd8), (0x11dda, 0x11ddb), (0x187f8, 0x187ff), (0x18d09, 0x18d1e),
      (0x18d80, 0x18df2), (0x1e6c0, 0x1e6de), (0x1e6e0, 0x1e6e2), (0x1e6e4, 0x1e6e5),
      (0x1e6e7, 0x1e6ed), (0x1e6f0, 0x1e6f4), (0x1e6fe, 0x1e6fe), (0x2b73a, 0x2b73f),
      (0x2cea2, 0x2cead), (0x323b0, 0x33479)]),
  (.nonspacingMark,
    [(0x1acf, 0x1add), (0x1ae0, 0x1aeb), (0x10efa, 0x10efb), (0x11b60, 0x11b60),
      (0x11b62, 0x11b64), (0x11b66, 0x11b66), (0x1e6e3, 0x1e6e3), (0x1e6e6, 0x1e6e6),
      (0x1e6ee, 0x1e6ef), (0x1e6f5, 0x1e6f5)]),
  (.spacingMark, [(0x11b61, 0x11b61), (0x11b65, 0x11b65), (0x11b67, 0x11b67)]),
  (.decimalNumber, [(0x11de0, 0x11de9)]),
  (.letterNumber, [(0x16ff4, 0x16ff6)]),
  (.otherPunctuation, [(0x10ed0, 0x10ed0)]),
  (.mathSymbol, [(0x1cef0, 0x1cef0), (0x1f8d0, 0x1f8d8)]),
  (.currencySymbol, [(0x20c1, 0x20c1)]),
  (.otherSymbol,
    [(0x2b96, 0x2b96), (0xfbc3, 0xfbd2), (0xfd90, 0xfd91), (0xfdc8, 0xfdce), (0x10ed1, 0x10ed8),
      (0x1ccfa, 0x1ccfc), (0x1ceba, 0x1ced0), (0x1cee0, 0x1ceef), (0x1f6d8, 0x1f6d8),
      (0x1f777, 0x1f77a), (0x1fa54, 0x1fa57), (0x1fa8a, 0x1fa8a), (0x1fa8e, 0x1fa8e),
      (0x1fac8, 0x1fac8), (0x1facd, 0x1facd), (0x1faea, 0x1faea), (0x1faef, 0x1faef),
      (0x1fbfa, 0x1fbfa)])]

/-- The category of a character that the edition adds. -/
def added? (c : Char) : Option Category :=
  (additions.find? (·.2.holds c)).map (·.1)

/-- The edition adds the character, with one of the categories. -/
def adds (gs : List Category) (c : Char) : Bool :=
  (added? c).any gs.contains

/-- The code points of added marks that count as letters. -/
def alphabeticMarkRanges : CodeRanges :=
  [(0x10efa, 0x10efb), (0x11b60, 0x11b67), (0x1e6e3, 0x1e6e3), (0x1e6e6, 0x1e6e6),
    (0x1e6ee, 0x1e6ef), (0x1e6f5, 0x1e6f5)]

/-- The character counts as a letter. -/
def isAlphabetic (c : Char) : Bool :=
  LatexRepair.isAlphabetic c || adds (.letterNumber :: Category.letters) c ||
    alphabeticMarkRanges.holds c

/-- The character is a number. -/
def isNumber (c : Char) : Bool :=
  LatexRepair.isNumber c || adds Category.numbers c

/-- The character has case. Of the modifier letters that the edition adds, one counts as lower
case. -/
def isCased (c : Char) : Bool :=
  (LatexRepair.isCased c && c ≠ 'ʕ') || adds Category.casedLetters c || c.toNat = 0xa7f1

/-- The character does not count for whether a letter stands next to another. -/
def isCaseIgnorable (c : Char) : Bool :=
  LatexRepair.isCaseIgnorable c || adds [.nonspacingMark, .modifierLetter] c

/-- The character joins the one before it. -/
def isGraphemeExtend (c : Char) : Bool :=
  LatexRepair.isGraphemeExtend c || adds [.nonspacingMark] c

/-- The character has one of the categories. -/
def hasCategory (gs : List Category) (c : Char) : Bool :=
  LatexRepair.hasCategory gs c || adds gs c

end LatexRepair.Latest
