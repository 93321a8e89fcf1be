import LatexRepair.Unicode.Blank
import LatexRepair.Unicode.Grapheme
import LatexRepair.Unicode.LowerCase
import LatexRepair.Unicode.Word

/-!
# Binary properties

The properties that a character has or has not. Most are listed by Unicode; the others follow
from the general category and from listed ones.
-/

namespace LatexRepair

/-- A property that a character has or has not. -/
inductive BinaryProperty where
  | alphabetic
  | asciiHexDigit
  | bidiControl
  | bidiMirrored
  | caseIgnorable
  | cased
  | changesWhenCasefolded
  | changesWhenCasemapped
  | changesWhenLowercased
  | changesWhenTitlecased
  | changesWhenUppercased
  | dash
  | defaultIgnorable
  | deprecated
  | diacritic
  | emoji
  | emojiComponent
  | emojiModifier
  | emojiModifierBase
  | emojiPresentation
  | extendedPictographic
  | extender
  | graphemeBase
  | graphemeExtend
  | graphemeLink
  | hexDigit
  | hyphen
  | idCompatMathContinue
  | idCompatMathStart
  | idContinue
  | idStart
  | ideographic
  | idsBinary
  | idsTrinary
  | idsUnary
  | joinControl
  | logicalOrderException
  | lowercase
  | math
  | modifierCombiningMark
  | noncharacter
  | otherAlphabetic
  | otherDefaultIgnorable
  | otherGraphemeExtend
  | otherIdContinue
  | otherIdStart
  | otherLowercase
  | otherMath
  | otherUppercase
  | patternSyntax
  | patternWhiteSpace
  | prependedConcatenationMark
  | quotationMark
  | radical
  | regionalIndicator
  | sentenceTerminal
  | softDotted
  | terminalPunctuation
  | unifiedIdeograph
  | uppercase
  | variationSelector
  | whiteSpace
  | xidContinue
  | xidStart
deriving DecidableEq, Inhabited

/-- The character has a form of lower case other than itself. -/
def hasLowerForm (c : Char) : Bool :=
  c = 'İ' || lowerCaseRuns.any (·.holds c.toNat)

namespace BinaryProperty

/-- The character has the property. -/
def holds : BinaryProperty → Char → Bool
  | alphabetic => isAlphabetic
  | asciiHexDigit => asciiHexDigitRanges.holds
  | bidiControl => bidiControlRanges.holds
  | bidiMirrored => bidiMirroredRanges.holds
  | caseIgnorable => isCaseIgnorable
  | cased => isCased
  | changesWhenCasefolded => changesWhenCasefoldedRanges.holds
  | changesWhenCasemapped => fun c =>
    hasLowerForm c || changesWhenUppercasedRanges.holds c ||
      changesWhenTitlecasedRanges.holds c
  | changesWhenLowercased => hasLowerForm
  | changesWhenTitlecased => changesWhenTitlecasedRanges.holds
  | changesWhenUppercased => changesWhenUppercasedRanges.holds
  | dash => dashRanges.holds
  | defaultIgnorable => isDefaultIgnorable
  | deprecated => deprecatedRanges.holds
  | diacritic => diacriticRanges.holds
  | emoji => emojiRanges.holds
  | emojiComponent => emojiComponentRanges.holds
  | emojiModifier => emojiModifierRanges.holds
  | emojiModifierBase => emojiModifierBaseRanges.holds
  | emojiPresentation => emojiPresentationRanges.holds
  | extendedPictographic => extendedPictographicRanges.holds
  | extender => extenderRanges.holds
  | graphemeBase => isGraphemeBase
  | graphemeExtend => isGraphemeExtend
  | graphemeLink => graphemeLinkRanges.holds
  | hexDigit => hexDigitRanges.holds
  | hyphen => hyphenRanges.holds
  | idCompatMathContinue => idCompatMathContinueRanges.holds
  | idCompatMathStart => idCompatMathStartRanges.holds
  | idContinue => isIdContinue
  | idStart => isIdStart
  | ideographic => ideographicRanges.holds
  | idsBinary => idsBinaryRanges.holds
  | idsTrinary => idsTrinaryRanges.holds
  | idsUnary => idsUnaryRanges.holds
  | joinControl => joinControlRanges.holds
  | logicalOrderException => logicalOrderExceptionRanges.holds
  | lowercase => isLowercase
  | math => fun c => Category.mathSymbol.holds c || otherMathRanges.holds c
  | modifierCombiningMark => modifierCombiningMarkRanges.holds
  | noncharacter => noncharacterRanges.holds
  | otherAlphabetic => otherAlphabeticRanges.holds
  | otherDefaultIgnorable => otherDefaultIgnorableRanges.holds
  | otherGraphemeExtend => otherGraphemeExtendRanges.holds
  | otherIdContinue => otherIdContinueRanges.holds
  | otherIdStart => otherIdStartRanges.holds
  | otherLowercase => otherLowercaseRanges.holds
  | otherMath => otherMathRanges.holds
  | otherUppercase => otherUppercaseRanges.holds
  | patternSyntax => patternSyntaxRanges.holds
  | patternWhiteSpace => patternWhiteSpaceRanges.holds
  | prependedConcatenationMark => prependedConcatenationMarkRanges.holds
  | quotationMark => quotationMarkRanges.holds
  | radical => radicalRanges.holds
  | regionalIndicator => regionalIndicatorRanges.holds
  | sentenceTerminal => sentenceTerminalRanges.holds
  | softDotted => softDottedRanges.holds
  | terminalPunctuation => terminalPunctuationRanges.holds
  | unifiedIdeograph => unifiedIdeographRanges.holds
  | uppercase => isUppercase
  | variationSelector => variationSelectorRanges.holds
  | whiteSpace => isBlank
  | xidContinue => isXidContinue
  | xidStart => isXidStart

/-- The properties with their names. -/
def named : List (List String × BinaryProperty) :=
  [(["Alphabetic", "Alpha"], alphabetic), (["ASCII_Hex_Digit", "AHex"], asciiHexDigit),
    (["Bidi_Control", "Bidi_C"], bidiControl), (["Bidi_Mirrored", "Bidi_M"], bidiMirrored),
    (["Case_Ignorable", "CI"], caseIgnorable), (["Cased"], cased),
    (["Changes_When_Casefolded", "CWCF"], changesWhenCasefolded),
    (["Changes_When_Casemapped", "CWCM"], changesWhenCasemapped),
    (["Changes_When_Lowercased", "CWL"], changesWhenLowercased),
    (["Changes_When_Titlecased", "CWT"], changesWhenTitlecased),
    (["Changes_When_Uppercased", "CWU"], changesWhenUppercased), (["Dash"], dash),
    (["Default_Ignorable_Code_Point", "DI"], defaultIgnorable),
    (["Deprecated", "Dep"], deprecated), (["Diacritic", "Dia"], diacritic),
    (["Emoji"], emoji), (["Emoji_Component", "EComp"], emojiComponent),
    (["Emoji_Modifier", "EMod"], emojiModifier),
    (["Emoji_Modifier_Base", "EBase"], emojiModifierBase),
    (["Emoji_Presentation", "EPres"], emojiPresentation),
    (["Extended_Pictographic", "ExtPict"], extendedPictographic),
    (["Extender", "Ext"], extender), (["Grapheme_Base", "Gr_Base"], graphemeBase),
    (["Grapheme_Extend", "Gr_Ext"], graphemeExtend),
    (["Grapheme_Link", "Gr_Link"], graphemeLink), (["Hex_Digit", "Hex"], hexDigit),
    (["Hyphen"], hyphen), (["ID_Compat_Math_Continue"], idCompatMathContinue),
    (["ID_Compat_Math_Start"], idCompatMathStart), (["ID_Continue", "IDC"], idContinue),
    (["ID_Start", "IDS"], idStart), (["Ideographic", "Ideo"], ideographic),
    (["IDS_Binary_Operator", "IDSB"], idsBinary),
    (["IDS_Trinary_Operator", "IDST"], idsTrinary),
    (["IDS_Unary_Operator", "IDSU"], idsUnary), (["Join_Control", "Join_C"], joinControl),
    (["Logical_Order_Exception", "LOE"], logicalOrderException),
    (["Lowercase", "Lower"], lowercase), (["Math"], math),
    (["Modifier_Combining_Mark", "MCM"], modifierCombiningMark),
    (["Noncharacter_Code_Point", "NChar"], noncharacter),
    (["Other_Alphabetic", "OAlpha"], otherAlphabetic),
    (["Other_Default_Ignorable_Code_Point", "ODI"], otherDefaultIgnorable),
    (["Other_Grapheme_Extend", "OGr_Ext"], otherGraphemeExtend),
    (["Other_ID_Continue", "OIDC"], otherIdContinue),
    (["Other_ID_Start", "OIDS"], otherIdStart),
    (["Other_Lowercase", "OLower"], otherLowercase), (["Other_Math", "OMath"], otherMath),
    (["Other_Uppercase", "OUpper"], otherUppercase),
    (["Pattern_Syntax", "Pat_Syn"], patternSyntax),
    (["Pattern_White_Space", "Pat_WS"], patternWhiteSpace),
    (["Prepended_Concatenation_Mark", "PCM"], prependedConcatenationMark),
    (["Quotation_Mark", "QMark"], quotationMark), (["Radical"], radical),
    (["Regional_Indicator", "RI"], regionalIndicator),
    (["Sentence_Terminal", "STerm"], sentenceTerminal), (["Soft_Dotted", "SD"], softDotted),
    (["Terminal_Punctuation", "Term"], terminalPunctuation),
    (["Unified_Ideograph", "UIdeo"], unifiedIdeograph), (["Uppercase", "Upper"], uppercase),
    (["Variation_Selector", "VS"], variationSelector),
    (["White_Space", "WSpace", "space"], whiteSpace), (["XID_Continue", "XIDC"], xidContinue),
    (["XID_Start", "XIDS"], xidStart)]

end BinaryProperty

end LatexRepair
