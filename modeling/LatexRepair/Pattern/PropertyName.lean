import LatexRepair.Pattern.CharSet

/-!
# Names of properties

The sets of characters that patterns call by a name: general categories and their groups,
binary properties, scripts, editions, and classes at boundaries. In names, white space,
underscores, hyphens and letter case do not count, and neither does a leading `is`.

`CharSet.ofName?` finds the set with a name of its own, and `CharSet.ofValue?` the set of the
characters for which a property has a value.
-/

namespace LatexRepair.PropertyName

/-- A name without what does not count. The name `isc` is kept, so that it is not mistaken
for that of a group of categories. -/
def plain (name : Text) : Text :=
  let lower := name.map Char.toLower
  let core := (Text.strip? "is".toList lower).getD lower
  let kept := core.filter fun c => c.toNat < 0x80 && !(c = ' ' || c = '_' || c = '-')
  if kept = ['c'] && core ≠ lower then "isc".toList else kept

/-- The value with the given plain name. -/
def find? {α : Type} (named : List (List String × α)) (name : Text) : Option α :=
  (named.find? fun (names, _) => names.any fun n => plain n.toList = name).map (·.2)

/-! ## General categories -/

/-- The characters with one of the categories. -/
def ofCategories (gs : List Category) : CharSet :=
  .unions (gs.map fun g => .property (.category g))

/-- The code points with a character. -/
def assigned : CharSet :=
  ofCategories Category.all

/-- The general categories and their groups with their names. -/
def categories : List (List String × CharSet) :=
  [(["L", "Letter"], ofCategories Category.letters),
    (["LC", "Cased_Letter"], ofCategories Category.casedLetters),
    (["Lu", "Uppercase_Letter"], ofCategories [.uppercaseLetter]),
    (["Ll", "Lowercase_Letter"], ofCategories [.lowercaseLetter]),
    (["Lt", "Titlecase_Letter"], ofCategories [.titlecaseLetter]),
    (["Lm", "Modifier_Letter"], ofCategories [.modifierLetter]),
    (["Lo", "Other_Letter"], ofCategories [.otherLetter]),
    (["M", "Mark", "Combining_Mark"], ofCategories Category.marks),
    (["Mn", "Nonspacing_Mark"], ofCategories [.nonspacingMark]),
    (["Mc", "Spacing_Mark"], ofCategories [.spacingMark]),
    (["Me", "Enclosing_Mark"], ofCategories [.enclosingMark]),
    (["N", "Number"], ofCategories Category.numbers),
    (["Nd", "Decimal_Number", "digit"], ofCategories [.decimalNumber]),
    (["Nl", "Letter_Number"], ofCategories [.letterNumber]),
    (["No", "Other_Number"], ofCategories [.otherNumber]),
    (["P", "Punctuation", "punct"], ofCategories Category.punctuation),
    (["Pc", "Connector_Punctuation"], ofCategories [.connectorPunctuation]),
    (["Pd", "Dash_Punctuation"], ofCategories [.dashPunctuation]),
    (["Ps", "Open_Punctuation"], ofCategories [.openPunctuation]),
    (["Pe", "Close_Punctuation"], ofCategories [.closePunctuation]),
    (["Pi", "Initial_Punctuation"], ofCategories [.initialPunctuation]),
    (["Pf", "Final_Punctuation"], ofCategories [.finalPunctuation]),
    (["Po", "Other_Punctuation"], ofCategories [.otherPunctuation]),
    (["S", "Symbol"], ofCategories Category.symbols),
    (["Sm", "Math_Symbol"], ofCategories [.mathSymbol]),
    (["Sc", "Currency_Symbol"], ofCategories [.currencySymbol]),
    (["Sk", "Modifier_Symbol"], ofCategories [.modifierSymbol]),
    (["So", "Other_Symbol"], ofCategories [.otherSymbol]),
    (["Z", "Separator"], ofCategories Category.separators),
    (["Zs", "Space_Separator"], ofCategories [.spaceSeparator]),
    (["Zl", "Line_Separator"], ofCategories [.lineSeparator]),
    (["Zp", "Paragraph_Separator"], ofCategories [.paragraphSeparator]),
    (["C", "Other"], .union (ofCategories Category.others) (.complement assigned)),
    (["Cc", "Control", "cntrl"], ofCategories [.control]),
    (["Cf", "Format"], ofCategories [.format]),
    (["Co", "Private_Use"], ofCategories [.privateUse]),
    (["Cn", "Unassigned"], .complement assigned), (["Any"], .all), (["Assigned"], assigned),
    (["ASCII"], .range '\x00' '\x7f')]

/-! ## Scripts and editions -/

/-- The place of the script with the given plain name. -/
def script? (name : Text) : Option (Fin Script.all.size) :=
  Script.all.findFinIdx? fun s => s.names.any fun n => plain n.toList = name

/-- The edition with the given plain name: its number, or its number without the point
behind the letter v. -/
def edition? (name : Text) : Option Edition :=
  (Edition.additions.map (·.1)).find? fun e =>
    let major := e.major.repr.toList
    let minor := e.minor.repr.toList
    name = major ++ '.' :: minor || name = 'v' :: major ++ minor

/-! ## Classes at boundaries -/

/-- The classes of visible characters with their names. -/
def graphemeClasses : List (List String × GraphemeClass) :=
  [(["Control", "CN"], .control), (["CR"], .carriageReturn), (["LF"], .lineFeed),
    (["Extend", "EX"], .extend), (["Prepend", "PP"], .prepend),
    (["SpacingMark", "SM"], .spacingMark), (["ZWJ"], .joiner),
    (["Regional_Indicator", "RI"], .regionalIndicator), (["L"], .leading), (["V"], .vowel),
    (["T"], .trailing), (["LV"], .openSyllable), (["LVT"], .closedSyllable)]

/-- The classes of characters of words with their names. -/
def wordClasses : List (List String × WordClass) :=
  [(["CR"], .carriageReturn), (["LF"], .lineFeed), (["Newline", "NL"], .newline),
    (["Extend"], .extend), (["ZWJ"], .joiner), (["Regional_Indicator", "RI"], .regionalIndicator),
    (["Katakana", "KA"], .katakana), (["Hebrew_Letter", "HL"], .hebrewLetter),
    (["ALetter", "LE"], .letter), (["Single_Quote", "SQ"], .singleQuote),
    (["Double_Quote", "DQ"], .doubleQuote), (["MidNumLet", "MB"], .midNumberLetter),
    (["MidLetter", "ML"], .midLetter), (["MidNum", "MN"], .midNumber),
    (["Numeric", "NU"], .numeric), (["ExtendNumLet", "EX"], .connector),
    (["WSegSpace"], .space), (["Format", "FO"], .format)]

/-- The classes of characters of sentences with their names. -/
def sentenceClasses : List (List String × SentenceClass) :=
  [(["CR"], .carriageReturn), (["LF"], .lineFeed), (["Extend", "EX"], .extend),
    (["Sep", "SE"], .separator), (["Format", "FO"], .format), (["Sp"], .space),
    (["Lower", "LO"], .lower), (["Upper", "UP"], .upper), (["OLetter", "LE"], .letter),
    (["Numeric", "NU"], .numeric), (["ATerm", "AT"], .point), (["SContinue", "SC"], .continuation),
    (["STerm", "ST"], .terminal), (["Close", "CL"], .close)]

/-! ## Properties with values -/

/-- The properties that a character has a value of, as the sets that plain names of values
stand for. -/
def valued : List (List String × (Text → Option CharSet)) :=
  [(["General_Category", "gc"], find? categories),
    (["Script", "sc"], fun v => (script? v).map fun i => .property (.script i)),
    (["Script_Extensions", "scx"], fun v => (script? v).map fun i => .property (.scriptUse i)),
    (["Age"], fun v => (edition? v).map fun e => .property (.edition e)),
    (["Grapheme_Cluster_Break", "GCB"], fun v =>
      (find? graphemeClasses v).map fun k => .property (.grapheme k)),
    (["Word_Break", "WB"], fun v => (find? wordClasses v).map fun k => .property (.word k)),
    (["Sentence_Break", "SB"], fun v =>
      (find? sentenceClasses v).map fun k => .property (.sentence k))]

end LatexRepair.PropertyName

namespace LatexRepair.CharSet

open PropertyName

/-- The set with the given name: that of a binary property, else of a category, else of a
script. -/
def ofName? (name : Text) : Option CharSet :=
  let name := plain name
  ((find? BinaryProperty.named name).map fun p => .property (.binary p)) <|>
    find? categories name <|> (script? name).map fun i => .property (.script i)

/-- The characters for which the property has the value. -/
def ofValue? (property value : Text) : Option CharSet := do
  let values ← find? valued (plain property)
  values (plain value)

end LatexRepair.CharSet
