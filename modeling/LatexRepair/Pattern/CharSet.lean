import LatexRepair.Unicode.Boundary
import LatexRepair.Unicode.CaseFold
import LatexRepair.Unicode.Edition
import LatexRepair.Unicode.Property

/-!
# Sets of characters

The sets of characters that patterns are made of. A set is kept as the expression that it
was written as, so sets can be compared, and `CharSet.mem` says which characters belong to
it.
-/

namespace LatexRepair

/-- What can be asked of a character. -/
inductive CharProperty where
  | category (g : Category)
  | binary (p : BinaryProperty)
  /-- Words are made of the character. -/
  | wordChar
  /-- The character belongs to the script with the place `i`. -/
  | script (i : Fin Script.all.size)
  /-- The character is used in the script with the place `i`. -/
  | scriptUse (i : Fin Script.all.size)
  /-- The edition has the character. -/
  | edition (e : Edition)
  | grapheme (k : GraphemeClass)
  | word (k : WordClass)
  | sentence (k : SentenceClass)
deriving DecidableEq, Inhabited

namespace CharProperty

/-- The character has the property. -/
def holds : CharProperty → Char → Bool
  | category g => g.holds
  | binary p => p.holds
  | wordChar => isWordChar
  | script i => Script.all[i].holds
  | scriptUse i => Script.all[i].uses
  | edition e => e.has
  | grapheme k => k.holds
  | word k => k.holds
  | sentence k => k.holds

end CharProperty

/-- A set of characters. -/
inductive CharSet where
  | empty
  /-- The characters from the first to the last. -/
  | range (first last : Char)
  | property (p : CharProperty)
  | complement (s : CharSet)
  | union (s t : CharSet)
  | intersection (s t : CharSet)
  /-- The characters that differ by case only from one in the set. -/
  | ignoringCase (s : CharSet)
  /-- The ASCII characters that differ by case only from one in the set, and the set. -/
  | ignoringAsciiCase (s : CharSet)
deriving DecidableEq, Inhabited

namespace CharSet

/-- The ASCII letter in the other case, or the character itself. -/
def swapAsciiCase (c : Char) : Char :=
  if c.isUpper then c.toLower else c.toUpper

/-- `c` belongs to the set. -/
def mem (c : Char) : CharSet → Bool
  | empty => false
  | range first last => first ≤ c && c ≤ last
  | property p => p.holds c
  | complement s => !s.mem c
  | union s t => s.mem c || t.mem c
  | intersection s t => s.mem c && t.mem c
  | ignoringCase s => (caseVariants c).any fun d => s.mem d
  | ignoringAsciiCase s => s.mem c || s.mem (swapAsciiCase c)

/-- The set with one character. -/
def single (c : Char) : CharSet :=
  range c c

/-- All characters. -/
def all : CharSet :=
  complement empty

/-- The union of sets. -/
def unions : List CharSet → CharSet
  | [] => empty
  | s :: ss => union s (unions ss)

/-- The ranges of characters with the given ends. -/
def ofRanges (rs : List (Char × Char)) : CharSet :=
  unions (rs.map fun (first, last) => range first last)

/-- The characters of the first set that are not in the second. -/
def difference (s t : CharSet) : CharSet :=
  intersection s (complement t)

/-- The characters of one of the sets that are not in the other. -/
def symmetricDifference (s t : CharSet) : CharSet :=
  union (difference s t) (difference t s)

@[simp] theorem mem_single {c d : Char} : (single d).mem c = decide (c = d) := by
  simp only [single, mem]
  by_cases h : c = d
  · simp [h]
  · have : ¬(d ≤ c ∧ c ≤ d) := fun ⟨h₁, h₂⟩ => h (Char.le_antisymm h₂ h₁)
    simp only [h, decide_false]
    simpa using this

/-! ## ASCII classes -/

/-- The digits. -/
def asciiDigits : CharSet :=
  range '0' '9'

/-- The upper-case letters. -/
def asciiUpper : CharSet :=
  range 'A' 'Z'

/-- The lower-case letters. -/
def asciiLower : CharSet :=
  range 'a' 'z'

/-- Letters and digits. -/
def asciiAlnum : CharSet :=
  unions [asciiDigits, asciiUpper, asciiLower]

/-- The characters of words. -/
def asciiWord : CharSet :=
  union asciiAlnum (single '_')

/-- White space. -/
def asciiSpace : CharSet :=
  union (range '\t' '\x0d') (single ' ')

/-- The ASCII classes by their names. -/
def asciiClasses : List (String × CharSet) :=
  [("alnum", asciiAlnum), ("alpha", union asciiUpper asciiLower),
    ("ascii", range '\x00' '\x7f'), ("blank", union (single '\t') (single ' ')),
    ("cntrl", union (range '\x00' '\x1f') (single '\x7f')), ("digit", asciiDigits),
    ("graph", range '!' '~'), ("lower", asciiLower), ("print", range ' ' '~'),
    ("punct", ofRanges [('!', '/'), (':', '@'), ('[', '\x60'), ('\x7b', '~')]),
    ("space", asciiSpace), ("upper", asciiUpper), ("word", asciiWord),
    ("xdigit", ofRanges [('0', '9'), ('A', 'F'), ('a', 'f')])]

end CharSet

end LatexRepair
