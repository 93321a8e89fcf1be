import LatexRepair.Position

/-!
# Delimiters

The delimiter classes of a document and the bookkeeping of one class. A `Stack` holds the
openers that wait for their closer and the closers that met no opener. Every stray closer
stands before every opener that is still waiting, so at the end of a document a stray
closer and a waiting opener are one misplaced pair: `Stack.misplaced` pairs the last
strays with the outermost openers, and only the difference of the two numbers is left as
`Stack.loneCloses` or `Stack.loneOpens` (`Stack.loneCloses_eq_nil_or_loneOpens_eq_nil`).
-/

namespace LatexRepair

/-- The delimiter classes, each with openers and closers of its own. -/
inductive Delimiter where
  | brace
  | bracket
  | inlineMath
  | displayMath
  | parenMath
  | bracketMath
deriving DecidableEq, Inhabited

namespace Delimiter

/-- What opens a group of the class. -/
def openText : Delimiter → String
  | brace => "\x7b"
  | bracket => "["
  | inlineMath => "$"
  | displayMath => "$$"
  | parenMath => "\\("
  | bracketMath => "\\["

/-- What closes a group of the class. -/
def closeText : Delimiter → String
  | brace => "\x7d"
  | bracket => "]"
  | inlineMath => "$"
  | displayMath => "$$"
  | parenMath => "\\)"
  | bracketMath => "\\]"

/-- The name of a class. -/
def label : Delimiter → String
  | brace => "brace"
  | bracket => "bracket"
  | inlineMath => "inline math"
  | displayMath => "display math"
  | parenMath => "paren math"
  | bracketMath => "bracket math"

/-- The classes in the order in which their leftovers are reported. -/
def all : List Delimiter :=
  [brace, bracket, parenMath, bracketMath, inlineMath, displayMath]

theorem mem_all (d : Delimiter) : d ∈ all := by
  cases d <;> decide

/-! ## The open and stray delimiters of one class -/

/-- The delimiters of one class that are not matched so far. -/
structure Stack where
  /-- Openers that wait for a closer, innermost first. -/
  opens : List Position := []
  /-- Closers that met no opener, latest first. -/
  strays : List Position := []
deriving DecidableEq, Inhabited

namespace Stack

/-- An opener waits for its closer. -/
def push (s : Stack) (p : Position) : Stack :=
  { s with opens := p :: s.opens }

/-- A closer takes the innermost opener, or is stray when none waits. -/
def pop (s : Stack) (p : Position) : Stack :=
  match s.opens with
  | [] => { s with strays := p :: s.strays }
  | _ :: outer => { s with opens := outer }

/-- Some opener waits for its closer. -/
def isOpen (s : Stack) : Bool :=
  !s.opens.isEmpty

/-- The number of pairs of a stray closer and a waiting opener. -/
def misplacedCount (s : Stack) : Nat :=
  min s.strays.length s.opens.length

/-- The stray closers that no opener is left for, in reading order. -/
def loneCloses (s : Stack) : List Position :=
  s.strays.reverse.take (s.strays.length - s.misplacedCount)

/-- The last stray closers, each with one of the outermost openers. -/
def misplaced (s : Stack) : List (Position × Position) :=
  (s.strays.reverse.drop (s.strays.length - s.misplacedCount)).zip
    (s.opens.reverse.take s.misplacedCount)

/-- The openers that no stray closer is left for, outermost first. -/
def loneOpens (s : Stack) : List Position :=
  s.opens.reverse.drop s.misplacedCount

theorem length_loneCloses (s : Stack) :
    s.loneCloses.length = s.strays.length - s.misplacedCount := by
  simp [loneCloses]

theorem length_loneOpens (s : Stack) : s.loneOpens.length = s.opens.length - s.misplacedCount := by
  simp [loneOpens]

theorem loneCloses_eq_nil_or_loneOpens_eq_nil (s : Stack) :
    s.loneCloses = [] ∨ s.loneOpens = [] := by
  rcases Nat.le_total s.strays.length s.opens.length with h | h
  · exact .inl (by simp [loneCloses, misplacedCount, Nat.min_eq_left h])
  · exact .inr (List.drop_eq_nil_of_le (by simp [misplacedCount, Nat.min_eq_right h]))

end Stack

end Delimiter

end LatexRepair
