import LatexRepair.Pattern.CharSet

/-!
# Patterns

Regular expressions over characters, with groups that mark what they match. A pattern
prefers some ways to match over others: of two alternatives the first, and of more or fewer
repetitions those that its repetitions ask for.
-/

namespace LatexRepair

/-- What a boundary of a word looks like. -/
inductive WordEdge where
  /-- A word starts or ends. -/
  | boundary
  /-- No word starts or ends. -/
  | inside
  | start
  | stop
  /-- No word character stands before the place. -/
  | startHalf
  /-- No word character stands behind the place. -/
  | stopHalf
deriving DecidableEq, Inhabited

/-- What is asked of a place in a text. -/
inductive Assertion where
  | textStart
  | textEnd
  /-- A line starts; with `returns`, carriage returns end lines too. -/
  | lineStart (returns : Bool)
  /-- A line ends; with `returns`, carriage returns end lines too. -/
  | lineEnd (returns : Bool)
  /-- An edge of words of the given characters. -/
  | word (edge : WordEdge) (chars : CharSet)
deriving DecidableEq, Inhabited

namespace Assertion

/-- The assertion holds between the characters `before` and `behind`, which are missing at
the ends of the text. -/
def holds (before behind : Option Char) : Assertion → Bool
  | textStart => before.isNone
  | textEnd => behind.isNone
  | lineStart false => before.isNone || before = some '\n'
  | lineEnd false => behind.isNone || behind = some '\n'
  | lineStart true =>
    before.isNone || before = some '\n' || (before = some '\r' && behind ≠ some '\n')
  | lineEnd true =>
    behind.isNone || behind = some '\r' || (behind = some '\n' && before ≠ some '\r')
  | word edge chars =>
    let left := before.any fun c => chars.mem c
    let right := behind.any fun c => chars.mem c
    match edge with
    | .boundary => left != right
    | .inside => left == right
    | .start => !left && right
    | .stop => left && !right
    | .startHalf => !left
    | .stopHalf => !right

end Assertion

/-- A pattern. -/
inductive Pattern where
  /-- The empty text. -/
  | empty
  /-- One character of a set. -/
  | oneOf (s : CharSet)
  /-- The empty text where the assertion holds. -/
  | assertion (a : Assertion)
  | sequence (p q : Pattern)
  /-- One of two patterns, the first if it can be. -/
  | either (p q : Pattern)
  /-- At least `least` and at most `most` copies; many rather than few when `greedy`. -/
  | repetition (greedy : Bool) (p : Pattern) (least : Nat) (most : Option Nat)
  /-- Further copies behind one that was matched. -/
  | more (greedy : Bool) (p : Pattern)
  /-- The pattern as the group with the given number. -/
  | group (number : Nat) (p : Pattern)
  /-- The end of the group with the given number. -/
  | groupEnd (number : Nat)
deriving DecidableEq, Inhabited

namespace Pattern

/-- A bound on the number of ways in which what is left of a pattern can start. -/
def size : Pattern → Nat
  | empty | oneOf _ | assertion _ | groupEnd _ => 1
  | sequence p q | either p q => p.size + q.size + 1
  | repetition _ p least most => (p.size + 2) * (max least (most.getD 0) + 2)
  | more _ p => p.size + 2
  | group _ p => p.size + 2

/-- The pattern matches nothing but the empty text. -/
def isEmptyOnly : Pattern → Bool
  | empty | assertion _ | groupEnd _ => true
  | oneOf _ => false
  | sequence p q | either p q => p.isEmptyOnly && q.isEmptyOnly
  | repetition _ p _ most => p.isEmptyOnly || most = some 0
  | more _ p => p.isEmptyOnly
  | group _ p => p.isEmptyOnly

/-- Copies of a pattern. Of the empty text one copy is as good as many. -/
def copies (greedy : Bool) (p : Pattern) (least : Nat) (most : Option Nat) : Pattern :=
  if p.isEmptyOnly then repetition greedy p (min least 1) (some (min (most.getD 1) 1))
  else repetition greedy p least most

/-- One of the patterns, an earlier one rather than a later one. -/
def firstOf : List Pattern → Pattern
  | [] => empty
  | [p] => p
  | p :: ps => either p (firstOf ps)

/-- The patterns one after the other. -/
def inSequence (ps : List Pattern) : Pattern :=
  ps.foldr sequence empty

end Pattern

end LatexRepair
