import LatexRepair.Pattern.Basic

/-!
# Searching for patterns

Where a pattern matches in a text. The first place where it matches at all counts, and of
the ways to match there the one that the pattern prefers.

The text is read once. At each place there is a list of threads, each with the patterns it
has still to match one after the other; threads that come first are preferred. A thread
whose patterns an earlier thread has at the same place can match nothing better and is
dropped, so a place never has more threads than the pattern has ways to go on
(`Pattern.size`). Threads behind one that has finished are dropped too.
-/

namespace LatexRepair

/-- A place where a pattern matches, from `start` up to `stop`. -/
structure PatternMatch where
  start : Nat
  stop : Nat
  /-- The ends of the groups in the order in which they were passed, the last one first:
  group `n` starts at mark `2 * n` and ends at mark `2 * n + 1`. -/
  marks : List (Nat × Nat)
deriving DecidableEq, Inhabited

namespace PatternMatch

/-- Where the mark was passed last. -/
def mark? (m : PatternMatch) (number : Nat) : Option Nat :=
  (m.marks.find? (·.1 = number)).map (·.2)

/-- What the group with the given number matches in the text. -/
def group? (m : PatternMatch) (t : Text) (number : Nat) : Option Text := do
  let start ← m.mark? (2 * number)
  let stop ← m.mark? (2 * number + 1)
  some ((t.take stop).drop start)

end PatternMatch

/-- A way to go on matching. -/
structure Thread where
  /-- What has still to be matched, one pattern after the other. -/
  remaining : List Pattern
  marks : List (Nat × Nat)
deriving DecidableEq, Inhabited

namespace Thread

/-- Nothing has to be matched any more. -/
def isFinished (t : Thread) : Bool :=
  t.remaining.isEmpty

/-- The two ways to go on where `again` has been asked for, the preferred one first. -/
def choose (greedy : Bool) (again stop : Thread) : List Thread :=
  if greedy then [again, stop] else [stop, again]

/-- How a thread goes on at the place between the given characters without reading one;
nothing where it is finished or has to read one. -/
def advance? (before behind : Option Char) (place : Nat) (t : Thread) : Option (List Thread) :=
  match t.remaining with
  | [] | .oneOf _ :: _ => none
  | .empty :: ps => some [⟨ps, t.marks⟩]
  | .assertion a :: ps => some (if a.holds before behind then [⟨ps, t.marks⟩] else [])
  | .sequence p q :: ps => some [⟨p :: q :: ps, t.marks⟩]
  | .either p q :: ps => some [⟨p :: ps, t.marks⟩, ⟨q :: ps, t.marks⟩]
  | .repetition greedy p (least + 1) most :: ps =>
    let others :=
      if least = 0 && most.isNone then .more greedy p
      else .repetition greedy p least (most.map (· - 1))
    some [⟨p :: others :: ps, t.marks⟩]
  | .repetition greedy p 0 most :: ps =>
    match most with
    | some 0 => some [⟨ps, t.marks⟩]
    | some (n + 1) =>
      some (choose greedy ⟨p :: .repetition greedy p 0 (some n) :: ps, t.marks⟩ ⟨ps, t.marks⟩)
    | none => some (choose greedy ⟨p :: .more greedy p :: ps, t.marks⟩ ⟨ps, t.marks⟩)
  | .more greedy p :: ps =>
    some (choose greedy ⟨p :: .more greedy p :: ps, t.marks⟩ ⟨ps, t.marks⟩)
  | .group n p :: ps => some [⟨p :: .groupEnd n :: ps, (2 * n, place) :: t.marks⟩]
  | .groupEnd n :: ps => some [⟨ps, (2 * n + 1, place) :: t.marks⟩]

/-- The thread behind the character `c`, if it can read it. -/
def read? (c : Char) (t : Thread) : Option Thread :=
  match t.remaining with
  | .oneOf s :: ps => if s.mem c then some ⟨ps, t.marks⟩ else none
  | _ => none

/-- The threads that have to read a character or are finished, by preference, in at most `n`
steps; what is left of the threads in `seen` has been taken up before. -/
def settle (before behind : Option Char) (place : Nat) :
    Nat → List (List Pattern) → List Thread → List Thread
  | 0, _, _ => []
  | _, _, [] => []
  | n + 1, seen, t :: ts =>
    if t.remaining ∈ seen then settle before behind place n seen ts
    else
      match t.advance? before behind place with
      | some us => settle before behind place n (t.remaining :: seen) (us ++ ts)
      | none =>
        if t.isFinished then [t]
        else t :: settle before behind place n (t.remaining :: seen) ts

end Thread

namespace Pattern

/-- The steps within which the threads at one place are settled: each way to go on is taken
up once and adds at most two threads. -/
def steps (p : Pattern) (threads : List Thread) : Nat :=
  3 * (p.size + 4) + threads.length

/-- The thread that starts to match the pattern, as the group with the number zero. -/
def thread (p : Pattern) : Thread :=
  ⟨[.group 0 p], []⟩

/-- The match of a finished thread. -/
def matchOf? (t : Thread) : Option PatternMatch := do
  let m : PatternMatch := ⟨0, 0, t.marks⟩
  some ⟨← m.mark? 0, ← m.mark? 1, t.marks⟩

/-- The threads that go on at a place, started by the given ones and, where no match has been
found, by a new one; and the match that one of them has finished, or else the one found
before. -/
def settled (p : Pattern) (before behind : Option Char) (place : Nat) (threads : List Thread)
    (found : Option PatternMatch) : Option PatternMatch × List Thread :=
  let all := if found.isNone then threads ++ [p.thread] else threads
  let ready := Thread.settle before behind place (p.steps all) [] all
  (((ready.find? (·.isFinished)).bind matchOf?).or found, ready)

/-- The preferred match with the given threads behind the character `before`, at the given
place. Threads start at every place until a match is found. -/
def searchWith (p : Pattern) (before : Option Char) (place : Nat) (threads : List Thread)
    (found : Option PatternMatch) : Text → Option PatternMatch
  | [] => (p.settled before none place threads found).1
  | c :: t =>
    let (found', ready) := p.settled before (some c) place threads found
    let next := ready.filterMap (·.read? c)
    if next.isEmpty && found'.isSome then found'
    else searchWith p (some c) (place + 1) next found' t

/-- The first match in a text that stands at the given place behind the character
`before`. -/
def search (p : Pattern) (before : Option Char) (place : Nat) (t : Text) :
    Option PatternMatch :=
  searchWith p before place [] none t

/-- At most `n` rounds of a search for all matches: an empty match directly behind the match
before, which stops at `last`, does not count. -/
def matchesFrom (p : Pattern) : Nat → Option Char → Nat → Option Nat → Text → List PatternMatch
  | 0, _, _, _, _ => []
  | n + 1, before, place, last, t =>
    match p.search before place t with
    | none => []
    | some m =>
      if m.start = m.stop && last = some m.stop then
        match t with
        | [] => []
        | c :: t' => matchesFrom p n (some c) (place + 1) last t'
      else
        let passed := t.take (m.stop - place)
        m :: matchesFrom p n (passed.getLast?.or before) m.stop (some m.stop)
          (t.drop (m.stop - place))

/-- The matches in a text, from left to right; they do not overlap. -/
def matchesIn (p : Pattern) (t : Text) : List PatternMatch :=
  p.matchesFrom (2 * t.length + 2) none 0 none t

end Pattern

end LatexRepair
