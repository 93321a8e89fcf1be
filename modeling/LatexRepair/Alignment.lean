import LatexRepair.GuidedFix

/-!
# Repair of aligned lines

A rendition whose lines correspond to the lines of its guide is repaired line by line.
`repairByLine` pairs every line with the line of the same number. `repairAnchored` pairs
only the lines at the start and at the end of the two documents, as far as their signatures
agree.
-/

namespace LatexRepair

namespace AlignedLines

/-- Repair the line with the given number against its counterpart. -/
def repairNumbered (number : Nat) (t g : Text) : Text × List GuidedFix :=
  let (u, fixes) := repairLine t g
  (u, fixes.map (.line number))

/-- Repair lines from the given number on, each against the line of the guide at its
place; lines without a counterpart stay. -/
def repairFrom (number : Nat) : List Text → List Text → List (Text × List GuidedFix)
  | t :: ts, g :: gs => repairNumbered number t g :: repairFrom (number + 1) ts gs
  | ts, [] => ts.map (·, [])
  | [], _ => []

/-- The two lines have the same signature. -/
def agree (t g : Text) : Bool :=
  signature t = signature g

/-- The number of leading lines whose signatures agree. -/
def commonCount : List Text → List Text → Nat
  | t :: ts, g :: gs => if agree t g then commonCount ts gs + 1 else 0
  | _, _ => 0

/-- The number of lines at the start that are paired. -/
def headCount (ts gs : List Text) : Nat :=
  commonCount ts gs

/-- The number of lines at the end that are paired; a line at the start is not paired
again. -/
def tailCount (ts gs : List Text) : Nat :=
  let head := headCount ts gs
  min (commonCount ts.reverse gs.reverse) (min (ts.length - head) (gs.length - head))

end AlignedLines

open AlignedLines

/-- Repair every line of a rendition against the line of the guide with its number. -/
def repairByLine (rendition guide : Text) : GuidedRepair :=
  let repaired := repairFrom 1 (Text.lines rendition) (Text.lines guide)
  ⟨Text.unlines (repaired.map (·.1)), repaired.flatMap (·.2)⟩

/-- Repair the lines at the start and at the end of a rendition, as far as their
signatures agree with those of the guide. The fixes at the end are listed from the last
line upwards. -/
def repairAnchored (rendition guide : Text) : GuidedRepair :=
  let ts := Text.lines rendition
  let gs := Text.lines guide
  let head := headCount ts gs
  let tail := tailCount ts gs
  let start := repairFrom 1 (ts.take head) (gs.take head)
  let middle := (ts.drop head).take (ts.length - tail - head)
  let stop := repairFrom (ts.length - tail + 1) (ts.drop (ts.length - tail))
    (gs.drop (gs.length - tail))
  ⟨Text.unlines (start.map (·.1) ++ middle ++ stop.map (·.1)),
    start.flatMap (·.2) ++ stop.reverse.flatMap (·.2)⟩

end LatexRepair
