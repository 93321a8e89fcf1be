import LatexRepair.Decimal.Binary
import LatexRepair.Decimal.Fixed
import LatexRepair.Heading

/-!
# Coverage of a rendition

Whether a typeset rendition covers its guide, the document that it renders in another
language: the pages and the sections of the two are compared, and the rendition is scored
from 0 to 100.

* A rendition that loses more than 15 percent of the pages is suspicious.
* A section is missing when the rendition has no section of the same kind with the same
  number, with the same title when neither has a number, or with a similar title at most
  two pages away.
* The score falls with the part of the sections that are missing, for suspicious page
  counts, and for lost headings of the appendix.

Scores are computed in any type of numbers that is a `Score`. Reports use double-precision
numbers; rational numbers give the scores without rounding.
-/

namespace LatexRepair

/-- Numbers that scores are computed in. -/
class Score (α : Type) extends Add α, Sub α, Mul α, Div α where
  ofInt : Int → α
  le : α → α → Bool
  /-- The exact value. -/
  toRat : α → Rat

instance : Score Rat where
  ofInt n := n
  le x y := x ≤ y
  toRat x := x

instance : Score Float where
  ofInt := Float.ofInt
  le x y := x ≤ y
  toRat x := ((Binary.ofFloat? x).map Binary.toRat).getD 0

namespace Score

variable {α : Type} [Score α]

/-- The smaller of two numbers. -/
def min (x y : α) : α :=
  if le x y then x else y

/-- The larger of two numbers. -/
def max (x y : α) : α :=
  if le x y then y else x

end Score

/-- What is known about a typeset document. -/
structure DocumentSummary where
  pageCount : Nat
  blocks : List TextBlock := []
deriving Inhabited

/-! ## Pages -/

/-- The page counts of a rendition and its guide. -/
structure PageComparison (α : Type) where
  guidePages : Nat
  renditionPages : Nat
  /-- The part of the pages that the rendition loses. -/
  loss : α
  /-- The rendition loses too many pages. -/
  suspicious : Bool
deriving Inhabited

namespace PageComparison

variable {α : Type} [Score α]

/-- How many pages the rendition has less than the guide. The numbers are integers without a
bound here and in `lossOf`; in 64 bits, page counts from `2 ^ 63` on would turn negative. -/
def difference (c : PageComparison α) : Int :=
  (c.guidePages : Int) - c.renditionPages

/-- The percentage from which on a loss of pages is suspicious. -/
def thresholdPercent : Int := 15

/-- The part of the pages that a rendition may lose. -/
def threshold : α :=
  Score.ofInt thresholdPercent / Score.ofInt 100

/-- The part of the pages of the guide that the rendition loses, of integers without a bound. -/
def lossOf (guide rendition : Nat) : α :=
  if guide = 0 then Score.ofInt 0
  else Score.ofInt ((guide : Int) - rendition) / Score.ofInt guide

/-- Compare two page counts. -/
def of (guide rendition : Nat) : PageComparison α :=
  let loss := lossOf guide rendition
  ⟨guide, rendition, loss, !Score.le loss threshold⟩

/-- The loss in percent. -/
def lossPercent (c : PageComparison α) : α :=
  c.loss * Score.ofInt 100

/-- The comparison in words. -/
def message (c : PageComparison α) : String :=
  let percent := Decimal.fixed 1 (Score.toRat c.lossPercent)
  s!"translated PDF has {c.renditionPages} page(s), the original {c.guidePages} " ++
    s!"({percent}% fewer, threshold {thresholdPercent}%)"

end PageComparison

/-! ## Sections -/

namespace Section

/-- The pages of two sections are at most two apart. -/
def nearby (s t : Section) : Bool :=
  s.page ≤ t.page + 2 && t.page ≤ s.page + 2

/-- The section `t` of a rendition may be the rendition of `s`. -/
def covers (t s : Section) : Bool :=
  t.key = s.key ||
    (t.kind = s.kind &&
      ((!s.number.isEmpty && s.number = t.number) ||
        (s.nearby t && titlesSimilar s.title t.title)))

/-- The sections that no section of the rendition covers. -/
def missing (guide rendition : List Section) : List Section :=
  guide.filter fun s => !rendition.any (·.covers s)

/-- The name of a section in messages. -/
def displayName (s : Section) : String :=
  if s.number.isEmpty then s.kind.label ++ ": " ++ String.ofList s.title
  else s.kind.label ++ " " ++ String.ofList s.number ++ ": " ++ String.ofList s.title

end Section

/-! ## The report -/

/-- What a rendition lacks. -/
inductive CoverageWarning (α : Type) where
  | pages (comparison : PageComparison α)
  | missingSection (s : Section)
  /-- The guide has headings of the appendix, and the rendition none. -/
  | noAppendix (count : Nat)
  | fewerAppendices (count : Nat)

/-- A warning in words. -/
def CoverageWarning.message {α : Type} [Score α] : CoverageWarning α → String
  | pages c => c.message
  | missingSection s => "missing " ++ s.displayName ++ s!" (original page {s.page})"
  | noAppendix n =>
    s!"original PDF has {n} appendix heading(s) but none were found in the translation"
  | fewerAppendices n => s!"translation is missing {n} appendix heading(s)"

/-- How well a rendition covers its guide. -/
structure CoverageReport (α : Type) where
  score : α
  pages : PageComparison α
  guideSections : List Section
  renditionSections : List Section
  missingSections : List Section
  warnings : List (CoverageWarning α)

namespace Coverage

variable {α : Type} [Score α]

/-- The number of sections that belong to the appendix. -/
def appendixCount (ss : List Section) : Nat :=
  ss.countP (·.isAppendix)

/-- The score for pages and sections, of `total` sections with `missing` of them missing. -/
def baseScore (pages : PageComparison α) (total missing : Nat) : α :=
  let afterPages : α :=
    if pages.suspicious then Score.ofInt 100 - Score.ofInt 20 else Score.ofInt 100
  if total = 0 then
    if pages.suspicious then Score.max (Score.ofInt 100 - pages.lossPercent) (Score.ofInt 0)
    else afterPages
  else
    Score.min afterPages
      (Score.ofInt ((total - missing : Nat) : Int) / Score.ofInt total * Score.ofInt 80 +
        Score.ofInt 20)

/-- The warning about headings of the appendix, of which the guide and the rendition have
the given numbers, and what it takes off the score. -/
def appendixLoss? (guide rendition : Nat) : Option (CoverageWarning α × α) :=
  if guide > 0 && rendition = 0 then some (.noAppendix guide, Score.ofInt 15)
  else if guide > rendition then
    some (.fewerAppendices (guide - rendition),
      Score.ofInt ((guide - rendition : Nat) : Int) * Score.ofInt 5)
  else none

/-- Compare a rendition with its guide. -/
def compare (guide rendition : DocumentSummary) : CoverageReport α :=
  let pages : PageComparison α := .of guide.pageCount rendition.pageCount
  let gs := sections guide.blocks
  let rs := sections rendition.blocks
  let missing := Section.missing gs rs
  let base := baseScore pages gs.length missing.length
  let loss := appendixLoss? (α := α) (appendixCount gs) (appendixCount rs)
  { score :=
      match loss with
      | some (_, penalty) => base - penalty
      | none => base
    pages := pages
    guideSections := gs
    renditionSections := rs
    missingSections := missing
    warnings :=
      (if pages.suspicious then [.pages pages] else []) ++ missing.map .missingSection ++
        (loss.map (·.1)).toList }

end Coverage

namespace CoverageReport

variable {α : Type} [Score α]

/-- The score from which on a rendition is complete. -/
def passingScore : α :=
  Score.ofInt 70

/-- Nothing is missing, and the score is high enough. -/
def complete (r : CoverageReport α) : Bool :=
  r.missingSections.isEmpty && Score.le passingScore r.score

/-- The line of the report about page counts. -/
def pageLine (c : PageComparison α) : String :=
  let percent := Decimal.fixed 1 (Score.toRat c.lossPercent)
  s!"pages: original {c.guidePages}, translated {c.renditionPages}" ++
    if c.suspicious then s!" ({percent}% fewer, above threshold)" else ""

/-- The lines of the report. -/
def lines (r : CoverageReport α) : List String :=
  let status := if r.complete then "✓ complete," else "✗ incomplete,"
  let score := Decimal.fixed 1 (Score.toRat r.score)
  let missing := r.missingSections.map fun s => "  - " ++ s.displayName ++ s!" (page {s.page})"
  let warnings := r.warnings.map fun w => "  ⚠ " ++ w.message
  ["=== Content completeness ===", status ++ s!" score {score}/100", pageLine r.pages,
      s!"sections: original {r.guideSections.length}, " ++
        s!"translated {r.renditionSections.length}"] ++
    (if missing.isEmpty then [] else s!"missing ({missing.length}):" :: missing) ++
    (if warnings.isEmpty then [] else "warnings:" :: warnings)

/-- The report as it is shown to a reader. -/
def display (r : CoverageReport α) : String :=
  String.join (r.lines.map (· ++ "\n"))

end CoverageReport

end LatexRepair
