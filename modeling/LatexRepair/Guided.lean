import LatexRepair.Alignment
import LatexRepair.StructureRepair

/-!
# Guided repair

A rendition is a document in another language; the document that it renders is its guide.
When both have the same number of physical lines the rendition is repaired line by line;
otherwise its structure is repaired first, and then its lines, all of them if the numbers
agree now, else those at the two ends. Passes are repeated until one changes nothing, at
most `maxPasses` times. A blank guide changes nothing.
-/

namespace LatexRepair

/-- How a rendition is compared with its guide. -/
inductive Strategy where
  | lineAligned
  | structural
deriving DecidableEq, Inhabited

namespace Strategy

/-- The strategy for a rendition and its guide. -/
def select (rendition guide : Text) : Strategy :=
  if Text.lineCount rendition = Text.lineCount guide then lineAligned else structural

/-- The name of a strategy in messages. -/
def label : Strategy → String
  | lineAligned => "line-aligned"
  | structural => "structural"

/-- One pass. -/
def apply (s : Strategy) (rendition guide : Text) : GuidedRepair :=
  match s with
  | lineAligned => repairByLine rendition guide
  | structural =>
    let first := repairStructure rendition guide
    let second :=
      match select first.content guide with
      | lineAligned => repairByLine first.content guide
      | structural => repairAnchored first.content guide
    ⟨second.content, first.fixes ++ second.fixes⟩

end Strategy

namespace Guided

/-- One pass with the strategy that fits, if it changes the rendition. -/
def pass? (rendition guide : Text) : Option GuidedRepair :=
  let r := (Strategy.select rendition guide).apply rendition guide
  if r.content = rendition then none else some r

/-- At most `n` passes. -/
def passes : Nat → Text → Text → GuidedRepair
  | 0, t, _ => ⟨t, []⟩
  | n + 1, t, o =>
    match pass? t o with
    | none => ⟨t, []⟩
    | some r =>
      let more := passes n r.content o
      ⟨more.content, r.fixes ++ more.fixes⟩

/-- The number of passes after which a rendition is left as it is. -/
def maxPasses : Nat := 8

end Guided

/-- Repair a rendition against its guide. -/
def repairGuided (rendition guide : Text) : GuidedRepair :=
  if Text.isBlankText guide then ⟨rendition, []⟩
  else Guided.passes Guided.maxPasses rendition guide

end LatexRepair
