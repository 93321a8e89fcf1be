import LatexRepair.Guided
import LatexRepair.Proofs.CheckedAlignment
import LatexRepair.Proofs.CheckedRules

/-!
# Repairs do not stop

A guided repair with checked passes, and with it all of what a repair does to a document with
operations that may stop. None of them stops: for every rendition and every guide, and for every
document with whatever validation, the checked repair has an outcome, and it is the document that
the repair gives.

Two facts carry this. The places that a repair counts in bytes are those of characters, in the
text at hand and not only in the one that they were found in, since edits of one text are made
from the last one on. And what is taken from a number, a stack or a list of lines was counted
there before.
-/

namespace LatexRepair

namespace Checked

open Text

/-! ## Passes -/

/-- One pass with the strategy that fits. -/
def pass (rendition guide : Text) : Checked Text :=
  match Strategy.select rendition guide with
  | .lineAligned => repairByLine rendition guide
  | .structural => do
    let first ← repairStructure rendition guide
    match Strategy.select first guide with
    | .lineAligned => repairByLine first guide
    | .structural => repairAnchored first guide

/-- At most `n` passes, until one changes nothing. -/
def passes : Nat → Text → Text → Checked Text
  | 0, t, _ => some t
  | n + 1, t, guide => do
    let u ← pass t guide
    if u = t then some t else passes n u guide

/-- Repair a rendition against its guide. -/
def repairGuided (rendition guide : Text) : Checked Text :=
  if isBlankText guide then some rendition else passes Guided.maxPasses rendition guide

theorem pass_eq (rendition guide : Text) :
    pass rendition guide =
      some ((Strategy.select rendition guide).apply rendition guide).content := by
  rw [pass, Strategy.apply.eq_def]
  cases Strategy.select rendition guide with
  | lineAligned => exact repairByLine_eq rendition guide
  | structural =>
    dsimp only
    rw [repairStructure_eq, Option.bind_eq_bind, Option.bind_some]
    generalize (LatexRepair.repairStructure rendition guide).content = first
    cases Strategy.select first guide with
    | lineAligned => exact repairByLine_eq first guide
    | structural => exact repairAnchored_eq first guide

theorem passes_eq (n : Nat) (t guide : Text) :
    passes n t guide = some (Guided.passes n t guide).content := by
  induction n generalizing t with
  | zero => rfl
  | succ n ih =>
    rw [passes, pass_eq, Option.bind_eq_bind, Option.bind_some, Guided.passes, Guided.pass?]
    dsimp only
    split
    · rfl
    · exact ih _

theorem repairGuided_eq (rendition guide : Text) :
    repairGuided rendition guide = some (LatexRepair.repairGuided rendition guide).content := by
  rw [repairGuided, LatexRepair.repairGuided]
  split
  · rfl
  · exact passes_eq _ rendition guide

/-! ## All repairs -/

/-- No repair stops: neither that of a rendition against a guide nor that of a document by rules,
whatever its validation says. -/
theorem repairs_never_stop :
    (∀ rendition guide : Text,
      repairGuided rendition guide = some (LatexRepair.repairGuided rendition guide).content) ∧
    ∀ (allowBalance : Bool) (v : Option Validation) (t : Text),
      repairByRules allowBalance v t =
        some (LatexRepair.repairByRules allowBalance v t).content :=
  ⟨repairGuided_eq, repairByRules_eq⟩

end Checked

end LatexRepair
