import LatexRepair.Proofs.AlignedPass
import LatexRepair.Proofs.LineRest

/-!
# When a guided repair settles

A guided repair runs one pass after another (`Guided.pass`) until one changes nothing, but
no more than `Guided.maxPasses` of them, and a pass runs at most `LineRepair.maxRounds`
rounds on a line. So the result is that of `maxPasses` passes, and a second repair finds
nothing to do exactly when one of them has arrived at a rendition that a pass leaves as it
is. With aligned lines that is to say that no line takes more than `maxPasses * maxRounds`
rounds to come to rest (`repairGuided_idempotent_iff`), which holds of light lines whose
counterparts have no catalogued commands (`Guided.EndsAligned.isIdempotentOn`).

Passes need not arrive : where each pass inserts a marker and the next one takes it back in
another place, a second repair goes on where the first was stopped
(`repairGuided_not_idempotent`).
-/

namespace LatexRepair

open Function

namespace Guided

variable {t o : Text}

theorem pass?_of_isFixedPt (h : IsFixedPt (pass o) t) : pass? t o = none :=
  if_pos h

theorem pass?_of_not_isFixedPt (h : ¬ IsFixedPt (pass o) t) :
    pass? t o = some ((Strategy.select t o).apply t o) :=
  if_neg h

/-- To stop at a rendition that a pass leaves is to run all passes. -/
theorem content_passes (n : Nat) (t o : Text) : (passes n t o).content = (pass o)^[n] t := by
  induction n generalizing t with
  | zero => rfl
  | succ n ih =>
    rw [passes]
    by_cases h : IsFixedPt (pass o) t
    · rw [pass?_of_isFixedPt h]
      exact (iterate_fixed h (n + 1)).symm
    · rw [pass?_of_not_isFixedPt h]
      exact ih _

/-- Passes list no fix exactly when the first of them changes nothing. -/
theorem fixes_passes_eq_nil_iff {n : Nat} (hn : n ≠ 0) :
    (passes n t o).fixes = [] ↔ IsFixedPt (pass o) t := by
  obtain ⟨n, rfl⟩ := Nat.exists_eq_succ_of_ne_zero hn
  rw [passes]
  by_cases h : IsFixedPt (pass o) t
  · rw [pass?_of_isFixedPt h]
    exact iff_of_true rfl h
  · rw [pass?_of_not_isFixedPt h]
    refine iff_of_false (fun hnil => h ?_) h
    exact Strategy.content_apply_of_fixes_nil (List.append_eq_nil_iff.1 hnil).1

/-- Passes arrive where the next one would change nothing exactly when one of them has. -/
theorem isFixedPt_iterate_iff {α : Type*} {f : α → α} {n : Nat} {x : α} :
    IsFixedPt f (f^[n] x) ↔ ∃ k ≤ n, IsFixedPt f (f^[k] x) := by
  refine ⟨fun h => ⟨n, Nat.le_refl n, h⟩, fun ⟨k, hk, h⟩ => ?_⟩
  obtain ⟨m, rfl⟩ := Nat.exists_eq_add_of_le' hk
  rw [iterate_add_apply, iterate_fixed h m]
  exact h

end Guided

open Guided

/-- A second repair of a rendition against its guide changes nothing and lists no fix. -/
def IsIdempotentOn (t o : Text) : Prop :=
  (repairGuided (repairGuided t o).content o).content = (repairGuided t o).content ∧
    (repairGuided (repairGuided t o).content o).fixCount = 0

theorem isIdempotentOn_iff_isFixedPt (t o : Text) :
    IsIdempotentOn t o ↔
      Text.isBlankText o = true ∨ IsFixedPt (pass o) ((pass o)^[maxPasses] t) := by
  by_cases hblank : Text.isBlankText o = true
  · simp [IsIdempotentOn, repairGuided, hblank, GuidedRepair.fixCount]
  · simp only [IsIdempotentOn, repairGuided, hblank, Bool.false_eq_true, ↓reduceIte, false_or,
      content_passes, GuidedRepair.fixCount, List.length_eq_zero_iff]
    rw [fixes_passes_eq_nil_iff (by decide)]
    exact ⟨And.right, fun h => ⟨iterate_fixed h maxPasses, h⟩⟩

/-- The passes leave a line as it is exactly when it comes to rest within their rounds. -/
theorem isFixedPt_iterate_lineStep_iff (g t : Text) :
    IsFixedPt (lineStep g) ((lineStep g)^[maxPasses] t) ↔
      ∃ n ≤ LineRepair.maxRounds * maxPasses,
        LineRepair.step? ((LineRepair.advance g)^[n] t) g = none := by
  have hrounds : lineStep g = (LineRepair.advance g)^[LineRepair.maxRounds] :=
    funext fun u => LineRepair.fst_rounds LineRepair.maxRounds u g
  have hrest : ∀ u, LineRepair.step? u g = none ↔ IsFixedPt (LineRepair.advance g) u := fun u =>
    (LineRepair.isFixedPt_iterate_advance_iff Nat.one_ne_zero).symm
  rw [hrounds, ← iterate_mul, LineRepair.isFixedPt_iterate_advance_iff (by decide), hrest,
    isFixedPt_iterate_iff]
  simp only [hrest]

/-- A second repair has nothing to do exactly when the guide is blank or the passes of the
first one arrive at a rendition that a pass leaves as it is. For a rendition that ends in a
newline and has as many lines as its guide, that is to say that each of its lines comes to
rest beside its counterpart within the rounds of all passes. -/
theorem repairGuided_idempotent_iff (t o : Text) :
    (IsIdempotentOn t o ↔
      Text.isBlankText o = true ∨ ∃ n ≤ maxPasses, IsFixedPt (pass o) ((pass o)^[n] t)) ∧
    (EndsAligned o t →
      (IsIdempotentOn t o ↔
        Text.isBlankText o = true ∨ ∀ x ∈ (Text.lines t).zip (Text.lines o),
          ∃ n ≤ LineRepair.maxRounds * maxPasses,
            LineRepair.step? ((LineRepair.advance x.2)^[n] x.1) x.2 = none)) := by
  refine ⟨?_, fun h => ?_⟩
  · rw [isIdempotentOn_iff_isFixedPt, isFixedPt_iterate_iff]
  · rw [isIdempotentOn_iff_isFixedPt, h.isFixedPt_iff]
    exact or_congr Iff.rfl (forall₂_congr fun x _ => isFixedPt_iterate_lineStep_iff x.2 x.1)

/-- An end of the document too many : the line comes to rest after one round. -/
theorem repairGuided_idempotent_iff_terminator :
    EndsAligned "x\n".toList "x\\end{document}\n".toList ∧
      IsIdempotentOn "x\\end{document}\n".toList "x\n".toList := by
  have h : EndsAligned "x\n".toList "x\\end{document}\n".toList :=
    ⟨⟨["x\\end{document}".toList], by decide⟩, by decide⟩
  have hrest : ∀ x ∈ (Text.lines "x\\end{document}\n".toList).zip (Text.lines "x\n".toList),
      LineRepair.step? ((LineRepair.advance x.2)^[1] x.1) x.2 = none := by decide +kernel
  exact ⟨h, ((repairGuided_idempotent_iff _ _).2 h).2
    (.inr fun x hx => ⟨1, by decide, hrest x hx⟩)⟩

/-- Lines that are light enough come to rest, where no command beside them is catalogued. -/
theorem Guided.EndsAligned.isIdempotentOn {t o : Text} (h : EndsAligned o t)
    (hlines : ∀ x ∈ (Text.lines t).zip (Text.lines o),
      (skeleton (codePart x.2)).any LineRepair.isCatalogued = false ∧
        LineRepair.weight x.1 < LineRepair.maxRounds * maxPasses) : IsIdempotentOn t o := by
  rw [isIdempotentOn_iff_isFixedPt, h.isFixedPt_iff]
  refine .inr fun x hx => (isFixedPt_iterate_lineStep_iff x.2 x.1).2 ?_
  obtain ⟨hcatalogued, hweight⟩ := hlines x hx
  obtain ⟨n, hn, hrest⟩ := LineRepair.exists_rest_of_weight hcatalogued x.1
  exact ⟨n, by omega, hrest⟩

/-- Passes that insert an end and hide it again do not arrive anywhere. -/
theorem repairGuided_not_idempotent :
    ∃ t o, ¬ IsIdempotentOn t o := by
  refine ⟨"\\begin{a}%y\\end{a}\\end{a}\\end{a}\nb\nc\nd\ne".toList,
    "\\begin{a}\n\\end{a}\nx\n%\\end{a}".toList, fun h => ?_⟩
  revert h
  unfold IsIdempotentOn
  decide +kernel

end LatexRepair
