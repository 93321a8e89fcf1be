import LatexRepair.Unicode.LowerCase
import Mathlib.Data.Char
import Mathlib.Data.List.Lex

/-!
# Comparing texts

The order of texts is that of lists, character by character (`Text.le_eq_true_iff`). A text in
lower case holds none of the capital letters `A` to `Z` (`Text.isUpper_eq_false_of_mem_toLower`) :
no run of the table of lower-case forms leads to one.
-/

namespace LatexRepair

theorem Text.le_eq_true_iff {s t : Text} : Text.le s t = true ↔ s ≤ t := by
  rw [← not_lt]
  induction s generalizing t with
  | nil => exact iff_of_true rfl (List.not_lt_nil t)
  | cons a s ih =>
    cases t with
    | nil => exact iff_of_false nofun (not_not.2 (List.nil_lt_cons a s))
    | cons b t =>
      rw [Text.le, Bool.or_eq_true, Bool.and_eq_true, decide_eq_true_eq, decide_eq_true_eq, ih,
        List.cons_lt_cons_iff]
      rcases lt_trichotomy a b with h | rfl | h
      · simp [h, h.ne', h.le]
      · simp
      · simp [h, h.ne', h.le]

/-! ## Lower case -/

theorem isUpper_iff {c : Char} : c.isUpper = true ↔ 65 ≤ c.toNat ∧ c.toNat ≤ 90 := by
  have hdef : c.isUpper = decide ('A'.val ≤ c.val ∧ c.val ≤ 'Z'.val) := rfl
  rw [hdef, decide_eq_true_eq, UInt32.le_iff_toNat_le, UInt32.le_iff_toNat_le]
  rfl

theorem bounds_of_isUpper_ofNat {n : Nat} (h : (Char.ofNat n).isUpper = true) :
    65 ≤ n ∧ n ≤ 90 := by
  by_cases hn : n.isValidChar
  · have htoNat : (Char.ofNat n).toNat = n := by
      rw [Char.ofNat, dif_pos hn]
      rfl
    rwa [isUpper_iff, htoNat] at h
  · rw [Char.ofNat, dif_neg hn] at h
    cases h

/-- No run of lower-case forms leads to a capital letter. -/
theorem caseRuns_avoid_capitals : ∀ r ∈ lowerCaseRuns ++ addedCaseRuns,
    (r.last : Int) + r.shift < 65 ∨ 90 < (r.first : Int) + r.shift := by
  decide +kernel

theorem isUpper_eq_false_of_mem_lowerChar {c d : Char} (h : d ∈ lowerChar c) :
    d.isUpper = false := by
  rw [lowerChar] at h
  split at h
  · rcases List.mem_pair.1 h with rfl | rfl <;> rfl
  rw [← Bool.not_eq_true]
  split at h
  · rename_i r hr
    obtain rfl := List.mem_singleton.1 h
    intro hupper
    have hbounds := bounds_of_isUpper_ofNat hupper
    have hholds := List.find?_some hr
    simp only [CaseRun.holds, Bool.and_eq_true, decide_eq_true_eq] at hholds
    have := caseRuns_avoid_capitals r (List.mem_of_find?_eq_some hr)
    omega
  · rename_i hnone
    obtain rfl := List.mem_singleton.1 h
    intro hupper
    -- The capital letters make up the first run of the table.
    have hfirst := List.find?_eq_none.1 hnone ⟨0x41, 0x5a, 1, 32⟩ (by decide +kernel)
    simp [CaseRun.holds, isUpper_iff.1 hupper, Nat.mod_one] at hfirst

theorem isUpper_eq_false_of_mem_lowerFrom {before t : Text} {c : Char}
    (h : c ∈ lowerFrom before t) : c.isUpper = false := by
  induction t generalizing before with
  | nil => cases h
  | cons d t ih =>
    rw [lowerFrom, List.mem_append] at h
    rcases h with h | h
    · split at h
      · obtain rfl := List.mem_singleton.1 h
        rfl
      · exact isUpper_eq_false_of_mem_lowerChar h
    · exact ih h

theorem Text.isUpper_eq_false_of_mem_toLower {t : Text} {c : Char} (h : c ∈ Text.toLower t) :
    c.isUpper = false :=
  isUpper_eq_false_of_mem_lowerFrom h

end LatexRepair
