/-!
# Ranges of code points

A character class as the list of its ranges of code points, each with its first and its
last member, in order.

The search for a code point stops at the first range that starts behind it. `holdsCode_iff`
says that nothing is missed where the ranges are in order.
-/

namespace LatexRepair

/-- Ranges of code points with their ends, in order. -/
abbrev CodeRanges := List (Nat × Nat)

namespace CodeRanges

/-- The code point `n` lies in one of the ranges. -/
def holdsCode (n : Nat) : CodeRanges → Bool
  | [] => false
  | (first, last) :: rs => if n < first then false else n ≤ last || holdsCode n rs

theorem holdsCode_iff {n : Nat} {rs : CodeRanges} (h : rs.Pairwise fun r s => r.1 ≤ s.1) :
    holdsCode n rs = true ↔ ∃ r ∈ rs, r.1 ≤ n ∧ n ≤ r.2 := by
  induction rs with
  | nil => simp [holdsCode]
  | cons r rs ih =>
    obtain ⟨hr, hrs⟩ := List.pairwise_cons.1 h
    by_cases hn : n < r.1
    · have : ∀ s ∈ rs, ¬s.1 ≤ n := fun s hs => by
        have := hr s hs
        omega
      simp only [holdsCode, hn, if_true, List.mem_cons, exists_eq_or_imp, Bool.false_eq_true,
        false_iff, not_or]
      exact ⟨by omega, fun ⟨s, hs, hsn, _⟩ => this s hs hsn⟩
    · simp only [holdsCode, hn, if_false, Bool.or_eq_true, decide_eq_true_eq, ih hrs,
        List.mem_cons, exists_eq_or_imp]
      constructor
      · exact fun h => h.imp_left fun h => ⟨by omega, h⟩
      · exact fun h => h.imp_left fun h => h.2

/-- The code point of `c` lies in one of the ranges. -/
def holds (rs : CodeRanges) (c : Char) : Bool :=
  holdsCode c.toNat rs

end CodeRanges

end LatexRepair
