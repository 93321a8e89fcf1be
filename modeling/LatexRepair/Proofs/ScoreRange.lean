import LatexRepair.Proofs.CoverageGrowth

/-!
# The range of scores

How far from 0 and 100 a score may be, in exact numbers. No score is above 100
(`Coverage.baseScore_le_hundred`). The part for pages and sections is never below 0, and at least
20 where the guide has sections, which covers the 15 points that a lost appendix costs. But each
heading of the appendix that is lacking beside one that is found costs 5 points, without a bound
on their number, so a score may be negative.

`Coverage.score_mem_range_iff` : it is so exactly when these headings outweigh the sections that
are covered, or when pages are lost too and there are more than 16 of them. Such renditions exist
(`Coverage.score_lt_zero`).
-/

namespace LatexRepair

/-- A suspicious rendition loses more than the part of the pages that it may lose. -/
theorem PageComparison.lt_loss_of_suspicious {guide rendition : Nat}
    (h : (of guide rendition : PageComparison Rat).suspicious = true) :
    15 / 100 < (of guide rendition : PageComparison Rat).loss := by
  have hle : Score.le (lossOf guide rendition : Rat) threshold = false := by
    simpa [of] using h
  exact not_le.1 (of_decide_eq_false hle)

namespace Coverage

/-! ## Pages and sections -/

/-- The score of a guide without sections is that of the pages. -/
theorem baseScore_zero (pages : PageComparison Rat) (missing : Nat) :
    baseScore pages 0 missing =
      if pages.suspicious then max (100 - pages.loss * 100) 0 else 100 := by
  have hmax : ∀ x y : Rat, Score.max x y = max x y := fun x y => by
    simp [Score.max, Score.le, max_def]
  unfold baseScore
  rw [if_pos rfl, hmax]
  split <;> rfl

theorem baseScore_le_hundred (guide rendition total missing : Nat) :
    baseScore (.of guide rendition) total missing ≤ (100 : Rat) := by
  rcases eq_or_ne total 0 with rfl | htotal
  · rw [baseScore_zero]
    split
    · rename_i hsuspicious
      have hloss := PageComparison.lt_loss_of_suspicious hsuspicious
      exact max_le (by linarith) (by norm_num)
    · rfl
  · rw [baseScore_eq _ htotal]
    refine (min_le_left _ _).trans ?_
    split <;> norm_num

/-- The score for pages and sections is at least 20 where the guide has sections. -/
theorem twenty_le_baseScore (pages : PageComparison Rat) {total : Nat} (h : total ≠ 0)
    (missing : Nat) : 20 ≤ baseScore pages total missing := by
  rw [baseScore_eq pages h, le_min_iff]
  constructor
  · split <;> norm_num
  · exact le_add_of_nonneg_left (by positivity)

theorem baseScore_nonneg (pages : PageComparison Rat) (total missing : Nat) :
    0 ≤ baseScore pages total missing := by
  rcases eq_or_ne total 0 with rfl | htotal
  · rw [baseScore_zero]
    split
    · exact le_max_right _ _
    · norm_num
  · exact (twenty_le_baseScore pages htotal missing).trans' (by norm_num)

/-! ## What the appendix may cost -/

/-- Four headings cost no more than what every guide with sections gets; each further one costs
as much as a sixteenth of the sections gives. -/
theorem mul_five_le_iff {n covered total : Nat} (h : total ≠ 0) :
    (n : Rat) * 5 ≤ (covered : Rat) / total * 80 + 20 ↔ (n - 4) * total ≤ 16 * covered := by
  have htotal : (0 : Rat) < total := by exact_mod_cast Nat.pos_of_ne_zero h
  rcases Nat.le_total n 4 with hn | hn
  · have hcast : (n : Rat) ≤ 4 := by exact_mod_cast hn
    have hcovered : (0 : Rat) ≤ covered / total := by positivity
    rw [Nat.sub_eq_zero_of_le hn, Nat.zero_mul]
    exact iff_of_true (by linarith) (Nat.zero_le _)
  · obtain ⟨m, rfl⟩ := Nat.exists_eq_add_of_le' hn
    rw [Nat.add_sub_cancel, Nat.cast_add, Nat.cast_ofNat]
    calc ((m : Rat) + 4) * 5 ≤ (covered : Rat) / total * 80 + 20
      _ ↔ (m : Rat) ≤ 16 * covered / total := by
        rw [mul_div_assoc]
        constructor <;> intro <;> linarith
      _ ↔ m * total ≤ 16 * covered := by
        rw [le_div_iff₀ htotal]
        norm_cast

/-- When headings that are lacking cost no more than what the pages and sections give. -/
theorem mul_five_le_baseScore_iff (pages : PageComparison Rat) {n total missing : Nat}
    (h : total ≠ 0) : (n : Rat) * 5 ≤ baseScore pages total missing ↔
      (n - 4) * total ≤ 16 * (total - missing) ∧ (pages.suspicious = true → n ≤ 16) := by
  rw [baseScore_eq pages h, le_min_iff, mul_five_le_iff h, and_comm]
  refine and_congr_right fun hcovered => ?_
  by_cases hsuspicious : pages.suspicious = true
  · rw [if_pos hsuspicious, forall_prop_of_true hsuspicious,
      show (80 : Rat) = (16 : Nat) * 5 by norm_num, mul_le_mul_iff_left₀ (by norm_num),
      Nat.cast_le]
  · -- At most all sections are covered, so no more than 20 headings are lacking.
    have hmul : (n - 4) * total ≤ 16 * total :=
      hcovered.trans (Nat.mul_le_mul_left 16 (Nat.sub_le _ _))
    have hn : n ≤ 20 := by
      have := Nat.le_of_mul_le_mul_right hmul (Nat.pos_of_ne_zero h)
      omega
    have hcast : (n : Rat) ≤ 20 := by exact_mod_cast hn
    rw [if_neg hsuspicious]
    exact iff_of_true (by linarith) fun hs => absurd hs hsuspicious

theorem penalty_nonneg (guide rendition : Nat) : 0 ≤ penalty guide rendition := by
  rcases Nat.eq_zero_or_pos rendition with rfl | hrendition
  · rcases Nat.eq_zero_or_pos guide with rfl | hguide
    · rw [penalty_zero_left]
    · rw [penalty_of_zero hguide]
      norm_num
  · rw [penalty_of_pos hrendition]
    positivity

/-- When what the headings of the appendix take off the score is no more than what the pages and
sections give. The headings are sections of the guide. -/
theorem penalty_le_baseScore_iff (pages : PageComparison Rat) {guide total : Nat}
    (h : guide ≤ total) (rendition missing : Nat) :
    penalty guide rendition ≤ baseScore pages total missing ↔ rendition = 0 ∨
      (guide - rendition - 4) * total ≤ 16 * (total - missing) ∧
        (pages.suspicious = true → guide - rendition ≤ 16) := by
  rcases Nat.eq_zero_or_pos rendition with rfl | hrendition
  · -- A lost appendix costs less than what every guide with sections gets.
    refine iff_of_true ?_ (.inl rfl)
    rcases Nat.eq_zero_or_pos guide with rfl | hguide
    · rw [penalty_zero_left]
      exact baseScore_nonneg pages total missing
    · rw [penalty_of_zero hguide]
      exact (twenty_le_baseScore pages (hguide.trans_le h).ne' missing).trans' (by norm_num)
  · rw [or_iff_right hrendition.ne', penalty_of_pos hrendition]
    rcases Nat.eq_zero_or_pos total with rfl | htotal
    · obtain rfl := Nat.le_zero.1 h
      simpa using baseScore_nonneg pages 0 missing
    · exact mul_five_le_baseScore_iff pages htotal.ne'

/-! ## Scores -/

/-- A score is at most 100, and it is at least 0 exactly if the rendition has no heading of the
appendix at all, or each heading that it lacks beyond the fourth is made up for by a sixteenth of
the sections being covered, with no more than 16 lacking where too many pages are lost. -/
theorem score_mem_range_iff (o t : DocumentSummary) :
    let r : CoverageReport Rat := compare o t
    r.score ≤ 100 ∧
      (0 ≤ r.score ↔ appendixCount r.renditionSections = 0 ∨
        (lacking r - 4) * r.guideSections.length ≤
            16 * (r.guideSections.length - r.missingSections.length) ∧
          (r.pages.suspicious = true → lacking r ≤ 16)) := by
  intro r
  rw [score_eq, sub_nonneg]
  constructor
  · exact (sub_le_self _ (penalty_nonneg _ _)).trans (baseScore_le_hundred _ _ _ _)
  · exact penalty_le_baseScore_iff r.pages List.countP_le_length _ _

/-- A rendition that covers none of six appendices, but has one heading of an appendix, gets a
score below 0. -/
theorem score_lt_zero :
    ¬∀ o t : DocumentSummary, 0 ≤ (compare o t : CoverageReport Rat).score ∧
      (compare o t : CoverageReport Rat).score ≤ 100 := by
  set titles :=
    ["Appendix A", "Appendix B", "Appendix C", "Appendix D", "Appendix E", "Appendix F"]
  intro h
  have hguide : sections (headings titles).blocks = _ := sections_eq_collect (by decide +kernel)
  have hrendition : sections (headings ["A.1 X"]).blocks = _ :=
    sections_eq_collect (by decide +kernel)
  have hscore :
      (compare (headings titles) (headings ["A.1 X"]) : CoverageReport Rat).score = -5 := by
    simp only [compare, hguide, hrendition]
    decide +kernel
  have := (h (headings titles) (headings ["A.1 X"])).1
  rw [hscore] at this
  norm_num at this

end Coverage

end LatexRepair
