import LatexRepair.Coverage
import LatexRepair.Proofs.ListedHeadings
import Mathlib.Algebra.Order.Field.Rat
import Mathlib.Data.List.Basic
import Mathlib.Tactic.Linarith
import Mathlib.Tactic.NormNum
import Mathlib.Tactic.GCongr
import Mathlib.Tactic.Positivity
import Mathlib.Tactic.Ring

/-!
# More content

What blocks that are added behind a rendition do to its coverage, with scores in exact numbers.
The sections that were found before are found again (`exists_sections_append`), so that no
section is missing that was not missing before, and the part of the score for pages and sections
does not fall (`Coverage.baseScore_le`).

What headings of the appendix take off the score may grow : all of them together cost 15 points
as long as none is found, and each of those that are lacking costs 5 as soon as one is
(`Coverage.penalty_lt_iff`). So the score falls, and a rendition that was complete no longer is,
under exact conditions on the numbers of headings (`Coverage.compare_extend`), and they are met
(`Coverage.compare_extend_loses`).
-/

namespace LatexRepair

/-! ## Sections -/

namespace Section

/-- With more sections in the rendition no more sections are missing. -/
theorem missing_sublist {gs rs rs' : List Section} (h : rs ⊆ rs') :
    (missing gs rs').Sublist (missing gs rs) := by
  refine List.monotone_filter_right gs fun s hs => ?_
  simp only [Bool.not_eq_true', List.any_eq_false] at hs ⊢
  exact fun r hr => hs r (h hr)

end Section

/-- The sections of a document stay when blocks are added. -/
theorem exists_sections_append (bs more : List TextBlock) :
    ∃ added, (sections (bs ++ more)).Perm (sections bs ++ added) := by
  refine ⟨Section.behind bs more, ?_⟩
  rw [sections, sections, Section.collect_append]
  exact (List.mergeSort_perm _ _).trans ((List.mergeSort_perm _ _).symm.append_right _)

/-- Sections that are collected in order stay as they are. -/
theorem sections_eq_collect {bs : List TextBlock}
    (h : (Section.collect false [] bs).Pairwise fun s t => s.le t = true) :
    sections bs = Section.collect false [] bs :=
  List.mergeSort_of_pairwise h

/-- A document with more blocks behind its own. -/
def DocumentSummary.extend (d : DocumentSummary) (more : List TextBlock) : DocumentSummary :=
  { d with blocks := d.blocks ++ more }

namespace Coverage

/-! ## Scores in exact numbers -/

/-- What the headings of the appendix take off the score, of which the guide and the rendition
have the given numbers. -/
def penalty (guide rendition : Nat) : Rat :=
  ((appendixLoss? guide rendition).map (·.2)).getD 0

theorem score_compare (o t : DocumentSummary) :
    (compare o t : CoverageReport Rat).score =
      baseScore (.of o.pageCount t.pageCount) (sections o.blocks).length
          (compare o t : CoverageReport Rat).missingSections.length -
        penalty (appendixCount (sections o.blocks)) (appendixCount (sections t.blocks)) := by
  unfold compare penalty
  dsimp only
  cases appendixLoss? (α := Rat) (appendixCount (sections o.blocks))
    (appendixCount (sections t.blocks)) with
  | none => exact (sub_zero _).symm
  | some loss => rfl

theorem penalty_of_zero {n : Nat} (h : 0 < n) : penalty n 0 = 15 := by
  simp [penalty, appendixLoss?, h, Score.ofInt]

theorem penalty_of_pos {n k : Nat} (h : 0 < k) : penalty n k = ((n - k : Nat) : Rat) * 5 := by
  unfold penalty appendixLoss?
  rw [if_neg (by simp; omega)]
  split
  · rfl
  · rw [Nat.sub_eq_zero_of_le (by omega)]
    simp

theorem penalty_zero_left (k : Nat) : penalty 0 k = 0 := by
  simp [penalty, appendixLoss?]

/-- More headings of the appendix cost more only when they are the first ones, and more than
three are still lacking. -/
theorem penalty_lt_iff {n k k' : Nat} (h : k ≤ k') :
    penalty n k < penalty n k' ↔ k = 0 ∧ 0 < k' ∧ k' + 3 < n := by
  rcases Nat.eq_zero_or_pos n with rfl | hn
  · simp [penalty_zero_left]
  rcases Nat.eq_zero_or_pos k' with rfl | hk'
  · obtain rfl := Nat.le_zero.1 h
    simp
  rw [penalty_of_pos hk']
  rcases Nat.eq_zero_or_pos k with rfl | hk
  · have hcast : (15 : Rat) < ((n - k' : Nat) : Rat) * 5 ↔ 15 < (n - k') * 5 := by norm_cast
    rw [penalty_of_zero hn, hcast]
    omega
  · have hcast : ((n - k : Nat) : Rat) * 5 < ((n - k' : Nat) : Rat) * 5 ↔
        (n - k) * 5 < (n - k') * 5 := by norm_cast
    rw [penalty_of_pos hk, hcast]
    omega

/-- What the first headings of the appendix that are found cost, of which `k` are found. -/
theorem penalty_sub_penalty {n k : Nat} (hk : 0 < k) (h : 3 < n - k) :
    penalty n k - penalty n 0 = ((n - k - 3 : Nat) : Rat) * 5 := by
  rw [penalty_of_pos hk, penalty_of_zero (by omega), Nat.cast_sub h.le]
  push_cast
  ring

/-- The score for pages and sections in exact numbers. -/
theorem baseScore_eq (pages : PageComparison Rat) {total : Nat} (h : total ≠ 0) (missing : Nat) :
    baseScore pages total missing =
      min (if pages.suspicious then 80 else 100)
        (((total - missing : Nat) : Rat) / total * 80 + 20) := by
  have hmin : ∀ x y : Rat, Score.min x y = min x y := fun x y => by
    simp [Score.min, Score.le, min_def]
  unfold baseScore
  rw [if_neg h, hmin]
  congr 1
  split
  · change (100 : Rat) - 20 = 80
    norm_num
  · rfl

theorem baseScore_le {pages : PageComparison Rat} {total missing missing' : Nat}
    (h : missing' ≤ missing) : baseScore pages total missing ≤ baseScore pages total missing' := by
  rcases Nat.eq_zero_or_pos total with rfl | htotal
  · exact le_of_eq rfl
  · rw [baseScore_eq pages htotal.ne', baseScore_eq pages htotal.ne']
    gcongr

theorem baseScore_of_no_missing (pages : PageComparison Rat) {total : Nat} (h : total ≠ 0) :
    baseScore pages total 0 = if pages.suspicious then 80 else 100 := by
  have hcast : (total : Rat) ≠ 0 := by exact_mod_cast h
  rw [baseScore_eq pages h, Nat.sub_zero, div_self hcast]
  split <;> norm_num

/-! ## Reports -/

/-- The part of the score for pages and sections. -/
def base (r : CoverageReport Rat) : Rat :=
  baseScore r.pages r.guideSections.length r.missingSections.length

/-- How many headings of the appendix the rendition lacks. -/
def lacking (r : CoverageReport Rat) : Nat :=
  appendixCount r.guideSections - appendixCount r.renditionSections

/-- A rendition without headings of the appendix has got some, and more than `n` are still
lacking. -/
structure FirstFound (n : Nat) (before after : CoverageReport Rat) : Prop where
  none : appendixCount before.renditionSections = 0
  some : 0 < appendixCount after.renditionSections
  many : n < lacking after

theorem score_eq (o t : DocumentSummary) :
    (compare o t : CoverageReport Rat).score = base (compare o t) -
      penalty (appendixCount (sections o.blocks)) (appendixCount (sections t.blocks)) :=
  score_compare o t

theorem complete_iff (r : CoverageReport Rat) :
    r.complete = true ↔ r.missingSections = [] ∧ 70 ≤ r.score := by
  simp [CoverageReport.complete, CoverageReport.passingScore, Score.le, Score.ofInt]

/-- A rendition that is complete without a heading of the appendix, where the guide has some,
loses nothing else. -/
theorem base_of_complete {o t : DocumentSummary}
    (hcomplete : (compare o t : CoverageReport Rat).complete = true)
    (hguide : 0 < appendixCount (sections o.blocks))
    (hnone : appendixCount (sections t.blocks) = 0) :
    base (compare o t) = 100 := by
  obtain ⟨hmissing, hscore⟩ := (complete_iff _).1 hcomplete
  have htotal : (sections o.blocks).length ≠ 0 := by
    have := List.countP_le_length (p := (·.isAppendix)) (l := sections o.blocks)
    exact (hguide.trans_le this).ne'
  have hbase : base (compare o t) =
      if (compare o t : CoverageReport Rat).pages.suspicious then 80 else 100 := by
    rw [base, hmissing]
    exact baseScore_of_no_missing _ htotal
  rw [score_eq, hnone, penalty_of_zero hguide, hbase] at hscore
  rw [hbase]
  split at hscore
  · norm_num at hscore
  · rename_i hpages
    exact if_neg hpages

section

variable (o t : DocumentSummary) (more : List TextBlock)

theorem missing_extend :
    (compare o (t.extend more) : CoverageReport Rat).missingSections.Sublist
      (compare o t : CoverageReport Rat).missingSections := by
  obtain ⟨added, hsections⟩ := exists_sections_append t.blocks more
  exact Section.missing_sublist fun s hs => hsections.mem_iff.2 (List.mem_append_left _ hs)

theorem appendixCount_extend :
    appendixCount (sections t.blocks) ≤ appendixCount (sections (t.extend more).blocks) := by
  obtain ⟨added, hsections⟩ := exists_sections_append t.blocks more
  have h := hsections.countP_eq (p := (·.isAppendix))
  rw [List.countP_append] at h
  exact (Nat.le_add_right _ _).trans h.symm.le

/-- The headings of the appendix cost more exactly when the first of them are found and more than
three are still lacking. -/
theorem penalty_extend_lt_iff :
    penalty (appendixCount (sections o.blocks)) (appendixCount (sections t.blocks)) <
        penalty (appendixCount (sections o.blocks))
          (appendixCount (sections (t.extend more).blocks)) ↔
      FirstFound 3 (compare o t) (compare o (t.extend more)) := by
  rw [penalty_lt_iff (appendixCount_extend t more)]
  exact ⟨fun ⟨hnone, hsome, hmany⟩ => ⟨hnone, hsome, Nat.lt_sub_iff_add_lt'.2 hmany⟩,
    fun ⟨hnone, hsome, hmany⟩ => ⟨hnone, hsome, Nat.lt_sub_iff_add_lt'.1 hmany⟩⟩

variable {o t more}

theorem FirstFound.penalty_sub
    (h : FirstFound 3 (compare o t) (compare o (t.extend more))) :
    penalty (appendixCount (sections o.blocks)) (appendixCount (sections (t.extend more).blocks)) -
        penalty (appendixCount (sections o.blocks)) (appendixCount (sections t.blocks)) =
      ((lacking (compare o (t.extend more)) - 3 : Nat) : Rat) * 5 := by
  have hnone : appendixCount (sections t.blocks) = 0 := h.none
  rw [hnone]
  exact penalty_sub_penalty h.some h.many

variable (o t more)

/-- Where the score falls. -/
theorem score_extend_lt_iff :
    (compare o (t.extend more) : CoverageReport Rat).score <
        (compare o t : CoverageReport Rat).score ↔
      FirstFound 3 (compare o t) (compare o (t.extend more)) ∧
        base (compare o (t.extend more)) - base (compare o t) <
          ((lacking (compare o (t.extend more)) - 3 : Nat) : Rat) * 5 := by
  have hbase : base (compare o t) ≤ base (compare o (t.extend more)) :=
    baseScore_le (missing_extend o t more).length_le
  rw [score_eq, score_eq]
  constructor
  · intro hfalls
    have h := (penalty_extend_lt_iff o t more).1 (by linarith)
    exact ⟨h, by linarith [h.penalty_sub]⟩
  · rintro ⟨h, hrise⟩
    linarith [h.penalty_sub]

/-- Where a rendition that is complete no longer is. -/
theorem complete_extend_iff (hcomplete : (compare o t : CoverageReport Rat).complete = true) :
    (compare o (t.extend more) : CoverageReport Rat).complete = false ↔
      FirstFound 6 (compare o t) (compare o (t.extend more)) := by
  obtain ⟨hnil, hscore⟩ := (complete_iff _).1 hcomplete
  have hnil' : (compare o (t.extend more) : CoverageReport Rat).missingSections = [] :=
    List.sublist_nil.1 (hnil ▸ missing_extend o t more)
  have hsame : base (compare o (t.extend more)) = base (compare o t) := by
    rw [base, base, hnil, hnil']
    rfl
  rw [← Bool.not_eq_true, complete_iff, hnil', eq_self, true_and, not_le, score_eq, hsame]
  rw [score_eq] at hscore
  have hlow : ∀ h : FirstFound 3 (compare o t) (compare o (t.extend more)),
      base (compare o t) - penalty (appendixCount (sections o.blocks))
          (appendixCount (sections (t.extend more).blocks)) < 70 ↔
        (6 : Rat) < (lacking (compare o (t.extend more)) : Rat) := by
    intro h
    have hguide : 0 < appendixCount (sections o.blocks) :=
      Nat.pos_of_ne_zero fun hzero => absurd h.many (by simp [lacking, compare, hzero])
    have hsome : 0 < appendixCount (sections (t.extend more).blocks) := h.some
    rw [base_of_complete hcomplete hguide h.none, penalty_of_pos hsome]
    change 100 - (lacking (compare o (t.extend more)) : Rat) * 5 < 70 ↔ _
    constructor <;> intro <;> linarith
  constructor
  · intro hlost
    have h := (penalty_extend_lt_iff o t more).1 (by linarith)
    exact ⟨h.none, h.some, by exact_mod_cast (hlow h).1 hlost⟩
  · rintro ⟨hnone, hsome, hmany⟩
    exact (hlow ⟨hnone, hsome, by omega⟩).2 (by exact_mod_cast hmany)

end

/-- With more content no section is missing that was not missing before. The score falls exactly
when the first headings of the appendix are found, more than three are still lacking, and the
part of the score for pages and sections rises by less than what that costs; a rendition that
was complete no longer is exactly when more than six are still lacking. -/
theorem compare_extend (o t : DocumentSummary) (more : List TextBlock) :
    let before : CoverageReport Rat := compare o t
    let after : CoverageReport Rat := compare o (t.extend more)
    after.missingSections.Sublist before.missingSections ∧
      (after.score < before.score ↔ FirstFound 3 before after ∧
        base after - base before < ((lacking after - 3 : Nat) : Rat) * 5) ∧
      (before.complete = true ∧ after.complete = false ↔
        before.complete = true ∧ FirstFound 6 before after) :=
  ⟨missing_extend o t more, score_extend_lt_iff o t more,
    and_congr_right (complete_extend_iff o t more)⟩

/-- A summary of one page with the given texts as headings. -/
def headings (texts : List String) : DocumentSummary :=
  ⟨1, texts.map fun t => { page := 1, text := t.toList, blockType := "heading".toList }⟩

/-- A complete rendition of a long appendix under plain headings is no longer complete when one
heading of an appendix is added. -/
theorem compare_extend_loses :
    let titles := ["1 A", "2 B", "3 C", "4 D", "5 E", "6 F", "7 G", "8 H"]
    let before : CoverageReport Rat := compare (headings ("appendix" :: titles)) (headings titles)
    let after : CoverageReport Rat := compare (headings ("appendix" :: titles))
      ((headings titles).extend (headings ["Appendix Z"]).blocks)
    before.score = 85 ∧ before.complete = true ∧ after.score = 65 ∧ after.complete = false := by
  intro titles before after
  have hguide : sections (headings ("appendix" :: titles)).blocks = _ :=
    sections_eq_collect (by decide +kernel)
  have hbefore : sections (headings titles).blocks = _ := sections_eq_collect (by decide +kernel)
  have hafter : sections ((headings titles).extend (headings ["Appendix Z"]).blocks).blocks = _ :=
    sections_eq_collect (by decide +kernel)
  simp only [before, after, compare, hguide, hbefore, hafter]
  decide +kernel

end Coverage

end LatexRepair
