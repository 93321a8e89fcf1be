import LatexRepair.Proofs.CoverageGrowth
import LatexRepair.Proofs.ListedHeadings

/-!
# Blocks that are no headings

A block that is no heading adds no section, and takes none away : it leaves the keys that were
seen as they are. What it may change is whether the headings behind it count as headings of the
appendix, if it mentions the appendix (`Section.collect_true`).

`sections_insert` : so the sections with the block are those without it, where a block that
mentions the appendix puts the sections into the appendix whose first heading stands behind it.
Nothing changes exactly if all these belong to the appendix anyway; otherwise the block matters
although it is no heading (`sections_insert_marks`).
-/

namespace LatexRepair

namespace Section

/-- Behind a block that mentions the appendix all sections belong to it; they are the same
sections otherwise. -/
theorem collect_true (inAppendix : Bool) (seen : List (HeadingKind × Text))
    (bs : List TextBlock) : collect true seen bs =
      (collect inAppendix seen bs).map fun s => { s with isAppendix := true } := by
  induction bs generalizing inAppendix seen with
  | nil => rfl
  | cons b bs ih =>
    cases hb : b.heading? with
    | none =>
      rw [collect_of_none _ _ _ hb, collect_of_none _ _ _ hb, Bool.true_or]
      exact ih _ _
    | some h =>
      rw [collect_of_some _ _ _ hb, collect_of_some _ _ _ hb, Bool.true_or]
      split
      · exact ih _ _
      · exact congrArg (List.cons _) (ih _ _)

theorem key_not_mem_of_mem_collect {inAppendix : Bool} {seen : List (HeadingKind × Text)}
    {bs : List TextBlock} {s : Section} (h : s ∈ collect inAppendix seen bs) : s.key ∉ seen := by
  induction bs generalizing inAppendix seen with
  | nil => cases h
  | cons b bs ih =>
    cases hb : b.heading? with
    | none =>
      rw [collect_of_none _ _ _ hb] at h
      exact ih h
    | some g =>
      rw [collect_of_some _ _ _ hb] at h
      split at h
      · exact ih h
      · rename_i hnew
        rcases List.mem_cons.1 h with rfl | h
        · exact hnew
        · exact fun hmem => ih h (List.mem_cons_of_mem _ hmem)

theorem hasHeading_of_mem_collect {bs : List TextBlock} {s : Section}
    (h : s ∈ collect false [] bs) : HasHeading bs s.key := by
  obtain ⟨i, hi⟩ := mem_collect_iff.1 h
  obtain ⟨b, hb, hheading, -⟩ := hi.heading
  exact ⟨b, List.mem_of_getElem? hb, _, hheading, rfl⟩

end Section

open Section

/-- The section as it is when a block stands behind the blocks `before` : in the appendix, if the
block mentions it and the first heading of the section stands behind the block. -/
def Section.behindMention (before : List TextBlock) (b : TextBlock) (s : Section) : Section :=
  if b.NamesAppendix ∧ ¬HasHeading before s.key then { s with isAppendix := true } else s

/-- A block that is no heading adds no key, so it changes only the mark of what stands behind it. -/
theorem behind_append_singleton {b : TextBlock} (hb : b.heading? = none)
    (before after : List TextBlock) :
    behind (before ++ [b]) after = (behind before after).map (behindMention before b) := by
  have hkeys : headingKeys (before ++ [b]) = headingKeys before := by
    rw [headingKeys_append_singleton, hb, Option.map_none, Option.toList_none, List.append_nil]
  have hmention : ∀ s ∈ behind before after, s.behindMention before b =
      if b.NamesAppendix then { s with isAppendix := true } else s := fun s hs => by
    have hnew : ¬HasHeading before s.key := mt mem_headingKeys.2 (key_not_mem_of_mem_collect hs)
    simp only [behindMention, hnew, not_false_eq_true, and_true]
  rw [List.map_congr_left hmention, behind, behind, hkeys, List.any_append, List.any_cons,
    List.any_nil, Bool.or_false]
  by_cases hnames : b.NamesAppendix
  · simp only [hnames, if_true, TextBlock.mentionsAppendix_iff.2 hnames, Bool.or_true]
    exact collect_true _ _ _
  · rw [Bool.eq_false_iff.2 (mt TextBlock.mentionsAppendix_iff.1 hnames), Bool.or_false]
    simp only [hnames, if_false, List.map_id']

theorem collect_insert {b : TextBlock} (hb : b.heading? = none) (before after : List TextBlock) :
    collect false [] (before ++ b :: after) =
      (collect false [] (before ++ after)).map (behindMention before b) := by
  have hnew : new? before b = none := by rw [new?, hb, Option.bind_none]
  have hfront : ∀ s ∈ collect false [] before, s.behindMention before b = s := fun s hs =>
    if_neg fun h => h.2 (hasHeading_of_mem_collect hs)
  rw [collect_append, collect_append, behind_cons, hnew, Option.toList_none, List.nil_append,
    behind_append_singleton hb, List.map_append, List.map_congr_left hfront, List.map_id']

theorem behindMention_eq_self_iff {before : List TextBlock} {b : TextBlock} {s : Section} :
    s.behindMention before b = s ↔
      (b.NamesAppendix → ¬HasHeading before s.key → s.isAppendix = true) := by
  rw [behindMention]
  split
  · rename_i h
    constructor
    · intro heq _ _
      rw [← heq]
    · intro happendix
      rw [← happendix h.1 h.2]
  · rename_i h
    exact iff_of_true rfl fun hb hs => absurd ⟨hb, hs⟩ h

/-- The mark of the appendix does not count for the order. -/
theorem le_behindMention (before : List TextBlock) (b : TextBlock) (s t : Section) :
    (s.behindMention before b).le (t.behindMention before b) = s.le t := by
  unfold behindMention
  split <;> split <;> rfl

/-- A block that is no heading changes no section but for the mark of the appendix, and that mark
only if the block mentions the appendix, for the sections whose first heading stands behind it. -/
theorem sections_insert {b : TextBlock} (hb : b.heading? = none) (before after : List TextBlock) :
    sections (before ++ b :: after) = (sections (before ++ after)).map (behindMention before b) ∧
      (sections (before ++ b :: after) = sections (before ++ after) ↔
        (b.NamesAppendix → ∀ s ∈ sections (before ++ after),
          ¬HasHeading before s.key → s.isAppendix = true)) := by
  have hmap : sections (before ++ b :: after) =
      (sections (before ++ after)).map (behindMention before b) := by
    rw [sections, collect_insert hb, sections,
      List.map_mergeSort (s := le) fun s _ t _ => (le_behindMention before b s t).symm]
  have hsame : (sections (before ++ after)).map (behindMention before b) =
      (sections (before ++ after)).map id ↔
        ∀ s ∈ sections (before ++ after), s.behindMention before b = s := List.map_inj_left
  refine ⟨hmap, ?_⟩
  rw [List.map_id] at hsame
  rw [hmap, hsame]
  simp only [behindMention_eq_self_iff]
  exact ⟨fun h hb s hs => h s hs hb, fun h s hs hb => h hb s hs⟩

/-- A line that mentions the appendix between two headings puts the second one into it. -/
theorem sections_insert_between :
    let line : TextBlock := { page := 1, text := "see the appendix".toList }
    line.heading? = none ∧
      sections ((Coverage.headings ["1 A"]).blocks ++ line :: (Coverage.headings ["2 B"]).blocks) =
        [⟨.section_, "1".toList, "A".toList, 1, 1, false⟩,
          ⟨.section_, "2".toList, "B".toList, 1, 1, true⟩] := by
  intro line
  have hline : line.heading? = none := by decide +kernel
  have hwithout : sections
      ((Coverage.headings ["1 A"]).blocks ++ (Coverage.headings ["2 B"]).blocks) = _ :=
    sections_eq_collect (by decide +kernel)
  refine ⟨hline, ?_⟩
  rw [(sections_insert hline _ _).1, hwithout]
  decide +kernel

/-- A block that is no heading may change the sections. -/
theorem sections_insert_marks :
    ¬∀ (b : TextBlock) (before after : List TextBlock), b.heading? = none →
      sections (before ++ b :: after) = sections (before ++ after) := by
  set line : TextBlock := { page := 1, text := "see the appendix".toList }
  intro h
  have hwith : sections ([] ++ line :: (Coverage.headings ["1 A"]).blocks) = _ :=
    sections_eq_collect (by decide +kernel)
  have hwithout : sections ([] ++ (Coverage.headings ["1 A"]).blocks) = _ :=
    sections_eq_collect (by decide +kernel)
  have hsame := h line [] (Coverage.headings ["1 A"]).blocks (by decide +kernel)
  rw [hwith, hwithout] at hsame
  revert hsame
  decide +kernel

end LatexRepair
