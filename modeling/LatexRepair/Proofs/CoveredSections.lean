import LatexRepair.Proofs.ListedHeadings
import LatexRepair.Proofs.ScoreRange

/-!
# Covered sections

Which sections of a guide a rendition is found to lack. A section is covered where another one has
the same key, and a key does not say whether it stands for a number or for a title. But numbers
and titles are never mixed up : a kind either has a number always or never has one, but for
appendices, whose number is a capital letter (`Heading.allows_of_read?`), and no title in lower
case is one (`Section.toLower_ne_of_allows`). So equal keys are equal numbers or equal titles
(`Section.key_eq_iff`).

* `Coverage.missingSections_compare` : the missing sections are those that no section of the
  rendition renders, by number, by title, or by a similar title nearby (`Section.Renders`).
* `Coverage.compare_self_extend` : a rendition that has all blocks of its guide and does not lose
  too many pages is complete, whatever is added to it.
-/

namespace LatexRepair

/-! ## The numbers of headings -/

/-- Headings of the kind may have the number. -/
def HeadingKind.Allows (number : Text) : HeadingKind → Prop
  | section_ | subsection | subsubsection | appendixSubsection => number ≠ []
  | appendix => number = [] ∨ ∃ c, c.isUpper = true ∧ number = [c]
  | abstract | introduction | conclusion | references | acknowledgments => number = []

namespace Heading

variable {t number title rest : Text}

theorem digits?_ne_nil {ds : Text} (h : digits? t = some (ds, rest)) : ds ≠ [] := by
  rw [digits?] at h
  split at h
  · cases h
  · rename_i hne
    obtain ⟨rfl, -⟩ := Prod.mk.inj (Option.some.inj h)
    exact hne

theorem capital?_eq_some {letter : Text} (h : capital? t = some (letter, rest)) :
    ∃ c, c.isUpper = true ∧ letter = [c] := by
  cases t with
  | nil => cases h
  | cons c t =>
    obtain ⟨hupper, h⟩ := Option.ite_none_right_eq_some.1 h
    exact ⟨c, hupper, (Prod.mk.inj (Option.some.inj h)).1.symm⟩

theorem numbered?_ne_nil {count : Nat} (h : numbered? count t = some (number, title)) :
    number ≠ [] := by
  simp only [numbered?, bind, Option.bind_eq_some_iff, Prod.exists] at h
  obtain ⟨ds, r, hds, more, r', -, title', -, h⟩ := h
  obtain ⟨rfl, -⟩ := Prod.mk.inj (Option.some.inj h)
  exact List.append_ne_nil_of_left_ne_nil (digits?_ne_nil hds) _

theorem labelledSection?_ne_nil (h : labelledSection? t = some (number, title)) :
    number ≠ [] := by
  simp only [labelledSection?, bind, Option.bind_eq_some_iff, Prod.exists] at h
  obtain ⟨_, -, _, -, ds, r, hds, title', -, h⟩ := h
  obtain ⟨rfl, -⟩ := Prod.mk.inj (Option.some.inj h)
  exact digits?_ne_nil hds

theorem letteredSubsection?_ne_nil (h : letteredSubsection? t = some (number, title)) :
    number ≠ [] := by
  simp only [letteredSubsection?, bind, Option.bind_eq_some_iff, Prod.exists] at h
  obtain ⟨letter, r, hletter, more, r', -, title', -, h⟩ := h
  obtain ⟨rfl, -⟩ := Prod.mk.inj (Option.some.inj h)
  obtain ⟨c, -, rfl⟩ := capital?_eq_some hletter
  exact List.cons_ne_nil _ _

theorem labelledAppendix?_number (h : labelledAppendix? t = some (number, title)) :
    ∃ c, c.isUpper = true ∧ number = [c] := by
  simp only [labelledAppendix?, bind, Option.bind_eq_some_iff, Prod.exists] at h
  obtain ⟨_, -, _, -, letter, r, hletter, title', -, h⟩ := h
  obtain ⟨rfl, -⟩ := Prod.mk.inj (Option.some.inj h)
  exact capital?_eq_some hletter

theorem letteredAppendix?_number (h : letteredAppendix? t = some (number, title)) :
    ∃ c, c.isUpper = true ∧ number = [c] := by
  simp only [letteredAppendix?, bind, Option.bind_eq_some_iff, Prod.exists] at h
  obtain ⟨letter, r, hletter, _, -, _, -, title', -, h⟩ := h
  obtain ⟨rfl, -⟩ := Prod.mk.inj (Option.some.inj h)
  exact capital?_eq_some hletter

theorem chineseAppendix?_number (h : chineseAppendix? t = some (number, title)) :
    number = [] ∨ ∃ c, c.isUpper = true ∧ number = [c] := by
  simp only [chineseAppendix?, bind, Option.bind_eq_some_iff] at h
  obtain ⟨r, -, title', -, h⟩ := h
  obtain ⟨rfl, -⟩ := Prod.mk.inj (Option.some.inj h)
  cases hletter : capital? (Text.trimStart r) with
  | none => exact .inl rfl
  | some p => exact .inr (capital?_eq_some hletter)

theorem word?_number {words : List String} (h : word? words t = some (number, title)) :
    number = [] := by
  obtain ⟨-, h⟩ := Option.ite_none_right_eq_some.1 h
  exact (Prod.mk.inj (Option.some.inj h)).1.symm

theorem allows_of_mem_numberedForms {f : Form} (hf : f ∈ numberedForms)
    (h : f.read? t = some (number, title)) : f.kind.Allows number := by
  simp only [numberedForms, List.mem_cons, List.not_mem_nil, or_false] at hf
  rcases hf with rfl | rfl | rfl | rfl | rfl | rfl | rfl | rfl
  · exact numbered?_ne_nil h
  · exact numbered?_ne_nil h
  · exact numbered?_ne_nil h
  · exact labelledSection?_ne_nil h
  · exact letteredSubsection?_ne_nil h
  · exact .inr (labelledAppendix?_number h)
  · exact .inr (letteredAppendix?_number h)
  · exact chineseAppendix?_number h

theorem allows_of_mem_wordForms {f : Form} (hf : f ∈ wordForms)
    (h : f.read? t = some (number, title)) : f.kind.Allows number := by
  simp only [wordForms, List.mem_cons, List.not_mem_nil, or_false] at hf
  rcases hf with rfl | rfl | rfl | rfl | rfl <;> exact word?_number h

/-- A heading has a number of its kind. -/
theorem allows_of_read? {looksLikeHeading : Bool} {g : Heading}
    (h : read? looksLikeHeading t = some g) : g.kind.Allows g.number := by
  obtain ⟨f, hf, h⟩ := List.exists_of_findSome?_eq_some h
  obtain ⟨⟨number, title⟩, hread, rfl⟩ := Option.map_eq_some_iff.1 h
  rcases List.mem_append.1 hf with hf | hf
  · exact allows_of_mem_numberedForms hf hread
  · exact allows_of_mem_wordForms (List.mem_ite_nil_right.1 hf).2 hread

end Heading

namespace Section

/-- A section has a number of its kind. -/
theorem allows_of_mem_sections {bs : List TextBlock} {s : Section} (h : s ∈ sections bs) :
    s.kind.Allows s.number := by
  obtain ⟨i, hi⟩ := (headingsListed_sections bs).found s h
  obtain ⟨b, -, hheading, -⟩ := hi.heading
  obtain ⟨t, -, hread⟩ := Option.bind_eq_some_iff.1 hheading
  exact Heading.allows_of_read? hread

/-! ## Keys -/

/-- A title in lower case is no number of a kind that has headings without a number : such a
number is a capital letter. -/
theorem toLower_ne_of_allows {k : HeadingKind} {number : Text} (hnone : k.Allows [])
    (h : k.Allows number) (hnumber : number ≠ []) (title : Text) :
    Text.toLower title ≠ number := by
  have hcapital : ∃ c, c.isUpper = true ∧ number = [c] := by
    cases k with
    | section_ | subsection | subsubsection | appendixSubsection => exact absurd rfl hnone
    | appendix => exact h.resolve_left hnumber
    | abstract | introduction | conclusion | references | acknowledgments =>
      exact absurd h hnumber
  obtain ⟨c, hupper, rfl⟩ := hcapital
  intro heq
  have hlower : c.isUpper = false :=
    Text.isUpper_eq_false_of_mem_toLower (heq ▸ List.mem_singleton_self c)
  rw [hlower] at hupper
  cases hupper

variable {s t : Section}

/-- The same key is the same kind and either the same number or, where neither has one, the same
title in lower case. -/
theorem key_eq_iff (hs : s.kind.Allows s.number) (ht : t.kind.Allows t.number) :
    t.key = s.key ↔ t.kind = s.kind ∧ (s.number ≠ [] ∧ t.number = s.number ∨
      s.number = [] ∧ t.number = [] ∧ Text.toLower t.title = Text.toLower s.title) := by
  rw [key, key, Prod.mk.injEq]
  refine and_congr_right fun hkind => ?_
  rw [hkind] at ht
  simp only [List.isEmpty_iff]
  by_cases hsnumber : s.number = [] <;> by_cases htnumber : t.number = []
  · simp [hsnumber, htnumber]
  · rw [hsnumber] at hs
    simpa [hsnumber, htnumber] using (toLower_ne_of_allows hs ht htnumber s.title).symm
  · rw [htnumber] at ht
    simpa [hsnumber, htnumber, Ne.symm hsnumber] using toLower_ne_of_allows ht hs hsnumber t.title
  · simp [hsnumber, htnumber]

/-! ## Missing sections -/

/-- The section `t` of a rendition renders the section `s` of its guide : it is of the same kind,
and it has the same number, or the same title where neither has a number, or a similar title at
most two pages away. -/
structure Renders (t s : Section) : Prop where
  kind : t.kind = s.kind
  alike : (s.number ≠ [] ∧ t.number = s.number) ∨
    (s.number = [] ∧ t.number = [] ∧ Text.toLower t.title = Text.toLower s.title) ∨
    (((s.page : Int) - t.page).natAbs ≤ 2 ∧ titlesSimilar s.title t.title = true)

instance : Decidable (t.Renders s) :=
  decidable_of_iff (t.kind = s.kind ∧ _) ⟨fun h => ⟨h.1, h.2⟩, fun h => ⟨h.kind, h.alike⟩⟩

theorem nearby_iff : s.nearby t = true ↔ ((s.page : Int) - t.page).natAbs ≤ 2 := by
  rw [nearby, Bool.and_eq_true, decide_eq_true_eq, decide_eq_true_eq]
  omega

/-- Between sections of documents, to cover is to render : the comparison of keys adds nothing
but the titles in lower case. -/
theorem covers_iff (hs : s.kind.Allows s.number) (ht : t.kind.Allows t.number) :
    t.covers s = true ↔ t.Renders s := by
  have hcovers : t.covers s = true ↔ t.key = s.key ∨ t.kind = s.kind ∧
      (s.number ≠ [] ∧ t.number = s.number ∨
        ((s.page : Int) - t.page).natAbs ≤ 2 ∧ titlesSimilar s.title t.title = true) := by
    simp only [covers, Bool.or_eq_true, Bool.and_eq_true, decide_eq_true_eq, nearby_iff,
      Bool.not_eq_true', List.isEmpty_eq_false_iff, eq_comm (a := s.number)]
  rw [hcovers, key_eq_iff hs ht, ← and_or_left]
  constructor
  · rintro ⟨hkind, (hnumber | htitle) | hnumber | hnear⟩
    · exact ⟨hkind, .inl hnumber⟩
    · exact ⟨hkind, .inr (.inl htitle)⟩
    · exact ⟨hkind, .inl hnumber⟩
    · exact ⟨hkind, .inr (.inr hnear)⟩
  · rintro ⟨hkind, hnumber | htitle | hnear⟩
    · exact ⟨hkind, .inr (.inl hnumber)⟩
    · exact ⟨hkind, .inl (.inr htitle)⟩
    · exact ⟨hkind, .inr (.inr hnear)⟩

theorem missing_self (ss : List Section) : missing ss ss = [] := by
  refine List.filter_eq_nil_iff.2 fun s hs => ?_
  rw [Bool.not_eq_true', ← Bool.not_eq_true, not_not, List.any_eq_true]
  exact ⟨s, hs, by simp [covers]⟩

end Section

namespace Coverage

variable {α : Type} [Score α]

/-- The missing sections are the sections of the guide, in their order, that no section of the
rendition renders. -/
theorem missingSections_compare (o t : DocumentSummary) :
    (compare o t : CoverageReport α).missingSections =
      (sections o.blocks).filter fun s => ¬∃ r ∈ sections t.blocks, r.Renders s := by
  refine List.filter_congr fun s hs => ?_
  rw [Bool.eq_iff_iff, Bool.not_eq_true', ← Bool.not_eq_true, List.any_eq_true,
    decide_eq_true_eq]
  refine not_congr (exists_congr fun r => and_congr_right fun hr => ?_)
  exact Section.covers_iff (Section.allows_of_mem_sections hs)
    (Section.allows_of_mem_sections hr)

/-! ## Renditions that have the blocks of their guide -/

theorem appendixLoss?_of_le {guide rendition : Nat} (h : guide ≤ rendition) :
    appendixLoss? (α := α) guide rendition = none := by
  have hfirst : (decide (guide > 0) && decide (rendition = 0)) = false := by
    simp only [Bool.and_eq_false_iff, decide_eq_false_iff_not]
    omega
  rw [appendixLoss?, hfirst, if_neg Bool.false_ne_true, if_neg h.not_gt]

theorem baseScore_eq_hundred {pages : PageComparison Rat} (h : pages.suspicious = false)
    (total : Nat) : baseScore pages total 0 = 100 := by
  rcases eq_or_ne total 0 with rfl | htotal
  · rw [baseScore_zero, h, if_neg Bool.false_ne_true]
  · rw [baseScore_of_no_missing pages htotal, h, if_neg Bool.false_ne_true]

/-- A rendition that has the blocks of its guide, and more, without losing too many pages is
complete. -/
theorem compare_self_extend (d : DocumentSummary) (more : List TextBlock) (pages : Nat)
    (hpages : (PageComparison.of d.pageCount pages : PageComparison Rat).suspicious = false) :
    let r : CoverageReport Rat := compare d ⟨pages, d.blocks ++ more⟩
    r.missingSections = [] ∧ r.warnings = [] ∧ r.score = 100 ∧ r.complete = true := by
  intro r
  have hmissing : r.missingSections = [] := by
    obtain ⟨added, hsections⟩ := exists_sections_append d.blocks more
    have hsub : sections d.blocks ⊆ sections (d.blocks ++ more) := fun s hs =>
      hsections.mem_iff.2 (List.mem_append_left _ hs)
    exact List.sublist_nil.1 (Section.missing_self (sections d.blocks) ▸
      Section.missing_sublist hsub)
  have hloss : appendixLoss? (α := Rat) (appendixCount (sections d.blocks))
      (appendixCount (sections (d.blocks ++ more))) = none :=
    appendixLoss?_of_le (appendixCount_extend d more)
  have hscore : r.score = 100 := by
    rw [score_compare, hmissing, penalty, hloss, List.length_nil, baseScore_eq_hundred hpages]
    exact sub_zero _
  have hwarnings : r.warnings = (if r.pages.suspicious then [.pages r.pages] else []) ++
      r.missingSections.map .missingSection ++ (Option.map (·.1) (appendixLoss? _ _)).toList := rfl
  refine ⟨hmissing, ?_, hscore, (complete_iff r).2 ⟨hmissing, by rw [hscore]; norm_num⟩⟩
  rw [hwarnings, hmissing, hloss, show r.pages.suspicious = false from hpages]
  rfl

/-- Three of twenty pages may be lost. -/
theorem compare_self_extend_appendix :
    let d : DocumentSummary := ⟨20, (headings ["1 A", "Appendix B", "B.1 C"]).blocks⟩
    let r : CoverageReport Rat := compare d ⟨17, d.blocks ++ (headings ["Appendix A"]).blocks⟩
    (PageComparison.of 20 17 : PageComparison Rat).suspicious = false ∧
      r.missingSections = [] ∧ r.warnings = [] ∧ r.score = 100 ∧ r.complete = true := by
  intro d r
  have hpages : (PageComparison.of 20 17 : PageComparison Rat).suspicious = false := by
    decide +kernel
  exact ⟨hpages, compare_self_extend d (headings ["Appendix A"]).blocks 17 hpages⟩

end Coverage

end LatexRepair
