import LatexRepair.Proofs.DuplicateEnds
import LatexRepair.Typo

/-!
# Misspelled commands

Correcting misspellings leaves none of them behind (`Typo.spelled_correctAll`), although they are
corrected one after another and each correction puts new text in. Every misspelling and every
correction is a control word : it starts with its only backslash and holds no line break
(`Text.IsControl`). So a misspelling can stand across the border of a correction only where one of
the two is the beginning of the other (`Text.IsControl.infix_replaceAll`), and none is
(`Typo.not_prefix_right`). For the same reason the later rules bring no misspelling about : a line
break that is rewritten stands in none (`Text.IsControl.infix_normalizeNewlines`), and where
an end of the document went, a line break or another end stands before the gap
(`Text.IsControl.infix_dropsEnd`).
-/

namespace LatexRepair

open List (infix_append_iff infix_cons_iff)

namespace Text

variable {needle k w f s t u : Text}

/-! ## Occurrences -/

theorem not_prefix_of_startsWith_eq_false (h : startsWith needle t = false) : ¬needle <+: t :=
  fun hp => by
    rw [startsWith, List.isPrefixOf_iff_prefix.2 hp] at h
    cases h

/-- A text that does not occur is not counted. -/
theorem countOccurrences_eq_zero_iff (hne : needle ≠ []) :
    countOccurrences needle t = 0 ↔ ¬needle <:+: t := by
  induction t using countOccurrences.induct needle with
  | case1 => simp [countOccurrences, hne]
  | case2 c t hstart ih =>
    rw [countOccurrences, if_pos hstart, infix_cons_iff, not_or]
    exact iff_of_false (Nat.succ_ne_zero _) fun h =>
      h.1 (List.isPrefixOf_iff_prefix.1 hstart)
  | case3 c t hstart ih =>
    have hprefix := not_prefix_of_startsWith_eq_false (Bool.not_eq_true _ ▸ hstart)
    rw [countOccurrences, if_neg hstart, ih, infix_cons_iff, not_or]
    exact (and_iff_right hprefix).symm

/-- A text that does not occur is not replaced. -/
theorem replaceAll_eq_self (h : ¬needle <:+: t) (r : Text) : replaceAll needle r t = t := by
  induction t using replaceAll.induct needle with
  | case1 => rw [replaceAll]
  | case2 c t hstart ih =>
    exact absurd (List.isPrefixOf_iff_prefix.1 hstart).isInfix h
  | case3 c t hstart ih =>
    rw [infix_cons_iff, not_or] at h
    rw [replaceAll, if_neg hstart, ih h.2]

/-! ## Control words -/

/-- A text that starts with its only backslash and holds no line break. -/
def IsControl (w : Text) : Prop :=
  w.head? = some '\\' ∧ '\\' ∉ w.tail ∧ '\n' ∉ w

instance (w : Text) : Decidable (IsControl w) :=
  inferInstanceAs (Decidable (_ ∧ _))

theorem IsControl.eq_cons (h : IsControl w) :
    ∃ t, w = '\\' :: t ∧ '\\' ∉ t ∧ '\n' ∉ t := by
  obtain ⟨t, rfl⟩ := List.head?_eq_some_iff.1 h.1
  exact ⟨t, rfl, h.2.1, fun hn => h.2.2 (List.mem_cons_of_mem _ hn)⟩

/-- The only end of a control word that starts with a backslash is the whole. -/
theorem IsControl.eq_of_suffix (hw : IsControl w) (hs : s <:+ w) (hhead : s.head? = some '\\') :
    s = w := by
  obtain ⟨t, rfl, ht, -⟩ := hw.eq_cons
  rcases List.suffix_cons_iff.1 hs with rfl | hs
  · rfl
  · exact absurd (hs.subset (List.mem_of_head? hhead)) ht

/-- A text ends with at most one control word. -/
theorem IsControl.append_inj {s s' w w' : Text} (hw : IsControl w) (hw' : IsControl w')
    (h : s ++ w = s' ++ w') : s = s' ∧ w = w' := by
  have hword : w = w' := by
    have hsuffix : w' <:+ s ++ w := ⟨s', h.symm⟩
    rcases List.suffix_or_suffix_of_suffix (List.suffix_append s w) hsuffix with hs | hs
    · exact hw'.eq_of_suffix hs hw.1
    · exact (hw.eq_of_suffix hs hw'.1).symm
  exact ⟨List.append_cancel_right (hword ▸ h), hword⟩

/-- A control word that stands in neither of two texts stands across their border. -/
theorem IsControl.infix_append (hk : IsControl k) (h : k <:+: s ++ t) :
    k <:+: s ∨ k <:+: t ∨
      ∃ a b, k = a ++ b ∧ a.head? = some '\\' ∧ a <:+ s ∧ b <+: t := by
  rcases infix_append_iff.1 h with h | h | ⟨a, b, rfl, ha, hb⟩
  · exact .inl h
  · exact .inr (.inl h)
  · cases a with
    | nil => exact .inr (.inl hb.isInfix)
    | cons c a => exact .inr (.inr ⟨c :: a, b, rfl, hk.1, ha, hb⟩)

/-! ## Rewritten text -/

/-- Up to the next backslash a text is what it was before replacements. -/
theorem IsControl.prefix_replaceAll (hw : IsControl w) (hf : IsControl f) (hs : '\\' ∉ s)
    (h : s <+: replaceAll w f t) : s <+: t := by
  obtain ⟨w, rfl, -, -⟩ := hw.eq_cons
  obtain ⟨f, rfl, -, -⟩ := hf.eq_cons
  induction s generalizing t with
  | nil => exact List.nil_prefix
  | cons d s ih =>
    rw [List.mem_cons, not_or] at hs
    cases t with
    | nil => rwa [replaceAll] at h
    | cons c t =>
      rw [replaceAll] at h
      split at h
      · exact absurd (List.cons_prefix_cons.1 h).1.symm hs.1
      · obtain ⟨rfl, hrest⟩ := List.cons_prefix_cons.1 h
        exact List.cons_prefix_cons.2 ⟨rfl, ih hs.2 hrest⟩

/-- A control word that occurs behind replacements occurred before, and is not the one that was
replaced, if the new text and it are no beginnings of each other. -/
theorem IsControl.infix_replaceAll (hk : IsControl k) (hw : IsControl w) (hf : IsControl f)
    (hkf : ¬k <+: f) (hfk : ¬f <+: k) (h : k <:+: replaceAll w f t) : k ≠ w ∧ k <:+: t := by
  obtain ⟨k', rfl, hk', -⟩ := hk.eq_cons
  induction t using replaceAll.induct w with
  | case1 =>
    rw [replaceAll] at h
    cases List.infix_nil.1 h
  | case2 c t hstart ih =>
    rw [replaceAll, if_pos hstart] at h
    have hrest : '\\' :: k' <:+: replaceAll w f (t.drop (w.length - 1)) := by
      rcases hk.infix_append h with h | h | ⟨a, b, hab, hhead, ha, -⟩
      · obtain ⟨f', rfl, hf', -⟩ := hf.eq_cons
        rcases infix_cons_iff.1 h with h | h
        · exact absurd h hkf
        · exact absurd (h.subset (List.mem_cons_self ..)) hf'
      · exact h
      · exact absurd ⟨b, by rw [hab, hf.eq_of_suffix ha hhead]⟩ hfk
    obtain ⟨hne, hin⟩ := ih hrest
    exact ⟨hne, hin.trans ((List.drop_suffix _ _).isInfix.trans (List.suffix_cons c t).isInfix)⟩
  | case3 c t hstart ih =>
    rw [replaceAll, if_neg hstart] at h
    rcases infix_cons_iff.1 h with h | h
    · obtain ⟨rfl, hrest⟩ := List.cons_prefix_cons.1 h
      have hprefix : '\\' :: k' <+: '\\' :: t :=
        List.cons_prefix_cons.2 ⟨rfl, hw.prefix_replaceAll hf hk' hrest⟩
      refine ⟨?_, hprefix.isInfix⟩
      rintro rfl
      exact hstart (List.isPrefixOf_iff_prefix.2 hprefix)
    · obtain ⟨hne, hin⟩ := ih h
      exact ⟨hne, hin.trans (List.suffix_cons c t).isInfix⟩

theorem normalizeNewlines_return (h : ∀ r, t ≠ '\n' :: r) :
    normalizeNewlines ('\r' :: t) = '\n' :: normalizeNewlines t := by
  rw [normalizeNewlines]
  exact h

theorem prefix_of_prefix_newline {r : Text} (hs : '\n' ∉ s) (h : s <+: '\n' :: r) :
    s <+: t := by
  cases s with
  | nil => exact List.nil_prefix
  | cons d s =>
    obtain ⟨rfl, -⟩ := List.cons_prefix_cons.1 h
    exact absurd (List.mem_cons_self ..) hs

/-- Up to the next line break a text is what it was before its line breaks were rewritten. -/
theorem prefix_normalizeNewlines (hs : '\n' ∉ s) (h : s <+: normalizeNewlines t) : s <+: t := by
  induction t using normalizeNewlines.induct generalizing s with
  | case1 => rwa [normalizeNewlines] at h
  | case2 t _ =>
    rw [normalizeNewlines] at h
    exact prefix_of_prefix_newline hs h
  | case3 t hnext _ =>
    rw [normalizeNewlines_return hnext] at h
    exact prefix_of_prefix_newline hs h
  | case4 c t _ hc ih =>
    rw [normalizeNewlines_cons hc] at h
    cases s with
    | nil => exact List.nil_prefix
    | cons d s =>
      obtain ⟨rfl, hrest⟩ := List.cons_prefix_cons.1 h
      rw [List.mem_cons, not_or] at hs
      exact List.cons_prefix_cons.2 ⟨rfl, ih hs.2 hrest⟩

theorem IsControl.infix_normalizeNewlines (hk : IsControl k) (h : k <:+: normalizeNewlines t) :
    k <:+: t := by
  obtain ⟨k', rfl, -, hk'⟩ := hk.eq_cons
  have hbreak : ∀ {r}, '\\' :: k' <:+: '\n' :: r → '\\' :: k' <:+: r := fun h =>
    (infix_cons_iff.1 h).resolve_left fun h => nomatch (List.cons_prefix_cons.1 h).1
  induction t using normalizeNewlines.induct with
  | case1 => rwa [normalizeNewlines] at h
  | case2 t ih =>
    rw [normalizeNewlines] at h
    exact (ih (hbreak h)).trans ((List.suffix_cons ..).trans (List.suffix_cons ..)).isInfix
  | case3 t hnext ih =>
    rw [normalizeNewlines_return hnext] at h
    exact (ih (hbreak h)).trans (List.suffix_cons ..).isInfix
  | case4 c t _ hc ih =>
    rw [normalizeNewlines_cons hc] at h
    rcases infix_cons_iff.1 h with h | h
    · obtain ⟨rfl, hrest⟩ := List.cons_prefix_cons.1 h
      exact (List.cons_prefix_cons.2 ⟨rfl, prefix_normalizeNewlines hk' hrest⟩).isInfix
    · exact (ih h).trans (List.suffix_cons c t).isInfix

theorem isControl_terminator : IsControl terminator := by
  decide

/-- Where an end of the document went nothing grows together to a control word that does not
start with an end of the document. -/
theorem IsControl.infix_dropsEnd (hk : IsControl k) (hend : ¬terminator <+: k)
    (h : Terminator.DropsEnd t u) (hu : k <:+: u) : k <:+: t := by
  obtain ⟨a, kept, blanks, lineBreak, b, -, hline, -, -⟩ := h
  have hfront : a ++ (terminator ++ kept) <:+:
      a ++ (terminator ++ (kept ++ (blanks ++ (terminator ++ (lineBreak ++ b))))) :=
    List.IsPrefix.isInfix ⟨blanks ++ (terminator ++ (lineBreak ++ b)), by simp⟩
  have hback : b <:+: a ++ (terminator ++ (kept ++ (blanks ++ (terminator ++ (lineBreak ++ b))))) :=
    List.IsSuffix.isInfix ⟨a ++ (terminator ++ (kept ++ (blanks ++ (terminator ++ lineBreak)))), by
      simp⟩
  rw [← List.append_assoc terminator, ← List.append_assoc a] at hu
  rcases hk.infix_append hu with hu | hu | ⟨l, r, rfl, hhead, hl, -⟩
  · exact hu.trans hfront
  · exact hu.trans hback
  · -- The left part of the word would end with the line break or hold the end of the document.
    exfalso
    rcases hline with rfl | hline
    · rw [List.append_nil] at hl
      have hwhole : l <:+ terminator → False := fun hl =>
        hend ⟨r, by rw [isControl_terminator.eq_of_suffix hl hhead]⟩
      rcases List.suffix_or_suffix_of_suffix hl (List.suffix_append a terminator) with hl | hl
      · exact hwhole hl
      · obtain ⟨m, rfl⟩ := hl
        cases m with
        | nil => exact hwhole List.suffix_rfl
        | cons c m =>
          have hmem : '\\' ∈ terminator := List.mem_of_head? isControl_terminator.1
          exact hk.2.1 (by simp [hmem])
    · obtain ⟨s, rfl⟩ := List.getLast?_eq_some_iff.1 hline
      rcases List.eq_nil_or_concat l with rfl | ⟨m, c, rfl⟩
      · cases hhead
      · obtain ⟨p, hp⟩ := hl
        rw [List.concat_eq_append, ← List.append_assoc, ← List.append_assoc a,
          ← List.append_assoc] at hp
        obtain rfl : c = '\n' := by simpa using (List.append_inj' hp rfl).2
        exact hk.2.2 (by simp)

end Text

namespace Typo

open Text

variable {t : Text}

/-- The text holds no misspelling. -/
def Spelled (t : Text) : Prop :=
  ∀ typo ∈ all, contains typo.wrong t = false

theorem isControl_of_mem {typo : Typo} (h : typo ∈ all) :
    IsControl typo.wrong ∧ IsControl typo.right := by
  have hall : ∀ typo ∈ all, IsControl typo.wrong ∧ IsControl typo.right := by decide
  exact hall typo h

/-- No misspelling and no correction are beginnings of each other. -/
theorem not_prefix_right {k typo : Typo} (hk : k ∈ all) (h : typo ∈ all) :
    ¬k.wrong <+: typo.right ∧ ¬typo.right <+: k.wrong := by
  have hall : ∀ k ∈ all, ∀ typo ∈ all, ¬k.wrong <+: typo.right ∧ ¬typo.right <+: k.wrong := by
    decide
  exact hall k hk typo h

theorem wrong_ne_nil {typo : Typo} (h : typo ∈ all) : typo.wrong ≠ [] := by
  obtain ⟨w, hw, -⟩ := (isControl_of_mem h).1.eq_cons
  rw [hw]
  exact List.cons_ne_nil _ _

theorem fst_correct {typo : Typo} (h : typo ∈ all) (t : Text) :
    (typo.correct t).1 = replaceAll typo.wrong typo.right t := by
  unfold correct
  dsimp only
  split
  · rename_i hcount
    rw [countOccurrences_eq_zero_iff (wrong_ne_nil h)] at hcount
    exact (replaceAll_eq_self hcount _).symm
  · rfl

/-- A misspelling that is left is none of those that were corrected, and was there before. -/
theorem infix_foldl_correct {typos : List Typo} (htypos : ∀ typo ∈ typos, typo ∈ all)
    {acc : Text × List Correction} {k : Typo} (hk : k ∈ all)
    (h : k.wrong <:+: (typos.foldl (fun (acc : Text × List Correction) typo =>
      ((typo.correct acc.1).1, acc.2 ++ (typo.correct acc.1).2)) acc).1) :
    k ∉ typos ∧ k.wrong <:+: acc.1 := by
  induction typos generalizing acc with
  | nil => exact ⟨List.not_mem_nil, h⟩
  | cons typo typos ih =>
    obtain ⟨htypo, htypos⟩ := List.forall_mem_cons.1 htypos
    obtain ⟨hnot, hin⟩ := ih htypos h
    dsimp only at hin
    rw [fst_correct htypo] at hin
    obtain ⟨hkf, hfk⟩ := not_prefix_right hk htypo
    obtain ⟨hne, hin⟩ := (isControl_of_mem hk).1.infix_replaceAll (isControl_of_mem htypo).1
      (isControl_of_mem htypo).2 hkf hfk hin
    refine ⟨fun hmem => ?_, hin⟩
    rcases List.mem_cons.1 hmem with rfl | hmem
    · exact hne rfl
    · exact hnot hmem

theorem spelled_iff : Spelled t ↔ ∀ typo ∈ all, ¬typo.wrong <:+: t :=
  forall₂_congr fun _ _ => by rw [← contains_iff_infix, Bool.not_eq_true]

/-- No misspelling is left when all are corrected. -/
theorem spelled_correctAll (t : Text) : Spelled (correctAll t).1 :=
  spelled_iff.2 fun _ hk h => (infix_foldl_correct (fun _ => id) hk h).1 hk

theorem correctAll_of_spelled (h : Spelled t) : correctAll t = (t, []) := by
  have hfold : ∀ typos : List Typo, (∀ typo ∈ typos, typo ∈ all) →
      typos.foldl (fun (acc : Text × List Correction) typo =>
        ((typo.correct acc.1).1, acc.2 ++ (typo.correct acc.1).2)) (t, []) = (t, []) := by
    intro typos htypos
    induction typos with
    | nil => rfl
    | cons typo typos ih =>
      obtain ⟨htypo, htypos⟩ := List.forall_mem_cons.1 htypos
      have hcount := (countOccurrences_eq_zero_iff (wrong_ne_nil htypo)).2
        (spelled_iff.1 h typo htypo)
      have hcorrect : typo.correct t = (t, []) := by
        rw [correct]
        exact if_pos hcount
      rw [List.foldl_cons, hcorrect]
      exact ih htypos
  exact hfold all fun _ => id

end Typo

end LatexRepair
