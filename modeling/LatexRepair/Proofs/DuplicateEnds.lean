import LatexRepair.Terminator
import LatexRepair.Proofs.Search
import Mathlib.Logic.Relation

/-!
# Duplicate ends of the document

Which ends of a document are collapsed, and what is left of them. Two ends are duplicates where
only blank lines, spaces and comments that end with their line separate them
(`Terminator.IsSeparator`). Each collapse takes the second of two duplicates out of the text, with
the spaces and tabs in front of it or the newline behind it, and nothing else
(`Terminator.DropsEnd`). In a text without carriage returns duplicates are found wherever they
are (`Terminator.collapseOne?_eq_none_iff`), so at the end of all collapses there are none
(`Terminator.not_hasDuplicate_collapse`).
-/

namespace LatexRepair

namespace Terminator

open Relation

variable {t u gap rest : Text}

/-! ## Separators -/

/-- What may stand between duplicates : white space and comments, each with its line break. -/
inductive IsSeparator : Text → Prop where
  | nil : IsSeparator []
  | blank {c : Char} {t : Text} (hc : isSpaceOrTab c = true) (h : IsSeparator t) :
      IsSeparator (c :: t)
  | newline {t : Text} (h : IsSeparator t) : IsSeparator ('\n' :: t)
  | crlf {t : Text} (h : IsSeparator t) : IsSeparator ('\r' :: '\n' :: t)
  | comment {w t : Text} (hw : '\n' ∉ w) (h : IsSeparator t) :
      IsSeparator ('%' :: (w ++ '\n' :: t))

theorem IsSeparator.append {s : Text} (hs : IsSeparator s) (ht : IsSeparator t) :
    IsSeparator (s ++ t) := by
  induction hs with
  | nil => exact ht
  | blank hc _ ih => exact .blank hc ih
  | newline _ ih => exact .newline ih
  | crlf _ ih => exact .crlf ih
  | comment hw _ ih =>
    rw [List.cons_append, List.append_assoc]
    exact .comment hw ih

theorem isSeparator_blanks {s : Text} (hs : ∀ c ∈ s, isSpaceOrTab c = true) : IsSeparator s := by
  induction s with
  | nil => exact .nil
  | cons c s ih =>
    obtain ⟨hc, hs⟩ := List.forall_mem_cons.1 hs
    exact .blank hc (ih hs)

/-- A separator ends with a line break and the spaces and tabs behind it, or has no line break. -/
theorem IsSeparator.exists_lines (h : IsSeparator t) :
    ∃ kept blanks, t = kept ++ blanks ∧ IsSeparator kept ∧
      (kept = [] ∨ kept.getLast? = some '\n') ∧ ∀ c ∈ blanks, isSpaceOrTab c = true := by
  have hlast : ∀ {s kept : Text}, s.getLast? = some '\n' →
      (kept = [] ∨ kept.getLast? = some '\n') →
      s ++ kept = [] ∨ (s ++ kept).getLast? = some '\n' := fun {s kept} hs hkept => by
    rcases hkept with rfl | hkept
    · rw [List.append_nil]
      exact .inr hs
    · exact .inr (by rw [List.getLast?_append, hkept]; rfl)
  induction h with
  | nil => exact ⟨[], [], rfl, .nil, .inl rfl, by simp⟩
  | @blank c _ hc _ ih =>
    obtain ⟨kept, blanks, rfl, hkept, hline, hblanks⟩ := ih
    rcases hline with rfl | hline
    · exact ⟨[], c :: blanks, rfl, .nil, .inl rfl, List.forall_mem_cons.2 ⟨hc, hblanks⟩⟩
    · refine ⟨c :: kept, blanks, rfl, .blank hc hkept, .inr ?_, hblanks⟩
      rw [List.getLast?_cons, hline]
      rfl
  | newline _ ih =>
    obtain ⟨kept, blanks, rfl, hkept, hline, hblanks⟩ := ih
    exact ⟨'\n' :: kept, blanks, rfl, .newline hkept, hlast (s := ['\n']) rfl hline, hblanks⟩
  | crlf _ ih =>
    obtain ⟨kept, blanks, rfl, hkept, hline, hblanks⟩ := ih
    exact ⟨'\r' :: '\n' :: kept, blanks, rfl, .crlf hkept, hlast (s := ['\r', '\n']) rfl hline,
      hblanks⟩
  | @comment w _ hw _ ih =>
    obtain ⟨kept, blanks, rfl, hkept, hline, hblanks⟩ := ih
    refine ⟨'%' :: (w ++ '\n' :: kept), blanks, by simp, .comment hw hkept, ?_, hblanks⟩
    have hw : ('%' :: (w ++ ['\n'])).getLast? = some '\n' := List.getLast?_concat (l := '%' :: w)
    rw [← List.singleton_append (x := '\n'), ← List.append_assoc, ← List.cons_append]
    exact hlast hw hline

/-! ## The longest separator in front of a text -/

theorem splitGap_comment {w : Text} (hw : '\n' ∉ w) (t : Text) :
    splitGap true (w ++ '\n' :: t) = (w ++ '\n' :: (splitGap false t).1, (splitGap false t).2) := by
  induction w with
  | nil => rfl
  | cons c w ih =>
    rw [List.mem_cons, not_or] at hw
    have hc : (decide (c ≠ '\n')) = true := by simpa using Ne.symm hw.1
    rw [List.cons_append, splitGap, if_pos rfl, hc, ih hw.2]
    rfl

theorem splitGap_of_isSeparator {s : Text} (hs : IsSeparator s) (hr : '\r' ∉ s) (t : Text) :
    splitGap false (s ++ t) = (s ++ (splitGap false t).1, (splitGap false t).2) := by
  induction hs with
  | nil => rfl
  | blank hc _ ih =>
    rw [List.mem_cons, not_or] at hr
    rw [List.cons_append, splitGap, if_neg Bool.false_ne_true, if_pos (by simp [hc]), ih hr.2]
    rfl
  | newline _ ih =>
    rw [List.mem_cons, not_or] at hr
    rw [List.cons_append, splitGap, if_neg Bool.false_ne_true, if_pos (by simp), ih hr.2]
    rfl
  | crlf _ _ => simp at hr
  | @comment w s hw _ ih =>
    have hr : '\r' ∉ s := fun h => hr (by simp [h])
    rw [List.cons_append, List.append_assoc, List.cons_append, splitGap,
      if_neg Bool.false_ne_true, if_neg (by decide), if_pos rfl, splitGap_comment hw, ih hr]
    simp

/-- Where a gap ends before the end of the text it is a separator, or the rest of a comment and a
separator. -/
theorem isSeparator_splitGap (inComment : Bool) (t : Text)
    (h : (splitGap inComment t).2 ≠ []) :
    if inComment then ∃ w s, '\n' ∉ w ∧ IsSeparator s ∧ (splitGap true t).1 = w ++ '\n' :: s
    else IsSeparator (splitGap false t).1 := by
  induction t generalizing inComment with
  | nil => exact absurd rfl h
  | cons c t ih =>
    cases inComment with
    | true =>
      rw [splitGap, if_pos rfl] at h
      rw [if_pos rfl, splitGap, if_pos rfl]
      by_cases hc : c = '\n'
      · subst hc
        exact ⟨[], _, by simp, ih false h, rfl⟩
      · have htrue : (decide (c ≠ '\n')) = true := by simpa using hc
        rw [htrue] at h ⊢
        obtain ⟨w, s, hw, hs, hgap⟩ := ih true h
        refine ⟨c :: w, s, by simp [hw, Ne.symm hc], hs, ?_⟩
        dsimp only
        rw [hgap]
        rfl
    | false =>
      rw [splitGap, if_neg Bool.false_ne_true] at h
      rw [if_neg Bool.false_ne_true, splitGap, if_neg Bool.false_ne_true]
      split at h
      · rename_i hblank
        rw [if_pos hblank]
        rw [Bool.or_eq_true, decide_eq_true_iff] at hblank
        rcases hblank with hc | rfl
        · exact .blank hc (ih false h)
        · exact .newline (ih false h)
      · rename_i hblank
        rw [if_neg hblank]
        split at h
        · rename_i hp
          subst hp
          obtain ⟨w, s, hw, hs, hgap⟩ := ih true h
          rw [if_pos rfl]
          dsimp only
          rw [hgap]
          exact .comment hw hs
        · rename_i hp
          rw [if_neg hp]
          exact .nil

/-! ## Collapses -/

/-- Two ends of the document with only a separator between them. -/
def HasDuplicate (t : Text) : Prop :=
  ∃ a gap b, IsSeparator gap ∧ t = a ++ (terminator ++ (gap ++ (terminator ++ b)))

theorem HasDuplicate.append (h : HasDuplicate t) (s : Text) : HasDuplicate (t ++ s) := by
  obtain ⟨a, gap, b, hgap, rfl⟩ := h
  exact ⟨a, gap, b ++ s, hgap, by simp⟩

/-- One text is the other one without the second of two duplicates : lines of white space and
comments stay between the first one and what follows, and only the spaces and tabs of the line of
the second one and, behind such lines, the newline that ends its own may go with it. -/
inductive DropsEnd : Text → Text → Prop where
  | intro (a kept blanks lineBreak b : Text) (hkept : IsSeparator kept)
      (hline : kept = [] ∨ kept.getLast? = some '\n')
      (hblanks : ∀ c ∈ blanks, isSpaceOrTab c = true)
      (hbreak : lineBreak = [] ∨ lineBreak = ['\n'] ∧ kept.getLast? = some '\n') :
      DropsEnd (a ++ (terminator ++ (kept ++ (blanks ++ (terminator ++ (lineBreak ++ b))))))
        (a ++ (terminator ++ (kept ++ b)))

theorem DropsEnd.append_left (h : DropsEnd t u) (a : Text) : DropsEnd (a ++ t) (a ++ u) := by
  obtain ⟨a', kept, blanks, lineBreak, b, hkept, hline, hblanks, hbreak⟩ := h
  rw [← List.append_assoc a a', ← List.append_assoc a a']
  exact .intro (a ++ a') kept blanks lineBreak b hkept hline hblanks hbreak

theorem DropsEnd.hasDuplicate (h : DropsEnd t u) : HasDuplicate t := by
  obtain ⟨a, kept, blanks, lineBreak, b, hkept, -, hblanks, -⟩ := h
  exact ⟨a, kept ++ blanks, lineBreak ++ b, hkept.append (isSeparator_blanks hblanks), by simp⟩

theorem DropsEnd.sublist (h : DropsEnd t u) : u.Sublist t := by
  obtain ⟨a, kept, blanks, lineBreak, b, -, -, -, -⟩ := h
  refine (List.Sublist.refl a).append
    ((List.Sublist.refl _).append ((List.Sublist.refl _).append ?_))
  exact ((List.sublist_append_right lineBreak b).trans (List.sublist_append_right _ _)).trans
    (List.sublist_append_right _ _)

/-- What is kept of a separator and the text behind it. -/
theorem exists_keptGap (hgap : IsSeparator gap) (rest : Text) :
    ∃ kept blanks lineBreak b, gap = kept ++ blanks ∧ rest = lineBreak ++ b ∧
      keptGap gap rest = kept ++ b ∧ IsSeparator kept ∧
      (kept = [] ∨ kept.getLast? = some '\n') ∧ (∀ c ∈ blanks, isSpaceOrTab c = true) ∧
      (lineBreak = [] ∨ lineBreak = ['\n'] ∧ kept.getLast? = some '\n') := by
  rw [keptGap]
  split
  · rename_i hlast
    split
    · rename_i hhead
      obtain ⟨b, rfl⟩ := List.head?_eq_some_iff.1 hhead
      exact ⟨gap, [], ['\n'], b, by simp, rfl, by simp, hgap, .inr hlast, by simp,
        .inr ⟨rfl, hlast⟩⟩
    · exact ⟨gap, [], [], rest, by simp, rfl, rfl, hgap, .inr hlast, by simp, .inl rfl⟩
  · obtain ⟨kept, blanks, rfl, hkept, hline, hblanks⟩ := hgap.exists_lines
    refine ⟨kept, blanks, [], rest, rfl, rfl, ?_, hkept, hline, hblanks, .inl rfl⟩
    have hblanks' : ∀ c ∈ blanks.reverse, isSpaceOrTab c = true := fun c hc =>
      hblanks c (List.mem_reverse.1 hc)
    congr 1
    rw [Text.trimEndBy, List.reverse_append, List.dropWhile_append_of_pos hblanks']
    rcases hline with rfl | hline
    · rfl
    · obtain ⟨s, rfl⟩ := List.getLast?_eq_some_iff.1 hline
      rw [List.reverse_append, List.reverse_singleton, List.singleton_append,
        List.dropWhile_cons_of_neg (by decide), List.reverse_cons, List.reverse_reverse]

theorem of_collapseAt? (h : collapseAt? t = some u) : DropsEnd t u := by
  obtain ⟨behind, hbehind, h⟩ := Option.bind_eq_some_iff.1 h
  obtain ⟨rest, hrest, h⟩ := Option.bind_eq_some_iff.1 h
  obtain rfl := Option.some.inj h
  rw [Text.strip?_eq_some_iff] at hbehind hrest
  have hgap : IsSeparator (splitGap false behind).1 := isSeparator_splitGap false behind (by
    rw [hrest]
    exact List.append_ne_nil_of_left_ne_nil (by decide) _)
  have hsplit := splitGap_append false behind
  obtain ⟨kept, blanks, lineBreak, b, hk, rfl, hkeptGap, hkept, hline, hblanks, hbreak⟩ :=
    exists_keptGap hgap rest
  rw [hbehind, hkeptGap, ← hsplit, hrest, hk, List.append_assoc]
  exact .intro [] kept blanks lineBreak b hkept hline hblanks hbreak

/-- Duplicates at the start of a text are collapsed. -/
theorem collapseAt?_duplicate (hgap : IsSeparator gap) (hr : '\r' ∉ gap) (b : Text) :
    collapseAt? (terminator ++ (gap ++ (terminator ++ b))) =
      some (terminator ++ keptGap gap b) := by
  have hsplit : splitGap false (gap ++ (terminator ++ b)) = (gap, terminator ++ b) := by
    rw [splitGap_of_isSeparator hgap hr]
    have hstop : splitGap false (terminator ++ b) = ([], terminator ++ b) := rfl
    rw [hstop, List.append_nil]
  rw [collapseAt?, Text.strip?_eq_some_iff.2 rfl, Option.bind_eq_bind, Option.bind_some, hsplit,
    Text.strip?_eq_some_iff.2 rfl]
  rfl

theorem of_collapseOne? (h : collapseOne? t = some u) : DropsEnd t u := by
  obtain ⟨a, s, v, rfl, rfl, hat⟩ := exists_of_collapseOne? h
  exact (of_collapseAt? hat).append_left a

theorem collapseOne?_of_collapseAt? (h : collapseAt? t = some u) : collapseOne? t = some u := by
  cases t with
  | nil => cases h
  | cons c t => rw [collapseOne?, h]

/-- In a text without carriage returns duplicates are found wherever they are. -/
theorem collapseOne?_eq_none_iff (hr : '\r' ∉ t) :
    collapseOne? t = none ↔ ¬HasDuplicate t := by
  constructor
  · rintro hnone ⟨a, gap, b, hgap, rfl⟩
    have hgapReturn : '\r' ∉ gap := fun h => hr (by simp [h])
    induction a with
    | nil =>
      have hat := collapseAt?_duplicate hgap hgapReturn b
      cases hnone.symm.trans (collapseOne?_of_collapseAt? hat)
    | cons c a ih =>
      rw [List.cons_append, collapseOne?] at hnone
      split at hnone
      · cases hnone
      · exact ih (fun h => hr (List.mem_cons_of_mem c h)) (Option.map_eq_none_iff.1 hnone)
  · exact fun h => Option.eq_none_iff_forall_ne_some.2 fun u hu =>
      h (of_collapseOne? hu).hasDuplicate

/-! ## All collapses -/

theorem collapse_of_none (h : collapseOne? t = none) : collapse t = (t, 0) := by
  rw [collapse]
  split
  · rfl
  · rename_i hsome
    rw [h] at hsome
    cases hsome

theorem collapse_of_some (h : collapseOne? t = some u) :
    collapse t = ((collapse u).1, (collapse u).2 + 1) := by
  rw [collapse]
  split
  · rename_i hnone
    rw [h] at hnone
    cases hnone
  · rename_i hsome
    rw [h] at hsome
    cases hsome
    rfl

/-- What holds of a text and is kept by a collapse holds when all collapses are done. -/
theorem collapse_induction {motive : Text → Text → Prop}
    (rest : ∀ t, collapseOne? t = none → motive t t)
    (step : ∀ t u v, collapseOne? t = some u → motive u v → motive t v) (t : Text) :
    motive t (collapse t).1 := by
  induction hn : t.length using Nat.strongRecOn generalizing t with
  | _ n ih =>
    cases hone : collapseOne? t with
    | none =>
      rw [collapse_of_none hone]
      exact rest t hone
    | some u =>
      rw [collapse_of_some hone]
      exact step t u _ hone (ih _ (hn ▸ length_collapseOne_lt hone) u rfl)

theorem reflTransGen_collapse (t : Text) : ReflTransGen DropsEnd t (collapse t).1 :=
  collapse_induction (motive := ReflTransGen DropsEnd) (fun _ _ => .refl)
    (fun _ _ _ hone h => .head (of_collapseOne? hone) h) t

theorem collapseOne?_collapse (t : Text) : collapseOne? (collapse t).1 = none :=
  collapse_induction (motive := fun _ v => collapseOne? v = none) (fun _ h => h)
    (fun _ _ _ _ h => h) t

theorem sublist_collapse (t : Text) : (collapse t).1.Sublist t :=
  collapse_induction (motive := fun t v => v.Sublist t) (fun t _ => List.Sublist.refl t)
    (fun _ _ _ hone h => h.trans (of_collapseOne? hone).sublist) t

theorem not_hasDuplicate_collapse (hr : '\r' ∉ t) : ¬HasDuplicate (collapse t).1 :=
  (collapseOne?_eq_none_iff fun h => hr ((sublist_collapse t).subset h)).1
    (collapseOne?_collapse t)

/-- Each collapse shortens the text, so collapses come to an end. -/
theorem wellFounded_collapseOne? : WellFounded fun u t => collapseOne? t = some u :=
  Subrelation.wf (fun h => length_collapseOne_lt h) (measure List.length).wf

end Terminator

end LatexRepair
