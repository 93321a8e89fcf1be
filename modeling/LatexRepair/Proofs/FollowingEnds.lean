import LatexRepair.Proofs.DuplicateEnds
import Mathlib.Data.List.Infix

/-!
# Ends that follow another one

An end of the document follows another one where only a separator stands between them
(`Terminator.follows`). A collapse leaves out one that does, and a piece of white space with it
(`Terminator.LeavesOut`). Of all other ends, each follows another one in what is left exactly if it
did before (`Terminator.LeavesOut.trails_iff`) : an end behind the one that is left out follows the
end before that, and where the whole piece was in a comment the comment still goes on.
-/

namespace LatexRepair

open Terminator

/-! ## Borders -/

/-- The text ends with its line or with a closing brace. -/
def EndsWord (a : Text) : Prop :=
  a.getLast? = some '}' ∨ a.getLast? = some '\n'

namespace EndsWord

variable {a : Text}

theorem ne_nil (h : EndsWord a) : a ≠ [] := by
  rintro rfl
  exact h.elim nofun nofun

theorem border (h : EndsWord a) {w : Text} (hbrace : '}' ∉ w.dropLast) (hline : '\n' ∉ w) :
    ∀ c ∈ a.getLast?, c ∉ w.dropLast := by
  intro c hc hmem
  rcases h with hlast | hlast <;> rw [hlast] at hc <;> obtain rfl := Option.some.inj hc
  · exact hbrace hmem
  · exact hline (List.mem_of_mem_dropLast hmem)

theorem border_terminator (h : EndsWord a) : ∀ c ∈ a.getLast?, c ∉ terminator.dropLast :=
  h.border (by decide) (by decide)

end EndsWord

/-- A word of which only the last character may be the last one of `f` is on one side of the border
behind `f`. -/
theorem Text.word_append_cases {f r g w b : Text} (hf : ∀ c ∈ f.getLast?, c ∉ w.dropLast)
    (h : f ++ r = g ++ (w ++ b)) :
    (∃ k, f = g ++ (w ++ k) ∧ b = k ++ r) ∨ ∃ k, g = f ++ k ∧ r = k ++ (w ++ b) := by
  rcases List.append_eq_append_iff.1 h with ⟨k, rfl, rfl⟩ | ⟨k, rfl, hk⟩
  · exact .inr ⟨k, rfl, rfl⟩
  · rcases List.append_eq_append_iff.1 hk with ⟨k', rfl, rfl⟩ | ⟨k', rfl, rfl⟩
    · exact .inl ⟨k', rfl, rfl⟩
    · rcases List.eq_nil_or_concat k with rfl | ⟨k, c, rfl⟩
      · exact .inr ⟨[], by simp, by simp⟩
      · rcases eq_or_ne k' [] with rfl | hne
        · exact .inl ⟨[], by simp, by simp⟩
        · refine absurd ?_ (hf c (by simp))
          rw [List.dropLast_append_of_ne_nil hne]
          simp

/-- It is before the border if it starts there. -/
theorem Text.prefix_of_prefix_append {f r w : Text} (hf : ∀ c ∈ f.getLast?, c ∉ w.dropLast)
    (hne : f ≠ []) (h : w <+: f ++ r) : w <+: f := by
  obtain ⟨b, hb⟩ := h
  rcases Text.word_append_cases (g := []) hf hb.symm with ⟨k, hk, -⟩ | ⟨k, hk, -⟩
  · exact ⟨k, hk.symm⟩
  · exact absurd (List.append_eq_nil_iff.1 hk.symm).1 hne

namespace Terminator

variable {s g h b r t u : Text}

/-! ## Separators in two parts -/

/-- The text ends in a comment behind a separator. -/
def OpensComment (g : Text) : Prop :=
  ∃ k w, g = k ++ '%' :: w ∧ IsSeparator k ∧ '\n' ∉ w

/-- The text ends the comment that it starts in, and is a separator from there on. -/
def ClosesComment (h : Text) : Prop :=
  ∃ w k, h = w ++ '\n' :: k ∧ '\n' ∉ w ∧ IsSeparator k

theorem OpensComment.append (hg : OpensComment g) (hh : ClosesComment h) :
    IsSeparator (g ++ h) := by
  obtain ⟨k, w, rfl, hk, hw⟩ := hg
  obtain ⟨w', k', rfl, hw', hk'⟩ := hh
  have hcomment : '\n' ∉ w ++ w' := by simp [hw, hw']
  have hjoin : k ++ '%' :: w ++ (w' ++ '\n' :: k') = k ++ '%' :: (w ++ w' ++ '\n' :: k') := by simp
  rw [hjoin]
  exact hk.append (.comment hcomment hk')

/-- A separator in front of it goes on in it. -/
theorem OpensComment.behind (hs : IsSeparator s) (hg : OpensComment g) : OpensComment (s ++ g) := by
  obtain ⟨k, w, rfl, hk, hw⟩ := hg
  exact ⟨s ++ k, w, (List.append_assoc ..).symm, hs.append hk, hw⟩

theorem OpensComment.getLast?_ne (hg : OpensComment g) (s : Text) :
    (s ++ g).getLast? ≠ some '\n' := by
  obtain ⟨k, w, rfl, -, hw⟩ := hg
  rw [← List.append_assoc, List.getLast?_append_of_ne_nil _ (List.cons_ne_nil _ _)]
  intro hlast
  have hmem := List.mem_of_getLast? hlast
  rcases List.mem_cons.1 hmem with h | h
  · cases h
  · exact hw h

theorem closesComment_append_iff {w : Text} (hw : '\n' ∉ w) :
    ClosesComment (w ++ h) ↔ ClosesComment h := by
  constructor
  · rintro ⟨v, k, heq, hv, hk⟩
    rcases List.append_eq_append_iff.1 heq with ⟨d, rfl, rfl⟩ | ⟨d, rfl, hd⟩
    · exact ⟨d, k, rfl, fun h => hv (by simp [h]), hk⟩
    · cases d with
      | nil => exact ⟨[], k, hd.symm, by simp, hk⟩
      | cons c d =>
        obtain ⟨rfl, -⟩ := List.cons.inj hd
        exact absurd (by simp) hw
  · rintro ⟨v, k, rfl, hv, hk⟩
    exact ⟨w ++ v, k, by simp, by simp [hw, hv], hk⟩

/-- A separator is cut between two separators or in a comment. -/
theorem IsSeparator.append_cases (hs : IsSeparator (g ++ h)) (hr : '\r' ∉ g) :
    IsSeparator g ∧ IsSeparator h ∨ OpensComment g ∧ ClosesComment h := by
  generalize ht : g ++ h = t at hs
  have hnil : ∀ {t : Text}, IsSeparator t → [] ++ h = t →
      IsSeparator [] ∧ IsSeparator h ∨ OpensComment [] ∧ ClosesComment h := fun hs ht =>
    .inl ⟨.nil, by rwa [← ht] at hs⟩
  induction hs generalizing g with
  | nil =>
    obtain ⟨rfl, rfl⟩ := List.append_eq_nil_iff.1 ht
    exact .inl ⟨.nil, .nil⟩
  | @blank c t hc hs ih =>
    cases g with
    | nil => exact hnil (.blank hc hs) ht
    | cons d g =>
      obtain ⟨rfl, htail⟩ := List.cons.inj ht
      exact (ih (fun h => hr (List.mem_cons_of_mem _ h)) htail).imp (And.imp_left (.blank hc))
        (And.imp_left (.behind (.blank hc .nil)))
  | @newline t hs ih =>
    cases g with
    | nil => exact hnil (.newline hs) ht
    | cons d g =>
      obtain ⟨rfl, htail⟩ := List.cons.inj ht
      exact (ih (fun h => hr (List.mem_cons_of_mem _ h)) htail).imp (And.imp_left .newline)
        (And.imp_left (.behind (.newline .nil)))
  | @crlf t hs ih =>
    cases g with
    | nil => exact hnil (.crlf hs) ht
    | cons d g =>
      obtain ⟨rfl, -⟩ := List.cons.inj ht
      exact absurd (List.mem_cons_self ..) hr
  | @comment w t hw hs ih =>
    cases g with
    | nil => exact hnil (.comment hw hs) ht
    | cons d g =>
      obtain ⟨rfl, htail⟩ := List.cons.inj ht
      rcases List.append_eq_append_iff.1 htail with ⟨v, rfl, rfl⟩ | ⟨v, rfl, hv⟩
      · exact .inr ⟨⟨[], g, rfl, .nil, fun h => hw (by simp [h])⟩,
          ⟨v, t, rfl, fun h => hw (by simp [h]), hs⟩⟩
      · cases v with
        | nil =>
          rw [List.append_nil]
          exact .inr ⟨⟨[], w, rfl, .nil, hw⟩, ⟨[], t, hv.symm, by simp, hs⟩⟩
        | cons c v =>
          obtain ⟨rfl, hrest⟩ := List.cons.inj hv
          have hr' : '\r' ∉ v := fun h => hr (by simp [h])
          have hcomment : '%' :: (w ++ '\n' :: v) = '%' :: (w ++ ['\n']) ++ v := by simp
          refine (ih hr' hrest.symm).imp (And.imp_left (.comment hw)) (And.imp_left fun hv => ?_)
          rw [hcomment]
          exact .behind (.comment hw .nil) hv

/-! ## Ends that follow another one -/

/-- Only a separator stands between an end of the document and the end of the text. -/
def Trails (s : Text) : Prop :=
  ∃ a gap, IsSeparator gap ∧ s = a ++ (terminator ++ gap)

/-- The same as it is decided, in a text without carriage returns. -/
def trails (s : Text) : Bool :=
  s.tails.any fun q => (Text.strip? terminator q).any fun gap =>
    decide ((splitGap false (gap ++ terminator)).2 = terminator)

theorem trails_eq_true_iff (hr : '\r' ∉ s) : trails s = true ↔ Trails s := by
  simp only [trails, List.any_eq_true, List.mem_tails, Option.any_eq_true, decide_eq_true_eq,
    Text.strip?_eq_some_iff]
  constructor
  · rintro ⟨q, ⟨a, rfl⟩, gap, rfl, hgap⟩
    have hsplit := splitGap_append false (gap ++ terminator)
    rw [hgap] at hsplit
    have hsep : IsSeparator (splitGap false (gap ++ terminator)).1 :=
      isSeparator_splitGap false _ (by rw [hgap]; decide)
    rw [List.append_cancel_right hsplit] at hsep
    exact ⟨a, gap, hsep, rfl⟩
  · rintro ⟨a, gap, hgap, rfl⟩
    have hreturn : '\r' ∉ gap := fun h => hr (by simp [h])
    refine ⟨terminator ++ gap, ⟨a, rfl⟩, gap, rfl, ?_⟩
    rw [splitGap_of_isSeparator hgap hreturn]
    rfl

/-- An end of the document starts behind `b`, and only a separator is between it and an end
before it. -/
def follows (b r : Text) : Bool :=
  trails b && terminator.isPrefixOf r

theorem follows_iff (hr : '\r' ∉ b) : follows b r = true ↔ Trails b ∧ terminator <+: r := by
  rw [follows, Bool.and_eq_true, trails_eq_true_iff hr, List.isPrefixOf_iff_prefix]

theorem hasDuplicate_of_follows (hr : '\r' ∉ b) (h : follows b r = true) :
    HasDuplicate (b ++ r) := by
  obtain ⟨⟨a, gap, hgap, rfl⟩, ⟨r, rfl⟩⟩ := (follows_iff hr).1 h
  exact ⟨a, gap, r, hgap, by simp⟩

/-! ## What a collapse leaves out -/

/-- A collapse may leave out the piece behind the front. -/
structure LeavesOut (front piece : Text) : Prop where
  trails : Trails front
  last : EndsWord front
  piece_eq : ∃ blanks lineBreak, piece = blanks ++ (terminator ++ lineBreak) ∧
    (∀ c ∈ blanks, isSpaceOrTab c = true) ∧
    (lineBreak = [] ∨ lineBreak = ['\n'] ∧ front.getLast? = some '\n')

theorem DropsEnd.exists_leavesOut (h : DropsEnd t u) :
    ∃ front piece b, LeavesOut front piece ∧ t = front ++ (piece ++ b) ∧ u = front ++ b := by
  obtain ⟨a, kept, blanks, lineBreak, b, hkept, hline, hblanks, hbreak⟩ := h
  refine ⟨a ++ (terminator ++ kept), blanks ++ (terminator ++ lineBreak), b,
    ⟨⟨a, kept, hkept, rfl⟩, ?_, blanks, lineBreak, rfl, hblanks, ?_⟩, by simp, by simp⟩
  · rcases hline with rfl | hline
    · rw [List.append_nil]
      exact .inl (List.getLast?_append_of_ne_nil _ (by decide))
    · refine .inr ?_
      rw [List.getLast?_append, List.getLast?_append, hline]
      rfl
  · refine hbreak.imp_right (And.imp_right fun hlast => ?_)
    rw [List.getLast?_append, List.getLast?_append, hlast]
    rfl

namespace LeavesOut

variable {front piece : Text}

theorem endsWord_piece (h : LeavesOut front piece) : EndsWord piece := by
  obtain ⟨blanks, lineBreak, rfl, -, rfl | ⟨rfl, -⟩⟩ := h.piece_eq
  · rw [List.append_nil]
    exact .inl (List.getLast?_append_of_ne_nil _ (by decide))
  · exact .inr (List.getLast?_append_of_ne_nil _ (by decide))

theorem percent_not_mem (h : LeavesOut front piece) : '%' ∉ piece := by
  obtain ⟨blanks, lineBreak, rfl, hblanks, hbreak⟩ := h.piece_eq
  have hblank : '%' ∉ blanks := fun hmem => by cases hblanks _ hmem
  have hend : '%' ∉ terminator := by decide
  rcases hbreak with rfl | ⟨rfl, -⟩ <;> simp [hblank, hend]

/-- Behind a front that does not end its line the piece does not end it either. -/
theorem newline_not_mem (h : LeavesOut front piece) (hlast : front.getLast? ≠ some '\n') :
    '\n' ∉ piece := by
  obtain ⟨blanks, lineBreak, rfl, hblanks, hbreak⟩ := h.piece_eq
  have hblank : '\n' ∉ blanks := fun hmem => by cases hblanks _ hmem
  have hend : '\n' ∉ terminator := by decide
  rcases hbreak with rfl | ⟨-, hline⟩
  · simp [hblank, hend]
  · exact absurd hline hlast

/-- A comment goes on over the piece. -/
theorem closesComment_append_iff (h : LeavesOut front piece) (hfront : front = s ++ g)
    (hg : OpensComment g) (b : Text) : ClosesComment (piece ++ b) ↔ ClosesComment b :=
  Terminator.closesComment_append_iff (h.newline_not_mem (hfront ▸ hg.getLast?_ne s))

/-- The piece is no separator, and does not start one. -/
theorem not_isSeparator (h : LeavesOut front piece) (b : Text) : ¬IsSeparator (piece ++ b) := by
  obtain ⟨blanks, lineBreak, rfl, hblanks, -⟩ := h.piece_eq
  clear h
  rw [List.append_assoc]
  induction blanks with
  | nil =>
    intro hsep
    cases hsep with
    | blank hc _ => cases hc
  | cons c blanks ih =>
    obtain ⟨hc, hblanks⟩ := List.forall_mem_cons.1 hblanks
    have hrest := ih hblanks
    rw [List.cons_append]
    generalize blanks ++ (terminator ++ lineBreak ++ b) = r at hrest
    intro hsep
    cases hsep with
    | blank _ hsep => exact hrest hsep
    | newline | crlf | comment => cases hc

/-- Whether only a separator stands behind an end does not depend on the piece : without it the end
before it takes the place of the one in it. -/
theorem trails_iff (h : LeavesOut front piece) (hr : '\r' ∉ front ++ piece) (b : Text) :
    Trails (front ++ (piece ++ b)) ↔ Trails (front ++ b) := by
  have hfront : '\r' ∉ front := fun hmem => hr (by simp [hmem])
  have hpiece : '\r' ∉ piece := fun hmem => hr (by simp [hmem])
  constructor
  · rintro ⟨a, gap, hgap, heq⟩
    rcases Text.word_append_cases h.last.border_terminator heq with ⟨k, rfl, rfl⟩ | ⟨k, rfl, hword⟩
    · -- The separator goes on over the piece, which is in a comment then.
      rcases hgap.append_cases (fun hmem => hfront (by simp [hmem])) with ⟨-, hsep⟩ | ⟨hk, hrest⟩
      · exact absurd hsep (h.not_isSeparator b)
      · have hb := (h.closesComment_append_iff (List.append_assoc ..).symm hk b).1 hrest
        exact ⟨a, k ++ b, hk.append hb, by simp⟩
    · rcases Text.word_append_cases h.endsWord_piece.border_terminator hword with
        ⟨k', rfl, rfl⟩ | ⟨k', rfl, rfl⟩
      · have hb : IsSeparator b := by
          rcases hgap.append_cases (fun hmem => hpiece (by simp [hmem])) with
            ⟨-, hb⟩ | ⟨⟨d, w, rfl, -⟩, -⟩
          · exact hb
          · exact absurd (by simp) h.percent_not_mem
        obtain ⟨a', kept, hkept, rfl⟩ := h.trails
        exact ⟨a', kept ++ b, hkept.append hb, by simp⟩
      · exact ⟨front ++ k', gap, hgap, by simp⟩
  · rintro ⟨a, gap, hgap, heq⟩
    rcases Text.word_append_cases h.last.border_terminator heq with ⟨k, rfl, rfl⟩ | ⟨k, rfl, rfl⟩
    · rcases hgap.append_cases (fun hmem => hfront (by simp [hmem])) with ⟨-, hsep⟩ | ⟨hk, hrest⟩
      · obtain ⟨blanks, lineBreak, rfl, -, hbreak⟩ := h.piece_eq
        refine ⟨a ++ (terminator ++ k) ++ blanks, lineBreak ++ b, ?_, by simp⟩
        rcases hbreak with rfl | ⟨rfl, -⟩
        · exact hsep
        · exact .newline hsep
      · have hb := (h.closesComment_append_iff (List.append_assoc ..).symm hk b).2 hrest
        exact ⟨a, k ++ (piece ++ b), hk.append hb, by simp⟩
    · exact ⟨front ++ (piece ++ k), gap, hgap, by simp⟩

end LeavesOut

end Terminator

end LatexRepair
