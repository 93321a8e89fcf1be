import LatexRepair.Proofs.Misspellings
import Mathlib.Data.List.Infix
import Mathlib.Tactic.Push

/-!
# Corrections at once

Misspellings are corrected one after another, each in the text that the corrections before it have
left. The outcome is that of correcting all of them at once, whatever their order, and each is
counted as often as it stands in the first text (`Typo.correctAll_atOnce`).

The reason is in the catalogue. Its entries are control words, so in the pieces of a text from one
backslash to the next (`Text.exists_pieces`) a misspelling can only stand at the start of a piece
(`Text.IsControl.prefix_append_flatten_iff`), and to correct it is to work piece by piece
(`Text.replaceAll_pieces`). No misspelling is the beginning of another one, and none is the
beginning of a correction or begins with one. So at most one of them stands at the start of a
piece, and none does where one has been corrected (`Typo.foldl_correctPiece_of_isPrefix`).
-/

namespace LatexRepair

namespace Text

variable {w f p s t a b : Text} {pieces : List Text}

/-! ## Pieces -/

/-- A text that starts with its only backslash. -/
def IsPiece (s : Text) : Prop :=
  ∃ r, s = '\\' :: r ∧ '\\' ∉ r

/-- A text is cut before its backslashes. -/
theorem exists_pieces (t : Text) :
    ∃ (p : Text) (pieces : List Text), t = p ++ pieces.flatten ∧ '\\' ∉ p ∧
      ∀ s ∈ pieces, IsPiece s := by
  induction t with
  | nil => exact ⟨[], [], rfl, List.not_mem_nil, fun _ h => absurd h List.not_mem_nil⟩
  | cons c t ih =>
    obtain ⟨p, pieces, rfl, hp, hpieces⟩ := ih
    by_cases hc : c = '\\'
    · subst hc
      exact ⟨[], ('\\' :: p) :: pieces, rfl, List.not_mem_nil,
        List.forall_mem_cons.2 ⟨⟨p, rfl, hp⟩, hpieces⟩⟩
    · refine ⟨c :: p, pieces, rfl, ?_, hpieces⟩
      rw [List.mem_cons, not_or]
      exact ⟨Ne.symm hc, hp⟩

/-- What follows a piece is empty or starts with a backslash. -/
theorem head_flatten_of_pieces (hpieces : ∀ s ∈ pieces, IsPiece s) {c : Char} {r : Text}
    (h : pieces.flatten = c :: r) : c = '\\' := by
  cases pieces with
  | nil => cases h
  | cons s pieces =>
    obtain ⟨r', rfl, -⟩ := hpieces s (List.mem_cons_self ..)
    exact (List.cons.inj h).1.symm

/-- A control word at the start of a piece does not go on in the next one. -/
theorem IsControl.prefix_append_flatten_iff (hw : IsControl w) (hs : IsPiece s)
    (hpieces : ∀ s ∈ pieces, IsPiece s) : w <+: s ++ pieces.flatten ↔ w <+: s := by
  refine ⟨fun h => ?_, fun h => h.trans (List.prefix_append ..)⟩
  rcases List.prefix_or_prefix_of_prefix h (List.prefix_append s pieces.flatten) with h' | ⟨x, rfl⟩
  · exact h'
  · cases x with
    | nil => rw [List.append_nil]
    | cons c x =>
      rw [List.prefix_append_right_inj] at h
      obtain ⟨y, hy⟩ := h
      obtain rfl := head_flatten_of_pieces hpieces hy.symm
      obtain ⟨r, rfl, -⟩ := hs
      exact absurd (List.mem_append_right r (List.mem_cons_self ..)) hw.2.1

theorem IsControl.startsWith_cons_of_ne (hw : IsControl w) {c : Char} (hc : c ≠ '\\') :
    startsWith w (c :: t) = false := by
  obtain ⟨w, rfl, -, -⟩ := hw.eq_cons
  rw [startsWith, List.isPrefixOf, beq_false_of_ne (Ne.symm hc), Bool.false_and]

theorem IsControl.startsWith_append_flatten (hw : IsControl w) (hs : IsPiece s)
    (hpieces : ∀ s ∈ pieces, IsPiece s) : startsWith w (s ++ pieces.flatten) = startsWith w s := by
  rw [Bool.eq_iff_iff, startsWith, startsWith, List.isPrefixOf_iff_prefix,
    List.isPrefixOf_iff_prefix, hw.prefix_append_flatten_iff hs hpieces]

/-- A control word that stands in a text stands at the start of a piece. -/
theorem IsControl.exists_piece (hw : IsControl w) (hp : '\\' ∉ p)
    (hpieces : ∀ s ∈ pieces, IsPiece s) (h : p ++ pieces.flatten = a ++ (w ++ b)) :
    ∃ before s after, pieces = before ++ s :: after ∧ w <+: s ∧ a = p ++ before.flatten := by
  induction pieces generalizing p a with
  | nil =>
    have hmem : '\\' ∈ p ++ [].flatten := by
      rw [h]
      exact List.mem_append_right _ (List.mem_append_left _ (List.mem_of_head? hw.1))
    rw [List.flatten_nil, List.append_nil] at hmem
    exact absurd hmem hp
  | cons s pieces ih =>
    obtain ⟨hs, hrest⟩ := List.forall_mem_cons.1 hpieces
    rcases List.append_eq_append_iff.1 h with ⟨a', rfl, ha⟩ | ⟨c, rfl, hc⟩
    · cases a' with
      | nil =>
        refine ⟨[], s, pieces, rfl, (hw.prefix_append_flatten_iff hs hrest).1 ⟨b, ha.symm⟩, rfl⟩
      | cons d a' =>
        obtain ⟨r, rfl, hr⟩ := hs
        rw [List.flatten_cons, List.cons_append, List.cons_append, List.cons.injEq] at ha
        obtain ⟨rfl, ha⟩ := ha
        obtain ⟨before, s, after, rfl, hstarts, rfl⟩ := ih hr hrest ha
        exact ⟨('\\' :: r) :: before, s, after, rfl, hstarts, by simp⟩
    · -- The word would start in the text before the first backslash.
      obtain ⟨w', rfl, -, -⟩ := hw.eq_cons
      cases c with
      | nil =>
        refine ⟨[], s, pieces, rfl, (hw.prefix_append_flatten_iff hs hrest).1 ⟨b, ?_⟩, by simp⟩
        simpa using hc
      | cons d c =>
        rw [List.cons_append, List.cons_append, List.cons.injEq] at hc
        obtain ⟨rfl, -⟩ := hc
        exact absurd (List.mem_append_right a (List.mem_cons_self ..)) hp

/-! ## Replacing piece by piece -/

/-- A piece with the word at its start replaced, if the word is there. -/
def replacePiece (w f s : Text) : Text :=
  if startsWith w s then f ++ s.drop w.length else s

theorem replacePiece_of_isPrefix (h : w <+: s) : replacePiece w f s = f ++ s.drop w.length :=
  if_pos (List.isPrefixOf_iff_prefix.2 h)

theorem replacePiece_of_not_isPrefix (h : ¬w <+: s) : replacePiece w f s = s :=
  if_neg fun hs => h (List.isPrefixOf_iff_prefix.1 hs)

theorem IsPiece.replacePiece (hs : IsPiece s) (hw : IsControl w) (hf : IsControl f) :
    IsPiece (replacePiece w f s) := by
  by_cases h : w <+: s
  · rw [replacePiece_of_isPrefix h]
    obtain ⟨r, rfl⟩ := h
    obtain ⟨w, rfl, -, -⟩ := hw.eq_cons
    obtain ⟨f, rfl, hf, -⟩ := hf.eq_cons
    obtain ⟨r', heq, hr⟩ := hs
    obtain rfl : r' = w ++ r := (List.cons.inj heq).2.symm
    rw [List.drop_left]
    refine ⟨f ++ r, rfl, ?_⟩
    rw [List.mem_append, not_or] at hr ⊢
    exact ⟨hf, hr.2⟩
  · rwa [replacePiece_of_not_isPrefix h]

theorem IsControl.replaceAll_append (hw : IsControl w) (hp : '\\' ∉ p) (f t : Text) :
    replaceAll w f (p ++ t) = p ++ replaceAll w f t := by
  induction p with
  | nil => rfl
  | cons c p ih =>
    rw [List.mem_cons, not_or] at hp
    rw [List.cons_append, replaceAll, hw.startsWith_cons_of_ne (Ne.symm hp.1),
      if_neg Bool.false_ne_true, ih hp.2, List.cons_append]

/-- In the first piece the word is replaced at the start. -/
theorem IsControl.replaceAll_piece (hw : IsControl w) (hs : IsPiece s)
    (hpieces : ∀ s ∈ pieces, IsPiece s) (f : Text) : replaceAll w f (s ++ pieces.flatten) =
      replacePiece w f s ++ replaceAll w f pieces.flatten := by
  have hstart := hw.startsWith_append_flatten hs hpieces
  obtain ⟨r, rfl, hr⟩ := hs
  rw [List.cons_append] at hstart ⊢
  rw [replaceAll, hstart, Text.replacePiece]
  split
  · rename_i h
    obtain ⟨x, hx⟩ := List.isPrefixOf_iff_prefix.1 h
    obtain ⟨w, rfl, -, -⟩ := hw.eq_cons
    obtain rfl : r = w ++ x := (List.cons.inj hx).2.symm
    rw [List.mem_append, not_or] at hr
    rw [List.length_cons, Nat.add_sub_cancel, List.append_assoc, List.drop_left,
      List.drop_succ_cons, List.drop_left, hw.replaceAll_append hr.2, List.append_assoc]
  · rw [hw.replaceAll_append hr, List.cons_append]

theorem IsControl.replaceAll_pieces (hw : IsControl w) (hp : '\\' ∉ p)
    (hpieces : ∀ s ∈ pieces, IsPiece s) (f : Text) : replaceAll w f (p ++ pieces.flatten) =
      p ++ (pieces.map (Text.replacePiece w f)).flatten := by
  rw [hw.replaceAll_append hp]
  congr 1
  induction pieces with
  | nil => exact replaceAll.eq_1 w f
  | cons s pieces ih =>
    obtain ⟨hs, hrest⟩ := List.forall_mem_cons.1 hpieces
    rw [List.flatten_cons, hw.replaceAll_piece hs hrest, ih hrest, List.map_cons,
      List.flatten_cons]

/-! ## Counting occurrences -/

/-- The number of places of a text where `needle` stands. -/
def occurrences (needle t : Text) : Nat :=
  t.tails.countP (startsWith needle)

theorem occurrences_cons (w : Text) (c : Char) (t : Text) :
    occurrences w (c :: t) = occurrences w t + if startsWith w (c :: t) then 1 else 0 := by
  rw [occurrences, List.tails_cons, List.countP_cons, occurrences]

theorem IsControl.occurrences_nil (hw : IsControl w) : occurrences w [] = 0 := by
  obtain ⟨w, rfl, -, -⟩ := hw.eq_cons
  rfl

theorem IsControl.occurrences_append (hw : IsControl w) (hp : '\\' ∉ p) (t : Text) :
    occurrences w (p ++ t) = occurrences w t := by
  induction p with
  | nil => rfl
  | cons c p ih =>
    rw [List.mem_cons, not_or] at hp
    rw [List.cons_append, occurrences_cons, hw.startsWith_cons_of_ne (Ne.symm hp.1), ih hp.2]
    rfl

/-- Occurrences of a control word do not overlap, so none is passed over in a reading. -/
theorem IsControl.countOccurrences_eq (hw : IsControl w) (t : Text) :
    countOccurrences w t = occurrences w t := by
  induction t using countOccurrences.induct w with
  | case1 => rw [countOccurrences, hw.occurrences_nil]
  | case2 c t hstart ih =>
    rw [countOccurrences, if_pos hstart, ih, occurrences_cons, if_pos hstart]
    obtain ⟨r, hr⟩ := List.isPrefixOf_iff_prefix.1 hstart
    obtain ⟨w, rfl, hmem, -⟩ := hw.eq_cons
    obtain rfl : t = w ++ r := (List.cons.inj hr).2.symm
    rw [List.length_cons, Nat.add_sub_cancel, List.drop_left, hw.occurrences_append hmem]
  | case3 c t hstart ih =>
    rw [countOccurrences, if_neg hstart, ih, occurrences_cons, if_neg hstart, Nat.add_zero]

/-- A control word stands in as many places as there are pieces that start with it. -/
theorem IsControl.occurrences_pieces (hw : IsControl w) (hp : '\\' ∉ p)
    (hpieces : ∀ s ∈ pieces, IsPiece s) :
    occurrences w (p ++ pieces.flatten) = pieces.countP (startsWith w) := by
  rw [hw.occurrences_append hp]
  induction pieces with
  | nil => exact hw.occurrences_nil
  | cons s pieces ih =>
    obtain ⟨hs, hrest⟩ := List.forall_mem_cons.1 hpieces
    rw [List.countP_cons, ← hw.startsWith_append_flatten hs hrest, ← ih hrest, List.flatten_cons]
    obtain ⟨r, rfl, hr⟩ := hs
    rw [List.cons_append, occurrences_cons, hw.occurrences_append hr]

end Text

namespace Typo

open Text

variable {typo k : Typo} {typos : List Typo} {p s t : Text} {pieces : List Text}

/-! ## The catalogue -/

/-- No misspelling is the beginning of another one. -/
theorem eq_of_isPrefix (hk : k ∈ all) (h : typo ∈ all) (hstarts : k.wrong <+: typo.wrong) :
    k = typo := by
  have hall : ∀ k ∈ all, ∀ typo ∈ all, k.wrong <+: typo.wrong → k = typo := by decide
  exact hall k hk typo h hstarts

/-- At most one misspelling stands at the start of a text. -/
theorem eq_of_isPrefix_of_isPrefix (hk : k ∈ all) (h : typo ∈ all) (hks : k.wrong <+: s)
    (hs : typo.wrong <+: s) : k = typo :=
  (List.prefix_or_prefix_of_prefix hks hs).elim (eq_of_isPrefix hk h)
    fun hstarts => (eq_of_isPrefix h hk hstarts).symm

/-- No misspelling stands where a correction does. -/
theorem not_prefix_right_append (hk : k ∈ all) (h : typo ∈ all) (r : Text) :
    ¬k.wrong <+: typo.right ++ r := fun hstarts =>
  (List.prefix_or_prefix_of_prefix hstarts (List.prefix_append typo.right r)).elim
    (not_prefix_right hk h).1 (not_prefix_right hk h).2

theorem nodup_all : all.Nodup := by
  decide

/-! ## Correcting a piece -/

/-- A piece with the misspelling at its start corrected, if it is there. -/
def correctPiece (s : Text) (typo : Typo) : Text :=
  replacePiece typo.wrong typo.right s

/-- To correct one misspelling makes and mends no other one. -/
theorem prefix_correctPiece_iff (hk : k ∈ all) (h : typo ∈ all) (hne : k ≠ typo) :
    k.wrong <+: correctPiece s typo ↔ k.wrong <+: s := by
  by_cases hs : typo.wrong <+: s
  · rw [correctPiece, replacePiece_of_isPrefix hs]
    exact iff_of_false (not_prefix_right_append hk h _)
      fun hks => hne (eq_of_isPrefix_of_isPrefix hk h hks hs)
  · rw [correctPiece, replacePiece_of_not_isPrefix hs]

theorem foldl_correctPiece_of_not_isPrefix (h : ∀ typo ∈ typos, ¬typo.wrong <+: s) :
    typos.foldl correctPiece s = s := by
  induction typos with
  | nil => rfl
  | cons typo typos ih =>
    obtain ⟨htypo, htypos⟩ := List.forall_mem_cons.1 h
    rw [List.foldl_cons, correctPiece, replacePiece_of_not_isPrefix htypo, ih htypos]

/-- In a piece with a misspelling at its start, this one is corrected and no other one. -/
theorem foldl_correctPiece_of_isPrefix (htypos : ∀ k ∈ typos, k ∈ all) (hmem : typo ∈ typos)
    (hs : typo.wrong <+: s) :
    typos.foldl correctPiece s = typo.right ++ s.drop typo.wrong.length := by
  induction typos with
  | nil => exact absurd hmem List.not_mem_nil
  | cons k typos ih =>
    have htypo : typo ∈ all := htypos typo hmem
    obtain ⟨hk, hrest⟩ := List.forall_mem_cons.1 htypos
    rw [List.foldl_cons]
    by_cases heq : k = typo
    · subst heq
      rw [correctPiece, replacePiece_of_isPrefix hs]
      exact foldl_correctPiece_of_not_isPrefix fun j hj => not_prefix_right_append (hrest j hj) hk _
    · have hnot : ¬k.wrong <+: s := fun hks => heq (eq_of_isPrefix_of_isPrefix hk htypo hks hs)
      rw [correctPiece, replacePiece_of_not_isPrefix hnot]
      exact ih hrest ((List.mem_cons.1 hmem).resolve_left (Ne.symm heq))

/-- The order of the corrections does not matter in a piece. -/
theorem foldl_correctPiece_perm (h : typos.Perm all) (s : Text) :
    typos.foldl correctPiece s = all.foldl correctPiece s := by
  by_cases hs : ∃ typo ∈ all, typo.wrong <+: s
  · obtain ⟨typo, hmem, hstarts⟩ := hs
    rw [foldl_correctPiece_of_isPrefix (fun _ => h.mem_iff.1) (h.mem_iff.2 hmem) hstarts,
      foldl_correctPiece_of_isPrefix (fun _ => id) hmem hstarts]
  · push Not at hs
    rw [foldl_correctPiece_of_not_isPrefix fun typo hmem => hs typo (h.mem_iff.1 hmem),
      foldl_correctPiece_of_not_isPrefix hs]

/-! ## Correcting a text -/

/-- Correct the misspellings of a list, one after another. -/
def correctIn (typos : List Typo) (t : Text) : Text × List Correction :=
  typos.foldl
    (fun (acc : Text × List Correction) typo =>
      ((typo.correct acc.1).1, acc.2 ++ (typo.correct acc.1).2))
    (t, [])

theorem correctIn_all (t : Text) : correctIn all t = correctAll t :=
  rfl

/-- The correction of a misspelling that is counted in a text, if it stands there. -/
def counted (t : Text) (typo : Typo) : Option Correction :=
  if occurrences typo.wrong t = 0 then none else some ⟨typo, occurrences typo.wrong t⟩

theorem snd_correct (h : typo ∈ all) (t : Text) : (typo.correct t).2 = (counted t typo).toList := by
  unfold correct counted
  rw [(isControl_of_mem h).1.countOccurrences_eq]
  dsimp only
  split <;> rfl

theorem fst_correct_pieces (h : typo ∈ all) (hp : '\\' ∉ p) (hpieces : ∀ s ∈ pieces, IsPiece s) :
    (typo.correct (p ++ pieces.flatten)).1 =
      p ++ (pieces.map (correctPiece · typo)).flatten := by
  rw [fst_correct h, (isControl_of_mem h).1.replaceAll_pieces hp hpieces]
  rfl

/-- To correct one misspelling changes the count of no other one. -/
theorem counted_correct (hk : k ∈ all) (h : typo ∈ all) (hne : k ≠ typo) (t : Text) :
    counted (typo.correct t).1 k = counted t k := by
  obtain ⟨p, pieces, rfl, hp, hpieces⟩ := exists_pieces t
  have hpieces' : ∀ s ∈ pieces.map (correctPiece · typo), IsPiece s := by
    rw [List.forall_mem_map]
    exact fun s hs => (hpieces s hs).replacePiece (isControl_of_mem h).1 (isControl_of_mem h).2
  have hcount : occurrences k.wrong (typo.correct (p ++ pieces.flatten)).1 =
      occurrences k.wrong (p ++ pieces.flatten) := by
    rw [fst_correct_pieces h hp hpieces, (isControl_of_mem hk).1.occurrences_pieces hp hpieces',
      (isControl_of_mem hk).1.occurrences_pieces hp hpieces, List.countP_map]
    refine List.countP_congr fun s _ => ?_
    rw [Function.comp_apply, startsWith, startsWith, List.isPrefixOf_iff_prefix,
      List.isPrefixOf_iff_prefix, prefix_correctPiece_iff hk h hne]
  rw [counted, counted, hcount]

/-- Each misspelling of the list is counted as in the first text. -/
theorem snd_correctIn (htypos : ∀ typo ∈ typos, typo ∈ all) (honce : typos.Nodup) (t : Text) :
    (correctIn typos t).2 = typos.filterMap (counted t) := by
  have hfold : ∀ found, (typos.foldl (fun (acc : Text × List Correction) typo =>
      ((typo.correct acc.1).1, acc.2 ++ (typo.correct acc.1).2)) (t, found)).2 =
      found ++ typos.filterMap (counted t) := by
    induction typos generalizing t with
    | nil => exact fun found => (List.append_nil found).symm
    | cons typo typos ih =>
      obtain ⟨htypo, hrest⟩ := List.forall_mem_cons.1 htypos
      rw [List.nodup_cons] at honce
      intro found
      have hcounted : typos.filterMap (counted (typo.correct t).1) = typos.filterMap (counted t) :=
        List.filterMap_congr fun k hk => counted_correct (hrest k hk) htypo
          (fun heq => honce.1 (heq ▸ hk)) t
      rw [List.foldl_cons, ih hrest honce.2, hcounted, snd_correct htypo, List.append_assoc]
      congr 1
      rw [List.filterMap_cons]
      cases counted t typo <;> rfl
  exact hfold []

theorem fst_correctIn_pieces (htypos : ∀ typo ∈ typos, typo ∈ all) (hp : '\\' ∉ p)
    (hpieces : ∀ s ∈ pieces, IsPiece s) : (correctIn typos (p ++ pieces.flatten)).1 =
      p ++ (pieces.map (typos.foldl correctPiece)).flatten := by
  have hfold : ∀ found, (typos.foldl (fun (acc : Text × List Correction) typo =>
      ((typo.correct acc.1).1, acc.2 ++ (typo.correct acc.1).2)) (p ++ pieces.flatten, found)).1 =
      p ++ (pieces.map (typos.foldl correctPiece)).flatten := by
    induction typos generalizing pieces with
    | nil => exact fun _ => by simp
    | cons typo typos ih =>
      obtain ⟨htypo, hrest⟩ := List.forall_mem_cons.1 htypos
      have hpieces' : ∀ s ∈ pieces.map (correctPiece · typo), IsPiece s := by
        rw [List.forall_mem_map]
        exact fun s hs => (hpieces s hs).replacePiece (isControl_of_mem htypo).1
          (isControl_of_mem htypo).2
      intro found
      rw [List.foldl_cons, fst_correct_pieces htypo hp hpieces, ih hrest hpieces', List.map_map]
      rfl
  exact hfold []

/-! ## All at once -/

/-- The text that consists of the given pieces of text, each with `part` of a misspelling behind
it, and the rest. -/
def spell (part : Typo → Text) (cuts : List (Text × Typo)) (rest : Text) : Text :=
  cuts.flatMap (fun cut => cut.1 ++ part cut.2) ++ rest

/-- The text `t` is cut at its misspellings, at all of them. -/
structure CutAtMisspellings (cuts : List (Text × Typo)) (rest t : Text) : Prop where
  text : t = spell wrong cuts rest
  known : ∀ cut ∈ cuts, cut.2 ∈ all
  every : ∀ typo ∈ all, ∀ a b, t = a ++ (typo.wrong ++ b) →
    ∃ before s after, cuts = before ++ (s, typo) :: after ∧ a = spell wrong before s

/-- Pieces are cut at the misspellings at their starts. The text before them may be any text. -/
theorem exists_cuts (hpieces : ∀ s ∈ pieces, IsPiece s) (p : Text) : ∃ cuts rest,
    p ++ pieces.flatten = spell wrong cuts rest ∧
      p ++ (pieces.map (all.foldl correctPiece)).flatten = spell right cuts rest ∧
      (∀ cut ∈ cuts, cut.2 ∈ all) ∧
      ∀ typo ∈ all, ∀ first s last, pieces = first ++ s :: last → typo.wrong <+: s →
        ∃ before u after, cuts = before ++ (u, typo) :: after ∧
          p ++ first.flatten = spell wrong before u := by
  induction pieces generalizing p with
  | nil =>
    refine ⟨[], p, by simp [spell], by simp [spell], fun _ h => absurd h List.not_mem_nil, ?_⟩
    intro typo _ first s last h
    simp at h
  | cons s pieces ih =>
    obtain ⟨hs, hrest⟩ := List.forall_mem_cons.1 hpieces
    by_cases hstart : ∃ typo ∈ all, typo.wrong <+: s
    · obtain ⟨typo, htypo, r, rfl⟩ := hstart
      obtain ⟨cuts, rest, hwrong, hright, hknown, hevery⟩ := ih hrest r
      have hfixed := foldl_correctPiece_of_isPrefix (fun _ => id) htypo (List.prefix_append _ r)
      rw [List.drop_left] at hfixed
      refine ⟨(p, typo) :: cuts, rest, ?_, ?_, List.forall_mem_cons.2 ⟨htypo, hknown⟩, ?_⟩
      · simpa [spell] using hwrong
      · rw [List.map_cons, List.flatten_cons, hfixed]
        simpa [spell] using hright
      · intro k hk first u last heq hku
        cases first with
        | nil =>
          obtain ⟨rfl, rfl⟩ := List.cons.inj heq
          obtain rfl := eq_of_isPrefix_of_isPrefix hk htypo hku (List.prefix_append _ r)
          exact ⟨[], p, cuts, rfl, by simp [spell]⟩
        | cons v first =>
          rw [List.cons_append, List.cons.injEq] at heq
          obtain ⟨rfl, heq⟩ := heq
          obtain ⟨before, u, after, rfl, hbefore⟩ := hevery k hk first u last heq hku
          refine ⟨(p, typo) :: before, u, after, rfl, ?_⟩
          simpa [spell] using hbefore
    · push Not at hstart
      obtain ⟨cuts, rest, hwrong, hright, hknown, hevery⟩ := ih hrest (p ++ s)
      refine ⟨cuts, rest, ?_, ?_, hknown, ?_⟩
      · rwa [List.flatten_cons, ← List.append_assoc]
      · rwa [List.map_cons, List.flatten_cons, foldl_correctPiece_of_not_isPrefix hstart,
          ← List.append_assoc]
      · intro k hk first u last heq hku
        cases first with
        | nil =>
          obtain ⟨rfl, rfl⟩ := List.cons.inj heq
          exact absurd hku (hstart k hk)
        | cons v first =>
          rw [List.cons_append, List.cons.injEq] at heq
          obtain ⟨rfl, heq⟩ := heq
          rw [List.flatten_cons, ← List.append_assoc]
          exact hevery k hk first u last heq hku

/-- To correct all misspellings one after another is to cut the text at all places where one
stands and to put the corrections there at once. The outcome holds no misspelling, and correcting
it again changes and counts nothing. Each misspelling is counted as often as it stands in the
text, and another order of the corrections leads to the same text and the same counts. -/
theorem correctAll_atOnce (t : Text) :
    (∃ cuts rest, CutAtMisspellings cuts rest t ∧ (correctAll t).1 = spell right cuts rest) ∧
      (correctAll t).2 = all.filterMap (counted t) ∧
      Spelled (correctAll t).1 ∧
      correctAll (correctAll t).1 = ((correctAll t).1, []) ∧
      ∀ typos : List Typo, typos.Perm all →
        (correctIn typos t).1 = (correctAll t).1 ∧
          (correctIn typos t).2 = typos.filterMap (counted t) := by
  have hspelled := spelled_correctAll t
  refine ⟨?_, snd_correctIn (fun _ => id) nodup_all t, hspelled,
    correctAll_of_spelled hspelled, fun typos htypos => ⟨?_,
      snd_correctIn (fun _ => htypos.mem_iff.1) (htypos.nodup_iff.2 nodup_all) t⟩⟩
  · obtain ⟨p, pieces, rfl, hp, hpieces⟩ := exists_pieces t
    obtain ⟨cuts, rest, hwrong, hright, hknown, hevery⟩ := exists_cuts hpieces p
    rw [← correctIn_all, fst_correctIn_pieces (fun _ => id) hp hpieces]
    refine ⟨cuts, rest, ⟨hwrong, hknown, fun typo htypo a b heq => ?_⟩, hright⟩
    obtain ⟨first, s, last, hsplit, hs, rfl⟩ :=
      (isControl_of_mem htypo).1.exists_piece hp hpieces heq
    exact hevery typo htypo first s last hsplit hs
  · obtain ⟨p, pieces, rfl, hp, hpieces⟩ := exists_pieces t
    rw [← correctIn_all, fst_correctIn_pieces (fun _ => id) hp hpieces,
      fst_correctIn_pieces (fun _ => htypos.mem_iff.1) hp hpieces,
      funext (foldl_correctPiece_perm htypos)]

/-- Corrections in the reverse order. -/
theorem correctAll_atOnce_reverse :
    let t := "\\begn{table}\\begin{x}\\ened{table}".toList
    all.reverse.Perm all ∧ (correctIn all.reverse t).1 = (correctAll t).1 ∧
      (correctIn all.reverse t).2 = all.reverse.filterMap (counted t) := by
  intro t
  have hperm : all.reverse.Perm all := List.reverse_perm all
  exact ⟨hperm, (correctAll_atOnce t).2.2.2.2 all.reverse hperm⟩

end Typo

end LatexRepair
