import LatexRepair.Proofs.LineRules
import LatexRepair.Proofs.Search
import Mathlib.Dynamics.FixedPoints.Basic

/-!
# Lines come to rest

A round on a line changes it by the first rule that applies (`LineRepair.advance`). Rounds
never bring back a line that they have left (`LineRepair.progresses_iterate`). Beside a
counterpart that is a comment they take characters away until the line is a comment too,
and beside any other counterpart each rule takes percent signs or backslashes away or
inserts or deletes one brace, and one brace less is the end of it
(`LineRepair.Progresses`). So any number of rounds leaves a line as it is only where no
rule changes it (`LineRepair.isFixedPt_iterate_advance_iff`). Without catalogued commands in
the counterpart the percent signs and backslashes of a line bound the rounds that it takes
(`LineRepair.exists_rest_of_weight`).
-/

namespace LatexRepair

/-! ## Comment lines -/

theorem isBlank_of_mem_indentation {line : Text} {c : Char} (h : c ∈ indentation line) :
    isBlank c = true :=
  List.mem_takeWhile_imp h

/-- A comment line has no code but white space. -/
theorem codePart_of_isCommentLine {line : Text} (h : isCommentLine line = true) :
    codePart line = indentation line := by
  have hblank : ∀ s r : Text, (∀ c ∈ s, isBlank c = true) →
      codePartFrom false (s ++ '%' :: r) = s := fun s r => by
    induction s with
    | nil => intro _; rfl
    | cons c s ih =>
      intro hs
      obtain ⟨hc, hs⟩ := List.forall_mem_cons.1 hs
      have hne : c ≠ '\\' ∧ c ≠ '%' := by
        constructor <;> rintro rfl <;> exact absurd hc (by decide)
      rw [List.cons_append, codePartFrom, if_neg hne.1, if_neg (by simp [hne.2]), ih hs]
  obtain ⟨r, hr⟩ := Text.startsWith_iff.1 h
  rw [codePart]
  conv => lhs; rw [← indentation_append_trimStart line, hr]
  exact hblank _ r fun c hc => isBlank_of_mem_indentation hc

/-- A line with a backslash in its code is no comment. -/
theorem isCommentLine_of_mem {line : Text} (h : '\\' ∈ codePart line) :
    isCommentLine line = false := by
  by_contra hcomment
  rw [codePart_of_isCommentLine (by simpa using hcomment)] at h
  exact absurd (isBlank_of_mem_indentation h) (by decide)

theorem skeletonFrom_of_blank {t : Text} (h : ∀ c ∈ t, isBlank c = true) (i : Nat) :
    skeletonFrom i t = [] := by
  induction t generalizing i with
  | nil => rw [skeletonFrom]
  | cons c t ih =>
    obtain ⟨hc, ht⟩ := List.forall_mem_cons.1 h
    have hne : ∀ d, isBlank d = false → c ≠ d := fun d hd heq => by
      rw [heq, hd] at hc
      cases hc
    rw [skeletonFrom_cons_of_ne (hne _ (by decide)) (hne _ (by decide)) (hne _ (by decide))
      (hne _ (by decide)), ih ht]

theorem Marker.head_of_at? {c : Char} {t : Text} {m : Marker × Nat} (h : at? (c :: t) = some m) :
    c = '\\' := by
  have hkind : ∀ kind, ofKindAt? kind (c :: t) = some m → c = '\\' := fun kind hk => by
    obtain ⟨r, hr, -⟩ := Option.bind_eq_some_iff.1 hk
    have hword := Text.strip?_eq_some_iff.1 hr
    cases kind <;> exact (List.cons.inj hword).1
  rw [at?, Option.orElse_eq_orElse, Option.orElse_eq_or, Option.or_eq_some_iff] at h
  rcases h with h | ⟨-, h⟩
  · exact hkind _ h
  · exact hkind _ h

/-- A marker starts with a backslash. -/
theorem getElem?_start_of_mem_markersFrom {i : Nat} {t : Text} {x : PlacedMarker}
    (h : x ∈ markersFrom i t) : ∃ j, x.start = i + j ∧ t[j]? = some '\\' := by
  induction t generalizing i with
  | nil => cases h
  | cons c t ih =>
    have htail : x ∈ markersFrom (i + 1) t → ∃ j, x.start = i + j ∧ (c :: t)[j]? = some '\\' :=
      fun hx => by
        obtain ⟨j, hstart, hj⟩ := ih hx
        exact ⟨j + 1, by omega, hj⟩
    rw [markersFrom] at h
    split at h
    · rename_i m n hm
      rcases List.mem_cons.1 h with rfl | h
      · exact ⟨0, rfl, by rw [Marker.head_of_at? hm]; rfl⟩
      · exact htail h
    · exact htail h

/-- No marker in a comment line is live. -/
theorem liveMarkers_of_isCommentLine {line : Text} (h : isCommentLine line = true) :
    liveMarkers line = [] := by
  refine List.filter_eq_nil_iff.2 fun x hx => ?_
  obtain ⟨j, hstart, hj⟩ := getElem?_start_of_mem_markersFrom hx
  rw [codePart_of_isCommentLine h, hstart, Nat.zero_add, decide_eq_true_iff]
  intro hlt
  rw [← indentation_append_trimStart line, List.getElem?_append_left hlt] at hj
  exact absurd (isBlank_of_mem_indentation (List.mem_of_getElem? hj)) (by decide)

namespace LineRepair

variable {t g u : Text} {e : Edit} {f : LineFix}

/-! ## Weight -/

/-- The number of percent signs and backslashes. -/
def weight (t : Text) : Nat :=
  t.countP fun c => c = '%' || c = '\\'

theorem weight_append (s t : Text) : weight (s ++ t) = weight s + weight t :=
  List.countP_append

/-- A part `d` of a text is taken out. -/
theorem apply_delete_append (s d r : Text) :
    (Edit.delete s.length (s.length + d.length)).apply (s ++ (d ++ r)) = s ++ r := by
  rw [Edit.apply_delete, List.take_left, ← List.length_append, ← List.append_assoc,
    List.drop_left]

/-- Without a part that holds a percent sign or a backslash a text weighs less. -/
theorem weight_delete_lt {s d r : Text} (ht : t = s ++ (d ++ r))
    (hd : d.head? = some '%' ∨ d.head? = some '\\') :
    weight ((Edit.delete s.length (s.length + d.length)).apply t) < weight t := by
  have hpos : 0 < weight d := by
    rcases hd with hd | hd <;> obtain ⟨d, rfl⟩ := List.head?_eq_some_iff.1 hd <;>
      simp [weight]
  rw [ht, apply_delete_append, weight_append, weight_append, weight_append]
  omega

/-- A line around an end of the document in its code. -/
theorem exists_around_terminator (h : removeTerminator? t g = some (e, f)) :
    ∃ a b r, t = a ++ (terminator ++ (b ++ r)) ∧ codePart t = a ++ (terminator ++ b) ∧
      e = .delete a.length (a.length + terminator.length) := by
  obtain ⟨-, i, hi, rfl, -⟩ := of_removeTerminator? h
  obtain ⟨hle, hstarts, -⟩ := Text.find?_eq_some_iff.1 hi
  obtain ⟨b, hb⟩ := Text.startsWith_iff.1 hstarts
  have hcode : codePart t = (codePart t).take i ++ (terminator ++ b) := by
    rw [← hb, List.take_append_drop]
  refine ⟨(codePart t).take i, b, commentPart t, ?_, hcode, ?_⟩
  · conv => lhs; rw [← codePart_append_comment t, hcode]
    simp
  · rw [List.length_take, Nat.min_eq_left hle]

theorem weight_lt_of_removeTerminator? (h : removeTerminator? t g = some (e, f)) :
    weight (e.apply t) < weight t := by
  obtain ⟨a, b, r, ht, -, rfl⟩ := exists_around_terminator h
  exact weight_delete_lt ht (.inr (by decide))

theorem weight_lt_of_uncommentMarker? (h : uncommentMarker? t g = some (e, f)) :
    weight (e.apply t) < weight t := by
  obtain ⟨hidden, hh, -, rfl, -⟩ := of_uncommentMarker? h
  unfold hiddenMarker? at hh
  obtain ⟨start, hstart, hh⟩ := Option.bind_eq_some_iff.1 hh
  obtain ⟨run, hrun, hh⟩ := Option.bind_eq_some_iff.1 hh
  obtain ⟨m, -, hh⟩ := Option.bind_eq_some_iff.1 hh
  obtain rfl := Option.some.inj hh
  obtain ⟨r, hr, hhead⟩ := exists_append_of_percentRun? hrun
  have hle : start ≤ t.length := by
    unfold commentStart? at hstart
    split at hstart
    · rename_i hlt
      obtain rfl := Option.some.inj hstart
      exact hlt.le
    · cases hstart
  have ht : t = t.take start ++ (run ++ r) := by
    rw [← hr, List.take_append_drop]
  have hlen : (t.take start).length = start := by
    rw [List.length_take, Nat.min_eq_left hle]
  have := weight_delete_lt ht (.inl hhead)
  rwa [hlen] at this

theorem weight_lt_of_uncommentCommand? (h : uncommentCommand? t g = some (e, f)) :
    weight (e.apply t) < weight t := by
  obtain ⟨-, -, name, intro, -, hintro, -, rfl, -⟩ := of_uncommentCommand? h
  obtain ⟨run, hrun, rfl⟩ := Option.map_eq_some_iff.1 hintro
  obtain ⟨r, hr, hhead⟩ := exists_append_of_percentRun? hrun
  have ht : t = indentation t ++ (run ++ r) := by
    rw [← hr, indentation_append_trimStart]
  rw [List.length_append]
  exact weight_delete_lt ht (.inl hhead)

theorem weight_insert (i : Nat) : weight ((Edit.insert i ['}']).apply t) = weight t := by
  have hbrace : weight ['}'] = 0 := by decide
  conv => rhs; rw [← List.take_append_drop i t]
  rw [Edit.apply_insert, weight_append, weight_append, weight_append, hbrace, Nat.zero_add]

theorem length_insert (i : Nat) : ((Edit.insert i ['}']).apply t).length = t.length + 1 := by
  conv => rhs; rw [← List.take_append_drop i t]
  simp only [Edit.apply_insert, List.length_append, List.length_singleton]
  omega

/-- A closing brace weighs nothing. -/
theorem weight_delete_closer {x : PlacedToken} (h : x ∈ skeleton (codePart t))
    (hx : x.token = .closeBrace) :
    weight ((Edit.delete x.start x.stop).apply t) = weight t := by
  obtain ⟨a, b, r, ht, -, -, -, -, hedit⟩ := exists_code_around_closer h hx
  rw [hedit, ht]
  simp [weight]

/-! ## Progress -/

/-- What a round makes of a line. -/
def advance (g t : Text) : Text :=
  ((step? t g).map (·.1)).getD t

/-- The line `u` is ahead of the line `t` in the rounds beside the counterpart `g`. -/
def Progresses (g t u : Text) : Prop :=
  if isCommentLine g then
    isCommentLine t = false ∧ (isCommentLine u = true ∨ u.length < t.length)
  else
    weight u < weight t ∨ weight u = weight t ∧ lineBalance t ≠ lineBalance g ∧
      (lineBalance u = lineBalance g ∨ t.length < u.length)

theorem Progresses.irrefl : ¬ Progresses g t t := by
  unfold Progresses
  split
  · rintro ⟨ht, ht' | hlt⟩
    · rw [ht] at ht'
      cases ht'
    · exact Nat.lt_irrefl _ hlt
  · omega

theorem Progresses.trans {v : Text} (h : Progresses g t u) (h' : Progresses g u v) :
    Progresses g t v := by
  unfold Progresses at *
  split
  · rename_i hg
    rw [if_pos hg] at h h'
    refine ⟨h.1, h'.2.imp_right fun hlt => ?_⟩
    rcases h.2 with hu | hlt'
    · rw [h'.1] at hu
      cases hu
    · exact hlt.trans hlt'
  · rename_i hg
    rw [if_neg hg] at h h'
    omega

theorem isCommentLine_of_restoreComment? (h : restoreComment? t g = some (e, f)) :
    isCommentLine (e.apply t) = true := by
  obtain ⟨-, -, -, intro, hintro, -, rfl, -⟩ := of_restoreComment? h
  obtain ⟨run, hrun, rfl⟩ := Option.map_eq_some_iff.1 hintro
  obtain ⟨r, -, hhead⟩ := exists_append_of_percentRun? hrun
  obtain ⟨run, rfl⟩ := List.head?_eq_some_iff.1 hhead
  have happly : (⟨0, (indentation t).length, indentation g ++ '%' :: run⟩ : Edit).apply t =
      indentation g ++ '%' :: (run ++ t.drop (indentation t).length) := by
    simp [Edit.apply]
  have hblank : ∀ c ∈ indentation g, isBlank c = true :=
    fun c hc => isBlank_of_mem_indentation hc
  rw [happly, isCommentLine, Text.trimStart, Text.trimStartBy,
    List.dropWhile_append_of_pos hblank, List.dropWhile_cons_of_neg (by decide)]
  rfl

/-- Beside a comment the rules take ends of the document away, and then make the line a
comment. -/
theorem progresses_of_isCommentLine (hg : isCommentLine g = true)
    (h : rule? t g = some (e, f)) : Progresses g t (e.apply t) := by
  rw [Progresses, if_pos hg]
  rcases of_rule? h with h | h | h | h | h
  · obtain ⟨a, b, r, ht, hcode, rfl⟩ := exists_around_terminator h
    have hpos : 0 < terminator.length := by decide
    have hcomment : isCommentLine t = false := isCommentLine_of_mem (by
      rw [hcode]
      exact List.mem_append_right _ (List.mem_append_left _ (by decide)))
    refine ⟨hcomment, .inr ?_⟩
    rw [ht, apply_delete_append]
    simp only [List.length_append]
    omega
  · obtain ⟨hidden, -, hlt, -⟩ := of_uncommentMarker? h
    rw [liveCount, liveCount, liveMarkers_of_isCommentLine hg] at hlt
    cases hlt
  · obtain ⟨hg', -⟩ := of_uncommentCommand? h
    rw [hg] at hg'
    cases hg'
  · obtain ⟨-, ht, -⟩ := of_restoreComment? h
    exact ⟨ht, .inl (isCommentLine_of_restoreComment? h)⟩
  · obtain ⟨hany, -⟩ := of_rebalance? h
    rw [codePart_of_isCommentLine hg, skeleton,
      skeletonFrom_of_blank fun c hc => isBlank_of_mem_indentation hc] at hany
    cases hany

/-- Beside a line that is no comment the rules make the line lighter, or change one brace. -/
theorem progresses_of_not_isCommentLine (hg : isCommentLine g = false)
    (h : rule? t g = some (e, f)) : Progresses g t (e.apply t) := by
  rw [Progresses, if_neg (by simp [hg])]
  rcases of_rule? h with h | h | h | h | h
  · exact .inl (weight_lt_of_removeTerminator? h)
  · exact .inl (weight_lt_of_uncommentMarker? h)
  · exact .inl (weight_lt_of_uncommentCommand? h)
  · obtain ⟨hg', -⟩ := of_restoreComment? h
    rw [hg] at hg'
    cases hg'
  · rcases (of_rebalance? h).2 with ⟨hb, ⟨i, rfl⟩, -⟩ | ⟨hb, ⟨x, hx, hclose, rfl⟩, -⟩
    · have hlen := length_insert (t := t) i
      exact .inr ⟨weight_insert i, by omega, .inr (by omega)⟩
    · have hbalance := lineBalance_delete hx hclose
      exact .inr ⟨weight_delete_closer hx hclose, by omega, .inl (by omega)⟩

/-- A round that changes a line is progress. -/
theorem progresses_advance (h : step? t g ≠ none) : Progresses g t (advance g t) := by
  obtain ⟨⟨u, f⟩, hstep⟩ := Option.ne_none_iff_exists'.1 h
  obtain ⟨-, e, hrule, he⟩ := step?_eq_some hstep
  rw [advance, hstep, Option.map_some, Option.getD_some, ← he]
  cases hg : isCommentLine g with
  | true => exact progresses_of_isCommentLine hg hrule
  | false => exact progresses_of_not_isCommentLine hg hrule

theorem advance_of_step?_eq_none (h : step? t g = none) : advance g t = t := by
  rw [advance, h]
  rfl

/-- Rounds never bring back a line that they have left. -/
theorem progresses_iterate (h : step? t g ≠ none) (n : Nat) :
    Progresses g t ((advance g)^[n + 1] t) := by
  induction n with
  | zero => exact progresses_advance h
  | succ n ih =>
    rw [Function.iterate_succ_apply']
    by_cases hn : step? ((advance g)^[n + 1] t) g = none
    · rw [advance_of_step?_eq_none hn]
      exact ih
    · exact ih.trans (progresses_advance hn)

/-- Any number of rounds leaves a line as it is only where no rule changes it. -/
theorem isFixedPt_iterate_advance_iff {n : Nat} (hn : n ≠ 0) :
    Function.IsFixedPt (advance g)^[n] t ↔ step? t g = none := by
  obtain ⟨n, rfl⟩ := Nat.exists_eq_succ_of_ne_zero hn
  refine ⟨fun hfixed => ?_, fun h => Function.iterate_fixed (advance_of_step?_eq_none h) _⟩
  by_contra h
  have hprogress := progresses_iterate h n
  rw [show (advance g)^[n + 1] t = t from hfixed] at hprogress
  exact hprogress.irrefl

/-- Beside a counterpart without catalogued commands a line that a round changes becomes
lighter, or comes to rest as a comment. -/
theorem weight_advance_lt_or (hg : (skeleton (codePart g)).any isCatalogued = false)
    (h : step? t g ≠ none) :
    weight (advance g t) < weight t ∨ step? (advance g t) g = none := by
  obtain ⟨⟨u, f⟩, hstep⟩ := Option.ne_none_iff_exists'.1 h
  obtain ⟨-, e, hrule, he⟩ := step?_eq_some hstep
  have hadvance : advance g t = e.apply t := by rw [advance, hstep, he]; rfl
  rw [hadvance]
  rcases of_rule? hrule with h | h | h | h | h
  · exact .inl (weight_lt_of_removeTerminator? h)
  · exact .inl (weight_lt_of_uncommentMarker? h)
  · exact .inl (weight_lt_of_uncommentCommand? h)
  · obtain ⟨hcomment, -⟩ := of_restoreComment? h
    right
    by_contra hnext
    have hprogress := progresses_advance hnext
    rw [Progresses, if_pos hcomment, isCommentLine_of_restoreComment? h] at hprogress
    cases hprogress.1
  · obtain ⟨hany, -⟩ := of_rebalance? h
    rw [hg] at hany
    cases hany

/-- Such a line comes to rest after as many rounds as it weighs and one more. -/
theorem exists_rest_of_weight (hg : (skeleton (codePart g)).any isCatalogued = false)
    (t : Text) : ∃ n ≤ weight t + 1, step? ((advance g)^[n] t) g = none := by
  induction hw : weight t using Nat.strong_induction_on generalizing t with
  | _ w ih =>
    by_cases h : step? t g = none
    · exact ⟨0, Nat.zero_le _, h⟩
    · rcases weight_advance_lt_or hg h with hlt | hrest
      · obtain ⟨n, hn, hrest⟩ := ih _ (hw ▸ hlt) _ rfl
        exact ⟨n + 1, by omega, hrest⟩
      · exact ⟨1, by omega, hrest⟩

theorem fst_rounds (n : Nat) (t g : Text) : (rounds n t g).1 = (advance g)^[n] t := by
  induction n generalizing t with
  | zero => rfl
  | succ n ih =>
    rw [rounds, Function.iterate_succ_apply]
    cases h : step? t g with
    | none =>
      rw [advance_of_step?_eq_none h]
      exact (Function.iterate_fixed (advance_of_step?_eq_none h) n).symm
    | some s =>
      rw [advance, h]
      exact ih s.1

end LineRepair

end LatexRepair
