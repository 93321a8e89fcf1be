import LatexRepair.Proofs.LineRules
import LatexRepair.Proofs.MarkupEdits
import LatexRepair.Proofs.TokenPlaces

/-!
# Places of balanced braces

Where a line gets the closing brace that it lacks, and which one it loses : the brace goes
into the gap before the first token that its counterpart does not share, or is that token
(`LineRepair.places_of_rebalance?`). In its gap the brace stands at one of the ends, before
white space, or before a character that follows a brace in the code of the counterpart
(`LineRepair.of_bracePlace?`), so it comes between no backslash and a percent sign, a backslash
or a brace that it escapes (`LineRepair.next_of_bracePlace?`,
`LineRepair.braceValue_of_bracePlace?`).
-/

namespace LatexRepair

namespace LineRepair

/-- Leading tokens that two skeletons share are the same. -/
theorem token_eq_of_lt_commonLength {xs ys : List PlacedToken} {j : Nat}
    (h : j < commonLength xs ys) : xs[j]?.map (·.token) = ys[j]?.map (·.token) := by
  induction xs generalizing ys j with
  | nil => simp [commonLength] at h
  | cons x xs ih =>
    cases ys with
    | nil => simp [commonLength] at h
    | cons y ys =>
      rw [commonLength] at h
      split at h
      · rename_i hxy
        cases j with
        | zero => simp [hxy]
        | succ j => exact ih (Nat.lt_of_succ_lt_succ h)
      · exact absurd h (Nat.not_lt_zero j)

/-- Behind them the tokens differ. -/
theorem token_ne_at_commonLength {xs ys : List PlacedToken} {m : MarkupToken}
    (hx : xs[commonLength xs ys]?.map (·.token) = some m) :
    ys[commonLength xs ys]?.map (·.token) ≠ some m := by
  induction xs generalizing ys with
  | nil => simp [commonLength] at hx
  | cons x xs ih =>
    cases ys with
    | nil => simp
    | cons y ys =>
      rw [commonLength] at hx ⊢
      split at hx
      · rename_i hxy
        rw [if_pos hxy]
        exact ih hx
      · rename_i hxy
        rw [if_neg hxy]
        intro hy
        simp only [List.getElem?_cons_zero, Option.map_some, Option.some.injEq] at hx hy
        exact hxy (hx.trans hy.symm)

/-! ## Gaps -/

theorem commonLength_le (xs ys : List PlacedToken) : commonLength xs ys ≤ xs.length := by
  induction xs generalizing ys with
  | nil => simp [commonLength]
  | cons x xs ih =>
    cases ys with
    | nil => simp [commonLength]
    | cons y ys =>
      rw [commonLength]
      split
      · exact Nat.succ_le_succ (ih ys)
      · exact Nat.zero_le _

section

variable {code : Text} {k j : Nat} {x : PlacedToken}

/-- Of two tokens of a skeleton the first one ends before the second one starts. -/
theorem stop_le_start {y : PlacedToken} {m : Nat} (hjm : j < m)
    (hx : (skeleton code)[j]? = some x) (hy : (skeleton code)[m]? = some y) :
    x.stop ≤ y.start := by
  obtain ⟨hj, rfl⟩ := List.getElem?_eq_some_iff.1 hx
  obtain ⟨hm, rfl⟩ := List.getElem?_eq_some_iff.1 hy
  exact List.pairwise_iff_getElem.1 (pairwise_skeletonFrom 0 code) j m hj hm hjm

/-- The tokens before a gap end before it. -/
theorem stop_le_gapStart (hk : k ≤ (skeleton code).length) (hj : j < k)
    (hx : (skeleton code)[j]? = some x) : x.stop ≤ gapStart (skeleton code) k := by
  obtain ⟨y, hy⟩ : ∃ y, (skeleton code)[k - 1]? = some y :=
    ⟨_, List.getElem?_eq_getElem (by omega)⟩
  rw [gapStart, if_neg (by omega), hy]
  change x.stop ≤ y.stop
  rcases Nat.lt_or_eq_of_le (Nat.le_sub_one_of_lt hj) with hlt | rfl
  · have := stop_le_start hlt hx hy
    have := (bounds_of_mem_skeletonFrom (List.mem_of_getElem? hy)).2.1
    omega
  · rw [Option.some.inj (hx.symm.trans hy)]

/-- The tokens behind a gap start behind it. -/
theorem gapStop_le_start (hj : k ≤ j) (hx : (skeleton code)[j]? = some x) :
    gapStop (skeleton code) code k ≤ x.start := by
  obtain ⟨hlt, -⟩ := List.getElem?_eq_some_iff.1 hx
  obtain ⟨y, hy⟩ : ∃ y, (skeleton code)[k]? = some y := ⟨_, List.getElem?_eq_getElem (by omega)⟩
  rw [gapStop, hy]
  change y.start ≤ x.start
  rcases Nat.lt_or_eq_of_le hj with hlt | rfl
  · have := stop_le_start hlt hy hx
    have := (bounds_of_mem_skeletonFrom (List.mem_of_getElem? hy)).2.1
    omega
  · rw [Option.some.inj (hx.symm.trans hy)]

theorem gapStop_le_length : gapStop (skeleton code) code k ≤ code.length := by
  rw [gapStop]
  cases hy : (skeleton code)[k]? with
  | none => exact Nat.le_refl _
  | some y =>
    have := bounds_of_mem_skeletonFrom (List.mem_of_getElem? hy)
    rw [Option.map_some, Option.getD_some]
    omega

theorem gapStart_le_gapStop (hk : k ≤ (skeleton code).length) :
    gapStart (skeleton code) k ≤ gapStop (skeleton code) code k := by
  rcases Nat.eq_zero_or_pos k with rfl | hpos
  · exact Nat.zero_le _
  · obtain ⟨y, hy⟩ : ∃ y, (skeleton code)[k - 1]? = some y :=
      ⟨_, List.getElem?_eq_getElem (by omega)⟩
    rw [gapStart, if_neg (by omega), hy, Option.map_some, Option.getD_some, gapStop]
    cases hz : (skeleton code)[k]? with
    | none =>
      have := bounds_of_mem_skeletonFrom (List.mem_of_getElem? hy)
      rw [Option.map_none, Option.getD_none]
      omega
    | some z => exact stop_le_start (by omega) hy hz

/-- Nothing is escaped where a gap starts. -/
theorem isCut_gapStart (code : Text) (k : Nat) : IsCut 0 code (gapStart (skeleton code) k) := by
  rw [gapStart]
  split
  · exact isCut_self ..
  · cases hy : (skeleton code)[k - 1]? with
    | none => exact isCut_self ..
    | some y => exact (isCut_of_mem_skeletonFrom (List.mem_of_getElem? hy)).2

/-- Nothing is escaped where a gap ends before a token. -/
theorem isCut_gapStop (hx : (skeleton code)[k]? = some x) :
    IsCut 0 code (gapStop (skeleton code) code k) := by
  rw [gapStop, hx]
  exact (isCut_of_mem_skeletonFrom (List.mem_of_getElem? hx)).1

theorem escapes_take_of_isCut {n : Nat} (h : IsCut 0 code n) :
    escapes false (code.take n) = false := by
  obtain ⟨u, v, rfl, hu, rfl⟩ := h
  rwa [Nat.zero_add, List.take_left]

/-! ## Places -/

theorem getElem?_of_piece {start stop j : Nat} {t : Text} {c : Char}
    (h : (piece t start stop)[j]? = some c) : t[start + j]? = some c := by
  rw [piece, List.getElem?_drop, List.getElem?_take] at h
  split at h
  · exact h
  · cases h

theorem length_piece {start stop : Nat} {t : Text} (h : stop ≤ t.length) :
    (piece t start stop).length = stop - start := by
  rw [piece, List.length_drop, List.length_take, Nat.min_eq_left h]

/-- Where a text is trimmed it ends, or white space follows. -/
theorem getElem?_length_trimEnd (t : Text) : (Text.trimEnd t).length ≤ t.length ∧
    ((Text.trimEnd t).length = t.length ∨
      ∃ c, t[(Text.trimEnd t).length]? = some c ∧ isBlank c = true) := by
  obtain ⟨s, hs, hblank⟩ := Text.exists_trimEnd t
  generalize Text.trimEnd t = body at hs
  subst hs
  rw [List.length_append]
  refine ⟨Nat.le_add_right _ _, ?_⟩
  cases s with
  | nil => exact .inl rfl
  | cons c s =>
    refine .inr ⟨c, ?_, hblank c (List.mem_cons_self ..)⟩
    rw [List.getElem?_append_right (Nat.le_refl _), Nat.sub_self]
    rfl

theorem getElem?_of_isSuffix {c : Char} {s t : Text} (h : c :: s <:+ t) :
    t[t.length - (c :: s).length]? = some c := by
  obtain ⟨body, rfl⟩ := h
  rw [List.length_append, Nat.add_sub_cancel, List.getElem?_append_right (Nat.le_refl _),
    Nat.sub_self]
  rfl

variable {gCode : Text} {gTokens : List PlacedToken} {closer : PlacedToken} {i : Nat}

/-- The place for a brace lies in its gap : where that starts or ends, before white space, or
before a character that follows the brace of the counterpart in the gap there. -/
theorem of_bracePlace? (hk : k ≤ (skeleton code).length)
    (h : bracePlace? code gCode (skeleton code) gTokens k closer = some i) :
    gapStart (skeleton code) k ≤ i ∧ i ≤ gapStop (skeleton code) code k ∧
      (i = gapStart (skeleton code) k ∨ i = gapStop (skeleton code) code k ∨
        ∃ c, code[i]? = some c ∧ (isBlank c = true ∨ gCode[closer.stop]? = some c ∧
          closer.stop < gapStop gTokens gCode (k + 1))) := by
  have hle := gapStart_le_gapStop hk
  have hlength : (piece code (gapStart (skeleton code) k) (gapStop (skeleton code) code k)).length =
      gapStop (skeleton code) code k - gapStart (skeleton code) k :=
    length_piece gapStop_le_length
  unfold bracePlace? at h
  dsimp only at h
  generalize gapStart (skeleton code) k = start at *
  generalize gapStop (skeleton code) code k = stop at *
  split at h
  · obtain rfl := Option.some.inj h
    exact ⟨hle, Nat.le_refl _, .inr (.inl rfl)⟩
  · rename_i hbehind
    split at h
    · obtain rfl := Option.some.inj h
      obtain ⟨htrim, hend | ⟨c, hc, hblank⟩⟩ := getElem?_length_trimEnd (piece code start stop)
      · exact ⟨Nat.le_add_right _ _, by omega, .inr (.inl (by omega))⟩
      · exact ⟨Nat.le_add_right _ _, by omega, .inr (.inr ⟨c, getElem?_of_piece hc, .inl hblank⟩)⟩
    · split at h
      · obtain rfl := Option.some.inj h
        exact ⟨Nat.le_refl _, hle, .inl rfl⟩
      · split at h
        · rename_i hends
          obtain rfl := Option.some.inj h
          cases hpiece : piece gCode closer.stop (gapStop gTokens gCode (k + 1)) with
          | nil => exact absurd (List.isEmpty_iff.2 hpiece) hbehind
          | cons c behind =>
            rw [hpiece] at hends
            have hsuffix := List.isSuffixOf_iff_suffix.1 hends
            have hshort := hsuffix.length_le
            have hplace : stop - (c :: behind).length =
                start + ((piece code start stop).length - (c :: behind).length) := by omega
            have hg : gCode[closer.stop + 0]? = some c :=
              getElem?_of_piece (by rw [hpiece]; rfl)
            have hgap := congrArg List.length hpiece
            rw [piece, List.length_drop, List.length_take, List.length_cons] at hgap
            rw [hplace]
            exact ⟨Nat.le_add_right _ _, by omega, .inr (.inr
              ⟨c, getElem?_of_piece (getElem?_of_isSuffix hsuffix), .inr ⟨hg, by omega⟩⟩)⟩
        · cases h

/-- Behind a closing brace of the code no comment starts. -/
theorem getElem?_stop_ne_percent {g : Text} (hmem : closer ∈ skeleton (codePart g))
    (hclose : closer.token = .closeBrace) : (codePart g)[closer.stop]? ≠ some '%' := by
  obtain ⟨u, v, hcode, hu, -, hstop⟩ := isCloserOf_of_mem_skeletonFrom hmem hclose
  have hline := codePart_append_comment g
  intro hp
  rw [hcode, hstop, Nat.zero_add, List.getElem?_append_right (by omega)] at hp
  have hhead : v.head? = some '%' := by
    rw [List.head?_eq_getElem?]
    simpa using hp
  obtain ⟨v, rfl⟩ := List.head?_eq_some_iff.1 hhead
  rw [hcode, List.append_assoc] at hline
  rw [codePart, ← hline] at hcode
  rw [codePartFrom_append hcode, hu, List.append_cancel_left_eq] at hcode
  simp [codePartFrom] at hcode

/-- Behind a place that is escaped comes white space, or what follows the brace of the
counterpart in the gap there. -/
theorem of_bracePlace?_of_escapes (hk : k ≤ (skeleton code).length)
    (h : bracePlace? code gCode (skeleton code) gTokens k closer = some i)
    (hescapes : escapes false (code.take i) = true) {c : Char} (hc : code[i]? = some c) :
    isBlank c = true ∨ gCode[closer.stop]? = some c ∧
      closer.stop < gapStop gTokens gCode (k + 1) := by
  have hcut : ¬IsCut 0 code i := fun hcut =>
    nomatch hescapes.symm.trans (escapes_take_of_isCut hcut)
  obtain ⟨-, -, rfl | rfl | ⟨d, hd, hplace⟩⟩ := of_bracePlace? hk h
  · exact absurd (isCut_gapStart code k) hcut
  · cases hx : (skeleton code)[k]? with
    | none =>
      rw [gapStop, hx] at hc
      exact absurd (List.getElem?_eq_some_iff.1 hc).1 (Nat.lt_irrefl _)
    | some x => exact absurd (isCut_gapStop hx) hcut
  · obtain rfl := Option.some.inj (hc.symm.trans hd)
    exact hplace

/-- What stands behind the place for a brace is neither an escaped backslash nor an escaped
percent sign. -/
theorem next_of_bracePlace? {g : Text} (hk : k ≤ (skeleton code).length)
    (hmem : closer ∈ skeleton (codePart g)) (hclose : closer.token = .closeBrace)
    (h : bracePlace? code (codePart g) (skeleton code) gTokens k closer = some i)
    (hescapes : escapes false (code.take i) = true) :
    ∀ c ∈ (code.drop i).head?, c ≠ '\\' ∧ c ≠ '%' := by
  obtain ⟨hstart, hstop, -⟩ := of_bracePlace? hk h
  intro c hc
  rw [List.head?_drop] at hc
  obtain ⟨hlt, hget⟩ := List.getElem?_eq_some_iff.1 hc
  constructor
  · rintro rfl
    have hcode : code = code.take i ++ '\\' :: code.drop (i + 1) := by
      rw [← hget, ← List.drop_eq_getElem_cons hlt, List.take_append_drop]
    obtain ⟨x, hx, hxstart, hxstop⟩ := exists_lineBreak hescapes 0 (code.drop (i + 1))
    rw [← hcode, List.length_take, Nat.min_eq_left hlt.le] at *
    obtain ⟨j, hj⟩ := List.getElem?_of_mem hx
    rcases Nat.lt_or_ge j k with hjk | hjk
    · have := stop_le_gapStart hk hjk hj
      omega
    · have := gapStop_le_start hjk hj
      omega
  · rintro rfl
    rcases of_bracePlace?_of_escapes hk h hescapes hc with hblank | ⟨hg, -⟩
    · exact absurd hblank (by decide)
    · exact getElem?_stop_ne_percent hmem hclose hg

/-- Within the gap behind a token no brace stands. -/
theorem braceValue_of_lt_gapStop (hx : (skeleton code)[k]? = some x) {c : Char}
    (hc : code[x.stop]? = some c) (hlt : x.stop < gapStop (skeleton code) code (k + 1)) :
    braceValue c = 0 := by
  by_contra hvalue
  have hbrace : c = '{' ∨ c = '}' := by
    by_contra hother
    rw [not_or] at hother
    exact hvalue (by rw [braceValue, if_neg hother.1, if_neg hother.2])
  obtain ⟨u, v, huv, hu, hstop⟩ := (isCut_of_mem_skeletonFrom (List.mem_of_getElem? hx)).2
  rw [Nat.zero_add] at hstop
  -- Nothing is escaped behind a token, so the brace there is the next one.
  obtain ⟨y, hy, hstart⟩ : ∃ y ∈ skeleton code, y.start = x.stop := by
    rw [huv, hstop, List.getElem?_append_right (Nat.le_refl _), Nat.sub_self] at hc
    cases v with
    | nil => cases hc
    | cons d v =>
      obtain rfl := Option.some.inj hc
      rw [huv, skeleton, skeletonFrom_append hu
        (fun e he => by obtain rfl := Option.some.inj he; rcases hbrace with rfl | rfl <;> decide)]
      rcases hbrace with rfl | rfl <;>
        exact ⟨_, List.mem_append_right _ (by rw [skeletonFrom]; exact List.mem_cons_self ..),
          by rw [hstop, Nat.zero_add]⟩
  obtain ⟨j, hj⟩ := List.getElem?_of_mem hy
  have hbounds := bounds_of_mem_skeletonFrom hy
  have hbounds' := bounds_of_mem_skeletonFrom (List.mem_of_getElem? hx)
  rcases Nat.lt_trichotomy j k with hjk | rfl | hjk
  · have := stop_le_start hjk hj hx
    omega
  · obtain rfl := Option.some.inj (hj.symm.trans hx)
    omega
  · have : gapStop (skeleton code) code (k + 1) ≤ y.start := gapStop_le_start hjk hj
    omega

/-- Nor is it an escaped brace. -/
theorem braceValue_of_bracePlace? (hcloser : (skeleton gCode)[k]? = some closer)
    (hk : k ≤ (skeleton code).length)
    (h : bracePlace? code gCode (skeleton code) (skeleton gCode) k closer = some i)
    (hescapes : escapes false (code.take i) = true) :
    ∀ c ∈ (code.drop i).head?, braceValue c = 0 := by
  intro c hc
  rw [List.head?_drop] at hc
  rcases of_bracePlace?_of_escapes hk h hescapes hc with hblank | ⟨hg, hlt⟩
  · have hne : ∀ d, isBlank d = false → c ≠ d := fun d hd heq => by
      rw [heq, hd] at hblank
      cases hblank
    rw [braceValue, if_neg (hne _ (by decide)), if_neg (hne _ (by decide))]
  · exact braceValue_of_lt_gapStop hcloser hg hlt

end

/-- The places of the rule : a brace goes into the gap before the first token that the
counterpart does not share, or is that token, and all other tokens are the same. -/
theorem places_of_rebalance? {t g : Text} {e : Edit} {f : LineFix}
    (h : rebalance? t g = some (e, f)) :
    let k := commonLength (skeleton (codePart t)) (skeleton (codePart g))
    (∃ closer i, (skeleton (codePart g))[k]? = some closer ∧ closer.token = .closeBrace ∧
      bracePlace? (codePart t) (codePart g) (skeleton (codePart t)) (skeleton (codePart g)) k
        closer = some i ∧ e = .insert i ['}'] ∧ f = .insertedBrace ∧
      sameShape ((skeleton (codePart t)).drop k) ((skeleton (codePart g)).drop (k + 1)) = true) ∨
    ∃ extra, (skeleton (codePart t))[k]? = some extra ∧ extra.token = .closeBrace ∧
      e = .delete extra.start extra.stop ∧ f = .removedBrace ∧
      sameShape ((skeleton (codePart t)).drop (k + 1)) ((skeleton (codePart g)).drop k) = true := by
  obtain ⟨-, ⟨-, hinsert⟩ | ⟨-, hdelete⟩⟩ := exists_of_rebalance? h
  · exact .inl hinsert
  · exact .inr hdelete

end LineRepair

end LatexRepair
