import LatexRepair.Proofs.BraceBalance

/-!
# Closing braces at the end

What the repair that only counts braces does to a text (`BraceRepair.balanceBraces?_exact`). It
works in the region before the last end of the document (`BraceRepair.IsRegion`).

Closing braces that are missing are put in at one place (`BraceRepair.AddsClosers`). Those that are
too many are deleted, and nothing else with them, from the run of closing braces and white space
at the end of the region (`BraceRepair.RemovesClosers`): if the run holds that many, and the
earliest of them is not escaped. The others are not escaped either, because what stands before
them belongs to the run.
-/

namespace LatexRepair

namespace Text

variable {needle t : Text} {i : Nat}

/-! ## The last occurrence -/

theorem findLast?_eq_none_iff (hne : needle ≠ []) :
    findLast? needle t = none ↔ ∀ j, startsWith needle (t.drop j) = false := by
  have hnil : startsWith needle [] = false := by
    cases needle with
    | nil => exact absurd rfl hne
    | cons c needle => rfl
  induction t with
  | nil => simp [findLast?, hne, hnil]
  | cons c t ih =>
    have hsplit : (∀ j, startsWith needle ((c :: t).drop j) = false) ↔
        startsWith needle (c :: t) = false ∧ ∀ j, startsWith needle (t.drop j) = false := by
      refine ⟨fun h => ⟨h 0, fun j => h (j + 1)⟩, ?_⟩
      rintro ⟨h, hrest⟩ (_ | j)
      · exact h
      · exact hrest j
    rw [hsplit, and_congr_right fun _ => ih.symm, findLast?]
    cases findLast? needle t <;> simp

/-- The last place of a text is one where it stands, and it stands at none behind. -/
theorem startsWith_drop_of_findLast? (hne : needle ≠ []) (h : findLast? needle t = some i) :
    startsWith needle (t.drop i) = true ∧ ∀ j, startsWith needle (t.drop j) = true → j ≤ i := by
  induction t generalizing i with
  | nil => simp [findLast?, hne] at h
  | cons c t ih =>
    rw [findLast?] at h
    split at h
    · rename_i k hk
      obtain rfl := Option.some.inj h
      obtain ⟨hstart, hlast⟩ := ih hk
      refine ⟨hstart, fun j hj => ?_⟩
      cases j with
      | zero => exact Nat.zero_le _
      | succ j => exact Nat.succ_le_succ (hlast j hj)
    · rename_i hnone
      obtain ⟨hstart, rfl⟩ : startsWith needle (c :: t) = true ∧ 0 = i := by simpa using h
      refine ⟨hstart, fun j hj => ?_⟩
      cases j with
      | zero => exact Nat.le_refl 0
      | succ j =>
        rw [List.drop_succ_cons, (findLast?_eq_none_iff hne).1 hnone j] at hj
        cases hj

end Text

namespace BraceRepair

open Lexeme (isFiller)

variable {n : Nat} {t u v region rest keep tail : Text}

/-! ## The region -/

/-- The text `t` consists of `region` and, from its last end of the document on, of `rest`. Without
an end of the document all of it is the region. -/
structure IsRegion (t region rest : Text) : Prop where
  text : t = region ++ rest
  last : (terminator <+: rest ∧ ∀ a b, t = a ++ (terminator ++ b) → a.length ≤ region.length) ∨
    (rest = [] ∧ ∀ a b, t ≠ a ++ (terminator ++ b))

/-- The end of the region. -/
def regionEnd (t : Text) : Nat :=
  (Text.findLast? terminator t).getD t.length

theorem isRegion_regionEnd (t : Text) :
    IsRegion t (t.take (regionEnd t)) (t.drop (regionEnd t)) where
  text := (List.take_append_drop ..).symm
  last := by
    have hne : terminator ≠ [] := by decide
    have hplace : ∀ a b, t = a ++ (terminator ++ b) →
        Text.startsWith terminator (t.drop a.length) = true := by
      rintro a b rfl
      rw [List.drop_left, Text.startsWith_iff]
      exact ⟨b, rfl⟩
    unfold regionEnd
    cases h : Text.findLast? terminator t with
    | none =>
      refine .inr ⟨List.drop_length, fun a b hab => ?_⟩
      have := hplace a b hab
      rw [(Text.findLast?_eq_none_iff hne).1 h] at this
      cases this
    | some i =>
      obtain ⟨hstart, hlast⟩ := Text.startsWith_drop_of_findLast? hne h
      refine .inl ⟨List.isPrefixOf_iff_prefix.1 hstart, fun a b hab => ?_⟩
      rw [Option.getD_some, List.length_take_of_le (Text.le_length_of_findLast? h)]
      exact hlast _ (hplace a b hab)

/-! ## Adding closing braces -/

/-- The text `u` is `region ++ rest` with `n` closing braces and at most two line breaks put in at
one place : before `rest`, or before the line breaks at the end of the region if there is no
`rest`. -/
structure AddsClosers (n : Nat) (region rest u before added behind : Text) : Prop where
  old : region ++ rest = before ++ behind
  new : u = before ++ (added ++ behind)
  closers : added.count '}' = n
  breaks : added.count '\n' ≤ 2
  nothingElse : ∀ c ∈ added, c = '}' ∨ c = '\n'
  place : if rest = [] then (∀ c ∈ behind, c = '\n') ∧ before.getLast? ≠ some '\n'
    else before = region ∧ behind = rest

theorem addsClosers_addClosers (n : Nat) (t : Text) : ∃ before added behind,
    AddsClosers n (t.take (regionEnd t)) (t.drop (regionEnd t)) (addClosers n t) before added
      behind := by
  obtain ⟨added, hadded, hcount, hbreaks, honly⟩ := exists_addClosers_eq n t
  refine ⟨t.take (additionPlace t), added, t.drop (additionPlace t), ?_, hadded, hcount, hbreaks,
    honly, ?_⟩
  · rw [List.take_append_drop, List.take_append_drop]
  unfold regionEnd additionPlace
  cases hlast : Text.findLast? terminator t with
  | some i =>
    have hstart := (Text.startsWith_drop_of_findLast? (by decide) hlast).1
    have hrest : t.drop i ≠ [] := fun hnil => by
      rw [hnil] at hstart
      cases hstart
    rw [Option.getD_some, Option.getD_some, if_neg hrest]
    exact ⟨rfl, rfl⟩
  | none =>
    rw [Option.getD_none, Option.getD_none, if_pos List.drop_length]
    set body := Text.trimEndBy (· = '\n') t with hbody
    obtain ⟨r, hr⟩ : body <+: t := hbody ▸ List.rdropWhile_prefix ..
    have hbreak : r = t.rtakeWhile (· = '\n') :=
      List.append_cancel_left (hr.trans (List.rdropWhile_append_rtakeWhile ..).symm)
    have htake : t.take body.length = body := by rw [← hr, List.take_left]
    have hdrop : t.drop body.length = r := by rw [← hr, List.drop_left]
    rw [htake, hdrop]
    refine ⟨fun c hc => ?_, fun hc => ?_⟩
    · rw [hbreak] at hc
      simpa using List.mem_rtakeWhile_imp hc
    · have hne : body ≠ [] := fun hnil => by
        rw [hnil] at hc
        cases hc
      have hlast : ¬(decide (body.getLast hne = '\n')) = true := List.rdropWhile_last_not _ t hne
      rw [List.getLast?_eq_some_getLast hne, Option.some.injEq] at hc
      exact hlast (decide_eq_true hc)

/-! ## Removing closing braces -/

/-- The text `u` is `region ++ rest` without the last `n` closing braces of the region, of which
`tail` follows the earliest; none of them is escaped. -/
structure RemovesClosers (n : Nat) (region rest u keep tail : Text) : Prop where
  old : region = keep ++ '}' :: tail
  new : u = keep ++ (tail.filter (· ≠ '}') ++ rest)
  closers : tail.count '}' + 1 = n
  filler : ∀ c ∈ tail, isFiller c = true
  unescaped : ∀ x y, '}' :: tail = x ++ '}' :: y → (keep ++ x).getLast? ≠ some '\\'

/-- Where the earliest closing brace is not escaped, no later one is: before it stands a closing
brace or white space. -/
theorem getLast?_append_ne (htail : ∀ c ∈ tail, isFiller c = true)
    (hkeep : keep.getLast? ≠ some '\\') {x y : Text} (h : '}' :: tail = x ++ '}' :: y) :
    (keep ++ x).getLast? ≠ some '\\' := by
  rw [List.getLast?_append]
  cases hx : x.getLast? with
  | none => exact hkeep
  | some c =>
    rintro ⟨⟩
    have hmem : '\\' ∈ '}' :: tail := by
      rw [h]
      exact List.mem_append_left _ (List.mem_of_getLast? hx)
    exact absurd (htail '\\' ((List.mem_cons.1 hmem).resolve_left (by decide))) (by decide)

theorem removeClosers?_eq_some_iff (hn : n ≠ 0) : removeClosers? n t = some u ↔
    ∃ keep tail, RemovesClosers n (t.take (regionEnd t)) (t.drop (regionEnd t)) u keep tail := by
  change ((dropClosers? n (t.take (regionEnd t)).reverse).map
    fun v => v.reverse ++ t.drop (regionEnd t)) = some u ↔ _
  rw [Option.map_eq_some_iff]
  constructor
  · rintro ⟨v, hv, rfl⟩
    obtain ⟨m, r, hregion, rfl, hcount, hm, hlast, hesc⟩ := dropClosers?_eq_some_iff.1 hv
    rcases List.eq_nil_or_concat m with rfl | ⟨m, d, rfl⟩
    · exact absurd hcount.symm hn
    · rw [List.concat_eq_append] at hregion hcount hm hlast ⊢
      obtain rfl : d = '}' := hlast d List.getLast?_concat
      rw [List.forall_mem_append] at hm
      have htail : ∀ c ∈ m.reverse, isFiller c = true := fun c hc => hm.1 c (List.mem_reverse.1 hc)
      refine ⟨r.reverse, m.reverse, ?_, ?_, ?_, htail, fun x y => getLast?_append_ne htail ?_⟩
      · rw [← List.reverse_reverse (t.take _), hregion]
        simp
      · simp
      · rw [← hcount]
        simp
      · rwa [List.getLast?_reverse]
  · rintro ⟨keep, tail, hregion, rfl, hcount, htail, hesc⟩
    refine ⟨(tail.reverse ++ ['}']).filter (· ≠ '}') ++ keep.reverse,
      dropClosers?_eq_some_iff.2 ⟨tail.reverse ++ ['}'], keep.reverse, ?_, rfl, ?_, ?_, ?_, ?_⟩, ?_⟩
    · rw [hregion]
      simp
    · rw [← hcount]
      simp
    · rw [List.forall_mem_append, List.forall_mem_singleton]
      exact ⟨fun c hc => htail c (List.mem_reverse.1 hc), rfl⟩
    · simp
    · have := hesc [] tail rfl
      rwa [List.append_nil, ← List.head?_reverse] at this
    · simp

/-! ## The trailing run -/

/-- A text with `n` closing braces is cut before the earliest of the last `n`. -/
theorem exists_eq_append_closer (hn : n ≠ 0) (h : n ≤ t.count '}') :
    ∃ keep tail, t = keep ++ '}' :: tail ∧ tail.count '}' + 1 = n := by
  induction t with
  | nil => exact absurd (Nat.le_zero.1 h) hn
  | cons c t ih =>
    by_cases hle : n ≤ t.count '}'
    · obtain ⟨keep, tail, rfl, hcount⟩ := ih hle
      exact ⟨c :: keep, tail, rfl, hcount⟩
    · by_cases hc : c = '}'
      · subst hc
        rw [List.count_cons_self] at h
        exact ⟨[], t, rfl, by omega⟩
      · rw [List.count_cons_of_ne hc] at h
        exact absurd h hle

/-- There is only one place to cut at. -/
theorem eq_of_append_closer {keep' tail' : Text}
    (h : keep ++ '}' :: tail = keep' ++ '}' :: tail') (hcount : tail.count '}' = tail'.count '}') :
    keep = keep' := by
  rcases List.append_eq_append_iff.1 h with ⟨x, rfl, hx⟩ | ⟨x, rfl, hx⟩
  all_goals
    cases x with
    | nil => simp
    | cons c x =>
      rw [List.cons_append, List.cons.injEq] at hx
      have := congrArg (List.count '}') hx.2
      rw [List.count_append, List.count_cons_self] at this
      omega

theorem rtakeWhile_append_of_pos {p : Char → Bool} (a : Text) (h : ∀ c ∈ tail, p c = true) :
    (a ++ tail).rtakeWhile p = a.rtakeWhile p ++ tail := by
  rw [List.rtakeWhile, List.reverse_append,
    List.takeWhile_append_of_pos fun c hc => h c (List.mem_reverse.1 hc), List.reverse_append,
    List.reverse_reverse, List.rtakeWhile]

/-- The last closing braces of a text stand in its trailing run, if the run has as many. -/
theorem le_count_rtakeWhile_iff (hn : n ≠ 0) : n ≤ (t.rtakeWhile isFiller).count '}' ↔
    ∃ keep tail, t = keep ++ '}' :: tail ∧ tail.count '}' + 1 = n ∧
      ∀ c ∈ tail, isFiller c = true := by
  constructor
  · intro h
    obtain ⟨keep, tail, hrun, hcount⟩ := exists_eq_append_closer hn h
    refine ⟨t.rdropWhile isFiller ++ keep, tail, ?_, hcount, fun c hc => ?_⟩
    · rw [List.append_assoc, ← hrun, List.rdropWhile_append_rtakeWhile]
    · refine List.mem_rtakeWhile_imp (l := t) ?_
      rw [hrun]
      exact List.mem_append_right _ (List.mem_cons_of_mem _ hc)
  · rintro ⟨keep, tail, rfl, rfl, htail⟩
    rw [rtakeWhile_append_of_pos keep (List.forall_mem_cons.2 ⟨rfl, htail⟩), List.count_append,
      List.count_cons_self]
    exact Nat.le_add_left ..

theorem isSome_removeClosers?_iff (hn : n ≠ 0) (t : Text) :
    (removeClosers? n t).isSome = true ↔
      n ≤ ((t.take (regionEnd t)).rtakeWhile isFiller).count '}' ∧
        ∀ keep tail, t.take (regionEnd t) = keep ++ '}' :: tail → tail.count '}' + 1 = n →
          keep.getLast? ≠ some '\\' := by
  rw [Option.isSome_iff_exists, le_count_rtakeWhile_iff hn]
  constructor
  · rintro ⟨u, hu⟩
    obtain ⟨keep, tail, hold, -, hcount, htail, hesc⟩ := (removeClosers?_eq_some_iff hn).1 hu
    refine ⟨⟨keep, tail, hold, hcount, htail⟩, fun keep' tail' hold' hcount' => ?_⟩
    obtain rfl := eq_of_append_closer (hold.symm.trans hold') (by omega)
    simpa using hesc [] tail rfl
  · rintro ⟨⟨keep, tail, hold, hcount, htail⟩, hesc⟩
    exact ⟨_, (removeClosers?_eq_some_iff hn).2 ⟨keep, tail, hold, rfl, hcount, htail,
      fun x y => getLast?_append_ne htail (hesc keep tail hold hcount)⟩⟩

/-- The repair that only counts braces, exactly. Missing closing braces are always put in, at one
place. Closing braces that are too many are deleted if the trailing run of the region holds as
many, and the earliest of the last ones is not escaped; then these are what is deleted, nothing
else changes, and none of them is escaped. -/
theorem balanceBraces?_exact (t : Text) (delta : Int) : ∃ region rest, IsRegion t region rest ∧
    (0 < delta → ∃ u before added behind, balanceBraces? t delta = some u ∧
      AddsClosers delta.toNat region rest u before added behind) ∧
    (delta < 0 →
      ((balanceBraces? t delta).isSome = true ↔
        delta.natAbs ≤ (region.rtakeWhile isFiller).count '}' ∧
          ∀ keep tail, region = keep ++ '}' :: tail → tail.count '}' + 1 = delta.natAbs →
            keep.getLast? ≠ some '\\') ∧
      ∀ u, balanceBraces? t delta = some u →
        ∃ keep tail, RemovesClosers delta.natAbs region rest u keep tail) := by
  refine ⟨_, _, isRegion_regionEnd t, fun hpos => ?_, fun hneg => ?_⟩
  · obtain ⟨before, added, behind, hadds⟩ := addsClosers_addClosers delta.toNat t
    exact ⟨_, before, added, behind, if_pos hpos, hadds⟩
  · have hn : delta.natAbs ≠ 0 := by omega
    have hbalance : balanceBraces? t delta = removeClosers? delta.natAbs t := by
      rw [balanceBraces?, if_neg (by omega), if_pos hneg]
    rw [hbalance]
    exact ⟨isSome_removeClosers?_iff hn t, fun u => (removeClosers?_eq_some_iff hn).1⟩

/-- Two closing braces more at the end of a text, and two less. -/
theorem balanceBraces?_exact_text :
    let t := "text\x7d\x7d\n\x7d\n".toList
    (0 : Int) < 2 ∧ (-2 : Int) < 0 ∧
      (∃ region rest u before added behind, balanceBraces? t 2 = some u ∧
        AddsClosers 2 region rest u before added behind) ∧
      ∃ region rest keep tail, balanceBraces? t (-2) = some "text\x7d\n\n".toList ∧
        RemovesClosers 2 region rest "text\x7d\n\n".toList keep tail := by
  intro t
  have hpos : (0 : Int) < 2 := by decide
  have hneg : (-2 : Int) < 0 := by decide
  have hrun : balanceBraces? t (-2) = some "text\x7d\n\n".toList := by decide +kernel
  obtain ⟨region, rest, -, hadds, -⟩ := balanceBraces?_exact t 2
  obtain ⟨region', rest', -, -, hremoves⟩ := balanceBraces?_exact t (-2)
  obtain ⟨keep, tail, hremoved⟩ := (hremoves hneg).2 _ hrun
  exact ⟨hpos, hneg, ⟨region, rest, hadds hpos⟩, region', rest', keep, tail, hrun, hremoved⟩

end BraceRepair

end LatexRepair
