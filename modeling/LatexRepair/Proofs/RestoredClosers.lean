import LatexRepair.Proofs.BraceEdits
import LatexRepair.Proofs.CheckedOccurrences
import LatexRepair.Proofs.EndCount
import Mathlib.Data.List.Nodup

/-!
# Closing braces that come back

`restoreClosers` puts closing braces in behind the ends of tables, where the guide has them. Each
place is found in the lines as they are, so the braces are put in from the last one on : a brace
moves the markers behind it by one place and leaves those before it (`Pushed.cons`). So each
brace stands where it was to be put (`insertClosers_eq_mapIdx`), and the live markers are the same
ones in the same order (`forall₂_ofLines_insertClosers`).

`StructureRepair.restoresClosers_restoreClosers` : where a table ends equally often in both
documents, each end has a closing brace behind it exactly if it had one or the guide has one. A
second repair finds nothing to do.
-/

namespace LatexRepair

open StructureRepair Occurrence Occurrences

/-! ## Places of braces -/

/-- The text with a closing brace before each of the places in `p`, the first of which is `i`. -/
def closeAt (p : Nat → Bool) (i : Nat) : Text → Text
  | [] => if p i then ['}'] else []
  | c :: t => if p i then '}' :: c :: closeAt p (i + 1) t else c :: closeAt p (i + 1) t

section

variable {p : Nat → Bool} {i k n : Nat} {t : Text}

theorem closeAt_of_none (h : ∀ j, i ≤ j → p j = false) : closeAt p i t = t := by
  induction t generalizing i with
  | nil => rw [closeAt, if_neg (by simp [h i (Nat.le_refl i)])]
  | cons c t ih =>
    rw [closeAt, if_neg (by simp [h i (Nat.le_refl i)]), ih fun j hj => h j (by omega)]

/-- A brace behind all the others may be put in first. -/
theorem closeAt_insert (h : ∀ j, i + k ≤ j → p j = false) (hk : k ≤ t.length) :
    closeAt p i ((Edit.insert k ['}']).apply t) = closeAt (fun j => j = i + k || p j) i t := by
  rw [Edit.apply_insert]
  induction t generalizing i k with
  | nil =>
    obtain rfl : k = 0 := Nat.le_zero.1 hk
    simp [closeAt, h i (Nat.le_refl i), h (i + 1) (Nat.le_succ i)]
  | cons c t ih =>
    cases k with
    | zero =>
      have hplace : ∀ j, i + 1 ≤ j → (decide (j = i + 0) || p j) = false := fun j hj => by
        simp [h j (by omega), show j ≠ i by omega]
      rw [closeAt, if_pos (by simp), closeAt_of_none hplace]
      change closeAt p i ('}' :: c :: t) = '}' :: c :: t
      exact closeAt_of_none fun j hj => h j hj
    | succ k =>
      have hrest := ih (i := i + 1) (k := k) (fun j hj => h j (by omega))
        (Nat.le_of_succ_le_succ hk)
      have hplace : i + 1 + k = i + (k + 1) := by omega
      rw [hplace] at hrest
      rw [List.take_succ_cons, List.drop_succ_cons, List.cons_append, closeAt, closeAt, hrest]
      simp

/-- What stands at a place after a brace has come before the place `n`. -/
theorem getElem?_insert_closer (hn : n ≤ t.length) :
    ((Edit.insert n ['}']).apply t)[k + if n < k then 1 else 0]? =
      if n = k then some '}' else t[k]? := by
  have hlength : (t.take n).length = n := by rw [List.length_take, Nat.min_eq_left hn]
  rw [Edit.apply_insert]
  rcases Nat.lt_trichotomy n k with h | rfl | h
  · rw [if_pos h, if_neg (by omega), List.getElem?_append_right (by omega), hlength,
      List.singleton_append, show k + 1 - n = k - n + 1 by omega, List.getElem?_cons_succ,
      List.getElem?_drop, Nat.add_sub_cancel' (by omega)]
  · rw [if_neg (by omega), if_pos rfl, List.getElem?_append_right (by omega), hlength]
    simp
  · rw [if_neg (by omega), if_neg (by omega), Nat.add_zero,
      List.getElem?_append_left (by omega), List.getElem?_take_of_lt h]

end

/-! ## A line -/

/-- A line around one of its live markers. -/
theorem exists_around_liveMarker {line : Text} {x : PlacedMarker} (h : x ∈ liveMarkers line) :
    ∃ a s b r, line = a ++ Marker.Spelling.text s ++ (b ++ r) ∧
      codePart line = a ++ s.text ++ b ∧ x.stop = (a ++ s.text).length := by
  rw [liveMarkers_eq] at h
  obtain ⟨a, s, b, hcode, -, -, hstop⟩ := exists_spelling_of_mem_markers h
  refine ⟨a, s, b, commentPart line, ?_, by rw [hcode, List.append_assoc],
    by rw [hstop, List.length_append]⟩
  conv => lhs; rw [← codePart_append_comment line, hcode]
  simp

/-- Nothing is escaped behind a marker. -/
theorem escapes_append_spelling (a : Text) (s : Marker.Spelling) :
    escapes false (a ++ s.text) = false := by
  obtain ⟨r, hr⟩ : ∃ r, s.text = r ++ ['}'] :=
    ⟨Marker.controlWord s.kind ++ (s.blanks ++ '{' :: s.name), by simp [Marker.Spelling.text]⟩
  rw [hr, ← List.append_assoc, escapes_append]
  simp [escapes]

/-- The markers of a text around the end of a spelling, and those behind a brace put in there. -/
theorem markers_insert_closer (a : Text) (s : Marker.Spelling) (b : Text) :
    ∃ x : PlacedMarker, x.start < (a ++ s.text).length ∧ x.stop = (a ++ s.text).length ∧
      markers (a ++ s.text ++ b) =
        markersFrom 0 a ++ x :: markersFrom (a ++ s.text).length b ∧
      markers (a ++ s.text ++ '}' :: b) =
        markersFrom 0 a ++ x :: markersFrom ((a ++ s.text).length + 1) b := by
  have hlength : 0 < s.text.length := by
    obtain ⟨w, hw, -⟩ := s.exists_text_eq
    rw [hw]
    exact Nat.succ_pos _
  have hread : ∀ c, markers (a ++ s.text ++ c) =
      markersFrom 0 a ++ ⟨s.marker, a.length, (a ++ s.text).length⟩ ::
        markersFrom (a ++ s.text).length c := fun c => by
    rw [markers, List.append_assoc, markersFrom_around_spelling, Nat.zero_add, List.length_append]
  refine ⟨_, ?_, rfl, hread b, ?_⟩
  · rw [List.length_append]
    exact Nat.lt_add_of_pos_right hlength
  · have hbrace := markersFrom_append_of_not_mem (a ++ s.text).length (t := ['}']) (by decide) b
    rw [hread]
    exact congrArg (_ ++ _ :: ·) hbrace

/-- A closing brace behind a live marker moves the markers behind it by one place, and all stay
as live as they are. -/
theorem forall₂_ofLine_insert {line : Text} {i : Nat} {x : Occurrence}
    (hx : x ∈ Occurrence.ofLine i line) (hlive : x.isLive = true) :
    List.Forall₂ (fun y z => y.line = i ∧ z.line = i ∧ z.marker = y.marker ∧
        z.isLive = y.isLive ∧ z.stop = y.stop + if x.stop < y.stop then 1 else 0)
      (Occurrence.ofLine i line)
      (Occurrence.ofLine i ((Edit.insert x.stop ['}']).apply line)) := by
  obtain ⟨m, hm, rfl⟩ := List.mem_map.1 hx
  have hm : m ∈ liveMarkers line :=
    List.mem_filter.2 ⟨hm, decide_eq_true ((isLive_iff rfl).1 hlive)⟩
  obtain ⟨a, s, b, r, rfl, hcode, hstop⟩ := exists_around_liveMarker hm
  dsimp only
  have hinsert : (Edit.insert m.stop ['}']).apply (a ++ s.text ++ (b ++ r)) =
      a ++ s.text ++ '}' :: (b ++ r) := by
    rw [Edit.apply_insert, hstop, List.take_left, List.drop_left]
    rfl
  have hcode' := codePart_insert_closer hcode fun hescapes =>
    absurd ((escapes_append_spelling a s).symm.trans hescapes) Bool.false_ne_true
  obtain ⟨p, hstart, hp, hold, hnew⟩ := markers_insert_closer a s (b ++ r)
  have hfront : ∀ y ∈ markersFrom 0 a, y.start < y.stop ∧ y.stop ≤ (a ++ s.text).length :=
    fun y hy => by
      have : y.start < y.stop ∧ y.stop ≤ a.length := bounds_of_mem_markers hy
      rw [List.length_append]
      omega
  rw [hinsert, Occurrence.ofLine, Occurrence.ofLine, hold, hnew, hcode, hcode', hstop]
  generalize a ++ s.text = u at *
  have hlength : (u ++ b).length = u.length + b.length := List.length_append
  have hlength' : (u ++ '}' :: b).length = u.length + b.length + 1 := List.length_append
  refine List.forall₂_map_left_iff.2 (List.forall₂_map_right_iff.2
    (List.rel_append ?_ (.cons ?_ ?_)))
  · refine List.forall₂_same.2 fun y hy => ⟨rfl, rfl, rfl, ?_, ?_⟩
    · have := hfront y hy
      rw [Bool.eq_iff_iff, isLive_iff rfl, isLive_iff rfl]
      omega
    · dsimp only
      rw [if_neg (Nat.not_lt.2 (hfront y hy).2), Nat.add_zero]
  · refine ⟨rfl, rfl, rfl, ?_, ?_⟩
    · rw [Bool.eq_iff_iff, isLive_iff rfl, isLive_iff rfl]
      omega
    · dsimp only
      rw [if_neg (Nat.not_lt.2 hp.le), Nat.add_zero]
  · rw [markersFrom_add]
    refine List.forall₂_map_right_iff.2 (List.forall₂_same.2 fun y hy => ⟨rfl, rfl, rfl, ?_, ?_⟩)
    · rw [Bool.eq_iff_iff, isLive_iff rfl, isLive_iff rfl]
      dsimp only
      omega
    · have := le_start_of_mem_markersFrom hy
      have := start_lt_stop_of_mem_markersFrom hy
      dsimp only
      rw [if_pos (by omega)]

/-! ## Documents -/

/-- Lists related one after the other are related at once. -/
theorem forall₂_comp {α : Type*} {R S T : α → α → Prop} {xs ys zs : List α}
    (hxy : List.Forall₂ R xs ys) (hyz : List.Forall₂ S ys zs)
    (h : ∀ x y z, R x y → S y z → T x z) : List.Forall₂ T xs zs := by
  induction hxy generalizing zs with
  | nil =>
    cases hyz
    exact .nil
  | cons hhead _ ih =>
    cases hyz with
    | cons hhead' htail => exact .cons (h _ _ _ hhead hhead') (ih htail)

theorem exists_getElem?_of_forall₂ {α : Type*} {R : α → α → Prop} {xs ys : List α}
    (h : List.Forall₂ R xs ys) {k : Nat} {x : α} (hx : xs[k]? = some x) :
    ∃ y, ys[k]? = some y ∧ R x y := by
  obtain ⟨hlength, hget⟩ := List.forall₂_iff_get.1 h
  obtain ⟨hk, rfl⟩ := List.getElem?_eq_some_iff.1 hx
  exact ⟨_, List.getElem?_eq_getElem (hlength ▸ hk), hget k hk _⟩

/-- The occurrence stands before the other one. -/
def Occurrence.Before (x y : Occurrence) : Prop :=
  x.line < y.line ∨ x.line = y.line ∧ x.stop < y.stop

theorem Occurrence.eq_of_isLive {x y : Occurrence} (hline : x.line = y.line)
    (hmarker : x.marker = y.marker) (hstop : x.stop = y.stop) (hx : x.isLive = true)
    (hy : y.isLive = true) : x = y := by
  cases x
  cases y
  simp only [isLive, decide_eq_true_eq] at hx hy
  simp_all

/-- The places in the line `i` behind the occurrences. -/
def stopsIn (xs : List Occurrence) (i n : Nat) : Bool :=
  xs.any fun x => x.line = i ∧ x.stop = n

/-- What becomes of the occurrence `y` in the lines `ts` when braces are put in behind `xs` : it is
as live as it was, and as far on as there are braces before it. -/
structure Pushed (ts us : List Text) (xs : List Occurrence) (y z : Occurrence) : Prop where
  line : z.line = y.line
  marker : z.marker = y.marker
  live : z.isLive = y.isLive
  stop : z.stop = y.stop + xs.countP fun x => x.line = y.line ∧ x.stop < y.stop
  closed : closedBehind us z = (closedBehind ts y || stopsIn xs y.line y.stop)

section

variable {ts us vs : List Text} {xs : List Occurrence} {x y z w : Occurrence} {t : Text}

theorem closedBehind_iff (h : ts[x.line]? = some t) :
    closedBehind ts x = true ↔ t[x.stop]? = some '}' := by
  rw [closedBehind, h, Option.getD_some, Text.startsWith_iff, ← List.head?_drop,
    List.head?_eq_some_iff]
  rfl

/-- The first of several braces is behind all the others, so it moves none of their places. -/
theorem Pushed.cons (hx : ∀ x' ∈ xs, x'.Before x) (h : Pushed ts us [x] y z)
    (h' : Pushed us vs xs z w) : Pushed ts vs (x :: xs) y w := by
  have hstop : z.stop = y.stop + if x.line = y.line ∧ x.stop < y.stop then 1 else 0 := by
    simpa [List.countP_cons] using h.stop
  have hplace : ∀ x' ∈ xs, x'.line = y.line → (x'.stop < z.stop ↔ x'.stop < y.stop) ∧
      (x'.stop = z.stop ↔ x'.stop = y.stop) := fun x' hx' hline => by
    have hbefore := hx x' hx'
    unfold Occurrence.Before at hbefore
    split at hstop <;> omega
  refine ⟨h'.line.trans h.line, h'.marker.trans h.marker, h'.live.trans h.live, ?_, ?_⟩
  · have hcount : (xs.countP fun x' => x'.line = z.line ∧ x'.stop < z.stop) =
        xs.countP fun x' => x'.line = y.line ∧ x'.stop < y.stop :=
      List.countP_congr fun x' hx' => by
        simp only [decide_eq_true_eq, h.line]
        exact and_congr_right fun hline => (hplace x' hx' hline).1
    rw [h'.stop, hcount, h.stop, List.countP_cons, List.countP_cons, List.countP_nil]
    omega
  · have hany : stopsIn xs z.line z.stop = stopsIn xs y.line y.stop := by
      rw [Bool.eq_iff_iff, stopsIn, List.any_eq_true, stopsIn, List.any_eq_true]
      refine exists_congr fun x' => and_congr_right fun hx' => ?_
      simp only [decide_eq_true_eq, h.line]
      exact and_congr_right fun hline => (hplace x' hx' hline).2
    rw [h'.closed, hany, h.closed, stopsIn, stopsIn, stopsIn, List.any_cons, List.any_cons,
      List.any_nil, Bool.or_false, Bool.or_assoc]

theorem Pushed.refl (h : ∀ x ∈ xs, x.line ≠ y.line) (hline : us[y.line]? = ts[y.line]?) :
    Pushed ts us xs y y := by
  refine ⟨rfl, rfl, rfl, ?_, ?_⟩
  · rw [List.countP_eq_zero.2 fun x hx => by simp [h x hx], Nat.add_zero]
  · have hany : stopsIn xs y.line y.stop = false :=
      List.any_eq_false.2 fun x hx => by simp [h x hx]
    rw [hany, Bool.or_false, closedBehind, closedBehind, hline]

/-- What one brace does to the occurrences of a document. -/
theorem forall₂_ofLines_insertCloser (hx : x ∈ ofLines ts) (hlive : x.isLive = true) :
    List.Forall₂ (Pushed ts (ts.modify x.line (Edit.insert x.stop ['}']).apply) [x])
      (ofLines ts) (ofLines (ts.modify x.line (Edit.insert x.stop ['}']).apply)) := by
  refine List.rel_flatten (List.forall₂_iff_get.2 ⟨by simp, fun i h₁ h₂ => ?_⟩)
  simp only [List.get_eq_getElem, List.getElem_mapIdx, List.getElem_modify]
  rw [List.length_mapIdx] at h₁
  have hline : ts[i]? = some ts[i] := List.getElem?_eq_getElem h₁
  rcases eq_or_ne x.line i with rfl | hne
  · obtain ⟨t, ht, hmem⟩ := mem_ofLines hx
    obtain rfl : ts[x.line] = t := Option.some.inj (hline.symm.trans ht)
    obtain ⟨t', ht', hbound⟩ := bounds_of_mem_ofLines hx
    obtain rfl : ts[x.line] = t' := Option.some.inj (hline.symm.trans ht')
    rw [if_pos rfl]
    refine (forall₂_ofLine_insert hmem hlive).imp fun y z ⟨hy, hz, hmarker, hlive, hstop⟩ => ?_
    refine ⟨hz.trans hy.symm, hmarker, hlive, ?_, ?_⟩
    · simp [hstop, hy, List.countP_cons]
    · have hnew : (ts.modify x.line (Edit.insert x.stop ['}']).apply)[z.line]? =
          some ((Edit.insert x.stop ['}']).apply ts[x.line]) := by
        simp [hz, hline]
      have hold : ts[y.line]? = some ts[x.line] := by rw [hy, hline]
      rw [Bool.eq_iff_iff, closedBehind_iff hnew, hstop, getElem?_insert_closer hbound,
        Bool.or_eq_true, closedBehind_iff hold]
      by_cases hplace : x.stop = y.stop <;> simp [stopsIn, hplace, hy]
  · rw [if_neg hne]
    refine List.forall₂_same.2 fun y hy => ?_
    obtain ⟨m, -, rfl⟩ := List.mem_map.1 hy
    exact .refl (by simpa using hne) (by simp [hne])

/-- What braces that are put in from the last one on do to the occurrences of a document. -/
theorem forall₂_ofLines_insertClosers (hxs : ∀ x ∈ xs, x ∈ ofLines ts ∧ x.isLive = true)
    (hsorted : xs.Pairwise fun x y => y.Before x) :
    List.Forall₂ (Pushed ts (insertClosers ts xs) xs) (ofLines ts)
      (ofLines (insertClosers ts xs)) := by
  induction xs generalizing ts with
  | nil => exact List.forall₂_same.2 fun y _ => .refl (by simp) rfl
  | cons x xs ih =>
    obtain ⟨⟨hx, hlive⟩, hxs⟩ := List.forall_mem_cons.1 hxs
    obtain ⟨hbefore, hsorted⟩ := List.pairwise_cons.1 hsorted
    have hstep := forall₂_ofLines_insertCloser hx hlive
    suffices hrest : ∀ y ∈ xs, y ∈ ofLines (ts.modify x.line (Edit.insert x.stop ['}']).apply) ∧
        y.isLive = true from
      forall₂_comp hstep (ih hrest hsorted) fun _ _ _ => Pushed.cons hbefore
    -- The others are before the first one, so they stand where they stood.
    intro y hy
    obtain ⟨hmem, hylive⟩ := hxs y hy
    obtain ⟨k, hk⟩ := List.mem_iff_getElem?.1 hmem
    obtain ⟨z, hz, hpushed⟩ := exists_getElem?_of_forall₂ hstep hk
    have hstop : z.stop = y.stop := by
      have hplace := hbefore y hy
      unfold Occurrence.Before at hplace
      rw [hpushed.stop, List.countP_singleton, if_neg (by simp; omega), Nat.add_zero]
    have heq : z = y := eq_of_isLive hpushed.line hpushed.marker hstop
      (hpushed.live.trans hylive) hylive
    exact ⟨heq ▸ List.mem_of_getElem? hz, hylive⟩

theorem forall₂_filter_isLive {ys zs : List Occurrence}
    (h : List.Forall₂ (Pushed ts us xs) ys zs) :
    List.Forall₂ (Pushed ts us xs) (ys.filter (·.isLive)) (zs.filter (·.isLive)) :=
  List.rel_filter (fun y z (h : Pushed ts us xs y z) => by simp [h.live]) h

/-- Braces that are put in from the last one on stand at the places they were found for. -/
theorem insertClosers_eq_mapIdx
    (hxs : ∀ x ∈ xs, ∃ line, ts[x.line]? = some line ∧ x.stop ≤ line.length)
    (hsorted : xs.Pairwise fun x y => y.Before x) :
    insertClosers ts xs = ts.mapIdx fun i line => closeAt (stopsIn xs i) 0 line := by
  induction xs generalizing ts with
  | nil =>
    have hnone : ∀ i t, closeAt (stopsIn [] i) 0 t = t := fun i t =>
      closeAt_of_none fun _ _ => rfl
    refine List.ext_getElem? fun i => ?_
    simp [insertClosers, hnone]
  | cons x xs ih =>
    obtain ⟨⟨line, hline, hstop⟩, hxs⟩ := List.forall_mem_cons.1 hxs
    obtain ⟨hbefore, hsorted⟩ := List.pairwise_cons.1 hsorted
    have hbounds : ∀ y ∈ xs, ∃ u,
        (ts.modify x.line (Edit.insert x.stop ['}']).apply)[y.line]? = some u ∧
          y.stop ≤ u.length := fun y hy => by
      obtain ⟨t, ht, hle⟩ := hxs y hy
      rw [List.getElem?_modify, ht]
      refine ⟨_, rfl, ?_⟩
      dsimp only
      split
      · rw [LineRepair.length_insert]
        omega
      · exact hle
    have hrest : insertClosers ts (x :: xs) =
        (ts.modify x.line (Edit.insert x.stop ['}']).apply).mapIdx fun i line =>
          closeAt (stopsIn xs i) 0 line := ih hbounds hsorted
    rw [hrest]
    refine List.ext_getElem? fun i => ?_
    rw [List.getElem?_mapIdx, List.getElem?_mapIdx, List.getElem?_modify]
    cases hi : ts[i]? with
    | none => rfl
    | some t =>
      refine congrArg some ?_
      dsimp only
      rcases eq_or_ne x.line i with rfl | hne
      · obtain rfl := Option.some.inj (hline.symm.trans hi)
        have hlast : ∀ j, 0 + x.stop ≤ j → stopsIn xs x.line j = false := fun j hj =>
          List.any_eq_false.2 fun y hy => by
            have hplace := hbefore y hy
            unfold Occurrence.Before at hplace
            simp only [decide_eq_true_eq]
            omega
        have hplaces : (fun j => j = 0 + x.stop || stopsIn xs x.line j) =
            stopsIn (x :: xs) x.line := by
          funext j
          simp [stopsIn, eq_comm]
        rw [if_pos rfl, closeAt_insert hlast hstop, hplaces]
      · have hplaces : stopsIn xs i = stopsIn (x :: xs) i := by
          funext j
          simp [stopsIn, hne]
        rw [if_neg hne, hplaces]

end

/-! ## Lost braces -/

/-- The occurrences of a document are listed in reading order. -/
theorem pairwise_ofLines (ls : List Text) : (ofLines ls).Pairwise Occurrence.Before := by
  refine List.pairwise_flatten.2 ⟨fun xs hxs => ?_, List.pairwise_iff_getElem.2 ?_⟩
  · obtain ⟨i, hi, rfl⟩ := List.mem_mapIdx.1 hxs
    refine List.pairwise_map.2 ((pairwise_markersFrom 0 _).imp_of_mem fun _ hy hle => ?_)
    exact .inr ⟨rfl, hle.trans_lt (start_lt_stop_of_mem_markersFrom hy)⟩
  · intro i j hi hj hij x hx y hy
    rw [List.getElem_mapIdx] at hx hy
    obtain ⟨-, -, rfl⟩ := List.mem_map.1 hx
    obtain ⟨-, -, rfl⟩ := List.mem_map.1 hy
    exact .inl hij

theorem eq_of_place_eq {ls : List Text} {x y : Occurrence} (hx : x ∈ ofLines ls)
    (hy : y ∈ ofLines ls) (hline : x.line = y.line) (hstop : x.stop = y.stop) : x = y := by
  have hplaces : ((ofLines ls).map fun x => (x.line, x.stop)).Nodup :=
    List.pairwise_map.2 ((pairwise_ofLines ls).imp fun h heq => by
      rw [Prod.mk.injEq] at heq
      unfold Occurrence.Before at h
      omega)
  exact List.inj_on_of_nodup_map hplaces hx hy (Prod.ext hline hstop)

theorem nodup_ofLines (ls : List Text) : (ofLines ls).Nodup :=
  (pairwise_ofLines ls).imp fun h heq => by
    subst heq
    unfold Occurrence.Before at h
    omega

namespace Occurrences

/-- The live occurrence of a marker that `k` other ones stand before. -/
def liveNth? (m : Marker) (k : Nat) (ls : List Text) : Option Occurrence :=
  (liveOf m (Occurrence.ofLines ls))[k]?

theorem mem_of_liveNth? {m : Marker} {k : Nat} {ls : List Text} {x : Occurrence}
    (h : liveNth? m k ls = some x) :
    x ∈ Occurrence.ofLines ls ∧ x.marker = m ∧ x.isLive = true := by
  have hmem := List.mem_of_getElem? h
  simp only [liveOf, of, List.mem_filter, decide_eq_true_eq] at hmem
  exact ⟨hmem.1.1, hmem.1.2, hmem.2⟩

end Occurrences

namespace StructureRepair

/-- The marker ends a table. -/
def IsTableEnd (m : Marker) : Prop :=
  m.kind = .closing ∧ Catalog.mem m.name Catalog.tabularEnvironments = true

/-- The end of a table that is live equally often in the rendition `ts` and in the guide `gs` has
no closing brace behind its live occurrence `x`, and has one at the same place in the guide. -/
structure LacksCloser (ts gs : List Text) (m : Marker) (k : Nat) (x : Occurrence) : Prop where
  table : IsTableEnd m
  count : liveCount m (ofLines ts) = liveCount m (ofLines gs)
  nth : liveNth? m k ts = some x
  unclosed : closedBehind ts x = false
  guide : ∃ y, liveNth? m k gs = some y ∧ closedBehind gs y = true

variable {ts gs : List Text} {m : Marker} {x : Occurrence}

theorem mem_unclosedOf (hm : IsTableEnd m) :
    x ∈ unclosedOf ts gs m ↔ ∃ k, LacksCloser ts gs m k x := by
  unfold unclosedOf
  dsimp only
  constructor
  · intro h
    split at h
    · rename_i hcount
      obtain ⟨⟨x', y⟩, hmem, rfl⟩ := List.mem_map.1 h
      obtain ⟨hzip, hclosed⟩ := List.mem_filter.1 hmem
      obtain ⟨k, hk⟩ := List.mem_iff_getElem?.1 hzip
      obtain ⟨hx, hy⟩ := List.getElem?_zip_eq_some.1 hk
      rw [Bool.and_eq_true, Bool.not_eq_true'] at hclosed
      exact ⟨k, hm, hcount, hx, hclosed.2, y, hy, hclosed.1⟩
    · cases h
  · rintro ⟨k, -, hcount, hx, hunclosed, y, hy, hclosed⟩
    have hmem : (x, y) ∈ (liveOf m (ofLines ts)).zip (liveOf m (ofLines gs)) :=
      List.mem_iff_getElem?.2 ⟨k, List.getElem?_zip_eq_some.2 ⟨hx, hy⟩⟩
    rw [liveCount, liveCount] at hcount
    rw [if_pos hcount]
    exact List.mem_map.2 ⟨(x, y), List.mem_filter.2 ⟨hmem, by simp [hunclosed, hclosed]⟩, rfl⟩

/-- The occurrences that lack a closing brace, table by table. -/
def lostClosers (ts gs : List Text) : List Occurrence :=
  ((distinctMarkers (ofLines ts)).filter fun m =>
    m.kind = .closing && Catalog.mem m.name Catalog.tabularEnvironments).flatMap (unclosedOf ts gs)

theorem mem_lostClosers : x ∈ lostClosers ts gs ↔ ∃ m k, LacksCloser ts gs m k x := by
  rw [lostClosers, List.mem_flatMap]
  constructor
  · rintro ⟨m, hm, hx⟩
    have htable : IsTableEnd m := by simpa [IsTableEnd] using (List.mem_filter.1 hm).2
    exact ⟨m, (mem_unclosedOf htable).1 hx⟩
  · rintro ⟨m, k, h⟩
    refine ⟨m, List.mem_filter.2 ⟨?_, by simpa [IsTableEnd] using h.table⟩,
      (mem_unclosedOf h.table).2 ⟨k, h⟩⟩
    obtain ⟨hmem, rfl, -⟩ := mem_of_liveNth? h.nth
    exact List.mem_eraseDups.2 (List.mem_map_of_mem hmem)

theorem nodup_lostClosers (ts gs : List Text) : (lostClosers ts gs).Nodup := by
  have hlive : ∀ m, (liveOf m (ofLines ts)).Sublist (ofLines ts) := fun m =>
    List.filter_sublist.trans List.filter_sublist
  refine List.nodup_flatMap.2 ⟨fun m _ =>
    (nodup_ofLines ts).sublist ((unclosedOf_sublist ts gs m).trans (hlive m)), ?_⟩
  -- Occurrences of different markers are different.
  refine ((nodup_distinctMarkers (ofLines ts)).filter _).imp fun {m m'} hne x hx hx' => hne ?_
  have hmarker : ∀ m, x ∈ unclosedOf ts gs m → x.marker = m := fun m hx => by
    have hmem := (unclosedOf_sublist ts gs m).subset hx
    simp only [liveOf, of, List.mem_filter, decide_eq_true_eq] at hmem
    exact hmem.1.2
  exact (hmarker m hx).symm.trans (hmarker m' hx')

/-- Braces are put in behind the occurrences that lack one, from the last one on. -/
theorem exists_restoreClosers (ts gs : List Text) :
    ∃ xs, (∀ x, x ∈ xs ↔ ∃ m k, LacksCloser ts gs m k x) ∧
      xs.Pairwise (fun x y => y.Before x) ∧ restoreClosers ts gs =
        (insertClosers ts xs, xs.map fun x => .restoredCloser (x.line + 1) x.marker) := by
  have hperm := (lostClosers ts gs).mergeSort_perm fun x y =>
    Position.le (y.line, y.stop) (x.line, x.stop)
  have hsorted := pairwise_mergeSort_places (lostClosers ts gs)
  refine ⟨_, fun x => hperm.mem_iff.trans mem_lostClosers, ?_, rfl⟩
  refine (hsorted.and (hperm.nodup_iff.2 (nodup_lostClosers ts gs))).imp_of_mem ?_
  intro x y hx hy h
  obtain ⟨hle, hne⟩ := h
  have hmem : ∀ x, x ∈ lostClosers ts gs → x ∈ ofLines ts := fun x hx => by
    obtain ⟨m, k, h⟩ := mem_lostClosers.1 hx
    exact (mem_of_liveNth? h.nth).1
  have hplace : ¬(x.line = y.line ∧ x.stop = y.stop) := fun h =>
    hne (eq_of_place_eq (hmem x (hperm.mem_iff.1 hx)) (hmem y (hperm.mem_iff.1 hy)) h.1 h.2)
  rw [Position.le_iff] at hle
  unfold Occurrence.Before
  omega

/-- What the rendition `ts` becomes when the closing braces behind its tables come back : the lines
`us` and the fixes `fs`. -/
structure RestoresClosers (ts gs us : List Text) (fs : List GuidedFix) : Prop where
  closed : ∀ m, IsTableEnd m → liveCount m (ofLines ts) = liveCount m (ofLines gs) →
    ∀ k < liveCount m (ofLines ts), ∃ x y z, liveNth? m k ts = some x ∧
      liveNth? m k gs = some y ∧ liveNth? m k us = some z ∧
        closedBehind us z = (closedBehind ts x || closedBehind gs y)
  inserted : ∃ xs, (∀ x, x ∈ xs ↔ ∃ m k, LacksCloser ts gs m k x) ∧
    xs.Pairwise (fun x y => y.Before x) ∧
      us = ts.mapIdx (fun i line => closeAt (stopsIn xs i) 0 line) ∧
        fs = xs.map fun x => .restoredCloser (x.line + 1) x.marker
  live : ((ofLines us).filter (·.isLive)).map (fun x => (x.line, x.marker)) =
    ((ofLines ts).filter (·.isLive)).map fun x => (x.line, x.marker)
  rest : restoreClosers us gs = (us, [])

/-- A brace comes behind a live end of a table exactly if it lacks one. -/
theorem LacksCloser.stopsIn_iff {xs : List Occurrence} {k : Nat}
    (hxs : ∀ x, x ∈ xs ↔ ∃ m k, LacksCloser ts gs m k x) (hx : liveNth? m k ts = some x) :
    stopsIn xs x.line x.stop = true ↔ LacksCloser ts gs m k x := by
  obtain ⟨hmem, rfl, -⟩ := mem_of_liveNth? hx
  constructor
  · intro h
    obtain ⟨x', hx', hplace⟩ := List.any_eq_true.1 h
    obtain ⟨m', k', hlacks⟩ := (hxs x').1 hx'
    obtain ⟨hmem', rfl, -⟩ := mem_of_liveNth? hlacks.nth
    rw [decide_eq_true_eq] at hplace
    obtain rfl := eq_of_place_eq hmem' hmem hplace.1 hplace.2
    have hnodup : (liveOf x'.marker (ofLines ts)).Nodup :=
      ((nodup_ofLines ts).filter _).filter _
    obtain rfl : k' = k := (List.getElem?_inj (List.getElem?_eq_some_iff.1 hlacks.nth).1
      hnodup).1 (hlacks.nth.trans hx.symm)
    exact hlacks
  · exact fun h => List.any_eq_true.2 ⟨x, (hxs x).2 ⟨_, k, h⟩, by simp⟩

/-- Where no brace is lacking nothing is done. -/
theorem restoreClosers_of_not_lacksCloser (h : ∀ m k x, ¬LacksCloser ts gs m k x) :
    restoreClosers ts gs = (ts, []) := by
  obtain ⟨xs, hxs, -, heq⟩ := exists_restoreClosers ts gs
  obtain rfl : xs = [] := List.eq_nil_iff_forall_not_mem.2 fun x hx => by
    obtain ⟨m, k, hlacks⟩ := (hxs x).1 hx
    exact h m k x hlacks
  exact heq

/-- With braces behind the occurrences that lack one, the ends of a table have one where they had
one or the guide has one. -/
theorem exists_closedBehind_eq {us : List Text} {xs : List Occurrence} {k : Nat}
    (hxs : ∀ x, x ∈ xs ↔ ∃ m k, LacksCloser ts gs m k x) (hm : IsTableEnd m)
    (hcount : liveCount m (ofLines ts) = liveCount m (ofLines gs))
    (hlive : List.Forall₂ (Pushed ts us xs) (liveOf m (ofLines ts)) (liveOf m (ofLines us)))
    (hk : k < liveCount m (ofLines ts)) :
    ∃ x y z, liveNth? m k ts = some x ∧ liveNth? m k gs = some y ∧ liveNth? m k us = some z ∧
      closedBehind us z = (closedBehind ts x || closedBehind gs y) := by
  obtain ⟨x, hx⟩ : ∃ x, liveNth? m k ts = some x := ⟨_, List.getElem?_eq_getElem hk⟩
  obtain ⟨y, hy⟩ : ∃ y, liveNth? m k gs = some y :=
    ⟨_, List.getElem?_eq_getElem (Nat.lt_of_lt_of_eq hk hcount)⟩
  obtain ⟨z, hz, hpushed⟩ := exists_getElem?_of_forall₂ hlive hx
  refine ⟨x, y, z, hx, hy, hz, ?_⟩
  rw [hpushed.closed]
  cases hunclosed : closedBehind ts x with
  | true => rfl
  | false =>
    rw [Bool.false_or, Bool.false_or, Bool.eq_iff_iff, LacksCloser.stopsIn_iff hxs hx]
    refine ⟨fun h => ?_, fun h => ⟨hm, hcount, hx, hunclosed, y, hy, h⟩⟩
    obtain ⟨y', hy', hclosed⟩ := h.guide
    obtain rfl := Option.some.inj (hy.symm.trans hy')
    exact hclosed

/-- The closing braces behind tables come back where the guide has them, and nothing else
changes. -/
theorem restoresClosers_restoreClosers (ts gs : List Text) :
    RestoresClosers ts gs (restoreClosers ts gs).1 (restoreClosers ts gs).2 := by
  obtain ⟨xs, hxs, hsorted, heq⟩ := exists_restoreClosers ts gs
  rw [heq]
  dsimp only
  have hmem : ∀ x ∈ xs, x ∈ ofLines ts ∧ x.isLive = true := fun x hx => by
    obtain ⟨m, k, h⟩ := (hxs x).1 hx
    obtain ⟨hmem, -, hlive⟩ := mem_of_liveNth? h.nth
    exact ⟨hmem, hlive⟩
  have hpushed := forall₂_ofLines_insertClosers hmem hsorted
  have hlive : ∀ m, List.Forall₂ (Pushed ts (insertClosers ts xs) xs) (liveOf m (ofLines ts))
      (liveOf m (ofLines (insertClosers ts xs))) := fun m => forall₂_filter_isLive
    (List.rel_filter (fun y z (h : Pushed ts _ xs y z) => by simp [h.marker]) hpushed)
  constructor
  case closed =>
    intro m hm hcount k hk
    exact exists_closedBehind_eq hxs hm hcount (hlive m) hk
  case inserted =>
    exact ⟨xs, hxs, hsorted,
      insertClosers_eq_mapIdx (fun x hx => bounds_of_mem_ofLines (hmem x hx).1) hsorted, rfl⟩
  case live =>
    have hsame := (forall₂_filter_isLive hpushed).imp
      fun y z h => (Prod.ext h.line h.marker : (z.line, z.marker) = (y.line, y.marker)).symm
    exact (List.forall₂_eq_eq_eq ▸
      List.forall₂_map_left_iff.2 (List.forall₂_map_right_iff.2 hsame)).symm
  case rest =>
    refine restoreClosers_of_not_lacksCloser fun m k z h => ?_
    have hcount : liveCount m (ofLines ts) = liveCount m (ofLines (insertClosers ts xs)) :=
      (hlive m).length_eq
    have hk : k < liveCount m (ofLines ts) :=
      hcount ▸ (List.getElem?_eq_some_iff.1 h.nth).1
    obtain ⟨x, y, z', -, hy, hz', hclosed⟩ :=
      exists_closedBehind_eq hxs h.table (hcount.trans h.count) (hlive m) hk
    obtain ⟨y', hy', hguide⟩ := h.guide
    obtain rfl := Option.some.inj (hy.symm.trans hy')
    obtain rfl := Option.some.inj (h.nth.symm.trans hz')
    rw [h.unclosed, hguide, Bool.or_true] at hclosed
    cases hclosed

end StructureRepair

end LatexRepair
