import LatexRepair.Proofs.Linewise
import LatexRepair.Proofs.MarkerPlaces
import LatexRepair.Proofs.MarkupEdits

/-!
# Hidden markers that come back

`restoreHidden` compares the occurrences of a marker in the rendition and in the guide by
their places among all occurrences of that marker, and deletes percent signs line by line.
That the two views fit is shown here : to uncomment a line keeps its markers and their order,
what was live stays live, and the marker that the comment hid is live
(`forall₂_ofLine_uncomment`). So the places by which the documents are compared stay the
same, and what a repair brings back is exactly what the guide has live
(`StructureRepair.bringsBack_restoreHidden`).
-/

namespace LatexRepair

open StructureRepair

variable {line run r : Text} {hidden : HiddenMarker} {i : Nat}

/-! ## A line -/

theorem at?_of_hiddenMarker? (h : hiddenMarker? line = some hidden) :
    ∃ n, Marker.at? (line.drop hidden.stop) = some (hidden.marker, n) := by
  obtain ⟨start, hstart, h⟩ := Option.bind_eq_some_iff.1 h
  obtain ⟨run, hrun, h⟩ := Option.bind_eq_some_iff.1 h
  obtain ⟨⟨m, n⟩, hm, h⟩ := Option.bind_eq_some_iff.1 h
  obtain rfl := Option.some.inj h
  exact ⟨n, by rw [← hm, List.drop_drop]⟩

/-- To uncomment a line takes the run of percent signs away that opens its comment, and
leaves a backslash there. -/
theorem exists_uncomment_eq (h : hiddenMarker? line = some hidden) :
    ∃ run r, line = codePart line ++ (run ++ '\\' :: r) ∧
      percentRun? (run ++ '\\' :: r) = some run ∧
      hidden.stop = (codePart line).length + run.length ∧
      uncomment line = codePart line ++ '\\' :: r := by
  obtain ⟨run, r, hline, hrun, hstart, hstop⟩ := exists_around_hiddenMarker h
  obtain ⟨n, hat⟩ := at?_of_hiddenMarker? h
  rw [uncomment, h]
  dsimp only
  rw [hstop] at hat ⊢
  rw [hstart]
  generalize codePart line = code at hline hat
  subst hline
  rw [← List.drop_drop, List.drop_left, List.drop_left] at hat
  rw [LineRepair.apply_delete_append]
  obtain ⟨s, ⟨b, rfl⟩, -, -⟩ := Marker.at?_eq_some_iff.1 hat
  obtain ⟨w, hw, -⟩ := s.exists_text_eq
  rw [hw, List.cons_append] at hrun ⊢
  exact ⟨run, w ++ b, rfl, hrun, rfl, rfl⟩

/-- A run of percent signs holds no marker, and no marker reaches into it. -/
theorem markersFrom_append_run (i : Nat) (t : Text) (h : percentRun? r = some run) :
    markersFrom i (t ++ run) = markersFrom i t := by
  have hmem : '\\' ∉ run := fun hmem => by
    rcases mem_of_percentRun? h _ hmem with h | h
    · cases h
    · revert h
      decide
  obtain ⟨-, -, hhead⟩ := LineRepair.exists_append_of_percentRun? h
  obtain ⟨run, rfl⟩ := List.head?_eq_some_iff.1 hhead
  induction t generalizing i with
  | nil => simpa [markersFrom] using markersFrom_append_of_not_mem i hmem []
  | cons c t ih =>
    rw [List.cons_append, markersFrom, markersFrom, ← List.cons_append,
      Marker.at?_append_percent, ih]

/-- The comment starts where the code ends. -/
theorem start_of_hiddenMarker? (h : hiddenMarker? line = some hidden) :
    hidden.start = (codePart line).length := by
  obtain ⟨run, r, -, -, hstart, -⟩ := exists_around_hiddenMarker h
  exact hstart

/-- The code of the uncommented line reaches further : it goes on with the backslash of the
marker. -/
theorem start_lt_length_codePart (h : hiddenMarker? line = some hidden) :
    hidden.start < (codePart (uncomment line)).length := by
  obtain ⟨run, r, hline, -, -, hnew⟩ := exists_uncomment_eq h
  have hread : codePartFrom false (codePart line ++ (run ++ '\\' :: r)) =
      codePart line ++ [] := by rw [← hline, List.append_nil, codePart]
  rw [start_of_hiddenMarker? h, hnew, codePart.eq_1 (_ ++ _), codePartFrom_append hread,
    codePartFrom, if_pos rfl]
  simp

/-- All markers stand in the code of the line or from the hidden one on, and these move to where
the comment started. -/
theorem exists_markers_uncomment (h : hiddenMarker? line = some hidden) :
    ∃ r, line.drop hidden.stop = '\\' :: r ∧
      markers line = markersFrom 0 (codePart line) ++ markersFrom hidden.stop ('\\' :: r) ∧
      markers (uncomment line) =
        markersFrom 0 (codePart line) ++ markersFrom hidden.start ('\\' :: r) := by
  obtain ⟨run, r, hline, hrun, hstop, hnew⟩ := exists_uncomment_eq h
  refine ⟨r, ?_, ?_, ?_⟩
  · refine (congrArg (List.drop hidden.stop) hline).trans ?_
    rw [hstop, ← List.drop_drop, List.drop_left, List.drop_left]
  · conv => lhs; rw [markers, hline]
    rw [← List.append_assoc, markersFrom_append_backslash, markersFrom_append_run _ _ hrun,
      List.length_append, Nat.zero_add, hstop]
  · rw [markers, hnew, markersFrom_append_backslash, Nat.zero_add, start_of_hiddenMarker? h]

/-- The markers of a text that is read from two places on. -/
theorem forall₂_markersFrom (i j : Nat) (t : Text) :
    List.Forall₂ (fun x y => y.marker = x.marker ∧ ∃ k, x.start = i + k ∧ y.start = j + k)
      (markersFrom i t) (markersFrom j t) := by
  rw [← Nat.zero_add i, markersFrom_add, ← Nat.zero_add j, markersFrom_add, Nat.zero_add,
    Nat.zero_add]
  exact List.forall₂_map_left_iff.2 (List.forall₂_map_right_iff.2 (List.forall₂_same.2 fun x _ =>
    ⟨rfl, x.start, Nat.add_comm .., Nat.add_comm ..⟩))

/-! ## Occurrences -/

namespace Occurrence

variable {x : Occurrence}

/-- What a line can bring back is the marker that its comment hides. -/
theorem hiddenMarker?_isSome (h : x ∈ ofLine i line) (hx : x.state = .restorable) :
    ∃ hidden, hiddenMarker? line = some hidden := by
  obtain ⟨m, -, rfl⟩ := List.mem_map.1 h
  obtain ⟨hidden, hh, -⟩ := Option.map_eq_some_iff.1 ((restorable_iff rfl).1 hx).2
  exact ⟨hidden, hh⟩

/-- What becomes of an occurrence in a document of which the lines in `p` are uncommented. -/
structure Uncommented (p : Nat → Bool) (x y : Occurrence) : Prop where
  marker : y.marker = x.marker
  live : x.isLive = true → y.isLive = true
  restorable : p x.line = true → x.state = .restorable → y.isLive = true

theorem Uncommented.refl {p : Nat → Bool} (h : p x.line = false) : Uncommented p x x :=
  ⟨rfl, id, fun hp => nomatch h.symm.trans hp⟩

end Occurrence

open Occurrence

/-- To uncomment a line keeps its markers in their order and those that are live live, and
makes the one live that its comment hides. -/
theorem forall₂_ofLine_uncomment (p : Nat → Bool) (i : Nat) (line : Text) :
    List.Forall₂ (Uncommented p) (Occurrence.ofLine i line)
      (Occurrence.ofLine i (uncomment line)) := by
  cases hh : hiddenMarker? line with
  | none =>
    have hline : uncomment line = line := by rw [uncomment, hh]
    rw [hline]
    refine List.forall₂_same.2 fun x hx => ⟨rfl, id, fun _ hstate => ?_⟩
    obtain ⟨hidden, hsome⟩ := hiddenMarker?_isSome hx hstate
    cases hh.symm.trans hsome
  | some hidden =>
    obtain ⟨r, -, hold, hmarkers⟩ := exists_markers_uncomment hh
    have hstart := start_of_hiddenMarker? hh
    have hcode := start_lt_length_codePart hh
    rw [Occurrence.ofLine, Occurrence.ofLine, hold, hmarkers, hh]
    refine List.forall₂_map_left_iff.2 (List.forall₂_map_right_iff.2 (List.rel_append ?_ ?_))
    · refine List.forall₂_same.2 fun x hx => ?_
      have hlive : x.start < (codePart line).length := by
        have := start_lt_of_mem_markersFrom hx
        omega
      exact ⟨rfl, fun _ => (isLive_iff rfl).2 (by omega), fun _ hstate =>
        absurd hlive ((restorable_iff rfl).1 hstate).1⟩
    · refine (forall₂_markersFrom _ _ _).imp fun x y hxy => ?_
      obtain ⟨hm, k, hx, hy⟩ := hxy
      have hle : hidden.start ≤ hidden.stop := by
        obtain ⟨run, r, -, -, -, hstop⟩ := exists_around_hiddenMarker hh
        omega
      have hdead : ¬x.start < (codePart line).length := by omega
      refine ⟨hm, fun hlive => absurd ((isLive_iff rfl).1 hlive) hdead, fun _ hstate => ?_⟩
      have hstop : hidden.stop = x.start := by simpa using ((restorable_iff rfl).1 hstate).2
      exact (isLive_iff rfl).2 (by omega)

/-- Lines that are uncommented have the occurrences of before, some of which come back. -/
theorem forall₂_ofLines_uncomment (p : Nat → Bool) (ls : List Text) :
    List.Forall₂ (Uncommented p) (Occurrence.ofLines ls)
      (Occurrence.ofLines (ls.mapIdx fun i line => if p i then uncomment line else line)) := by
  refine List.rel_flatten (List.forall₂_iff_get.2 ⟨by simp, fun i h₁ h₂ => ?_⟩)
  simp only [List.get_eq_getElem, List.getElem_mapIdx]
  cases hp : p i with
  | true => exact forall₂_ofLine_uncomment p i _
  | false =>
    refine List.forall₂_same.2 fun x hx => .refl ?_
    obtain ⟨m, -, rfl⟩ := List.mem_map.1 hx
    exact hp

/-- Marker by marker too. -/
theorem forall₂_of_uncomment (p : Nat → Bool) (ls : List Text) (m : Marker) :
    List.Forall₂ (Uncommented p) (Occurrences.of m (Occurrence.ofLines ls))
      (Occurrences.of m (Occurrence.ofLines
        (ls.mapIdx fun i line => if p i then uncomment line else line))) :=
  List.rel_filter (fun x y (h : Uncommented p x y) => by simp [h.marker])
    (forall₂_ofLines_uncomment p ls)

/-! ## Documents -/

namespace Occurrences

/-- How often a marker occurs. -/
def total (m : Marker) (ls : List Text) : Nat :=
  (of m (Occurrence.ofLines ls)).length

/-- The occurrence of a marker that `k` other ones stand before. -/
def nth? (m : Marker) (k : Nat) (ls : List Text) : Option Occurrence :=
  (of m (Occurrence.ofLines ls))[k]?

end Occurrences

open Occurrences

namespace StructureRepair

/-- A comment hides the occurrence `x` of a marker in the rendition `ts`, and the guide has it
live at the same place among as many occurrences. -/
structure Lost (ts gs : List Text) (m : Marker) (k : Nat) (x : Occurrence) : Prop where
  total : total m ts = total m gs
  nth : nth? m k ts = some x
  restorable : x.state = .restorable
  live : ∃ y, nth? m k gs = some y ∧ y.isLive = true

/-- The line `i` of the rendition has a lost occurrence. -/
def HasLost (ts gs : List Text) (i : Nat) : Prop :=
  ∃ m k x, Lost ts gs m k x ∧ x.line = i

/-- The line loses the percent signs that open its comment, and the spaces and tabs behind
them. -/
def DropsPercents (line u : Text) : Prop :=
  ∃ run r, line = codePart line ++ (run ++ r) ∧ percentRun? (run ++ r) = some run ∧
    u = codePart line ++ r

/-- What the rendition `ts` becomes when its lost occurrences come back. -/
structure BringsBack (ts gs us : List Text) : Prop where
  lost : ∀ m k x, Lost ts gs m k x → ∃ y, nth? m k us = some y ∧ y.isLive = true
  live : ∀ m k x, nth? m k ts = some x → x.isLive = true →
    ∃ y, nth? m k us = some y ∧ y.isLive = true
  total : ∀ m, total m us = total m ts
  length : us.length = ts.length
  line : ∀ i t, ts[i]? = some t → ∃ u, us[i]? = some u ∧
    (HasLost ts gs i ∧ DropsPercents t u ∨ ¬HasLost ts gs i ∧ u = t)

variable {ts gs : List Text} {m : Marker} {x : Occurrence}

theorem mem_restorableOf :
    x ∈ restorableOf (ofLines ts) (ofLines gs) m ↔ ∃ k, Lost ts gs m k x := by
  unfold restorableOf
  dsimp only
  constructor
  · intro h
    split at h
    · rename_i htotal
      obtain ⟨⟨x', y⟩, hmem, rfl⟩ := List.mem_map.1 h
      obtain ⟨hzip, hstate⟩ := List.mem_filter.1 hmem
      obtain ⟨k, hk⟩ := List.mem_iff_getElem?.1 hzip
      obtain ⟨hx, hy⟩ := List.getElem?_zip_eq_some.1 hk
      simp only [Bool.and_eq_true, decide_eq_true_eq] at hstate
      exact ⟨k, htotal, hx, hstate.1, y, hy, hstate.2⟩
    · cases h
  · rintro ⟨k, htotal, hx, hrestorable, y, hy, hlive⟩
    have hmem : (x, y) ∈ (of m (ofLines ts)).zip (of m (ofLines gs)) :=
      List.mem_iff_getElem?.2 ⟨k, List.getElem?_zip_eq_some.2 ⟨hx, hy⟩⟩
    rw [total, total] at htotal
    rw [if_pos htotal]
    exact List.mem_map.2 ⟨(x, y), List.mem_filter.2 ⟨hmem, by simp [hrestorable, hlive]⟩, rfl⟩

theorem Lost.mem (h : Lost ts gs m k x) : x ∈ ofLines ts ∧ x.marker = m := by
  simpa [of] using List.mem_of_getElem? h.nth

/-- The lines that `restoreHidden` uncomments are those with a lost occurrence. -/
theorem exists_restoreHidden (ts gs : List Text) : ∃ p : Nat → Bool,
    (∀ i, p i = true ↔ HasLost ts gs i) ∧ (restoreHidden ts gs).1 =
      ts.mapIdx fun i line => if p i then uncomment line else line := by
  refine ⟨_, fun i => ?_, rfl⟩
  simp only [List.any_eq_true, List.mem_mergeSort, List.mem_flatMap, mem_restorableOf,
    decide_eq_true_eq, HasLost]
  constructor
  · rintro ⟨x, ⟨m, -, k, hx⟩, hline⟩
    exact ⟨m, k, x, hx, hline⟩
  · rintro ⟨m, k, x, hx, hline⟩
    refine ⟨x, ⟨m, ?_, k, hx⟩, hline⟩
    obtain ⟨hmem, rfl⟩ := hx.mem
    exact List.mem_eraseDups.2 (List.mem_map_of_mem hmem)

theorem dropsPercents_uncomment (h : hiddenMarker? line = some hidden) :
    DropsPercents line (uncomment line) := by
  obtain ⟨run, r, hline, hrun, -, hnew⟩ := exists_uncomment_eq h
  exact ⟨run, _, hline, hrun, hnew⟩

/-- Hidden markers come back occurrence by occurrence, and nothing else changes. -/
theorem bringsBack_restoreHidden (ts gs : List Text) :
    BringsBack ts gs (restoreHidden ts gs).1 := by
  obtain ⟨p, hp, hus⟩ := exists_restoreHidden ts gs
  rw [hus]
  have hocc : ∀ m k x, nth? m k ts = some x → ∃ y,
      nth? m k (ts.mapIdx fun i line => if p i then uncomment line else line) = some y ∧
        Uncommented p x y := fun m k x hx => by
    obtain ⟨hlength, hget⟩ := List.forall₂_iff_get.1 (forall₂_of_uncomment p ts m)
    obtain ⟨hk, rfl⟩ := List.getElem?_eq_some_iff.1 hx
    exact ⟨_, List.getElem?_eq_getElem (hlength ▸ hk), hget k hk _⟩
  constructor
  case lost =>
    intro m k x hx
    obtain ⟨y, hy, h⟩ := hocc m k x hx.nth
    exact ⟨y, hy, h.restorable ((hp _).2 ⟨m, k, x, hx, rfl⟩) hx.restorable⟩
  case live =>
    intro m k x hx hlive
    obtain ⟨y, hy, h⟩ := hocc m k x hx
    exact ⟨y, hy, h.live hlive⟩
  case total => exact fun m => (forall₂_of_uncomment p ts m).length_eq.symm
  case length => exact List.length_mapIdx
  case line =>
    intro i t ht
    refine ⟨_, by rw [List.getElem?_mapIdx, ht]; rfl, ?_⟩
    rw [← hp]
    cases hpi : p i with
    | false => exact .inr ⟨Bool.false_ne_true, rfl⟩
    | true =>
      obtain ⟨m, k, x, hx, rfl⟩ := (hp i).1 hpi
      obtain ⟨line, hline, hmem⟩ := mem_ofLines hx.mem.1
      obtain rfl := Option.some.inj (ht.symm.trans hline)
      obtain ⟨hidden, hh⟩ := hiddenMarker?_isSome hmem hx.restorable
      exact .inl ⟨rfl, dropsPercents_uncomment hh⟩

end StructureRepair

end LatexRepair
