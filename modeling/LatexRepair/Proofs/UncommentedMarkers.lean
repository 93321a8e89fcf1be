import LatexRepair.Proofs.CheckedOccurrences
import LatexRepair.Proofs.HiddenMarkers

/-!
# A marker comes back

The comment of a line may start with a marker. Without the percent signs before it the marker is
live, and nothing else happens to the markers of the line (`ComesBack`) : the deleted text holds
none and touches none, what stands before it and behind it reads as before, and the code goes on
at least to the end of the marker (`exists_liveMarkers_uncomment`).

So the line has the marker live more often than before, and is closer to the guide that the rule
for hidden markers follows. The rule stops by itself (`UncommentRun.count_le`) : however long it
goes on, it brings back a marker as often as the line lacks it, at most.

`hiddenMarker?_comesBack` puts this together.
-/

namespace LatexRepair

open StructureRepair LineRepair

/-! ## Places -/

/-- Where a marker of the line goes when the percent signs before the hidden one are deleted. -/
def HiddenMarker.moved (hidden : HiddenMarker) (x : PlacedMarker) : PlacedMarker :=
  if x.start < hidden.start then x
  else ⟨x.marker, x.start - (hidden.stop - hidden.start), x.stop - (hidden.stop - hidden.start)⟩

/-- The marker that a comment hides in `line` is back in `line'`. -/
structure ComesBack (line line' : Text) (hidden : HiddenMarker) : Prop where
  /-- It starts where the comment did, and stands in the code. -/
  live : ∃ x ∈ markers line', x.marker = hidden.marker ∧ x.start = hidden.start ∧
    x.stop ≤ (codePart line').length
  /-- No marker reaches into the deleted text. -/
  apart : ∀ x ∈ markers line, x.stop ≤ hidden.start ∨ hidden.stop ≤ x.start
  /-- All markers are kept, and no other one appears. -/
  kept : markers line' = (markers line).map hidden.moved
  /-- Live markers stay where they are, and live. -/
  stayLive : ∀ x ∈ liveMarkers line, hidden.moved x = x ∧ x ∈ liveMarkers line'
  count_le : ∀ m, liveCount m line ≤ liveCount m line'
  count_lt : liveCount hidden.marker line < liveCount hidden.marker line'

section Line

variable {line : Text} {hidden : HiddenMarker} (h : hiddenMarker? line = some hidden)
include h

/-- Behind the live markers of before stands the one that was hidden. -/
theorem exists_liveMarkers_uncomment : ∃ stop behind,
    liveMarkers (uncomment line) =
      liveMarkers line ++ ⟨hidden.marker, hidden.start, stop⟩ :: behind := by
  obtain ⟨r, hdrop, -, hmarkers⟩ := exists_markers_uncomment h
  obtain ⟨n, hat⟩ := at?_of_hiddenMarker? h
  have hstart := start_of_hiddenMarker? h
  have hcode := start_lt_length_codePart h
  have hkeep : (markersFrom 0 (codePart line)).filter
      (fun x => x.start < (codePart (uncomment line)).length) = liveMarkers line := by
    rw [liveMarkers_eq]
    refine List.filter_eq_self.2 fun x hx => decide_eq_true ?_
    have := start_lt_of_mem_markersFrom hx
    omega
  rw [hdrop] at hat
  refine ⟨hidden.start + n, (markersFrom (hidden.start + 1) r).filter
    fun x => x.start < (codePart (uncomment line)).length, ?_⟩
  rw [liveMarkers, hmarkers, List.filter_append, hkeep, markersFrom, hat]
  exact congrArg _ (List.filter_cons_of_pos (decide_eq_true hcode))

/-- What is deleted stands between two markers. -/
theorem stop_le_or_le_start {x : PlacedMarker} (hx : x ∈ markers line) :
    x.stop ≤ hidden.start ∨ hidden.stop ≤ x.start := by
  obtain ⟨r, -, hmarkers, -⟩ := exists_markers_uncomment h
  rw [hmarkers, List.mem_append] at hx
  rcases hx with hx | hx
  · have hcode : x ∈ markers (codePart line) := hx
    rw [start_of_hiddenMarker? h]
    exact .inl (bounds_of_mem_markers hcode).2
  · exact .inr (le_start_of_mem_markersFrom hx)

/-- All markers are kept, those from the hidden one on further in front. -/
theorem markers_uncomment : markers (uncomment line) = (markers line).map hidden.moved := by
  obtain ⟨r, -, hold, hnew⟩ := exists_markers_uncomment h
  have hstart := start_of_hiddenMarker? h
  obtain ⟨hle, -⟩ := bounds_of_hiddenMarker? h
  have hfront : (markersFrom 0 (codePart line)).map hidden.moved =
      markersFrom 0 (codePart line) := by
    refine (List.map_congr_left fun x hx => if_pos ?_).trans (List.map_id _)
    have := start_lt_of_mem_markersFrom hx
    omega
  have hback : (markersFrom hidden.stop ('\\' :: r)).map hidden.moved =
      markersFrom hidden.start ('\\' :: r) := by
    have hstop : hidden.start + (hidden.stop - hidden.start) = hidden.stop := by omega
    have hmoved := markersFrom_add hidden.start (hidden.stop - hidden.start) ('\\' :: r)
    rw [hstop] at hmoved
    rw [hmoved, List.map_map]
    refine (List.map_congr_left fun x hx => ?_).trans (List.map_id _)
    have hge := le_start_of_mem_markersFrom hx
    rw [Function.comp_apply, HiddenMarker.moved, if_neg (by dsimp only; omega)]
    simp
  rw [hold, hnew, List.map_append, hfront, hback]

theorem liveCount_le_uncomment (m : Marker) : liveCount m line ≤ liveCount m (uncomment line) := by
  obtain ⟨stop, behind, hlive⟩ := exists_liveMarkers_uncomment h
  rw [liveCount, liveCount, hlive, List.countP_append]
  exact Nat.le_add_right _ _

theorem liveCount_lt_uncomment :
    liveCount hidden.marker line < liveCount hidden.marker (uncomment line) := by
  obtain ⟨stop, behind, hlive⟩ := exists_liveMarkers_uncomment h
  rw [liveCount, liveCount, hlive, List.countP_append, List.countP_cons_of_pos (by simp)]
  omega

/-- To uncomment the line brings its hidden marker back. -/
theorem comesBack_uncomment : ComesBack line (uncomment line) hidden where
  live := by
    obtain ⟨stop, behind, hlive⟩ := exists_liveMarkers_uncomment h
    have hmem : ⟨hidden.marker, hidden.start, stop⟩ ∈ liveMarkers (uncomment line) := by
      rw [hlive]
      exact List.mem_append_right _ List.mem_cons_self
    refine ⟨_, List.mem_of_mem_filter hmem, rfl, rfl, ?_⟩
    rw [liveMarkers_eq] at hmem
    exact (bounds_of_mem_markers hmem).2
  apart := fun _ hx => stop_le_or_le_start h hx
  kept := markers_uncomment h
  stayLive := fun x hx => by
    obtain ⟨stop, behind, hlive⟩ := exists_liveMarkers_uncomment h
    rw [hlive]
    refine ⟨if_pos ?_, List.mem_append_left _ hx⟩
    rw [start_of_hiddenMarker? h]
    exact of_decide_eq_true (List.mem_filter.1 hx).2
  count_le := liveCount_le_uncomment h
  count_lt := liveCount_lt_uncomment h

end Line

/-! ## The rule -/

variable {t u g : Text} {e : Edit} {f : LineFix} {m : Marker} {ms : List Marker}

/-- The rule for hidden markers uncomments the line, and it does so only where the guide has the
marker live more often. -/
theorem exists_of_uncommentMarker? (h : uncommentMarker? t g = some (e, f)) :
    ∃ hidden, hiddenMarker? t = some hidden ∧ f = .uncommentedMarker hidden.marker ∧
      e.apply t = uncomment t ∧ liveCount hidden.marker t < liveCount hidden.marker g := by
  obtain ⟨hidden, hh, hlt, rfl, rfl⟩ := of_uncommentMarker? h
  exact ⟨hidden, hh, rfl, by rw [uncomment, hh], hlt⟩

/-- The rule for hidden markers, applied to `t` again and again with the guide `g`, brings back
the markers `ms` one after the other and leaves `u`. -/
inductive UncommentRun (g : Text) : Text → List Marker → Text → Prop where
  | nil (t : Text) : UncommentRun g t [] t
  | cons {t u : Text} {e : Edit} {m : Marker} {ms : List Marker}
      (h : uncommentMarker? t g = some (e, .uncommentedMarker m))
      (hrun : UncommentRun g (e.apply t) ms u) : UncommentRun g t (m :: ms) u

/-- A marker is brought back as often as the line has it live less often than the guide, at
most. -/
theorem UncommentRun.count_le (h : UncommentRun g t ms u) (m : Marker) :
    ms.count m ≤ liveCount m g - liveCount m t := by
  induction h with
  | nil t => exact Nat.zero_le _
  | @cons t u e m' ms hstep _ ih =>
    obtain ⟨hidden, hh, hm, happly, hguide⟩ := exists_of_uncommentMarker? hstep
    obtain rfl := LineFix.uncommentedMarker.inj hm
    rw [happly] at ih
    by_cases heq : hidden.marker = m
    · subst heq
      have hlt := liveCount_lt_uncomment hh
      rw [List.count_cons_self]
      omega
    · have hle := liveCount_le_uncomment hh m
      rw [List.count_cons_of_ne heq]
      omega

/-- To delete the percent signs that open a comment, where the comment hides a marker, makes that
marker live and does nothing else to the markers of the line. That is what the rule for hidden
markers does, so it brings back a marker no more often than the line lacks it. -/
theorem hiddenMarker?_comesBack {line : Text} {hidden : HiddenMarker}
    (h : hiddenMarker? line = some hidden) :
    let line' := (Edit.delete hidden.start hidden.stop).apply line
    ComesBack line line' hidden ∧
      ∀ g, (∀ e f, uncommentMarker? line g = some (e, f) → e.apply line = line') ∧
        ∀ ms u, UncommentRun g line ms u → ∀ m, ms.count m ≤ liveCount m g - liveCount m line := by
  intro line'
  have hline' : line' = uncomment line := by rw [uncomment, h]
  rw [hline']
  refine ⟨comesBack_uncomment h, fun g => ⟨fun e f hrule => ?_, fun ms u hrun => hrun.count_le⟩⟩
  obtain ⟨-, -, -, happly, -⟩ := exists_of_uncommentMarker? hrule
  exact happly

/-- Behind an escaped backslash the marker comes back; a second comment goes on hiding another. -/
theorem hiddenMarker?_comesBack_before_comment :
    let line := "a\\\\%% \\begin{b}%\\end{b}".toList
    let hidden : HiddenMarker := ⟨⟨.opening, "b".toList⟩, 3, 6⟩
    hiddenMarker? line = some hidden ∧
      ComesBack line "a\\\\\\begin{b}%\\end{b}".toList hidden := by
  intro line hidden
  have h : hiddenMarker? line = some hidden := by decide +kernel
  have hline' : (Edit.delete hidden.start hidden.stop).apply line =
      "a\\\\\\begin{b}%\\end{b}".toList := by decide +kernel
  obtain ⟨hback, -⟩ := hiddenMarker?_comesBack h
  rw [hline'] at hback
  exact ⟨h, hback⟩

end LatexRepair
