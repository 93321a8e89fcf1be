import LatexRepair.Proofs.MarkerReading

/-!
# Places of markers

Each marker of a text is spelled between the places that are given with it
(`exists_spelling_of_mem_markers`), and markers do not overlap (`pairwise_markersFrom`), for the
only backslash of a spelling is its first character. So what stands before a backslash can
be read on its own (`markersFrom_append_backslash`), and so can what stands around a marker
(`markersFrom_around_spelling`).
-/

namespace LatexRepair

namespace Marker

namespace Spelling

theorem exists_text_eq (s : Spelling) : ∃ r, s.text = '\\' :: r ∧ '\\' ∉ r := by
  have hblanks : '\\' ∉ s.blanks := fun h => absurd (s.blank _ h) (by decide)
  have hname : '\\' ∉ s.name := fun h => absurd (s.nameChar _ h) (by decide)
  obtain ⟨w, hw, hmem⟩ : ∃ w, controlWord s.kind = '\\' :: w ∧ '\\' ∉ w := by
    cases s.kind
    · exact ⟨"begin".toList, by decide, by decide⟩
    · exact ⟨"end".toList, by decide, by decide⟩
  exact ⟨w ++ (s.blanks ++ '{' :: (s.name ++ ['}'])), by simp [text, hw],
    by simp [hmem, hblanks, hname]⟩

/-- Spellings of markers of different kinds do not start the same text. -/
theorem kind_eq_of_isPrefix {s s' : Spelling} {t : Text} (h : s.text <+: t) (h' : s'.text <+: t) :
    s.kind = s'.kind := by
  have hword : ∀ s : Spelling, s.text <+: t → t[1]? = (controlWord s.kind)[1]? := by
    rintro s ⟨r, rfl⟩
    rw [text, List.append_assoc]
    cases s.kind <;> rfl
  have heq := (hword s h).symm.trans (hword s' h')
  revert heq
  cases s.kind <;> cases s'.kind <;> decide

end Spelling

/-- A text starts with a marker exactly when it starts with one of its spellings. -/
theorem at?_eq_some_iff {t : Text} {m : Marker} {n : Nat} :
    at? t = some (m, n) ↔ ∃ s : Spelling, s.text <+: t ∧ m = s.marker ∧ n = s.text.length := by
  rw [at?, Option.orElse_eq_orElse, Option.orElse_eq_or, Option.or_eq_some_iff]
  constructor
  · rintro (h | ⟨-, h⟩) <;> obtain ⟨s, -, h⟩ := ofKindAt?_eq_some_iff.1 h <;> exact ⟨s, h⟩
  · rintro ⟨s, hs, hm, hn⟩
    cases hk : s.kind with
    | opening => exact .inl (ofKindAt?_eq_some_iff.2 ⟨s, hk, hs, hm, hn⟩)
    | closing =>
      refine .inr ⟨Option.eq_none_iff_forall_ne_some.2 fun x hx => ?_,
        ofKindAt?_eq_some_iff.2 ⟨s, hk, hs, hm, hn⟩⟩
      obtain ⟨s', hk', hs', -⟩ := ofKindAt?_eq_some_iff.1 hx
      have := Spelling.kind_eq_of_isPrefix hs hs'
      rw [hk, hk'] at this
      cases this

end Marker

/-- A marker is spelled at its place. -/
theorem exists_spelling_of_mem_markersFrom {i : Nat} {t : Text} {x : PlacedMarker}
    (h : x ∈ markersFrom i t) :
    ∃ a s b, t = a ++ (Marker.Spelling.text s ++ b) ∧ s.marker = x.marker ∧
      x.start = i + a.length ∧ x.stop = i + a.length + s.text.length := by
  induction t generalizing i with
  | nil => cases h
  | cons c t ih =>
    have htail : x ∈ markersFrom (i + 1) t → ∃ a s b, c :: t = a ++ (Marker.Spelling.text s ++ b) ∧
        s.marker = x.marker ∧ x.start = i + a.length ∧
          x.stop = i + a.length + s.text.length := fun hx => by
      obtain ⟨a, s, b, rfl, hm, hstart, hstop⟩ := ih hx
      exact ⟨c :: a, s, b, rfl, hm, by simp only [List.length_cons]; omega,
        by simp only [List.length_cons]; omega⟩
    rw [markersFrom] at h
    split at h
    · rename_i m n hm
      rcases List.mem_cons.1 h with rfl | h
      · obtain ⟨s, ⟨b, hb⟩, rfl, rfl⟩ := Marker.at?_eq_some_iff.1 hm
        exact ⟨[], s, b, hb.symm, rfl, rfl, rfl⟩
      · exact htail h
    · exact htail h

theorem exists_spelling_of_mem_markers {t : Text} {x : PlacedMarker} (h : x ∈ markers t) :
    ∃ a s b, t = a ++ (Marker.Spelling.text s ++ b) ∧ s.marker = x.marker ∧
      x.start = a.length ∧ x.stop = a.length + s.text.length := by
  simpa using exists_spelling_of_mem_markersFrom h

/-- No marker is empty. -/
theorem start_lt_stop_of_mem_markersFrom {i : Nat} {t : Text} {x : PlacedMarker}
    (h : x ∈ markersFrom i t) : x.start < x.stop := by
  obtain ⟨a, s, b, -, -, hstart, hstop⟩ := exists_spelling_of_mem_markersFrom h
  obtain ⟨w, hw, -⟩ := s.exists_text_eq
  rw [hw, List.length_cons] at hstop
  omega

/-- A text that starts with a marker holds no other one before the end of that marker. -/
theorem stop_le_of_mem_markersFrom {i : Nat} {s : Marker.Spelling} {r t : Text}
    {x : PlacedMarker} (hr : s.text ++ r = '\\' :: t) (h : x ∈ markersFrom (i + 1) t) :
    i + s.text.length ≤ x.start := by
  obtain ⟨w, hw, hmem⟩ := s.exists_text_eq
  obtain ⟨j, hstart, hj⟩ := getElem?_start_of_mem_markersFrom h
  rw [hw, List.cons_append, List.cons.injEq] at hr
  obtain ⟨-, rfl⟩ := hr
  rw [hw, List.length_cons]
  by_contra hlt
  rw [List.getElem?_append_left (by omega)] at hj
  exact hmem (List.mem_of_getElem? hj)

/-- Markers do not overlap. -/
theorem pairwise_markersFrom (i : Nat) (t : Text) :
    (markersFrom i t).Pairwise fun x y => x.stop ≤ y.start := by
  induction t generalizing i with
  | nil => exact .nil
  | cons c t ih =>
    rw [markersFrom]
    split
    · rename_i m n hm
      refine List.pairwise_cons.2 ⟨fun y hy => ?_, ih (i + 1)⟩
      obtain rfl := Marker.head_of_at? hm
      obtain ⟨s, ⟨r, hr⟩, -, rfl⟩ := Marker.at?_eq_some_iff.1 hm
      exact stop_le_of_mem_markersFrom hr hy
    · exact ih (i + 1)

theorem pairwise_liveMarkers (line : Text) :
    (liveMarkers line).Pairwise fun x y => x.stop ≤ y.start :=
  (pairwise_markersFrom 0 line).filter _

/-- Where a text starts says only by how much its markers are further on. -/
theorem markersFrom_add (i k : Nat) (t : Text) :
    markersFrom (i + k) t =
      (markersFrom i t).map fun x => ⟨x.marker, x.start + k, x.stop + k⟩ := by
  induction t generalizing i with
  | nil => rfl
  | cons c t ih =>
    rw [markersFrom, markersFrom, Nat.add_right_comm, ih]
    cases Marker.at? (c :: t) with
    | none => rfl
    | some m => simp [Nat.add_right_comm]

/-! ## Cuts -/

/-- No marker reaches over a backslash. -/
theorem Marker.at?_append_backslash (c : Char) (t r : Text) :
    at? (c :: (t ++ '\\' :: r)) = at? (c :: t) := by
  refine Option.ext fun ⟨m, n⟩ => ?_
  simp only [at?_eq_some_iff]
  refine exists_congr fun s => and_congr_left fun _ => ?_
  obtain ⟨w, hw, hmem⟩ := s.exists_text_eq
  rw [hw, List.cons_prefix_cons, List.cons_prefix_cons, isPrefix_append_cons_iff hmem]

/-- A text may be read in two parts where a backslash stands. -/
theorem markersFrom_append_backslash (i : Nat) (t r : Text) :
    markersFrom i (t ++ '\\' :: r) =
      markersFrom i t ++ markersFrom (i + t.length) ('\\' :: r) := by
  induction t generalizing i with
  | nil => rfl
  | cons c t ih =>
    have hrest := ih (i + 1)
    rw [Nat.add_assoc, Nat.add_comm 1, ← List.length_cons (a := c)] at hrest
    rw [List.cons_append, markersFrom, markersFrom, Marker.at?_append_backslash, hrest]
    cases Marker.at? (c :: t) <;> rfl

/-- Text without a backslash holds no marker. -/
theorem markersFrom_append_of_not_mem (i : Nat) {t : Text} (h : '\\' ∉ t) (r : Text) :
    markersFrom i (t ++ r) = markersFrom (i + t.length) r := by
  induction t generalizing i with
  | nil => rfl
  | cons c t ih =>
    rw [List.mem_cons, not_or] at h
    have hnone : Marker.at? (c :: (t ++ r)) = none := Option.eq_none_iff_forall_ne_some.2
      fun m hm => h.1 (Marker.head_of_at? hm).symm
    rw [List.cons_append, markersFrom, hnone, List.length_cons, Nat.add_comm t.length,
      ← Nat.add_assoc]
    exact ih (i + 1) h.2

/-- Behind a spelling that the text starts with the markers go on. -/
theorem markersFrom_spelling (i : Nat) (s : Marker.Spelling) (r : Text) :
    markersFrom i (s.text ++ r) =
      ⟨s.marker, i, i + s.text.length⟩ :: markersFrom (i + s.text.length) r := by
  obtain ⟨w, hw, hmem⟩ := s.exists_text_eq
  have hat : Marker.at? ('\\' :: (w ++ r)) = some (s.marker, s.text.length) :=
    Marker.at?_eq_some_iff.2 ⟨s, by rw [hw]; exact List.prefix_append _ _, rfl, rfl⟩
  rw [hw, List.cons_append, markersFrom, hat, ← hw, markersFrom_append_of_not_mem _ hmem]
  have hlength : i + 1 + w.length = i + s.text.length := by
    rw [hw, List.length_cons]
    omega
  rw [hlength]

/-- A text may be read in three parts around a spelling. -/
theorem markersFrom_around_spelling (i : Nat) (a : Text) (s : Marker.Spelling) (b : Text) :
    markersFrom i (a ++ (s.text ++ b)) =
      markersFrom i a ++ ⟨s.marker, i + a.length, i + a.length + s.text.length⟩ ::
        markersFrom (i + a.length + s.text.length) b := by
  obtain ⟨w, hw, -⟩ := s.exists_text_eq
  have hcut := markersFrom_append_backslash i a (w ++ b)
  rwa [← List.cons_append, ← hw, markersFrom_spelling] at hcut

end LatexRepair
