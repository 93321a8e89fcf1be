import LatexRepair.PictureRepair
import LatexRepair.Proofs.RestoredEnds

/-!
# The tally of pictures

What a `Tally` says about the lines that it was taken of (`Tallied`) : how many pictures are open
behind them, the last line on which a picture begins, and the last line on which a figure ends. The
repair closes the open pictures on this last line, if all pictures begin before it
(`closePictures?_eq_some_iff`).
-/

namespace LatexRepair

open PictureRepair (pictureName pictureEnd figureNames)

/-- The marker that begins a picture. -/
def pictureBegin : Marker :=
  ⟨.opening, pictureName⟩

/-- The marker ends a figure. -/
def Marker.isFigureEnd (m : Marker) : Bool :=
  m.kind = .closing && figureNames.contains m.name

namespace PictureRepair

/-- Count the open pictures on behind a marker. -/
def countPicture (n : Nat) (m : Marker) : Nat :=
  if m = pictureBegin then n + 1 else if m = pictureEnd then n - 1 else n

theorem Tally.step_eq (s : Tally) (x : Occurrence) :
    s.step x = ⟨countPicture s.opened x.marker,
      if x.marker = pictureBegin then some x.line else s.lastBegin,
      if x.marker.isFigureEnd then some x.line else s.lastFigureEnd⟩ := by
  obtain ⟨⟨kind, name⟩, line, state, stop⟩ := x
  cases kind with
  | opening =>
    by_cases h : name = pictureName <;>
      simp [Tally.step, countPicture, pictureBegin, pictureEnd, Marker.isFigureEnd, h]
  | closing =>
    by_cases h : name = pictureName
    · have hname : pictureName ∉ figureNames := by decide
      simp [Tally.step, countPicture, pictureBegin, pictureEnd, Marker.isFigureEnd, h, hname]
    · simp only [Tally.step, countPicture, pictureBegin, pictureEnd, Marker.isFigureEnd, h,
        Marker.mk.injEq, reduceCtorEq, false_and, true_and, ↓reduceIte, decide_true, Bool.true_and]
      split <;> rfl

/-- What the markers of one line add. -/
theorem Tally.foldl_step (s : Tally) {k : Nat} {xs : List Occurrence} (h : ∀ x ∈ xs, x.line = k) :
    xs.foldl Tally.step s = ⟨(xs.map (·.marker)).foldl countPicture s.opened,
      if pictureBegin ∈ xs.map (·.marker) then some k else s.lastBegin,
      if ∃ m ∈ xs.map (·.marker), m.isFigureEnd = true then some k else s.lastFigureEnd⟩ := by
  induction xs generalizing s with
  | nil => simp
  | cons x xs ih =>
    obtain ⟨rfl, hxs⟩ := List.forall_mem_cons.1 h
    rw [List.foldl_cons, ih _ hxs, Tally.step_eq, List.map_cons, List.foldl_cons]
    simp only [List.mem_cons, exists_eq_or_imp, Tally.mk.injEq, true_and,
      eq_comm (a := pictureBegin)]
    constructor
    · by_cases h₁ : x.marker = pictureBegin <;> simp [h₁]
    · by_cases h₁ : x.marker.isFigureEnd = true <;> simp [h₁]

/-- The number of the last of some lines with a property. -/
inductive LastLine (P : Text → Prop) : List Text → Option Nat → Prop where
  | none {ls : List Text} (h : ∀ line ∈ ls, ¬P line) : LastLine P ls none
  | some {before : List Text} {line : Text} {behind : List Text} (hline : P line)
      (hbehind : ∀ line ∈ behind, ¬P line) :
      LastLine P (before ++ line :: behind) (some before.length)

namespace LastLine

variable {P : Text → Prop} {ls before rest : List Text} {o : Option Nat}

theorem lt_length {k : Nat} (h : LastLine P ls (Option.some k)) : k < ls.length := by
  cases h with
  | some => simp

theorem concat [DecidablePred P] (h : LastLine P ls o) (line : Text) :
    LastLine P (ls ++ [line]) (if P line then Option.some ls.length else o) := by
  by_cases hline : P line
  · rw [if_pos hline]
    exact .some hline (List.forall_mem_nil _)
  · rw [if_neg hline]
    cases h with
    | none h => exact .none (List.forall_mem_append.2 ⟨h, List.forall_mem_singleton.2 hline⟩)
    | some hfound hbehind =>
      rw [List.append_assoc]
      exact .some hfound (List.forall_mem_append.2 ⟨hbehind, List.forall_mem_singleton.2 hline⟩)

theorem lt_length_iff (h : LastLine P (before ++ rest) o) :
    (∃ k ∈ o, k < before.length) ↔ (∃ line ∈ before, P line) ∧ ∀ line ∈ rest, ¬P line := by
  generalize hls : before ++ rest = ls at h
  cases h with
  | none h =>
    subst hls
    obtain ⟨hbefore, -⟩ := List.forall_mem_append.1 h
    simpa using fun line hline hP => absurd hP (hbefore line hline)
  | @some front line behind hline hbehind =>
    rcases List.append_eq_append_iff.1 hls with ⟨c, rfl, hrest⟩ | ⟨c, rfl, hbehind'⟩
    · -- The last line with the property is behind `before`.
      have hmem : line ∈ rest := hrest ▸ List.mem_append_right _ List.mem_cons_self
      refine ⟨fun ⟨k, hk, hlt⟩ => ?_, fun h => absurd hline (h.2 line hmem)⟩
      obtain rfl := Option.some.inj hk
      rw [List.length_append] at hlt
      omega
    · cases c with
      | nil =>
        have hmem : line ∈ rest := by
          rw [List.nil_append] at hbehind'
          exact hbehind' ▸ List.mem_cons_self
        refine ⟨fun ⟨k, hk, hlt⟩ => ?_, fun h => absurd hline (h.2 line hmem)⟩
        obtain rfl := Option.some.inj hk
        simp at hlt
      | cons d c =>
        obtain ⟨rfl, rfl⟩ := List.cons.inj hbehind'
        refine iff_of_true ⟨_, rfl, ?_⟩ ⟨⟨line, ?_, hline⟩, ?_⟩
        · simp
        · simp
        · exact (List.forall_mem_append.1 hbehind).2

theorem eq_some_iff {line : Text} {behind : List Text}
    (h : LastLine P (before ++ line :: behind) o) :
    o = Option.some before.length ↔ P line ∧ ∀ line ∈ behind, ¬P line := by
  have hbefore := h.lt_length_iff
  rw [← List.singleton_append, ← List.append_assoc] at h
  have hline := h.lt_length_iff
  rw [List.length_append, List.length_singleton] at hline
  constructor
  · rintro rfl
    obtain ⟨⟨found, hmem, hfound⟩, hbehind⟩ := hline.1 ⟨_, rfl, Nat.lt_succ_self _⟩
    refine ⟨?_, hbehind⟩
    by_contra hP
    rcases List.mem_append.1 hmem with hmem | hmem
    · obtain ⟨k, hk, hlt⟩ := hbefore.2 ⟨⟨found, hmem, hfound⟩, List.forall_mem_cons.2 ⟨hP, hbehind⟩⟩
      obtain rfl := Option.some.inj hk
      exact Nat.lt_irrefl _ hlt
    · exact hP (List.mem_singleton.1 hmem ▸ hfound)
  · rintro ⟨hP, hbehind⟩
    obtain ⟨k, rfl, hle⟩ := hline.2 ⟨⟨line, by simp, hP⟩, hbehind⟩
    have hge : ¬k < before.length := fun hlt =>
      (hbefore.1 ⟨k, rfl, hlt⟩).2 line List.mem_cons_self hP
    exact congrArg Option.some (by omega)

end LastLine

/-- What a tally says about lines. -/
structure Tallied (ls : List Text) (s : Tally) : Prop where
  opened : s.opened = (liveWord ls).foldl countPicture 0
  begins : LastLine (fun line => pictureBegin ∈ liveWord [line]) ls s.lastBegin
  ends : LastLine (fun line => ∃ m ∈ liveWord [line], m.isFigureEnd = true) ls s.lastFigureEnd

theorem live_ofLines_concat (ls : List Text) (line : Text) :
    (Occurrence.ofLines (ls ++ [line])).filter (·.isLive) =
      (Occurrence.ofLines ls).filter (·.isLive) ++
        (Occurrence.ofLine ls.length line).filter (·.isLive) := by
  rw [Occurrence.ofLines, List.mapIdx_append, List.flatten_append, List.filter_append]
  simp [Occurrence.ofLines]

theorem map_marker_live_ofLine (k : Nat) (line : Text) :
    ((Occurrence.ofLine k line).filter (·.isLive)).map (·.marker) = liveWord [line] := by
  rw [liveWord, List.flatMap_singleton, liveMarkers, Occurrence.ofLine, List.filter_map,
    List.map_map]
  refine congrArg (List.map PlacedMarker.marker) (List.filter_congr fun x _ => ?_)
  rw [Function.comp_apply, Bool.eq_iff_iff, Occurrence.isLive_iff rfl, decide_eq_true_iff]

theorem tallied_tally (ls : List Text) : Tallied ls (tally ls) := by
  induction ls using List.reverseRecOn with
  | nil => exact ⟨rfl, .none (List.forall_mem_nil _), .none (List.forall_mem_nil _)⟩
  | append_singleton ls line ih =>
    have hlines : ∀ x ∈ (Occurrence.ofLine ls.length line).filter (·.isLive),
        x.line = ls.length := fun x hx => by
      obtain ⟨m, -, rfl⟩ := List.mem_map.1 (List.mem_of_mem_filter hx)
      rfl
    have hstep := Tally.foldl_step (tally ls) hlines
    rw [map_marker_live_ofLine] at hstep
    rw [tally, live_ofLines_concat, List.foldl_append, ← tally, hstep]
    refine ⟨?_, ih.begins.concat line, ih.ends.concat line⟩
    rw [liveWord_append, List.foldl_append, ← ih.opened]

/-- The ends of open pictures go before `line`: the last line on which a figure ends, if all
pictures begin before it. -/
structure InsertionLine (ls before : List Text) (line : Text) (behind : List Text) : Prop where
  split : ls = before ++ line :: behind
  ends : ∃ m ∈ liveWord [line], m.isFigureEnd = true
  last : ∀ m ∈ liveWord behind, m.isFigureEnd = false
  begins : pictureBegin ∈ liveWord before
  closed : pictureBegin ∉ liveWord (line :: behind)

theorem mem_liveWord {m : Marker} {ls : List Text} :
    m ∈ liveWord ls ↔ ∃ line ∈ ls, m ∈ liveWord [line] := by
  simp [liveWord]

theorem insertionLine_iff {s : Tally} {ls before : List Text} {line : Text} {behind : List Text}
    (h : Tallied ls s) (hsplit : ls = before ++ line :: behind) :
    InsertionLine ls before line behind ↔
      s.lastFigureEnd = some before.length ∧ ∃ k ∈ s.lastBegin, k < before.length := by
  subst hsplit
  have hforall : ∀ ms : List Text, (∀ l ∈ ms, ¬∃ m ∈ liveWord [l], m.isFigureEnd = true) ↔
      ∀ m ∈ liveWord ms, m.isFigureEnd = false := fun ms => by
    simp only [@mem_liveWord _ ms, not_exists, not_and, Bool.not_eq_true]
    exact ⟨fun h m ⟨l, hl, hm⟩ => h l hl m hm, fun h l hl m hm => h m ⟨l, hl, hm⟩⟩
  rw [h.ends.eq_some_iff, h.begins.lt_length_iff, hforall, ← mem_liveWord]
  have hover : (∀ l ∈ line :: behind, pictureBegin ∉ liveWord [l]) ↔
      pictureBegin ∉ liveWord (line :: behind) := by
    rw [@mem_liveWord _ (line :: behind), not_exists]
    exact forall_congr' fun _ => not_and.symm
  rw [hover]
  exact ⟨fun h => ⟨⟨h.ends, h.last⟩, h.begins, h.closed⟩,
    fun h => ⟨rfl, h.1.1, h.1.2, h.2.1, h.2.2⟩⟩

/-- The repair puts the ends of open pictures before the insertion line. -/
theorem closePictures?_eq_some_iff {t u : Text} {n : Nat} :
    closePictures? t = some (u, n) ↔ ∃ before line behind,
      InsertionLine (Text.lines t) before line behind ∧
        n = (liveWord (Text.lines t)).foldl countPicture 0 ∧ n ≠ 0 ∧
        u = Text.unlines (before ++ List.replicate n pictureEnd.text ++ line :: behind) := by
  simp only [closePictures?, Option.bind_eq_bind, Option.bind_eq_some_iff]
  generalize Text.lines t = ls
  have htally := tallied_tally ls
  rw [← htally.opened]
  generalize tally ls = s at htally
  constructor
  · rintro ⟨stop, hstop, first, hfirst, h⟩
    have hends := htally.ends
    rw [hstop] at hends
    cases hends with
    | @some before line behind hline hbehind =>
      split at h
      · cases h
      · rename_i hlate
        rw [Bool.or_eq_true, decide_eq_true_iff, decide_eq_true_iff, not_or, Nat.not_le] at hlate
        rw [List.take_left, List.drop_left] at h
        obtain ⟨rfl, rfl⟩ := Prod.mk.inj (Option.some.inj h)
        exact ⟨before, line, behind,
          (insertionLine_iff htally rfl).2 ⟨hstop, first, hfirst, hlate.1⟩, rfl, hlate.2, rfl⟩
  · rintro ⟨before, line, behind, hline, rfl, hn, rfl⟩
    obtain ⟨hstop, first, hfirst, hlt⟩ := (insertionLine_iff htally hline.split).1 hline
    refine ⟨_, hstop, first, hfirst, ?_⟩
    rw [if_neg (by simp [hn, hlt]), hline.split, List.take_left, List.drop_left]

end PictureRepair

end LatexRepair
