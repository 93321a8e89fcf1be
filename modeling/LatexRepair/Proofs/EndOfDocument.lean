import LatexRepair.Proofs.TrimmedEnds

/-!
# The end of the document in a guided repair

A guide ends the document once if it has one live end, every line of it ends the document or does
not mention its end in its code, and every `\end` beside the end has its group (`EndsOnce`). Beside
such a guide a rendition is left with one end at most, if each of its lines ends the document or
does not mention its end, remarks apart, and no brace of an end is trimmed
(`Guided.SparesBraces`). The end is kept where no pass compares line by line, and where it stands
beside that of the guide when a pass does. A rendition that is compared line by line in every pass
has an end left exactly when one of its ends stands beside that of the guide
(`repairGuided_keeps_end`). `repairGuided_loses_end` has, for each of these conditions, documents
that do not meet it and are left with no end or with two.
-/

namespace LatexRepair

open StructureRepair AlignedLines Guided

variable {strict : Prop} {t u guide l g : Text} {ts gs : List Text} {k m n : Nat}

/-! ## Ends beside each other -/

/-- The number of live ends of the document in a text. -/
def liveEnds (t : Text) : Nat :=
  Occurrences.liveCount .endDocument (Occurrence.ofLines (Text.lines t))

/-- An end of the document stands beside one of the guide. -/
def Meets (ts gs : List Text) : Prop :=
  ∃ x ∈ ts.zip gs, hasTerminator x.1 = true ∧ hasTerminator x.2 = true

instance (ts gs : List Text) : Decidable (Meets ts gs) :=
  inferInstanceAs (Decidable (∃ x ∈ ts.zip gs, _))

theorem meets_cons : Meets (t :: ts) (g :: gs) ↔
    hasTerminator t = true ∧ hasTerminator g = true ∨ Meets ts gs := by
  simp [Meets]

/-- If a pass compares line by line, the ends of the document stand beside each other. -/
def Guided.Faces (guide t : Text) : Prop :=
  ∀ u ∈ compared? guide t, Meets (Text.lines u) (Text.lines guide)

instance (guide t : Text) : Decidable (Faces guide t) :=
  inferInstanceAs (Decidable (∀ u ∈ compared? guide t, _))

/-- A text has no fewer live ends than lines with one, and as many if no line has two. -/
theorem countP_hasTerminator (ts : List Text) :
    ts.countP hasTerminator ≤ Occurrences.liveCount .endDocument (Occurrence.ofLines ts) ∧
      ((∀ l ∈ ts, ((liveMarkers l).filter (·.marker = .endDocument)).length ≤ 1) →
        Occurrences.liveCount .endDocument (Occurrence.ofLines ts) = ts.countP hasTerminator) := by
  rw [Occurrences.liveCount_ofLines]
  induction ts with
  | nil => exact ⟨Nat.le_refl 0, fun _ => rfl⟩
  | cons l ts ih =>
    have hline : hasTerminator l = true ↔
        0 < ((liveMarkers l).filter (·.marker = .endDocument)).length := by
      rw [hasTerminator, List.any_eq_true, List.length_filter_pos_iff]
    rw [List.flatMap_cons, List.countP_append, List.countP_cons, List.forall_mem_cons,
      List.countP_eq_length_filter (l := liveMarkers l)]
    obtain ⟨hle, heq⟩ := ih
    by_cases hlive : hasTerminator l = true
    · have hpos := hline.1 hlive
      rw [if_pos hlive]
      exact ⟨by omega, fun h => by rw [heq h.2]; omega⟩
    · have hzero := mt hline.2 hlive
      rw [if_neg hlive]
      exact ⟨by omega, fun h => by rw [heq h.2]; omega⟩

/-! ## The guide -/

/-- The guide has one live end of the document. A line of it ends the document in its code, where
every `\end` has its group, or does not mention its end there. -/
structure EndsOnce (guide : Text) : Prop where
  once : liveEnds guide = 1
  legible : ∀ g ∈ Text.lines guide, IsEndLine (codePart g) ∨ ¬Mentions (codePart g)
  closed : ∀ g ∈ Text.lines guide,
    Text.contains terminator (codePart g) = true → EndsClosed (skeleton (codePart g))

/-- A line without a live end of the document shows none in its comment either. -/
def Guided.ShowsLiveEnds (guide : Text) : Prop :=
  ∀ g ∈ Text.lines guide, hasTerminator g = false →
    .endDocument ∉ (markers g).map (·.marker)

instance (guide : Text) : Decidable (ShowsLiveEnds guide) :=
  inferInstanceAs (Decidable (∀ g ∈ Text.lines guide, _))

namespace EndsOnce

theorem hasTerminator_eq (h : EndsOnce guide) (hg : g ∈ Text.lines guide) :
    hasTerminator g = Text.contains terminator (codePart g) := by
  rcases h.legible g hg with ⟨a, b, hcode, -, -⟩ | hfree
  · have hlive : hasTerminator g = true := by
      rw [hasTerminator, liveMarkers_eq, hcode, markers_around_terminator]
      simp
    rw [hlive, Text.contains_iff.2 ⟨a, b, hcode⟩]
  · have hnone : Text.contains terminator (codePart g) = false := Bool.eq_false_iff.2 fun hc => by
      obtain ⟨a, b, hab⟩ := Text.contains_iff.1 hc
      exact hfree (hab ▸ mentions_terminator a b)
    rw [hnone, hasTerminator, liveMarkers_eq]
    exact List.any_eq_false.2 (List.filter_eq_nil_iff.1 (filter_markersFrom_eq_nil hfree 0))

theorem countP_le_one (h : EndsOnce guide) : (Text.lines guide).countP hasTerminator ≤ 1 :=
  h.once ▸ (countP_hasTerminator (Text.lines guide)).1

end EndsOnce

theorem newline_not_mem_lineStep (hl : '\n' ∉ l) (hg : '\n' ∉ g) : '\n' ∉ lineStep g l :=
  LineRepair.newline_not_mem_rounds LineRepair.maxRounds hl hg

/-! ## Lines that are compared with the guide -/

/-- Lines that are repaired one by one keep an end that stands beside that of the guide, and lose
the others. -/
theorem EndsOnce.ends_mapAligned (hguide : EndsOnce guide)
    (hwell : ∀ g ∈ Text.lines guide, EndsWell strict g) (hts : Ends strict n ts)
    (hgs : ∀ g ∈ gs, g ∈ Text.lines guide) (hone : gs.countP hasTerminator ≤ 1)
    (hrest : ∀ l ∈ ts.drop gs.length, SparesDocument l) :
    ∃ m ≤ gs.countP hasTerminator, Ends strict m (mapAligned (fun t g => lineStep g t) ts gs) ∧
      (Meets ts gs → 0 < m) ∧
      (m = 0 → Loosely strict (leftOf ts)
        (leftOf (mapAligned (fun t g => lineStep g t) ts gs))) := by
  induction hts generalizing gs with
  | nil =>
    have hnil : mapAligned (fun t g => lineStep g t) [] gs = [] := by cases gs <;> rfl
    rw [hnil]
    exact ⟨0, Nat.zero_le _, .nil, by simp [Meets], fun _ => .refl _⟩
  | @free n l ts hl hspares hts ih =>
    cases gs with
    | nil =>
      exact ⟨0, Nat.zero_le _, ends_zero (List.forall_mem_cons.2 ⟨hl, hts.newline_not_mem⟩) hrest,
        by simp [Meets], fun _ => .refl _⟩
    | cons g gs =>
      rw [List.forall_mem_cons] at hgs
      rw [List.countP_cons] at hone ⊢
      obtain ⟨m, hm, hends, hmeets, hleft⟩ := ih hgs.2 (by omega) hrest
      obtain ⟨hline, hloosely⟩ := hspares.lineStep hgs.1 (hwell g hgs.1)
      have hnewline := newline_not_mem_lineStep hl (Text.newline_not_mem_of_mem_lines hgs.1)
      refine ⟨m, by omega, .free hnewline hline hends, ?_, fun hzero => ?_⟩
      · rw [meets_cons, hspares.hasTerminator_eq]
        simpa using hmeets
      · rw [mapAligned, leftOf, leftOf, List.flatMap_cons, List.flatMap_cons,
          hspares.withoutEnd_eq, hline.withoutEnd_eq]
        exact hloosely.append (hleft hzero)
  | @ended n l x y ts hl hend hcalm hts ih =>
    cases gs with
    | nil =>
      have hnot := (hrest l (List.mem_cons_self ..)).hasTerminator_eq
      rw [hend.hasTerminator_eq] at hnot
      cases hnot
    | cons g gs =>
      rw [List.forall_mem_cons] at hgs
      rw [List.countP_cons] at hone ⊢
      obtain ⟨m, hm, hends, hmeets, hleft⟩ := ih hgs.2 (by omega) hrest
      have hnewline := newline_not_mem_lineStep hl (Text.newline_not_mem_of_mem_lines hgs.1)
      rw [meets_cons, hend.hasTerminator_eq, mapAligned]
      cases hg : hasTerminator g with
      | true =>
        -- The guide has no other end, so behind this one no line keeps its own.
        rw [hg, if_pos rfl] at hone
        obtain rfl : m = 0 := by omega
        obtain ⟨x', y', hstays, -, hy⟩ := hend.lineStep hgs.1 (hwell g hgs.1)
          (hguide.hasTerminator_eq hgs.1 ▸ hg)
        exact ⟨1, by simp, .ended hnewline hstays (hcalm.of_loosely (hy.append (hleft rfl))) hends,
          fun _ => Nat.one_pos, fun hzero => absurd hzero Nat.one_ne_zero⟩
      | false =>
        obtain ⟨hline, hloosely⟩ := hend.sparesDocument_lineStep hgs.1 (hwell g hgs.1)
          (hguide.hasTerminator_eq hgs.1 ▸ hg)
        refine ⟨m, by simpa using hm, .free hnewline hline hends, by simpa using hmeets,
          fun hzero => ?_⟩
        rw [leftOf, leftOf, List.flatMap_cons, List.flatMap_cons, hend.withoutEnd_eq,
          hline.withoutEnd_eq]
        exact hloosely.append (hleft hzero)

/-- Lines whose signatures agree both end the document, or neither does. -/
theorem EndsOnce.keeps_lineStep_of_agree (hguide : EndsOnce guide) (hwell : EndsWell strict g)
    (hg : g ∈ Text.lines guide) (h : agree l g = true) :
    Keeps strict (ShowsLiveEnds guide) l (lineStep g l) where
  newline hl := newline_not_mem_lineStep hl (Text.newline_not_mem_of_mem_lines hg)
  ended x y hl := by
    cases hend : hasTerminator g with
    | true => exact .inl (hl.lineStep hg hwell (hguide.hasTerminator_eq hg ▸ hend))
    | false =>
      refine .inr ⟨fun hshows => hshows g hg hend ?_,
        (hl.sparesDocument_lineStep hg hwell (hguide.hasTerminator_eq hg ▸ hend)).1⟩
      have hmarkers : (markers l).map (·.marker) = (markers g).map (·.marker) :=
        congrArg Signature.markers (of_decide_eq_true h)
      obtain ⟨b, r, -, rfl, -⟩ := hl
      rw [← hmarkers, markers_around_terminator]
      simp
  free hl := hl.lineStep hg hwell

/-! ## One pass -/

/-- Behind as many lines as the guide has no line mentions the end of the document. -/
theorem sparesDocument_of_mem_drop (h : Text.lineCount t = Text.lineCount guide) :
    ∀ l ∈ (Text.lines t).drop (Text.lines guide).length, SparesDocument l := by
  obtain ⟨ts, rest, hts, hlen, hrest⟩ := Text.exists_lines_eq_append t
  obtain ⟨gs, last, hgs, hglen, -⟩ := Text.exists_lines_eq_append guide
  intro l hl
  rw [hts, hgs, List.length_append, hglen, ← h, ← hlen, List.drop_length_add_append] at hl
  have hl := List.mem_of_mem_drop hl
  rcases hrest with rfl | rfl
  · cases hl
  · rw [List.mem_singleton.1 hl]
    exact sparesDocument_of_not_mentions (by decide)

/-- No brace of an end of the document is trimmed : the guide has a trailing brace. If it has none,
two closing braces do not end its line with the end of the document, nor do they follow the end of
the rendition with nothing else. -/
structure Guided.SparesBraces (guide t : Text) : Prop where
  sealed : Sealed (trailingBraces guide = 0) (Text.lines t)
  closers : trailingBraces guide = 0 → ∀ g ∈ Text.lines guide,
    Text.contains terminator (codePart g) = true → ¬EndsInClosers (codePart g)

theorem Guided.SparesBraces.endsWell (h : SparesBraces guide t) (hguide : EndsOnce guide) :
    ∀ g ∈ Text.lines guide, EndsWell (trailingBraces guide = 0) g := fun g hg =>
  ⟨hguide.closed g hg, fun hnone => h.closers hnone g hg⟩

/-- After a pass there is one end at most, and one if there was any and the ends face each
other. -/
theorem EndsOnce.ends_pass (h : EndsOnce guide)
    (hwell : ∀ g ∈ Text.lines guide, EndsWell (trailingBraces guide = 0) g)
    (ht : Ends (trailingBraces guide = 0) n (Text.lines t)) :
    ∃ m ≤ 1, Ends (trailingBraces guide = 0) m (Text.lines (pass guide t)) ∧
      (0 < n → ShowsLiveEnds guide → Faces guide t → 0 < m) := by
  obtain ⟨i, hi, hi', hends⟩ := ends_repairStructure ht h.legible h.once
    ((Nat.eq_zero_or_pos (trailingBraces guide)).imp_right id)
  rw [pass_eq]
  split
  · rename_i u hu
    obtain ⟨hfrom, hcount⟩ := compared?_eq_some hu
    obtain ⟨j, hj⟩ : ∃ j, Ends (trailingBraces guide = 0) j (Text.lines u) := by
      rcases hfrom with rfl | rfl
      · exact ⟨n, ht⟩
      · exact ⟨i, hends⟩
    obtain ⟨m, hm, hline, hmeets, -⟩ := h.ends_mapAligned hwell hj (fun _ hg => hg)
      h.countP_le_one (sparesDocument_of_mem_drop hcount)
    rw [← lines_repairByLine] at hline
    exact ⟨m, hm.trans h.countP_le_one, hline, fun _ _ hfaces => hmeets (hfaces u hu)⟩
  · obtain ⟨us, hkeeps, hus⟩ := lines_repairAnchored Keeps.refl
      (repairStructure t guide).content guide fun l g hg hagree =>
        h.keeps_lineStep_of_agree (hwell g hg) hg hagree
    obtain ⟨m, hm, hsure, hlines, -⟩ := hends.of_forall₂ hi' hkeeps
    rw [hus]
    refine ⟨m, hm.trans hi', hlines.lines_unlines, fun hn hshows _ => ?_⟩
    rw [hsure hshows]
    omega

/-- So it is after some passes. -/
theorem EndsOnce.ends_iterate_pass (h : EndsOnce guide)
    (hwell : ∀ g ∈ Text.lines guide, EndsWell (trailingBraces guide = 0) g)
    (ht : Ends (trailingBraces guide = 0) n (Text.lines t)) (k : Nat) :
    ∃ m ≤ 1, Ends (trailingBraces guide = 0) m (Text.lines ((pass guide)^[k + 1] t)) ∧
      (0 < n → ShowsLiveEnds guide → (∀ j ≤ k, Faces guide ((pass guide)^[j] t)) → 0 < m) := by
  induction k with
  | zero =>
    obtain ⟨m, hm, hends, hpos⟩ := h.ends_pass hwell ht
    exact ⟨m, hm, hends, fun hn hshows hfaces => hpos hn hshows (hfaces 0 (Nat.le_refl 0))⟩
  | succ k ih =>
    obtain ⟨i, -, hi, hpos⟩ := ih
    obtain ⟨m, hm, hends, hpos'⟩ := h.ends_pass hwell hi
    rw [Function.iterate_succ_apply']
    refine ⟨m, hm, hends, fun hn hshows hfaces => hpos' ?_ hshows (hfaces (k + 1) (Nat.le_refl _))⟩
    exact hpos hn hshows fun j hj => hfaces j (hj.trans (Nat.le_succ k))

/-- A rendition that is not compared line by line faces its guide. -/
theorem faces_of_wordedCount (h : Text.lineCount guide < wordedCount t) (k : Nat) :
    Faces guide ((pass guide)^[k] t) := by
  rw [Faces, compared?_eq_none (h.trans_le (wordedCount_le_iterate_pass t guide k))]
  exact nofun

/-! ## Renditions that are compared in every pass -/

/-- Beside the line of the guide the line ends the document, or does not mention its end, or it
has no live end and the rules leave it as it is. -/
def LegibleBeside (g l : Text) : Prop :=
  EndsDocument l ∨ SparesDocument l ∨ lineStep g l = l ∧ hasTerminator l = false

instance (g l : Text) : Decidable (LegibleBeside g l) :=
  inferInstanceAs (Decidable (_ ∨ _))

theorem LegibleBeside.length_le_one (h : LegibleBeside g l) :
    ((liveMarkers l).filter (·.marker = .endDocument)).length ≤ 1 := by
  rcases h with ⟨x, y, h⟩ | h | ⟨-, h⟩
  · rw [h.filter_liveMarkers_eq]
    exact Nat.le_refl 1
  · rw [h.filter_liveMarkers_eq]
    exact Nat.zero_le 1
  · rw [List.filter_eq_nil_iff.2 (List.any_eq_false.1 h)]
    exact Nat.zero_le 1

/-- Such a line stays so, and keeps its end beside one of the guide. -/
theorem EndsOnce.legibleBeside_lineStep (hguide : EndsOnce guide) (hg : g ∈ Text.lines guide)
    (h : LegibleBeside g l) :
    LegibleBeside g (lineStep g l) ∧
      hasTerminator (lineStep g l) = (hasTerminator l && hasTerminator g) := by
  have hwell : EndsWell False g := ⟨hguide.closed g hg, nofun⟩
  rcases h with ⟨x, y, h⟩ | h | ⟨hrest, hnone⟩
  · rw [h.hasTerminator_eq, Bool.true_and]
    cases hend : hasTerminator g with
    | true =>
      obtain ⟨x', y', hstays, -⟩ := h.lineStep hg hwell (hguide.hasTerminator_eq hg ▸ hend)
      exact ⟨.inl ⟨x', y', hstays⟩, hstays.hasTerminator_eq⟩
    | false =>
      have hspares := (h.sparesDocument_lineStep hg hwell (hguide.hasTerminator_eq hg ▸ hend)).1
      exact ⟨.inr (.inl hspares), hspares.hasTerminator_eq⟩
  · have hspares := (h.lineStep hg hwell).1
    rw [h.hasTerminator_eq]
    exact ⟨.inr (.inl hspares), hspares.hasTerminator_eq⟩
  · rw [hrest, hnone]
    exact ⟨.inr (.inr ⟨hrest, hnone⟩), rfl⟩

theorem EndsOnce.legibleBeside_iterate (hguide : EndsOnce guide) (hg : g ∈ Text.lines guide)
    (h : LegibleBeside g l) (k : Nat) :
    LegibleBeside g ((lineStep g)^[k + 1] l) ∧
      hasTerminator ((lineStep g)^[k + 1] l) = (hasTerminator l && hasTerminator g) := by
  induction k with
  | zero => exact hguide.legibleBeside_lineStep hg h
  | succ k ih =>
    obtain ⟨hlegible, heq⟩ := ih
    obtain ⟨hlegible', heq'⟩ := hguide.legibleBeside_lineStep hg hlegible
    rw [Function.iterate_succ_apply']
    exact ⟨hlegible', by rw [heq', heq, Bool.and_assoc, Bool.and_self]⟩

/-- Of lines that keep an end exactly beside one of the guide, one has an end exactly if the ends
meet. -/
theorem countP_mapAligned {f : Text → Text → Text}
    (hf : ∀ x ∈ ts.zip gs, hasTerminator (f x.1 x.2) = (hasTerminator x.1 && hasTerminator x.2))
    (hrest : ∀ l ∈ ts.drop gs.length, hasTerminator l = false) :
    (mapAligned f ts gs).countP hasTerminator ≤ gs.countP hasTerminator ∧
      (0 < (mapAligned f ts gs).countP hasTerminator ↔ Meets ts gs) := by
  induction ts generalizing gs with
  | nil =>
    have hnil : mapAligned f [] gs = [] := by cases gs <;> rfl
    simp [hnil, Meets]
  | cons t ts ih =>
    cases gs with
    | nil =>
      have hnone : (t :: ts).countP hasTerminator = 0 :=
        List.countP_eq_zero.2 fun l hl => by simp [hrest l hl]
      rw [mapAligned, hnone]
      simp [Meets]
    | cons g gs =>
      rw [List.zip_cons_cons, List.forall_mem_cons] at hf
      obtain ⟨hle, hiff⟩ := ih hf.2 hrest
      rw [mapAligned, List.countP_cons, List.countP_cons, meets_cons, ← hiff, hf.1]
      cases hasTerminator t <;> cases hasTerminator g <;> simp <;> omega

/-- In a rendition that is compared in every pass an end stays exactly when it stands beside that
of the guide. -/
theorem EndsOnce.liveEnds_iterate_pass (h : EndsOnce guide) (hu : StaysAligned guide u)
    (hlegible : ∀ x ∈ (Text.lines u).zip (Text.lines guide), LegibleBeside x.2 x.1) (k : Nat) :
    liveEnds ((pass guide)^[k + 1] u) ≤ 1 ∧
      (liveEnds ((pass guide)^[k + 1] u) = 1 ↔ Meets (Text.lines u) (Text.lines guide)) := by
  have hlines := hu.lines_iterate_pass (k + 1)
  have hdrop := sparesDocument_of_mem_drop hu.count
  have hline := fun x (hx : x ∈ (Text.lines u).zip (Text.lines guide)) =>
    h.legibleBeside_iterate (List.of_mem_zip hx).2 (hlegible x hx) k
  obtain ⟨hle, hiff⟩ := countP_mapAligned (f := fun l g => (lineStep g)^[k + 1] l)
    (fun x hx => (hline x hx).2) fun l hl => (hdrop l hl).hasTerminator_eq
  have hcount : liveEnds ((pass guide)^[k + 1] u) =
      (Text.lines ((pass guide)^[k + 1] u)).countP hasTerminator := by
    refine (countP_hasTerminator _).2 ?_
    rw [hlines]
    refine forall_mem_mapAligned (fun x hx => (hline x hx).1.length_le_one) fun l hl => ?_
    exact LegibleBeside.length_le_one (g := []) (.inr (.inl (hdrop l hl)))
  rw [hcount, hlines, ← hiff]
  have := h.countP_le_one
  omega

/-! ## The repair -/

/-- A guide with an end is not blank. -/
theorem EndsOnce.isBlankText_eq_false (h : EndsOnce guide) : Text.isBlankText guide = false := by
  refine Bool.eq_false_iff.2 fun hblank => ?_
  have hnone : Ends False 0 (Text.lines guide) :=
    ends_zero (fun g hg => Text.newline_not_mem_of_mem_lines hg) fun g hg =>
      sparesDocument_of_not_mentions (not_mentions_of_loose fun c hc =>
        isLoose_of_isBlank (List.all_eq_true.1 hblank c (Text.mem_of_mem_lines hg hc)))
  exact absurd (h.once.symm.trans hnone.liveCount_eq) (by decide)

/-- Beside a guide that ends the document once, a rendition whose lines end the document or do not
mention its end is left with one end at most. It is left with one if it has any, the guide shows
no other end, and the ends stand beside each other wherever a pass compares line by line, as they
do if the rendition has more lines with words than the guide has lines. A rendition that is
compared line by line from the first pass on is left with one exactly if the ends stand beside each
other then. -/
theorem repairGuided_keeps_end (hguide : EndsOnce guide) :
    ((∀ l ∈ Text.lines t, EndsDocument l ∨ SparesDocument l) → SparesBraces guide t →
      liveEnds (repairGuided t guide).content ≤ 1 ∧
        (1 ≤ liveEnds t → ShowsLiveEnds guide →
          (∀ n < maxPasses, Faces guide ((pass guide)^[n] t)) ∨
            Text.lineCount guide < wordedCount t →
          liveEnds (repairGuided t guide).content = 1)) ∧
      ∀ u, compared? guide t = some u → StaysAligned guide u →
        (∀ x ∈ (Text.lines u).zip (Text.lines guide), LegibleBeside x.2 x.1) →
        liveEnds (repairGuided t guide).content ≤ 1 ∧
          (liveEnds (repairGuided t guide).content = 1 ↔
            Meets (Text.lines u) (Text.lines guide)) := by
  have hcontent : (repairGuided t guide).content = (pass guide)^[7 + 1] t := by
    rw [repairGuided, if_neg (by simp [hguide.isBlankText_eq_false]), content_passes]
    rfl
  rw [hcontent]
  refine ⟨fun hlines hspares => ?_, fun u hu haligned hlegible => ?_⟩
  · obtain ⟨n, ht⟩ := exists_ends (fun _ => Text.newline_not_mem_of_mem_lines) hlines
      hspares.sealed
    obtain ⟨m, hm, hpasses, hpos⟩ := hguide.ends_iterate_pass (hspares.endsWell hguide) ht 7
    have hbefore : liveEnds t = n := ht.liveCount_eq
    have hcount : liveEnds ((pass guide)^[7 + 1] t) = m := hpasses.liveCount_eq
    refine ⟨hcount ▸ hm, fun hlive hshows hfaces => ?_⟩
    have := hpos (hbefore ▸ hlive) hshows fun j hj =>
      hfaces.elim (fun h => h j (Nat.lt_succ_of_le hj)) fun h => faces_of_wordedCount h j
    omega
  · rw [Function.iterate_succ_apply, pass_of_compared? hu, ← Function.iterate_succ_apply]
    exact hguide.liveEnds_iterate_pass haligned hlegible 7

/-- A surplus end goes with its line, and the lines are compared one by one then. More lines with
words than the guide has lines are not compared at all. Beside the end of the guide an end stays,
also without a newline behind it. -/
theorem repairGuided_keeps_end_twice :
    EndsOnce "x\n\\end{document}\n".toList ∧
      liveEnds "x % no \\end{document}\n\\end{document} %\n\\end{document}\n".toList = 2 ∧
      liveEnds (repairGuided "x % no \\end{document}\n\\end{document} %\n\\end{document}\n".toList
        "x\n\\end{document}\n".toList).content = 1 ∧
      liveEnds (repairGuided "x\ny\n\\end{document}\nz\n".toList
        "x\n\\end{document}\n".toList).content = 1 ∧
      liveEnds
        (repairGuided "y\n\\end{document}".toList "x\n\\end{document}\n".toList).content = 1 := by
  have hguide : EndsOnce "x\n\\end{document}\n".toList :=
    ⟨by decide +kernel, by decide +kernel, by decide +kernel⟩
  refine ⟨hguide, by decide +kernel, ?_, ?_, ?_⟩
  · exact ((repairGuided_keeps_end hguide).1 (by decide +kernel)
      ⟨by decide +kernel, by decide +kernel⟩).2 (by decide +kernel) (by decide +kernel)
        (.inl (by decide +kernel))
  · exact ((repairGuided_keeps_end hguide).1 (by decide +kernel)
      ⟨by decide +kernel, by decide +kernel⟩).2 (by decide +kernel) (by decide +kernel)
        (.inr (by decide +kernel))
  · exact ((repairGuided_keeps_end hguide).2 "y\n\\end{document}".toList (by decide +kernel)
      ⟨by decide +kernel, by decide +kernel⟩ (by decide +kernel)).2.2 (by decide +kernel)

/-- The guide has one live end of the document and the rendition has one, but not one is left. -/
def LosesEnd (t guide : Text) : Prop :=
  liveEnds guide = 1 ∧ 1 ≤ liveEnds t ∧ liveEnds (repairGuided t guide).content ≠ 1

instance (t guide : Text) : Decidable (LosesEnd t guide) :=
  inferInstanceAs (Decidable (_ ∧ _))

/-- Not one end is left where the end stands on another line than that of the guide; where the
guide or the rendition spells its end with a space, or the rendition has two on a line; where a
brace of the end is trimmed, since two braces follow it or the line of the guide ends in two; where
an `\end` of the guide has no group, or its comment shows another end; and where a comment of the
rendition hides one. -/
theorem repairGuided_loses_end :
    LosesEnd "\\end{document}\nx\n".toList "x\n\\end{document}\n".toList ∧
      LosesEnd "x\n\\end{document}\n".toList "x\n\\end {document}\n".toList ∧
      LosesEnd "\\end {document}\n\\end{document}\n".toList "x\n\\end{document}\n".toList ∧
      LosesEnd "\\end{document}\\end{document}\n".toList "\\end{document}\n".toList ∧
      LosesEnd "\\end{document}\x7d\x7d\n".toList "\\end{document}\nx\n".toList ∧
      LosesEnd "\\textbf\x7b\\end{document}\n\x7d\n".toList
        "\\textbf\x7b\\end{document}\x7d\n%\nx\n".toList ∧
      LosesEnd "\\end{document} \\textbf \\end{x}\n".toList
        "\\end\x7d{x} \\textbf \\end{document}\n".toList ∧
      LosesEnd "x\n\\end{document}\n".toList "\\end{document}\nz\n%\\end{document}\n".toList ∧
      LosesEnd ("%\\begin{a}%\\begin{a}%\\begin{a}%\\begin{a}%\\begin{a}%\\begin{a}%\\begin{a}" ++
          "%\\end{document}\n\\end{document}\n").toList
        ("\\begin{a}\\begin{a}\\begin{a}\\begin{a}\\begin{a}\\begin{a}\\begin{a}\n" ++
          "\\end{document}\n%\\end{document}\nz\n").toList := by
  refine ⟨?_, ?_, ?_, ?_, ?_, ?_, ?_, ?_, ?_⟩ <;> decide +kernel

end LatexRepair
