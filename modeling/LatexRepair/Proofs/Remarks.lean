import LatexRepair.Proofs.EndLines
import LatexRepair.Proofs.HiddenMarkers

/-!
# Remarks

A remark is a comment that starts, behind its percent signs, with other text than a command
(`IsRemark`). No rule looks into it : the code of a line, the marker that its comment hides and
so the rule that applies are those of the line without the remark
(`LineRepair.rule?_append_remark`). What a repair does to the line without the remark it does to
the line, and the remark stays behind it (`Remarked.lineStep_append`).
-/

namespace LatexRepair

variable {p r s t w run x y line g : Text} {e : Edit} {f : LineFix}

/-- A comment that starts with a character that no rule puts in or takes out, and not with a
command. -/
def IsRemark (r : Text) : Prop :=
  ∃ run c s, r = run ++ c :: s ∧ percentRun? r = some run ∧ isLoose c = false ∧ c ≠ '\\'

instance (r : Text) : Decidable (IsRemark r) :=
  decidable_of_iff ((percentRun? r).any (fun run =>
      (r.drop run.length).head?.any fun c => !isLoose c && c ≠ '\\') = true) (by
    simp only [Option.any_eq_true, Bool.and_eq_true, Bool.not_eq_true', decide_eq_true_eq]
    constructor
    · rintro ⟨run, hrun, c, hc, h⟩
      obtain ⟨s, rfl, -⟩ := LineRepair.exists_append_of_percentRun? hrun
      rw [List.drop_left] at hc
      obtain ⟨s, rfl⟩ := List.head?_eq_some_iff.1 hc
      exact ⟨run, c, s, rfl, hrun, h⟩
    · rintro ⟨run, c, s, rfl, hrun, h⟩
      exact ⟨run, hrun, c, by rw [List.drop_left]; rfl, h⟩)

/-- A remark stands behind the text, or nothing. -/
def Remarked (p r : Text) : Prop :=
  r = [] ∨ escapes false p = false ∧ IsRemark r

instance (p r : Text) : Decidable (Remarked p r) :=
  inferInstanceAs (Decidable (_ ∨ _))

theorem IsRemark.exists_cons (h : IsRemark r) : ∃ s, r = '%' :: s := by
  obtain ⟨run, c, s, rfl, hrun, -⟩ := h
  obtain ⟨-, -, hhead⟩ := LineRepair.exists_append_of_percentRun? hrun
  obtain ⟨run, rfl⟩ := List.head?_eq_some_iff.1 hhead
  exact ⟨run ++ c :: s, rfl⟩

/-! ## Code -/

/-- A comment begins behind a text where nothing is escaped, if none has begun in it. -/
theorem codePartFrom_append_percent {escaped : Bool} (h : escapes escaped p = false) (s : Text) :
    codePartFrom escaped (p ++ '%' :: s) = codePartFrom escaped p := by
  induction p generalizing escaped with
  | nil =>
    obtain rfl : escaped = false := h
    rfl
  | cons c p ih =>
    rw [List.cons_append, codePartFrom, codePartFrom]
    rw [escapes, List.foldl_cons] at h
    split
    · rename_i hc
      rw [ih (by simpa [hc, escapes] using h)]
    · rename_i hc
      split
      · rfl
      · rw [ih (by simpa [hc, escapes] using h)]

namespace Remarked

theorem codePart_append (h : Remarked p r) : codePart (p ++ r) = codePart p := by
  rcases h with rfl | ⟨hp, hr⟩
  · rw [List.append_nil]
  · obtain ⟨s, rfl⟩ := hr.exists_cons
    exact codePartFrom_append_percent hp s

theorem commentPart_append (h : Remarked p r) : commentPart (p ++ r) = commentPart p ++ r := by
  have hle : (codePart p).length ≤ p.length := (codePartFrom_isPrefix false p).length_le
  rw [commentPart, h.codePart_append, commentPart, List.drop_append_of_le_length hle]

theorem liveMarkers_append (h : Remarked p r) : liveMarkers (p ++ r) = liveMarkers p := by
  rw [liveMarkers_eq, liveMarkers_eq, h.codePart_append]

end Remarked

/-! ## Comments that start with a command -/

/-- Whether a run of percent signs is read does not depend on what follows the character behind
it. -/
theorem percentRun?_congr {c : Char} (hc : isLoose c = false)
    (h : percentRun? (run ++ c :: x) = some run) (y : Text) :
    percentRun? (run ++ c :: y) = some run := by
  have hsign : decide (c = '%') = false := decide_eq_false fun heq => by
    rw [heq] at hc
    exact absurd hc (by decide)
  have hspace : isSpaceOrTab c = false := Bool.eq_false_iff.2 fun hspace => by
    rw [isLoose_of_isBlank (isBlank_of_isSpaceOrTab hspace)] at hc
    cases hc
  have htakeWhile : ∀ {P : Char → Bool}, P c = false → ∀ s x y : Text,
      (s ++ c :: x).takeWhile P = (s ++ c :: y).takeWhile P := fun hP s x y => by
    induction s with
    | nil => simp [hP]
    | cons d s ih => simp [List.takeWhile_cons, ih]
  rw [percentRun?, htakeWhile hsign run x y] at h
  rw [percentRun?]
  have hle : ((run ++ c :: y).takeWhile (· = '%')).length ≤ run.length := by
    rw [List.takeWhile_append]
    split
    · simp_all
    · exact (List.takeWhile_prefix _).length_le
  generalize (run ++ c :: y).takeWhile (· = '%') = signs at *
  cases signs with
  | nil => exact h
  | cons d signs =>
    dsimp only at h ⊢
    rw [List.drop_append_of_le_length hle] at h ⊢
    rw [← h, htakeWhile hspace _ x y]

/-- Whether a remark begins does not depend on loose characters behind it. -/
theorem IsRemark.of_append (h : IsRemark (s ++ t)) (ht : ∀ c ∈ t, isLoose c = true) (u : Text) :
    IsRemark (s ++ u) := by
  obtain ⟨run, c, v, heq, hrun, hc, hne⟩ := h
  have hmem : c ∉ t := fun hmem => by
    rw [ht c hmem] at hc
    cases hc
  rw [heq] at hrun
  rcases List.append_eq_append_iff.1 heq with ⟨w, rfl, rfl⟩ | ⟨w, rfl, hw⟩
  · exact absurd (List.mem_append_right w (List.mem_cons_self ..)) hmem
  · cases w with
    | nil =>
      rw [List.nil_append] at hw
      exact absurd (hw ▸ List.mem_cons_self ..) hmem
    | cons d w =>
      obtain ⟨rfl, rfl⟩ := List.cons.inj hw
      refine ⟨run, c, w ++ u, by simp, ?_, hc, hne⟩
      rw [List.append_assoc, List.cons_append]
      exact percentRun?_congr hc hrun _

theorem IsRemark.exists_mem (h : IsRemark r) : ∃ c ∈ r, isLoose c = false := by
  obtain ⟨run, c, s, rfl, -, hc, -⟩ := h
  exact ⟨c, by simp, hc⟩

theorem backslash_not_mem_of_percentRun? (h : percentRun? t = some run) : '\\' ∉ run :=
  fun hmem => absurd (isLoose_of_percentRun? h _ hmem) (by decide)

/-- A command at the start of a comment stands before the remark behind it. -/
theorem exists_of_percentRun?_append (hr : IsRemark r) (h : percentRun? (w ++ r) = some run)
    (hw : w ++ r = run ++ '\\' :: y) :
    ∃ x, w = run ++ '\\' :: x ∧ y = x ++ r ∧ percentRun? w = some run := by
  rw [hw] at h
  have hloose := isLoose_of_percentRun? h
  rcases List.append_eq_append_iff.1 hw with ⟨z, rfl, hz⟩ | ⟨z, rfl, hz⟩
  · -- The run would reach into the remark, and end before its first character.
    exfalso
    obtain ⟨rr, c, s, rfl, hrr, hc, hne⟩ := hr
    rw [List.forall_mem_append] at hloose
    rcases List.append_eq_append_iff.1 hz with ⟨u, rfl, hu⟩ | ⟨u, rfl, hu⟩
    · cases u with
      | nil =>
        exact hne (List.cons.inj hu).1
      | cons d u =>
        rw [List.cons_append, List.cons.injEq] at hu
        obtain rfl := hu.1
        exact absurd (hloose.2 c (by simp)) (by simp [hc])
    · cases u with
      | nil =>
        exact hne (List.cons.inj hu).1.symm
      | cons d u =>
        rw [List.cons_append, List.cons.injEq] at hu
        obtain rfl := hu.1
        exact backslash_not_mem_of_percentRun? hrr (by simp)
  · cases z with
    | nil =>
      obtain ⟨s, rfl⟩ := hr.exists_cons
      rw [List.nil_append, List.cons.injEq] at hz
      exact absurd hz.1 (by decide)
    | cons d z =>
      rw [List.cons_append, List.cons.injEq] at hz
      obtain ⟨rfl, rfl⟩ := hz
      exact ⟨z, rfl, rfl, percentRun?_congr (by decide) h z⟩

/-- The comment of a line hides a marker that starts with the backslash behind its percent
signs. -/
theorem hiddenMarker?_eq_some_iff {hidden : HiddenMarker} :
    hiddenMarker? line = some hidden ↔
      ∃ run x n, commentPart line = run ++ '\\' :: x ∧ percentRun? (commentPart line) = some run ∧
        Marker.at? ('\\' :: x) = some (hidden.marker, n) ∧
          hidden.start = (codePart line).length ∧
            hidden.stop = (codePart line).length + run.length := by
  constructor
  · intro h
    obtain ⟨run, x, hline, hrun, hstop, -⟩ := exists_uncomment_eq h
    obtain ⟨n, hat⟩ := at?_of_hiddenMarker? h
    have hcomment : commentPart line = run ++ '\\' :: x := by
      rw [commentPart]
      refine (congrArg (List.drop _) hline).trans (by rw [List.drop_left])
    refine ⟨run, x, n, hcomment, by rw [hcomment, hrun], ?_, start_of_hiddenMarker? h, hstop⟩
    rwa [hstop, ← List.drop_drop, ← commentPart, hcomment, List.drop_left] at hat
  · rintro ⟨run, x, n, hcomment, hrun, hat, hstart, hstop⟩
    have hlt : (codePart line).length < line.length := by
      have hline := congrArg List.length (codePart_append_comment line)
      rw [hcomment] at hline
      simp only [List.length_append, List.length_cons] at hline
      omega
    rw [hiddenMarker?, commentStart?, if_pos hlt]
    simp only [Option.bind_eq_bind, Option.bind_some]
    rw [← commentPart, hrun, Option.bind_some, hcomment, List.drop_left, hat, ← hstart, hstart,
      ← hstop, ← hstart]
    rfl

/-- The remark behind a line hides no marker. -/
theorem Remarked.hiddenMarker?_append (h : Remarked p r) :
    hiddenMarker? (p ++ r) = hiddenMarker? p := by
  rcases h with rfl | h'
  · rw [List.append_nil]
  have h : Remarked p r := .inr h'
  obtain ⟨s, rfl⟩ := h'.2.exists_cons
  refine Option.ext fun hidden => ?_
  rw [hiddenMarker?_eq_some_iff, hiddenMarker?_eq_some_iff, h.codePart_append, h.commentPart_append]
  constructor
  · rintro ⟨run, y, n, hcomment, hrun, hat, hplaces⟩
    obtain ⟨x, hx, rfl, hrun⟩ := exists_of_percentRun?_append h'.2 hrun hcomment
    refine ⟨run, x, n, hx, hrun, ?_, hplaces⟩
    rwa [← List.cons_append, Marker.at?_append_percent] at hat
  · rintro ⟨run, x, n, hcomment, hrun, hat, hplaces⟩
    refine ⟨run, x ++ '%' :: s, n, by simp [hcomment], ?_, ?_, hplaces⟩
    · rw [hcomment, List.append_assoc, List.cons_append]
      exact percentRun?_congr (by decide) (hcomment ▸ hrun) _
    · rwa [← List.cons_append, Marker.at?_append_percent]

/-! ## Comment lines -/

theorem IsRemark.trimStart_append (h : IsRemark r) (p : Text) :
    Text.trimStart (p ++ r) = Text.trimStart p ++ r := by
  obtain ⟨s, rfl⟩ := h.exists_cons
  rw [Text.trimStart, Text.trimStart, Text.trimStartBy, Text.trimStartBy, List.dropWhile_append]
  split
  · rename_i hempty
    rw [List.isEmpty_iff.1 hempty]
    rfl
  · rfl

theorem IsRemark.indentation_append (h : IsRemark r) (p : Text) :
    indentation (p ++ r) = indentation p := by
  obtain ⟨s, rfl⟩ := h.exists_cons
  induction p with
  | nil => rfl
  | cons c p ih =>
    rw [indentation, indentation, List.cons_append, List.takeWhile_cons, List.takeWhile_cons]
    split
    · exact congrArg _ ih
    · rfl

theorem IsRemark.commandName?_append (h : IsRemark r) (x : Text) :
    commandName? ('\\' :: (x ++ r)) = commandName? ('\\' :: x) := by
  obtain ⟨s, rfl⟩ := h.exists_cons
  have htakeWhile : (x ++ '%' :: s).takeWhile isCommandChar = x.takeWhile isCommandChar := by
    induction x with
    | nil => rfl
    | cons c x ih => simp [List.takeWhile_cons, ih]
  rw [commandName?, commandName?, htakeWhile]

namespace LineRepair

/-- The intro of a comment line and the name of the command behind it. -/
def commentedCommand? (t : Text) : Option (Text × Text) :=
  (commentIntro? t).bind fun intro => (commandName? (t.drop intro.length)).map (intro, ·)

theorem commentedCommand?_eq_some_iff {intro name : Text} :
    commentedCommand? t = some (intro, name) ↔
      ∃ run x, Text.trimStart t = run ++ '\\' :: x ∧ percentRun? (Text.trimStart t) = some run ∧
        commandName? ('\\' :: x) = some name ∧ intro = indentation t ++ run := by
  have hdrop : ∀ run rest, Text.trimStart t = run ++ rest →
      t.drop (indentation t ++ run).length = rest := fun run rest hrest => by
    have ht : t = (indentation t ++ run) ++ rest := by
      rw [List.append_assoc, ← hrest, indentation_append_trimStart]
    exact (congrArg (List.drop _) ht).trans (List.drop_left ..)
  rw [commentedCommand?, Option.bind_eq_some_iff]
  constructor
  · rintro ⟨intro, hintro, h⟩
    obtain ⟨run, hrun, rfl⟩ := Option.map_eq_some_iff.1 hintro
    obtain ⟨name, hname, heq⟩ := Option.map_eq_some_iff.1 h
    obtain ⟨rfl, rfl⟩ := Prod.mk.inj heq
    obtain ⟨rest, hrest, -⟩ := exists_append_of_percentRun? hrun
    rw [hdrop run rest hrest] at hname
    cases rest with
    | nil => cases hname
    | cons c x =>
      obtain rfl : c = '\\' := by
        by_contra hc
        simp [commandName?, hc] at hname
      exact ⟨run, x, hrest, hrun, hname, rfl⟩
  · rintro ⟨run, x, hrest, hrun, hname, rfl⟩
    refine ⟨_, Option.map_eq_some_iff.2 ⟨run, hrun, rfl⟩, ?_⟩
    rw [hdrop run _ hrest, hname]
    rfl

theorem uncommentCommand?_eq (t g : Text) :
    uncommentCommand? t g =
      if isCommentLine g then none
      else (leadingCommand? g).bind fun name =>
        if name = "begin".toList ∨ name = "end".toList then none
        else (commentedCommand? t).bind fun x =>
          if x.2 = name then
            some (.delete (indentation t).length x.1.length, .uncommentedCommand name)
          else none := by
  have hnone : isCommentLine t = false → commentIntro? t = none := fun ht => by
    rw [commentIntro?, Option.map_eq_none_iff]
    cases hrun : percentRun? (Text.trimStart t) with
    | none => rfl
    | some run =>
      obtain ⟨rest, hrest, hhead⟩ := exists_append_of_percentRun? hrun
      obtain ⟨run, rfl⟩ := List.head?_eq_some_iff.1 hhead
      rw [isCommentLine, hrest] at ht
      cases ht
  unfold uncommentCommand? commentedCommand?
  cases hg : isCommentLine g with
  | true => rfl
  | false =>
    cases ht : isCommentLine t with
    | false => simp [hnone ht]
    | true =>
      simp only [Bool.not_true, Bool.or_false, Bool.false_eq_true, if_false]
      refine Option.bind_congr fun name _ => ?_
      by_cases hword : name = "begin".toList ∨ name = "end".toList
      · rw [if_pos hword, if_pos (by simpa using hword)]
        rfl
      · rw [if_neg hword, if_neg (by simpa using hword), Option.bind_assoc]
        refine Option.bind_congr fun intro _ => ?_
        cases hname : commandName? (t.drop intro.length) with
        | none => rfl
        | some other =>
          by_cases hother : other = name <;> simp [hother]

/-- Nor does it hide a command. -/
theorem commentedCommand?_append (hr : IsRemark r) (p : Text) :
    commentedCommand? (p ++ r) = commentedCommand? p := by
  refine Option.ext fun ⟨intro, name⟩ => ?_
  rw [commentedCommand?_eq_some_iff, commentedCommand?_eq_some_iff, hr.trimStart_append,
    hr.indentation_append]
  constructor
  · rintro ⟨run, y, hcomment, hrun, hname, hintro⟩
    obtain ⟨x, hx, rfl, hrun⟩ := exists_of_percentRun?_append hr hrun hcomment
    exact ⟨run, x, hx, hrun, by rwa [hr.commandName?_append] at hname, hintro⟩
  · rintro ⟨run, x, hcomment, hrun, hname, hintro⟩
    refine ⟨run, x ++ r, by simp [hcomment], ?_, by rwa [hr.commandName?_append], hintro⟩
    rw [hcomment, List.append_assoc, List.cons_append]
    exact percentRun?_congr (by decide) (hcomment ▸ hrun) _

/-- With a remark a blank line becomes a comment. -/
theorem isCommentLine_or_isBlankText_append (hr : IsRemark r) (p : Text) :
    (isCommentLine (p ++ r) || Text.isBlankText (p ++ r)) =
      (isCommentLine p || Text.isBlankText p) := by
  rw [isCommentLine, isCommentLine, hr.trimStart_append]
  cases htrim : Text.trimStart p with
  | nil =>
    have hblank : Text.isBlankText p = true :=
      List.all_eq_true.2 (List.dropWhile_eq_nil_iff.1 htrim)
    obtain ⟨s, rfl⟩ := hr.exists_cons
    rw [hblank, Bool.or_true]
    rfl
  | cons c w =>
    have hmem : c ∈ p := (List.dropWhile_sublist isBlank).subset
      (show c ∈ Text.trimStart p from htrim ▸ List.mem_cons_self ..)
    have hc : isBlank c = false := by
      have hhead := List.head?_dropWhile_not isBlank p
      rw [← Text.trimStartBy, ← Text.trimStart, htrim] at hhead
      simpa using hhead
    have hblank : ∀ q, c ∈ q → Text.isBlankText q = false := fun q hq =>
      Bool.eq_false_iff.2 fun h => Bool.false_ne_true (hc.symm.trans (List.all_eq_true.1 h c hq))
    rw [hblank p hmem, hblank (p ++ r) (List.mem_append_left r hmem)]
    rfl

theorem restoreComment?_append (h : Remarked p r) (hr : IsRemark r) (g : Text) :
    restoreComment? (p ++ r) g = restoreComment? p g := by
  rw [restoreComment?, restoreComment?, h.codePart_append, hr.indentation_append, Bool.or_assoc,
    Bool.or_assoc, isCommentLine_or_isBlankText_append hr]

/-- No rule sees the remark behind a line. -/
theorem rule?_append_remark (h : Remarked p r) (g : Text) : rule? (p ++ r) g = rule? p g := by
  rcases h with rfl | h'
  · rw [List.append_nil]
  have h : Remarked p r := .inr h'
  have hcount : ∀ m, liveCount m (p ++ r) = liveCount m p := fun m => by
    rw [liveCount, h.liveMarkers_append, liveCount]
  rw [rule?, rule?, removeTerminator?, removeTerminator?, uncommentMarker?, uncommentMarker?,
    rebalance?, rebalance?, uncommentCommand?_eq, uncommentCommand?_eq, h.codePart_append,
    h.hiddenMarker?_append, commentedCommand?_append h'.2, h'.2.indentation_append,
    restoreComment?_append h h'.2]
  simp only [hcount]

/-! ## Edits -/

theorem within_of_hiddenMarker? {hidden : HiddenMarker} (h : hiddenMarker? t = some hidden) :
    (Edit.delete hidden.start hidden.stop).Within t.length := by
  obtain ⟨run, r, ht, -, hstart, hstop⟩ := exists_around_hiddenMarker h
  have hlength := congrArg List.length ht
  simp only [List.length_append] at hlength
  exact ⟨by simp only [Edit.delete]; omega, by simp only [Edit.delete]; omega⟩

/-- The rules edit the line that they read. -/
theorem within_of_rule? (h : rule? t g = some (e, f)) : e.Within t.length := by
  have hindent : (indentation t).length ≤ t.length := (List.takeWhile_prefix _).length_le
  rcases of_rule? h with h | h | h | h | h
  · obtain ⟨a, b, r, rfl, -, rfl⟩ := exists_around_terminator h
    exact ⟨Nat.le_add_right _ _, by simp [Edit.delete]⟩
  · obtain ⟨hidden, hh, -, rfl, -⟩ := of_uncommentMarker? h
    exact within_of_hiddenMarker? hh
  · obtain ⟨-, -, name, intro, -, hintro, -, rfl, -⟩ := of_uncommentCommand? h
    obtain ⟨run, hrun, rfl⟩ := Option.map_eq_some_iff.1 hintro
    obtain ⟨r, hr, -⟩ := exists_append_of_percentRun? hrun
    have hlength := congrArg List.length (indentation_append_trimStart t)
    rw [hr] at hlength
    simp only [List.length_append] at hlength
    exact ⟨by simp only [Edit.delete, List.length_append]; omega,
      by simp only [Edit.delete, List.length_append]; omega⟩
  · obtain ⟨-, -, -, intro, -, -, rfl, -⟩ := of_restoreComment? h
    exact ⟨Nat.zero_le _, hindent⟩
  · have hcode : (codePart t).length ≤ t.length := (codePartFrom_isPrefix false t).length_le
    rcases places_of_rebalance? h with ⟨closer, i, hcloser, -, hplace, rfl, -⟩ | ⟨x, hx, -, rfl, -⟩
    · have hi := (of_bracePlace? (commonLength_le _ _) hplace).2.1
      exact ⟨Nat.le_refl i, (hi.trans gapStop_le_length).trans hcode⟩
    · have := bounds_of_mem_skeletonFrom (List.mem_of_getElem? hx)
      exact ⟨by simp only [Edit.delete]; omega, by simp only [Edit.delete]; omega⟩

theorem escapes_of_not_mem (h : '\\' ∉ s) : escapes false s = false := by
  induction s with
  | nil => rfl
  | cons c s ih =>
    rw [List.mem_cons, not_or] at h
    rw [escapes, List.foldl_cons, decide_eq_false (Ne.symm h.1), Bool.false_and]
    exact ih h.2

theorem escapes_indentation (t : Text) : escapes false (indentation t) = false :=
  escapes_of_not_mem fun h => absurd (isBlank_of_mem_indentation h) (by decide)

/-- Nothing is escaped where a comment begins. -/
theorem escapes_codePart (ht : t = codePart t ++ (run ++ r))
    (h : percentRun? (run ++ r) = some run) : escapes false (codePart t) = false := by
  obtain ⟨-, -, hhead⟩ := exists_append_of_percentRun? h
  obtain ⟨run, rfl⟩ := List.head?_eq_some_iff.1 hhead
  have hread : codePartFrom false (codePart t ++ (('%' :: run) ++ r)) = codePart t ++ [] := by
    rw [← ht, List.append_nil, codePart]
  have hcode := codePartFrom_append hread (('%' :: run) ++ r)
  rw [hread, List.append_cancel_left_eq] at hcode
  by_contra hescapes
  rw [Bool.not_eq_false] at hescapes
  simp [hescapes, codePartFrom] at hcode

/-- Nor is anything escaped behind percent signs. -/
theorem escapes_append_run (ha : escapes false t = false) (h : percentRun? (run ++ r) = some run) :
    escapes false (t ++ (run ++ r)) = escapes false (t ++ r) := by
  rw [escapes_append, ha, escapes_append, escapes_append, ha,
    escapes_of_not_mem (backslash_not_mem_of_percentRun? h)]

theorem escapes_uncomment {hidden : HiddenMarker} (h : hiddenMarker? t = some hidden)
    (hescapes : escapes false t = false) :
    escapes false ((Edit.delete hidden.start hidden.stop).apply t) = false := by
  obtain ⟨run, r, hline, hrun, hstart, hstop⟩ := exists_around_hiddenMarker h
  have hcode := escapes_codePart hline hrun
  rw [hstart, hstop]
  clear h hstart hstop
  generalize codePart t = code at *
  subst hline
  rw [apply_delete_append]
  rwa [escapes_append_run hcode hrun] at hescapes

theorem escapes_insert_closer {i : Nat} (h : escapes false t = false)
    (hcut : escapes false (t.take i) = true → ∀ c ∈ (t.drop i).head?, c ≠ '\\') :
    escapes false (t.take i ++ (['}'] ++ t.drop i)) = false := by
  rw [← List.take_append_drop i t, escapes_append] at h
  rw [escapes_append, escapes_append]
  cases hu : escapes false (t.take i) with
  | false =>
    rw [hu] at h
    exact h
  | true =>
    rw [hu] at h
    cases hdrop : t.drop i with
    | nil =>
      rw [hdrop] at h
      cases h
    | cons c v =>
      have hc := hcut hu c (by rw [hdrop]; rfl)
      rw [hdrop] at h
      simpa [escapes, hc] using h

theorem head?_commentPart_ne : (commentPart t).head? ≠ some '\\' := by
  rcases eq_codePartFrom_append false t with h | ⟨r, h⟩
  · rw [← codePart] at h
    rw [commentPart, h, List.drop_length]
    simp
  · rw [← codePart] at h
    have hcomment : commentPart t = '%' :: r :=
      (congrArg (List.drop _) h).trans (List.drop_left ..)
    rw [hcomment]
    exact fun heq => absurd (Option.some.inj heq) (by decide)

/-- Behind a line where nothing is escaped nothing is escaped after an edit. -/
theorem escapes_apply_rule? (h : rule? t g = some (e, f)) (ht : IsEndLine t ∨ ¬Mentions t)
    (hescapes : escapes false t = false) : escapes false (e.apply t) = false := by
  rcases of_rule? h with h | h | h | h | h
  · obtain ⟨x, y, r, hline, hcode, rfl⟩ := exists_around_terminator h
    rcases ht with ⟨a, b, rfl, ha, hb⟩ | hnone
    · obtain ⟨rfl, rfl⟩ := eq_of_append_terminator hb hline.symm
      rw [apply_delete_append]
      rw [escapes_append, ha.unescaped, escapes_append] at hescapes
      rwa [escapes_append, ha.unescaped]
    · exact absurd (mentions_terminator x (y ++ r)) (hline ▸ hnone)
  · obtain ⟨hidden, hh, -, rfl, -⟩ := of_uncommentMarker? h
    exact escapes_uncomment hh hescapes
  · obtain ⟨-, -, name, intro, -, hintro, -, rfl, -⟩ := of_uncommentCommand? h
    obtain ⟨run, hrun, rfl⟩ := Option.map_eq_some_iff.1 hintro
    obtain ⟨r, hr, hrun'⟩ := percentRun?_append hrun
    have hline : t = indentation t ++ (run ++ r) := by rw [← hr, indentation_append_trimStart]
    have hindent := escapes_indentation t
    rw [List.length_append]
    generalize indentation t = indent at *
    subst hline
    rw [apply_delete_append]
    rwa [escapes_append_run hindent hrun'] at hescapes
  · obtain ⟨-, -, -, intro, hintro, -, rfl, -⟩ := of_restoreComment? h
    have hindent := escapes_indentation t
    have hline := takeWhile_append_drop isBlank t
    rw [← indentation] at hline
    have hloose : '\\' ∉ intro := fun hmem => absurd (isLoose_of_commentIntro? hintro _ hmem)
      (by decide)
    rw [← hline, escapes_append, hindent] at hescapes
    rw [Edit.apply, List.take_zero, List.nil_append, escapes_append, escapes_of_not_mem hloose]
    exact hescapes
  · rcases places_of_rebalance? h with ⟨closer, i, hcloser, hclose, hplace, rfl, -⟩ |
      ⟨x, hx, hclose, rfl, -⟩
    · have hi := (of_bracePlace? (commonLength_le _ _) hplace).2.1.trans gapStop_le_length
      have hnext := next_of_bracePlace? (commonLength_le _ _) (List.mem_of_getElem? hcloser) hclose
        hplace
      rw [Edit.apply_insert]
      refine escapes_insert_closer hescapes fun hu c hc => ?_
      rw [← codePart_append_comment t, List.take_append_of_le_length hi] at hu
      rw [← codePart_append_comment t, List.drop_append_of_le_length hi, List.head?_append]
        at hc
      rcases Option.or_eq_some_iff.1 hc with hc | ⟨-, hc⟩
      · exact (hnext hu c hc).1
      · rintro rfl
        exact head?_commentPart_ne hc
    · obtain ⟨a, b, r, hline, -, ha, -, -, hedit⟩ :=
        exists_code_around_closer (List.mem_of_getElem? hx) hclose
      rw [hedit]
      rw [hline, escapes_append, ha] at hescapes
      rwa [escapes_append, ha]

end LineRepair

theorem Edit.apply_append (h : e.Within p.length) (r : Text) :
    e.apply (p ++ r) = e.apply p ++ r := by
  rw [apply, apply, List.take_append_of_le_length (h.1.trans h.2),
    List.drop_append_of_le_length h.2, ← List.append_assoc]

/-! ## Lines -/

variable {guide : Text} {strict : Prop}

/-- The line of a guide ends the document so that a line beside it keeps its own end : every
`\end` in its code has its group, and in a strict reading it does not end in two closing
braces. -/
structure EndsWell (strict : Prop) (g : Text) : Prop where
  closed : Text.contains terminator (codePart g) = true → EndsClosed (skeleton (codePart g))
  closers : strict → Text.contains terminator (codePart g) = true → ¬EndsInClosers (codePart g)

/-- The line ends the document between `x` and `y`, which may end in a remark. -/
def EndsAt (line x y : Text) : Prop :=
  ∃ b r, y = b ++ r ∧ line = x ++ (terminator ++ y) ∧ Clean x ∧ ¬Mentions (x ++ b) ∧
    Remarked (x ++ (terminator ++ b)) r

/-- The line ends the document, perhaps with a remark behind. -/
def EndsDocument (line : Text) : Prop :=
  ∃ x y, EndsAt line x y

/-- The line does not mention the end of the document, but for a remark behind. -/
def SparesDocument (line : Text) : Prop :=
  ∃ p r, line = p ++ r ∧ Remarked p r ∧ ¬Mentions p

theorem endsDocument_iff :
    EndsDocument line ↔ ∃ p r, line = p ++ r ∧ Remarked p r ∧ IsEndLine p := by
  constructor
  · rintro ⟨x, y, b, r, rfl, rfl, hx, hb, hr⟩
    exact ⟨_, r, by simp, hr, x, b, rfl, hx, hb⟩
  · rintro ⟨p, r, rfl, hr, x, b, rfl, hx, hb⟩
    exact ⟨x, b ++ r, b, r, rfl, by simp, hx, hb, hr⟩

theorem exists_append_iff {P : Text → Text → Prop} {t : Text} :
    (∃ p r, t = p ++ r ∧ P p r) ↔ ∃ i < t.length + 1, P (t.take i) (t.drop i) := by
  constructor
  · rintro ⟨p, r, rfl, h⟩
    refine ⟨p.length, by rw [List.length_append]; omega, ?_⟩
    rwa [List.take_left, List.drop_left]
  · rintro ⟨i, -, h⟩
    exact ⟨_, _, (List.take_append_drop i t).symm, h⟩

instance (line : Text) : Decidable (EndsDocument line) :=
  decidable_of_iff _ (exists_append_iff.symm.trans endsDocument_iff.symm)

instance (line : Text) : Decidable (SparesDocument line) :=
  decidable_of_iff _ exists_append_iff.symm

/-- The line keeps its end of the document, and the text around it but for loose characters. -/
def StaysEnd (strict : Prop) (x y u : Text) : Prop :=
  ∃ x' y', EndsAt u x' y' ∧ bare (x' ++ y') = bare (x ++ y) ∧ Loosely strict y y'

theorem KeepsEnd.append_remark {a b u : Text} (h : KeepsEnd strict a b u) (hr : Remarked u r) :
    StaysEnd strict a (b ++ r) (u ++ r) := by
  obtain ⟨a', b', ⟨rfl, ha, hb⟩, hbare, hloosely⟩ := h
  refine ⟨a', b' ++ r, ⟨b', r, rfl, by simp, ha, hb, hr⟩, ?_, hloosely.append (.refl r)⟩
  rw [← List.append_assoc, bare_append, hbare, ← bare_append, List.append_assoc]

namespace LineRepair

/-- A rule leaves the line one that ends the document, or one that does not mention its end. -/
theorem isEndLine_or_not_mentions (hg : g ∈ Text.lines guide) (hwell : EndsWell strict g)
    (hp : IsEndLine p ∨ ¬Mentions p) (h : rule? p g = some (e, f)) :
    IsEndLine (e.apply p) ∨ ¬Mentions (e.apply p) := by
  rcases hp with ⟨a, b, rfl, ha, hb⟩ | hp
  · cases hend : Text.contains terminator (codePart g) with
    | true =>
      obtain ⟨a', b', hends, -⟩ :=
        keepsEnd_rule? ha hb hend (hwell.closed hend) (fun hs => hwell.closers hs hend) h
      exact .inl ⟨a', b', hends⟩
    | false =>
      obtain ⟨-, e', hrule, happly⟩ := step?_eq_some (step?_endLine ha hb hend)
      obtain ⟨rfl, -⟩ := Prod.mk.inj (Option.some.inj (h.symm.trans hrule))
      exact .inr (happly ▸ hb)
  · exact .inr ((lineEdits_of_rule? hg h).not_mentions hp)

/-- Rounds on a line leave the remark behind it. -/
theorem rounds_append_remark (hg : g ∈ Text.lines guide) (hwell : EndsWell strict g) (n : Nat)
    (h : Remarked p r) (hp : IsEndLine p ∨ ¬Mentions p) :
    (rounds n (p ++ r) g).1 = (rounds n p g).1 ++ r ∧ Remarked (rounds n p g).1 r := by
  induction n generalizing p with
  | zero => exact ⟨rfl, h⟩
  | succ n ih =>
    have hrule := rule?_append_remark h g
    rw [rounds, rounds, step?, step?, hrule]
    cases happlies : rule? p g with
    | none => exact ⟨rfl, h⟩
    | some x =>
      obtain ⟨e, f⟩ := x
      have happly := Edit.apply_append (within_of_rule? happlies) r
      have hremark : Remarked (e.apply p) r :=
        h.imp_right fun hr => ⟨escapes_apply_rule? happlies hp hr.1, hr.2⟩
      simp only [Option.bind_eq_bind, Option.bind_some, happly, List.append_cancel_right_eq]
      by_cases hsame : e.apply p = p
      · rw [if_pos hsame, if_pos hsame]
        exact ⟨rfl, h⟩
      · rw [if_neg hsame, if_neg hsame]
        exact ih hremark (isEndLine_or_not_mentions hg hwell hp happlies)

end LineRepair

/-- So does the repair of a line. -/
theorem Remarked.lineStep_append (hg : g ∈ Text.lines guide) (hwell : EndsWell strict g)
    (h : Remarked p r) (hp : IsEndLine p ∨ ¬Mentions p) :
    lineStep g (p ++ r) = lineStep g p ++ r ∧ Remarked (lineStep g p) r :=
  LineRepair.rounds_append_remark hg hwell LineRepair.maxRounds h hp

/-- Beside a line with an end of the document a line keeps its own. -/
theorem EndsAt.lineStep (h : EndsAt line x y) (hg : g ∈ Text.lines guide)
    (hwell : EndsWell strict g) (hend : Text.contains terminator (codePart g) = true) :
    StaysEnd strict x y (lineStep g line) := by
  obtain ⟨b, r, rfl, rfl, hx, hb, hr⟩ := h
  obtain ⟨hline, hr⟩ := hr.lineStep_append hg hwell (.inl ⟨x, b, rfl, hx, hb⟩)
  rw [List.append_assoc, List.append_assoc] at hline
  rw [hline]
  exact (keepsEnd_lineStep hx hb hend (hwell.closed hend)
    fun hs => hwell.closers hs hend).append_remark hr

/-- Beside a line without one it loses its own. -/
theorem EndsAt.sparesDocument_lineStep (h : EndsAt line x y) (hg : g ∈ Text.lines guide)
    (hwell : EndsWell strict g) (hend : Text.contains terminator (codePart g) = false) :
    SparesDocument (LatexRepair.lineStep g line) ∧
      Loosely strict (x ++ y) (LatexRepair.lineStep g line) := by
  obtain ⟨b, r, rfl, rfl, hx, hb, hr⟩ := h
  obtain ⟨hline, hr⟩ := hr.lineStep_append hg hwell (.inl ⟨x, b, rfl, hx, hb⟩)
  have hloosely : Loosely strict _ _ := loosely_lineStep_of_endsAround hx hb hg hend
  rw [List.append_assoc, List.append_assoc] at hline
  rw [hline, ← List.append_assoc x b r]
  exact ⟨⟨_, r, rfl, hr, (not_mentions_congr hloosely.bare_eq).2 hb⟩, hloosely.append (.refl r)⟩

/-- No line gets an end of the document. -/
theorem SparesDocument.lineStep (h : SparesDocument line) (hg : g ∈ Text.lines guide)
    (hwell : EndsWell strict g) :
    SparesDocument (lineStep g line) ∧ Loosely strict line (lineStep g line) := by
  obtain ⟨p, r, rfl, hr, hp⟩ := h
  obtain ⟨hline, hr⟩ := hr.lineStep_append hg hwell (.inr hp)
  rw [hline]
  exact ⟨⟨_, r, rfl, hr, not_mentions_lineStep hg hp⟩,
    (loosely_rounds hg hp LineRepair.maxRounds).append (.refl r)⟩

end LatexRepair
