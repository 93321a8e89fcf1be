import LatexRepair.Proofs.MarkerReading
import LatexRepair.Proofs.InStep
import Mathlib.Data.Nat.Count

/-!
# Recovery of lines that were commented out

A rendition with the lines of its guide, each of which has the markup of its counterpart
(`Guided.Faithful`), is left as it is. If command lines of it are commented out, the
repair brings them back, character by character and with one fix for each of them
(`repairGuided_recovers`). All that is asked of such a line is that its counterpart starts
with the same command and has its marker, if that command begins or ends an environment
(`LineRepair.Recoverable`).
-/

namespace LatexRepair

/-- Make a line a comment, behind its indentation. -/
def commentOut (t : Text) : Text :=
  indentation t ++ '%' :: ' ' :: Text.trimStart t

/-- Make the lines with the given numbers comments; the first line has the number zero. -/
def commentOutLines (S : Finset Nat) (t : Text) : Text :=
  Text.unlines ((Text.lines t).mapIdx fun i line => if i ∈ S then commentOut line else line)

/-! ## Commented lines -/

/-- The edit that takes the comment of a commented line away. -/
def uncommenting (t : Text) : Edit :=
  .delete (indentation t).length ((indentation t).length + 2)

theorem indentation_commentOut (t : Text) : indentation (commentOut t) = indentation t :=
  Text.takeWhile_append_cons (fun _ => isBlank_of_mem_indentation) (by decide) _

theorem trimStart_commentOut (t : Text) :
    Text.trimStart (commentOut t) = '%' :: ' ' :: Text.trimStart t := by
  have h := indentation_append_trimStart (commentOut t)
  rw [indentation_commentOut, commentOut, List.append_cancel_left_eq] at h
  exact h

theorem isCommentLine_commentOut (t : Text) : isCommentLine (commentOut t) = true := by
  rw [isCommentLine, trimStart_commentOut]
  rfl

theorem codePart_commentOut (t : Text) : codePart (commentOut t) = indentation t := by
  rw [codePart_of_isCommentLine (isCommentLine_commentOut t), indentation_commentOut]

theorem drop_commentOut (t : Text) :
    (commentOut t).drop ((indentation t).length + 2) = Text.trimStart t := by
  rw [commentOut, ← List.drop_drop, List.drop_left]
  rfl

theorem apply_uncommenting (t : Text) : (uncommenting t).apply (commentOut t) = t := by
  rw [uncommenting, Edit.apply_delete, drop_commentOut, commentOut, List.take_left]
  exact indentation_append_trimStart t

theorem commentOut_ne (t : Text) : commentOut t ≠ t := by
  intro h
  have hlength := congrArg List.length h
  rw [commentOut, ← congrArg List.length (indentation_append_trimStart t)] at hlength
  simp at hlength
  omega

theorem newline_not_mem_commentOut {t : Text} (h : '\n' ∉ t) : '\n' ∉ commentOut t := by
  have hparts : '\n' ∉ indentation t ++ Text.trimStart t := by
    rwa [indentation_append_trimStart]
  simpa [commentOut] using hparts

/-- The comment of a commented command starts with one percent sign and one space. -/
theorem percentRun?_append_command (r : Text) :
    percentRun? ('%' :: ' ' :: '\\' :: r) = some ['%', ' '] := by
  simp [percentRun?, isSpaceOrTab]

/-! ## Lines -/

namespace LineRepair

/-- A line has the markup of its counterpart. -/
structure Faithful (t g : Text) : Prop where
  comment : isCommentLine t = isCommentLine g
  markers : ((markers (codePart t)).map (·.marker)).Perm ((markers (codePart g)).map (·.marker))
  terminator : Text.contains terminator (codePart t) = true →
    Text.contains terminator (codePart g) = true
  balance : braceBalance (skeleton (codePart t)) = braceBalance (skeleton (codePart g))

/-- A line starts with the command of its counterpart; if that begins or ends an
environment, the line starts with a marker that is live in its counterpart. -/
structure Recoverable (t g : Text) : Prop where
  code : isCommentLine g = false
  command : ∃ name, leadingCommand? t = some name ∧ leadingCommand? g = some name ∧
    (name = "begin".toList ∨ name = "end".toList →
      ∃ m n, Marker.at? (Text.trimStart t) = some (m, n) ∧ m ∈ (liveMarkers g).map (·.marker))

variable {t g : Text}

instance (t g : Text) : Decidable (Faithful t g) :=
  decidable_of_iff
    (isCommentLine t = isCommentLine g ∧
      ((markers (codePart t)).map (·.marker)).Perm ((markers (codePart g)).map (·.marker)) ∧
        (Text.contains terminator (codePart t) = true →
          Text.contains terminator (codePart g) = true) ∧
            braceBalance (skeleton (codePart t)) = braceBalance (skeleton (codePart g)))
    ⟨fun ⟨h₁, h₂, h₃, h₄⟩ => ⟨h₁, h₂, h₃, h₄⟩, fun ⟨h₁, h₂, h₃, h₄⟩ => ⟨h₁, h₂, h₃, h₄⟩⟩

theorem liveCount_eq_count (m : Marker) (line : Text) :
    liveCount m line = ((markers (codePart line)).map (·.marker)).count m := by
  rw [liveCount, liveMarkers_eq, List.count, List.countP_map]
  refine List.countP_congr fun x _ => ?_
  simp

theorem Faithful.inStep (h : Faithful t g) : InStep t g where
  terminator := h.terminator
  hidden hidden _ := by
    rw [liveCount_eq_count, liveCount_eq_count, h.markers.count_eq]
  comment := .inl h.comment
  balance := h.balance

/-- A line with a command starts with a backslash. -/
theorem exists_trimStart_eq {name : Text} (h : leadingCommand? t = some name) :
    ∃ r, Text.trimStart t = '\\' :: r := by
  unfold leadingCommand? commandName? at h
  split at h
  · exact ⟨_, ‹_›⟩
  · cases h

theorem Recoverable.ne_nil (h : Recoverable t g) : t ≠ [] := by
  rintro rfl
  obtain ⟨name, hname, -⟩ := h.command
  cases hname

theorem removeTerminator?_commentOut (t g : Text) : removeTerminator? (commentOut t) g = none := by
  refine Option.eq_none_iff_forall_ne_some.2 fun ⟨e, f⟩ h => ?_
  obtain ⟨-, i, hi, -⟩ := of_removeTerminator? h
  obtain ⟨r, hr⟩ := Text.startsWith_iff.1 (Text.find?_eq_some_iff.1 hi).2.1
  have hmem : '\\' ∈ (codePart (commentOut t)).drop i := by
    rw [hr]
    exact List.mem_append_left r (by decide)
  rw [codePart_commentOut] at hmem
  exact absurd (isBlank_of_mem_indentation (List.mem_of_mem_drop hmem)) (by decide)

/-- The marker that a line starts with is hidden when the line is commented out. -/
theorem hiddenMarker?_commentOut {r : Text} (ht : Text.trimStart t = '\\' :: r) :
    hiddenMarker? (commentOut t) = (Marker.at? (Text.trimStart t)).map fun m =>
      ⟨m.1, (uncommenting t).start, (uncommenting t).stop⟩ := by
  have hstart : commentStart? (commentOut t) = some (indentation t).length := by
    rw [commentStart?, codePart_commentOut, if_pos (by simp [commentOut])]
  have hdrop : (commentOut t).drop (indentation t).length = '%' :: ' ' :: '\\' :: r := by
    rw [commentOut, List.drop_left, ht]
  simp [hiddenMarker?, hstart, hdrop, percentRun?_append_command, drop_commentOut,
    Option.map_eq_bind, uncommenting, Edit.delete]

/-- A marker that is live in the counterpart does not stay in a comment. -/
theorem uncommentMarker?_commentOut_ne_none {m : Marker} {n : Nat} {r : Text}
    (ht : Text.trimStart t = '\\' :: r) (hm : Marker.at? (Text.trimStart t) = some (m, n))
    (hg : m ∈ (liveMarkers g).map (·.marker)) : uncommentMarker? (commentOut t) g ≠ none := by
  have hzero : liveCount m (commentOut t) = 0 := by
    rw [liveCount, liveMarkers_of_isCommentLine (isCommentLine_commentOut t), List.countP_nil]
  have hlive : 0 < liveCount m g := by
    rw [liveCount_eq_count, List.count_pos_iff, ← liveMarkers_eq]
    exact hg
  simp [uncommentMarker?, hiddenMarker?_commentOut ht, hm, hzero, Nat.ne_of_gt hlive]

theorem uncommentCommand?_commentOut {name : Text} (hg : isCommentLine g = false)
    (ht : leadingCommand? t = some name) (hname : leadingCommand? g = some name)
    (hcommand : ¬(name = "begin".toList ∨ name = "end".toList)) :
    uncommentCommand? (commentOut t) g = some (uncommenting t, .uncommentedCommand name) := by
  obtain ⟨r, hr⟩ := exists_trimStart_eq ht
  have hintro : commentIntro? (commentOut t) = some (indentation t ++ ['%', ' ']) := by
    rw [commentIntro?, trimStart_commentOut, hr, percentRun?_append_command, Option.map_some,
      indentation_commentOut]
  have hbody : commandName? ((commentOut t).drop ((indentation t).length + 2)) = some name := by
    rw [drop_commentOut, ← ht, leadingCommand?]
  have hfirst : (isCommentLine g || !isCommentLine (commentOut t)) = false := by
    rw [hg, isCommentLine_commentOut]
    rfl
  have hother : (decide (name = "begin".toList) || decide (name = "end".toList)) = false := by
    simpa using hcommand
  have hlength : (indentation t ++ ['%', ' ']).length = (indentation t).length + 2 :=
    List.length_append
  simp only [uncommentCommand?, hfirst, hname, hother, hintro, hbody, Bool.false_eq_true,
    ↓reduceIte, ne_eq, not_true_eq_false, Option.bind_eq_bind, Option.bind_some,
    indentation_commentOut, uncommenting, hlength]

/-- The first rule that applies to a recoverable line that was commented out takes the
comment away. -/
theorem Recoverable.step?_commentOut (h : Recoverable t g) :
    ∃ f, step? (commentOut t) g = some (t, f) := by
  obtain ⟨name, ht, hg, hmarker⟩ := h.command
  obtain ⟨r, hr⟩ := exists_trimStart_eq ht
  have hrule : ∃ f, rule? (commentOut t) g = some (uncommenting t, f) := by
    rw [rule?, removeTerminator?_commentOut]
    rcases hu : uncommentMarker? (commentOut t) g with _ | ⟨e, f⟩
    · have hcommand : ¬(name = "begin".toList ∨ name = "end".toList) := fun hname => by
        obtain ⟨m, n, hm, hlive⟩ := hmarker hname
        exact uncommentMarker?_commentOut_ne_none hr hm hlive hu
      rw [uncommentCommand?_commentOut h.code ht hg hcommand]
      exact ⟨_, rfl⟩
    · obtain ⟨hidden, hhidden, -, rfl, -⟩ := of_uncommentMarker? hu
      rw [hiddenMarker?_commentOut hr] at hhidden
      obtain ⟨m, -, rfl⟩ := Option.map_eq_some_iff.1 hhidden
      exact ⟨f, rfl⟩
  obtain ⟨f, hf⟩ := hrule
  refine ⟨f, ?_⟩
  simp [step?, hf, apply_uncommenting, (commentOut_ne t).symm]

/-- One round brings the line back, and the next one finds nothing to do. -/
theorem Recoverable.repairLine_commentOut (hr : Recoverable t g) (hf : Faithful t g) :
    ∃ f, repairLine (commentOut t) g = (t, [f]) := by
  obtain ⟨f, hstep⟩ := hr.step?_commentOut
  refine ⟨f, ?_⟩
  rw [repairLine, maxRounds, rounds, hstep]
  simp only [hf.inStep.rounds_eq]

end LineRepair

/-! ## Documents -/

namespace AlignedLines

/-- Lines of which some were commented out come back, each with one fix. -/
theorem repairFrom_commentOut {ts gs : List Text} (hlength : ts.length = gs.length)
    (hfaithful : ∀ x ∈ ts.zip gs, LineRepair.Faithful x.1 x.2) (p : Nat → Prop) [DecidablePred p]
    (hrecoverable : ∀ i, p i → ∀ x ∈ (ts.zip gs)[i]?, LineRepair.Recoverable x.1 x.2) (k : Nat) :
    let repaired := repairFrom k (ts.mapIdx fun i t => if p i then commentOut t else t) gs
    repaired.map (·.1) = ts ∧ (repaired.flatMap (·.2)).length = Nat.count p ts.length := by
  induction ts generalizing gs p k with
  | nil => cases gs <;> simp [repairFrom]
  | cons t ts ih =>
    cases gs with
    | nil => cases hlength
    | cons g gs =>
      rw [List.zip_cons_cons, List.forall_mem_cons] at hfaithful
      obtain ⟨hlines, hcount⟩ := ih (Nat.succ.inj hlength) hfaithful.2 (fun i => p (i + 1))
        (fun i hi => hrecoverable (i + 1) hi) (k + 1)
      have hline : ∃ fixes, repairLine (if p 0 then commentOut t else t) g = (t, fixes) ∧
          fixes.length = if p 0 then 1 else 0 := by
        by_cases h₀ : p 0
        · obtain ⟨f, hf⟩ := (hrecoverable 0 h₀ (t, g) rfl).repairLine_commentOut hfaithful.1
          exact ⟨[f], by rw [if_pos h₀, hf], by rw [if_pos h₀]; rfl⟩
        · exact ⟨[], by rw [if_neg h₀, hfaithful.1.inStep.repairLine_eq], by rw [if_neg h₀]; rfl⟩
      obtain ⟨fixes, hline, hfixes⟩ := hline
      simp only [List.mapIdx_cons, repairFrom, repairNumbered_eq, hline, List.map_cons,
        List.flatMap_cons, List.length_append, List.length_map, hlines, hcount, hfixes,
        List.length_cons, Nat.count_succ', true_and]
      exact Nat.add_comm _ _

end AlignedLines

namespace Text

theorem lineCount_eq (t : Text) :
    lineCount t =
      if (lines t).getLast? = some [] then (lines t).length - 1 else (lines t).length := by
  rcases List.eq_nil_or_concat (lines t) with h | ⟨ts, last, h⟩
  · exact absurd h (lines_ne_nil t)
  · cases last <;> simp [lineCount, physicalLines, h]

end Text

namespace Guided

/-- The rendition has the lines of its guide, and each has the markup of its counterpart. -/
structure Faithful (t o : Text) : Prop where
  count : Text.lineCount t = Text.lineCount o
  length : (Text.lines t).length = (Text.lines o).length
  lines : ∀ x ∈ (Text.lines t).zip (Text.lines o), LineRepair.Faithful x.1 x.2

/-- The lines with the given numbers can be recovered beside their counterparts. -/
def Recoverable (S : Finset Nat) (t o : Text) : Prop :=
  ∀ i ∈ S, ∃ x, ((Text.lines t).zip (Text.lines o))[i]? = some x ∧ LineRepair.Recoverable x.1 x.2

variable {S : Finset Nat} {t o : Text}

theorem Faithful.inStep (h : Faithful t o) : InStep t o := by
  rw [InStep, Strategy.select, if_pos h.count]
  exact fun x hx => (h.lines x hx).inStep

/-- A guide beside which lines can be recovered is not blank. -/
theorem Recoverable.isBlankText_guide (h : Recoverable S t o) (hS : S.Nonempty) :
    Text.isBlankText o = false := by
  obtain ⟨i, hi⟩ := hS
  obtain ⟨⟨line, g⟩, hx, hline⟩ := h i hi
  obtain ⟨-, hget⟩ := List.getElem?_zip_eq_some.1 hx
  obtain ⟨name, -, hname, -⟩ := hline.command
  obtain ⟨r, hr⟩ := LineRepair.exists_trimStart_eq hname
  have hg : '\\' ∈ g := (List.dropWhile_sublist _).subset (hr ▸ List.mem_cons_self ..)
  have ho : '\\' ∈ o := Text.mem_of_mem_lines (List.mem_of_getElem? hget) hg
  exact List.all_eq_false.2 ⟨_, ho, by decide⟩

theorem Recoverable.subset_range (h : Recoverable S t o) :
    S ⊆ Finset.range (Text.lines t).length := by
  intro i hi
  obtain ⟨x, hx, -⟩ := h i hi
  obtain ⟨hget, -⟩ := List.getElem?_zip_eq_some.1 hx
  exact Finset.mem_range.2 (List.getElem?_eq_some_iff.1 hget).1

theorem Recoverable.exists_getElem? (h : Recoverable S t o) {i : Nat} (hi : i ∈ S) :
    ∃ line, (Text.lines t)[i]? = some line ∧ line ≠ [] := by
  obtain ⟨⟨line, g⟩, hx, hline⟩ := h i hi
  obtain ⟨hget, -⟩ := List.getElem?_zip_eq_some.1 hx
  exact ⟨line, hget, hline.ne_nil⟩

/-- To comment lines out touches nothing else. -/
theorem lines_commentOutLines (S : Finset Nat) (t : Text) :
    Text.lines (commentOutLines S t) =
      (Text.lines t).mapIdx fun i line => if i ∈ S then commentOut line else line := by
  refine Text.lines_unlines (by simpa using Text.lines_ne_nil t) fun line hline => ?_
  obtain ⟨i, hi, rfl⟩ := List.mem_mapIdx.1 hline
  have hmem := Text.newline_not_mem_of_mem_lines (List.getElem_mem hi)
  split
  · exact newline_not_mem_commentOut hmem
  · exact hmem

theorem commentOutLines_empty (t : Text) : commentOutLines ∅ t = t := by
  have hlines : ((Text.lines t).mapIdx fun _ line => line) = Text.lines t :=
    List.ext_getElem (by simp) (by simp)
  simp only [commentOutLines, Finset.notMem_empty, ↓reduceIte, hlines, Text.unlines_lines]

theorem Recoverable.lineCount_commentOutLines (h : Recoverable S t o) :
    Text.lineCount (commentOutLines S t) = Text.lineCount t := by
  have hlast : (Text.lines (commentOutLines S t)).getLast? = some [] ↔
      (Text.lines t).getLast? = some [] := by
    rw [lines_commentOutLines, List.getLast?_eq_getElem?, List.getLast?_eq_getElem?,
      List.length_mapIdx, List.getElem?_mapIdx]
    cases hline : (Text.lines t)[(Text.lines t).length - 1]? with
    | none => simp
    | some line =>
      rw [Option.map_some]
      split
      · rename_i hi
        obtain ⟨line', hline', hne⟩ := h.exists_getElem? hi
        obtain rfl : line = line' := Option.some.inj (hline ▸ hline')
        simp [hne, commentOut]
      · rfl
  simp only [Text.lineCount_eq, hlast]
  rw [lines_commentOutLines, List.length_mapIdx]

/-- Where the commented lines are, the rendition changed. -/
theorem Recoverable.commentOutLines_ne (h : Recoverable S t o) (hS : S.Nonempty) :
    commentOutLines S t ≠ t := by
  intro heq
  obtain ⟨i, hi⟩ := hS
  obtain ⟨line, hline, -⟩ := h.exists_getElem? hi
  have hlines := lines_commentOutLines S t
  have hget := congrArg (·[i]?) hlines
  simp [heq, hline, hi] at hget
  exact commentOut_ne line hget.symm

/-- A pass over the lines brings back what was commented out. -/
theorem Faithful.repairByLine_commentOutLines (h : Faithful t o) (hS : Recoverable S t o) :
    (repairByLine (commentOutLines S t) o).content = t ∧
      (repairByLine (commentOutLines S t) o).fixes.length = S.card := by
  have hrecoverable : ∀ i ∈ S, ∀ x ∈ ((Text.lines t).zip (Text.lines o))[i]?,
      LineRepair.Recoverable x.1 x.2 := fun i hi x hx => by
    obtain ⟨x', hx', hline⟩ := hS i hi
    obtain rfl := Option.some.inj (hx'.symm.trans hx)
    exact hline
  obtain ⟨hlines, hcount⟩ :=
    AlignedLines.repairFrom_commentOut h.length h.lines (· ∈ S) hrecoverable 1
  rw [repairByLine, lines_commentOutLines]
  refine ⟨?_, ?_⟩
  · dsimp only
    rw [hlines, Text.unlines_lines]
  · dsimp only
    rw [hcount, Nat.count_eq_card_filter_range, Finset.filter_mem_eq_inter,
      Finset.inter_eq_right.2 hS.subset_range]

/-- Passes stop behind one that brings the rendition in step. -/
theorem passes_of_pass? {r : GuidedRepair} (hpass : pass? t o = some r) (h : InStep r.content o)
    (n : Nat) : passes (n + 1) t o = r := by
  rw [passes, hpass]
  simp only [passes_of_inStep h, List.append_nil]

end Guided

open Guided

/-- A rendition that has the markup of its guide line by line is left as it is; when
command lines of it are commented out, the repair gives it back with one fix for each. -/
theorem repairGuided_recovers {t o : Text} (h : Faithful t o) :
    repairGuided t o = ⟨t, []⟩ ∧
      ∀ S, Recoverable S t o →
        (repairGuided (commentOutLines S t) o).content = t ∧
          (repairGuided (commentOutLines S t) o).fixCount = S.card := by
  refine ⟨repairGuided_of_inStep h.inStep, fun S hS => ?_⟩
  rcases S.eq_empty_or_nonempty with rfl | hne
  · rw [commentOutLines_empty, repairGuided_of_inStep h.inStep]
    exact ⟨rfl, rfl⟩
  · obtain ⟨hcontent, hcard⟩ := h.repairByLine_commentOutLines hS
    have hselect : Strategy.select (commentOutLines S t) o = .lineAligned :=
      if_pos (hS.lineCount_commentOutLines.trans h.count)
    have hchange : (repairByLine (commentOutLines S t) o).content ≠ commentOutLines S t := by
      rw [hcontent]
      exact (hS.commentOutLines_ne hne).symm
    -- The first pass brings the lines back; the second one finds a rendition in step.
    have hpass : pass? (commentOutLines S t) o = some (repairByLine (commentOutLines S t) o) := by
      rw [pass?, hselect, Strategy.apply]
      exact if_neg hchange
    have hrepair : repairGuided (commentOutLines S t) o =
        repairByLine (commentOutLines S t) o := by
      rw [repairGuided, hS.isBlankText_guide hne, if_neg Bool.false_ne_true]
      exact passes_of_pass? hpass (hcontent.symm ▸ h.inStep) _
    rw [hrepair]
    exact ⟨hcontent, hcard⟩

/-- A marker and a command that were commented out. -/
theorem repairGuided_recovers_item :
    Faithful "\\begin{a}\n \\item u".toList "\\begin{a}\n \\item v".toList ∧
      commentOutLines {0, 1} "\\begin{a}\n \\item u".toList =
        "% \\begin{a}\n % \\item u".toList ∧
      (repairGuided "% \\begin{a}\n % \\item u".toList
        "\\begin{a}\n \\item v".toList).content =
          "\\begin{a}\n \\item u".toList := by
  have h : Faithful "\\begin{a}\n \\item u".toList
      "\\begin{a}\n \\item v".toList :=
    ⟨by decide, by decide, by decide +kernel⟩
  have hS : Recoverable {0, 1} "\\begin{a}\n \\item u".toList
      "\\begin{a}\n \\item v".toList := by
    intro i hi
    rcases Finset.mem_insert.1 hi with rfl | hi
    · exact ⟨_, rfl, by decide, "begin".toList, rfl, rfl, fun _ => ⟨_, _, rfl, by decide⟩⟩
    · obtain rfl := Finset.mem_singleton.1 hi
      exact ⟨_, rfl, by decide, "item".toList, rfl, rfl, fun hcommand =>
        absurd hcommand (by decide)⟩
  have hout : commentOutLines {0, 1} "\\begin{a}\n \\item u".toList =
      "% \\begin{a}\n % \\item u".toList := by decide
  exact ⟨h, hout, hout ▸ ((repairGuided_recovers h).2 _ hS).1⟩

end LatexRepair
