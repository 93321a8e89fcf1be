import LatexRepair.Proofs.BracePlaces
import LatexRepair.Proofs.HiddenMarkers
import LatexRepair.Proofs.LineRest

/-!
# Alignment through a pass

A rendition with as many physical lines as its guide is repaired line by line. An empty
piece behind a final newline is no physical line, so the number of lines changes with the
last piece : it stays unless that piece becomes empty. An empty line stays empty
(`LineRepair.rule?_nil`), and the only rule that leaves nothing of a line is the one that
removes ends of the document (`LineRepair.of_apply_eq_nil`). So a pass keeps the documents
aligned exactly if it does not take all of the last line in this manner
(`select_repairByLine_iff`).
-/

namespace LatexRepair

/-! ## Lines that become empty -/

namespace LineRepair

variable {t g : Text} {e : Edit} {f : LineFix}

theorem eq_nil_of_sameShape {xs : List PlacedToken} (h : sameShape [] xs = true) : xs = [] := by
  simpa [sameShape] using h

/-- Braces are not balanced beside a counterpart that has nothing but one brace. -/
theorem any_isCatalogued_singleton {x : PlacedToken} (h : x.token = .closeBrace) :
    [x].any isCatalogued = false := by
  simp [isCatalogued, h]

/-- An empty line stays empty. -/
theorem rule?_nil (g : Text) : rule? [] g = none := by
  refine Option.eq_none_iff_forall_ne_some.2 fun ⟨e, f⟩ h => ?_
  rcases of_rule? h with h | h | h | h | h
  · obtain ⟨-, i, hi, -⟩ := of_removeTerminator? h
    cases hi
  · obtain ⟨hidden, hh, -⟩ := of_uncommentMarker? h
    cases hh
  · obtain ⟨-, hcomment, -⟩ := of_uncommentCommand? h
    cases hcomment
  · obtain ⟨-, -, hblank, -⟩ := of_restoreComment? h
    cases hblank
  · have hnil : skeleton (codePart []) = [] := by
      rw [codePart, codePartFrom, skeleton, skeletonFrom]
    obtain ⟨hcatalogued, -⟩ := of_rebalance? h
    have hplaces := places_of_rebalance? h
    rw [hnil] at hplaces
    rcases hplaces with ⟨closer, -, hcloser, hclose, -, -, -, hshape⟩ | ⟨x, hx, -⟩
    · cases hg : skeleton (codePart g) with
      | nil =>
        rw [hg] at hcloser
        cases hcloser
      | cons x xs =>
        rw [hg] at hcloser hshape hcatalogued
        obtain rfl := Option.some.inj hcloser
        obtain rfl : xs = [] := eq_nil_of_sameShape hshape
        rw [any_isCatalogued_singleton hclose] at hcatalogued
        cases hcatalogued
    · cases hx

/-- A line of which a rule leaves nothing ends the document, and its counterpart does not. -/
theorem of_apply_eq_nil (h : rule? t g = some (e, f)) (ht : t ≠ []) (hnil : e.apply t = []) :
    f = .removedTerminator ∧ Text.contains terminator (codePart g) = false := by
  rcases of_rule? h with h | h | h | h | h
  · obtain ⟨hg, -, -, -, hf⟩ := of_removeTerminator? h
    exact ⟨hf, hg⟩
  · obtain ⟨hidden, hh, -, rfl, -⟩ := of_uncommentMarker? h
    obtain ⟨run, r, -, -, -, hedit⟩ := exists_uncomment_eq hh
    rw [StructureRepair.uncomment, hh] at hedit
    dsimp only at hedit
    rw [hnil] at hedit
    simp at hedit
  · obtain ⟨-, -, name, intro, -, hintro, hname, rfl, -⟩ := of_uncommentCommand? h
    rw [Edit.apply_delete, List.append_eq_nil_iff] at hnil
    rw [hnil.2] at hname
    cases hname
  · have hcomment := isCommentLine_of_restoreComment? h
    rw [hnil] at hcomment
    cases hcomment
  · obtain ⟨hcatalogued, -⟩ := of_rebalance? h
    rcases places_of_rebalance? h with ⟨-, i, -, -, -, rfl, -⟩ | ⟨x, hx, hclose, rfl, -, hshape⟩
    · have hlength := length_insert (t := t) i
      rw [hnil] at hlength
      cases hlength
    · -- The line is one closing brace, so its counterpart holds no markup.
      obtain ⟨a, b, r, rfl, -, -, -, -, hedit⟩ :=
        exists_code_around_closer (List.mem_of_getElem? hx) hclose
      rw [hnil] at hedit
      obtain ⟨rfl, rfl, rfl⟩ : a = [] ∧ b = [] ∧ r = [] := by simpa using hedit.symm
      have hbrace : skeleton (codePart ['}']) = [⟨.closeBrace, 0, 1⟩] := by decide +kernel
      simp only [List.nil_append, hbrace] at hx hshape
      have hk := (List.getElem?_eq_some_iff.1 hx).1
      rw [Nat.lt_one_iff.1 hk, List.drop_zero] at hshape
      rw [eq_nil_of_sameShape hshape] at hcatalogued
      cases hcatalogued

theorem rounds_nil (n : Nat) (g : Text) : rounds n [] g = ([], []) := by
  have hstep : step? [] g = none := by
    rw [step?, rule?_nil]
    rfl
  cases n with
  | zero => rfl
  | succ n => rw [rounds, hstep]

/-- The last rule that rounds apply to a line of which they leave nothing. -/
theorem of_rounds_eq_nil {n : Nat} (ht : t ≠ []) (hnil : (rounds n t g).1 = []) :
    (rounds n t g).2.getLast? = some .removedTerminator ∧
      Text.contains terminator (codePart g) = false := by
  induction n generalizing t with
  | zero => exact absurd hnil ht
  | succ n ih =>
    rw [rounds] at hnil ⊢
    split at hnil
    · exact absurd hnil ht
    · rename_i u fix hstep
      obtain ⟨-, e, hrule, rfl⟩ := step?_eq_some hstep
      dsimp only at hnil ⊢
      cases hu : e.apply t with
      | nil =>
        rw [rounds_nil]
        exact ⟨congrArg some (of_apply_eq_nil hrule ht hu).1, (of_apply_eq_nil hrule ht hu).2⟩
      | cons c u =>
        rw [hu] at hnil
        obtain ⟨hlast, hg⟩ := ih (List.cons_ne_nil c u) hnil
        exact ⟨by rw [List.getLast?_cons, hlast]; rfl, hg⟩

end LineRepair

/-! ## The last line -/

namespace Text

theorem lineCount_append_last {t last : Text} {ts : List Text} (h : lines t = ts ++ [last]) :
    lineCount t = ts.length + if last = [] then 0 else 1 := by
  cases last <;> simp [lineCount, physicalLines, h]

end Text

/-- A repair leaves nothing of the line : what it does last is to remove an end of the
document, which the counterpart does not have. -/
structure TakenWhole (line g : Text) : Prop where
  ne_nil : line ≠ []
  eq_nil : (repairLine line g).1 = []
  last : (repairLine line g).2.getLast? = some .removedTerminator
  counterpart : Text.contains terminator (codePart g) = false

/-- A repair line by line takes the line whole that the rendition ends in, without a newline
behind it. -/
def LosesLastLine (t o : Text) : Prop :=
  ∃ ts line gs g rest, Text.lines t = ts ++ [line] ∧ Text.lines o = gs ++ g :: rest ∧
    gs.length = ts.length ∧ TakenWhole line g

section

variable {t o line g : Text} {ts gs rest : List Text}

/-- Whether the last line is lost is decided by it and its counterpart. -/
theorem losesLastLine_iff (ht : Text.lines t = ts ++ [line]) (ho : Text.lines o = gs ++ g :: rest)
    (hlength : gs.length = ts.length) :
    LosesLastLine t o ↔ line ≠ [] ∧ (repairLine line g).1 = [] := by
  constructor
  · rintro ⟨ts', line', gs', g', rest', ht', ho', hlength', h⟩
    obtain ⟨rfl, hline⟩ := List.append_inj' (ht.symm.trans ht') rfl
    obtain ⟨rfl, hg⟩ := List.append_inj (ho.symm.trans ho') (hlength.trans hlength'.symm)
    obtain rfl := (List.cons.inj hline).1
    obtain rfl := (List.cons.inj hg).1
    exact ⟨h.ne_nil, h.eq_nil⟩
  · rintro ⟨hne, hnil⟩
    obtain ⟨hlast, hg⟩ := LineRepair.of_rounds_eq_nil hne hnil
    exact ⟨ts, line, gs, g, rest, ht, ho, hlength, hne, hnil, hlast, hg⟩

/-- A repair line by line turns the last line into what the rules make of it. -/
theorem lines_repairByLine_append (ht : Text.lines t = ts ++ [line])
    (ho : Text.lines o = gs ++ g :: rest) (hlength : gs.length = ts.length) :
    ∃ us, us.length = ts.length ∧
      Text.lines (repairByLine t o).content = us ++ [(repairLine line g).1] := by
  rw [lines_repairByLine, ht, ho, AlignedLines.mapAligned_append hlength.symm]
  refine ⟨_, AlignedLines.length_mapAligned (fun t g => lineStep g t) ts gs, ?_⟩
  cases rest <;> rfl

end

/-- A pass over aligned lines keeps the documents aligned unless it takes the last line whole, and
then one line is missing. -/
theorem select_repairByLine_iff {t o : Text} (h : Strategy.select t o = .lineAligned) :
    (Strategy.select (repairByLine t o).content o = .lineAligned ↔ ¬LosesLastLine t o) ∧
      (LosesLastLine t o → Text.lineCount (repairByLine t o).content + 1 = Text.lineCount o) := by
  have hselect : ∀ u, Strategy.select u o = .lineAligned ↔ Text.lineCount u = Text.lineCount o :=
    fun u => by simp [Strategy.select]
  have hcount := (hselect t).1 h
  obtain ⟨ts, last, ht⟩ : ∃ ts last, Text.lines t = ts ++ [last] := by
    simpa [List.concat_eq_append] using
      (List.eq_nil_or_concat (Text.lines t)).resolve_left (Text.lines_ne_nil t)
  have htCount := Text.lineCount_append_last ht
  rcases eq_or_ne last [] with rfl | hne
  · -- Behind a final newline the rules find an empty line, which they leave.
    have hpass : Guided.pass o t = (repairByLine t o).content := by rw [Guided.pass, h]; rfl
    have haligned := Guided.EndsAligned.pass ⟨⟨ts, ht⟩, hcount⟩
    have hkept : ¬LosesLastLine t o := by
      rintro ⟨ts', line, gs, g, rest, ht', -, -, htaken⟩
      obtain ⟨-, hline⟩ := List.append_inj' (ht.symm.trans ht') rfl
      exact htaken.ne_nil (List.cons.inj hline).1.symm
    rw [hselect, ← hpass]
    exact ⟨iff_of_true haligned.count hkept, fun hlost => absurd hlost hkept⟩
  · obtain ⟨os, rest, ho, hos, -⟩ := Text.exists_lines_eq_append o
    rw [if_neg hne] at htCount
    obtain ⟨gs, g, rfl⟩ : ∃ gs g, os = gs ++ [g] := by
      simpa [List.concat_eq_append] using (List.eq_nil_or_concat os).resolve_left
        fun hnil => by rw [hnil, List.length_nil] at hos; omega
    rw [List.append_assoc, List.singleton_append] at ho
    rw [List.length_append, List.length_singleton] at hos
    have hlength : gs.length = ts.length := by omega
    obtain ⟨us, hus, hlines⟩ := lines_repairByLine_append ht ho hlength
    have hafter := Text.lineCount_append_last hlines
    rw [hselect, losesLastLine_iff ht ho hlength]
    by_cases hnil : (repairLine last g).1 = []
    · rw [if_pos hnil] at hafter
      exact ⟨iff_of_false (by omega) (not_not.2 ⟨hne, hnil⟩), fun _ => by omega⟩
    · rw [if_neg hnil] at hafter
      exact ⟨iff_of_true (by omega) fun h => hnil h.2, fun h => absurd h.2 hnil⟩

/-- With a newline behind it the end of the document leaves an empty line. -/
theorem select_repairByLine_iff_greeting :
    let t := "Hallo\n\\end{document}\n".toList
    let o := "Hello\nWorld\n".toList
    Strategy.select t o = .lineAligned ∧
      Strategy.select (repairByLine t o).content o = .lineAligned := by
  intro t o
  have h : Strategy.select t o = .lineAligned := by decide +kernel
  refine ⟨h, (select_repairByLine_iff h).1.2 ?_⟩
  rintro ⟨ts, line, gs, g, rest, ht, -, -, htaken⟩
  have hline : (Text.lines t).getLast? = some line := by rw [ht]; simp
  have hnil : (Text.lines t).getLast? = some [] := by decide +kernel
  exact htaken.ne_nil (Option.some.inj (hline.symm.trans hnil))

/-- Without a newline behind it the end of the document leaves a line too few. -/
theorem select_repairByLine_unaligned :
    let t := "Hallo\n\\end{document}".toList
    let o := "Hello\nWorld".toList
    Strategy.select t o = .lineAligned ∧
      Strategy.select (repairByLine t o).content o = .structural := by
  decide +kernel

end LatexRepair
