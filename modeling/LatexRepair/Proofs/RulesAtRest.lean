import LatexRepair.Proofs.Misspellings
import LatexRepair.RuleRepair

/-!
# Rules that are always applied

Without a validation a repair by rules corrects misspellings, normalizes line ends and collapses
duplicate ends of the document, in this order (`content_repairByRules_none`). None of the three
makes work for one before it, so what they leave has nothing left for any of them, and a second
repair returns it without a fix (`repairByRules_none_rests`).
-/

namespace LatexRepair

open Relation Terminator

variable {t : Text}

/-- A collapse that counts no end leaves the text as it is. -/
theorem Terminator.collapse_of_snd_eq_zero (h : (collapse t).2 = 0) : (collapse t).1 = t := by
  cases hone : collapseOne? t with
  | none => rw [collapse_of_none hone]
  | some u =>
    rw [collapse_of_some hone] at h
    cases h

namespace RuleRepair

theorem content_andThen_normalizeNewlines (r : RuleRepair) :
    (r.andThen normalizeNewlines).content = Text.normalizeNewlines r.content := by
  unfold andThen normalizeNewlines
  by_cases hr : '\r' ∈ r.content
  · rw [if_pos hr]
  · rw [if_neg hr, Text.normalizeNewlines_of_not_mem hr]

theorem content_andThen_collapseTerminators (r : RuleRepair) :
    (r.andThen collapseTerminators).content = (collapse r.content).1 := by
  unfold andThen collapseTerminators
  dsimp only
  by_cases hzero : (collapse r.content).2 = 0
  · rw [if_pos hzero, collapse_of_snd_eq_zero hzero]
  · rw [if_neg hzero]

end RuleRepair

/-- What the rules that are always applied make of a document. -/
theorem content_repairByRules_none (allowBalance : Bool) (t : Text) :
    (repairByRules allowBalance none t).content =
      (collapse (Text.normalizeNewlines (Typo.correctAll t).1)).1 := by
  change (((RuleRepair.andThen ⟨t, []⟩ RuleRepair.correctTypos).andThen
    RuleRepair.normalizeNewlines).andThen RuleRepair.collapseTerminators).content = _
  rw [RuleRepair.content_andThen_collapseTerminators,
    RuleRepair.content_andThen_normalizeNewlines]
  rfl

/-- A document without misspellings, carriage returns and duplicate ends stays as it is. -/
theorem repairByRules_none_of_clean (allowBalance : Bool) (htypos : Typo.Spelled t)
    (hr : '\r' ∉ t) (hends : ¬HasDuplicate t) : repairByRules allowBalance none t = ⟨t, []⟩ := by
  have hcorrect : RuleRepair.andThen ⟨t, []⟩ RuleRepair.correctTypos = ⟨t, []⟩ := by
    rw [RuleRepair.andThen, RuleRepair.correctTypos, Typo.correctAll_of_spelled htypos]
    rfl
  have hnormalize : RuleRepair.normalizeNewlines t = none := if_neg hr
  have hcollapse : RuleRepair.collapseTerminators t = none := by
    rw [RuleRepair.collapseTerminators,
      collapse_of_none ((collapseOne?_eq_none_iff hr).2 hends)]
    rfl
  change ((RuleRepair.andThen ⟨t, []⟩ RuleRepair.correctTypos).andThen
    RuleRepair.normalizeNewlines).andThen RuleRepair.collapseTerminators = _
  rw [hcorrect, RuleRepair.andThen.eq_def ⟨t, []⟩ RuleRepair.normalizeNewlines, hnormalize,
    RuleRepair.andThen, hcollapse]

theorem Typo.Spelled.normalizeNewlines (h : Typo.Spelled t) :
    Typo.Spelled (Text.normalizeNewlines t) :=
  Typo.spelled_iff.2 fun typo htypo hin => Typo.spelled_iff.1 h typo htypo
    ((Typo.isControl_of_mem htypo).1.infix_normalizeNewlines hin)

/-- No misspelling starts with an end of the document, so collapses bring none about. -/
theorem Typo.Spelled.collapse (h : Typo.Spelled t) : Typo.Spelled (collapse t).1 := by
  have hend : ∀ typo ∈ Typo.all, ¬terminator <+: typo.wrong := by decide
  refine Terminator.collapse_induction (motive := fun t u => Typo.Spelled t → Typo.Spelled u)
    (fun _ _ => id) (fun t u v hone ih ht => ih ?_) t h
  exact Typo.spelled_iff.2 fun typo htypo hin => Typo.spelled_iff.1 ht typo htypo
    ((Typo.isControl_of_mem htypo).1.infix_dropsEnd (hend typo htypo) (of_collapseOne? hone) hin)

/-- The rules that are always applied come to rest : the collapses of duplicate ends come to an
end, the repaired document has no misspelling, no carriage return and no duplicate end, and a
second repair returns it without a fix. Where there was neither a misspelling nor a carriage
return nothing but ends of the document and white space beside them has gone, and the lines of
comments between two ends have stayed. -/
theorem repairByRules_none_rests (allowBalance : Bool) (t : Text) :
    let r := (repairByRules allowBalance none t).content
    WellFounded (fun v u => collapseOne? u = some v) ∧
      Typo.Spelled r ∧ '\r' ∉ r ∧ ¬HasDuplicate r ∧
      repairByRules allowBalance none r = ⟨r, []⟩ ∧
      (Typo.Spelled t → '\r' ∉ t → ReflTransGen DropsEnd t r) := by
  intro r
  have hcontent : r = (collapse (Text.normalizeNewlines (Typo.correctAll t).1)).1 :=
    content_repairByRules_none allowBalance t
  have hreturn := Text.return_not_mem_normalizeNewlines (Typo.correctAll t).1
  have htypos : Typo.Spelled r := by
    rw [hcontent]
    exact (Typo.spelled_correctAll t).normalizeNewlines.collapse
  have hr : '\r' ∉ r := by
    rw [hcontent]
    exact fun h => hreturn ((sublist_collapse _).subset h)
  have hends : ¬HasDuplicate r := by
    rw [hcontent]
    exact not_hasDuplicate_collapse hreturn
  refine ⟨wellFounded_collapseOne?, htypos, hr, hends,
    repairByRules_none_of_clean allowBalance htypos hr hends, fun hspelled ht => ?_⟩
  rw [hcontent, Typo.correctAll_of_spelled hspelled, Text.normalizeNewlines_of_not_mem ht]
  exact reflTransGen_collapse t

/-- Of three ends the first one is left, with the comments that separated them. -/
theorem repairByRules_none_rests_comments :
    let t := "\\end{document}\n% a\n\\end{document}\n% b\n\\end{document}".toList
    Typo.Spelled t ∧ '\r' ∉ t ∧
      ReflTransGen DropsEnd t "\\end{document}\n% a\n% b\n".toList := by
  intro t
  have hspelled : Typo.Spelled t := by
    unfold Typo.Spelled
    decide +kernel
  have hr : '\r' ∉ t := by decide +kernel
  have hcontent : (repairByRules false none t).content =
      "\\end{document}\n% a\n% b\n".toList := by
    decide +kernel
  have hrests := repairByRules_none_rests false t
  dsimp only at hrests
  rw [hcontent] at hrests
  exact ⟨hspelled, hr, hrests.2.2.2.2.2 hspelled hr⟩

end LatexRepair
