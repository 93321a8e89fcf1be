import LatexRepair.Proofs.CommentBlindness
import LatexRepair.Proofs.RealPlaces
import LatexRepair.Proofs.WellFormed

/-!
# One document in front of another

Findings are made of the delimiters and the environments that a scan has met, and of nothing else
that it knows (`ScanState.nesting_run`). A document without findings leaves nothing open, so behind
it a scan goes on as it starts (`nesting_run_of_findings_eq_nil`). Nothing of the second
document is seen from the first one if that one ends with a newline.

`findings_scan_append` : so the findings of the two documents together are those of the second one,
each as many lines and bytes further on as the first one has.
-/

namespace LatexRepair

/-- The text `a` stands in front of a document : every line moves. -/
def Insertion.inFront (a : Text) : Insertion :=
  ⟨0, a.count '\n', Text.byteLength a⟩

section InFront

variable (a : Text)

@[simp] theorem Insertion.moveLine_inFront (l : Nat) :
    (inFront a).moveLine l = l + a.count '\n' :=
  if_pos (Nat.zero_le l)

@[simp] theorem Insertion.moveOffset_inFront (l offset : Nat) :
    (inFront a).moveOffset l offset = offset + Text.byteLength a :=
  if_pos (Nat.zero_le l)

/-- Behind whole lines a document starts where its start has moved. -/
theorem Position.move_start_inFront (ha : a = [] ∨ a.getLast? = some '\n') :
    start.move (.inFront a) = start.after a := by
  have hcolumn := column_after ha
  have hline := line_after start a
  have hoffset := offset_after start a
  generalize start.after a = p at hcolumn hline hoffset ⊢
  obtain ⟨line, column, offset⟩ := p
  simp only [move, start, Insertion.moveLine_inFront, Insertion.moveOffset_inFront, mk.injEq]
    at hcolumn hline hoffset ⊢
  exact ⟨hline.symm, hcolumn.symm, hoffset.symm⟩

end InFront

namespace ScanState

/-! ## What findings are made of -/

/-- The delimiters and environments that a scan knows of. -/
def nesting (s : ScanState) : ScanState where
  delimiters := s.delimiters
  environments := s.environments
  findings := s.findings

variable (s : ScanState)

theorem nesting_dollars (p : Position) (n : Nat) :
    (s.dollars p n).nesting = s.nesting.dollars p n := by
  have htoggle : ∀ (s : ScanState) d p,
      (s.toggleDelimiter d p).nesting = s.nesting.toggleDelimiter d p := fun s d p => by
    unfold toggleDelimiter
    exact apply_ite nesting _ _ _
  induction s, p, n using dollars.induct with
  | case1 s p => rfl
  | case2 s p => exact htoggle s .inlineMath p
  | case3 s p n h ih =>
    rw [dollars, dollars, if_pos h, ih]
    exact (if_pos h).symm
  | case4 s p n h ih =>
    rw [dollars, dollars, if_neg h, ih, htoggle]
    exact (if_neg h).symm

/-- A lexeme does to delimiters and environments what they alone say. -/
theorem nesting_act (x : Lexeme) : (s.act x).nesting = (s.nesting.act x).nesting := by
  obtain ⟨token, start, stop⟩ := x
  cases token with
  | openBracket | closeBracket =>
    unfold act
    dsimp only
    rw [show s.nesting.inMath = s.inMath from rfl]
    split <;> rfl
  | dollars n => exact (s.nesting_dollars start n).trans (s.nesting.nesting_dollars start n).symm
  | controlSymbol c =>
    induction c using Token.mathSymbol_cases with
    | other c h₁ h₂ h₃ h₄ => simp [act, h₁, h₂, h₃, h₄, nesting]
    | _ => rfl
  | verbatim name closed => cases closed <;> rfl
  | _ => rfl

theorem nesting_step (x : Lexeme) : (s.step x).nesting = (s.nesting.step x).nesting := by
  have hnote : ∀ s : ScanState, (s.noteTrailing x).nesting = s.nesting := fun s => by
    obtain ⟨p, hp⟩ := s.exists_noteTrailing_eq x
    rw [hp]
    rfl
  rw [step, step, nesting_act, hnote, nesting_act (s.nesting.noteTrailing x), hnote]
  rfl

theorem nesting_run (xs : List Lexeme) : (s.run xs).nesting = (s.nesting.run xs).nesting := by
  induction xs generalizing s with
  | nil => rfl
  | cons x xs ih => rw [run_cons, run_cons, ih, nesting_step, ← ih]

theorem findings_finish_nesting : s.nesting.finish.findings = s.finish.findings :=
  rfl

end ScanState

/-! ## A document behind another one -/

/-- A scan without findings has nothing left open. -/
theorem nesting_run_of_findings_eq_nil {a : Text} (h : (scan a).findings = []) :
    (ScanState.run {} (Lexeme.lexemes a)).nesting = {} := by
  obtain ⟨hbalanced, hfindings, henvironments⟩ := (findings_scan_eq_nil_iff a).1 h
  have hget : ∀ d, (ScanState.run {} (Lexeme.lexemes a)).delimiters.get d = {} := fun d => by
    rw [get_delimiters_run_lexemes]
    exact balanced_iff_ofWord_eq.1 (hbalanced d)
  have hdelimiters : (ScanState.run {} (Lexeme.lexemes a)).delimiters = {} := by
    rw [DelimiterStacks.mk.injEq]
    exact ⟨hget .brace, hget .bracket, hget .inlineMath, hget .displayMath, hget .parenMath,
      hget .bracketMath⟩
  rw [ScanState.nesting, hdelimiters, hfindings, henvironments]

/-- A document that ends with a newline is read as it is, whatever stands behind it, if no
verbatim environment of it waits for its end. -/
theorem reads_of_findings_eq_nil {a : Text} (ha : a = [] ∨ a.getLast? = some '\n')
    (h : (scan a).findings = []) (b : Text) :
    Lexeme.Reads .start a b (Lexeme.lexemes a) := by
  obtain ⟨-, hfindings, henvironments⟩ := (findings_scan_eq_nil_iff a).1 h
  obtain ⟨-, hclosed⟩ := ScanState.quiet_run_iff.1 ⟨hfindings, henvironments⟩
  rcases ha with rfl | ha
  · rw [Lexeme.lexemes, Lexeme.lexemesFrom]
    exact .nil _ _
  · exact (Lexeme.reads_lexemesFrom .start a).exchange (fun _ => hclosed) (.inl ha) (.inl ha)

/-- Behind a document without findings another one has the findings that it has alone, as many
lines and bytes further on. -/
theorem findings_scan_append {a : Text} (ha : a = [] ∨ a.getLast? = some '\n')
    (h : (scan a).findings = []) (b : Text) :
    (scan (a ++ b)).findings = (scan b).findings.map (·.move (.inFront a)) := by
  have hmoved : List.Forall₂ (Lexeme.Moved (.inFront a)) (Lexeme.lexemes b)
      (Lexeme.lexemesFrom (Position.start.after a) b) := by
    rw [← Position.move_start_inFront a ha]
    exact Lexeme.forall₂_moved_lexemesFrom (Nat.zero_le _) b
  calc (scan (a ++ b)).findings
      = ((ScanState.run {} (Lexeme.lexemes a)).run
          (Lexeme.lexemesFrom (Position.start.after a) b)).finish.findings := by
        rw [scan_of_reads (reads_of_findings_eq_nil ha h b)]
    _ = (ScanState.run {}
          (Lexeme.lexemesFrom (Position.start.after a) b)).nesting.finish.findings := by
        rw [← ScanState.findings_finish_nesting, ScanState.nesting_run,
          nesting_run_of_findings_eq_nil h]
    _ = ((ScanState.run {} (Lexeme.lexemes b)).move (.inFront a)).finish.findings := by
        rw [ScanState.move_run hmoved]
        rfl
    _ = (scan b).findings.map (·.move (.inFront a)) := by
        rw [← ScanState.move_finish]
        rfl

/-- In front stand an escaped brace, a comment and a verbatim environment over two lines. -/
theorem findings_scan_append_comment :
    (scan "\\\x7b%\x7b\n\\begin{comment}$\n\\end{comment}\n".toList).findings = [] ∧
      (scan ("\\\x7b%\x7b\n\\begin{comment}$\n\\end{comment}\n".toList ++
        "a\\end\x7bé\x7d".toList)).findings = [.unmatchedEnd ['é'] ⟨4, 2, 37⟩] := by
  have hfront :
      (scan "\\\x7b%\x7b\n\\begin{comment}$\n\\end{comment}\n".toList).findings =
        [] := by
    decide +kernel
  have hbehind : (scan "a\\end\x7bé\x7d".toList).findings = [.unmatchedEnd ['é'] ⟨1, 2, 1⟩] := by
    decide +kernel
  refine ⟨hfront, ?_⟩
  rw [findings_scan_append (.inr (by decide)) hfront, hbehind]
  decide +kernel

end LatexRepair
