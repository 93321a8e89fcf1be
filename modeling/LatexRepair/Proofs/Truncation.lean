import LatexRepair.Proofs.AlikeScans
import LatexRepair.Proofs.EnvironmentAccount
import LatexRepair.Proofs.LiveEnd

/-!
# Truncated documents

A document with text behind its end is cut off there (`Terminator.truncate?`). What stands before
the end is read as before, whatever is behind it (`LiveEnd.run_eq`), and the end leaves no
environment open (`ScanState.environments_step_of_documentEnd`). So a truncated document ends where
it did, nothing that counts stands behind its end, and each of its findings about environments was
one before (`Terminator.truncate?_cuts`).
-/

namespace LatexRepair

open ScanState

/-! ## What a scan keeps -/

namespace ScanState

variable {s : ScanState} {x : Lexeme}

/-- Nothing is noted as trailing content before the document has ended. -/
theorem isSome_documentEnd_run (h : s.trailingContent.isSome = true → s.documentEnd.isSome = true)
    (xs : List Lexeme) (htrailing : (s.run xs).trailingContent.isSome = true) :
    (s.run xs).documentEnd.isSome = true := by
  induction xs generalizing s with
  | nil => exact h htrailing
  | cons x xs ih =>
    refine ih (fun hstep => ?_) htrailing
    have hs : s.documentEnd.isSome = true :=
      ((trailingContent_step s x).1 hstep).elim h And.left
    rcases s.documentEnd_step_cases x with heq | ⟨-, -, heq⟩
    · rw [heq, hs]
    · rw [heq]
      rfl

/-- What ends a document leaves no environment open. -/
theorem environments_step_of_documentEnd (h : s.documentEnd = none)
    (hstep : (s.step x).documentEnd.isSome = true) : (s.step x).environments = [] := by
  obtain ⟨p, hacts⟩ := s.exists_acts_step x
  generalize s.step x = s' at hacts hstep
  cases hacts with
  | ends hx =>
    dsimp only [closeEnvironment] at hstep ⊢
    split at hstep
    · rename_i hcloses
      simp only [Bool.and_eq_true, List.isEmpty_iff] at hcloses
      exact hcloses.2
    · rw [h] at hstep
      cases hstep
  | begins hx | documentClass hx | unclosed hx | includes hx | delimits ds hx =>
    exact absurd (h ▸ hstep) (by simp)

/-- Findings that are met on the way stay. -/
theorem findings_suffix_run (s : ScanState) (xs : List Lexeme) :
    s.findings <:+ (s.run xs).findings := by
  induction xs generalizing s with
  | nil => exact List.suffix_rfl
  | cons x xs ih =>
    obtain ⟨fs, hfs, -⟩ := exists_findings_step x s
    exact .trans ⟨fs, hfs.symm⟩ (ih (s.step x))

end ScanState

/-! ## Behind the end -/

namespace LiveEnd

variable {t : Text} {d : DocumentEnd} (e : LiveEnd t d)

/-- A newline behind the end changes nothing. -/
theorem run_cut :
    run {} (Lexeme.lexemes (e.before ++ '\\' :: (e.word ++ ['\n']))) = e.state := by
  rw [e.run_eq, run_newline, Lexeme.lexemesFrom]
  rfl

theorem environments_state : e.state.environments = [] :=
  environments_step_of_documentEnd e.documentEnd_before
    (by rw [stop, e.documentEnd_step]; rfl)

theorem trailingContent_state : e.state.trailingContent = none := by
  rw [← Option.not_isSome_iff_eq_none, state, trailingContent_step, e.documentEnd_before]
  rintro (h | ⟨h, -⟩)
  · have hend := isSome_documentEnd_run (s := {}) (by simp) e.lexemes h
    rw [e.documentEnd_before] at hend
    cases hend
  · cases h

end LiveEnd

namespace Terminator

/-- What is left of the document `t` when the text behind its end is cut off. -/
structure Truncated (t s : Text) (d : DocumentEnd) : Prop where
  ended : (scan t).documentEnd = some d
  front : ∃ p, p <+: t ∧ Text.byteLength p = d.endOffset ∧ s = p ++ ['\n']
  documentEnd : (scan s).documentEnd = some d
  trailingContent : (scan s).trailingContent = none
  issues : ∀ lookup, (validate lookup s).hasKind .trailingContent = false
  again : truncate? s = none
  environments : ∀ f ∈ (scan s).findings, f.delimiter? = none → f ∈ (scan t).findings

variable {t s : Text} {d : DocumentEnd}

theorem isSome_documentEnd_scan (t : Text) (h : (scan t).trailingContent.isSome = true) :
    (scan t).documentEnd.isSome = true :=
  isSome_documentEnd_run (s := {}) (by simp) (Lexeme.lexemes t) h

theorem truncate?_eq_some (hd : (scan t).documentEnd = some d)
    (h : (scan t).trailingContent.isSome = true) :
    truncate? t = some (Text.takeBytes d.endOffset t ++ ['\n']) := by
  obtain ⟨p, hp⟩ := Option.isSome_iff_exists.1 h
  simp only [truncate?, hp, hd, Option.bind_eq_bind, Option.bind_some]

theorem truncate?_eq_none (h : (scan t).trailingContent = none) : truncate? t = none := by
  simp only [truncate?, h, Option.bind_eq_bind, Option.bind_none]

/-- Without trailing content there is no issue about it. -/
theorem hasKind_trailingContent (lookup : Option FileLookup)
    (h : (scan t).trailingContent = none) :
    (validate lookup t).hasKind .trailingContent = false := by
  have hcount : (issuesOf lookup (scan t)).countP (·.kind = .trailingContent) = 0 := by
    rw [countP_trailingContent, h]
    exact if_neg fun hsome => by cases hsome.2
  rw [Validation.hasKind, (issues_validate_perm lookup t).any_eq, List.any_eq_false]
  exact List.countP_eq_zero.1 hcount

/-- What is left of a document up to its end. -/
theorem truncated_takeBytes (hd : (scan t).documentEnd = some d) :
    Truncated t (Text.takeBytes d.endOffset t ++ ['\n']) d := by
  obtain ⟨e⟩ := exists_liveEnd hd
  have heq : Text.takeBytes d.endOffset t ++ ['\n'] =
      e.before ++ '\\' :: (e.word ++ ['\n']) := by
    rw [e.takeBytes_eq, List.append_assoc, List.cons_append]
  have hscan : scan (Text.takeBytes d.endOffset t ++ ['\n']) = e.state.finish := by
    rw [heq, scan, e.run_cut]
  have htrailing : (scan (Text.takeBytes d.endOffset t ++ ['\n'])).trailingContent = none := by
    rw [hscan]
    exact e.trailingContent_state
  refine ⟨hd, ⟨_, e.takeBytes_isPrefix, ?_, rfl⟩, ?_, htrailing,
    fun lookup => hasKind_trailingContent lookup htrailing, truncate?_eq_none htrailing,
    fun f hf hnone => ?_⟩
  · rw [e.takeBytes_eq, e.endOffset]
  · rw [heq]
    exact e.documentEnd_scan ['\n']
  -- What is open at the end is open nowhere, so `f` was met before it.
  · have hmet : f ∈ e.state.findings := by
      rw [mem_findings_scan_iff hnone, heq, e.run_cut, e.environments_state] at hf
      simpa using hf
    rw [mem_findings_scan_iff hnone, e.eq_append, e.run_eq]
    exact .inl ((findings_suffix_run e.state _).subset hmet)

/-- A document is cut off exactly where there is trailing content. What is left ends where it
did, with nothing behind the end, and is cut off no more; the environments in it that are
reported were reported before. -/
theorem truncate?_cuts (t : Text) :
    ((truncate? t).isSome = true ↔ (scan t).trailingContent.isSome = true) ∧
      ∀ s, truncate? t = some s → ∃ d, Truncated t s d := by
  cases h : (scan t).trailingContent with
  | none =>
    rw [truncate?_eq_none h]
    exact ⟨Iff.rfl, fun s hs => by cases hs⟩
  | some p =>
    obtain ⟨d, hd⟩ := Option.isSome_iff_exists.1 (isSome_documentEnd_scan t (by rw [h]; rfl))
    rw [truncate?_eq_some hd (by rw [h]; rfl)]
    refine ⟨⟨fun _ => rfl, fun _ => rfl⟩, fun s hs => ⟨d, ?_⟩⟩
    cases hs
    exact truncated_takeBytes hd

/-- A table that nothing ends goes with what is behind the end; a list that the end interrupts
stays. -/
theorem truncate?_cuts_table :
    let t := ("\\begin{document}\n\\begin{itemize}\n\\end{document}" ++
      " %\n\\begin{table}").toList
    let s := "\\begin{document}\n\\begin{itemize}\n\\end{document}\n".toList
    truncate? t = some s ∧ ∃ d, Truncated t s d := by
  intro t s
  have hcut : truncate? t = some s := by decide +kernel
  exact ⟨hcut, (truncate?_cuts t).2 s hcut⟩

end Terminator

end LatexRepair
