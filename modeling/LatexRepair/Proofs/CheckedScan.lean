import LatexRepair.Proofs.CheckedReading
import LatexRepair.Proofs.EnvironmentWord
import LatexRepair.Validation

/-!
# The checked scan

The scan of a document with the numbers it counts with. An end of an environment takes the open
environments away from the one of its name on, or the last one, which is there whenever its name
is looked at; the delimiters that are left over at the end of the document are paired up to the
smaller of two numbers. No number is taken from a smaller one, and the scan has its outcome on
every document (`Checked.scan_eq`).
-/

namespace LatexRepair

namespace Checked

open ScanState

variable {name : Text} {p stop : Position} {s : ScanState}

/-! ## Ends of environments -/

/-- How the end of an environment splits the open ones, innermost first: those that it
interrupts, whether it closes one of its name, and those that stay open. -/
def splitAtEnd (name : Text) (open_ : List OpenEnvironment) :
    Checked (List OpenEnvironment × Bool × List OpenEnvironment) := do
  let entries := open_.reverse
  let depth := open_.findIdx? (·.name = name)
  let keep ← sub entries.length (depth.getD 0 + 1)
  let taken ← dropTo entries keep
  let kept ← takeTo entries keep
  let skipped ← if depth.isSome then dropTo taken 1 else some taken
  some (skipped.reverse, depth.isSome, kept.reverse)

/-- `\end` of an environment, from `p` up to `stop`. -/
def closeEnvironment (s : ScanState) (name : Text) (p stop : Position) : Checked ScanState :=
  match s.environments with
  | [] => some { s with findings := .unmatchedEnd name p :: s.findings }
  | top :: outer => do
    let (findings, closed, outer) ←
      if top.name = name then some ([], true, outer)
      else do
        let (skipped, closed, outer) ← splitAtEnd name (top :: outer)
        some (skipped.map (.interrupted · name p) ++ [.mismatchedEnd name top.name top.line p],
          closed, outer)
    some { s with
      environments := outer
      findings := findings.reverse ++ s.findings
      documentEnd :=
        if closed && name = documentName && outer.isEmpty then
          s.documentEnd.or (some ⟨p, stop.offset⟩)
        else s.documentEnd }

theorem splitAtEnd_eq {open_ : List OpenEnvironment} (h : open_ ≠ []) :
    splitAtEnd name open_ =
      some ((ScanState.splitAtEnd name open_).1, (ScanState.splitAtEnd name open_).2.1.isSome,
        (ScanState.splitAtEnd name open_).2.2) := by
  have hpos := List.length_pos_iff.2 h
  rw [splitAtEnd, ScanState.splitAtEnd]
  cases hfind : open_.findIdx? (·.name = name) with
  | none =>
    have hkeep : sub open_.length 1 = some (open_.length - 1) := sub_of_le hpos
    have hlast : open_.length - (open_.length - 1) = 1 := by omega
    simp [hkeep, takeTo_of_le, dropTo_of_le, List.drop_reverse, List.take_reverse, hlast]
  | some i =>
    have hi : i < open_.length := (List.findIdx?_eq_some_iff_getElem.1 hfind).1
    have hkeep : sub open_.length (i + 1) = some (open_.length - (i + 1)) := sub_of_le hi
    have hlast : open_.length - (open_.length - (i + 1)) = i + 1 := by omega
    have hskip : dropTo (open_.take (i + 1)).reverse 1 = some (open_.take i).reverse := by
      rw [List.take_add_one, List.getElem?_eq_getElem hi, Option.toList_some, List.reverse_append]
      exact dropTo_of_le (Nat.le_add_left _ _)
    simp [hkeep, takeTo_of_le, dropTo_of_le, List.drop_reverse, List.take_reverse, hlast, hskip,
      List.getElem?_eq_getElem hi]

theorem closeEnvironment_eq :
    closeEnvironment s name p stop = some (s.closeEnvironment name p stop) := by
  rw [closeEnvironment, ScanState.closeEnvironment]
  cases s.environments with
  | nil => rfl
  | cons top outer =>
    dsimp only [endFindings]
    split
    · rename_i htop
      rw [splitAtEnd_cons_of_eq htop]
      rfl
    · rw [splitAtEnd_eq (List.cons_ne_nil _ _)]
      rfl

/-! ## Leftovers -/

/-- The findings of one delimiter class that a document ends with. -/
def ofStack (d : Delimiter) (s : Delimiter.Stack) : Checked (List Finding) := do
  let strays := s.strays.reverse
  let opens := s.opens.reverse
  let paired := min strays.length opens.length
  let lone ← sub strays.length paired
  let closes ← takeTo strays lone
  let later ← dropTo strays lone
  let outermost ← takeTo opens paired
  let waiting ← dropTo opens paired
  some (closes.map (.unmatchedClose d) ++
    (later.zip outermost).map (fun x => .misordered d x.1 x.2) ++ waiting.map (.unmatchedOpen d))

theorem ofStack_eq (d : Delimiter) (s : Delimiter.Stack) :
    ofStack d s = some (Finding.ofStack d s) := by
  have hlone : s.strays.length - min s.strays.length s.opens.length ≤ s.strays.reverse.length := by
    rw [List.length_reverse]
    exact Nat.sub_le _ _
  have hpaired : min s.strays.length s.opens.length ≤ s.opens.reverse.length := by
    rw [List.length_reverse]
    exact Nat.min_le_right _ _
  simp only [ofStack, List.length_reverse, sub_of_le (Nat.min_le_left _ _), takeTo_of_le hlone,
    dropTo_of_le hlone, takeTo_of_le hpaired, dropTo_of_le hpaired, Option.bind_eq_bind,
    Option.bind_some]
  rfl

/-! ## Documents -/

/-- What a lexeme opens, closes or declares. -/
def act (s : ScanState) (x : Lexeme) : Checked ScanState :=
  match x.token with
  | .endEnvironment name => closeEnvironment s name x.start x.stop
  | _ => some (s.act x)

/-- Take in one lexeme. -/
def step (s : ScanState) (x : Lexeme) : Checked ScanState :=
  act (s.noteTrailing x) x

/-- All findings of a document that ends in this state. -/
def allFindings (s : ScanState) : Checked (List Finding) := do
  let leftovers ← Delimiter.all.mapM fun d => ofStack d (s.delimiters.get d)
  some (s.findings.reverse ++ leftovers.flatten ++ s.environments.reverse.map .unclosed)

/-- Scan a document. -/
def scan (t : Text) : Checked ScanOutcome := do
  let xs ← lexemes t
  let s ← xs.foldlM step {}
  let findings ← allFindings s
  some { s.finish with findings := Finding.sort findings }

/-- Validate a document; without a lookup, inclusions are not checked. -/
def validate (lookup : Option FileLookup) (t : Text) : Checked Validation := do
  let o ← scan t
  some (Validation.ofIssues (issuesOf lookup o))

theorem act_eq (s : ScanState) (x : Lexeme) : act s x = some (s.act x) := by
  unfold act
  split
  · rename_i htoken
    rw [closeEnvironment_eq, ScanState.act, htoken]
  · rfl

theorem allFindings_eq (s : ScanState) : allFindings s = some s.allFindings := by
  simp only [allFindings, ofStack_eq]
  rfl

@[simp]
theorem scan_eq (t : Text) : scan t = some (LatexRepair.scan t) := by
  have hrun : ∀ (xs : List Lexeme) (s : ScanState), xs.foldlM step s = some (s.run xs) := by
    intro xs
    induction xs with
    | nil => exact fun s => rfl
    | cons x xs ih =>
      intro s
      rw [List.foldlM_cons, step, act_eq, Option.bind_eq_bind, Option.bind_some, ih]
      rfl
  simp only [scan, lexemes_eq, hrun, allFindings_eq, Option.bind_eq_bind, Option.bind_some]
  rfl

@[simp]
theorem validate_eq (lookup : Option FileLookup) (t : Text) :
    validate lookup t = some (LatexRepair.validate lookup t) := by
  rw [validate, scan_eq]
  rfl

end Checked

end LatexRepair
