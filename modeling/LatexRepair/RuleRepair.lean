import LatexRepair.BraceRepair
import LatexRepair.PictureRepair
import LatexRepair.Terminator
import LatexRepair.Typo
import LatexRepair.Validation

/-!
# Repair by rules

The rules that need no guide. Misspelled commands, line endings and duplicate ends of
the document are always mended; the other rules are applied only where the validation that
is passed in has an issue of their kind. The rules are applied in a fixed order, each to
the result of the one before.
-/

namespace LatexRepair

/-- What a rule did to a document. -/
inductive RuleFix where
  | correctedTypo (correction : Typo.Correction)
  | normalizedNewlines
  | collapsedTerminators (count : Nat)
  | removedTrailing
  | reorderedPictures
  | closedPictures (count : Nat)
  | closedColors (count : Nat)
  | addedBraces (count : Nat)
  | removedBraces (count : Nat)
deriving DecidableEq, Inhabited

/-- A fix in words. -/
def RuleFix.message : RuleFix → String
  | correctedTypo c => c.message
  | normalizedNewlines => "normalized line endings to LF"
  | collapsedTerminators n => s!"removed {n} duplicate " ++ "\\end{document}"
  | removedTrailing => "removed content after \\end{document}"
  | reorderedPictures => "closed tikzpicture before its figure"
  | closedPictures n => s!"inserted {n} missing " ++ "\\end{tikzpicture}"
  | closedColors n => s!"closed {n} color command(s) at the row end"
  | addedBraces n => s!"added {n} missing closing brace(s)"
  | removedBraces n => s!"removed {n} surplus closing brace(s)"

/-- A repaired document and what was done to it. -/
structure RuleRepair where
  content : Text
  fixes : List RuleFix
deriving DecidableEq, Inhabited

/-- Balance the braces of a document. Braces in the wrong order are left alone, since no
number of added or removed braces mends them. -/
def rebalance? (t : Text) : Option (Text × RuleFix) := do
  let v := validate none t
  if v.hasKind (.misordered .brace) then none
  let u ← BraceRepair.balanceBraces? t v.braceDelta
  some (u, if v.braceDelta > 0 then .addedBraces v.braceDelta.toNat
    else .removedBraces v.braceDelta.natAbs)

namespace RuleRepair

/-- A rule: the changed document and its fixes, or nothing where it does not apply. -/
abbrev Rule := Text → Option (Text × List RuleFix)

/-- Apply a rule where it applies. -/
def andThen (r : RuleRepair) (rule : Rule) : RuleRepair :=
  match rule r.content with
  | some (t, fixes) => ⟨t, r.fixes ++ fixes⟩
  | none => r

/-- Correct misspelled commands. -/
def correctTypos : Rule := fun t =>
  let (u, found) := Typo.correctAll t
  some (u, found.map .correctedTypo)

/-- End lines with newlines only. -/
def normalizeNewlines : Rule := fun t =>
  if '\r' ∈ t then some (Text.normalizeNewlines t, [.normalizedNewlines]) else none

/-- Collapse duplicate ends of the document. -/
def collapseTerminators : Rule := fun t =>
  let (u, n) := Terminator.collapse t
  if n = 0 then none else some (u, [.collapsedTerminators n])

/-- Cut off the text behind the end of the document. -/
def removeTrailing : Rule := fun t =>
  (Terminator.truncate? t).map (·, [.removedTrailing])

/-- Close pictures before their figures. -/
def reorderPictures : Rule := fun t =>
  let (u, n) := PictureRepair.reorder t
  if n = 0 then none else some (u, [.reorderedPictures])

/-- Close open pictures. -/
def closePictures : Rule := fun t =>
  (PictureRepair.closePictures? t).map fun (u, n) => (u, [.closedPictures n])

/-- Close open colours. -/
def closeColors : Rule := fun t =>
  (BraceRepair.closeColors? t).map fun (u, n) => (u, [.closedColors n])

/-- Balance the braces. -/
def balance : Rule := fun t =>
  (rebalance? t).map fun (u, fix) => (u, [fix])

/-- The rules for a document with the given validation, in order; the braces are balanced
only where that is allowed. -/
def rules (allowBalance : Bool) (v : Option Validation) : List Rule :=
  let flagged (k : IssueKind) : Bool := v.any (·.hasKind k)
  [correctTypos, normalizeNewlines, collapseTerminators] ++
    (if flagged .trailingContent then [removeTrailing] else []) ++
    (if flagged .environment then [reorderPictures, closePictures] else []) ++
    (if flagged .brace then [closeColors] else []) ++
    (if flagged .brace && allowBalance then [balance] else [])

end RuleRepair

/-- Repair a document by rules. -/
def repairByRules (allowBalance : Bool) (v : Option Validation) (t : Text) : RuleRepair :=
  (RuleRepair.rules allowBalance v).foldl RuleRepair.andThen ⟨t, []⟩

end LatexRepair
