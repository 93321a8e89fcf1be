import LatexRepair.Issue

/-!
# Validation

`validate` scans a document and lists everything there is to mend in it by line and
column: first what the findings of the scan say, then the skeleton of the document, then
text behind its end, then inclusions of missing files, which are asked for only when a
lookup is given. A document is valid when the list is empty.
-/

namespace LatexRepair

/-- The issues of a document, by line and column. -/
structure Validation where
  issues : List Issue
deriving DecidableEq, Inhabited

/-- A syntax error as a repair request names it. -/
structure SyntaxError where
  line : Nat
  column : Nat
  message : String
  errorClass : ErrorClass
deriving DecidableEq, Inhabited

namespace Validation

/-- The validation with the given issues; those of one place keep their order. -/
def ofIssues (issues : List Issue) : Validation :=
  ⟨issues.mergeSort fun i j => Position.le (i.line, i.column) (j.line, j.column)⟩

/-- There is nothing to mend. -/
def valid (v : Validation) : Bool :=
  v.issues.isEmpty

theorem valid_ofIssues (issues : List Issue) : (ofIssues issues).valid = true ↔ issues = [] := by
  rw [valid, ofIssues, List.isEmpty_iff, ← List.length_eq_zero_iff, List.length_mergeSort,
    List.length_eq_zero_iff]

/-- The number of errors. -/
def errorCount (v : Validation) : Nat :=
  v.issues.countP (·.isError)

/-- The number of warnings. -/
def warningCount (v : Validation) : Nat :=
  v.issues.length - v.errorCount

/-- There is an error. -/
def hasErrors (v : Validation) : Bool :=
  v.errorCount > 0

/-- There is an issue of the kind. -/
def hasKind (v : Validation) (k : IssueKind) : Bool :=
  v.issues.any (·.kind = k)

/-- The number of unclosed braces less the number of stray closing ones. -/
def braceDelta (v : Validation) : Int :=
  ((v.issues.filter (·.kind = .brace)).filterMap (·.delta)).foldr (· + ·) 0

/-- The issues that are syntax errors. -/
def syntaxErrors (v : Validation) : List SyntaxError :=
  v.issues.filterMap fun i =>
    i.kind.errorClass?.map fun c => ⟨i.line, i.column, i.message, c⟩

/-- The validation in one line. -/
def summary (v : Validation) : String :=
  if v.issues.isEmpty then "✓ LaTeX source validation passed with no issues"
  else if v.hasErrors then
    s!"✗ Validation failed: {v.errorCount} error(s), {v.warningCount} warning(s)"
  else s!"⚠ Validation found {v.warningCount} warning(s)"

end Validation

/-- The issues of a scanned document, in the order in which they are found. -/
def issuesOf (lookup : Option FileLookup) (o : ScanOutcome) : List Issue :=
  o.findings.map Issue.ofFinding ++ Issue.ofSkeleton o ++ Issue.ofTrailing o ++
    match lookup with
    | some known => Issue.ofInclusions known o
    | none => []

/-- Validate a document; without a lookup, inclusions are not checked. -/
def validate (lookup : Option FileLookup) (t : Text) : Validation :=
  Validation.ofIssues (issuesOf lookup (scan t))

end LatexRepair
