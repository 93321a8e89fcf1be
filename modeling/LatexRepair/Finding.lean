import LatexRepair.Delimiter

/-!
# Findings

What is structurally wrong with a document: delimiters without partner or in the wrong
order, and environments that are not closed where they should be. A finding says what was
seen and where; wording and severity are no part of it.
-/

namespace LatexRepair

/-- An environment that was opened, with the line and column of its `\begin`. -/
structure OpenEnvironment where
  name : Text
  line : Nat
  column : Nat
deriving DecidableEq, Inhabited

/-- Something structurally wrong with a document. -/
inductive Finding where
  /-- An opener without closer. -/
  | unmatchedOpen (delimiter : Delimiter) (pos : Position)
  /-- A closer without opener. -/
  | unmatchedClose (delimiter : Delimiter) (pos : Position)
  /-- A closer that stands before the opener it pairs with. -/
  | misordered (delimiter : Delimiter) (closer opener : Position)
  /-- An environment cut short by the end of another one. -/
  | interrupted (env : OpenEnvironment) (closeName : Text) (close : Position)
  /-- An end whose name is not that of the innermost open environment. -/
  | mismatchedEnd (name expected : Text) (expectedLine : Nat) (pos : Position)
  /-- An end with no environment open. -/
  | unmatchedEnd (name : Text) (pos : Position)
  /-- An environment still open at the end of the document. -/
  | unclosed (env : OpenEnvironment)
deriving DecidableEq, Inhabited

namespace Finding

/-- The line and column that a finding is reported at. -/
def place : Finding → Nat × Nat
  | unmatchedOpen _ p | unmatchedClose _ p | misordered _ p _ => (p.line, p.column)
  | mismatchedEnd _ _ _ p | unmatchedEnd _ p => (p.line, p.column)
  | interrupted env _ _ | unclosed env => (env.line, env.column)

/-- The findings of one delimiter class that a document ends with. -/
def ofStack (d : Delimiter) (s : Delimiter.Stack) : List Finding :=
  s.loneCloses.map (unmatchedClose d) ++ s.misplaced.map (fun p => misordered d p.1 p.2) ++
    s.loneOpens.map (unmatchedOpen d)

/-- The findings by line and column; those of one place keep their order. -/
def sort (fs : List Finding) : List Finding :=
  fs.mergeSort fun f g => Position.le f.place g.place

end Finding

end LatexRepair
