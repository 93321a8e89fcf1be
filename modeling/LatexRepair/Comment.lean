import LatexRepair.Text

/-!
# Comments of a line

A comment starts at the first `%` that no backslash escapes; a `%` is escaped when an odd
number of backslashes stands directly before it. `codePart` is the line up to its comment
and `codePart_append_comment` says that code and comment make up the line.
-/

namespace LatexRepair

/-- The line up to its first comment; `escaped` says that an odd number of backslashes
stands directly before it. -/
def codePartFrom (escaped : Bool) : Text → Text
  | [] => []
  | c :: t =>
    if c = '\\' then c :: codePartFrom (!escaped) t
    else if c = '%' && !escaped then []
    else c :: codePartFrom false t

/-- The line up to its comment. -/
def codePart (line : Text) : Text :=
  codePartFrom false line

/-- The comment of a line with its `%`, empty when there is none. -/
def commentPart (line : Text) : Text :=
  line.drop (codePart line).length

/-- The place of the `%` that starts the comment of a line. -/
def commentStart? (line : Text) : Option Nat :=
  if (codePart line).length < line.length then some (codePart line).length else none

theorem codePartFrom_isPrefix (escaped : Bool) (t : Text) : codePartFrom escaped t <+: t := by
  induction t generalizing escaped with
  | nil => simp [codePartFrom]
  | cons c t ih =>
    rw [codePartFrom]
    split
    · exact List.cons_prefix_cons.2 ⟨rfl, ih _⟩
    · split
      · exact List.nil_prefix
      · exact List.cons_prefix_cons.2 ⟨rfl, ih _⟩

theorem codePart_append_comment (line : Text) : codePart line ++ commentPart line = line := by
  obtain ⟨rest, h⟩ := codePartFrom_isPrefix false line
  rw [commentPart, codePart]
  conv => lhs; rhs; rhs; rw [← h]
  rw [List.drop_left, h]

/-- Nothing but white space stands before the first `%` of the line. -/
def isCommentLine (line : Text) : Bool :=
  Text.startsWith ['%'] (Text.trimStart line)

/-- The white space in front of a line. -/
def indentation (line : Text) : Text :=
  line.takeWhile isBlank

theorem indentation_append_trimStart (line : Text) :
    indentation line ++ Text.trimStart line = line :=
  List.takeWhile_append_dropWhile

/-- The run of `%` in front of a text, with the spaces and tabs behind it. -/
def percentRun? (t : Text) : Option Text :=
  match t.takeWhile (· = '%') with
  | [] => none
  | run => some (run ++ (t.drop run.length).takeWhile isSpaceOrTab)

/-- The indentation and the run of `%` in front of a comment line, with the spaces and tabs
behind them. -/
def commentIntro? (line : Text) : Option Text :=
  (percentRun? (Text.trimStart line)).map (indentation line ++ ·)

end LatexRepair
