import LatexRepair.Validation

/-!
# Reports with excerpts

A validation as it is shown in a terminal: each issue in its own paragraph, on request
with the source line it is about and a caret under its column, and a summary at the end.
-/

namespace LatexRepair

namespace Excerpt

/-! ## Colours -/

/-- The escape sequence that ends a colour. -/
def reset : String := "\x1b[0m"

/-- The escape sequence that starts red text. -/
def red : String := "\x1b[31m"

/-- The escape sequence that starts green text. -/
def green : String := "\x1b[32m"

/-- The escape sequence that starts yellow text. -/
def yellow : String := "\x1b[33m"

/-- `s` in a colour, when colours are wanted. -/
def paint (useColor : Bool) (color s : String) : String :=
  if useColor then color ++ s ++ reset else s

/-- The colour of an issue. -/
def severityColor : Severity → String
  | .error => red
  | .warning => yellow

/-- The colour of a summary. -/
def summaryColor (v : Validation) : String :=
  if v.hasErrors then red else if v.warningCount > 0 then yellow else green

/-! ## Excerpts -/

/-- `n` spaces. -/
def spaces (n : Nat) : String :=
  String.ofList (List.replicate n ' ')

/-- The number of spaces before the caret: the caret stands under the column, or behind
the last character of a shorter line. -/
def caretIndent (line : Text) (column : Nat) : Nat :=
  min (column - 1) line.length

/-- The source line of an issue in a frame with its number, and a caret under its column;
nothing when the source has no such line. -/
def excerpt? (source : List Text) (i : Issue) : Option String := do
  let line ← if i.line = 0 then none else source[i.line - 1]?
  let number := toString i.line
  let margin := spaces number.length
  some (margin ++ " |\n" ++ number ++ " | " ++ String.ofList line ++ "\n" ++ margin ++ " | " ++
    spaces (caretIndent line i.column) ++ "^")

end Excerpt

namespace Validation

open Excerpt

/-- The report on a validation, with excerpts from the source when one is given. -/
def report (source : Option Text) (useColor : Bool) (v : Validation) : String :=
  let sourceLines := (source.map Text.physicalLines).getD []
  let paragraphs := v.issues.map fun i =>
    let body :=
      match excerpt? sourceLines i with
      | some e => i.display ++ "\n" ++ e
      | none => i.display
    paint useColor (severityColor i.severity) body ++ "\n\n"
  String.join paragraphs ++ paint useColor (summaryColor v) ("Summary: " ++ v.summary)

end Validation

end LatexRepair
