import LatexRepair.Catalog
import LatexRepair.Marker

/-!
# Skeletons of lines

The skeleton of a piece of code is its markup without its prose: control words, braces,
line breaks and column separators, in order and with their places. Escaped characters
belong to the prose. `braceBalance` counts opening less closing braces.

A `Signature` is what a line and its rendition have in common: whether the line
is blank, a comment, prose or a command, be it commented out or not, and its markers.
-/

namespace LatexRepair

/-! ## Tokens -/

/-- A piece of markup. -/
inductive MarkupToken where
  | command (name : Text)
  | openBrace
  | closeBrace
  | lineBreak
  | align
deriving DecidableEq, Inhabited

/-- A piece of markup with the places where it starts and where the text behind it
starts. -/
structure PlacedToken where
  token : MarkupToken
  start : Nat
  stop : Nat
deriving DecidableEq, Inhabited

/-- The skeleton of code whose first character has the place `i`. -/
def skeletonFrom (i : Nat) : Text → List PlacedToken
  | [] => []
  | '\\' :: t =>
    let name := t.takeWhile isCommandChar
    if name.isEmpty then
      let rest := skeletonFrom (i + 2) (t.drop 1)
      if t.head? = some '\\' then ⟨.lineBreak, i, i + 2⟩ :: rest else rest
    else
      let stop := i + 1 + name.length
      ⟨.command name, i, stop⟩ :: skeletonFrom stop (t.drop name.length)
  | '{' :: t => ⟨.openBrace, i, i + 1⟩ :: skeletonFrom (i + 1) t
  | '}' :: t => ⟨.closeBrace, i, i + 1⟩ :: skeletonFrom (i + 1) t
  | '&' :: t => ⟨.align, i, i + 1⟩ :: skeletonFrom (i + 1) t
  | _ :: t => skeletonFrom (i + 1) t
termination_by t => t.length
decreasing_by
  all_goals simp only [List.length_drop, List.length_cons]; omega

/-- The skeleton of a piece of code. -/
def skeleton (code : Text) : List PlacedToken :=
  skeletonFrom 0 code

/-- What a token adds to the balance of braces. -/
def MarkupToken.balance : MarkupToken → Int
  | .openBrace => 1
  | .closeBrace => -1
  | _ => 0

/-- Opening less closing braces. -/
def braceBalance (tokens : List PlacedToken) : Int :=
  tokens.foldr (fun x balance => x.token.balance + balance) 0

/-- Opening less closing braces in the code of a line. -/
def lineBalance (line : Text) : Int :=
  braceBalance (skeleton (codePart line))

/-- Opening less closing braces in the code of all lines. -/
def documentBalance (lines : List Text) : Int :=
  lines.foldr (fun line balance => lineBalance line + balance) 0

/-! ## Commands and structure -/

/-- The name of the control word that a text starts with. -/
def commandName? : Text → Option Text
  | '\\' :: t =>
    match t.takeWhile isCommandChar with
    | [] => none
    | name => some name
  | _ => none

/-- The name of the control word that a text starts with after white space. -/
def leadingCommand? (t : Text) : Option Text :=
  commandName? (Text.trimStart t)

/-- The sectioning command that a token is. -/
def sectioningCommand? : MarkupToken → Option Text
  | .command name => if Catalog.mem name Catalog.sectioningCommands then some name else none
  | _ => none

/-- The structure of a text: its markers, then its sectioning commands. -/
def structureTokens (t : Text) : List Text :=
  (markers t).map (·.marker.text) ++
    (skeleton t).filterMap fun x => (sectioningCommand? x.token).map ('\\' :: ·)

/-! ## Signatures -/

/-- What kind of line a line is. -/
inductive LineClass where
  | blank
  | comment
  | prose
  | command (name : Text)
deriving DecidableEq, Inhabited

/-- What a line and its rendition have in common. -/
structure Signature where
  lineClass : LineClass
  markers : List Marker
deriving DecidableEq, Inhabited

/-- The kind of a line: a command line keeps its kind when it is commented out. -/
def lineClass (line : Text) : LineClass :=
  let trimmed := Text.trim line
  let run := percentRun? trimmed
  let body := trimmed.drop (run.getD []).length
  if trimmed.isEmpty then .blank
  else
    match commandName? body with
    | some name => .command name
    | none => if run.isSome then .comment else .prose

/-- The signature of a line. -/
def signature (line : Text) : Signature :=
  ⟨lineClass line, (markers line).map (·.marker)⟩

end LatexRepair
