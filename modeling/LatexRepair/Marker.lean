import LatexRepair.Comment

/-!
# Environment markers

`\begin{name}` and `\end{name}` as they stand in a line. White space may stand before the
group; the group holds no brace, backslash, percent sign or newline, and its trimmed
content is the name. A marker is live when it starts in the code of its line; one that
opens the comment of its line can be brought back by deleting the percent signs before it
(`hiddenMarker?`).
-/

namespace LatexRepair

/-- Whether a marker begins or ends an environment. -/
inductive MarkerKind where
  | opening
  | closing
deriving DecidableEq, Inhabited

/-- The marker of an environment. -/
structure Marker where
  kind : MarkerKind
  name : Text
deriving DecidableEq, Inhabited

namespace Marker

/-- The control word of the markers of a kind. -/
def controlWord : MarkerKind → Text
  | .opening => "\\begin".toList
  | .closing => "\\end".toList

/-- The marker as it is written in a document. -/
def text (m : Marker) : Text :=
  controlWord m.kind ++ '{' :: (m.name ++ ['}'])

/-- The marker that ends a document. -/
def endDocument : Marker :=
  ⟨.closing, "document".toList⟩

/-- The characters of the name between the braces of a marker. -/
def isNameChar (c : Char) : Bool :=
  !(c = '{' || c = '}' || c = '\\' || c = '%' || c = '\n')

/-- The marker of the given kind that `t` starts with, and its length. -/
def ofKindAt? (kind : MarkerKind) (t : Text) : Option (Marker × Nat) := do
  let word := controlWord kind
  let r ← Text.strip? word t
  let blanks := r.takeWhile isBlank
  match r.drop blanks.length with
  | '{' :: body =>
    let name := body.takeWhile isNameChar
    match name, body.drop name.length with
    | _ :: _, '}' :: _ =>
      some (⟨kind, Text.trim name⟩, word.length + blanks.length + name.length + 2)
    | _, _ => none
  | _ => none

/-- The marker that `t` starts with, and its length. -/
def at? (t : Text) : Option (Marker × Nat) :=
  ofKindAt? .opening t <|> ofKindAt? .closing t

end Marker

/-- A marker with the places in its line where it starts and where the text behind it
starts. -/
structure PlacedMarker where
  marker : Marker
  start : Nat
  stop : Nat
deriving DecidableEq, Inhabited

/-- The markers of a text whose first character has the place `i`. A marker holds no
backslash but its first character, so markers do not overlap. -/
def markersFrom (i : Nat) : Text → List PlacedMarker
  | [] => []
  | c :: t =>
    match Marker.at? (c :: t) with
    | some (m, n) => ⟨m, i, i + n⟩ :: markersFrom (i + 1) t
    | none => markersFrom (i + 1) t

/-- The markers of a line, in comments too. -/
def markers (line : Text) : List PlacedMarker :=
  markersFrom 0 line

/-- The markers that start in the code of a line. -/
def liveMarkers (line : Text) : List PlacedMarker :=
  (markers line).filter fun m => m.start < (codePart line).length

/-- A marker that a comment hides, and what to delete to bring it back. -/
structure HiddenMarker where
  marker : Marker
  /-- Where the percent signs start. -/
  start : Nat
  /-- Where the marker starts. -/
  stop : Nat
deriving DecidableEq, Inhabited

/-- The marker that the comment of a line starts with, after percent signs, spaces and
tabs. -/
def hiddenMarker? (line : Text) : Option HiddenMarker := do
  let start ← commentStart? line
  let comment := line.drop start
  let run ← percentRun? comment
  let (marker, _) ← Marker.at? (comment.drop run.length)
  some ⟨marker, start, start + run.length⟩

end LatexRepair
