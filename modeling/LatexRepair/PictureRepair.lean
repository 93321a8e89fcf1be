import LatexRepair.Occurrence

/-!
# Repair of pictures in figures

Two repairs of figures that hold a picture. A picture whose end stands behind the end of
its figure is closed before the figure, and pictures that are never closed are closed
before the last figure that ends behind the last picture that begins.
-/

namespace LatexRepair

namespace PictureRepair

/-- The name of the environment of a picture. -/
def pictureName : Text :=
  "tikzpicture".toList

/-- The names of the environments of figures. -/
def figureNames : List Text :=
  ["figure".toList, "figure*".toList]

/-- The marker that ends a picture. -/
def pictureEnd : Marker :=
  ⟨.closing, pictureName⟩

/-! ## Ends in the wrong order -/

/-- The end of a figure, white space and the end of a picture at the start of a text: the
three pieces in the order in which they belong, and the number of characters. -/
def reorderAt? (t : Text) : Option (Text × Nat) := do
  let figureEnd ← (figureNames.map fun n => Marker.text ⟨.closing, n⟩).find?
    (Text.startsWith · t)
  let blanks := (t.drop figureEnd.length).takeWhile isBlank
  let _ ← Text.strip? pictureEnd.text (t.drop (figureEnd.length + blanks.length))
  some (pictureEnd.text ++ blanks ++ figureEnd,
    figureEnd.length + blanks.length + pictureEnd.text.length)

/-- Close pictures before the figures whose end stands directly before theirs; the number
of pictures moved. -/
def reorder : Text → Text × Nat
  | [] => ([], 0)
  | c :: t =>
    match reorderAt? (c :: t) with
    | some (moved, n) =>
      let (u, k) := reorder (t.drop (n - 1))
      (moved ++ u, k + 1)
    | none =>
      let (u, k) := reorder t
      (c :: u, k)
termination_by t => t.length
decreasing_by
  all_goals simp only [List.length_drop, List.length_cons]; omega

/-! ## Lost ends -/

/-- What the markers read so far say about open pictures. -/
structure Tally where
  /-- The number of open pictures. -/
  opened : Nat := 0
  /-- The line of the last `\begin` of a picture. -/
  lastBegin : Option Nat := none
  /-- The line of the last `\end` of a figure. -/
  lastFigureEnd : Option Nat := none
deriving DecidableEq, Inhabited

/-- Take in one live marker. An end without a picture to close is ignored. -/
def Tally.step (s : Tally) (x : Occurrence) : Tally :=
  match x.marker.kind with
  | .opening =>
    if x.marker.name = pictureName then
      { s with opened := s.opened + 1, lastBegin := some x.line }
    else s
  | .closing =>
    if x.marker.name = pictureName then { s with opened := s.opened - 1 }
    else if figureNames.contains x.marker.name then { s with lastFigureEnd := some x.line }
    else s

/-- The tally of a document. -/
def tally (lines : List Text) : Tally :=
  ((Occurrence.ofLines lines).filter (·.isLive)).foldl Tally.step {}

/-- The document with its open pictures closed before the last figure end, and the number
of ends inserted. -/
def closePictures? (t : Text) : Option (Text × Nat) := do
  let lines := Text.lines t
  let s := tally lines
  let stop ← s.lastFigureEnd
  let begin_ ← s.lastBegin
  if stop ≤ begin_ || s.opened = 0 then none
  some (Text.unlines
    (lines.take stop ++ List.replicate s.opened pictureEnd.text ++ lines.drop stop), s.opened)

end PictureRepair

end LatexRepair
