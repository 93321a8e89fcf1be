import LatexRepair.Coverage
import LatexRepair.Decimal.Literal
import LatexRepair.FileRepair

/-!
# Summary files

The summaries of typeset documents are made elsewhere and stored as JSON. The summary of
`paper.pdf` is stored beside it as `paper.pdf.json`; a path with the extension `json` names
a summary itself.
-/

namespace LatexRepair

/-- The single-precision number nearest to a number. -/
def Json.float32? : Json → Option Float32
  | .number literal =>
    let x := Decimal.literalValue literal
    if x.isFinite then some x.toFloat32 else none
  | _ => none

/-- The block of text that a value stands for. -/
def TextBlock.ofJson? (v : Json) : Option TextBlock := do
  let values ← Json.fields?
    [⟨"page", .required⟩, ⟨"text", .required⟩, ⟨"block_type", .defaulted⟩,
      ⟨"font_size", .defaulted⟩] v
  match values with
  | [some page, some text, blockType, fontSize] =>
    some ⟨← Json.nat? page, ← Json.text? text, ← Json.orDefault? [] Json.text? blockType,
      ← Json.orDefault? 0 Json.float32? fontSize⟩
  | _ => none

namespace DocumentSummary

/-- The summary that a value stands for. -/
def ofJson? (v : Json) : Option DocumentSummary := do
  let values ← Json.fields? [⟨"page_count", .required⟩, ⟨"blocks", .defaulted⟩] v
  match values with
  | [some pageCount, blocks] =>
    some ⟨← Json.nat? pageCount, ← Json.orDefault? [] (Json.list? TextBlock.ofJson?) blocks⟩
  | _ => none

/-- Where the summary of a document is stored. -/
def path (document : Path) : Path :=
  if Path.extension? document = some "json".toList then document
  else document ++ ".json".toList

variable {m : Type → Type} [Monad m] [FileAccess m]

/-- Read the summary of a document. -/
def read (document : Path) : ExceptT Failure m DocumentSummary := do
  let t ← FileRepair.readSource (path document)
  match (Json.parse? t).bind ofJson? with
  | some s => pure s
  | none => throw (.unreadableSettings (path document))

end DocumentSummary

/-- Compare the summaries of a rendition and its guide. -/
def Coverage.compareFiles {m : Type → Type} [Monad m] [FileAccess m]
    (guide rendition : Path) : ExceptT Failure m (CoverageReport Float) := do
  let g ← DocumentSummary.read guide
  let t ← DocumentSummary.read rendition
  pure (Coverage.compare g t)

end LatexRepair
