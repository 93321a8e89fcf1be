import LatexRepair.Text

/-!
# Catalogue of names

The environments and commands that the scan and the repairs treat specially. Each
catalogue is a list of names without the backslash; `Catalog.mem` asks for membership.
-/

namespace LatexRepair

/-- The characters of a control word behind its backslash. -/
def isCommandChar (c : Char) : Bool :=
  c.isAlpha || c = '@'

namespace Catalog

/-- `name` is listed in `names`. -/
def mem (name : Text) (names : List String) : Bool :=
  names.any fun n => n.toList = name

/-- Environments whose body is set in math mode, where square brackets are plain text. -/
def mathEnvironments : List String :=
  ["equation", "equation*", "align", "align*", "alignat", "alignat*", "aligned", "alignedat",
    "gather", "gather*", "gathered", "multline", "multline*", "flalign", "flalign*",
    "eqnarray", "eqnarray*", "split", "math", "displaymath", "array", "cases"]

/-- Environments whose body is taken literally. -/
def verbatimEnvironments : List String :=
  ["verbatim", "verbatim*", "Verbatim", "BVerbatim", "LVerbatim", "lstlisting", "minted",
    "comment"]

/-- Commands around which a line's braces may be balanced against its counterpart. -/
def multiArgumentCommands : List String :=
  ["multicolumn", "multirow", "makecell", "cellcolor", "rowcolor", "resizebox", "begin", "end",
    "textbf", "textit", "emph", "underline", "texttt", "textsc", "textsf", "textrm",
    "mathbf", "mathrm", "mathit", "textcolor", "colorbox", "color", "blue", "red", "green",
    "href", "url", "footnote", "caption", "section", "subsection", "subsubsection",
    "paragraph"]

/-- Environments that a box command may wrap, so that a brace follows their end. -/
def tabularEnvironments : List String :=
  ["tabular", "tabular*", "tabularx", "tabulary", "longtable"]

/-- Commands that divide a document; they count as structure when lines are compared. -/
def sectioningCommands : List String :=
  ["part", "chapter", "section", "subsection", "subsubsection", "paragraph", "appendix",
    "maketitle", "bibliography", "printbibliography"]

/-- Shorthands that colour their argument. -/
def colorShorthands : List String :=
  ["blue", "red", "green", "brown", "purple", "orange", "cyan", "magenta"]

end Catalog

end LatexRepair
