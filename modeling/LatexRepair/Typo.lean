import LatexRepair.Text

/-!
# Misspelled commands

Control sequences that come out misspelled when a machine renders a document in another
language, each with its correction. An entry holds the opening brace where the command
takes one, so that no misspelling is the beginning of a real command. The entries are
applied one after another.
-/

namespace LatexRepair

/-- A misspelling and its correction. -/
structure Typo where
  wrong : Text
  right : Text
deriving DecidableEq, Inhabited

namespace Typo

/-- All misspellings, in the order in which they are corrected. -/
def all : List Typo :=
  [("\\begni\x7b", "\\begin\x7b"), ("\\begn\x7b", "\\begin\x7b"),
    ("\\bgein\x7b", "\\begin\x7b"), ("\\docmentclass", "\\documentclass"),
    ("\\documnetclass", "\\documentclass"), ("\\edn\x7b", "\\end\x7b"),
    ("\\ened\x7b", "\\end\x7b"), ("\\sectoin\x7b", "\\section\x7b"),
    ("\\subsectoin\x7b", "\\subsection\x7b"),
    ("\\usepackge\x7b", "\\usepackage\x7b")].map
    fun (wrong, right) => ⟨wrong.toList, right.toList⟩

/-- The misspelling that a text is, if it is one. -/
def find? (t : Text) : Option Typo :=
  all.find? (·.wrong = t)

/-- How often a misspelling was corrected. -/
structure Correction where
  typo : Typo
  count : Nat
deriving DecidableEq, Inhabited

/-- The name of a command in messages. -/
def commandName (t : Text) : String :=
  String.ofList (Text.trimEndBy (· = '{') t)

/-- A correction in words. -/
def Correction.message (c : Correction) : String :=
  let plural := if c.count = 1 then "" else "s"
  s!"corrected {c.count} occurrence{plural} of " ++ commandName c.typo.wrong ++ " to " ++
    commandName c.typo.right

/-- Correct one misspelling everywhere. -/
def correct (typo : Typo) (t : Text) : Text × List Correction :=
  let count := Text.countOccurrences typo.wrong t
  if count = 0 then (t, []) else (Text.replaceAll typo.wrong typo.right t, [⟨typo, count⟩])

/-- Correct every misspelling. -/
def correctAll (t : Text) : Text × List Correction :=
  all.foldl
    (fun (acc : Text × List Correction) typo =>
      let (u, found) := typo.correct acc.1
      (u, acc.2 ++ found))
    (t, [])

end Typo

end LatexRepair
