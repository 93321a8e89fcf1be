import LatexRepair.Text

/-!
# Inclusion of other files

A document pulls in other files by three commands. Whether the named file exists is asked
of a `FileLookup`; `FileLookup.ofNames` knows a fixed set of names, with or without the
extension `.tex`.
-/

namespace LatexRepair

/-- The commands that pull in another file. -/
inductive IncludeCommand where
  | input
  | include_
  | subfile
deriving DecidableEq, Inhabited

/-- The name of the command, without the backslash. -/
def IncludeCommand.name : IncludeCommand → String
  | input => "input"
  | include_ => "include"
  | subfile => "subfile"

/-- The command with the given name. -/
def IncludeCommand.ofName? (name : Text) : Option IncludeCommand :=
  [input, include_, subfile].find? fun c => c.name.toList = name

/-- Answers whether the target of an inclusion exists. -/
abbrev FileLookup := Text → Bool

/-- The two names under which a target may be stored: as written, and with `.tex` added. -/
def includeCandidates (target : Text) : List Text :=
  [target, target ++ ".tex".toList]

/-- The lookup that knows the given names and no others. -/
def FileLookup.ofNames (names : List Text) : FileLookup :=
  fun target => (includeCandidates target).any (names.contains ·)

end LatexRepair
