import LatexRepair.Text

/-!
# Paths

A path is the text that names a file: names with slashes between them. A path that starts
with a slash is absolute. Slashes in a row count as one, and a single dot is a name only at
the start of a path. Paths are shown as they were given.
-/

namespace LatexRepair

/-- A path, as it is written. -/
abbrev Path := Text

namespace Path

/-- The name of the directory that a path is relative to. -/
def current : Path :=
  ['.']

/-- The path does not depend on the current directory. -/
def isAbsolute (p : Path) : Bool :=
  p.head? = some '/'

/-- A reversed path without the slashes and single dots in front; the root stays, and so does
a dot that is all of the path. -/
def dropSeparators : Text → Text
  | '/' :: [] => ['/']
  | '/' :: r => dropSeparators r
  | '.' :: '/' :: r => dropSeparators ('/' :: r)
  | r => r

/-- `p` without the slashes and single dots at its end. -/
def trimSeparators (p : Path) : Path :=
  (dropSeparators p.reverse).reverse

/-- The last name of a path and what stands before it. -/
def split (p : Path) : Path × Text :=
  let name := ((trimSeparators p).reverse.takeWhile (· ≠ '/')).reverse
  ((trimSeparators p).take ((trimSeparators p).length - name.length), name)

/-- The directory that the path lies in: empty for a lone name, nothing for the empty path
and for the root. -/
def parent? (p : Path) : Option Path :=
  let (before, name) := split p
  if name.isEmpty then none else some (trimSeparators before)

/-- The directory that a file is stored in. -/
def directory (p : Path) : Path :=
  match parent? p with
  | none | some [] => current
  | some d => d

/-- The path `q` relative to the directory `p`; an absolute path stands for itself. -/
def join (p q : Path) : Path :=
  if isAbsolute q || p.isEmpty then q
  else if p.getLast? = some '/' then p ++ q
  else p ++ '/' :: q

/-- The file that the relative names lead to from the directory `p`. -/
def joinNames (p : Path) (names : List Text) : Path :=
  names.foldl join p

/-- Names with slashes between them. -/
def ofNames (names : List Text) : Path :=
  ['/'].intercalate names

/-- What follows the last dot of a name, unless nothing stands before that dot. -/
def nameExtension? (name : Text) : Option Text :=
  let ext := (name.reverse.takeWhile (· ≠ '.')).reverse
  if ext.length + 1 < name.length then some ext else none

/-- The extension of the file that a path names. -/
def extension? (p : Path) : Option Text :=
  let name := (split p).2
  if name = "..".toList then none else nameExtension? name

/-- What the name of a backup has behind the name of its file. -/
def backupSuffix : Text :=
  ".backup".toList

/-- The path of the backup of a file. -/
def backup (p : Path) : Path :=
  p ++ backupSuffix

end Path

end LatexRepair
