import LatexRepair.Include
import LatexRepair.Path

/-!
# Access to files

What the repair of files asks of a file system, as a class of monads. Each operation
answers with a value or with a `FileFault`. A file is replaced as a whole: a reader sees
its old content or its new one.
-/

namespace LatexRepair

/-- Why an operation on a file failed. -/
inductive FileFault where
  | notFound
  | permissionDenied
  /-- The path names no entry of a directory. -/
  | busy
  | notDirectory
  | isDirectory
  | nameTooLong
  /-- The content of the file is no text. -/
  | invalidText
  | other (message : String)
deriving DecidableEq, Inhabited

/-- A fault in words, with the number under which the system knows it. -/
def FileFault.message : FileFault → String
  | notFound => "No such file or directory (os error 2)"
  | permissionDenied => "Permission denied (os error 13)"
  | busy => "Device or resource busy (os error 16)"
  | notDirectory => "Not a directory (os error 20)"
  | isDirectory => "Is a directory (os error 21)"
  | nameTooLong => "File name too long (os error 36)"
  | invalidText => "stream did not contain valid UTF-8"
  | other message => message

/-- A monad with files. -/
class FileAccess (m : Type → Type) where
  /-- The content of a file. -/
  read : Path → m (Except FileFault ByteArray)
  /-- The path names a file, not a directory. -/
  isFile : Path → m Bool
  /-- Store a content under a path, in place of the content it had; a fault names the path
  that it is about. -/
  replace : Path → ByteArray → m (Except (Path × FileFault) Unit)
  /-- Copy a file to another path. -/
  copy : Path → Path → m (Except FileFault Unit)
  /-- Delete a file. -/
  remove : Path → m (Except FileFault Unit)
  /-- All files below a directory, each by its names relative to it; a fault names the
  directory that it is about. -/
  filesBelow : Path → m (Except (Path × FileFault) (List (List Text)))

namespace FileAccess

variable {m : Type → Type} [Monad m] [FileAccess m]

/-- Files are at hand also where operations may fail. -/
instance {ε : Type} : FileAccess (ExceptT ε m) where
  read p := ExceptT.lift (read p)
  isFile p := ExceptT.lift (isFile p)
  replace p content := ExceptT.lift (replace p content)
  copy source target := ExceptT.lift (copy source target)
  remove p := ExceptT.lift (remove p)
  filesBelow p := ExceptT.lift (filesBelow p)

/-- The path of an inclusion target: relative to the base directory, if there is one. -/
def targetPath (base : Option Path) (target : Text) : Path :=
  match base with
  | some d => Path.join d target
  | none => target

/-- Some file is stored under one of the paths. -/
def anyFile : List Path → m Bool
  | [] => pure false
  | p :: ps => do
    if ← isFile p then pure true else anyFile ps

/-- The target of an inclusion exists. -/
def targetExists (base : Option Path) (target : Text) : m Bool :=
  anyFile ((includeCandidates target).map (targetPath base))

/-- The text stored under a path. -/
def readText (p : Path) : m (Except FileFault Text) := do
  match ← read p with
  | .error fault => pure (.error fault)
  | .ok bytes =>
    match Text.ofBytes? bytes with
    | some t => pure (.ok t)
    | none => pure (.error .invalidText)

end FileAccess

end LatexRepair
