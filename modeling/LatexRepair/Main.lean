import LatexRepair.Tool

/-!
# The program

The thin layer between `runTool` and the system: files, standard input and output, the
environment and the exit status. There is no connection to a chat service from here, so one
that is asked counts as unreachable.
-/

namespace LatexRepair

namespace Host

/-- The fault that an error of the system is. -/
def faultOf (e : IO.Error) : FileFault :=
  let code : Nat :=
    match e with
    | .noFileOrDirectory _ code _ | .permissionDenied _ code _ | .inappropriateType _ code _
    | .invalidArgument _ code _ | .resourceExhausted _ code _ | .alreadyExists _ code _
    | .resourceBusy code _ | .otherError code _ | .noSuchThing _ code _
    | .unsatisfiedConstraints code _ => code.toNat
    | _ => 0
  match code with
  | 2 => .notFound
  | 13 => .permissionDenied
  | 16 => .busy
  | 20 => .notDirectory
  | 21 => .isDirectory
  | 36 => .nameTooLong
  | _ => .other (toString e)

/-- The result of an action, or its fault. -/
def attempt {α : Type} (action : IO α) : IO (Except FileFault α) := do
  match ← action.toBaseIO with
  | .ok a => pure (.ok a)
  | .error e => pure (.error (faultOf e))

/-- The path as the system takes it. -/
def nameOf (p : Path) : String :=
  String.ofList p

/-- The entry of a file in its directory. -/
def entryOf (p : Path) : IO.FS.DirEntry :=
  ⟨nameOf (Path.directory p), nameOf (Path.split p).2⟩

/-- The path names a file. -/
def isFile (p : Path) : IO Bool := do
  match ← attempt (entryOf p).path.metadata with
  | .ok data => pure (data.type == .file)
  | .error _ => pure false

/-- Store a content beside the path and move it there. -/
def replace (p : Path) (content : ByteArray) : IO (Except (Path × FileFault) Unit) := do
  let directory := Path.directory p
  let beside := Path.join directory ('.' :: ((Path.split p).2 ++ ".new".toList))
  match ← attempt (IO.FS.writeBinFile (nameOf beside) content) with
  | .error fault => pure (.error (directory, fault))
  | .ok () =>
    match ← attempt (IO.FS.rename (nameOf beside) (nameOf p)) with
    | .error fault =>
      let _ ← attempt (IO.FS.removeFile (nameOf beside))
      pure (.error (p, fault))
    | .ok () => pure (.ok ())

/-- Copy a file. -/
def copy (source target : Path) : IO (Except FileFault Unit) := do
  match ← attempt (IO.FS.readBinFile (nameOf source)) with
  | .error fault => pure (.error fault)
  | .ok content => attempt (IO.FS.writeBinFile (nameOf target) content)

mutual

/-- The files of a directory and of those nested in it at most `depth` deep, by their names
from `names` on; a fault ends the listing. -/
def filesIn (depth : Nat) (p : Path) (names : List Text) :
    ExceptT (Path × FileFault) IO (List (List Text)) :=
  match depth with
  | 0 => pure []
  | depth + 1 => do
    match ← attempt ((⟨nameOf p, "."⟩ : IO.FS.DirEntry).path.readDir) with
    | .error fault => throw (p, fault)
    | .ok entries => filesAt depth p names (entries.toList.map (·.fileName.toList))

/-- The files among the given names of a directory. -/
def filesAt (depth : Nat) (p : Path) (names : List Text) :
    List Text → ExceptT (Path × FileFault) IO (List (List Text))
  | [] => pure []
  | name :: rest => do
    let q := Path.join p name
    let here ←
      match ← attempt (entryOf q).path.symlinkMetadata with
      | .error fault => throw (q, fault)
      | .ok data =>
        if data.type == .dir then filesIn depth q (names ++ [name])
        else pure (if data.type == .file then [names ++ [name]] else [])
    let more ← filesAt depth p names rest
    pure (here ++ more)

end

/-- How deep directories are followed. -/
def maxDepth : Nat := 4096

instance : FileAccess IO where
  read p := attempt (IO.FS.readBinFile (nameOf p))
  isFile := isFile
  replace := replace
  copy := copy
  remove p := attempt (IO.FS.removeFile (nameOf p))
  filesBelow p := (filesIn maxDepth p []).run

/-- The variables of the environment that settings are read from. -/
def environment : IO Environment := do
  let names := [ChatSettings.keyVariable, ChatSettings.urlVariable, ChatSettings.modelVariable]
  let values ← names.mapM fun name => do
    pure (name.toList, (← IO.getEnv name).map String.toList)
  pure fun name => (values.find? (·.1 = name)).bind (·.2)

end Host

end LatexRepair

open LatexRepair in
/-- Carry out the command with the given words. -/
def main (words : List String) : IO UInt32 := do
  let needsInput :=
    match Invocation.read (words.map String.toList) with
    | .ok ⟨_, .check none _ _⟩ => true
    | _ => false
  let input ← if needsInput then (← IO.getStdin).readBinToEnd else pure .empty
  let surroundings : Surroundings IO :=
    { environment := ← Host.environment
      standardInput := input
      ask := fun _ => pure .refused }
  let r ← runTool surroundings (words.map String.toList)
  (← IO.getStdout).putStr (String.ofList r.written.output)
  (← IO.getStderr).putStr (String.ofList r.written.messages)
  pure (UInt32.ofNat r.status.code)
