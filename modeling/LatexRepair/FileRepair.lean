import LatexRepair.RepairRun

/-!
# Repair of files

The repairs of documents that are stored in files. Before a file is overwritten its content
is copied to its backup, from which `restoreBackup` brings it back. A file is overwritten
only when its content has changed, and always as a whole.
-/

namespace LatexRepair

/-- What was done to a file. -/
inductive FileFix where
  | rule (fix : RuleFix)
  /-- A pattern was replaced, for the stated purpose. -/
  | replaced (description : Text)
deriving DecidableEq, Inhabited

/-- A fix in words. -/
def FileFix.message : FileFix → String
  | rule fix => fix.message
  | replaced description => String.ofList description

/-- The outcome of the repair of a file. -/
structure FixedFile where
  /-- The content differs from what was read. -/
  fixed : Bool := false
  fixes : List FileFix := []
  /-- The backup, if one was made. -/
  backup : Option Path := none
  content : Text
deriving Inhabited

namespace FileRepair

variable {m : Type → Type} [Monad m] [FileAccess m]

/-! ## Reading and writing -/

/-- The value of a file operation, or its fault with the given path. -/
def orFault {α : Type} (p : Path) (r : Except FileFault α) : ExceptT Failure m α :=
  match r with
  | .ok a => pure a
  | .error fault => throw (.file p fault)

/-- The text of a file. -/
def readSource (p : Path) : ExceptT Failure m Text := do
  orFault p (← FileAccess.readText p)

/-- Store a text under a path. -/
def writeText (p : Path) (t : Text) : ExceptT Failure m Unit := do
  match ← FileAccess.replace p (Text.toBytes t) with
  | .ok () => pure ()
  | .error (q, fault) => throw (.file q fault)

/-- Copy a file to its backup. -/
def makeBackup (p : Path) : ExceptT Failure m Unit := do
  orFault (Path.backup p) (← FileAccess.copy p (Path.backup p))

/-- Copy a file to its backup and store a new text under its path. -/
def overwrite (p : Path) (t : Text) : ExceptT Failure m Unit := do
  makeBackup p
  writeText p t

/-! ## Validation -/

/-- The targets of the inclusions of a document that exist. -/
def existingTargets (base : Option Path) : List Text → m (List Text)
  | [] => pure []
  | target :: targets => do
    let found ← FileAccess.targetExists base target
    let more ← existingTargets base targets
    pure (if found then target :: more else more)

/-- Validate a text as if it were stored under a path: inclusions are looked up from its
directory, unless a lookup is given. -/
def validateAt (lookup : Option FileLookup) (p : Path) (t : Text) : m Validation := do
  match lookup with
  | some known => pure (validate (some known) t)
  | none =>
    let targets := (scan t).inclusions.map (·.target)
    let found ← existingTargets (some (Path.directory p)) targets
    pure (validate (some (found.contains ·)) t)

/-- Validate the text of a file. -/
def validateFile (p : Path) : ExceptT Failure m Validation := do
  let t ← readSource p
  ExceptT.lift (validateAt none p t)

/-! ## Repair by rules -/

/-- Repair a file by rules. A backup is made in any case. -/
def fixFile (allowBalance : Bool) (v : Option Validation) (p : Path) :
    ExceptT Failure m FixedFile := do
  let t ← readSource p
  makeBackup p
  let r := repairByRules allowBalance v t
  let fixed := r.content ≠ t
  if fixed then writeText p r.content
  pure ⟨fixed, r.fixes.map .rule, some (Path.backup p), r.content⟩

/-- Repair a file by rules if it has issues. -/
def fixInvalid (p : Path) (allowBalance : Bool := true) : ExceptT Failure m FixedFile := do
  let v ← validateFile p
  if v.valid then
    let t ← readSource p
    pure { content := t }
  else fixFile allowBalance (some v) p

/-- Change a file by a substitution, for the stated purpose. -/
def substitute (change : Text → Text) (description : Text) (p : Path) :
    ExceptT Failure m FixedFile := do
  let t ← readSource p
  let u := change t
  if u = t then pure { content := u }
  else
    overwrite p u
    pure ⟨true, [.replaced description], some (Path.backup p), u⟩

/-! ## All files of a directory -/

/-- The last of the names has the extension `tex`, in letters of any case. -/
def isDocument (names : List Text) : Bool :=
  match names.getLast?.bind Path.nameExtension? with
  | some ext => ext.map Char.toLower = "tex".toList
  | none => false

/-- The order of relative paths by their first different name. -/
def namesLe : List Text → List Text → Bool
  | [], _ => true
  | _ :: _, [] => false
  | a :: s, b :: t => if a = b then namesLe s t else Text.le a b

/-- Repair one file of a directory; nothing where it has no issues, does not change, or
cannot be repaired. -/
def fixListed (allowBalance : Bool) (p : Path) : m (Option FixedFile) := do
  match ← (validateFile p).run with
  | .error _ => pure none
  | .ok v =>
    if v.valid then pure none
    else
      match ← (fixFile allowBalance (some v) p).run with
      | .ok r => pure (if r.fixed then some r else none)
      | .error _ => pure none

/-- Repair the files with the given names in a directory. -/
def fixEach (allowBalance : Bool) (dir : Path) :
    List (List Text) → m (List (Path × FixedFile))
  | [] => pure []
  | names :: rest => do
    let r ← fixListed allowBalance (Path.joinNames dir names)
    let more ← fixEach allowBalance dir rest
    pure
      (match r with
        | some r => (Path.ofNames names, r) :: more
        | none => more)

/-- Repair all documents below a directory, in the order of their paths; the repaired ones
are listed with their paths relative to it. -/
def fixAll (dir : Path) (allowBalance : Bool := true) :
    ExceptT Failure m (List (Path × FixedFile)) := do
  match ← FileAccess.filesBelow dir with
  | .error (p, fault) => throw (.file p fault)
  | .ok files =>
    ExceptT.lift (fixEach allowBalance dir ((files.filter isDocument).mergeSort namesLe))

/-! ## Backups -/

/-- Bring back the content of a file from its backup. -/
def restoreBackup (p : Path) : ExceptT Failure m Unit := do
  if ← FileAccess.isFile (Path.backup p) then
    let t ← readSource (Path.backup p)
    writeText p t
  else throw (.missingBackup (Path.backup p))

/-- Delete the backup of a file, if there is one. -/
def deleteBackup (p : Path) : ExceptT Failure m Unit := do
  match ← FileAccess.remove (Path.backup p) with
  | .ok () | .error .notFound => pure ()
  | .error fault => throw (.file (Path.backup p) fault)

/-! ## All repairs -/

/-- Run all repairs on a file; its old content is kept in its backup if it changes. -/
def runOnFile (lookup : Option FileLookup) (ask : ChatRequest → m ChatReply)
    (options : RunOptions) (p : Path) : ExceptT Failure m RunOutcome := do
  let t ← readSource p
  let outcome ← ExceptT.lift (runRepairs (validateAt lookup p) ask options t)
  if outcome.content = t then pure outcome
  else
    overwrite p outcome.content
    pure { outcome with backup := some (Path.backup p) }

end FileRepair

end LatexRepair
