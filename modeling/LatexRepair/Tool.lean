import LatexRepair.Command
import LatexRepair.Excerpt
import LatexRepair.Json.Report
import LatexRepair.Pattern.Reader
import LatexRepair.SettingsFile
import LatexRepair.SummaryFile

/-!
# Carrying out commands

What the program writes and how it ends for each command. A command ends well, or it ends
with a document that is still broken, or it fails; `ExitStatus.code` tells the three apart.
What was written before a failure stays written.

Commands are carried out in any monad with files, and `runTool` takes the words of a command
line to everything that can be observed: the two outputs and the exit status, beside the
effect on the files.
-/

namespace LatexRepair

/-- How a command ends. -/
inductive ExitStatus where
  | success
  /-- The command was carried out, and the document is still broken. -/
  | broken
  | failed
deriving DecidableEq, Inhabited

/-- The exit status as a number. -/
def ExitStatus.code : ExitStatus → Nat
  | success => 0
  | broken => 1
  | failed => 2

/-- What a command writes. -/
structure Written where
  output : Text := []
  /-- What goes to the terminal besides the output. -/
  messages : Text := []
deriving DecidableEq, Inhabited

/-- What can be observed of a command. -/
structure ToolResult where
  written : Written
  status : ExitStatus
deriving DecidableEq, Inhabited

/-- What a command finds around it besides files. -/
structure Surroundings (m : Type → Type) where
  environment : Environment
  standardInput : ByteArray
  /-- How the chat service is asked. -/
  ask : ChatRequest → m ChatReply

/-- Steps of a command, which write and may fail. -/
abbrev ToolM (m : Type → Type) := ExceptT Failure (StateT Written m)

namespace ToolM

variable {m : Type → Type} [Monad m]

/-- Carry out an operation that writes nothing. -/
def perform {α : Type} (x : ExceptT Failure m α) : ToolM m α :=
  ExceptT.mk (StateT.lift x.run)

/-- Write a text to the output. -/
def put (t : Text) : ToolM m Unit :=
  modifyThe Written fun w => { w with output := w.output ++ t }

/-- Write a line to the output. -/
def putLine (s : String) : ToolM m Unit :=
  put (s.toList ++ ['\n'])

/-- Write a line of messages. -/
def message (s : String) : ToolM m Unit :=
  modifyThe Written fun w => { w with messages := w.messages ++ s.toList ++ ['\n'] }

/-- Write lines of messages. -/
def messageAll : List String → ToolM m Unit
  | [] => pure ()
  | s :: ss => do
    message s
    messageAll ss

/-- Write a JSON value to the output. -/
def putJson (v : Json) : ToolM m Unit :=
  put (v.pretty ++ ['\n'])

end ToolM

namespace Command

open ToolM

variable {m : Type → Type} [Monad m] [FileAccess m]

/-- The status for a document that is valid or not. -/
def statusOf (valid : Bool) : ExitStatus :=
  if valid then .success else .broken

/-- Lines that list fixes. -/
def fixLines {α : Type} (wording : α → String) (fixes : List α) : List String :=
  fixes.map fun f => "    - " ++ wording f

/-! ## Validation -/

/-- The text of standard input. -/
def inputText (s : Surroundings m) : ToolM m Text :=
  match Text.ofBytes? s.standardInput with
  | some t => pure t
  | none => throw (.file "<stdin>".toList .invalidText)

/-- The text to check and its validation. -/
def checked (s : Surroundings m) (input : Option Path) : ToolM m (Text × Validation) :=
  match input with
  | some p => do
    let t ← perform (FileRepair.readSource p)
    let v ← perform (FileRepair.validateFile p)
    pure (t, v)
  | none => do
    let t ← inputText s
    pure (t, validate none t)

/-- Validate a file or standard input. -/
def runCheck (s : Surroundings m) (input : Option Path) (useColor asJson : Bool) :
    ToolM m ExitStatus := do
  let (t, v) ← checked s input
  if asJson then putJson v.toJson else putLine (v.report (some t) useColor)
  pure (statusOf v.valid)

/-! ## Repair by rules -/

/-- The lines about a repaired file. -/
def fixedFileLines (p : Path) (r : FixedFile) : List String :=
  if r.fixed then
    (s!"✓ Applied {r.fixes.length} fix(es) to " ++ String.ofList p) ::
      (fixLines FileFix.message r.fixes ++
        (r.backup.map fun b => "  backup: " ++ String.ofList b).toList)
  else ["No fixes applied to " ++ String.ofList p]

/-- Report on a repaired file and validate it. -/
def reportFixed (p : Path) (r : FixedFile) : ToolM m ExitStatus := do
  messageAll (fixedFileLines p r)
  let v ← perform (FileRepair.validateFile p)
  pure (statusOf v.valid)

/-- Change a file by a substitution. -/
def substituteIn (p : Path) (s : Substitution) : ExceptT Failure m FixedFile :=
  match NamedPattern.parse? s.pattern with
  | none => throw (.invalidPattern s.pattern)
  | some pattern => FileRepair.substitute (pattern.replaceAll s.replacement) s.description p

/-- The lines about one of the repaired files of a directory. -/
def listedLines (r : Path × FixedFile) : List String :=
  ("✓ " ++ String.ofList r.1 ++ s!" ({r.2.fixes.length} fix(es))") ::
    fixLines FileFix.message r.2.fixes

/-- Repair all documents below a directory. -/
def runFixAll (directory : Path) : ToolM m ExitStatus := do
  let results ← perform (FileRepair.fixAll directory)
  messageAll (results.flatMap listedLines)
  message s!"\nFixed {results.length} file(s)"
  pure .success

/-! ## Repair against a guide -/

/-- Store or show a repaired rendition. In place it is stored only when it was repaired. -/
def deliver (rendition : Path) (r : GuidedRepair) : Destination → ToolM m Unit
  | .standardOutput => put r.content
  | .file p => do
    perform (FileRepair.writeText p r.content)
    message ("✓ Output written to: " ++ String.ofList p)
  | .inPlace => do
    if r.fixCount > 0 then
      perform (FileRepair.writeText rendition r.content)
      message ("✓ Updated " ++ String.ofList rendition)

/-- Repair a rendition against its guide. -/
def runReference (rendition guide : Path) (destination : Destination) :
    ToolM m ExitStatus := do
  let t ← perform (FileRepair.readSource rendition)
  let g ← perform (FileRepair.readSource guide)
  let r := repairGuided t g
  message ("✓ " ++ (Strategy.select t g).label ++ s!" repair: {r.fixCount} fix(es)")
  messageAll (fixLines GuidedFix.message r.fixes)
  deliver rendition r destination
  pure .success

/-! ## All repairs -/

/-- The settings with what is given in the command. -/
def withOverrides (o : SettingOverrides) (s : ChatSettings) : ChatSettings :=
  { s with
    apiKey := o.apiKey.or s.apiKey
    apiUrl := o.apiUrl.getD s.apiUrl
    model := o.model.getD s.model
    timeoutSeconds := o.timeoutSeconds.getD s.timeoutSeconds }

/-- The lines about a stage. -/
def stageLines (r : StageReport) : List String :=
  let sign := if r.fixes.isEmpty then "· " else "✓ "
  (sign ++ r.stage.label ++ s!": {r.fixes.length} fix(es), {r.issuesAfter} issue(s) left") ::
    fixLines StageFix.message r.fixes

/-- The lines about a run. -/
def outcomeLines (o : RunOutcome) : List String :=
  o.stages.flatMap stageLines ++
    (o.backup.map fun b => "  backup: " ++ String.ofList b).toList ++ [o.final.summary]

/-- The text of an optional file. -/
def readOptional : Option Path → ToolM m (Option Text)
  | none => pure none
  | some p => do
    let t ← perform (FileRepair.readSource p)
    pure (some t)

/-- Run all repairs on a file. -/
def runRepair (s : Surroundings m) (settings : ChatSettings) (input : Path)
    (guide : Option Path) (offline asJson : Bool) : ToolM m ExitStatus := do
  let options : RunOptions :=
    { guide := ← readOptional guide, chat := if offline then none else some settings }
  let o ← perform (FileRepair.runOnFile none s.ask options input)
  if asJson then putJson o.toJson else messageAll (outcomeLines o)
  pure (statusOf o.valid)

/-! ## Comparison and settings -/

/-- Compare the summaries of a rendition and its guide. -/
def runCompleteness (guide rendition : Path) (asJson : Bool) : ToolM m ExitStatus := do
  let r ← perform (Coverage.compareFiles guide rendition)
  if asJson then putJson r.toJson else put r.display.toList
  pure (statusOf r.complete)

/-- The version of the program. -/
def version : String := "0.3.5"

/-- The lines about the program and its settings. -/
def infoLines (s : ChatSettings) : List String :=
  ["texmend v" ++ version, "", "Commands:",
    "  check         Validate braces, math delimiters, environments, structure",
    "  fix           Rule-based fixes with a .backup copy",
    "  reference     Repair a translation against its original",
    "  restore       Restore or delete the .backup copy",
    "  repair        Rule-based, reference and LLM stages in sequence",
    "  completeness  Compare original and translated PDF summaries", "", "LLM configuration:",
    "  model:   " ++ String.ofList s.model, "  api url: " ++ String.ofList s.requestUrl,
    "  api key: " ++ if s.hasKey then "set" else "not set"]

/-- Show the version and the settings. -/
def runInfo (s : ChatSettings) : ToolM m ExitStatus := do
  put (Text.unlines ((infoLines s).map String.toList) ++ ['\n'])
  pure .success

/-! ## Commands -/

/-- Carry out a command under the given settings. -/
def run (s : Surroundings m) (settings : ChatSettings) : Command → ToolM m ExitStatus
  | check input useColor asJson => runCheck s input useColor asJson
  | fixAll directory => runFixAll directory
  | fix input => do
    let r ← perform (FileRepair.fixInvalid input)
    reportFixed input r
  | substitute input substitution => do
    let r ← perform (substituteIn input substitution)
    reportFixed input r
  | reference rendition guide destination => runReference rendition guide destination
  | restore input => do
    perform (FileRepair.restoreBackup input)
    message ("✓ Restored " ++ String.ofList input ++ " from backup")
    pure .success
  | deleteBackup input => do
    perform (FileRepair.deleteBackup input)
    message ("✓ Removed backup of " ++ String.ofList input)
    pure .success
  | repair input guide offline overrides asJson =>
    runRepair s (withOverrides overrides settings) input guide offline asJson
  | completeness guide rendition asJson => runCompleteness guide rendition asJson
  | info => runInfo settings

end Command

variable {m : Type → Type} [Monad m] [FileAccess m]

/-- Read the settings and carry out a command. -/
def Invocation.run (s : Surroundings m) (i : Invocation) : ToolM m ExitStatus := do
  let settings ← ToolM.perform (ChatSettings.resolve i.settings s.environment)
  i.command.run s settings

/-- How the program is used. -/
def usage : Text :=
  "Usage: tfix [--config FILE] [--log-level LEVEL] COMMAND [ARGUMENTS]\n".toList

/-- What can be observed where no command is carried out. -/
def Interruption.result : Interruption → ToolResult
  | help => ⟨⟨usage, []⟩, .success⟩
  | version => ⟨⟨("tfix " ++ Command.version ++ "\n").toList, []⟩, .success⟩
  | misuse => ⟨⟨[], usage⟩, .failed⟩

/-- What can be observed of the program with the given words behind its name. -/
def runTool (s : Surroundings m) (words : List Text) : m ToolResult := do
  match Invocation.read words with
  | .error i => pure i.result
  | .ok i =>
    let (r, written) ← (i.run s).run.run {}
    match r with
    | .ok status => pure ⟨written, status⟩
    | .error f =>
      let line := ("✗ " ++ f.message ++ "\n").toList
      pure ⟨{ written with messages := written.messages ++ line }, .failed⟩

end LatexRepair
