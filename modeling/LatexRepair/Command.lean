import LatexRepair.Arguments
import LatexRepair.Path

/-!
# Commands

The commands of the program and how they are written. `Invocation.read` reads the words
behind the name of the program. Options that all commands share may stand in front of the
command or behind it; those behind it count.
-/

namespace LatexRepair

/-- Where a repaired text goes. -/
inductive Destination where
  | standardOutput
  | file (p : Path)
  /-- The file that the text was read from. -/
  | inPlace
deriving DecidableEq, Inhabited

/-- A pattern and what to put in place of its matches. -/
structure Substitution where
  pattern : Text
  replacement : Text
  /-- What the substitution is for. -/
  description : Text
deriving DecidableEq, Inhabited

/-- Settings that are given with a command. -/
structure SettingOverrides where
  apiKey : Option Text := none
  apiUrl : Option Text := none
  model : Option Text := none
  timeoutSeconds : Option Nat := none
deriving DecidableEq, Inhabited

/-- What the program is asked to do. -/
inductive Command where
  /-- Validate a file, or standard input. -/
  | check (input : Option Path) (useColor asJson : Bool)
  /-- Repair all documents below a directory. -/
  | fixAll (directory : Path)
  /-- Repair a file by rules. -/
  | fix (input : Path)
  /-- Change a file by a substitution. -/
  | substitute (input : Path) (substitution : Substitution)
  /-- Repair a rendition against its guide. -/
  | reference (rendition guide : Path) (destination : Destination)
  /-- Bring back a file from its backup. -/
  | restore (input : Path)
  /-- Delete the backup of a file. -/
  | deleteBackup (input : Path)
  /-- Run all repairs on a file. -/
  | repair (input : Path) (guide : Option Path) (offline : Bool)
    (overrides : SettingOverrides) (asJson : Bool)
  /-- Compare the summaries of a rendition and its guide. -/
  | completeness (guide rendition : Path) (asJson : Bool)
  /-- Show the version and the settings. -/
  | info
deriving DecidableEq, Inhabited

namespace Command

/-- How a command is written. -/
structure Form where
  name : String
  options : List OptionSpec
  /-- The number of operands that must be given. -/
  needed : Nat
  /-- The number of operands that may be given. -/
  limit : Nat
  /-- The command with the given arguments; nothing where they contradict each other. -/
  command? : Arguments → Option Command

/-- The options that all commands have. -/
def sharedOptions : List OptionSpec :=
  [⟨"log-level", .text, none⟩, ⟨"config", .path, none⟩,
    ⟨"help", .interruption .help, some 'h'⟩]

/-- The purpose of a substitution for which none is given. -/
def defaultDescription : Text :=
  "custom regex fix".toList

/-- How files are validated. -/
def checkForm : Form where
  name := "check"
  options := [⟨"no-color", .flag, none⟩, ⟨"json", .flag, none⟩]
  needed := 0
  limit := 1
  command? a := some (.check a.operands.head? (!a.has "no-color") (a.has "json"))

/-- How files are repaired by rules, or overwritten by a substitution. A pattern needs a
replacement. -/
def fixForm : Form where
  name := "fix"
  options :=
    [⟨"all", .flag, none⟩, ⟨"regex", .text, none⟩, ⟨"replacement", .text, none⟩,
      ⟨"description", .text, none⟩]
  needed := 1
  limit := 1
  command? a := do
    let input ← a.operands.head?
    let description := (a.value? "description").getD defaultDescription
    match a.value? "regex", a.value? "replacement" with
    | some _, none => none
    | some pattern, some replacement =>
      if a.has "all" then some (.fixAll input)
      else some (.substitute input ⟨pattern, replacement, description⟩)
    | none, _ => if a.has "all" then some (.fixAll input) else some (.fix input)

/-- How renditions are repaired against their guides. The result cannot go to a file and
in place at once. -/
def referenceForm : Form where
  name := "reference"
  options := [⟨"output", .path, some 'o'⟩, ⟨"in-place", .flag, some 'i'⟩]
  needed := 2
  limit := 2
  command? a := do
    match a.operands with
    | [rendition, guide] =>
      match a.value? "output", a.has "in-place" with
      | some _, true => none
      | some p, false => some (.reference rendition guide (.file p))
      | none, true => some (.reference rendition guide .inPlace)
      | none, false => some (.reference rendition guide .standardOutput)
    | _ => none

/-- How backups are brought back or deleted. -/
def restoreForm : Form where
  name := "restore"
  options := [⟨"cleanup", .flag, none⟩]
  needed := 1
  limit := 1
  command? a := do
    let input ← a.operands.head?
    some (if a.has "cleanup" then .deleteBackup input else .restore input)

/-- How all repairs are run. -/
def repairForm : Form where
  name := "repair"
  options :=
    [⟨"original", .path, none⟩, ⟨"no-llm", .flag, none⟩, ⟨"api-key", .text, none⟩,
      ⟨"api-url", .text, none⟩, ⟨"model", .text, none⟩, ⟨"timeout", .number, none⟩,
      ⟨"json", .flag, none⟩]
  needed := 1
  limit := 1
  command? a := do
    let input ← a.operands.head?
    let overrides : SettingOverrides :=
      ⟨a.value? "api-key", a.value? "api-url", a.value? "model",
        (a.value? "timeout").bind wordNat?⟩
    some (.repair input (a.value? "original") (a.has "no-llm") overrides (a.has "json"))

/-- How summaries are compared. -/
def completenessForm : Form where
  name := "completeness"
  options := [⟨"json", .flag, none⟩]
  needed := 2
  limit := 2
  command? a := do
    match a.operands with
    | [guide, rendition] => some (.completeness guide rendition (a.has "json"))
    | _ => none

/-- How the version and the settings are asked for. -/
def infoForm : Form where
  name := "info"
  options := []
  needed := 0
  limit := 0
  command? _ := some .info

/-- The forms of all commands. -/
def forms : List Form :=
  [checkForm, fixForm, referenceForm, restoreForm, repairForm, completenessForm, infoForm]

/-- The form of the command with the given name. -/
def form? (name : Text) : Option Form :=
  forms.find? (·.name.toList = name)

end Command

/-- A command with what all commands share. -/
structure Invocation where
  /-- The file of settings. -/
  settings : Option Path
  command : Command
deriving DecidableEq, Inhabited

namespace Invocation

/-- What is asked of the command that explains commands: help, for the program or for a
command that there is. -/
def explain (words : List Text) : Interruption :=
  match words with
  | [] => .help
  | [name] => if name = "help".toList || (Command.form? name).isSome then .help else .misuse
  | _ => .misuse

/-- Read the words behind the name of the program. -/
def read (words : List Text) : Except Interruption Invocation := do
  let leading := Command.sharedOptions ++ [⟨"version", .interruption .version, some 'V'⟩]
  let (shared, name, words) ← Arguments.readLeading leading {} words
  if name = "help".toList then .error (explain words)
  match Command.form? name with
  | none => .error .misuse
  | some form =>
    let a ← Arguments.read (form.options ++ Command.sharedOptions) form.needed form.limit words
    match form.command? a with
    | none => .error .misuse
    | some command => pure ⟨(a.value? "config").or (shared.value? "config"), command⟩

end Invocation

end LatexRepair
