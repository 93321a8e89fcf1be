import LatexRepair.Chat
import LatexRepair.Guided
import LatexRepair.RuleRepair

/-!
# A run of all repairs

The repairs of one document in sequence. A document with issues is repaired by rules; then
it is repaired against its guide, if that is given, and its braces are balanced where
that leaves issues with braces; and where issues are left, a chat service is asked. With a
guide, the rules leave the balance of braces to the later stages.

The document is validated anew whenever a stage has changed it. The answer of the chat
service is taken only when it is not blank and has fewer issues than the document.

How a document is validated and how the service is asked are parameters, in any monad.
-/

namespace LatexRepair

/-- The stages of a run. -/
inductive Stage where
  | simple
  | reference
  | rebalance
  | llm
deriving DecidableEq, Inhabited

/-- The name of a stage in messages. -/
def Stage.label : Stage → String
  | simple => "simple"
  | reference => "reference"
  | rebalance => "rebalance"
  | llm => "llm"

/-- What a stage did to a document. -/
inductive StageFix where
  | rule (fix : RuleFix)
  | guided (fix : GuidedFix)
  /-- The answer of the chat service was taken, with the numbers of issues before and
  after. -/
  | acceptedAnswer (before after : Nat)
deriving DecidableEq, Inhabited

/-- A fix in words. -/
def StageFix.message : StageFix → String
  | rule fix => fix.message
  | guided fix => fix.message
  | acceptedAnswer before after => s!"accepted LLM repair ({before} -> {after} issue(s))"

/-- The report on a stage. -/
structure StageReport where
  stage : Stage
  fixes : List StageFix
  /-- The number of issues after the stage. -/
  issuesAfter : Nat
deriving DecidableEq, Inhabited

/-- What is asked of a run. -/
structure RunOptions where
  /-- The guide of the document. -/
  guide : Option Text := none
  /-- How the chat service is reached, if it may be asked. -/
  chat : Option ChatSettings := none
deriving Inhabited

/-- How far a run has come. -/
structure Progress where
  content : Text
  /-- The validation of the content. -/
  result : Validation
  stages : List StageReport := []
  /-- The request sent to the chat service. -/
  request : Option ChatRequest := none
deriving Inhabited

/-- What a stage makes of a document. -/
structure Proposal where
  /-- The new content, where the stage changes it. -/
  change : Option Text
  fixes : List StageFix
deriving Inhabited

namespace Progress

variable {m : Type → Type} [Monad m]

/-- Take over what a stage proposes, and validate the document if it has changed. -/
def take (check : Text → m Validation) (p : Progress) (stage : Stage) (q : Proposal) :
    m Progress := do
  match q.change with
  | none => pure { p with stages := p.stages ++ [⟨stage, q.fixes, p.result.issues.length⟩] }
  | some t =>
    let v ← check t
    pure { p with
      content := t
      result := v
      stages := p.stages ++ [⟨stage, q.fixes, v.issues.length⟩] }

/-! ## The stages -/

/-- Repair by rules, which balance braces only in a run without a guide. -/
def bySimpleRules (guide : Option Text) (p : Progress) : Proposal :=
  let r := repairByRules guide.isNone (some p.result) p.content
  ⟨if r.content = p.content then none else some r.content, r.fixes.map .rule⟩

/-- Repair against the guide. -/
def byReference (guide : Text) (p : Progress) : Proposal :=
  let r := repairGuided p.content guide
  ⟨if r.fixes.isEmpty then none else some r.content, r.fixes.map .guided⟩

/-- Balance the braces. -/
def byBalance (p : Progress) : Proposal :=
  match rebalance? p.content with
  | some (t, fix) => ⟨some t, [.rule fix]⟩
  | none => ⟨none, []⟩

/-- The stage of the rules, for a document with issues. -/
def simpleStage (check : Text → m Validation) (guide : Option Text) (p : Progress) :
    m Progress :=
  if p.result.valid then pure p else p.take check .simple (p.bySimpleRules guide)

/-- The stage of the guide, for a run with one. -/
def referenceStage (check : Text → m Validation) (guide : Option Text) (p : Progress) :
    m Progress :=
  match guide with
  | none => pure p
  | some g => p.take check .reference (p.byReference g)

/-- The stage of the braces, for a run with a guide. -/
def rebalanceStage (check : Text → m Validation) (guide : Option Text) (p : Progress) :
    m Progress :=
  if guide.isSome && p.result.hasKind .brace then p.take check .rebalance p.byBalance
  else pure p

/-- Take the answer of the chat service, if it is not blank and has fewer issues than the
document. -/
def takeAnswer (check : Text → m Validation) (p : Progress) (answer : Except Failure Text) :
    m Progress := do
  let unchanged : m Progress := p.take check .llm ⟨none, []⟩
  match answer with
  | .error _ => unchanged
  | .ok t =>
    if Text.isBlankText t then unchanged
    else
      let v ← check t
      if v.issues.length < p.result.issues.length then
        pure { p with
          content := t
          result := v
          stages := p.stages ++
            [⟨.llm, [.acceptedAnswer p.result.issues.length v.issues.length],
              v.issues.length⟩] }
      else unchanged

/-- The stage of the chat service, for a document with issues in a run that may ask it. It
is asked only about syntax errors. -/
def llmStage (check : Text → m Validation) (ask : ChatRequest → m ChatReply)
    (chat : Option ChatSettings) (p : Progress) : m Progress :=
  match chat with
  | none => pure p
  | some s =>
    if p.result.valid || !s.hasKey then pure p
    else if p.result.syntaxErrors.isEmpty then p.take check .llm ⟨none, []⟩
    else do
      let r ← repairByChat ask s p.content p.result.syntaxErrors
      { p with request := r.request }.takeAnswer check r.result

end Progress

/-- The outcome of a run. -/
structure RunOutcome where
  initial : Validation
  final : Validation
  stages : List StageReport
  content : Text
  /-- Where the document was kept before it was overwritten. -/
  backup : Option Path := none
  /-- The request sent to the chat service. -/
  request : Option ChatRequest := none
deriving Inhabited

namespace RunOutcome

/-- Nothing is left to mend. -/
def valid (o : RunOutcome) : Bool :=
  o.final.valid

/-- The number of fixes of all stages. -/
def fixCount (o : RunOutcome) : Nat :=
  o.stages.foldr (fun s n => s.fixes.length + n) 0

end RunOutcome

/-- Run all repairs on a document. -/
def runRepairs {m : Type → Type} [Monad m] (check : Text → m Validation)
    (ask : ChatRequest → m ChatReply) (options : RunOptions) (t : Text) : m RunOutcome := do
  let initial ← check t
  let p ← Progress.simpleStage check options.guide ⟨t, initial, [], none⟩
  let p ← p.referenceStage check options.guide
  let p ← p.rebalanceStage check options.guide
  let p ← p.llmStage check ask options.chat
  pure
    { initial := initial
      final := p.result
      stages := p.stages
      content := p.content
      request := p.request }

/-- Run the repairs that need no chat service on a document in memory. -/
def repairOffline (lookup : Option FileLookup) (guide : Option Text) (t : Text) :
    RunOutcome :=
  Id.run (runRepairs (fun u => pure (validate lookup u)) (fun _ => pure .refused)
    { guide := guide } t)

end LatexRepair
