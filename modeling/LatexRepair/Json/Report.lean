import LatexRepair.Coverage
import LatexRepair.Json.Basic
import LatexRepair.RepairRun

/-!
# Reports as JSON

Validations, outcomes of runs and comparisons as JSON values, for readers that are programs.
Names of kinds are written with underscores, and what is missing is `null`.
-/

namespace LatexRepair

namespace Json

/-- The name that a label has for programs. -/
def ofLabel (label : String) : Json :=
  string (label.toList.map fun c => if c = ' ' || c = '-' then '_' else c)

/-- The messages of a list of fixes or warnings. -/
def ofMessages {α : Type} (message : α → String) (as : List α) : Json :=
  ofList (fun a => ofString (message a)) as

end Json

/-- The kind of an issue as a JSON value. -/
def IssueKind.toJson : IssueKind → Json
  | misordered d => .mkObject [("misordered", .ofLabel d.label)]
  | k => .ofLabel k.label

/-- An issue as a JSON value. -/
def Issue.toJson (i : Issue) : Json :=
  .mkObject
    [("severity", .ofLabel i.severity.label), ("kind", i.kind.toJson), ("line", .ofNat i.line),
      ("column", .ofNat i.column), ("message", .ofString i.message),
      ("details", .ofOption .ofString i.details), ("delta", .ofOption .ofInt i.delta)]

/-- A validation as a JSON value. -/
def Validation.toJson (v : Validation) : Json :=
  .mkObject [("valid", .bool v.valid), ("issues", .ofList Issue.toJson v.issues)]

/-- The report on a stage as a JSON value. -/
def StageReport.toJson (s : StageReport) : Json :=
  .mkObject
    [("stage", .ofLabel s.stage.label), ("fixes", .ofMessages StageFix.message s.fixes),
      ("issues_after", .ofNat s.issuesAfter)]

/-- The outcome of a run as a JSON value. -/
def RunOutcome.toJson (o : RunOutcome) : Json :=
  .mkObject
    [("valid", .bool o.valid), ("initial", o.initial.toJson),
      ("stages", .ofList StageReport.toJson o.stages), ("final_result", o.final.toJson),
      ("content", .string o.content), ("backup_path", .ofOption .string o.backup)]

/-- A section as a JSON value. -/
def Section.toJson (s : Section) : Json :=
  .mkObject
    [("kind", .ofLabel s.kind.label), ("number", .string s.number), ("title", .string s.title),
      ("page", .ofNat s.page), ("level", .ofNat s.level), ("is_appendix", .bool s.isAppendix)]

/-- Page counts as a JSON value. -/
def PageComparison.toJson (c : PageComparison Float) : Json :=
  .mkObject
    [("original_pages", .ofNat c.guidePages), ("translated_pages", .ofNat c.renditionPages),
      ("difference", .ofInt c.difference), ("diff_percent", .ofFloat c.loss),
      ("suspicious", .bool c.suspicious)]

/-- The comparison of two documents as a JSON value. -/
def CoverageReport.toJson (r : CoverageReport Float) : Json :=
  .mkObject
    [("complete", .bool r.complete), ("score", .ofFloat r.score), ("page_count", r.pages.toJson),
      ("original_sections", .ofList Section.toJson r.guideSections),
      ("translated_sections", .ofList Section.toJson r.renditionSections),
      ("missing_sections", .ofList Section.toJson r.missingSections),
      ("warnings", .ofMessages CoverageWarning.message r.warnings)]

end LatexRepair
