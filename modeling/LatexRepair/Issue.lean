import LatexRepair.Scan

/-!
# Issues

An issue is a finding put into words: a severity, a kind, a place, a message, and where
there is one, a hint how to mend it. An issue about a delimiter without partner carries
the amount that it adds to the balance of its class, one for an opener and minus one for
a closer.
-/

namespace LatexRepair

/-- How bad an issue is. -/
inductive Severity where
  /-- Reported, but the document may compile. -/
  | warning
  /-- The document does not compile, or not as meant. -/
  | error
deriving DecidableEq, Inhabited

/-- The name of a severity in messages. -/
def Severity.label : Severity → String
  | warning => "warning"
  | error => "error"

/-- The classes of syntax errors that a repair request names. -/
inductive ErrorClass where
  | brace
  | bracket
  | math
  | environment
deriving DecidableEq, Inhabited

/-- The name of a class of syntax errors. -/
def ErrorClass.label : ErrorClass → String
  | brace => "brace"
  | bracket => "bracket"
  | math => "math"
  | environment => "environment"

/-- What an issue is about. -/
inductive IssueKind where
  | brace
  | bracket
  | math
  | environment
  /-- A closer that stands before its opener. -/
  | misordered (delimiter : Delimiter)
  /-- The skeleton of the document. -/
  | structure_
  /-- Text behind the end of the document. -/
  | trailingContent
  /-- An inclusion of a file that is not there. -/
  | include_
deriving DecidableEq, Inhabited

namespace IssueKind

/-- The kind of an issue about a delimiter without partner. -/
def ofDelimiter : Delimiter → IssueKind
  | .brace => brace
  | .bracket => bracket
  | _ => math

/-- The name of a kind in messages. -/
def label : IssueKind → String
  | brace => "brace"
  | bracket => "bracket"
  | math => "math"
  | environment => "environment"
  | misordered _ => "misordered"
  | structure_ => "structure"
  | trailingContent => "trailing-content"
  | include_ => "include"

/-- The class of syntax errors that issues of the kind belong to. -/
def errorClass? : IssueKind → Option ErrorClass
  | brace | misordered .brace => some .brace
  | bracket | misordered .bracket => some .bracket
  | math | misordered _ => some .math
  | environment => some .environment
  | structure_ | trailingContent | include_ => none

end IssueKind

/-- Something to mend in a document. -/
structure Issue where
  severity : Severity
  kind : IssueKind
  line : Nat := 1
  column : Nat := 1
  message : String
  /-- A hint how to mend it. -/
  details : Option String := none
  /-- What the issue adds to the balance of openers over closers. -/
  delta : Option Int := none
deriving DecidableEq, Inhabited

namespace Issue

/-- The issue is an error. -/
def isError (i : Issue) : Bool :=
  i.severity = .error

/-- The issue as it is shown to a reader. -/
def display (i : Issue) : String :=
  i.severity.label ++ "[" ++ i.kind.label ++ "]: " ++ i.message ++
    s!"\n  --> line {i.line}:{i.column}" ++
    match i.details with
    | some d => "\n  = help: " ++ d
    | none => ""

/-! ## Wording -/

/-- `\begin` or `\end` of an environment, as it is shown in messages. -/
def markerText (command : String) (name : Text) : String :=
  "\\" ++ command ++ "\x7b" ++ String.ofList name ++ "\x7d"

/-- The message about an opener without closer. -/
def openMessage (d : Delimiter) : String :=
  let what :=
    match d with
    | .brace => "opening brace"
    | .bracket => "opening bracket"
    | .inlineMath => "inline math delimiter"
    | .displayMath => "display math delimiter"
    | .parenMath | .bracketMath => "opening math delimiter"
  "unmatched " ++ what ++ " '" ++ d.openText ++ "'"

/-- The message about a closer without opener. -/
def closeMessage (d : Delimiter) : String :=
  let what :=
    match d with
    | .brace => "closing brace"
    | .bracket => "closing bracket"
    | _ => "closing math delimiter"
  "unmatched " ++ what ++ " '" ++ d.closeText ++ "'"

/-- The message about a closer that stands before its opener. -/
def misorderedMessage (d : Delimiter) (opener : Position) : String :=
  "closing '" ++ d.closeText ++ "' appears before its opening '" ++ d.openText ++
    s!"' at line {opener.line}, column {opener.column}"

/-- The issue that reports a finding. -/
def ofFinding (f : Finding) : Issue :=
  let issue : Issue :=
    match f with
    | .unmatchedOpen d _ =>
      { severity := .error
        kind := .ofDelimiter d
        message := openMessage d
        details := some ("add a matching '" ++ d.closeText ++ "'")
        delta := some 1 }
    | .unmatchedClose d _ =>
      { severity := .error
        kind := .ofDelimiter d
        message := closeMessage d
        details := some ("remove it or add the missing '" ++ d.openText ++ "'")
        delta := some (-1) }
    | .misordered d _ opener =>
      { severity := .error
        kind := .misordered d
        message := misorderedMessage d opener }
    | .interrupted env closeName close =>
      { severity := .error
        kind := .environment
        message := markerText "begin" env.name ++ " is closed by " ++
          markerText "end" closeName ++ s!" at line {close.line}"
        details := some
          ("add " ++ markerText "end" env.name ++ s!" before line {close.line}") }
    | .mismatchedEnd name expected expectedLine _ =>
      { severity := .error
        kind := .environment
        message := markerText "end" name ++ " does not match " ++
          markerText "begin" expected ++ s!" opened at line {expectedLine}" }
    | .unmatchedEnd name _ =>
      { severity := .error
        kind := .environment
        message := markerText "end" name ++ " without a matching " ++
          markerText "begin" name }
    | .unclosed env =>
      { severity := if env.name = ScanState.documentName then .error else .warning
        kind := .environment
        message := "unmatched " ++ markerText "begin" env.name ++
          " without corresponding " ++ markerText "end" env.name
        details := some ("add " ++ markerText "end" env.name) }
  { issue with line := f.place.1, column := f.place.2 }

/-! ## Issues about the document as a whole -/

/-- The issue of a document that lacks a part of its skeleton. -/
def ofSkeleton (o : ScanOutcome) : List Issue :=
  if !o.hasDocumentClass then
    [{ severity := .error
       kind := .structure_
       message := "missing \\documentclass"
       details := some "a complete document starts with \\documentclass{...}" }]
  else if o.beginDocument.isNone then
    [{ severity := .error
       kind := .structure_
       message := "missing \\begin{document}" }]
  else []

/-- The issue of a document with text behind its end. -/
def ofTrailing (o : ScanOutcome) : List Issue :=
  match o.documentEnd, o.trailingContent with
  | some stop, some p =>
    [{ severity := .error
       kind := .trailingContent
       line := p.line
       column := p.column
       message := "content after \\end{document}"
       details := some
         (s!"the document ends at line {stop.start.line}; " ++
           "everything after it is ignored") }]
  | _, _ => []

/-- The issues about inclusions of files that are not there. -/
def ofInclusions (known : FileLookup) (o : ScanOutcome) : List Issue :=
  (o.inclusions.filter fun i => !known i.target).map fun i =>
    { severity := .warning
      kind := .include_
      line := i.pos.line
      column := i.pos.column
      message := "included file not found: " ++ markerText i.command.name i.target }

end Issue

end LatexRepair
