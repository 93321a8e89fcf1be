import LatexRepair.Finding
import LatexRepair.Lexeme

/-!
# The scan of a document

One reading of a document from left to right. `ScanState` holds what the reading knows so
far: a stack for each delimiter class, the open environments, and the few facts about the
document as a whole. `ScanState.step` takes in one lexeme, and `scan` folds it over the
lexemes of a document and adds what is left open at the end.

* Square brackets count only outside math: while no math delimiter and no environment
  with a math body is open.
* Of a run of dollar signs, the first closes inline math that is open; otherwise two in a
  row toggle display math, and a single one opens inline math.
* An `\end` closes the innermost open environment of its name. The environments inside it
  are interrupted. When none has its name, it closes the innermost one, which is
  interrupted too.
* The document ends with the first `\end{document}` that closes an environment `document`
  and leaves none open; what follows it is trailing content, unless it is white space or
  comment.
-/

namespace LatexRepair

/-! ## The state of a scan -/

/-- One stack for each delimiter class. -/
structure DelimiterStacks where
  brace : Delimiter.Stack := {}
  bracket : Delimiter.Stack := {}
  inlineMath : Delimiter.Stack := {}
  displayMath : Delimiter.Stack := {}
  parenMath : Delimiter.Stack := {}
  bracketMath : Delimiter.Stack := {}
deriving DecidableEq, Inhabited

namespace DelimiterStacks

/-- The stack of a class. -/
def get (s : DelimiterStacks) : Delimiter → Delimiter.Stack
  | .brace => s.brace
  | .bracket => s.bracket
  | .inlineMath => s.inlineMath
  | .displayMath => s.displayMath
  | .parenMath => s.parenMath
  | .bracketMath => s.bracketMath

/-- Change the stack of one class. -/
def modify (s : DelimiterStacks) (d : Delimiter) (f : Delimiter.Stack → Delimiter.Stack) :
    DelimiterStacks :=
  match d with
  | .brace => { s with brace := f s.brace }
  | .bracket => { s with bracket := f s.bracket }
  | .inlineMath => { s with inlineMath := f s.inlineMath }
  | .displayMath => { s with displayMath := f s.displayMath }
  | .parenMath => { s with parenMath := f s.parenMath }
  | .bracketMath => { s with bracketMath := f s.bracketMath }

@[simp] theorem get_modify_self (s : DelimiterStacks) (d : Delimiter)
    (f : Delimiter.Stack → Delimiter.Stack) : (s.modify d f).get d = f (s.get d) := by
  cases d <;> rfl

theorem get_modify_of_ne (s : DelimiterStacks) {d e : Delimiter} (h : e ≠ d)
    (f : Delimiter.Stack → Delimiter.Stack) : (s.modify d f).get e = s.get e := by
  cases d <;> cases e <;> simp_all [modify, get]

end DelimiterStacks

/-- The end of a document. -/
structure DocumentEnd where
  /-- The place of `\end`. -/
  start : Position
  /-- The number of bytes up to and with the closing brace of the end. -/
  endOffset : Nat
deriving DecidableEq, Inhabited

/-- An inclusion command met outside comments. -/
structure Inclusion where
  command : IncludeCommand
  target : Text
  pos : Position
deriving DecidableEq, Inhabited

/-- What a scan knows after a part of the document. -/
structure ScanState where
  delimiters : DelimiterStacks := {}
  /-- The open environments, innermost first. -/
  environments : List OpenEnvironment := []
  /-- The findings so far, latest first. -/
  findings : List Finding := []
  hasDocumentClass : Bool := false
  /-- The first `\begin{document}`. -/
  beginDocument : Option Position := none
  documentEnd : Option DocumentEnd := none
  /-- The first significant character behind the end of the document. -/
  trailingContent : Option Position := none
  /-- The inclusions so far, latest first. -/
  inclusions : List Inclusion := []
deriving DecidableEq, Inhabited

namespace ScanState

/-- An opener of the class `d`. -/
def openDelimiter (s : ScanState) (d : Delimiter) (p : Position) : ScanState :=
  { s with delimiters := s.delimiters.modify d (·.push p) }

/-- A closer of the class `d`. -/
def closeDelimiter (s : ScanState) (d : Delimiter) (p : Position) : ScanState :=
  { s with delimiters := s.delimiters.modify d (·.pop p) }

/-- A delimiter that closes the class `d` where it is open and opens it elsewhere. -/
def toggleDelimiter (s : ScanState) (d : Delimiter) (p : Position) : ScanState :=
  if (s.delimiters.get d).isOpen then s.closeDelimiter d p else s.openDelimiter d p

/-- Some math is open. -/
def inMath (s : ScanState) : Bool :=
  s.delimiters.inlineMath.isOpen || s.delimiters.displayMath.isOpen ||
    s.delimiters.parenMath.isOpen || s.delimiters.bracketMath.isOpen ||
    s.environments.any fun env => Catalog.mem env.name Catalog.mathEnvironments

/-- A run of `n` dollar signs that starts at `p`. -/
def dollars (s : ScanState) (p : Position) : Nat → ScanState
  | 0 => s
  | 1 => s.toggleDelimiter .inlineMath p
  | n + 2 =>
    if s.delimiters.inlineMath.isOpen then
      (s.closeDelimiter .inlineMath p).dollars (p.next '$') (n + 1)
    else (s.toggleDelimiter .displayMath p).dollars ((p.next '$').next '$') n

/-! ## Environments -/

/-- The name of the environment that holds the text of a document. -/
def documentName : Text :=
  "document".toList

/-- `\begin` of an environment whose body is not verbatim. -/
def openEnvironment (s : ScanState) (name : Text) (p : Position) : ScanState :=
  { s with
    environments := ⟨name, p.line, p.column⟩ :: s.environments
    beginDocument :=
      if name = documentName then s.beginDocument.or (some p) else s.beginDocument }

/-- How the end of an environment `name` splits the open environments, innermost first:
those that it interrupts, the one of its name that it closes, and those that stay open. -/
def splitAtEnd (name : Text) (open_ : List OpenEnvironment) :
    List OpenEnvironment × Option OpenEnvironment × List OpenEnvironment :=
  match open_.findIdx? (·.name = name) with
  | some i => (open_.take i, open_[i]?, open_.drop (i + 1))
  | none => (open_.take 1, none, open_.drop 1)

/-- The findings about the end of an environment `name` at `p`, in the order in which they
are met. -/
def endFindings (name : Text) (p : Position) (open_ : List OpenEnvironment) : List Finding :=
  match open_ with
  | [] => [.unmatchedEnd name p]
  | top :: _ =>
    if top.name = name then []
    else
      (splitAtEnd name open_).1.map (.interrupted · name p) ++
        [.mismatchedEnd name top.name top.line p]

/-- `\end` of an environment, from `p` up to `stop`. -/
def closeEnvironment (s : ScanState) (name : Text) (p stop : Position) : ScanState :=
  let (_, closed, outer) := splitAtEnd name s.environments
  { s with
    environments := outer
    findings := (endFindings name p s.environments).reverse ++ s.findings
    documentEnd :=
      if closed.isSome && name = documentName && outer.isEmpty then
        s.documentEnd.or (some ⟨p, stop.offset⟩)
      else s.documentEnd }

/-! ## Taking in a lexeme -/

/-- Whether a lexeme behind the end of the document counts as content. -/
def isSignificant : Token → Bool
  | .comment => false
  | .plain c => !isBlank c
  | _ => true

/-- Note the first significant lexeme behind the end of the document. -/
def noteTrailing (s : ScanState) (x : Lexeme) : ScanState :=
  if s.documentEnd.isSome && isSignificant x.token then
    { s with trailingContent := s.trailingContent.or (some x.start) }
  else s

/-- What a lexeme opens, closes or declares. -/
def act (s : ScanState) (x : Lexeme) : ScanState :=
  match x.token with
  | .openBrace => s.openDelimiter .brace x.start
  | .closeBrace => s.closeDelimiter .brace x.start
  | .openBracket => if s.inMath then s else s.openDelimiter .bracket x.start
  | .closeBracket => if s.inMath then s else s.closeDelimiter .bracket x.start
  | .controlSymbol '(' => s.openDelimiter .parenMath x.start
  | .controlSymbol ')' => s.closeDelimiter .parenMath x.start
  | .controlSymbol '[' => s.openDelimiter .bracketMath x.start
  | .controlSymbol ']' => s.closeDelimiter .bracketMath x.start
  | .dollars n => s.dollars x.start n
  | .documentClass => { s with hasDocumentClass := true }
  | .beginEnvironment name => s.openEnvironment name x.start
  | .endEnvironment name => s.closeEnvironment name x.start x.stop
  | .verbatim name false =>
    { s with findings := .unclosed ⟨name, x.start.line, x.start.column⟩ :: s.findings }
  | .inclusion command target =>
    { s with inclusions := ⟨command, target, x.start⟩ :: s.inclusions }
  | _ => s

/-- Take in one lexeme. -/
def step (s : ScanState) (x : Lexeme) : ScanState :=
  (s.noteTrailing x).act x

/-- Take in a sequence of lexemes. -/
def run (s : ScanState) (xs : List Lexeme) : ScanState :=
  xs.foldl step s

/-- All findings of a document that ends in this state. -/
def allFindings (s : ScanState) : List Finding :=
  s.findings.reverse ++ Delimiter.all.flatMap (fun d => Finding.ofStack d (s.delimiters.get d)) ++
    s.environments.reverse.map .unclosed

end ScanState

/-! ## The outcome -/

/-- What a scan reports about a document. -/
structure ScanOutcome where
  /-- By line and column. -/
  findings : List Finding
  hasDocumentClass : Bool
  beginDocument : Option Position
  documentEnd : Option DocumentEnd
  trailingContent : Option Position
  inclusions : List Inclusion
deriving DecidableEq, Inhabited

/-- The outcome of a scan that ends in this state. -/
def ScanState.finish (s : ScanState) : ScanOutcome where
  findings := Finding.sort s.allFindings
  hasDocumentClass := s.hasDocumentClass
  beginDocument := s.beginDocument
  documentEnd := s.documentEnd
  trailingContent := s.trailingContent
  inclusions := s.inclusions.reverse

/-- Scan a document. -/
def scan (t : Text) : ScanOutcome :=
  (ScanState.run {} (Lexeme.lexemes t)).finish

/-- The number of bytes up to the end of the document, if it has one. -/
def firstDocumentEnd? (t : Text) : Option Nat :=
  (scan t).documentEnd.map (·.endOffset)

end LatexRepair
