import LatexRepair.Title
import LatexRepair.Unicode.Digit

/-!
# Headings

The text blocks of a typeset document and the headings among them. `Heading.read?` reads a
text as a heading: the first form that fits decides on kind, number, title and level. The
forms without a number are tried only on blocks that look like headings, by their type or
the size of their letters.

`sections` lists the headings of a document, each once, by page and number. A heading
belongs to the appendix when its kind says so, or when the appendix was mentioned before
it, in any block that is neither too short nor too long for a heading.
-/

namespace LatexRepair

/-- A block of text on a page. -/
structure TextBlock where
  page : Nat
  text : Text
  /-- What the block was classified as. -/
  blockType : Text := []
  fontSize : Float32 := 0
deriving Inhabited

/-- The kinds of headings. -/
inductive HeadingKind where
  | section_
  | subsection
  | subsubsection
  | appendix
  | appendixSubsection
  | abstract
  | introduction
  | conclusion
  | references
  | acknowledgments
deriving DecidableEq, Inhabited

namespace HeadingKind

/-- Headings of the kind belong to the appendix. -/
def isAppendix : HeadingKind → Bool
  | appendix | appendixSubsection => true
  | _ => false

/-- The name of a kind in messages. -/
def label : HeadingKind → String
  | section_ => "section"
  | subsection => "subsection"
  | subsubsection => "subsubsection"
  | appendix => "appendix"
  | appendixSubsection => "appendix subsection"
  | abstract => "abstract"
  | introduction => "introduction"
  | conclusion => "conclusion"
  | references => "references"
  | acknowledgments => "acknowledgments"

end HeadingKind

/-- What the text of a heading says. -/
structure Heading where
  kind : HeadingKind
  /-- Empty for a heading without number. -/
  number : Text
  title : Text
  level : Nat
deriving DecidableEq, Inhabited

namespace Heading

/-! ## Pieces of headings -/

/-- The digits in front of a text, at least one, and the rest. -/
def digits? (t : Text) : Option (Text × Text) :=
  match t.takeWhile isDecimalDigit with
  | [] => none
  | ds => some (ds, t.drop ds.length)

/-- `count` more numbers in front of a text, each after a dot, and the rest. -/
def dotted? : Nat → Text → Option (Text × Text)
  | 0, t => some ([], t)
  | count + 1, t => do
    let r ← Text.strip? ['.'] t
    let (ds, r') ← digits? r
    let (more, r'') ← dotted? count r'
    some ('.' :: (ds ++ more), r'')

/-- The whole text as a title, if it stands on one line. -/
def line? (t : Text) : Option Text :=
  if '\n' ∈ t then none else some t

/-- The title behind a number: after white space, or after a dot and white space, which may
follow other white space. -/
def spacedTitle? (t : Text) : Option Text := do
  let r := Text.trimStart t
  let title ←
    match r with
    | '.' :: c :: s =>
      if isBlank c then some (Text.trimStart s) else if r = t then none else some r
    | _ => if r = t then none else some r
  if title.isEmpty then none else line? title

/-- The title behind a label: after colons and white space, possibly empty. -/
def labelledTitle? (t : Text) : Option Text :=
  line? (Text.trimStartBy (fun c => c = ':' || isBlank c) t)

/-- White space in front of a text, at least one character, is dropped. -/
def spaces? (t : Text) : Option Text :=
  let r := Text.trimStart t
  if r = t then none else some r

/-- The capital letter in front of a text, and the rest. -/
def capital? : Text → Option (Text × Text)
  | c :: t => if c.isUpper then some ([c], t) else none
  | [] => none

/-! ## The forms of headings -/

/-- A number of `count + 1` parts and a title. -/
def numbered? (count : Nat) (t : Text) : Option (Text × Text) := do
  let (ds, r) ← digits? t
  let (more, r') ← dotted? count r
  let title ← spacedTitle? r'
  some (ds ++ more, title)

/-- `Section`, a number and a title. -/
def labelledSection? (t : Text) : Option (Text × Text) := do
  let r ← Text.strip? "Section".toList t
  let r ← spaces? r
  let (ds, r) ← digits? r
  let title ← labelledTitle? r
  some (ds, title)

/-- A letter, a number and a title. -/
def letteredSubsection? (t : Text) : Option (Text × Text) := do
  let (letter, r) ← capital? t
  let (more, r) ← dotted? 1 r
  let title ← spacedTitle? r
  some (letter ++ more, title)

/-- `Appendix`, a letter and a title. -/
def labelledAppendix? (t : Text) : Option (Text × Text) := do
  let r ← Text.strip? "Appendix".toList t
  let r ← spaces? r
  let (letter, r) ← capital? r
  let title ← labelledTitle? r
  some (letter, title)

/-- A letter, a dot, `Appendix` and a title. -/
def letteredAppendix? (t : Text) : Option (Text × Text) := do
  let (letter, r) ← capital? t
  let r ← Text.strip? ['.'] (Text.trimStart r)
  let r ← Text.strip? "Appendix".toList (Text.trimStart r)
  let title ← labelledTitle? r
  some (letter, title)

/-- The Chinese word for appendix, possibly a letter, and a title. -/
def chineseAppendix? (t : Text) : Option (Text × Text) := do
  let r ← Text.strip? "附录".toList t
  let r := Text.trimStart r
  let (letter, r) := (capital? r).getD ([], r)
  let title ← labelledTitle? r
  some (letter, title)

/-- One of the given words and nothing else. -/
def word? (words : List String) (t : Text) : Option (Text × Text) :=
  if words.any (·.toList = t) then some ([], []) else none

/-- A form of headings: how number and title are read, and what they make. -/
structure Form where
  read? : Text → Option (Text × Text)
  kind : HeadingKind
  level : Nat

/-- The forms with a number, those that say most first. -/
def numberedForms : List Form :=
  [⟨numbered? 2, .subsubsection, 3⟩, ⟨numbered? 1, .subsection, 2⟩, ⟨numbered? 0, .section_, 1⟩,
    ⟨labelledSection?, .section_, 1⟩, ⟨letteredSubsection?, .appendixSubsection, 2⟩,
    ⟨labelledAppendix?, .appendix, 1⟩, ⟨letteredAppendix?, .appendix, 1⟩,
    ⟨chineseAppendix?, .appendix, 1⟩]

/-- The forms without a number. -/
def wordForms : List Form :=
  [⟨word? ["Abstract", "摘要"], .abstract, 0⟩,
    ⟨word? ["Introduction", "引言"], .introduction, 1⟩,
    ⟨word? ["Conclusion", "Conclusions", "结论"], .conclusion, 1⟩,
    ⟨word? ["Reference", "References", "参考文献"], .references, 1⟩,
    ⟨word? ["Acknowledgment", "Acknowledgments", "致谢"], .acknowledgments, 1⟩]

/-- A text read by one form; a heading without title is its own title. -/
def Form.heading? (f : Form) (t : Text) : Option Heading :=
  (f.read? t).map fun (number, title) =>
    let trimmed := Text.trim title
    ⟨f.kind, number, if trimmed.isEmpty then t else trimmed, f.level⟩

/-- The heading that a trimmed text is. -/
def read? (looksLikeHeading : Bool) (t : Text) : Option Heading :=
  (numberedForms ++ if looksLikeHeading then wordForms else []).findSome? (·.heading? t)

end Heading

namespace TextBlock

/-- The text of a block without white space around it, if its length is that of a
heading. -/
def candidate? (b : TextBlock) : Option Text :=
  let t := Text.trim b.text
  if 2 ≤ t.length && t.length ≤ 150 then some t else none

/-- The type of the block or the size of its letters is that of a heading. -/
def looksLikeHeading (b : TextBlock) : Bool :=
  b.blockType = "heading".toList || b.fontSize ≥ 11

/-- The heading that a block is. -/
def heading? (b : TextBlock) : Option Heading :=
  b.candidate?.bind (Heading.read? b.looksLikeHeading)

/-- The block mentions the appendix. -/
def mentionsAppendix (b : TextBlock) : Bool :=
  b.candidate?.any fun t =>
    Text.contains "appendix".toList (Text.toLower t) || Text.contains "附录".toList t

end TextBlock

/-! ## The sections of a document -/

/-- A heading on its page. -/
structure Section where
  kind : HeadingKind
  number : Text
  title : Text
  page : Nat
  level : Nat
  isAppendix : Bool
deriving DecidableEq, Inhabited

namespace Section

/-- What tells sections apart: the kind with the number, or where there is none, with the
title in lower case. -/
def key (s : Section) : HeadingKind × Text :=
  (s.kind, if s.number.isEmpty then Text.toLower s.title else s.number)

/-- The section of a block with the given heading, in the appendix or before it. -/
def ofHeading (inAppendix : Bool) (b : TextBlock) (h : Heading) : Section :=
  ⟨h.kind, h.number, h.title, b.page, h.level, inAppendix || h.kind.isAppendix⟩

/-- The order of sections by page and number. -/
def le (s t : Section) : Bool :=
  s.page < t.page || (s.page = t.page && Text.le s.number t.number)

/-- The sections of blocks, in their order, as far as their keys are not among `seen`; the
appendix may have been mentioned before. -/
def collect (inAppendix : Bool) (seen : List (HeadingKind × Text)) :
    List TextBlock → List Section
  | [] => []
  | b :: bs =>
    let inAppendix := inAppendix || b.mentionsAppendix
    match b.heading? with
    | none => collect inAppendix seen bs
    | some h =>
      let s := ofHeading inAppendix b h
      if s.key ∈ seen then collect inAppendix seen bs
      else s :: collect inAppendix (s.key :: seen) bs

end Section

/-- The sections of a document, each once, by page and number. -/
def sections (blocks : List TextBlock) : List Section :=
  (Section.collect false [] blocks).mergeSort Section.le

end LatexRepair
