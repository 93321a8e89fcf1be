import LatexRepair.Validation
import LatexRepair.Proofs.Reading
import LatexRepair.Proofs.ScanSteps
import Mathlib.Data.List.Forall2

/-!
# Scanning behind an insertion

An `Insertion` puts text into a document before a line, and what stands from that line on
moves on by a number of lines and of bytes. Everything that a scan keeps or reports moves
with the places in it : positions, findings, stacks, the state as a whole and its outcome.

A scan does not look at places, so it does the same on lexemes that have moved :
`ScanState.move_step` says so for one lexeme, `ScanState.move_run` for a sequence of them,
and `ScanState.move_finish` for what is reported at the end. The lexemes of a text that
starts behind the insertion move with its start (`Lexeme.forall₂_moved_lexemesFrom`).
-/

namespace LatexRepair

/-- Text of so many `lines` and `bytes` is put in before a line. -/
structure Insertion where
  /-- The first line that moves. -/
  line : Nat
  lines : Nat
  bytes : Nat

/-! ## What moves -/

namespace Insertion

variable (i : Insertion)

/-- Where a line moves. -/
def moveLine (l : Nat) : Nat :=
  if i.line ≤ l then l + i.lines else l

/-- Where the offset of something that starts in the line `l` moves. -/
def moveOffset (l offset : Nat) : Nat :=
  if i.line ≤ l then offset + i.bytes else offset

end Insertion

variable (i : Insertion)

/-- Where a place moves. -/
def Position.move (p : Position) : Position :=
  ⟨i.moveLine p.line, p.column, i.moveOffset p.line p.offset⟩

/-- Where an open environment moves. -/
def OpenEnvironment.move (env : OpenEnvironment) : OpenEnvironment :=
  { env with line := i.moveLine env.line }

/-- Where a finding moves, with the other places that it names. -/
def Finding.move : Finding → Finding
  | unmatchedOpen d p => unmatchedOpen d (p.move i)
  | unmatchedClose d p => unmatchedClose d (p.move i)
  | misordered d closer opener => misordered d (closer.move i) (opener.move i)
  | interrupted env name p => interrupted (env.move i) name (p.move i)
  | mismatchedEnd name expected line p => mismatchedEnd name expected (i.moveLine line) (p.move i)
  | unmatchedEnd name p => unmatchedEnd name (p.move i)
  | unclosed env => unclosed (env.move i)

/-- Where the end of a document moves. -/
def DocumentEnd.move (e : DocumentEnd) : DocumentEnd :=
  ⟨e.start.move i, i.moveOffset e.start.line e.endOffset⟩

/-- Where an inclusion moves. -/
def Inclusion.move (x : Inclusion) : Inclusion :=
  { x with pos := x.pos.move i }

/-- Where the delimiters of a stack move. -/
def Delimiter.Stack.move (s : Delimiter.Stack) : Delimiter.Stack :=
  ⟨s.opens.map (·.move i), s.strays.map (·.move i)⟩

/-- Where the delimiters of all stacks move. -/
def DelimiterStacks.move (s : DelimiterStacks) : DelimiterStacks :=
  ⟨s.brace.move i, s.bracket.move i, s.inlineMath.move i, s.displayMath.move i,
    s.parenMath.move i, s.bracketMath.move i⟩

/-- Where all places that a scan keeps move. -/
def ScanState.move (s : ScanState) : ScanState where
  delimiters := s.delimiters.move i
  environments := s.environments.map (·.move i)
  findings := s.findings.map (·.move i)
  hasDocumentClass := s.hasDocumentClass
  beginDocument := s.beginDocument.map (·.move i)
  documentEnd := s.documentEnd.map (·.move i)
  trailingContent := s.trailingContent.map (·.move i)
  inclusions := s.inclusions.map (·.move i)

/-- Where all places that a scan reports move. -/
def ScanOutcome.move (o : ScanOutcome) : ScanOutcome where
  findings := o.findings.map (·.move i)
  hasDocumentClass := o.hasDocumentClass
  beginDocument := o.beginDocument.map (·.move i)
  documentEnd := o.documentEnd.map (·.move i)
  trailingContent := o.trailingContent.map (·.move i)
  inclusions := o.inclusions.map (·.move i)

/-- The lexeme `y` is the lexeme `x` where it has moved. -/
structure Lexeme.Moved (x y : Lexeme) : Prop where
  token : y.token = x.token
  start : y.start = x.start.move i
  stop : y.stop.offset = i.moveOffset x.start.line x.stop.offset

/-! ## Delimiters -/

variable {i}

theorem Position.move_next {p : Position} {c : Char} (h : c ≠ '\n') :
    (p.next c).move i = (p.move i).next c := by
  simp only [next, h, move, Insertion.moveOffset, ↓reduceIte]
  split <;> simp
  omega

theorem Delimiter.Stack.move_pop (s : Stack) (p : Position) :
    (s.pop p).move i = (s.move i).pop (p.move i) := by
  obtain ⟨opens, strays⟩ := s
  cases opens <;> rfl

namespace DelimiterStacks

variable (s : DelimiterStacks) (d : Delimiter)

theorem get_move : (s.move i).get d = (s.get d).move i := by
  cases d <;> rfl

theorem isOpen_get_move : ((s.move i).get d).isOpen = (s.get d).isOpen := by
  simp [get_move, Delimiter.Stack.move, Delimiter.Stack.isOpen]

theorem move_modify_push (p : Position) :
    (s.modify d (·.push p)).move i = (s.move i).modify d (·.push (p.move i)) := by
  cases d <;> rfl

theorem move_modify_pop (p : Position) :
    (s.modify d (·.pop p)).move i = (s.move i).modify d (·.pop (p.move i)) := by
  cases d <;> simp [modify, move, Delimiter.Stack.move_pop]

end DelimiterStacks

namespace ScanState

variable (s : ScanState)

theorem move_openDelimiter (d : Delimiter) (p : Position) :
    (s.openDelimiter d p).move i = (s.move i).openDelimiter d (p.move i) := by
  simp [openDelimiter, move, DelimiterStacks.move_modify_push]

theorem move_closeDelimiter (d : Delimiter) (p : Position) :
    (s.closeDelimiter d p).move i = (s.move i).closeDelimiter d (p.move i) := by
  simp [closeDelimiter, move, DelimiterStacks.move_modify_pop]

theorem isOpen_get_delimiters_move (d : Delimiter) :
    ((s.move i).delimiters.get d).isOpen = (s.delimiters.get d).isOpen :=
  s.delimiters.isOpen_get_move d

theorem move_toggleDelimiter (d : Delimiter) (p : Position) :
    (s.toggleDelimiter d p).move i = (s.move i).toggleDelimiter d (p.move i) := by
  unfold toggleDelimiter
  rw [isOpen_get_delimiters_move]
  split
  · exact s.move_closeDelimiter d p
  · exact s.move_openDelimiter d p

theorem move_dollars (p : Position) (n : Nat) :
    (s.dollars p n).move i = (s.move i).dollars (p.move i) n := by
  have hne : ('$' : Char) ≠ '\n' := by decide
  induction s, p, n using dollars.induct with
  | case1 s p => rfl
  | case2 s p => exact s.move_toggleDelimiter .inlineMath p
  | case3 s p n h ih =>
    have h' : (s.move i).delimiters.inlineMath.isOpen = s.delimiters.inlineMath.isOpen :=
      s.isOpen_get_delimiters_move .inlineMath
    rw [dollars, dollars, if_pos h, if_pos (h'.trans h), ih, move_closeDelimiter,
      Position.move_next hne]
  | case4 s p n h ih =>
    have h' : (s.move i).delimiters.inlineMath.isOpen = s.delimiters.inlineMath.isOpen :=
      s.isOpen_get_delimiters_move .inlineMath
    rw [dollars, dollars, if_neg h, if_neg (h' ▸ h), ih, move_toggleDelimiter,
      Position.move_next hne, Position.move_next hne]

theorem inMath_move : (s.move i).inMath = s.inMath := by
  have h := s.isOpen_get_delimiters_move (i := i)
  unfold inMath
  rw [show (s.move i).delimiters.inlineMath.isOpen = _ from h .inlineMath,
    show (s.move i).delimiters.displayMath.isOpen = _ from h .displayMath,
    show (s.move i).delimiters.parenMath.isOpen = _ from h .parenMath,
    show (s.move i).delimiters.bracketMath.isOpen = _ from h .bracketMath]
  simp [move, OpenEnvironment.move, List.any_map, Function.comp_def, DelimiterStacks.get]

/-! ## Environments -/

theorem move_openEnvironment (name : Text) (p : Position) :
    (s.openEnvironment name p).move i = (s.move i).openEnvironment name (p.move i) := by
  obtain ⟨_, _, _, _, beginDocument, _, _, _⟩ := s
  simp only [openEnvironment, move]
  split
  · cases beginDocument <;> rfl
  · rfl

theorem splitAtEnd_map_move (name : Text) (open_ : List OpenEnvironment) :
    splitAtEnd name (open_.map (·.move i)) =
      ((splitAtEnd name open_).1.map (·.move i), (splitAtEnd name open_).2.1.map (·.move i),
        (splitAtEnd name open_).2.2.map (·.move i)) := by
  have hfind : (open_.map (·.move i)).findIdx? (·.name = name) =
      open_.findIdx? (·.name = name) := by
    rw [List.findIdx?_map]
    rfl
  unfold splitAtEnd
  rw [hfind]
  split <;> simp

theorem endFindings_map_move (name : Text) (p : Position) (open_ : List OpenEnvironment) :
    endFindings name (p.move i) (open_.map (·.move i)) =
      (endFindings name p open_).map (·.move i) := by
  cases open_ with
  | nil => rfl
  | cons top outer =>
    rw [List.map_cons, endFindings, endFindings, ← List.map_cons, splitAtEnd_map_move]
    by_cases h : top.name = name
    · rw [if_pos h, if_pos (show (top.move i).name = name from h)]
      rfl
    · rw [if_neg h, if_neg (show (top.move i).name ≠ name from h)]
      simp [Function.comp_def, Finding.move, OpenEnvironment.move]

theorem move_closeEnvironment (name : Text) (p stop stop' : Position)
    (h : stop'.offset = i.moveOffset p.line stop.offset) :
    (s.closeEnvironment name p stop).move i =
      (s.move i).closeEnvironment name (p.move i) stop' := by
  simp only [closeEnvironment, move, splitAtEnd_map_move, endFindings_map_move,
    List.map_append, List.map_reverse, Option.isSome_map, List.isEmpty_map]
  split
  · cases hend : s.documentEnd <;> simp [DocumentEnd.move, h]
  · rfl

/-! ## Taking in lexemes -/

variable {s} {x y : Lexeme}

theorem move_noteTrailing (h : x.Moved i y) :
    (s.noteTrailing x).move i = (s.move i).noteTrailing y := by
  have hend : (s.move i).documentEnd.isSome = s.documentEnd.isSome := by
    simp [move]
  unfold noteTrailing
  rw [hend, h.token]
  split
  · cases htrailing : s.trailingContent <;> simp [move, htrailing, h.start]
  · rfl

theorem move_act (h : x.Moved i y) : (s.act x).move i = (s.move i).act y := by
  obtain ⟨token, start, stop⟩ := x
  obtain ⟨token', start', stop'⟩ := y
  obtain ⟨htoken, hstart, hstop⟩ := h
  dsimp only at htoken hstart hstop
  subst htoken hstart
  unfold act
  cases token' with
  | openBrace => exact s.move_openDelimiter .brace start
  | closeBrace => exact s.move_closeDelimiter .brace start
  | openBracket =>
    simp only [inMath_move]
    split
    · rfl
    · exact s.move_openDelimiter .bracket start
  | closeBracket =>
    simp only [inMath_move]
    split
    · rfl
    · exact s.move_closeDelimiter .bracket start
  | controlSymbol c =>
    induction c using Token.mathSymbol_cases with
    | openParen => exact s.move_openDelimiter .parenMath start
    | closeParen => exact s.move_closeDelimiter .parenMath start
    | openBracket => exact s.move_openDelimiter .bracketMath start
    | closeBracket => exact s.move_closeDelimiter .bracketMath start
    | other c h₁ h₂ h₃ h₄ => simp [h₁, h₂, h₃, h₄]
  | dollars n => exact s.move_dollars start n
  | beginEnvironment name => exact s.move_openEnvironment name start
  | endEnvironment name => exact s.move_closeEnvironment name start stop stop' hstop
  | verbatim name closed => cases closed <;> rfl
  | _ => rfl

/-- A scan does the same on a lexeme that has moved. -/
theorem move_step (h : x.Moved i y) : (s.step x).move i = (s.move i).step y := by
  rw [step, step, move_act h, move_noteTrailing h]

theorem move_run {xs ys : List Lexeme} (h : List.Forall₂ (Lexeme.Moved i) xs ys) :
    (s.run xs).move i = (s.move i).run ys := by
  induction h generalizing s with
  | nil => rfl
  | cons hx _ ih =>
    rw [run, run, List.foldl_cons, List.foldl_cons, ← move_step hx]
    exact ih

end ScanState

/-! ## What is reported -/

theorem Finding.map_move_ofStack (d : Delimiter) (s : Delimiter.Stack) :
    (ofStack d s).map (·.move i) = ofStack d (s.move i) := by
  have hcount : (s.move i).misplacedCount = s.misplacedCount := by
    simp [Delimiter.Stack.misplacedCount, Delimiter.Stack.move]
  unfold ofStack Delimiter.Stack.loneCloses Delimiter.Stack.misplaced Delimiter.Stack.loneOpens
  rw [hcount]
  simp [Delimiter.Stack.move, Function.comp_def, Finding.move, ← List.map_reverse, List.zip_map,
    ← List.map_take, ← List.map_drop]

theorem ScanState.map_move_allFindings (s : ScanState) :
    s.allFindings.map (·.move i) = (s.move i).allFindings := by
  have hstacks : (Delimiter.all.flatMap fun d => Finding.ofStack d (s.delimiters.get d)).map
      (·.move i) =
        Delimiter.all.flatMap fun d => Finding.ofStack d ((s.move i).delimiters.get d) := by
    rw [List.map_flatMap]
    refine congrArg (Delimiter.all.flatMap ·) (funext fun d => ?_)
    rw [Finding.map_move_ofStack]
    exact congrArg _ (s.delimiters.get_move d).symm
  rw [allFindings, allFindings, List.map_append, List.map_append, hstacks]
  simp [move, Function.comp_def, Finding.move]

theorem Finding.place_move (f : Finding) :
    (f.move i).place = (i.moveLine f.place.1, f.place.2) := by
  cases f <;> rfl

/-- The order of the lines stays. -/
theorem Position.le_moveLine (p q : Nat × Nat) :
    le (i.moveLine p.1, p.2) (i.moveLine q.1, q.2) = le p q := by
  have hlt : i.moveLine p.1 < i.moveLine q.1 ↔ p.1 < q.1 := by
    unfold Insertion.moveLine
    split <;> split <;> omega
  have heq : i.moveLine p.1 = i.moveLine q.1 ↔ p.1 = q.1 := by
    unfold Insertion.moveLine
    split <;> split <;> omega
  simp [le, hlt, heq]

theorem Finding.map_move_sort (fs : List Finding) :
    (sort fs).map (·.move i) = sort (fs.map (·.move i)) :=
  List.map_mergeSort fun f _ g _ => by
    rw [place_move, place_move, Position.le_moveLine]

/-- A scan that has moved reports the same where it has moved. -/
theorem ScanState.move_finish (s : ScanState) : s.finish.move i = (s.move i).finish := by
  unfold finish ScanOutcome.move
  rw [Finding.map_move_sort, map_move_allFindings]
  simp [move]

/-! ## The lexemes behind an insertion -/

theorem Position.move_next_of_le {p : Position} (h : i.line ≤ p.line) (c : Char) :
    (p.next c).move i = (p.move i).next c := by
  by_cases hc : c = '\n'
  · have h' : i.line ≤ p.line + 1 := h.trans (Nat.le_succ _)
    simp only [next, hc, ↓reduceIte, move, Insertion.moveLine, Insertion.moveOffset, h, h',
      Position.mk.injEq, true_and]
    omega
  · exact move_next hc

theorem Position.move_after {p : Position} (h : i.line ≤ p.line) (t : Text) :
    (p.after t).move i = (p.move i).after t := by
  induction t generalizing p with
  | nil => rfl
  | cons c t ih =>
    rw [after_cons, after_cons, ← move_next_of_le h]
    exact ih (h.trans (p.line_le_next c))

theorem Lexeme.forall₂_moved_lexemesFrom {p : Position} (h : i.line ≤ p.line) (t : Text) :
    List.Forall₂ (Moved i) (lexemesFrom p t) (lexemesFrom (p.move i) t) := by
  induction p, t using lexemesFrom.induct with
  | case1 p =>
    rw [lexemesFrom, lexemesFrom]
    exact .nil
  | case2 p c t token n hlex stop ih =>
    have hle : p.line ≤ stop.line := (p.line_le_next c).trans (Position.line_le_after _ _)
    have hstop : stop.move i = ((p.move i).next c).after (t.take n) := by
      rw [← Position.move_next_of_le h, ← Position.move_after (h.trans (p.line_le_next c))]
    rw [lexemesFrom_cons, lexemesFrom_cons, hlex, ← hstop]
    refine .cons ⟨rfl, rfl, ?_⟩ (ih (h.trans hle))
    simp only [Position.move, Insertion.moveOffset, h, h.trans hle, ↓reduceIte]
    rfl

end LatexRepair
