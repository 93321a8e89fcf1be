import LatexRepair.Proofs.FixAccount
import LatexRepair.Proofs.MarkerReading
import Mathlib.Logic.Relation

/-!
# Edits of markup

What a guided repair may do to a rendition, one edit at a time. An edit of a line takes an
end of the document or a run of percent signs out of it, puts the intro of a comment of the
guide in front of it, or inserts or deletes one closing brace or one blank character
(`LineEdit`). An edit of a document is an edit of one of its lines, or the insertion of a
line with an end that is live in the guide (`MarkupEdit`).

The rules for lines make no other edits (`LineRepair.lineEdits_repairLine`). Edits of lines
are edits of the document that the lines make up (`markupEdits_of_lines`), also when a line
that they leave blank is dropped (`markupEdits_drop_blank`).
-/

namespace LatexRepair

open Relation

/-- One edit of the markup of a text that starts where a line starts. -/
inductive LineEdit (guide : Text) : Text → Text → Prop where
  /-- An end of the document goes, with the white space in it. -/
  | dropTerminator (a b : Text) (s : Marker.Spelling) (h : s.marker = .endDocument) :
      LineEdit guide (a ++ (s.text ++ b)) (a ++ b)
  /-- A run of percent signs goes, with the spaces and tabs behind it. -/
  | dropPercents (a b run : Text) (h : percentRun? (run ++ b) = some run) :
      LineEdit guide (a ++ (run ++ b)) (a ++ b)
  /-- The intro of a comment of the guide comes to stand in front. -/
  | insertIntro (t g intro : Text) (hg : g ∈ Text.lines guide) (h : commentIntro? g = some intro) :
      LineEdit guide t (intro ++ t)
  | insertBrace (a b : Text) : LineEdit guide (a ++ b) (a ++ '}' :: b)
  | dropBrace (a b : Text) : LineEdit guide (a ++ '}' :: b) (a ++ b)
  | insertBlank (a b : Text) (c : Char) (h : isBlank c = true) :
      LineEdit guide (a ++ b) (a ++ c :: b)
  | dropBlank (a b : Text) (c : Char) (h : isBlank c = true) :
      LineEdit guide (a ++ c :: b) (a ++ b)

/-- One edit of the markup of a document. -/
inductive MarkupEdit (guide : Text) : Text → Text → Prop where
  /-- One of its lines is edited. -/
  | line (before behind : List Text) {t u : Text} (h : LineEdit guide t u) :
      MarkupEdit guide (Text.unlines (before ++ t :: behind)) (Text.unlines (before ++ u :: behind))
  /-- A line with an end that is live in the guide is inserted. -/
  | insertEnd (before behind : List Text) (m : Marker) (hkind : m.kind = .closing)
      (hlive : ∃ g ∈ Text.lines guide, ∃ x ∈ liveMarkers g, x.marker = m) :
      MarkupEdit guide (Text.unlines (before ++ behind)) (Text.unlines (before ++ m.text :: behind))

/-- Edits of a line, one after another. -/
abbrev LineEdits (guide : Text) : Text → Text → Prop :=
  ReflTransGen (LineEdit guide)

/-- Edits of a document, one after another. -/
abbrev MarkupEdits (guide : Text) : Text → Text → Prop :=
  ReflTransGen (MarkupEdit guide)

variable {guide : Text}

/-! ## White space -/

namespace Text

/-- A text without its trailing white space. -/
theorem exists_trimEnd (t : Text) :
    ∃ s, t = trimEnd t ++ s ∧ ∀ c ∈ s, isBlank c = true := by
  refine ⟨(t.reverse.takeWhile isBlank).reverse, ?_, fun c hc =>
    List.mem_takeWhile_imp (List.mem_reverse.1 hc)⟩
  rw [trimEnd, trimEndBy, ← List.reverse_append, List.takeWhile_append_dropWhile,
    List.reverse_reverse]

/-- A text without the white space around it. -/
theorem exists_trim (t : Text) :
    ∃ a b, t = a ++ (trim t ++ b) ∧ (∀ c ∈ a, isBlank c = true) ∧ ∀ c ∈ b, isBlank c = true := by
  obtain ⟨b, hb, hblank⟩ := exists_trimEnd (trimStart t)
  refine ⟨t.takeWhile isBlank, b, ?_, fun _ => List.mem_takeWhile_imp, hblank⟩
  rw [trim, ← hb]
  exact List.takeWhile_append_dropWhile.symm

theorem mem_trim_or_isBlank {t : Text} {c : Char} (h : c ∈ t) : c ∈ trim t ∨ isBlank c = true := by
  obtain ⟨a, b, ht, ha, hb⟩ := exists_trim t
  rw [ht, List.mem_append, List.mem_append] at h
  rcases h with h | h | h
  · exact .inr (ha c h)
  · exact .inl h
  · exact .inr (hb c h)

end Text

/-- White space goes, one character after another. -/
theorem lineEdits_drop_blanks (a s b : Text) (h : ∀ c ∈ s, isBlank c = true) :
    LineEdits guide (a ++ (s ++ b)) (a ++ b) := by
  induction s with
  | nil => exact .refl
  | cons c s ih =>
    obtain ⟨hc, hs⟩ := List.forall_mem_cons.1 h
    exact .head (.dropBlank a (s ++ b) c hc) (ih hs)

/-! ## Edits of the rules for lines -/

/-- The usual way to write the end of the document. -/
def Marker.Spelling.terminator : Marker.Spelling where
  kind := .closing
  blanks := []
  name := "document".toList
  blank := by simp
  nameChar := List.all_eq_true.1 (by decide)
  ne_nil := by decide

theorem Marker.Spelling.text_terminator :
    Marker.Spelling.terminator.text = LatexRepair.terminator := by
  decide

theorem Marker.Spelling.marker_terminator :
    Marker.Spelling.terminator.marker = .endDocument := by
  decide

/-- A run of percent signs holds percent signs, spaces and tabs. -/
theorem mem_of_percentRun? {t run : Text} (h : percentRun? t = some run) :
    ∀ c ∈ run, c = '%' ∨ isSpaceOrTab c = true := by
  unfold percentRun? at h
  split at h
  · cases h
  · obtain rfl := Option.some.inj h
    intro c hc
    rcases List.mem_append.1 hc with hc | hc
    · exact .inl (by simpa using List.mem_takeWhile_imp hc)
    · exact .inr (List.mem_takeWhile_imp hc)

/-- The intro of a comment holds percent signs and white space. -/
theorem mem_of_commentIntro? {line intro : Text} (h : commentIntro? line = some intro) :
    ∀ c ∈ intro, c = '%' ∨ isBlank c = true := by
  obtain ⟨run, hrun, rfl⟩ := Option.map_eq_some_iff.1 h
  intro c hc
  rcases List.mem_append.1 hc with hc | hc
  · exact .inr (isBlank_of_mem_indentation hc)
  · exact (mem_of_percentRun? hrun c hc).imp_right isBlank_of_isSpaceOrTab

/-- What a percent run is a run of, behind the text before it. -/
theorem LineRepair.percentRun?_append {t run : Text} (h : percentRun? t = some run) :
    ∃ r, t = run ++ r ∧ percentRun? (run ++ r) = some run := by
  obtain ⟨r, rfl, -⟩ := exists_append_of_percentRun? h
  exact ⟨r, rfl, h⟩

/-- A hidden marker stands behind percent signs, which open the comment of its line. -/
theorem exists_around_hiddenMarker {t : Text} {hidden : HiddenMarker}
    (h : hiddenMarker? t = some hidden) :
    ∃ run r, t = codePart t ++ (run ++ r) ∧ percentRun? (run ++ r) = some run ∧
      hidden.start = (codePart t).length ∧ hidden.stop = (codePart t).length + run.length := by
  obtain ⟨start, hstart, h⟩ := Option.bind_eq_some_iff.1 h
  obtain ⟨run, hrun, h⟩ := Option.bind_eq_some_iff.1 h
  obtain ⟨m, -, h⟩ := Option.bind_eq_some_iff.1 h
  obtain rfl := Option.some.inj h
  obtain ⟨-, rfl⟩ : _ ∧ (codePart t).length = start := by simpa [commentStart?] using hstart
  obtain ⟨r, hr, hrun⟩ := LineRepair.percentRun?_append hrun
  refine ⟨run, r, ?_, hrun, rfl, rfl⟩
  conv => lhs; rw [← codePart_append_comment t, commentPart, hr]

namespace LineRepair

variable {t g : Text} {e : Edit} {f : LineFix}

theorem lineEdits_of_removeTerminator? (h : removeTerminator? t g = some (e, f)) :
    LineEdits guide t (e.apply t) := by
  obtain ⟨a, b, r, ht, -, rfl⟩ := exists_around_terminator h
  rw [ht, apply_delete_append, ← Marker.Spelling.text_terminator]
  exact .single (.dropTerminator a (b ++ r) _ Marker.Spelling.marker_terminator)

theorem lineEdits_of_uncommentMarker? (h : uncommentMarker? t g = some (e, f)) :
    LineEdits guide t (e.apply t) := by
  obtain ⟨hidden, hh, -, rfl, -⟩ := of_uncommentMarker? h
  obtain ⟨run, r, ht, hrun, hstart, hstop⟩ := exists_around_hiddenMarker hh
  rw [hstart, hstop]
  generalize codePart t = code at ht
  rw [ht, apply_delete_append]
  exact .single (.dropPercents code r run hrun)

theorem lineEdits_of_uncommentCommand? (h : uncommentCommand? t g = some (e, f)) :
    LineEdits guide t (e.apply t) := by
  obtain ⟨-, -, name, intro, -, hintro, -, rfl, -⟩ := of_uncommentCommand? h
  obtain ⟨run, hrun, rfl⟩ := Option.map_eq_some_iff.1 hintro
  obtain ⟨r, hr, hrun⟩ := percentRun?_append hrun
  have ht : t = indentation t ++ (run ++ r) := by rw [← hr, indentation_append_trimStart]
  rw [List.length_append]
  generalize indentation t = indent at ht
  rw [ht, apply_delete_append]
  exact .single (.dropPercents indent r run hrun)

theorem lineEdits_of_restoreComment? (hg : g ∈ Text.lines guide)
    (h : restoreComment? t g = some (e, f)) : LineEdits guide t (e.apply t) := by
  obtain ⟨-, -, -, intro, hintro, -, rfl, -⟩ := of_restoreComment? h
  have happly : (⟨0, (indentation t).length, intro⟩ : Edit).apply t =
      intro ++ t.drop (indentation t).length := by simp [Edit.apply]
  have hdrop : LineEdits guide _ _ := lineEdits_drop_blanks [] (indentation t)
    (t.drop (indentation t).length) fun c hc => isBlank_of_mem_indentation hc
  rw [List.nil_append, List.nil_append, indentation, takeWhile_append_drop] at hdrop
  rw [happly]
  exact hdrop.tail (.insertIntro _ g intro hg hintro)

theorem lineEdits_insertBrace (t : Text) (i : Nat) :
    LineEdits guide t ((Edit.insert i ['}']).apply t) := by
  have h : LineEdit guide _ _ := .insertBrace (t.take i) (t.drop i)
  rw [List.take_append_drop] at h
  rw [Edit.apply_insert]
  exact .single h

theorem lineEdits_of_rebalance? (h : rebalance? t g = some (e, f)) :
    LineEdits guide t (e.apply t) := by
  rcases (of_rebalance? h).2 with ⟨-, ⟨i, rfl⟩, -⟩ | ⟨-, ⟨x, hx, hclose, rfl⟩, -⟩
  · exact lineEdits_insertBrace t i
  · obtain ⟨a, b, r, ht, -, -, -, -, hedit⟩ := exists_code_around_closer hx hclose
    rw [hedit, ht]
    exact .single (.dropBrace a (b ++ r))

/-- Every rule for a line edits its markup. -/
theorem lineEdits_of_rule? (hg : g ∈ Text.lines guide) (h : rule? t g = some (e, f)) :
    LineEdits guide t (e.apply t) := by
  rcases of_rule? h with h | h | h | h | h
  · exact lineEdits_of_removeTerminator? h
  · exact lineEdits_of_uncommentMarker? h
  · exact lineEdits_of_uncommentCommand? h
  · exact lineEdits_of_restoreComment? hg h
  · exact lineEdits_of_rebalance? h

theorem lineEdits_rounds (hg : g ∈ Text.lines guide) (n : Nat) (t : Text) :
    LineEdits guide t (rounds n t g).1 := by
  induction n generalizing t with
  | zero => exact .refl
  | succ n ih =>
    rw [rounds]
    split
    · exact .refl
    · rename_i u fix hstep
      obtain ⟨-, e, hrule, rfl⟩ := step?_eq_some hstep
      exact (lineEdits_of_rule? hg hrule).trans (ih _)

/-- So does the repair of a line. -/
theorem lineEdits_repairLine (hg : g ∈ Text.lines guide) (t : Text) :
    LineEdits guide t (repairLine t g).1 :=
  lineEdits_rounds hg maxRounds t

end LineRepair

/-! ## Edits of documents -/

namespace Text

theorem unlines_singleton (l : Text) : unlines [l] = l :=
  List.intercalate_singleton

theorem unlines_append {ls ms : List Text} (hl : ls ≠ []) (hm : ms ≠ []) :
    unlines (ls ++ ms) = unlines ls ++ '\n' :: unlines ms := by
  obtain ⟨m, ms, rfl⟩ := List.exists_cons_of_ne_nil hm
  induction ls with
  | nil => exact absurd rfl hl
  | cons l ls ih =>
    cases ls with
    | nil => simp [unlines, List.intercalate_cons_cons]
    | cons k ls =>
      have hrest := ih (List.cons_ne_nil _ _)
      simp only [unlines, List.cons_append, List.intercalate_cons_cons] at hrest ⊢
      simp [hrest]

theorem unlines_nil_cons {ls : List Text} (h : ls ≠ []) : unlines ([] :: ls) = '\n' :: unlines ls :=
  unlines_append (List.cons_ne_nil [] []) h

end Text

/-- Edits of a text that is the whole document. -/
theorem markupEdits_of_lineEdits {t u : Text} (h : LineEdits guide t u) :
    MarkupEdits guide t u := by
  refine h.lift id fun x y hxy => ?_
  have hline := MarkupEdit.line [] [] hxy
  rwa [List.nil_append, List.nil_append, Text.unlines_singleton, Text.unlines_singleton] at hline

/-- Edits of one line. -/
theorem markupEdits_of_line {t u : Text} (h : LineEdits guide t u) (before behind : List Text) :
    MarkupEdits guide (Text.unlines (before ++ t :: behind))
      (Text.unlines (before ++ u :: behind)) :=
  h.lift (fun x => Text.unlines (before ++ x :: behind)) fun _ _ => .line before behind

/-- Edits of lines that stand behind others. -/
theorem markupEdits_of_lines {ts us : List Text} (h : List.Forall₂ (LineEdits guide) ts us)
    (before : List Text) :
    MarkupEdits guide (Text.unlines (before ++ ts)) (Text.unlines (before ++ us)) := by
  induction h generalizing before with
  | nil => exact .refl
  | @cons t u ts us htu _ ih =>
    have hrest := ih (before ++ [u])
    simp only [List.append_assoc, List.singleton_append] at hrest
    exact (markupEdits_of_line htu before ts).trans hrest

/-- The newline around an empty line goes with it. -/
theorem markupEdits_drop_newline (a b : Text) : MarkupEdits guide (a ++ '\n' :: b) (a ++ b) :=
  markupEdits_of_lineEdits (.single (.dropBlank a b '\n' (by decide)))

/-- A blank line goes. -/
theorem markupEdits_drop_blank {line : Text} (h : Text.isBlankText line = true)
    (before behind : List Text) :
    MarkupEdits guide (Text.unlines (before ++ line :: behind))
      (Text.unlines (before ++ behind)) := by
  have hempty : LineEdits guide line [] := by
    simpa using lineEdits_drop_blanks [] line [] (List.all_eq_true.1 h)
  refine (markupEdits_of_line hempty before behind).trans ?_
  rcases eq_or_ne before [] with rfl | hb <;> rcases eq_or_ne behind [] with rfl | hm
  · exact .refl
  · have hdrop : MarkupEdits guide _ _ := markupEdits_drop_newline [] (Text.unlines behind)
    rwa [← Text.unlines_nil_cons hm] at hdrop
  · have hdrop : MarkupEdits guide _ _ := markupEdits_drop_newline (Text.unlines before) []
    rw [List.append_nil, ← Text.unlines_singleton [],
      ← Text.unlines_append hb (List.cons_ne_nil _ _)] at hdrop
    rwa [List.append_nil]
  · have hdrop : MarkupEdits guide _ _ := markupEdits_drop_newline (Text.unlines before)
      ('\n' :: Text.unlines behind)
    rwa [← Text.unlines_append hb hm, ← Text.unlines_nil_cons hm,
      ← Text.unlines_append hb (List.cons_ne_nil _ _)] at hdrop

end LatexRepair
