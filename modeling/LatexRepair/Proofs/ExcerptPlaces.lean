import LatexRepair.Excerpt
import LatexRepair.Proofs.RealPlaces

/-!
# Excerpts and their places

A scan counts lines and columns character by character, and a report cuts the document into lines
anew and drops the carriage return of a line terminator. The two agree on every place where
something can be reported : what stands there is no white space, so it belongs to its line
whatever ends the line (`exists_sourceLine`).

Every issue stands at such a place, unless it is about the document as a whole
(`Issue.exists_place`). So its excerpt shows the line that the issue names, without the line
terminator, and the caret stands under the character that is reported
(`report_validate_pointsAt`) : no excerpt is left out, and no caret is moved to the end of a
shorter line.
-/

namespace LatexRepair

variable {t line : Text} {i : Issue} {p : Position}

/-! ## Lines of a document -/

/-- A line may end with `line` before `rest` : a line terminator follows, which takes in the
carriage return before its newline, or nothing. -/
def EndsLine (line rest : Text) : Prop :=
  (∃ r, rest = '\r' :: '\n' :: r) ∨ (∃ r, rest = '\n' :: r) ∧ line.getLast? ≠ some '\r' ∨ rest = []

/-- The line of `t` with the number `n`, counted from one, is `line`, without its terminator. -/
def IsSourceLine (t : Text) (n : Nat) (line : Text) : Prop :=
  ∃ before rest, t = before ++ (line ++ rest) ∧ (before = [] ∨ before.getLast? = some '\n') ∧
    n = 1 + before.count '\n' ∧ '\n' ∉ line ∧ EndsLine line rest

namespace Text

theorem length_lines (t : Text) : (lines t).length = t.count '\n' + 1 := by
  induction t with
  | nil => rfl
  | cons c t ih =>
    rw [lines, List.splitOn_cons_eq_if_modifyHead]
    by_cases hc : c = '\n'
    · rw [if_pos (by simpa using hc), List.length_cons, ← lines, ih, hc, List.count_cons_self]
    · rw [if_neg (by simpa using hc), List.length_modifyHead, ← lines, ih,
        List.count_cons_of_ne hc]

/-- A piece between newlines has as many pieces before it as newlines. -/
theorem exists_lines_eq_append_cons {before piece rest : Text}
    (hbefore : before = [] ∨ before.getLast? = some '\n') (hpiece : '\n' ∉ piece)
    (hrest : rest = [] ∨ rest.head? = some '\n') :
    ∃ ls rs, lines (before ++ (piece ++ rest)) = ls ++ piece :: rs ∧
      ls.length = before.count '\n' ∧ (rs = [] ↔ rest = []) := by
  have hpieces : ∃ rs, lines (piece ++ rest) = piece :: rs ∧ (rs = [] ↔ rest = []) := by
    rcases hrest with rfl | hrest
    · exact ⟨[], by rw [List.append_nil, lines, List.splitOn_eq_singleton hpiece], by simp⟩
    · obtain ⟨r, rfl⟩ := List.head?_eq_some_iff.1 hrest
      exact ⟨lines r, List.splitOn_append_cons_self_of_not_mem hpiece r, by simp [lines]⟩
  obtain ⟨rs, hlines, hrs⟩ := hpieces
  rcases hbefore with rfl | hbefore
  · exact ⟨[], rs, hlines, rfl, hrs⟩
  · obtain ⟨u, rfl⟩ := List.getLast?_eq_some_iff.1 hbefore
    refine ⟨lines u, rs, ?_, by simp [length_lines], hrs⟩
    rw [List.append_assoc, List.singleton_append, ← hlines]
    exact List.splitOn_append_cons_self u _

/-- The pieces of a text are its physical lines, where the carriage return goes of those that a
newline follows. -/
theorem getElem?_physicalLines {piece : Text} {ls rs : List Text} (h : lines t = ls ++ piece :: rs)
    (hne : piece ≠ []) :
    (physicalLines t)[ls.length]? = some (if rs = [] then piece else stripReturn piece) := by
  unfold physicalLines
  rw [h]
  rcases List.eq_nil_or_concat' rs with rfl | ⟨rs, last, rfl⟩
  · obtain ⟨c, piece, rfl⟩ := List.exists_cons_of_ne_nil hne
    simp
  · have hsplit : ls ++ piece :: (rs ++ [last]) = (ls ++ piece :: rs) ++ [last] := by simp
    dsimp only
    rw [hsplit, List.dropLast_concat, List.getLast?_concat]
    cases last <;> simp

/-- The carriage return of a line terminator stands behind all other characters of its line. -/
theorem exists_stripReturn_eq {c : Char} (hc : c ≠ '\r') (s e : Text) :
    ∃ e', stripReturn (s ++ c :: e) = s ++ c :: e' ∧
      (e = e' ++ ['\r'] ∨ e = e' ∧ (s ++ c :: e).getLast? ≠ some '\r') := by
  unfold stripReturn
  split
  · rename_i hlast
    rcases List.eq_nil_or_concat' e with rfl | ⟨e, d, rfl⟩
    · exact absurd (by simpa using hlast) hc
    · rw [← List.cons_append, ← List.append_assoc, List.getLast?_concat] at hlast
      obtain rfl := Option.some.inj hlast
      refine ⟨e, ?_, .inl rfl⟩
      rw [← List.cons_append, ← List.append_assoc, List.dropLast_concat]
  · rename_i hlast
    exact ⟨e, rfl, .inr ⟨rfl, hlast⟩⟩

/-- The line at the end of a text starts behind its last newline. -/
theorem exists_lineStart (a : Text) : ∃ before s, a = before ++ s ∧ '\n' ∉ s ∧
    (before = [] ∨ before.getLast? = some '\n') ∧
    s.length = (a.reverse.takeWhile (· ≠ '\n')).length := by
  induction a using List.reverseRecOn with
  | nil => exact ⟨[], [], rfl, by simp, .inl rfl, rfl⟩
  | append_singleton a c ih =>
    by_cases hc : c = '\n'
    · exact ⟨a ++ [c], [], by simp, by simp, .inr (by simp [hc]), by simp [hc]⟩
    · obtain ⟨before, s, rfl, hs, hbefore, hlength⟩ := ih
      refine ⟨before, s ++ [c], by simp, by simp [hs, Ne.symm hc], hbefore, ?_⟩
      rw [List.reverse_append, List.reverse_singleton, List.singleton_append,
        List.takeWhile_cons_of_pos (by simp [hc]), List.length_append, hlength]
      rfl

/-- The line at the start of a text goes on to its first newline. -/
theorem exists_lineStop (r : Text) :
    ∃ e rest, r = e ++ rest ∧ '\n' ∉ e ∧ (rest = [] ∨ rest.head? = some '\n') := by
  refine ⟨r.takeWhile (· ≠ '\n'), r.dropWhile (· ≠ '\n'),
    List.takeWhile_append_dropWhile.symm, fun hmem => ?_, ?_⟩
  · simpa using List.mem_takeWhile_imp hmem
  · have hnot := List.head?_dropWhile_not (· ≠ '\n') r
    cases hd : r.dropWhile (· ≠ '\n') with
    | nil => exact .inl rfl
    | cons d u =>
      rw [hd] at hnot
      exact .inr (by simpa using hnot)

end Text

/-- Where something other than white space stands, the physical line with the number of its place
is the line of the document, and holds it at its column. -/
theorem exists_sourceLine (h : ShowsContent t p) : ∃ l c,
    (Text.physicalLines t)[p.line - 1]? = some l ∧ IsSourceLine t p.line l ∧ 0 < p.line ∧
      0 < p.column ∧ l[p.column - 1]? = some c ∧ isBlank c = false := by
  obtain ⟨c, hc, -, a, r, rfl, -, hline, hcolumn⟩ := h
  have hne : ∀ d, isBlank d = true → c ≠ d := fun d hd heq => by
    rw [heq, hd] at hc
    cases hc
  obtain ⟨before, s, rfl, hs, hbefore, hlength⟩ := Text.exists_lineStart a
  obtain ⟨e, rest, rfl, he, hrest⟩ := Text.exists_lineStop r
  have hcount : p.line = 1 + before.count '\n' := by
    rw [hline, List.count_append, List.count_eq_zero.2 hs, Nat.add_zero]
  have hpiece : '\n' ∉ s ++ c :: e := by simp [hs, he, Ne.symm (hne '\n' (by decide))]
  have ht : (before ++ s) ++ ([c] ++ (e ++ rest)) = before ++ ((s ++ c :: e) ++ rest) := by simp
  obtain ⟨ls, rs, hlines, hls, hrs⟩ := Text.exists_lines_eq_append_cons hbefore hpiece hrest
  have hget := Text.getElem?_physicalLines hlines (by simp)
  rw [← hlength] at hcolumn
  rw [ht, hcount, hcolumn, Nat.add_sub_cancel_left, Nat.add_sub_cancel_left, ← hls, hget]
  by_cases hnil : rest = []
  · rw [if_pos (hrs.2 hnil)]
    exact ⟨_, c, rfl, ⟨before, rest, rfl, hbefore, by rw [hls], hpiece, .inr (.inr hnil)⟩,
      by omega, by omega, by simp, hc⟩
  · -- A newline ends the line, and a carriage return before it is dropped.
    rw [if_neg (mt hrs.1 hnil)]
    obtain ⟨u, rfl⟩ := List.head?_eq_some_iff.1 (hrest.resolve_left hnil)
    obtain ⟨e', hstrip, hreturn⟩ := Text.exists_stripReturn_eq (hne '\r' (by decide)) s e
    rw [hstrip]
    refine ⟨_, c, rfl, ?_, by omega, by omega, by simp, hc⟩
    rcases hreturn with rfl | ⟨rfl, hlast⟩
    · refine ⟨before, '\r' :: '\n' :: u, by simp, hbefore, by rw [hls], ?_, .inl ⟨u, rfl⟩⟩
      rw [← List.cons_append, ← List.append_assoc] at hpiece
      exact fun hmem => hpiece (List.mem_append_left _ hmem)
    · exact ⟨before, '\n' :: u, rfl, hbefore, by rw [hls], hpiece, .inr (.inl ⟨⟨u, rfl⟩, hlast⟩)⟩

/-! ## Issues -/

theorem Shows.content {token : Text} {c : Char} (h : Shows t token p) (hhead : token.head? = some c)
    (hblank : isBlank c = false) (hpercent : c ≠ '%') : ShowsContent t p := by
  obtain ⟨r, rfl⟩ := List.head?_eq_some_iff.1 hhead
  exact ⟨c, hblank, hpercent, h.mono ⟨r, rfl⟩⟩

/-- A finding is reported where something other than white space stands. -/
theorem Finding.IsReal.exists_place {f : Finding} (h : f.IsReal t) :
    ∃ p, ShowsContent t p ∧ f.place = (p.line, p.column) := by
  have hcontrol : ∀ {token : Text} {p}, Shows t token p → token.head? = some '\\' →
      ShowsContent t p := fun h hhead => h.content hhead (by decide) (by decide)
  have henv : ∀ {env : OpenEnvironment}, env.IsReal t →
      ∃ p, ShowsContent t p ∧ (env.line, env.column) = (p.line, p.column) := by
    rintro env ⟨p, hp, hline, hcolumn⟩
    exact ⟨p, hcontrol hp rfl, by rw [hline, hcolumn]⟩
  cases f with
  | unmatchedOpen d p => exact ⟨p, by cases d <;> exact h.content rfl (by decide) (by decide), rfl⟩
  | unmatchedClose d p => exact ⟨p, by cases d <;> exact h.content rfl (by decide) (by decide), rfl⟩
  | misordered d closer opener =>
    exact ⟨closer, by cases d <;> exact h.1.content rfl (by decide) (by decide), rfl⟩
  | interrupted env name p => exact henv h.1
  | mismatchedEnd name expected line p => exact ⟨p, hcontrol h.1 rfl, rfl⟩
  | unmatchedEnd name p => exact ⟨p, hcontrol h rfl, rfl⟩
  | unclosed env => exact henv h

/-- So is every issue that is not about the document as a whole. -/
theorem Issue.exists_place {lookup : Option FileLookup} (h : i ∈ (validate lookup t).issues)
    (hkind : i.kind ≠ .structure_) :
    ∃ p, ShowsContent t p ∧ i.line = p.line ∧ i.column = p.column := by
  have hreal : (ScanState.run {} (Lexeme.lexemes t)).IsReal t :=
    ScanState.IsReal.init.run fun _ hx => hx
  have h := (issues_validate_perm lookup t).mem_iff.1 h
  unfold issuesOf at h
  rw [List.mem_append, List.mem_append, List.mem_append] at h
  rcases h with ((h | h) | h) | h
  · obtain ⟨f, hf, rfl⟩ := List.mem_map.1 h
    obtain ⟨p, hp, hplace⟩ :=
      (hreal.allFindings f ((List.mergeSort_perm _ _).mem_iff.1 hf)).exists_place
    obtain ⟨hline, hcolumn⟩ := Prod.mk.inj hplace
    exact ⟨p, hp, hline, hcolumn⟩
  · exact absurd (kind_of_mem_ofSkeleton h) hkind
  · unfold ofTrailing at h
    split at h
    · rename_i stop p _ hp
      obtain rfl := List.mem_singleton.1 h
      exact ⟨p, hreal.trailingContent p hp, rfl, rfl⟩
    · cases h
  · cases lookup with
    | none => cases h
    | some known =>
      obtain ⟨x, hx, rfl⟩ := List.mem_map.1 h
      have hshows := hreal.inclusions x (List.mem_reverse.1 (List.mem_of_mem_filter hx))
      exact ⟨x.pos, hshows.content rfl (by decide) (by decide), rfl, rfl⟩

/-! ## Excerpts -/

namespace Excerpt

/-- A line in a frame with its number, and a caret behind `indent` spaces under it. -/
def framed (number : Nat) (line : Text) (indent : Nat) : String :=
  spaces (toString number).length ++ " |\n" ++ toString number ++ " | " ++ String.ofList line ++
    "\n" ++ spaces (toString number).length ++ " | " ++ spaces indent ++ "^"

/-- The paragraph on an issue holds the line of `t` that the issue names, and the caret stands
under the character in its column, which is no white space. -/
def PointsAt (t : Text) (useColor : Bool) (i : Issue) (paragraph : String) : Prop :=
  ∃ l c, IsSourceLine t i.line l ∧ 0 < i.column ∧ l[i.column - 1]? = some c ∧
    isBlank c = false ∧
    paragraph = paint useColor (severityColor i.severity)
      (i.display ++ "\n" ++ framed i.line l (i.column - 1)) ++ "\n\n"

/-- An excerpt in full : its line is there, and reaches to the column of the issue. -/
theorem excerpt?_eq {source : List Text} (hpos : 0 < i.line)
    (hline : source[i.line - 1]? = some line) (hcolumn : i.column - 1 ≤ line.length) :
    excerpt? source i = some (framed i.line line (i.column - 1)) := by
  have hcaret : caretIndent line i.column = i.column - 1 := Nat.min_eq_left hcolumn
  rw [excerpt?, if_neg hpos.ne', hline, Option.bind_eq_bind, Option.bind_some]
  dsimp only
  rw [hcaret, framed]

end Excerpt

open Excerpt

/-- A report on a validation with its source has a paragraph for each issue, and the excerpt of an
issue that is not about the document as a whole shows its line and points at its column. -/
theorem report_validate_pointsAt (lookup : Option FileLookup) (t : Text) (useColor : Bool) :
    ∃ paragraphs : List String,
      (validate lookup t).report (some t) useColor = String.join paragraphs ++
        paint useColor (summaryColor (validate lookup t))
          ("Summary: " ++ (validate lookup t).summary) ∧
      List.Forall₂ (fun i paragraph => i.kind ≠ .structure_ → PointsAt t useColor i paragraph)
        (validate lookup t).issues paragraphs := by
  refine ⟨_, rfl, List.forall₂_map_right_iff.2 (List.forall₂_same.2 fun i hi hkind => ?_)⟩
  obtain ⟨p, hp, hline, hcolumn⟩ := Issue.exists_place hi hkind
  obtain ⟨line, c, hget, hsource, hpos, hcol, hc, hblank⟩ := exists_sourceLine hp
  rw [← hline] at hget hsource hpos
  rw [← hcolumn] at hcol hc
  have hexcerpt := excerpt?_eq hpos hget (List.getElem?_eq_some_iff.1 hc).1.le
  refine ⟨line, c, hsource, hcol, hc, hblank, ?_⟩
  rw [Option.map_some, Option.getD_some, hexcerpt]

end LatexRepair
