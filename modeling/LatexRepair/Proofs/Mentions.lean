import LatexRepair.Proofs.MarkerPlaces
import LatexRepair.Proofs.MarkupEdits

/-!
# Lines that end the document

Rules put closing braces, percent signs and white space into a line, and take them out. A line
mentions the end of the document when an `\end{document}` shows in it without them
(`Mentions`); a line that does not mention it has none, and no rule gives it one
(`LineEdits.not_mentions`). A line ends the document when it has an `\end{document}`, written
so, in its code, and mentions no other (`IsEndLine`); of its live markers exactly that one
ends the document (`filter_liveMarkers_endLine`).
-/

namespace LatexRepair

variable {guide t u a b : Text}

/-! ## Mentions -/

/-- The rules put in and take out such characters. -/
def isLoose (c : Char) : Bool :=
  c = '}' || c = '%' || isBlank c

/-- A text without loose characters. -/
def bare (t : Text) : Text :=
  t.filter (!isLoose ·)

/-- An end of the document shows in the text, perhaps with loose characters in it. -/
def Mentions (t : Text) : Prop :=
  "\\end\x7bdocument".toList <:+: bare t

instance (t : Text) : Decidable (Mentions t) :=
  inferInstanceAs (Decidable (_ <:+: _))

theorem bare_append (s t : Text) : bare (s ++ t) = bare s ++ bare t :=
  List.filter_append ..

theorem bare_eq_nil (h : ∀ c ∈ t, isLoose c = true) : bare t = [] :=
  List.filter_eq_nil_iff.2 fun c hc => by simp [h c hc]

theorem isLoose_of_isBlank {c : Char} (h : isBlank c = true) : isLoose c = true := by
  simp [isLoose, h]

/-- What a part mentions the whole mentions. -/
theorem Mentions.append (h : Mentions t) (a b : Text) : Mentions (a ++ (t ++ b)) := by
  rw [Mentions, bare_append, bare_append]
  exact h.trans ⟨bare a, bare b, List.append_assoc ..⟩

theorem not_mentions_of_append (h : ¬Mentions (a ++ b)) : ¬Mentions a ∧ ¬Mentions b := by
  refine ⟨fun ha => h ?_, fun hb => h ?_⟩
  · simpa using ha.append [] b
  · simpa using hb.append a []

theorem not_mentions_congr (h : bare t = bare u) : ¬Mentions t ↔ ¬Mentions u := by
  rw [Mentions, Mentions, h]

theorem bare_of_blank (h : ∀ c ∈ t, isBlank c = true) : bare t = [] :=
  bare_eq_nil fun c hc => isLoose_of_isBlank (h c hc)

/-- White space around a text is loose. -/
theorem bare_trim (t : Text) : bare (Text.trim t) = bare t := by
  obtain ⟨a, b, ht, ha, hb⟩ := Text.exists_trim t
  conv => rhs; rw [ht]
  rw [bare_append, bare_append, bare_of_blank ha, bare_of_blank hb, List.nil_append,
    List.append_nil]

/-- However a marker is spelled, the same shows without loose characters. -/
theorem Marker.Spelling.bare_text (s : Spelling) : bare s.text = bare s.marker.text := by
  have hopen : ∀ t, bare ('{' :: t) = '{' :: bare t := fun t => List.filter_cons_of_pos (by decide)
  rw [text, Marker.text, bare_append, bare_append, bare_append, bare_of_blank s.blank,
    List.nil_append, hopen, hopen, bare_append, bare_append, marker, bare_trim]

/-- The end of the document is a mention of it. -/
theorem mentions_of_spelling {s : Marker.Spelling} (h : s.marker = .endDocument) :
    Mentions s.text := by
  rw [Mentions, s.bare_text, h]
  decide

theorem mentions_terminator (a b : Text) : Mentions (a ++ (terminator ++ b)) :=
  Mentions.append (by decide) a b

/-- A text that does not mention the end of the document has none. -/
theorem filter_markersFrom_eq_nil (h : ¬Mentions t) (i : Nat) :
    (markersFrom i t).filter (·.marker = .endDocument) = [] := by
  refine List.filter_eq_nil_iff.2 fun x hx hend => ?_
  obtain ⟨a, s, b, rfl, hs, -⟩ := exists_spelling_of_mem_markersFrom hx
  exact h ((mentions_of_spelling (hs.trans (of_decide_eq_true hend))).append a b)

/-! ## Edits of lines -/

/-- Loose characters may come and go. -/
theorem bare_append_loose {s : Text} (hs : ∀ c ∈ s, isLoose c = true) (a b : Text) :
    bare (a ++ (s ++ b)) = bare (a ++ b) := by
  rw [bare_append, bare_append, bare_append, bare_eq_nil hs, List.nil_append]

theorem bare_append_cons {c : Char} (hc : isLoose c = true) (a b : Text) :
    bare (a ++ c :: b) = bare (a ++ b) :=
  bare_append_loose (s := [c]) (by simpa using hc) a b

theorem isLoose_of_percentRun? {run : Text} (h : percentRun? t = some run) :
    ∀ c ∈ run, isLoose c = true := fun c hc => by
  rcases mem_of_percentRun? h c hc with rfl | hc
  · decide
  · exact isLoose_of_isBlank (isBlank_of_isSpaceOrTab hc)

theorem isLoose_of_commentIntro? {intro : Text} (h : commentIntro? t = some intro) :
    ∀ c ∈ intro, isLoose c = true := fun c hc => by
  rcases mem_of_commentIntro? h c hc with rfl | hc
  · decide
  · exact isLoose_of_isBlank hc

/-- An edit of a line takes out an end of the document, or it puts in and takes out loose
characters. -/
theorem LineEdit.bare_cases (h : LineEdit guide t u) :
    (∃ (a b : Text) (s : Marker.Spelling), s.marker = .endDocument ∧ t = a ++ (s.text ++ b) ∧
      u = a ++ b) ∨ bare u = bare t := by
  cases h with
  | dropTerminator a b s hs => exact .inl ⟨a, b, s, hs, rfl, rfl⟩
  | dropPercents a b run hrun =>
    exact .inr (bare_append_loose (isLoose_of_percentRun? hrun) a b).symm
  | insertIntro _ g intro hg hintro =>
    exact .inr (bare_append_loose (isLoose_of_commentIntro? hintro) [] t)
  | insertBrace a b => exact .inr (bare_append_cons (by decide) a b)
  | dropBrace a b => exact .inr (bare_append_cons (by decide) a b).symm
  | insertBlank a b c hc => exact .inr (bare_append_cons (isLoose_of_isBlank hc) a b)
  | dropBlank a b c hc => exact .inr (bare_append_cons (isLoose_of_isBlank hc) a b).symm

theorem LineEdit.bare_eq (h : LineEdit guide t u) (ht : ¬Mentions t) : bare u = bare t := by
  rcases h.bare_cases with ⟨a, b, s, hs, rfl, -⟩ | h
  · exact absurd ((mentions_of_spelling hs).append a b) ht
  · exact h

theorem LineEdits.bare_eq (h : LineEdits guide t u) (ht : ¬Mentions t) : bare u = bare t := by
  induction h with
  | refl => rfl
  | tail _ hstep ih => exact (hstep.bare_eq ((not_mentions_congr ih).2 ht)).trans ih

theorem LineEdits.not_mentions (h : LineEdits guide t u) (ht : ¬Mentions t) : ¬Mentions u :=
  (not_mentions_congr (h.bare_eq ht)).2 ht

/-! ## Code -/

/-- The text is code, and what stands behind it is not escaped. -/
structure Clean (a : Text) : Prop where
  code : codePart a = a
  unescaped : escapes false a = false

theorem Clean.codePart_append (h : Clean a) (t : Text) : codePart (a ++ t) = a ++ codePart t := by
  have hcode : codePartFrom false (a ++ []) = a ++ [] := by
    rw [List.append_nil]
    exact h.code
  rw [codePart, codePartFrom_append hcode, h.unescaped]
  rfl

theorem Clean.append_iff (h : Clean a) : Clean (a ++ b) ↔ Clean b := by
  constructor
  · rintro ⟨hcode, hescapes⟩
    rw [h.codePart_append, List.append_cancel_left_eq] at hcode
    rw [escapes_append, h.unescaped] at hescapes
    exact ⟨hcode, hescapes⟩
  · intro hb
    exact ⟨by rw [h.codePart_append, hb.code], by rw [escapes_append, h.unescaped, hb.unescaped]⟩

/-- Code may be cut where nothing is escaped. -/
theorem Clean.of_append (h : Clean (a ++ b)) (ha : escapes false a = false) : Clean a := by
  refine ⟨?_, ha⟩
  have hcut : codePart (a ++ []) = a ++ codePartFrom _ [] := codePartFrom_append h.code []
  rwa [codePartFrom, List.append_nil] at hcut

theorem clean_terminator : Clean terminator :=
  ⟨by decide, by decide⟩

theorem clean_closer : Clean ['}'] :=
  ⟨by decide, by decide⟩

/-! ## Ends -/

/-- The line has an end of the document in its code, between `a` and `b`, and mentions no other. -/
def EndsAround (line a b : Text) : Prop :=
  line = a ++ (terminator ++ b) ∧ Clean a ∧ ¬Mentions (a ++ b)

/-- The line has one end of the document in its code, and mentions no other. -/
def IsEndLine (line : Text) : Prop :=
  ∃ a b, EndsAround line a b

instance (line : Text) : Decidable (IsEndLine line) :=
  decidable_of_iff (∃ i < line.length + 1, Text.startsWith terminator (line.drop i) = true ∧
      codePart (line.take i) = line.take i ∧ escapes false (line.take i) = false ∧
        ¬Mentions (line.take i ++ line.drop (i + terminator.length))) (by
    constructor
    · rintro ⟨i, -, hstart, hcode, hescapes, hfree⟩
      obtain ⟨b, hb⟩ := Text.startsWith_iff.1 hstart
      rw [← List.drop_drop, hb, List.drop_left] at hfree
      exact ⟨line.take i, b, by rw [← hb, List.take_append_drop], ⟨hcode, hescapes⟩, hfree⟩
    · rintro ⟨a, b, rfl, ha, hb⟩
      refine ⟨a.length, ?_, ?_, ?_⟩
      · rw [List.length_append]
        omega
      · rw [List.drop_left]
        exact Text.startsWith_iff.2 ⟨b, rfl⟩
      · rw [List.take_left, ← List.drop_drop, List.drop_left, List.drop_left]
        exact ⟨ha.code, ha.unescaped, hb⟩)

/-- A text may be read in three parts around an end of the document. -/
theorem markers_around_terminator (a b : Text) :
    markers (a ++ (terminator ++ b)) =
      markersFrom 0 a ++ ⟨.endDocument, a.length, a.length + terminator.length⟩ ::
        markersFrom (a.length + terminator.length) b := by
  have haround := markersFrom_around_spelling 0 a .terminator b
  rwa [Marker.Spelling.text_terminator, Marker.Spelling.marker_terminator, Nat.zero_add] at haround

/-- The only end of the document among the markers of a text around it. -/
theorem filter_markers_terminator (h : ¬Mentions (a ++ b)) :
    (markers (a ++ (terminator ++ b))).filter (·.marker = .endDocument) =
      [⟨.endDocument, a.length, a.length + terminator.length⟩] := by
  obtain ⟨ha, hb⟩ := not_mentions_of_append h
  rw [markers_around_terminator, List.filter_append, filter_markersFrom_eq_nil ha, List.nil_append,
    List.filter_cons, filter_markersFrom_eq_nil hb]
  exact if_pos (decide_eq_true rfl)

theorem codePart_endLine (h : Clean a) (b : Text) :
    codePart (a ++ (terminator ++ b)) = a ++ (terminator ++ codePart b) := by
  rw [h.codePart_append, clean_terminator.codePart_append]

theorem not_mentions_codePart (h : ¬Mentions (a ++ b)) : ¬Mentions (a ++ codePart b) := by
  intro hcode
  have hb := hcode.append [] (commentPart b)
  rw [List.nil_append, List.append_assoc, codePart_append_comment] at hb
  exact h hb

/-- Of the live markers of a line exactly one ends the document. -/
theorem filter_liveMarkers_endLine (ha : Clean a) (h : ¬Mentions (a ++ b)) :
    (liveMarkers (a ++ (terminator ++ b))).filter (·.marker = .endDocument) =
      [⟨.endDocument, a.length, a.length + terminator.length⟩] := by
  rw [liveMarkers_eq, codePart_endLine ha, filter_markers_terminator (not_mentions_codePart h)]

theorem filter_liveMarkers_eq_nil (h : ¬Mentions t) :
    (liveMarkers t).filter (·.marker = .endDocument) = [] := by
  refine List.filter_eq_nil_iff.2 fun x hx => ?_
  have := List.filter_eq_nil_iff.1 (filter_markersFrom_eq_nil h 0) x (List.mem_filter.1 hx).1
  exact this

/-- An end of the document stands in a line where its only one does. -/
theorem eq_of_append_terminator {x y : Text} (h : ¬Mentions (a ++ b))
    (heq : x ++ (terminator ++ y) = a ++ (terminator ++ b)) : x = a ∧ y = b := by
  have hmem : (⟨.endDocument, x.length, x.length + terminator.length⟩ : PlacedMarker) ∈
      (markers (a ++ (terminator ++ b))).filter (·.marker = .endDocument) := by
    rw [← heq, markers_around_terminator]
    exact List.mem_filter.2 ⟨List.mem_append_right _ (List.mem_cons_self ..), decide_eq_true rfl⟩
  rw [filter_markers_terminator h, List.mem_singleton, PlacedMarker.mk.injEq] at hmem
  obtain ⟨rfl, hy⟩ := List.append_inj heq hmem.2.1
  exact ⟨rfl, List.append_cancel_left hy⟩

end LatexRepair
