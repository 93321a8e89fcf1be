import LatexRepair.Proofs.CodePlaces
import LatexRepair.Proofs.MarkerPlaces
import LatexRepair.Proofs.MarkupEdits

/-!
# Live markers that the scan reads

A marker of a line is live when it starts in the code of the line, and its control word is
taken as it stands : whatever is before its backslash, whatever white space is behind it,
and whatever name is between the braces. The scan is stricter. It reads `\begin` and `\end`
only where no backslash escapes their backslash, takes a group as their argument only
behind spaces and tabs, and no blank group (`readMarker?_eq`).

`markersOf_lexemes_eq_iff` : where no text is taken literally, the scan reads of the live
markers of a line exactly those that keep to these rules (`PlacedMarker.isRead`), in their
order. So the two sequences of markers are the same exactly when all live markers of the line
do, which they need not (`markersOf_lexemes_ne`).
-/

namespace LatexRepair

/-! ## Groups -/

theorem Text.trim_eq_nil_iff {t : Text} : trim t = [] ↔ isBlankText t = true := by
  rw [isBlankText, List.all_eq_true]
  constructor
  · intro h c hc
    rcases mem_trim_or_isBlank hc with hmem | hblank
    · rw [h] at hmem
      cases hmem
    · exact hblank
  · intro h
    rw [trim, trimStart, trimStartBy, List.dropWhile_eq_nil_iff.2 h]
    rfl

theorem Marker.isNameChar_eq (c : Char) : isNameChar c = !Lexeme.endsGroup c := by
  rw [isNameChar, Lexeme.endsGroup]
  cases decide (c = '{') <;> cases decide (c = '}') <;> rfl

namespace Lexeme

/-- A text starts with a group exactly when it is written as one. -/
theorem groupArgument?_eq_some_iff {t env : Text} {n : Nat} :
    groupArgument? t = some (env, n) ↔
      ∃ blanks content r, t = blanks ++ '{' :: (content ++ '}' :: r) ∧
        (∀ c ∈ blanks, isSpaceOrTab c = true) ∧ (∀ c ∈ content, Marker.isNameChar c = true) ∧
        env = Text.trim content ∧ env ≠ [] ∧ n = blanks.length + content.length + 2 := by
  have hchar : Marker.isNameChar = fun c => !endsGroup c := funext Marker.isNameChar_eq
  have hread : ∀ blanks content r : Text, (∀ c ∈ blanks, isSpaceOrTab c = true) →
      (∀ c ∈ content, Marker.isNameChar c = true) →
      groupArgument? (blanks ++ '{' :: (content ++ '}' :: r)) =
        if Text.isBlankText content then none
        else some (Text.trim content, blanks.length + content.length + 2) := by
    intro blanks content r hblanks hcontent
    have htake := Text.takeWhile_append_cons hblanks (by decide : isSpaceOrTab '{' = false)
      (content ++ '}' :: r)
    have hgroup := Text.takeWhile_append_cons hcontent (by decide : Marker.isNameChar '}' = false) r
    rw [hchar] at hgroup
    unfold groupArgument?
    rw [← Text.drop_length_takeWhile, htake, List.drop_left]
    simp only [hgroup, List.drop_left]
  constructor
  · intro h
    obtain ⟨blanks, content, r, rfl, hblanks, hcontent, rfl, rfl⟩ := eq_of_groupArgument? h
    have hname : ∀ c ∈ content, Marker.isNameChar c = true := fun c hc => by
      rw [Marker.isNameChar_eq, hcontent c hc]
      rfl
    refine ⟨blanks, content, r, rfl, hblanks, hname, rfl, fun hnil => ?_, rfl⟩
    rw [hread blanks content r hblanks hname, if_pos (Text.trim_eq_nil_iff.1 hnil)] at h
    cases h
  · rintro ⟨blanks, content, r, rfl, hblanks, hname, rfl, hne, rfl⟩
    rw [hread blanks content r hblanks hname, if_neg (mt Text.trim_eq_nil_iff.2 hne)]

/-- A group is read whatever stands behind it. -/
theorem exists_group_of_groupArgument? {t name : Text} {n : Nat}
    (h : groupArgument? t = some (name, n)) :
    ∃ g r, t = g ++ r ∧ g.length = n ∧ g.getLast? = some '}' ∧ '}' ∉ g.dropLast ∧ '\\' ∉ g ∧
      '\n' ∉ g ∧ ∀ q, groupArgument? (g ++ q) = some (name, n) := by
  obtain ⟨blanks, content, r, rfl, hblanks, hcontent, hname, hne, rfl⟩ :=
    groupArgument?_eq_some_iff.1 h
  have hnot : ∀ c, isSpaceOrTab c = false → Marker.isNameChar c = false → c ≠ '{' → c ≠ '}' →
      c ∉ blanks ++ '{' :: (content ++ ['}']) := by
    intro c hblank hchar hopen hclose hmem
    simp only [List.mem_append, List.mem_cons, List.not_mem_nil, or_false] at hmem
    rcases hmem with hmem | rfl | hmem | rfl
    · exact Bool.false_ne_true (hblank.symm.trans (hblanks c hmem))
    · exact hopen rfl
    · exact Bool.false_ne_true (hchar.symm.trans (hcontent c hmem))
    · exact hclose rfl
  have hconcat : blanks ++ '{' :: (content ++ ['}']) = (blanks ++ '{' :: content) ++ ['}'] := by
    simp
  refine ⟨blanks ++ '{' :: (content ++ ['}']), r, by simp, by simp; omega, ?_, ?_,
    hnot _ (by decide) (by decide) (by decide) (by decide),
    hnot _ (by decide) (by decide) (by decide) (by decide), fun q => ?_⟩
  · rw [hconcat, List.getLast?_concat]
  · rw [hconcat, List.dropLast_concat]
    intro hmem
    rcases List.mem_append.1 hmem with hmem | hmem
    · cases hblanks _ hmem
    · rcases List.mem_cons.1 hmem with hmem | hmem
      · cases hmem
      · cases hcontent _ hmem
  · exact groupArgument?_eq_some_iff.2
      ⟨blanks, content, q, by simp, hblanks, hcontent, hname, hne, rfl⟩

/-- A group does not carry a control word on. -/
theorem takeWhile_isCommandChar_of_groupArgument? {t env : Text} {n : Nat}
    (h : groupArgument? t = some (env, n)) : t.takeWhile isCommandChar = [] := by
  obtain ⟨blanks, content, r, rfl, hblanks, -⟩ := eq_of_groupArgument? h
  cases blanks with
  | nil => exact List.takeWhile_cons_of_neg (by decide)
  | cons b blanks =>
    have hb := hblanks b (List.mem_cons_self ..)
    refine List.takeWhile_cons_of_neg ?_
    simp only [isSpaceOrTab, Bool.or_eq_true, decide_eq_true_eq] at hb
    rcases hb with rfl | rfl <;> decide

/-- A control word that does not go on in the text behind it is read as a whole. -/
theorem controlToken_append {name t : Text} (hname : name ≠ [])
    (hall : name.all isCommandChar = true) (ht : t.takeWhile isCommandChar = []) :
    controlToken (name ++ t) =
      ((controlWordToken name t).1, name.length + (controlWordToken name t).2) := by
  have hchars := List.all_eq_true.1 hall
  obtain ⟨c, name, rfl⟩ := List.exists_cons_of_ne_nil hname
  have htake : (c :: name ++ t).takeWhile isCommandChar = c :: name := by
    rw [List.takeWhile_append_of_pos hchars, ht, List.append_nil]
  rw [List.cons_append] at htake ⊢
  rw [controlToken, if_pos (hchars c (List.mem_cons_self ..))]
  dsimp only
  rw [htake, ← List.cons_append, List.drop_left]

end Lexeme

/-! ## Reading markers -/

/-- The scan reads the control word of a marker with a group behind it. -/
theorem readMarker?_eq_some_iff {t : Text} {m : Marker} :
    readMarker? t = some m ↔ ∃ r n, '\\' :: t = Marker.controlWord m.kind ++ r ∧
      Lexeme.groupArgument? r = some (m.name, n) := by
  have hsplit := takeWhile_append_drop isCommandChar t
  unfold readMarker?
  dsimp only
  constructor
  · intro h
    split at h
    · rename_i hbegin
      obtain ⟨⟨env, n⟩, hgroup, rfl⟩ := Option.map_eq_some_iff.1 h
      rw [hbegin] at hsplit
      exact ⟨_, n, congrArg ('\\' :: ·) hsplit.symm, by rwa [hbegin] at hgroup⟩
    · split at h
      · rename_i hend
        obtain ⟨⟨env, n⟩, hgroup, rfl⟩ := Option.map_eq_some_iff.1 h
        rw [hend] at hsplit
        exact ⟨_, n, congrArg ('\\' :: ·) hsplit.symm, by rwa [hend] at hgroup⟩
      · cases h
  · rintro ⟨r, n, ht, hgroup⟩
    have hword : ∀ word : Text, word.all isCommandChar = true → t = word ++ r →
        t.takeWhile isCommandChar = word ∧ t.drop word.length = r := fun word hchars ht => by
      rw [ht, List.takeWhile_append_of_pos (List.all_eq_true.1 hchars),
        Lexeme.takeWhile_isCommandChar_of_groupArgument? hgroup, List.append_nil, List.drop_left]
      exact ⟨rfl, rfl⟩
    obtain ⟨kind, name⟩ := m
    cases kind with
    | opening =>
      obtain ⟨htake, hdrop⟩ := hword "begin".toList (by decide) (List.cons.inj ht).2
      rw [htake, hdrop, if_pos rfl, hgroup]
      rfl
    | closing =>
      obtain ⟨htake, hdrop⟩ := hword "end".toList (by decide) (List.cons.inj ht).2
      rw [htake, hdrop, if_neg (by decide), if_pos rfl, hgroup]
      rfl

namespace Marker

/-- Of the white space that may stand before the group of a marker only spaces and tabs stand
there, and the name is not blank; the marker starts the text `t`. -/
def isPlainAt (m : Marker) (t : Text) : Bool :=
  ((t.drop (controlWord m.kind).length).takeWhile isBlank).all isSpaceOrTab && !m.name.isEmpty

theorem Spelling.isPlainAt_iff (s : Spelling) (b : Text) :
    s.marker.isPlainAt (s.text ++ b) = true ↔
      (∀ c ∈ s.blanks, isSpaceOrTab c = true) ∧ Text.trim s.name ≠ [] := by
  have hdrop : (s.text ++ b).drop (controlWord s.marker.kind).length =
      s.blanks ++ '{' :: (s.name ++ '}' :: b) := by
    simp [text, marker]
  rw [isPlainAt, hdrop, Text.takeWhile_append_cons s.blank (by decide)]
  simp [marker]

end Marker

/-- The scan reads a marker that stands behind no backslash where it is plain. -/
theorem readMarker?_eq (t : Text) :
    readMarker? t =
      ((Marker.at? ('\\' :: t)).map (·.1)).filter fun m => m.isPlainAt ('\\' :: t) := by
  refine Option.ext fun m => ?_
  rw [readMarker?_eq_some_iff, Option.filter_eq_some_iff, Option.map_eq_some_iff]
  constructor
  · rintro ⟨r, n, ht, hgroup⟩
    obtain ⟨blanks, content, r, rfl, hblanks, hname, hm, hne, -⟩ :=
      Lexeme.groupArgument?_eq_some_iff.1 hgroup
    have hcontent : content ≠ [] := fun hnil => hne (by rw [hm, hnil]; rfl)
    let s : Marker.Spelling := ⟨m.kind, blanks, content,
      fun c hc => isBlank_of_isSpaceOrTab (hblanks c hc), hname, hcontent⟩
    have hs : s.marker = m := by rw [Marker.Spelling.marker, ← hm]
    have htext : '\\' :: t = s.text ++ r := by
      rw [ht]
      simp [Marker.Spelling.text, s]
    have hat : Marker.at? ('\\' :: t) = some (m, s.text.length) :=
      Marker.at?_eq_some_iff.2 ⟨s, ⟨r, htext.symm⟩, hs.symm, rfl⟩
    refine ⟨⟨_, hat, rfl⟩, ?_⟩
    rw [htext, ← hs, s.isPlainAt_iff]
    exact ⟨hblanks, hm ▸ hne⟩
  · rintro ⟨⟨⟨m, n⟩, hat, rfl⟩, hplain⟩
    obtain ⟨s, ⟨b, ht⟩, rfl, -⟩ := Marker.at?_eq_some_iff.1 hat
    rw [← ht, s.isPlainAt_iff] at hplain
    refine ⟨s.blanks ++ '{' :: (s.name ++ '}' :: b), _, ?_,
      Lexeme.groupArgument?_eq_some_iff.2 ⟨s.blanks, s.name, b, rfl, hplain.1, s.nameChar, rfl,
        hplain.2, rfl⟩⟩
    rw [← ht]
    simp [Marker.Spelling.text, Marker.Spelling.marker]

/-! ## Live markers -/

/-- The scan reads the marker : no backslash escapes it, and it is plain. -/
def PlacedMarker.isRead (line : Text) (x : PlacedMarker) : Bool :=
  !escapes false (line.take x.start) && x.marker.isPlainAt (line.drop x.start)

/-- A line that holds the code of `t` starts with the markers that `t` starts with. -/
theorem Marker.at?_codePartFrom {escaped : Bool} {c : Char} {t s : Text}
    (h : codePartFrom escaped (c :: t) = c :: s) : at? (c :: s) = at? (c :: t) := by
  rcases eq_codePartFrom_append escaped (c :: t) with heq | ⟨r, heq⟩
  · rw [← h, heq]
  · rw [h] at heq
    rw [heq, at?_append_percent]

/-- The marker that `t` starts with, where `t` starts at the place `i`. -/
def PlacedMarker.at? (i : Nat) (t : Text) : Option PlacedMarker :=
  (Marker.at? t).map fun x => ⟨x.1, i, i + x.2⟩

theorem markersFrom_cons (i : Nat) (c : Char) (t : Text) :
    markersFrom i (c :: t) = (PlacedMarker.at? i (c :: t)).toList ++ markersFrom (i + 1) t := by
  rw [markersFrom, PlacedMarker.at?]
  cases Marker.at? (c :: t) <;> rfl

/-- The marker at a character is read where the character is code that the scan reads as that
marker. -/
theorem filter_isRead_at? {escaped : Bool} {c : Char} {a t : Text}
    (ha : escapes false a = escaped) (p : Position) :
    ((PlacedMarker.at? a.length (c :: t)).filter (PlacedMarker.isRead (a ++ c :: t))).map
        (·.marker) =
      if escaped then none else CodePlace.marker? ⟨p, c, t⟩ := by
  have hread : ∀ x : Marker × Nat,
      PlacedMarker.isRead (a ++ c :: t) ⟨x.1, a.length, a.length + x.2⟩ =
        (!escaped && x.1.isPlainAt (c :: t)) := fun x => by
    rw [PlacedMarker.isRead, List.take_left, List.drop_left, ha]
  have hfilter : ((PlacedMarker.at? a.length (c :: t)).filter
      (PlacedMarker.isRead (a ++ c :: t))).map (·.marker) =
        ((Marker.at? (c :: t)).map (·.1)).filter fun m => !escaped && m.isPlainAt (c :: t) := by
    rw [PlacedMarker.at?, Option.filter_map, Option.filter_map, Option.map_map]
    simp only [Function.comp_def, hread]
  rw [hfilter]
  cases escaped with
  | true => simp
  | false =>
    rw [if_neg Bool.false_ne_true, CodePlace.marker?]
    by_cases hc : c = '\\'
    · rw [hc, if_pos rfl, readMarker?_eq]
      rfl
    · have hnone : Marker.at? (c :: t) = none :=
        Option.eq_none_iff_forall_ne_some.2 fun x hx => hc (Marker.head_of_at? hx)
      rw [if_neg hc, hnone]
      rfl

/-- Behind the text `a` of its line, the scan reads the markers of the code that are read. -/
theorem filter_isRead_markersFrom (a : Text) {t : Text} (ht : '\n' ∉ t) (p : Position) :
    ((markersFrom a.length (codePartFrom (escapes false a) t)).filter
        (PlacedMarker.isRead (a ++ t))).map (·.marker) =
      (codePlacesFrom (.ofEscaped (escapes false a)) p t).filterMap CodePlace.marker? := by
  induction t generalizing a p with
  | nil => rfl
  | cons c t ih =>
    have hrest := ih (a ++ [c]) (fun h => ht (List.mem_cons_of_mem _ h)) (p.next c)
    have hescapes : escapes false (a ++ [c]) = (c = '\\' && !escapes false a) := escapes_append ..
    rw [hescapes, List.length_append, List.append_assoc] at hrest
    rw [codePlacesFrom_line_cons ht, codePartFrom_cons, List.filterMap_append]
    have hcode := codePartFrom_cons (escapes false a) c t
    cases hcomment : c = '%' && !escapes false a with
    | true =>
      obtain ⟨rfl, hescaped⟩ : c = '%' ∧ escapes false a = false := by simpa using hcomment
      rw [hescaped]
      rfl
    | false =>
      rw [hcomment, if_neg Bool.false_ne_true] at hcode
      have hhead := filter_isRead_at? (c := c) (t := t) (a := a) rfl p
      have hplace : (if escapes false a then [] else [(⟨p, c, t⟩ : CodePlace)]).filterMap
          CodePlace.marker? =
            (if escapes false a then none else CodePlace.marker? ⟨p, c, t⟩).toList := by
        cases escapes false a with
        | true => rfl
        | false => exact (filterMap_cons_eq _ _ _).trans (List.append_nil _)
      rw [if_neg Bool.false_ne_true, if_neg Bool.false_ne_true, ← hrest, markersFrom_cons,
        PlacedMarker.at?, Marker.at?_codePartFrom hcode, ← PlacedMarker.at?, List.filter_append,
        List.map_append, ← Option.toList_filter, ← Option.toList_map, hhead, hplace]
      rfl

/-- Where no text is taken literally, the scan reads of the live markers of a line those that
are read, in their order : all of them exactly when every one is. -/
theorem markersOf_lexemes_eq_iff {line : Text} (hline : '\n' ∉ line) (h : NoLiteral line) :
    markersOf (Lexeme.lexemes line) =
        ((liveMarkers line).filter (PlacedMarker.isRead line)).map (·.marker) ∧
      (markersOf (Lexeme.lexemes line) = (liveMarkers line).map (·.marker) ↔
        ∀ x ∈ liveMarkers line, x.isRead line = true) := by
  have hread : markersOf (Lexeme.lexemes line) =
      ((liveMarkers line).filter (PlacedMarker.isRead line)).map (·.marker) := by
    rw [liveMarkers_eq]
    exact (agrees_codePlacesFrom .start line h).markers.trans
      (filter_isRead_markersFrom [] hline .start).symm
  refine ⟨hread, ?_⟩
  rw [hread]
  constructor
  · intro heq
    have hlength := congrArg List.length heq
    rw [List.length_map, List.length_map] at hlength
    exact List.length_filter_eq_length_iff.1 hlength
  · intro hall
    rw [List.filter_eq_self.2 hall]

/-- Behind a line break, with a space that does not break, and with a blank name, live markers
are not read. -/
theorem markersOf_lexemes_eq_iff_breaks :
    '\n' ∉ "\\\\begin{a}\\end {b}\\end\u00a0{c}\\end{ }".toList ∧
      NoLiteral "\\\\begin{a}\\end {b}\\end\u00a0{c}\\end{ }".toList ∧
      markersOf (Lexeme.lexemes
        "\\\\begin{a}\\end {b}\\end\u00a0{c}\\end{ }".toList) =
          [⟨.closing, "b".toList⟩] := by
  have hline : '\n' ∉
      "\\\\begin{a}\\end {b}\\end\u00a0{c}\\end{ }".toList := by
    decide +kernel
  have h : NoLiteral
      "\\\\begin{a}\\end {b}\\end\u00a0{c}\\end{ }".toList := by
    decide +kernel
  refine ⟨hline, h, ?_⟩
  rw [(markersOf_lexemes_eq_iff hline h).1]
  decide +kernel

/-- The scan reads a line break where the line has a live marker. -/
theorem markersOf_lexemes_ne :
    '\n' ∉ "\\\\begin{a}".toList ∧ NoLiteral "\\\\begin{a}".toList ∧
      (liveMarkers "\\\\begin{a}".toList).map (·.marker) = [⟨.opening, "a".toList⟩] ∧
      markersOf (Lexeme.lexemes "\\\\begin{a}".toList) = [] := by
  decide +kernel

end LatexRepair
