import LatexRepair.Proofs.CommentBlindness
import LatexRepair.Proofs.LeftLexemes
import LatexRepair.Proofs.RulesAtRest

/-!
# Collapses and the end that is read

Which of two duplicate ends goes is decided without a scan : it is always the second one. The scan
however may read the second one as the end of the document and the first one not, as where the
first one is in a comment. A repair keeps the text up to the end of the document exactly when
there are no duplicates in it, and then the document ends where it did. Elsewhere, if no text is
taken literally, the repaired document has an end exactly if a scan that passes over all ends that
follow another one comes to an end of the document. So it has none where the end of the document is
itself the second of two duplicates and nothing behind it ends the document
(`documentEnd_repairByRules_none`), though the one before it had
(`repairByRules_none_drops_documentEnd`).
-/

namespace LatexRepair

open ScanState Terminator

variable {t u : Text} {d : DocumentEnd}

/-! ## The end that is read -/

namespace Lexeme

variable {c : Char} {name : Text} {n : Nat}

theorem controlToken_end (h : groupArgument? t = some (name, n)) :
    controlToken ("end".toList ++ t) = (.endEnvironment name, 3 + n) := by
  have hword : controlWordToken "end".toList t = (.endEnvironment name, n) := by
    rw [controlWordToken, if_neg (by decide), if_pos rfl, h]
  rw [controlToken_append (by decide) (by decide)
    (takeWhile_isCommandChar_of_groupArgument? h), hword]
  rfl

/-- An `\end` is read whatever stands behind its group. -/
theorem exists_end_of_lexeme (h : (lexeme c t).1 = .endEnvironment name) :
    ∃ w r, c = '\\' ∧ t = w ++ r ∧ Text.IsControl ('\\' :: w) ∧ w.getLast? = some '}' ∧
      ∀ q, lexeme '\\' (w ++ q) = (.endEnvironment name, w.length) := by
  have hc : c = '\\' := by
    unfold lexeme at h
    split at h
    case h_2 => rfl
    all_goals cases h
  subst hc
  change (controlToken t).1 = _ at h
  have hread := marker?_controlToken (t := t) (by rw [h]; rfl) .start .start
  rw [h] at hread
  obtain ⟨r, n, ht, hgroup⟩ := readMarker?_eq_some_iff.1 hread.symm
  obtain rfl : t = "end".toList ++ r := (List.cons.inj ht).2
  obtain ⟨g, q, rfl, rfl, hlast, -, hslash, hnewline, hreads⟩ :=
    exists_group_of_groupArgument? hgroup
  refine ⟨"end".toList ++ g, q, rfl, (List.append_assoc ..).symm, ⟨rfl, ?_, ?_⟩, ?_, fun q => ?_⟩
  · simp [hslash]
  · simp [hnewline]
  · rw [List.getLast?_append, hlast]
    rfl
  · rw [List.append_assoc]
    exact (controlToken_end (hreads q)).trans (by rw [List.length_append]; rfl)

end Lexeme

/-- The `\end` that ends a document, with the text on both sides of it. -/
structure LiveEnd (t : Text) (d : DocumentEnd) where
  before : Text
  /-- What stands behind the backslash of the `\end`, up to its closing brace. -/
  word : Text
  behind : Text
  /-- The lexemes before it. -/
  lexemes : List Lexeme
  eq_append : t = before ++ '\\' :: (word ++ behind)
  isControl : Text.IsControl ('\\' :: word)
  last : word.getLast? = some '}'
  lexeme_eq : ∀ q,
    Lexeme.lexeme '\\' (word ++ q) = (.endEnvironment documentName, word.length)
  reads : Lexeme.Reads .start before ('\\' :: (word ++ behind)) lexemes
  documentEnd_before : (run {} lexemes).documentEnd = none
  documentEnd_step : ((run {} lexemes).step ⟨.endEnvironment documentName,
    Position.start.after before,
    ((Position.start.after before).next '\\').after word⟩).documentEnd = some d
  endOffset : d.endOffset = Text.byteLength (before ++ '\\' :: word)

theorem exists_liveEnd (h : (scan t).documentEnd = some d) : Nonempty (LiveEnd t d) := by
  obtain ⟨xs, x, ys, hxs, hbefore, htoken, hstep, rfl⟩ := exists_documentEnd_step rfl h
  obtain ⟨s, c, r, rfl, hreads, rfl⟩ := Lexeme.exists_reads_of_lexemesFrom hxs
  obtain ⟨w, b, rfl, rfl, hcontrol, hlast, hlexeme⟩ := Lexeme.exists_end_of_lexeme htoken
  rw [hlexeme, List.take_left] at hstep
  refine ⟨⟨s, w, b, xs, rfl, hcontrol, hlast, hlexeme, hreads, hbefore, ?_, ?_⟩⟩
  · rw [hlexeme, List.take_left]
    exact hstep
  · rw [hlexeme, List.take_left]
    dsimp only
    rw [← Position.after_cons, ← Position.after_append, Position.offset_after]
    exact Nat.zero_add _

namespace LiveEnd

/-- The text up to and with the end of the document. -/
theorem takeBytes_eq (e : LiveEnd t d) :
    Text.takeBytes d.endOffset t = e.before ++ '\\' :: e.word := by
  have htake := Text.takeBytes_append (e.before ++ '\\' :: e.word) e.behind 0
  rw [Nat.add_zero, Text.takeBytes_zero, List.append_nil, ← e.endOffset, List.append_assoc,
    List.cons_append, ← e.eq_append] at htake
  exact htake

/-- The place behind the end of the document. -/
def stop (e : LiveEnd t d) : Position :=
  ((Position.start.after e.before).next '\\').after e.word

/-- What a scan knows there. -/
def state (e : LiveEnd t d) : ScanState :=
  (run {} e.lexemes).step ⟨.endEnvironment documentName, Position.start.after e.before, e.stop⟩

/-- A scan comes to the end of the document with the same knowledge, whatever is behind it. -/
theorem run_eq (e : LiveEnd t d) (r : Text) :
    run {} (Lexeme.lexemes (e.before ++ '\\' :: (e.word ++ r))) =
      e.state.run (Lexeme.lexemesFrom e.stop r) := by
  have hreads : Lexeme.Reads .start e.before ('\\' :: (e.word ++ r)) e.lexemes :=
    e.reads.exchange (fun hnil => absurd hnil (List.cons_ne_nil _ _)) (.inr rfl) (.inr rfl)
  rw [Lexeme.lexemes, hreads.lexemesFrom_append, run_append, Lexeme.lexemesFrom_cons, e.lexeme_eq,
    List.take_left, List.drop_left]
  rfl

/-- A document that starts with the same text up to the end of the document ends there. -/
theorem documentEnd_scan (e : LiveEnd t d) (r : Text) :
    (scan (e.before ++ '\\' :: (e.word ++ r))).documentEnd = some d := by
  change (run {} (Lexeme.lexemes _)).documentEnd = some d
  rw [e.run_eq]
  exact documentEnd_run_of_some e.documentEnd_step

/-- Where the end of the document is gone and nothing behind it is one, there is none. -/
theorem documentEnd_scan_front (e : LiveEnd t d) (hline : e.before.getLast? = some '\n')
    {r : Text} (hr : .endEnvironment documentName ∉ (Lexeme.lexemes r).map (·.token)) :
    (scan (e.before ++ r)).documentEnd = none := by
  have hreads : Lexeme.Reads .start e.before r e.lexemes :=
    e.reads.exchange (fun hnil => absurd hnil (List.cons_ne_nil _ _)) (.inl hline) (.inl hline)
  rw [scan_of_reads hreads]
  refine documentEnd_run_eq_none e.documentEnd_before fun x hx heq => hr ?_
  rw [Lexeme.lexemes, Lexeme.map_token_lexemesFrom _ (Position.start.after e.before), ← heq]
  exact List.mem_map_of_mem hx

end LiveEnd

theorem Lexeme.map_token_newline (r : Text) :
    (lexemes ('\n' :: r)).map (·.token) = .plain '\n' :: (lexemes r).map (·.token) := by
  have hlex : lexeme '\n' r = (.plain '\n', 0) := rfl
  rw [lexemes, lexemesFrom_cons, hlex, List.map_cons, List.drop_zero,
    map_token_lexemesFrom _ Position.start]
  rfl

/-! ## Duplicates up to a place -/

/-- A beginning of a joined text ends in the first part or in the second one. -/
theorem Text.prefix_append_cases {p s r : Text} (h : p <+: s ++ r) :
    p <+: s ∨ ∃ q, p = s ++ q ∧ q <+: r := by
  rcases List.prefix_or_prefix_of_prefix h (List.prefix_append s r) with h' | ⟨q, rfl⟩
  · exact .inl h'
  · exact .inr ⟨q, rfl, (List.prefix_append_right_inj s).1 h⟩

namespace Terminator

variable {p a f gap rest : Text}

/-- Nothing but the whole end of the document starts like it and holds its closing brace. -/
theorem eq_terminator_of_brace {q : Text} (h : q <+: terminator) (hq : '}' ∈ q) :
    q = terminator := by
  have hconcat : terminator = terminator.dropLast ++ ['}'] := by decide
  rw [hconcat, List.prefix_concat_iff] at h
  rcases h with rfl | h
  · exact hconcat.symm
  · exact absurd (h.subset hq) (by decide)

/-- A collapse keeps the text up to a closing brace where there are no duplicates in it. -/
theorem DropsEnd.keeps_front (h : DropsEnd t u) (hp : p <+: t) (hlast : p.getLast? = some '}')
    (hends : ¬HasDuplicate p) : p <+: u := by
  obtain ⟨a, kept, blanks, lineBreak, b, hkept, -, hblanks, -⟩ := h
  rw [← List.append_assoc terminator, ← List.append_assoc a] at hp ⊢
  rcases Text.prefix_append_cases hp with hp | ⟨q, rfl, hq⟩
  · exact hp.trans (List.prefix_append _ _)
  rcases eq_or_ne q [] with rfl | hne
  · rw [List.append_nil]
    exact List.prefix_append _ _
  -- The closing brace would stand behind the blanks, with an end of the document before it.
  exfalso
  have hbrace : '}' ∈ q :=
    List.mem_of_getLast? (by rwa [List.getLast?_append_of_ne_nil _ hne] at hlast)
  have hblank : '}' ∉ blanks := fun hmem => by cases hblanks _ hmem
  rcases Text.prefix_append_cases hq with hq | ⟨s, rfl, hs⟩
  · exact hblank (hq.subset hbrace)
  have hbrace : '}' ∈ s := (List.mem_append.1 hbrace).resolve_left hblank
  have hend : terminator <+: s := by
    rcases Text.prefix_append_cases hs with hs | ⟨r, rfl, -⟩
    · exact (eq_terminator_of_brace hs hbrace).symm ▸ List.prefix_rfl
    · exact List.prefix_append _ _
  obtain ⟨r, rfl⟩ := hend
  exact hends ⟨a, kept ++ blanks, r, hkept.append (isSeparator_blanks hblanks), by simp⟩

/-- Up to a closing brace exactly the text without duplicates is kept. -/
theorem prefix_collapse_iff (hr : '\r' ∉ t) (hp : p <+: t) (hlast : p.getLast? = some '}') :
    p <+: (collapse t).1 ↔ ¬HasDuplicate p := by
  constructor
  · rintro ⟨r, hr'⟩ hends
    exact not_hasDuplicate_collapse hr (hr' ▸ hends.append r)
  · intro hends
    exact collapse_induction (motive := fun t u => p <+: t → p <+: u) (fun _ _ => id)
      (fun _ _ _ hone ih hp => ih ((of_collapseOne? hone).keeps_front hp hlast hends)) t hp

/-! ## The last of all ends -/

theorem not_hasDuplicate_append (hf : f.getLast? = some '\n') (hends : ¬HasDuplicate f)
    {b : Text} (hb : ¬terminator <:+: b) : ¬HasDuplicate (f ++ b) := by
  rintro ⟨a, gap, b', hgap, heq⟩
  rw [← List.append_assoc terminator, ← List.append_assoc a] at heq
  rcases Text.word_append_cases (EndsWord.border_terminator (.inr hf)) heq with
    ⟨k, rfl, -⟩ | ⟨k, -, rfl⟩
  · exact hends ⟨a, gap, k, hgap, by simp⟩
  · exact hb ⟨k, b', by simp⟩

/-- Only the last of all ends can go where there are no duplicates before its line. -/
theorem DropsEnd.of_last (hf : f.getLast? = some '\n') (hends : ¬HasDuplicate f)
    (hrest : ¬terminator <:+: rest) (h : DropsEnd (f ++ (terminator ++ rest)) u) :
    ∃ lineBreak b, rest = lineBreak ++ b ∧ (lineBreak = [] ∨ lineBreak = ['\n']) ∧
      u = f ++ b := by
  generalize ht : f ++ (terminator ++ rest) = t at h
  obtain ⟨a, kept, blanks, lineBreak, b, hkept, -, hblanks, hbreak⟩ := h
  have hgap := hkept.append (isSeparator_blanks hblanks)
  rw [← List.append_assoc kept, ← List.append_assoc terminator, ← List.append_assoc a] at ht
  rcases Text.word_append_cases (EndsWord.border_terminator (.inr hf)) ht with
    ⟨k, rfl, -⟩ | ⟨k, hfront, hk⟩
  · exact absurd ⟨a, kept ++ blanks, k, hgap, by simp⟩ hends
  obtain rfl : k = [] := by
    rcases List.append_eq_append_iff.1 hk with ⟨k', rfl, hk'⟩ | ⟨k', hsplit, hk'⟩
    · exact absurd ⟨k', lineBreak ++ b, by rw [hk', List.append_assoc]⟩ hrest
    · cases k' with
      | nil => exact absurd ⟨[], lineBreak ++ b, hk'⟩ hrest
      | cons c k' =>
        obtain rfl : '\\' = c := (List.cons.inj hk').1
        have hwhole := Text.isControl_terminator.eq_of_suffix ⟨k, hsplit.symm⟩ rfl
        rw [hwhole] at hsplit
        exact List.append_left_eq_self.1 hsplit.symm
  have hblank : blanks = [] := by
    rcases List.eq_nil_or_concat blanks with rfl | ⟨s, c, rfl⟩
    · rfl
    · rw [List.append_nil] at hfront
      rw [← hfront, List.concat_eq_append, ← List.append_assoc, ← List.append_assoc,
        ← List.append_assoc, List.getLast?_concat] at hf
      obtain rfl := Option.some.inj hf
      cases hblanks '\n' (by simp)
  subst hblank
  refine ⟨lineBreak, b, List.append_cancel_left hk, hbreak.imp_right And.left, ?_⟩
  rw [← List.append_nil f, ← hfront]
  simp

/-- The last of all ends goes where it stands at the start of a line behind another one. -/
theorem collapse_last (hgap : IsSeparator gap) (hline : gap.getLast? = some '\n')
    (hends : ¬HasDuplicate (a ++ (terminator ++ gap))) (hrest : ¬terminator <:+: rest)
    (hr : '\r' ∉ a ++ (terminator ++ gap) ++ (terminator ++ rest)) :
    ∃ lineBreak b, rest = lineBreak ++ b ∧ (lineBreak = [] ∨ lineBreak = ['\n']) ∧
      (collapse (a ++ (terminator ++ gap) ++ (terminator ++ rest))).1 =
        a ++ (terminator ++ gap) ++ b := by
  have hf : (a ++ (terminator ++ gap)).getLast? = some '\n' := by
    rw [List.getLast?_append, List.getLast?_append, hline]
    rfl
  have hduplicate : HasDuplicate (a ++ (terminator ++ gap) ++ (terminator ++ rest)) :=
    ⟨a, gap, rest, hgap, by simp⟩
  obtain ⟨u, hone⟩ := Option.ne_none_iff_exists'.1 fun hnone =>
    (collapseOne?_eq_none_iff hr).1 hnone hduplicate
  have hdrop := of_collapseOne? hone
  obtain ⟨lineBreak, b, rfl, hbreak, rfl⟩ := hdrop.of_last hf hends hrest
  have hb : ¬terminator <:+: b := fun h => hrest (h.trans (List.suffix_append lineBreak b).isInfix)
  have hrests := (collapseOne?_eq_none_iff fun h => hr (hdrop.sublist.subset h)).2
    (not_hasDuplicate_append hf hends hb)
  exact ⟨lineBreak, b, rfl, hbreak, by rw [collapse_of_some hone, collapse_of_none hrests]⟩

end Terminator

/-! ## Repairs -/

namespace LiveEnd

theorem takeBytes_isPrefix (e : LiveEnd t d) : Text.takeBytes d.endOffset t <+: t := by
  rw [e.takeBytes_eq]
  exact ⟨e.behind, by rw [List.append_assoc]; exact e.eq_append.symm⟩

theorem getLast?_takeBytes (e : LiveEnd t d) :
    (Text.takeBytes d.endOffset t).getLast? = some '}' := by
  rw [e.takeBytes_eq, List.getLast?_append, List.getLast?_cons, e.last]
  rfl

/-- Where the end of the document is at the start of a line the last of all ends, and only it is
a duplicate, the collapsed document has no end. -/
theorem documentEnd_collapse (e : LiveEnd t d) {a gap rest : Text} (hr : '\r' ∉ t)
    (hfront : Text.takeBytes d.endOffset t = a ++ (terminator ++ gap) ++ terminator)
    (ht : t = Text.takeBytes d.endOffset t ++ rest) (hgap : IsSeparator gap)
    (hline : gap.getLast? = some '\n') (hends : ¬HasDuplicate (a ++ (terminator ++ gap)))
    (hrest : ¬terminator <:+: rest)
    (hread : .endEnvironment documentName ∉ (Lexeme.lexemes rest).map (·.token)) :
    (scan (collapse t).1).documentEnd = none := by
  obtain ⟨hbefore, -⟩ :=
    e.isControl.append_inj Text.isControl_terminator (e.takeBytes_eq.symm.trans hfront)
  have htext : t = a ++ (terminator ++ gap) ++ (terminator ++ rest) := by
    rw [← List.append_assoc, ← hfront]
    exact ht
  rw [htext] at hr
  obtain ⟨lineBreak, b, rfl, hbreak, hcollapse⟩ := collapse_last hgap hline hends hrest hr
  have hb : .endEnvironment documentName ∉ (Lexeme.lexemes b).map (·.token) := by
    rcases hbreak with rfl | rfl
    · exact hread
    · exact fun hmem => hread (by
        rw [List.singleton_append, Lexeme.map_token_newline]
        exact List.mem_cons_of_mem _ hmem)
  rw [← htext, ← hbefore] at hcollapse
  rw [hcollapse]
  refine e.documentEnd_scan_front ?_ hb
  rw [hbefore, List.getLast?_append, List.getLast?_append, hline]
  rfl

end LiveEnd

/-- A repair without a validation keeps the text up to the end of the document exactly where
there are no duplicate ends in it, and then the document ends where it did. Where no text is taken
literally the repaired document has an end exactly if a scan that passes over the ends that follow
another one comes to an end of the document. Where the end of the document starts a line and only
a separator is between it and an end before it, the only duplicate so far, and nothing behind it
ends the document, the repaired document has no end. -/
theorem documentEnd_repairByRules_none (allowBalance : Bool) (htypos : Typo.Spelled t)
    (hr : '\r' ∉ t) (hd : (scan t).documentEnd = some d) :
    let r := (repairByRules allowBalance none t).content
    let p := Text.takeBytes d.endOffset t
    (p <+: r ↔ ¬HasDuplicate p) ∧ (¬HasDuplicate p → (scan r).documentEnd = some d) ∧
      (NoLiteral t →
        (scan r).documentEnd.isSome = (run {} (leftLexemes t)).documentEnd.isSome) ∧
      ∀ a gap rest, p = a ++ (terminator ++ gap) ++ terminator → t = p ++ rest →
        IsSeparator gap → gap.getLast? = some '\n' → ¬HasDuplicate (a ++ (terminator ++ gap)) →
        ¬terminator <:+: rest →
        .endEnvironment documentName ∉ (Lexeme.lexemes rest).map (·.token) →
        (scan r).documentEnd = none := by
  intro r p
  have hcontent : r = (collapse t).1 := by
    have hcontent := content_repairByRules_none allowBalance t
    rwa [Typo.correctAll_of_spelled htypos, Text.normalizeNewlines_of_not_mem hr] at hcontent
  obtain ⟨e⟩ := exists_liveEnd hd
  have hkeeps : p <+: r ↔ ¬HasDuplicate p := by
    rw [hcontent]
    exact prefix_collapse_iff hr e.takeBytes_isPrefix e.getLast?_takeBytes
  refine ⟨hkeeps, fun hends => ?_, fun hliteral => ?_,
    fun a gap rest hfront ht hgap hline hends hrest hread => ?_⟩
  · obtain ⟨q, hq⟩ := hkeeps.2 hends
    have hp : p = e.before ++ '\\' :: e.word := e.takeBytes_eq
    rw [← hq, hp, List.append_assoc]
    exact e.documentEnd_scan q
  · rw [hcontent]
    exact isSome_documentEnd_collapse hr hliteral
  · rw [hcontent]
    exact e.documentEnd_collapse hr hfront ht hgap hline hends hrest hread

/-- A duplicate behind the end of the document goes and the end stays; behind an end in a comment
the end of the document goes, and the document ends where another one is left. -/
theorem documentEnd_repairByRules_none_behind_comment :
    let kept := "\\begin{document}\n\\end{document}\n%\n\\end{document}".toList
    let lost := "\\begin{document}\n%\\end{document}\n\\end{document}".toList
    let later := lost ++ "\nx\n\\end{document}".toList
    (scan (repairByRules false none kept).content).documentEnd = some ⟨⟨2, 1, 17⟩, 31⟩ ∧
      (scan (repairByRules false none lost).content).documentEnd = none ∧
        (scan (repairByRules false none later).content).documentEnd.isSome = true := by
  intro kept lost later
  have hspelled : Typo.Spelled kept ∧ Typo.Spelled lost ∧ Typo.Spelled later := by
    unfold Typo.Spelled
    decide +kernel
  have hreturn : '\r' ∉ kept ∧ '\r' ∉ lost ∧ '\r' ∉ later := by decide +kernel
  have hkept : (scan kept).documentEnd = some ⟨⟨2, 1, 17⟩, 31⟩ := by decide +kernel
  have hlost : (scan lost).documentEnd = some ⟨⟨3, 1, 33⟩, 47⟩ := by decide +kernel
  have hlater : (scan later).documentEnd = some ⟨⟨3, 1, 33⟩, 47⟩ := by decide +kernel
  refine ⟨?_, ?_, ?_⟩
  · refine (documentEnd_repairByRules_none false hspelled.1 hreturn.1 hkept).2.1 ?_
    exact (collapseOne?_eq_none_iff (by decide +kernel)).1 (by decide +kernel)
  · refine (documentEnd_repairByRules_none false hspelled.2.1 hreturn.2.1 hlost).2.2.2
      "\\begin{document}\n%".toList ['\n'] [] (by decide +kernel) (by decide +kernel)
      (.newline .nil) rfl ?_ (by decide) (by decide +kernel)
    exact (collapseOne?_eq_none_iff (by decide +kernel)).1 (by decide +kernel)
  · refine ((documentEnd_repairByRules_none false hspelled.2.2 hreturn.2.2 hlater).2.2.1 ?_).trans
      (by decide +kernel)
    decide +kernel

/-- A repair takes the only end of a document away, for an end in the comment before it. -/
theorem repairByRules_none_drops_documentEnd :
    let t := ("\\documentclass{article}\n\\begin{document}\nx\n" ++
      "%\\end{document}\n\\end{document}\n").toList
    (∀ typo ∈ Typo.all, Text.contains typo.wrong t = false) ∧ '\r' ∉ t ∧
      (scan t).documentEnd.isSome = true ∧
      (scan (repairByRules false none t).content).documentEnd = none := by
  decide +kernel

end LatexRepair
