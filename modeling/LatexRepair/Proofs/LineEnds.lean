import LatexRepair.RuleRepair
import LatexRepair.Proofs.CommentBlindness
import LatexRepair.Proofs.ReadMarkers

/-!
# Line ends

A carriage return in front of a newline changes nothing that a validation reports, so a
document with `Text.crlf` line ends has the issues that it has with newlines alone, and to
normalize its line ends does not change them (`validate_crlf`).

A line end cuts the lexeme that comes to it in one of three ways (`Meets`) : the lexeme ends
before it and does not see the carriage return; or it ends at the newline and takes the
carriage return in, as a comment does; or it goes over the line end, as a verbatim
environment does. Only an escaped line end is read as another token. In each case the scan
goes on behind the line end as if one byte had been put in before the next line
(`ScanState.move_run_line`), so the outcome is that of the newline alone, where it has moved
(`scan_return`).
-/

namespace LatexRepair

namespace Text

/-- The text with a carriage return and a newline for each newline. -/
def crlf (t : Text) : Text :=
  replaceAll ['\n'] ['\r', '\n'] t

@[simp] theorem crlf_nil : crlf [] = [] := by
  rw [crlf, replaceAll]

@[simp] theorem crlf_newline (t : Text) : crlf ('\n' :: t) = '\r' :: '\n' :: crlf t := by
  rw [crlf, replaceAll]
  rfl

@[simp] theorem crlf_cons {c : Char} (hc : c ≠ '\n') (t : Text) : crlf (c :: t) = c :: crlf t := by
  have hstart : startsWith ['\n'] (c :: t) = false := by
    simp [startsWith, List.isPrefixOf, Ne.symm hc]
  rw [crlf, replaceAll, hstart, if_neg Bool.false_ne_true]
  rfl

/-- A character out of a class ends the leading characters in it. -/
theorem takeWhile_append_cons_of_neg {P : Char → Bool} {d : Char} (hd : ¬P d = true)
    (a r : Text) : (a ++ d :: r).takeWhile P = a.takeWhile P := by
  rw [List.takeWhile_append]
  split
  · rename_i hlen
    rw [List.takeWhile_cons_of_neg hd, List.append_nil,
      (List.takeWhile_prefix P).eq_of_length hlen]
  · rfl

/-- A character that is not in a text cuts the search for the text. -/
theorem find?_append_cons {needle : Text} {c : Char} (hc : c ∉ needle) (hne : needle ≠ [])
    (a b : Text) :
    find? needle (a ++ c :: b) =
      (find? needle a).or ((find? needle b).map (· + (a.length + 1))) := by
  induction a with
  | nil =>
    have hempty : find? needle [] = none := by
      rw [find?, if_neg (by simpa using hne)]
    have hstart : startsWith needle (c :: b) = false := by
      rw [startsWith, Bool.eq_false_iff, ne_eq, List.isPrefixOf_iff_prefix]
      intro hstarts
      obtain ⟨d, needle, rfl⟩ := List.exists_cons_of_ne_nil hne
      obtain ⟨rfl, -⟩ := List.cons_prefix_cons.1 hstarts
      exact hc (List.mem_cons_self ..)
    rw [hempty, List.nil_append, find?, hstart, if_neg Bool.false_ne_true]
    rfl
  | cons d a ih =>
    have hstart : startsWith needle (d :: (a ++ c :: b)) = startsWith needle (d :: a) := by
      rw [Bool.eq_iff_iff, startsWith, startsWith, List.isPrefixOf_iff_prefix,
        List.isPrefixOf_iff_prefix, ← List.cons_append, Marker.isPrefix_append_cons_iff hc]
    rw [List.cons_append, find?, find?, hstart, ih]
    split
    · rfl
    · cases find? needle a <;> cases find? needle b <;> rfl

end Text

/-! ## The lexeme that meets a line end -/

/-- The token is the end of an environment. -/
def Token.isEnd : Token → Bool
  | .endEnvironment _ => true
  | _ => false

namespace Lexeme

/-- What a lexeme that starts in front of `a` is before a line end behind `a`, and what it is
before the line end with a carriage return. -/
inductive Meets (a : Text) : Token × Nat → Token × Nat → Prop where
  /-- It ends before the line end. -/
  | inside {token : Token} {n : Nat} (h : n ≤ a.length) : Meets a (token, n) (token, n)
  /-- It ends at the newline. -/
  | stops {token : Token} (h : token.isEnd = false) :
      Meets a (token, a.length) (token, a.length + 1)
  /-- It ends behind the newline. -/
  | goesOver {token : Token} (h : token.isEnd = false) (n : Nat) :
      Meets a (token, a.length + 1 + n) (token, a.length + 2 + n)

theorem Meets.shift {a : Text} {x y : Token × Nat} {k : Nat} (hk : k ≤ a.length)
    (h : Meets (a.drop k) x y) : Meets a (x.1, k + x.2) (y.1, k + y.2) := by
  have hlength := List.length_drop (i := k) (l := a)
  cases h with
  | @inside token n h => exact .inside (by omega)
  | @stops token h =>
    have := Meets.stops (a := a) h
    convert this using 2 <;> dsimp only <;> omega
  | @goesOver token h n =>
    have := Meets.goesOver (a := a) h n
    convert this using 2 <;> dsimp only <;> omega

section LineEnd

variable (a b : Text)

/-- Characters of a class that a newline ends, but no carriage return. -/
theorem meets_takeWhile {token : Token} (h : token.isEnd = false) {P : Char → Bool}
    (hn : P '\n' = false) (hr : P '\r' = true) :
    Meets a (token, ((a ++ '\n' :: b).takeWhile P).length)
      (token, ((a ++ '\r' :: '\n' :: b).takeWhile P).length) := by
  rw [List.takeWhile_append, List.takeWhile_append]
  split
  · rw [List.takeWhile_cons_of_neg (by simp [hn]), List.takeWhile_cons_of_pos hr,
      List.takeWhile_cons_of_neg (by simp [hn]), List.append_nil, List.length_append]
    exact .stops h
  · exact .inside (Text.length_takeWhile_le P a)

/-- Delimited text ends at the newline where its delimiter does not come back. -/
theorem meets_delimitedLength :
    Meets a (.verb, delimitedLength (a ++ '\n' :: b))
      (.verb, delimitedLength (a ++ '\r' :: '\n' :: b)) := by
  cases a with
  | nil => exact .inside (Nat.zero_le _)
  | cons d body =>
    simp only [List.cons_append, delimitedLength]
    by_cases hd : isBlank d || d.isAlpha
    · rw [if_pos hd, if_pos hd]
      exact .inside (Nat.zero_le _)
    · rw [if_neg hd, if_neg hd]
      have hne : ∀ c, isBlank c = true → c ≠ d := fun c hc heq => by simp [← heq, hc] at hd
      have hnewline : '\n' ≠ d := hne _ (by decide)
      have hreturn : '\r' ≠ d := hne _ (by decide)
      generalize hP : (fun c => decide (c ≠ d) && decide (c ≠ '\n')) = P
      have hn : ¬P '\n' = true := by simp [← hP]
      have hr : P '\r' = true := by simp [← hP, hreturn]
      by_cases hall : ∀ c ∈ body, P c = true
      · rw [List.takeWhile_append_of_pos hall, List.takeWhile_append_of_pos hall,
          List.dropWhile_append_of_pos hall, List.dropWhile_append_of_pos hall,
          List.takeWhile_cons_of_pos hr, List.dropWhile_cons_of_pos hr,
          List.takeWhile_cons_of_neg hn, List.dropWhile_cons_of_neg hn]
        have hstops : Meets (d :: body) (.verb, (d :: body).length)
            (.verb, (d :: body).length + 1) := .stops rfl
        simpa [hnewline, Nat.add_comm 1] using hstops
      · have hrest : body.dropWhile P ≠ [] := mt List.dropWhile_eq_nil_iff.1 hall
        obtain ⟨c, rest, hc⟩ := List.exists_cons_of_ne_nil hrest
        have hlength := congrArg List.length (List.takeWhile_append_dropWhile (p := P) (l := body))
        rw [List.length_append, hc, List.length_cons] at hlength
        have happend : ∀ r, (body ++ r).takeWhile P = body.takeWhile P ∧
            (body ++ r).dropWhile P = c :: (rest ++ r) := fun r => by
          rw [List.takeWhile_append, List.dropWhile_append, if_neg (by omega), hc]
          exact ⟨rfl, if_neg (by simp)⟩
        rw [(happend _).1, (happend _).1, (happend _).2, (happend _).2]
        refine .inside ?_
        rw [List.length_cons, List.head?_cons]
        split <;> omega

theorem meets_verbLength :
    Meets a (.verb, verbLength (a ++ '\n' :: b)) (.verb, verbLength (a ++ '\r' :: '\n' :: b)) := by
  have hhead : ∀ r : Text, r.head? ≠ some '*' →
      ((a ++ r).head? = some '*' ↔ a.head? = some '*') := fun r hr => by
    cases a with
    | nil => simp [hr]
    | cons c a => rfl
  rw [verbLength_eq, verbLength_eq]
  simp only [hhead _ (by simp : ('\n' :: b).head? ≠ some '*'),
    hhead _ (by simp : ('\r' :: '\n' :: b).head? ≠ some '*')]
  have hstar : (if a.head? = some '*' then 1 else 0) ≤ a.length := by
    cases a with
    | nil => simp
    | cons c a => split <;> simp
  generalize (if a.head? = some '*' then 1 else 0) = star at hstar
  rw [List.drop_append_of_le_length hstar, List.drop_append_of_le_length hstar]
  exact (meets_delimitedLength (a.drop star) b).shift hstar

/-- A verbatim environment goes over the line end, unless its end stands before it. -/
theorem meets_verbatimToken {name : Text} (hn : '\n' ∉ name) (hr : '\r' ∉ name) :
    Meets a (verbatimToken name (a ++ '\n' :: b))
      (verbatimToken name (a ++ '\r' :: '\n' :: b)) := by
  have hend : '\n' ∉ verbatimEnd name ∧ '\r' ∉ verbatimEnd name ∧ verbatimEnd name ≠ [] := by
    simp [verbatimEnd, hn, hr]
  obtain ⟨hn, hr, hne⟩ := hend
  have hfind : Text.find? (verbatimEnd name) ('\n' :: b) =
      (Text.find? (verbatimEnd name) b).map (· + 1) := by
    have hempty : Text.find? (verbatimEnd name) [] = none := if_neg (by simpa using hne)
    have hcut := Text.find?_append_cons hn hne [] b
    rwa [hempty, Option.none_or] at hcut
  unfold verbatimToken
  rw [Text.find?_append_cons hn hne, Text.find?_append_cons hr hne, hfind]
  cases ha : Text.find? (verbatimEnd name) a with
  | some i => exact .inside (Text.length_le_of_find? ha)
  | none =>
    cases Text.find? (verbatimEnd name) b with
    | some j =>
      have hover : Meets a (.verbatim name true, a.length + 1 + (j + (verbatimEnd name).length))
          (.verbatim name true, a.length + 2 + (j + (verbatimEnd name).length)) :=
        .goesOver rfl _
      simpa [Nat.add_assoc, Nat.add_comm, Nat.add_left_comm] using hover
    | none =>
      have hover : Meets a (.verbatim name false, a.length + 1 + b.length)
          (.verbatim name false, a.length + 2 + b.length) := .goesOver rfl _
      simpa [Nat.add_assoc, Nat.add_comm, Nat.add_left_comm] using hover

/-- A text starts with a group exactly when it starts with the characters of one. -/
theorem groupArgument?_eq_some_iff_isPrefix {t env : Text} {n : Nat} :
    groupArgument? t = some (env, n) ↔ ∃ blanks content : Text,
      (blanks ++ '{' :: content) ++ ['}'] <+: t ∧ (∀ c ∈ blanks, isSpaceOrTab c = true) ∧
        (∀ c ∈ content, Marker.isNameChar c = true) ∧ env = Text.trim content ∧ env ≠ [] ∧
          n = blanks.length + content.length + 2 := by
  rw [groupArgument?_eq_some_iff]
  constructor
  · rintro ⟨blanks, content, r, rfl, h⟩
    exact ⟨blanks, content, ⟨r, by simp⟩, h⟩
  · rintro ⟨blanks, content, ⟨r, rfl⟩, h⟩
    exact ⟨blanks, content, r, by simp, h⟩

/-- No group reaches over a newline. -/
theorem groupArgument?_append_newline (s r : Text) :
    groupArgument? (s ++ '\n' :: r) = groupArgument? s := by
  refine Option.ext fun ⟨env, n⟩ => ?_
  rw [groupArgument?_eq_some_iff_isPrefix, groupArgument?_eq_some_iff_isPrefix]
  refine exists_congr fun blanks => exists_congr fun content => and_congr_left fun h => ?_
  have hblanks : '\n' ∉ blanks := fun hmem => absurd (h.1 _ hmem) (by decide)
  have hcontent : '\n' ∉ content := fun hmem => absurd (h.2.1 _ hmem) (by decide)
  exact Marker.isPrefix_append_cons_iff (by simp [hblanks, hcontent])

/-- No group ends in the carriage return before it. -/
theorem groupArgument?_append_return (s : Text) :
    groupArgument? (s ++ ['\r']) = groupArgument? s := by
  refine Option.ext fun ⟨env, n⟩ => ?_
  rw [groupArgument?_eq_some_iff_isPrefix, groupArgument?_eq_some_iff_isPrefix]
  refine exists_congr fun blanks => exists_congr fun content => and_congr_left fun _ => ?_
  rw [List.prefix_concat_iff, or_iff_right]
  intro heq
  have hlast := (List.append_inj' heq rfl).2
  simp at hlast

theorem groupArgument?_append_crlf (s r : Text) :
    groupArgument? (s ++ '\r' :: '\n' :: r) = groupArgument? s := by
  have hnewline := groupArgument?_append_newline (s ++ ['\r']) r
  rw [List.append_assoc] at hnewline
  exact hnewline.trans (groupArgument?_append_return s)

theorem meets_controlWordToken (name : Text) :
    Meets a (controlWordToken name (a ++ '\n' :: b))
      (controlWordToken name (a ++ '\r' :: '\n' :: b)) := by
  have hword : ∀ token : Token, Meets a (token, 0) (token, 0) := fun _ => .inside (Nat.zero_le _)
  unfold controlWordToken
  rw [groupArgument?_append_newline, groupArgument?_append_crlf]
  split
  · cases hg : groupArgument? a with
    | none => exact hword _
    | some arg =>
      obtain ⟨env, n⟩ := arg
      have hle := groupArgument?_le hg
      dsimp only
      split
      · rename_i hv
        rw [List.drop_append_of_le_length hle, List.drop_append_of_le_length hle]
        have hcatalog : ∀ n ∈ Catalog.verbatimEnvironments, '\n' ∉ n.toList ∧ '\r' ∉ n.toList := by
          decide
        have hname : '\n' ∉ env ∧ '\r' ∉ env := by
          obtain ⟨n, hn, heq⟩ := List.any_eq_true.1 hv
          exact of_decide_eq_true heq ▸ hcatalog n hn
        exact (meets_verbatimToken _ b hname.1 hname.2).shift hle
      · exact .inside hle
  · split
    · cases hg : groupArgument? a with
      | none => exact hword _
      | some arg => exact .inside (groupArgument?_le hg)
    · split
      · exact hword _
      · split
        · exact meets_verbLength a b
        · cases IncludeCommand.ofName? name with
          | none => exact hword _
          | some command =>
            cases hg : groupArgument? a with
            | none => exact hword _
            | some arg => exact .inside (groupArgument?_le hg)

/-- A control sequence meets a line end, or a backslash escapes it. -/
theorem meets_controlToken (hne : a ≠ []) :
    Meets a (controlToken (a ++ '\n' :: b)) (controlToken (a ++ '\r' :: '\n' :: b)) := by
  obtain ⟨c, a, rfl⟩ := List.exists_cons_of_ne_nil hne
  by_cases hc : isCommandChar c = true
  · simp only [List.cons_append, controlToken, hc, ↓reduceIte]
    rw [← List.cons_append, ← List.cons_append, Text.takeWhile_append_cons_of_neg (by decide),
      Text.takeWhile_append_cons_of_neg (by decide)]
    have hle := Text.length_takeWhile_le isCommandChar (c :: a)
    rw [List.drop_append_of_le_length hle, List.drop_append_of_le_length hle]
    exact (meets_controlWordToken _ b _).shift hle
  · simp only [List.cons_append, controlToken, hc, Bool.false_eq_true, ↓reduceIte]
    exact .inside (by simp)

/-- A lexeme meets a line end, unless it is the one that escapes it. -/
theorem meets_lexeme (c : Char) (h : c = '\\' → a ≠ []) :
    Meets a (lexeme c (a ++ '\n' :: b)) (lexeme c (a ++ '\r' :: '\n' :: b)) := by
  unfold lexeme
  split
  · exact meets_takeWhile a b rfl (by decide) (by decide)
  · exact meets_controlToken a b (h rfl)
  case h_7 =>
    rw [Text.takeWhile_append_cons_of_neg (by decide),
      Text.takeWhile_append_cons_of_neg (by decide)]
    exact .inside (Text.length_takeWhile_le _ a)
  all_goals exact .inside (Nat.zero_le _)

end LineEnd

end Lexeme

/-! ## Scanning over a line end -/

/-- One byte is put in before the line behind the one of `q`. -/
def Insertion.behindLine (q : Position) : Insertion :=
  ⟨q.line + 1, 0, 1⟩

theorem Position.move_next_newline (q : Position) :
    (q.next '\n').move (.behindLine q) = (q.next '\r').next '\n' := by
  have hn : ('\n' : Char).utf8Size = 1 := by decide
  have hr : ('\r' : Char).utf8Size = 1 := by decide
  simp [next, move, Insertion.behindLine, Insertion.moveLine, Insertion.moveOffset, hn, hr]

theorem Insertion.line_behindLine_le (q : Position) :
    (behindLine q).line ≤ (q.next '\n').line := by
  simp [behindLine, Position.next]

namespace ScanState

variable (s : ScanState)

/-- Only the end of an environment says where it ends. -/
theorem step_of_isEnd {token : Token} (h : token.isEnd = false) (p q q' : Position) :
    s.step ⟨token, p, q⟩ = s.step ⟨token, p, q'⟩ := by
  cases token with
  | endEnvironment name => cases h
  | controlSymbol c =>
    induction c using Token.mathSymbol_cases with
    | other c h₁ h₂ h₃ h₄ => simp [step, act, noteTrailing, h₁, h₂, h₃, h₄]
    | _ => rfl
  | verbatim name closed => cases closed <;> rfl
  | _ => rfl

theorem run_return (p : Position) (t : Text) :
    s.run (Lexeme.lexemesFrom p ('\r' :: t)) = s.run (Lexeme.lexemesFrom (p.next '\r') t) := by
  have hlex : Lexeme.lexeme '\r' t = (.plain '\r', 0) := rfl
  rw [Lexeme.lexemesFrom_cons, hlex, run, List.foldl_cons, step_blank _ (by decide)]
  rfl

section LineEnd

variable {token : Token} {p q : Position} (b : Text)

/-- Behind the line end at `q` the scan goes on where the text has moved. -/
theorem move_run_newline :
    (s.run (Lexeme.lexemesFrom q ('\n' :: b))).move (.behindLine q) =
      (s.move (.behindLine q)).run (Lexeme.lexemesFrom (q.next '\r') ('\n' :: b)) := by
  rw [run_newline, run_newline, ← Position.move_next_newline]
  exact move_run (Lexeme.forall₂_moved_lexemesFrom (Insertion.line_behindLine_le q) b)

/-- So it does where a lexeme has ended at the line end. -/
theorem move_run_stops (hend : token.isEnd = false) (hp : p.line ≤ q.line) :
    ((s.step ⟨token, p, q⟩).run (Lexeme.lexemesFrom q ('\n' :: b))).move (.behindLine q) =
      ((s.move (.behindLine q)).step ⟨token, p, q.next '\r'⟩).run
        (Lexeme.lexemesFrom (q.next '\r') ('\n' :: b)) := by
  rw [move_run_newline, move_step (Lexeme.moved_self (Nat.lt_succ_of_le hp)),
    step_of_isEnd _ hend p q (q.next '\r')]

/-- So it does where a lexeme has gone over the line end. -/
theorem move_run_goesOver (hend : token.isEnd = false) (hp : p.line ≤ q.line) (m : Text) :
    ((s.step ⟨token, p, (q.next '\n').after m⟩).run
        (Lexeme.lexemesFrom ((q.next '\n').after m) b)).move (.behindLine q) =
      ((s.move (.behindLine q)).step ⟨token, p, ((q.next '\r').next '\n').after m⟩).run
        (Lexeme.lexemesFrom (((q.next '\r').next '\n').after m) b) := by
  have hline := Insertion.line_behindLine_le q
  have hstop : ((q.next '\n').after m).move (.behindLine q) =
      ((q.next '\r').next '\n').after m := by
    rw [Position.move_after hline, Position.move_next_newline]
  rw [move_run (Lexeme.forall₂_moved_lexemesFrom (hline.trans (Position.line_le_after _ m)) b),
    move_step (Lexeme.moved_self (Nat.lt_succ_of_le hp)), hstop, step_of_isEnd _ hend p _]

/-- So it does where a backslash escapes the newline, or the carriage return instead of it. -/
theorem move_run_escaped (hp : p.line ≤ q.line) :
    ((s.step ⟨.controlSymbol '\n', p, q.next '\n'⟩).run
        (Lexeme.lexemesFrom (q.next '\n') b)).move (.behindLine q) =
      ((s.move (.behindLine q)).step ⟨.controlSymbol '\r', p, q.next '\r'⟩).run
        (Lexeme.lexemesFrom (q.next '\r') ('\n' :: b)) := by
  have hstep : ∀ s : ScanState, s.step ⟨.controlSymbol '\n', p, q.next '\n'⟩ =
      s.step ⟨.controlSymbol '\r', p, q.next '\r'⟩ := fun s => rfl
  rw [← run_newline, move_run_newline, move_step (Lexeme.moved_self (Nat.lt_succ_of_le hp)), hstep]

end LineEnd

/-- A carriage return before a newline puts in one byte before the next line. -/
theorem move_run_line (p : Position) (a b : Text) :
    (s.run (Lexeme.lexemesFrom p (a ++ '\n' :: b))).move (.behindLine (p.after a)) =
      (s.move (.behindLine (p.after a))).run
        (Lexeme.lexemesFrom p (a ++ '\r' :: '\n' :: b)) := by
  -- lexeme by lexeme up to the one that meets the line end
  induction hn : a.length using Nat.strong_induction_on generalizing s p a with
  | _ n ih =>
  cases a with
  | nil =>
    rw [List.nil_append, List.nil_append, run_return]
    exact s.move_run_newline b
  | cons c a =>
    have hline : p.line ≤ (p.after (c :: a)).line := p.line_le_after _
    rw [List.cons_append, List.cons_append, Lexeme.lexemesFrom_cons, Lexeme.lexemesFrom_cons,
      run_cons, run_cons]
    by_cases hescape : c = '\\' → a ≠ []
    · have hmeets := Lexeme.meets_lexeme a b c hescape
      generalize Lexeme.lexeme c (a ++ '\n' :: b) = x at hmeets
      generalize Lexeme.lexeme c (a ++ '\r' :: '\n' :: b) = y at hmeets
      cases hmeets with
      | @inside token n hle =>
        have hafter : ((p.next c).after (a.take n)).after (a.drop n) = p.after (c :: a) := by
          rw [← Position.after_append, List.take_append_drop, Position.after_cons]
        have hrest := ih (a.drop n).length (by rw [← hn, List.length_drop, List.length_cons]; omega)
          (s.step ⟨token, p, (p.next c).after (a.take n)⟩) ((p.next c).after (a.take n))
          (a.drop n) rfl
        rw [hafter, move_step (Lexeme.moved_self (Nat.lt_succ_of_le hline))] at hrest
        dsimp only
        rw [List.take_append_of_le_length hle, List.take_append_of_le_length hle,
          List.drop_append_of_le_length hle, List.drop_append_of_le_length hle, hrest]
      | @stops token hend =>
        have htake : (a ++ '\r' :: '\n' :: b).take (a.length + 1) = a ++ ['\r'] := by
          simp [List.take_append]
        have hdrop : (a ++ '\r' :: '\n' :: b).drop (a.length + 1) = '\n' :: b := by
          simp [List.drop_append]
        dsimp only
        rw [List.take_left, List.drop_left, htake, hdrop, Position.after_append]
        exact s.move_run_stops b hend hline
      | @goesOver token hend n =>
        have htake : (a ++ '\n' :: b).take (a.length + 1 + n) = a ++ '\n' :: b.take n ∧
            (a ++ '\r' :: '\n' :: b).take (a.length + 2 + n) = a ++ '\r' :: '\n' :: b.take n := by
          rw [Nat.add_assoc, Nat.add_assoc, List.take_length_add_append,
            List.take_length_add_append, Nat.add_comm 1, Nat.add_comm 2]
          exact ⟨rfl, rfl⟩
        have hdrop : (a ++ '\n' :: b).drop (a.length + 1 + n) = b.drop n ∧
            (a ++ '\r' :: '\n' :: b).drop (a.length + 2 + n) = b.drop n := by
          rw [Nat.add_assoc, Nat.add_assoc, List.drop_length_add_append,
            List.drop_length_add_append, Nat.add_comm 1, Nat.add_comm 2]
          exact ⟨rfl, rfl⟩
        dsimp only
        rw [htake.1, htake.2, hdrop.1, hdrop.2, Position.after_append, Position.after_append]
        exact s.move_run_goesOver _ hend hline _
    · obtain ⟨rfl, rfl⟩ : c = '\\' ∧ a = [] := by
        simpa [Classical.not_imp] using hescape
      exact s.move_run_escaped b hline

end ScanState

/-- A carriage return before a newline moves no line. -/
theorem scan_return (a b : Text) :
    scan (a ++ '\r' :: '\n' :: b) =
      (scan (a ++ '\n' :: b)).move (.behindLine (Position.start.after a)) := by
  rw [scan, scan, ScanState.move_finish]
  exact congrArg _ (ScanState.move_run_line {} .start a b).symm

/-! ## Validation -/

theorem validate_return (lookup : Option FileLookup) (a b : Text) :
    validate lookup (a ++ '\r' :: '\n' :: b) = validate lookup (a ++ '\n' :: b) := by
  rw [validate, validate, scan_return, issuesOf_move rfl]

/-- Behind `a` every line end gets a carriage return, one after the other. -/
theorem validate_append_crlf (lookup : Option FileLookup) (a t : Text) :
    validate lookup (a ++ Text.crlf t) = validate lookup (a ++ t) := by
  induction t generalizing a with
  | nil => rw [Text.crlf_nil]
  | cons c t ih =>
    have hrest := ih (a ++ [c])
    rw [List.append_assoc, List.append_assoc] at hrest
    by_cases hc : c = '\n'
    · subst hc
      rw [Text.crlf_newline, validate_return]
      exact hrest
    · rw [Text.crlf_cons hc]
      exact hrest

namespace Text

theorem normalizeNewlines_crlf {t : Text} (ht : '\r' ∉ t) : normalizeNewlines (crlf t) = t := by
  induction t with
  | nil => rw [crlf_nil, normalizeNewlines]
  | cons c t ih =>
    rw [List.mem_cons, not_or] at ht
    by_cases hc : c = '\n'
    · subst hc
      rw [crlf_newline, normalizeNewlines, ih ht.2]
    · rw [crlf_cons hc, normalizeNewlines_cons (Ne.symm ht.1), ih ht.2]

end Text

/-- A document has the same issues with either line ends, and the rule that normalizes line
ends keeps them. -/
theorem validate_crlf {t : Text} (ht : '\r' ∉ t) (lookup : Option FileLookup) :
    validate lookup (Text.crlf t) = validate lookup t ∧
      ∀ r : RuleRepair, r.content = Text.crlf t →
        (r.andThen RuleRepair.normalizeNewlines).content = t ∧
          validate lookup (r.andThen RuleRepair.normalizeNewlines).content =
            validate lookup r.content := by
  have hvalidate := validate_append_crlf lookup [] t
  rw [List.nil_append, List.nil_append] at hvalidate
  refine ⟨hvalidate, fun r hr => ?_⟩
  have hcontent : (r.andThen RuleRepair.normalizeNewlines).content = t := by
    have hnormal := Text.normalizeNewlines_crlf ht
    unfold RuleRepair.andThen RuleRepair.normalizeNewlines
    rw [hr]
    by_cases hmem : '\r' ∈ Text.crlf t
    · rw [if_pos hmem]
      exact hnormal
    · rw [if_neg hmem]
      rw [Text.normalizeNewlines_of_not_mem hmem] at hnormal
      exact hr.trans hnormal
  exact ⟨hcontent, by rw [hcontent, hr, hvalidate]⟩

/-- A comment, a `\verb` that the line end cuts, an escaped line end, and a verbatim
environment. -/
theorem validate_crlf_verbatim :
    '\r' ∉ "%\x7b\n\\verb|$\n\\\n\\begin{comment}\n\x7d".toList ∧
      validate none "%\x7b\r\n\\verb|$\r\n\\\r\n\\begin{comment}\r\n\x7d".toList =
        validate none "%\x7b\n\\verb|$\n\\\n\\begin{comment}\n\x7d".toList ∧
      (RuleRepair.andThen
        ⟨"%\x7b\r\n\\verb|$\r\n\\\r\n\\begin{comment}\r\n\x7d".toList, []⟩
        RuleRepair.normalizeNewlines).content =
          "%\x7b\n\\verb|$\n\\\n\\begin{comment}\n\x7d".toList := by
  have ht : '\r' ∉ "%\x7b\n\\verb|$\n\\\n\\begin{comment}\n\x7d".toList := by
    decide +kernel
  have hcrlf : Text.crlf "%\x7b\n\\verb|$\n\\\n\\begin{comment}\n\x7d".toList =
      "%\x7b\r\n\\verb|$\r\n\\\r\n\\begin{comment}\r\n\x7d".toList := by
    decide +kernel
  obtain ⟨hvalidate, hrule⟩ := validate_crlf ht none
  rw [hcrlf] at hvalidate hrule
  exact ⟨ht, hvalidate, (hrule ⟨_, []⟩ rfl).1⟩

end LatexRepair
