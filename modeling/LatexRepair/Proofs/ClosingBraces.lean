import LatexRepair.BraceRepair
import LatexRepair.Proofs.CodePlaces
import LatexRepair.Proofs.TrailingReading
import Mathlib.Data.List.Nodup

/-!
# The brace that closes a group

Two readers look for the closer of an opening brace. The scan keeps the openers that wait on a
stack, from the start of the document on; `BraceRepair.closingBrace?` starts behind the opener
and counts how deep it is. Between the two stands the word of braces behind the opener, with
the same count (`closer?`) :

* the count over the text is that over its word (`map_closingBraceFrom`), where no text is
  taken literally, since it passes over whatever else a lexeme holds (`Passes`) : comments,
  escaped characters and the groups that belong to control words;
* the count over a word finds the closer that takes the opener from the stack
  (`closer?_eq_some_iff`), and none exactly when the opener is left at the end
  (`closer?_eq_none_iff`).

`closingBrace?_agrees_with_scan` : so the two readers agree on every opener, and where there is
no closer the scan reports the opener.
-/

namespace LatexRepair

open Delimiter DelimiterEvent

/-! ## The closer of an opener in a word -/

/-- The closer of the outermost of `depth` open groups, in the word behind their openers. -/
def closer? (depth : Nat) : List DelimiterEvent → Option Position
  | [] => none
  | opening _ :: w => closer? (depth + 1) w
  | closing q :: w => if depth ≤ 1 then some q else closer? (depth - 1) w

/-- In the word `w`, the closer at `q` takes the opener at `p` from the stack. -/
def Takes (w : List DelimiterEvent) (q p : Position) : Prop :=
  ∃ v u, w = v ++ closing q :: u ∧ (Stack.ofWord v).opens.head? = some p

section Words

variable {w v u : List DelimiterEvent} {p q q' : Position}

theorem Delimiter.Stack.opens_pop (s : Stack) (q : Position) : (s.pop q).opens = s.opens.tail := by
  unfold Stack.pop
  split <;> simp [*]

/-- What is taken from the stack does not come back. -/
theorem Takes.not_mem_opens (h : Takes w q p) (hw : w.Nodup) : p ∉ (Stack.ofWord w).opens := by
  obtain ⟨v, u, rfl, hhead⟩ := h
  obtain ⟨outer, hopens⟩ := List.head?_eq_some_iff.1 hhead
  have hv : p ∈ (Stack.ofWord v).opens := hopens ▸ List.mem_cons_self
  have houter : p ∉ outer := by
    have hnodup := Stack.nodup_opens_ofWord (List.nodup_append.1 hw).1
    rw [hopens] at hnodup
    exact (List.nodup_cons.1 hnodup).1
  have hu : opening p ∉ u := fun hu =>
    (List.nodup_append.1 hw).2.2 _ (Stack.opening_mem_of_mem_opens hv) _
      (List.mem_cons_of_mem _ hu) rfl
  have hpop : (Stack.ofWord (v ++ [closing q])).opens = outer := by
    rw [Stack.ofWord_append_singleton, Stack.feed, Stack.opens_pop, hopens, List.tail_cons]
  rw [List.append_cons, Stack.ofWord_append, hpop, List.mem_append, not_or]
  exact ⟨fun h => hu (Stack.opening_mem_of_mem_opens h), fun h => houter (List.mem_of_mem_drop h)⟩

/-- An opener is taken once. -/
theorem Takes.eq (h : Takes w q p) (h' : Takes w q' p) (hw : w.Nodup) : q = q' := by
  -- Once a closer has taken the opener, no later one finds it on the stack.
  have hlater : ∀ {q v u r}, w = v ++ closing q :: u ++ r →
      (Stack.ofWord v).opens.head? = some p →
        (Stack.ofWord (v ++ closing q :: u)).opens.head? ≠ some p := by
    rintro q v u r rfl hhead hagain
    have htakes : Takes (v ++ closing q :: u) q p := ⟨v, u, rfl, hhead⟩
    exact htakes.not_mem_opens (List.nodup_append.1 hw).1 (List.mem_of_head? hagain)
  obtain ⟨v, u, hvu, hhead⟩ := h
  obtain ⟨v', u', hvu', hhead'⟩ := h'
  rcases List.append_eq_append_iff.1 (hvu.symm.trans hvu') with ⟨d, rfl, hd⟩ | ⟨d, rfl, hd⟩
  · cases d with
    | nil => exact closing.inj (List.cons.inj hd).1
    | cons e d =>
      obtain ⟨rfl, -⟩ := List.cons.inj hd
      exact absurd hhead' (hlater hvu' hhead)
  · cases d with
    | nil => exact (closing.inj (List.cons.inj hd).1).symm
    | cons e d =>
      obtain ⟨rfl, -⟩ := List.cons.inj hd
      exact absurd hhead (hlater hvu hhead')

/-- Read from the stack `s` on, the count over the word `w` finds the closer that takes the opener
at `p`, or it finds none and the opener stays on the stack. -/
def Settles (s : Stack) (p : Position) (depth : Nat) (w : List DelimiterEvent) : Prop :=
  (∃ q v u, closer? depth w = some q ∧ w = v ++ closing q :: u ∧
      (v.foldl Stack.feed s).opens.head? = some p) ∨
    closer? depth w = none ∧ p ∈ (w.foldl Stack.feed s).opens

theorem Settles.cons {s : Stack} {depth depth' : Nat} {e : DelimiterEvent}
    (h : Settles (s.feed e) p depth' w) (hcount : closer? depth (e :: w) = closer? depth' w) :
    Settles s p depth (e :: w) := by
  unfold Settles at h ⊢
  rw [hcount]
  rcases h with ⟨q, v, u, hq, rfl, hhead⟩ | hnone
  · exact .inl ⟨q, e :: v, u, hq, rfl, hhead⟩
  · exact .inr hnone

/-- The depth of an opener is the number of openers above it on the stack, and itself. -/
theorem settles {s : Stack} {above outer : List Position} (hs : s.opens = above ++ p :: outer)
    (w : List DelimiterEvent) : Settles s p (above.length + 1) w := by
  induction w generalizing s above with
  | nil => exact .inr ⟨rfl, by simp [hs]⟩
  | cons e w ih =>
    cases e with
    | opening o =>
      have hpush : (s.feed (opening o)).opens = (o :: above) ++ p :: outer := by
        rw [Stack.feed, Stack.push, hs, List.cons_append]
      exact (ih hpush).cons rfl
    | closing q =>
      cases above with
      | nil => exact .inl ⟨q, [], w, rfl, rfl, by simp [hs]⟩
      | cons o above =>
        have hpop : (s.feed (closing q)).opens = above ++ p :: outer := by
          rw [Stack.feed, Stack.opens_pop, hs, List.cons_append, List.tail_cons]
        exact (ih hpop).cons rfl

/-- Behind an opener the count finds the closer that takes it, or the opener is left. -/
theorem takes_or_mem_opens (v u : List DelimiterEvent) (p : Position) :
    (∃ q, closer? 1 u = some q ∧ Takes (v ++ opening p :: u) q p) ∨
      closer? 1 u = none ∧ p ∈ (Stack.ofWord (v ++ opening p :: u)).opens := by
  have hpush : (Stack.ofWord (v ++ [opening p])).opens = [] ++ p :: (Stack.ofWord v).opens := by
    rw [Stack.ofWord_append_singleton]
    rfl
  rw [List.append_cons, Stack.ofWord, List.foldl_append]
  rcases settles hpush u with ⟨q, v', u', hq, rfl, hhead⟩ | hnone
  · refine .inl ⟨q, hq, v ++ [opening p] ++ v', u', by simp, ?_⟩
    rwa [Stack.ofWord, List.foldl_append]
  · exact .inr hnone

variable (hw : (v ++ opening p :: u).Nodup)
include hw

/-- What the count finds is the closer that takes the opener. -/
theorem closer?_eq_some_iff : closer? 1 u = some q ↔ Takes (v ++ opening p :: u) q p := by
  rcases takes_or_mem_opens v u p with ⟨q', hq', htakes⟩ | ⟨hnone, hmem⟩
  · rw [hq', Option.some.injEq]
    exact ⟨fun h => h ▸ htakes, fun h => htakes.eq h hw⟩
  · rw [hnone]
    exact iff_of_false (by simp) fun h => h.not_mem_opens hw hmem

/-- It finds none exactly when the opener is left. -/
theorem closer?_eq_none_iff :
    closer? 1 u = none ↔ p ∈ (Stack.ofWord (v ++ opening p :: u)).opens := by
  rcases takes_or_mem_opens v u p with ⟨q, hq, htakes⟩ | ⟨hnone, hmem⟩
  · rw [hq]
    exact iff_of_false (by simp) (htakes.not_mem_opens hw)
  · exact iff_of_true hnone hmem

end Words

/-! ## The count over a text -/

namespace BraceRepair

/-- Inside a group, the count passes over the text `w` without a change. -/
def Passes (w : Text) : Prop :=
  ∀ depth i r, 0 < depth →
    closingBraceFrom depth i false (w ++ r) = closingBraceFrom depth (i + w.length) false r

namespace Passes

variable {w v : Text} {c : Char}

theorem nil : Passes [] := fun _ _ _ _ => rfl

theorem append (hw : Passes w) (hv : Passes v) : Passes (w ++ v) := fun depth i r hdepth => by
  rw [List.append_assoc, hw depth i _ hdepth, hv depth _ r hdepth, List.length_append,
    Nat.add_assoc]

theorem char (hc : c ∉ ['\\', '%', '{', '}']) : Passes [c] := fun _ _ _ _ =>
  closingBraceFrom_plain hc

theorem of_class {P : Char → Bool} (hw : ∀ c ∈ w, P c = true)
    (hP : ['\\', '%', '{', '}'].any P = false) : Passes w := by
  induction w with
  | nil => exact nil
  | cons c w ih =>
    obtain ⟨hc, hw⟩ := List.forall_mem_cons.1 hw
    have hchar : c ∉ ['\\', '%', '{', '}'] := fun hmem =>
      Bool.false_ne_true (hP.symm.trans (List.any_eq_true.2 ⟨c, hmem, hc⟩))
    exact (char hchar).append (ih hw)

theorem group (hw : Passes w) : Passes ('{' :: (w ++ ['}'])) := fun depth i r hdepth => by
  rw [List.cons_append, List.append_assoc, closingBraceFrom_open, hw (depth + 1) _ _ (by omega),
    List.singleton_append, closingBraceFrom_close, if_neg (by omega), Nat.add_sub_cancel,
    List.length_cons, List.length_append, List.length_singleton]
  congr 1
  omega

theorem plainGroup (h : Lexeme.PlainGroup w) : Passes w := by
  obtain ⟨blanks, content, rfl, hblanks, hcontent⟩ := h
  refine append (of_class hblanks (by decide)) (group ?_)
  exact of_class (P := fun c => !Lexeme.endsGroup c) (fun c hc => by rw [hcontent c hc]; rfl)
    (by decide)

end Passes

section Lexemes

variable {depth i : Nat} {c : Char} {t : Text}

/-- The count passes over a control sequence that takes no text literally. -/
theorem closingBraceFrom_controlToken (h : (Lexeme.controlToken t).1.isLiteral = false)
    (hdepth : 0 < depth) :
    closingBraceFrom depth i false ('\\' :: t) =
      closingBraceFrom depth (i + (1 + (Lexeme.controlToken t).2)) false
        (t.drop (Lexeme.controlToken t).2) := by
  cases t with
  | nil => rfl
  | cons d t =>
    obtain ⟨word, group, htake, hword, hgroup⟩ := Lexeme.exists_take_controlToken h
    have hle := Lexeme.controlToken_le (d :: t)
    generalize (Lexeme.controlToken (d :: t)).2 = n at htake hle ⊢
    have hlength : n = (word ++ group).length + 1 := by
      rw [← List.length_cons (a := d), ← htake, List.length_take, Nat.min_eq_left hle]
    have ht : word ++ group ++ (d :: t).drop n = t := by
      have := List.take_append_drop n (d :: t)
      rw [htake, List.cons_append, List.cons.injEq] at this
      exact this.2
    have hpasses : Passes (word ++ group) := by
      refine (Passes.of_class hword (by decide)).append ?_
      rcases hgroup with rfl | hgroup
      · exact .nil
      · exact .plainGroup hgroup
    have hplace : i + 2 + (word ++ group).length = i + (1 + n) := by omega
    have hskip := hpasses depth (i + 2) ((d :: t).drop n) hdepth
    rw [ht, hplace] at hskip
    exact closingBraceFrom_escape.trans hskip

/-- The count passes over every lexeme but a brace. -/
theorem closingBraceFrom_lexeme (hliteral : (Lexeme.lexeme c t).1.isLiteral = false)
    (hopen : c ≠ '{') (hclose : c ≠ '}') (hdepth : 0 < depth) :
    closingBraceFrom depth i false (c :: t) =
      closingBraceFrom depth (i + (1 + (Lexeme.lexeme c t).2)) false
        (t.drop (Lexeme.lexeme c t).2) := by
  by_cases hbackslash : c = '\\'
  · subst hbackslash
    exact closingBraceFrom_controlToken hliteral hdepth
  by_cases hpercent : c = '%'
  · subst hpercent
    rw [closingBraceFrom_percent, closingBraceFrom_comment_line, Nat.add_assoc, Lexeme.lexeme,
      Text.drop_length_takeWhile]
  have hplain : c ∉ ['\\', '%', '{', '}'] := by simp [hbackslash, hpercent, hopen, hclose]
  rw [closingBraceFrom_plain hplain, ← Nat.add_assoc]
  unfold Lexeme.lexeme
  split
  case h_1 => exact absurd rfl hpercent
  case h_2 => exact absurd rfl hbackslash
  case h_7 =>
    have hpasses : Passes (t.takeWhile (· = '$')) :=
      .of_class (fun _ hd => List.mem_takeWhile_imp hd) (by decide)
    have hskip := hpasses depth (i + 1) (t.dropWhile (· = '$')) hdepth
    rwa [List.takeWhile_append_dropWhile, ← Text.drop_length_takeWhile] at hskip
  all_goals rfl

end Lexemes

end BraceRepair

open BraceRepair

/-- The place of the character with the number `i`, which gives the bytes before it too. -/
def Text.place (t : Text) (i : Nat) : Position :=
  Position.start.after (t.take i)

/-- The brace that a search finds is where the count over the braces behind it ends. -/
theorem map_closingBraceFrom {t a r : Text} {p : Position} {depth : Nat} (hdepth : 0 < depth)
    (ht : a ++ r = t) (hp : Position.start.after a = p)
    (hliteral : ∀ x ∈ Lexeme.lexemesFrom p r, x.token.isLiteral = false) :
    (closingBraceFrom depth a.length false r).map t.place = closer? depth (bracesFrom p r) := by
  induction p, r using Lexeme.lexemesFrom.induct generalizing a depth with
  | case1 p =>
    rw [bracesFrom, Lexeme.lexemesFrom]
    rfl
  | case2 p c r token n hlex stop =>
    rename_i ih
    rw [Lexeme.lexemesFrom_cons, List.forall_mem_cons] at hliteral
    obtain ⟨hlexeme, hrest⟩ := hliteral
    have hle := Lexeme.lexeme_le c r
    rw [hlex] at hrest hle
    -- Behind the lexeme the text is read as the induction says.
    have hnext : ∀ {depth : Nat}, 0 < depth →
        (closingBraceFrom depth (a.length + (1 + n)) false (r.drop n)).map t.place =
          closer? depth (bracesFrom stop (r.drop n)) := by
      intro depth hdepth
      have hsplit : a ++ c :: r.take n ++ r.drop n = t := by
        rw [List.append_assoc, List.cons_append, List.take_append_drop, ht]
      have hlength : (a ++ c :: r.take n).length = a.length + (1 + n) := by
        rw [List.length_append, List.length_cons, List.length_take, Nat.min_eq_left hle,
          Nat.add_comm 1]
      rw [← hlength]
      exact ih hdepth hsplit (by rw [Position.after_append, Position.after_cons, hp]) hrest
    rw [bracesFrom_cons, hlex, Lexeme.braceAt]
    by_cases hopen : c = '{'
    · subst hopen
      obtain ⟨rfl, rfl⟩ := Prod.mk.inj hlex
      rw [if_pos rfl, closingBraceFrom_open, List.singleton_append, closer?]
      exact hnext (Nat.succ_pos depth)
    by_cases hclose : c = '}'
    · subst hclose
      obtain ⟨rfl, rfl⟩ := Prod.mk.inj hlex
      rw [if_neg (by decide), if_pos rfl, closingBraceFrom_close, List.singleton_append, closer?]
      split
      · rw [Option.map_some, Text.place, ← ht, List.take_left, hp]
      · exact hnext (by omega)
    · rw [if_neg hopen, if_neg hclose, closingBraceFrom_lexeme hlexeme hopen hclose hdepth, hlex]
      exact hnext hdepth

/-! ## The stack of the scan -/

/-- The opening braces that wait for their closers behind the lexemes `xs`, innermost first. -/
def openBraces (xs : List Lexeme) : List Position :=
  (ScanState.run {} xs).delimiters.brace.opens

/-- The scan of `t` pushes the brace at `p` on its stack. -/
def PushesBrace (t : Text) (p : Position) : Prop :=
  ∃ before x behind, Lexeme.lexemes t = before ++ x :: behind ∧
    openBraces (before ++ [x]) = p :: openBraces before

/-- The scan of `t` pops the brace at `p` from its stack with the closing brace at `q`. -/
def PopsBrace (t : Text) (p q : Position) : Prop :=
  ∃ before x behind, Lexeme.lexemes t = before ++ x :: behind ∧ x.token = .closeBrace ∧
    x.start = q ∧ openBraces before = p :: openBraces (before ++ [x])

section Scan

variable {t : Text} {p q : Position}

theorem openBraces_eq (xs : List Lexeme) :
    openBraces xs = (Stack.ofWord (xs.filterMap Lexeme.brace?)).opens := by
  have hrun := DelimiterStacks.get_foldl_feed (ScanState.trace {} xs)
    (ScanState.delimiters {}) .brace
  rw [ScanState.eventsOf_brace_trace, ← ScanState.delimiters_run] at hrun
  exact congrArg Stack.opens hrun

theorem openBraces_append_singleton (xs : List Lexeme) (x : Lexeme) :
    openBraces (xs ++ [x]) =
      (x.brace?.toList.foldl Stack.feed (.ofWord (xs.filterMap Lexeme.brace?))).opens := by
  rw [openBraces_eq, List.filterMap_append, filterMap_cons_eq, List.filterMap_nil, List.append_nil,
    Stack.ofWord, List.foldl_append, ← Stack.ofWord]

/-- The lexeme that pushes a brace is that brace. -/
theorem brace?_of_push {xs : List Lexeme} {x : Lexeme}
    (h : openBraces (xs ++ [x]) = p :: openBraces xs) : x.brace? = some (opening p) := by
  rw [openBraces_append_singleton, openBraces_eq] at h
  cases hx : x.brace? with
  | none =>
    rw [hx] at h
    exact absurd h.symm (List.cons_ne_self p _)
  | some e =>
    rw [hx] at h
    cases e with
    | opening o => rw [(List.cons.inj h).1]
    | closing o =>
      have hlength := congrArg List.length ((Stack.opens_pop _ o).symm.trans h)
      rw [List.length_tail, List.length_cons] at hlength
      omega

/-- A closing brace pops the innermost opener. -/
theorem openBraces_eq_cons_iff {xs : List Lexeme} {x : Lexeme} (hx : x.brace? = some (closing q)) :
    openBraces xs = p :: openBraces (xs ++ [x]) ↔
      (Stack.ofWord (xs.filterMap Lexeme.brace?)).opens.head? = some p := by
  have hpop := Stack.opens_pop (.ofWord (xs.filterMap Lexeme.brace?)) q
  rw [openBraces_append_singleton, openBraces_eq, hx, Option.toList_some, List.foldl_cons,
    List.foldl_nil, Stack.feed, hpop]
  cases (Stack.ofWord (xs.filterMap Lexeme.brace?)).opens <;> simp

theorem brace?_eq_closing_iff {x : Lexeme} :
    x.brace? = some (closing q) ↔ x.token = .closeBrace ∧ x.start = q := by
  obtain ⟨token, start, stop⟩ := x
  unfold Lexeme.brace?
  cases token <;> simp

/-- A brace of a text is one of its lexemes, with the braces before it. -/
theorem exists_lexeme_of_bracesFrom {e : DelimiterEvent} {v u : List DelimiterEvent}
    (h : bracesFrom p t = v ++ e :: u) :
    ∃ before x behind, Lexeme.lexemesFrom p t = before ++ x :: behind ∧ x.brace? = some e ∧
      before.filterMap Lexeme.brace? = v := by
  obtain ⟨xs, ys, hlex, rfl, hys⟩ := List.filterMap_eq_append_iff.1 h
  obtain ⟨before, x, behind, rfl, hnone, hx, -⟩ := List.filterMap_eq_cons_iff.1 hys
  refine ⟨xs ++ before, x, behind, by rw [hlex, List.append_assoc], hx, ?_⟩
  rw [List.filterMap_append, List.filterMap_eq_nil_iff.2 hnone, List.append_nil]

/-- What a closing brace pops is what its closer takes. -/
theorem popsBrace_iff : PopsBrace t p q ↔ Takes (bracesFrom .start t) q p := by
  constructor
  · rintro ⟨before, x, behind, hlex, htoken, hstart, hopens⟩
    have hx := brace?_eq_closing_iff.2 ⟨htoken, hstart⟩
    refine ⟨before.filterMap Lexeme.brace?, behind.filterMap Lexeme.brace?, ?_,
      (openBraces_eq_cons_iff hx).1 hopens⟩
    rw [bracesFrom, ← Lexeme.lexemes, hlex, List.filterMap_append, filterMap_cons_eq, hx]
    rfl
  · rintro ⟨v, u, hsplit, hhead⟩
    obtain ⟨before, x, behind, hlex, hx, rfl⟩ := exists_lexeme_of_bracesFrom hsplit
    obtain ⟨htoken, hstart⟩ := brace?_eq_closing_iff.1 hx
    exact ⟨before, x, behind, hlex, htoken, hstart, (openBraces_eq_cons_iff hx).2 hhead⟩

/-- An opener is left exactly when it is reported, alone or beside a closer. -/
theorem mem_opens_iff {d : Delimiter} : p ∈ (Stack.ofWord (delimiterEvents d t)).opens ↔
    .unmatchedOpen d p ∈ (scan t).findings ∨ ∃ q, .misordered d q p ∈ (scan t).findings := by
  have hmisordered : (∃ q, .misordered d q p ∈ (scan t).findings) ↔
      p ∈ (Stack.ofWord (delimiterEvents d t)).misplaced.map Prod.snd := by
    have hstack : ∀ q, .misordered d q p ∈ (scan t).findings ↔
        .misordered d q p ∈ Finding.ofStack d (.ofWord (delimiterEvents d t)) := fun q =>
      mem_findings_iff_mem_ofStack rfl
    simp [hstack, Finding.ofStack]
  rw [hmisordered, mem_findings_unmatchedOpen_iff, Stack.map_snd_misplaced, Stack.loneOpens,
    or_comm, ← List.mem_append, List.take_append_drop, List.mem_reverse]

/-- The scan pushes an opening brace, and its braces are those before and those behind it. -/
theorem exists_of_pushesBrace (h : PushesBrace t p) :
    ∃ a r, t = a ++ '{' :: r ∧ Position.start.after a = p ∧
      (∀ x ∈ Lexeme.lexemesFrom (p.next '{') r, x ∈ Lexeme.lexemes t) ∧
      ∃ v, bracesFrom .start t = v ++ opening p :: bracesFrom (p.next '{') r := by
  obtain ⟨before, x, behind, hlex, hpush⟩ := h
  obtain ⟨a, c, r, rfl, hreads, rfl⟩ := Lexeme.exists_reads_of_lexemesFrom hlex
  have hbrace : Lexeme.braceAt (Position.start.after a) c = [opening p] := by
    rw [← Lexeme.brace?_lexeme c r, brace?_of_push hpush]
    rfl
  obtain ⟨rfl, rfl⟩ : c = '{' ∧ Position.start.after a = p := by
    unfold Lexeme.braceAt at hbrace
    split at hbrace
    · exact ⟨‹_›, by simpa using hbrace⟩
    · split at hbrace <;> simp at hbrace
  have hlexemes : Lexeme.lexemes (a ++ '{' :: r) = before ++
      Lexeme.lexemesFrom (Position.start.after a) ('{' :: r) := hreads.lexemesFrom_append
  refine ⟨a, r, rfl, rfl, fun x hx => ?_, before.filterMap Lexeme.brace?, ?_⟩
  · rw [hlexemes, Lexeme.lexemesFrom_cons]
    exact List.mem_append_right _ (List.mem_cons_of_mem _ hx)
  · rw [bracesFrom, ← Lexeme.lexemes, hlexemes, List.filterMap_append, ← bracesFrom,
      bracesFrom_cons]
    rfl

/-- Where no text is taken literally, the search for the brace that closes a group agrees with
the scan : from behind an opener that the scan pushes on its stack, it finds the closing brace
that pops the opener, and it finds none exactly when the scan reports the opener, alone or
beside a closer. -/
theorem closingBrace?_agrees_with_scan (h : NoLiteral t) (hp : PushesBrace t p) :
    ∃ i, t[i]? = some '{' ∧ t.place i = p ∧
      (∀ q, (closingBrace? t (i + 1)).map t.place = some q ↔ PopsBrace t p q) ∧
      (closingBrace? t (i + 1) = none ↔ .unmatchedOpen .brace p ∈ (scan t).findings ∨
        ∃ q, .misordered .brace q p ∈ (scan t).findings) := by
  obtain ⟨a, r, rfl, rfl, hsub, v, hword⟩ := exists_of_pushesBrace hp
  have hplace : (Position.start.after a).next '{' = Position.start.after (a ++ ['{']) := by
    rw [Position.after_append]
    rfl
  rw [hplace] at hsub hword
  have hcount : (closingBrace? (a ++ '{' :: r) (a.length + 1)).map (Text.place (a ++ '{' :: r)) =
      closer? 1 (bracesFrom (Position.start.after (a ++ ['{'])) r) := by
    rw [List.append_cons, ← map_closingBraceFrom Nat.one_pos rfl rfl fun x hx => h x (hsub x hx),
      closingBrace?, List.drop_left' (by simp), List.length_append, List.length_singleton]
  have hnodup : (v ++ opening (Position.start.after a) ::
      bracesFrom (Position.start.after (a ++ ['{'])) r).Nodup := by
    rw [← hword, ← delimiterEvents_brace]
    exact (conserves_findings_scan .brace _).nodup
  refine ⟨a.length, by simp, by rw [Text.place, List.take_left], fun q => ?_, ?_⟩
  · rw [hcount, popsBrace_iff, hword]
    exact closer?_eq_some_iff hnodup
  · rw [← Option.map_eq_none_iff, hcount, closer?_eq_none_iff hnodup, ← hword,
      ← delimiterEvents_brace]
    exact mem_opens_iff

/-- Behind a stray closer, the outer of two openers is reported. The inner one is closed at the
end, behind an escape, the group of a control word, comments and another group. -/
theorem closingBrace?_agrees_with_scan_nested :
    let t := "\x7dé\x7b\x7b\\\x7d\\end {a}%\x7d\n\\\\%\x7d\n{}\x7d".toList
    NoLiteral t ∧
      (PushesBrace t ⟨1, 4, 4⟩ ∧ PopsBrace t ⟨1, 4, 4⟩ ⟨3, 3, 25⟩) ∧
      PushesBrace t ⟨1, 3, 3⟩ ∧ (.unmatchedOpen .brace ⟨1, 3, 3⟩ ∈ (scan t).findings ∨
        ∃ q, .misordered .brace q ⟨1, 3, 3⟩ ∈ (scan t).findings) := by
  intro t
  have hliteral : NoLiteral t := by decide +kernel
  have hinner : PushesBrace t ⟨1, 4, 4⟩ :=
    ⟨(Lexeme.lexemes t).take 3, ⟨.openBrace, ⟨1, 4, 4⟩, ⟨1, 5, 5⟩⟩, (Lexeme.lexemes t).drop 4,
      by decide +kernel, by decide +kernel⟩
  have houter : PushesBrace t ⟨1, 3, 3⟩ :=
    ⟨(Lexeme.lexemes t).take 2, ⟨.openBrace, ⟨1, 3, 3⟩, ⟨1, 4, 4⟩⟩, (Lexeme.lexemes t).drop 3,
      by decide +kernel, by decide +kernel⟩
  have hfound : ∀ i < t.length, Text.place t i = ⟨1, 4, 4⟩ →
      (closingBrace? t (i + 1)).map (Text.place t) = some ⟨3, 3, 25⟩ := by decide +kernel
  have hnone : ∀ i < t.length, Text.place t i = ⟨1, 3, 3⟩ → closingBrace? t (i + 1) = none := by
    decide +kernel
  obtain ⟨i, hi, hplace, hpops, -⟩ := closingBrace?_agrees_with_scan hliteral hinner
  obtain ⟨j, hj, hplace', -, hreport⟩ := closingBrace?_agrees_with_scan hliteral houter
  refine ⟨hliteral, ⟨hinner, (hpops _).1 (hfound i ?_ hplace)⟩, houter,
    hreport.1 (hnone j ?_ hplace')⟩
  · exact (List.getElem?_eq_some_iff.1 hi).1
  · exact (List.getElem?_eq_some_iff.1 hj).1

end Scan

end LatexRepair
