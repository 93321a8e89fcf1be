import LatexRepair.Lexeme
import LatexRepair.Proofs.Search
import Mathlib.Data.List.TakeWhile

/-!
# Reading in parts

A document may be cut wherever a lexeme ends, and the two parts are read one after the
other : `Lexeme.Reads p s r xs` says that a reading of `s ++ r` from `p` gives the lexemes
`xs` up to the cut, and every lexeme of a document starts at such a cut
(`Lexeme.exists_reads_of_mem`).

What stands behind a cut can be exchanged where it cannot be seen from before it. That is
so behind a newline and before a percent sign or a backslash (`Barrier`) : a reading that reaches
the cut gives the same lexemes before it whatever text follows (`Lexeme.Reads.exchange`). The one
lexeme that looks further, a verbatim environment in search of its end, reaches the cut
only where it ends the document without that end (`Token.isUnclosed`).
-/

namespace LatexRepair

/-- A verbatim environment without its end. -/
def Token.isUnclosed : Token → Bool
  | .verbatim _ false => true
  | _ => false

/-! ## Sizes and places -/

namespace Text

theorem drop_length_takeWhile (P : Char → Bool) (t : Text) :
    t.drop (t.takeWhile P).length = t.dropWhile P := by
  conv => lhs; rhs; rw [← List.takeWhile_append_dropWhile (p := P) (l := t)]
  rw [List.drop_left]

theorem length_takeWhile_le (P : Char → Bool) (t : Text) :
    (t.takeWhile P).length ≤ t.length :=
  (List.takeWhile_prefix P).length_le

theorem byteLength_append (s t : Text) : byteLength (s ++ t) = byteLength s + byteLength t := by
  induction s with
  | nil => simp [byteLength]
  | cons c s ih => simp [byteLength, ih, Nat.add_assoc]

theorem length_le_byteLength (t : Text) : t.length ≤ byteLength t := by
  induction t with
  | nil => simp
  | cons c t ih =>
    have := c.utf8Size_pos
    simp only [byteLength, List.length_cons]
    omega

theorem takeBytes_isPrefix (n : Nat) (t : Text) : takeBytes n t <+: t := by
  induction t generalizing n with
  | nil => exact List.prefix_rfl
  | cons c t ih =>
    rw [takeBytes]
    split
    · exact List.cons_prefix_cons.2 ⟨rfl, ih _⟩
    · exact List.nil_prefix

theorem takeBytes_append (s r : Text) (n : Nat) :
    takeBytes (byteLength s + n) (s ++ r) = s ++ takeBytes n r := by
  induction s generalizing n with
  | nil => rw [byteLength, Nat.zero_add, List.nil_append, List.nil_append]
  | cons c s ih =>
    rw [byteLength, List.cons_append, takeBytes, if_pos (by omega), Nat.add_assoc,
      Nat.add_sub_cancel_left, ih, List.cons_append]

theorem takeBytes_of_le {t : Text} {n : Nat} (h : byteLength t ≤ n) : takeBytes n t = t := by
  obtain ⟨m, rfl⟩ := Nat.exists_eq_add_of_le h
  have hall := takeBytes_append t [] m
  rwa [List.append_nil, takeBytes, List.append_nil] at hall

theorem takeBytes_zero (t : Text) : takeBytes 0 t = [] := by
  cases t with
  | nil => rfl
  | cons c t => rw [takeBytes, if_neg (Nat.not_le.2 c.utf8Size_pos)]

end Text

namespace Position

theorem offset_next (p : Position) (c : Char) : (p.next c).offset = p.offset + c.utf8Size := by
  unfold next
  split <;> rfl

theorem offset_after (p : Position) (t : Text) :
    (p.after t).offset = p.offset + Text.byteLength t := by
  induction t generalizing p with
  | nil => simp [Text.byteLength]
  | cons c t ih => rw [after_cons, ih, offset_next, Text.byteLength, Nat.add_assoc]

theorem line_le_next (p : Position) (c : Char) : p.line ≤ (p.next c).line := by
  unfold next
  split <;> simp

theorem line_le_after (p : Position) (t : Text) : p.line ≤ (p.after t).line := by
  induction t generalizing p with
  | nil => simp
  | cons c t ih => exact (p.line_le_next c).trans (ih (p.next c))

end Position

namespace Lexeme

/-! ## The length of a lexeme -/

/-- A plain group : blanks, an opening brace, the content, a closing brace. -/
theorem eq_of_groupArgument? {t env : Text} {n : Nat} (h : groupArgument? t = some (env, n)) :
    ∃ blanks content r, t = blanks ++ '{' :: (content ++ '}' :: r) ∧
      (∀ c ∈ blanks, isSpaceOrTab c = true) ∧ (∀ c ∈ content, endsGroup c = false) ∧
      env = Text.trim content ∧ n = blanks.length + content.length + 2 := by
  simp only [groupArgument?] at h
  split at h
  · rename_i body hbody
    split at h
    · rename_i r hr
      obtain ⟨-, h⟩ := Option.ite_none_left_eq_some.1 h
      obtain ⟨rfl, rfl⟩ := Prod.mk.inj (Option.some.inj h)
      rw [Text.drop_length_takeWhile] at hr
      refine ⟨t.takeWhile isSpaceOrTab, body.takeWhile fun c => !endsGroup c, r, ?_,
        fun c hc => List.mem_takeWhile_imp hc, fun c hc => ?_, rfl, rfl⟩
      · rw [← hr, List.takeWhile_append_dropWhile, ← hbody, List.takeWhile_append_dropWhile]
      · simpa using List.mem_takeWhile_imp hc
    · cases h
  · cases h

theorem groupArgument?_le {t env : Text} {n : Nat} (h : groupArgument? t = some (env, n)) :
    n ≤ t.length := by
  obtain ⟨blanks, content, r, rfl, -, -, -, rfl⟩ := eq_of_groupArgument? h
  simp
  omega

theorem verbLength_le (t : Text) : verbLength t ≤ t.length := by
  have hstar : (if t.head? = some '*' then 1 else 0) ≤ t.length := by
    cases t <;> simp
    split <;> omega
  simp only [verbLength]
  generalize (if t.head? = some '*' then 1 else 0) = star at hstar ⊢
  split
  · exact hstar
  · rename_i d body hd
    have hlen := congrArg List.length hd
    have hbody := Text.length_takeWhile_le (fun c => decide (c ≠ d) && decide (c ≠ '\n')) body
    rw [List.length_drop, List.length_cons] at hlen
    split
    · exact hstar
    · rw [Text.drop_length_takeWhile]
      have htail := congrArg List.length
        (List.takeWhile_append_dropWhile (p := fun c => decide (c ≠ d) && decide (c ≠ '\n'))
          (l := body))
      rw [List.length_append] at htail
      split
      · rename_i hhead
        have := List.length_pos_of_mem (List.mem_of_mem_head? hhead)
        omega
      · omega

theorem verbatimToken_le (name t : Text) : (verbatimToken name t).2 ≤ t.length := by
  unfold verbatimToken
  split
  · rename_i i hi
    exact Text.length_le_of_find? hi
  · exact Nat.le_refl _

theorem controlWordToken_le (name t : Text) : (controlWordToken name t).2 ≤ t.length := by
  unfold controlWordToken
  split
  · split
    · rename_i env n hg
      have hn := groupArgument?_le hg
      split
      · have := verbatimToken_le env (t.drop n)
        rw [List.length_drop] at this
        dsimp only
        omega
      · exact hn
    · exact Nat.zero_le _
  · split
    · split
      · exact groupArgument?_le ‹_›
      · exact Nat.zero_le _
    · split
      · exact Nat.zero_le _
      · split
        · exact verbLength_le t
        · split
          · exact groupArgument?_le ‹_›
          · exact Nat.zero_le _

theorem controlToken_le (t : Text) : (controlToken t).2 ≤ t.length := by
  unfold controlToken
  split
  · exact Nat.zero_le _
  · rename_i c t
    split
    · have := controlWordToken_le ((c :: t).takeWhile isCommandChar)
        ((c :: t).drop ((c :: t).takeWhile isCommandChar).length)
      have hle := Text.length_takeWhile_le isCommandChar (c :: t)
      rw [List.length_drop] at this
      dsimp only
      omega
    · simp

/-- A lexeme ends inside the text. -/
theorem lexeme_le (c : Char) (t : Text) : (lexeme c t).2 ≤ t.length := by
  unfold lexeme
  split
  · exact Text.length_takeWhile_le _ t
  · exact controlToken_le t
  all_goals try exact Nat.zero_le _
  exact Text.length_takeWhile_le _ t

/-! ## Cuts -/

theorem lexemesFrom_cons (p : Position) (c : Char) (t : Text) :
    lexemesFrom p (c :: t) =
      ⟨(lexeme c t).1, p, (p.next c).after (t.take (lexeme c t).2)⟩ ::
        lexemesFrom ((p.next c).after (t.take (lexeme c t).2)) (t.drop (lexeme c t).2) := by
  rw [lexemesFrom]

/-- The text `s`, read from `p` with `r` behind it, is taken up by the lexemes `xs`. -/
inductive Reads : Position → Text → Text → List Lexeme → Prop where
  | nil (p : Position) (r : Text) : Reads p [] r []
  | cons {c : Char} {s₁ s₂ r : Text} {xs : List Lexeme} (p : Position)
      (hlen : (lexeme c (s₁ ++ (s₂ ++ r))).2 = s₁.length)
      (h : Reads ((p.next c).after s₁) s₂ r xs) :
      Reads p (c :: (s₁ ++ s₂)) r
        (⟨(lexeme c (s₁ ++ (s₂ ++ r))).1, p, (p.next c).after s₁⟩ :: xs)

/-- The lexemes of a document are those up to a cut and those behind it. -/
theorem Reads.lexemesFrom_append {p : Position} {s r : Text} {xs : List Lexeme}
    (h : Reads p s r xs) : lexemesFrom p (s ++ r) = xs ++ lexemesFrom (p.after s) r := by
  induction h with
  | nil p r => simp
  | @cons c s₁ s₂ r xs p hlen _ ih =>
    rw [List.cons_append, List.append_assoc, lexemesFrom_cons, hlen, List.take_left,
      List.drop_left, ih, Position.after_cons, Position.after_append, List.cons_append]

/-- A document is read to its end. -/
theorem reads_lexemesFrom (p : Position) (t : Text) : Reads p t [] (lexemesFrom p t) := by
  induction p, t using lexemesFrom.induct with
  | case1 p =>
    rw [lexemesFrom]
    exact .nil p []
  | case2 p c t token n hlex stop ih =>
    have hlen : (t.take n).length = n := by
      have := lexeme_le c t
      rw [hlex] at this
      rw [List.length_take, Nat.min_eq_left this]
    have happ : t.take n ++ (t.drop n ++ []) = t := by simp
    have h := Reads.cons (c := c) p (by rw [happ, hlex, hlen]) ih
    rw [happ, List.take_append_drop] at h
    rw [lexemesFrom_cons, hlex]
    rwa [hlex] at h

/-- The lexemes before one of a document are those up to a cut, where it starts. -/
theorem exists_reads_of_lexemesFrom {p : Position} {t : Text} {x : Lexeme}
    {before behind : List Lexeme} (h : lexemesFrom p t = before ++ x :: behind) :
    ∃ s c r, t = s ++ c :: r ∧ Reads p s (c :: r) before ∧
      x = ⟨(lexeme c r).1, p.after s, ((p.after s).next c).after (r.take (lexeme c r).2)⟩ := by
  induction before generalizing p t with
  | nil =>
    cases t with
    | nil =>
      rw [lexemesFrom] at h
      cases h
    | cons c t =>
      rw [lexemesFrom_cons] at h
      exact ⟨[], c, t, rfl, .nil p _, (List.cons.inj h).1.symm⟩
  | cons y before ih =>
    cases t with
    | nil =>
      rw [lexemesFrom] at h
      cases h
    | cons c t =>
      rw [lexemesFrom_cons, List.cons_append] at h
      obtain ⟨rfl, hbehind⟩ := List.cons.inj h
      obtain ⟨s, d, r, hdrop, hs, rfl⟩ := ih hbehind
      have ht : t = t.take (lexeme c t).2 ++ (s ++ d :: r) := by
        rw [← hdrop, List.take_append_drop]
      have hlen : (t.take (lexeme c t).2).length = (lexeme c t).2 := by
        rw [List.length_take, Nat.min_eq_left (lexeme_le c t)]
      have hreads := Reads.cons (c := c) p (by rw [← ht, hlen]) hs
      rw [← ht] at hreads
      refine ⟨c :: (t.take (lexeme c t).2 ++ s), d, r, ?_, hreads, ?_⟩
      · rw [List.cons_append, List.append_assoc, ← ht]
      · rw [Position.after_cons, Position.after_append]

/-- Every lexeme starts at a cut. -/
theorem exists_reads_of_mem {p : Position} {t : Text} {x : Lexeme}
    (h : x ∈ lexemesFrom p t) : ∃ s c r xs, t = s ++ c :: r ∧ Reads p s (c :: r) xs ∧
      x.token = (lexeme c r).1 ∧ x.start = p.after s := by
  obtain ⟨before, behind, h⟩ := List.append_of_mem h
  obtain ⟨s, c, r, rfl, hs, rfl⟩ := exists_reads_of_lexemesFrom h
  exact ⟨s, c, r, before, rfl, hs, rfl, rfl⟩

end Lexeme

/-- A place in a document is given by the number of bytes before it. -/
theorem Text.append_inj_of_byteLength {s r s' r' : Text} (h : s ++ r = s' ++ r')
    (hlen : Text.byteLength s = Text.byteLength s') : s = s' ∧ r = r' := by
  have hnil : ∀ d : Text, Text.byteLength d = 0 → d = [] := fun d hd => by
    have := Text.length_le_byteLength d
    exact List.eq_nil_of_length_eq_zero (by omega)
  rcases List.append_eq_append_iff.1 h with ⟨d, rfl, rfl⟩ | ⟨d, rfl, rfl⟩
  · rw [Text.byteLength_append] at hlen
    simp [hnil d (by omega)]
  · rw [Text.byteLength_append] at hlen
    simp [hnil d (by omega)]

/-! ## Barriers -/

/-- No lexeme that starts before the character goes on with it, unless it holds it. -/
def isBarrierChar (c : Char) : Bool :=
  c = '%' || c = '\\'

/-- No lexeme before the place between `s` and `r` sees past it : `s` ends in a newline,
or `r` starts with a percent sign or a backslash. -/
def Barrier (s r : Text) : Prop :=
  s.getLast? = some '\n' ∨ r.head?.any isBarrierChar = true

theorem isBarrierChar_cases {P : Char → Prop} (percent : P '%') (backslash : P '\\') {c : Char}
    (h : isBarrierChar c = true) : P c := by
  rw [isBarrierChar, Bool.or_eq_true, decide_eq_true_iff, decide_eq_true_iff] at h
  rcases h with rfl | rfl
  · exact percent
  · exact backslash

theorem ne_of_isBarrierChar {c d : Char} (hc : isBarrierChar c = true)
    (hd : isBarrierChar d = false) : c ≠ d := by
  rintro rfl
  rw [hc] at hd
  cases hd

namespace Barrier

variable {s r : Text}

theorem exists_cons (h : r.head?.any isBarrierChar = true) :
    ∃ c t, r = c :: t ∧ isBarrierChar c = true := by
  cases r with
  | nil => cases h
  | cons c t => exact ⟨c, t, rfl, h⟩

theorem takeWhile_append (hb : Barrier s r) {P : Char → Bool} (hp : P '%' = false)
    (hs : P '\\' = false) (hn : P '\n' = false) : (s ++ r).takeWhile P = s.takeWhile P := by
  rw [List.takeWhile_append]
  split
  · rename_i hlen
    have hall : s.takeWhile P = s := (List.takeWhile_prefix P).eq_of_length hlen
    rcases hb with hb | hb
    · have := List.takeWhile_eq_self_iff.1 hall _ (List.mem_of_getLast? hb)
      rw [hn] at this
      cases this
    · obtain ⟨c, r, rfl, hc⟩ := exists_cons hb
      have hfalse : P c = false := isBarrierChar_cases (P := fun c => P c = false) hp hs hc
      simp [hfalse, hall]
  · rfl

theorem dropWhile_append (hb : Barrier s r) {P : Char → Bool} (hp : P '%' = false)
    (hs : P '\\' = false) (hn : P '\n' = false) : (s ++ r).dropWhile P = s.dropWhile P ++ r := by
  have h := List.takeWhile_append_dropWhile (p := P) (l := s ++ r)
  rw [hb.takeWhile_append hp hs hn] at h
  conv at h => rhs; lhs; rw [← List.takeWhile_append_dropWhile (p := P) (l := s)]
  rw [List.append_assoc] at h
  exact List.append_cancel_left h

/-- A barrier stays one when characters other than newlines are taken off the front. -/
theorem of_append {a b : Text} (hb : Barrier (a ++ b) r) (hn : '\n' ∉ a) :
    Barrier b r := by
  rcases hb with hb | hb
  · rcases List.eq_nil_or_concat b with rfl | ⟨b, c, rfl⟩
    · rw [List.append_nil] at hb
      exact absurd (List.mem_of_getLast? hb) hn
    · left
      simpa [← List.append_assoc] using hb
  · exact .inr hb

theorem dropWhile (hb : Barrier s r) {P : Char → Bool} (hn : P '\n' = false) :
    Barrier (s.dropWhile P) r := by
  refine of_append (a := s.takeWhile P) ?_ fun hmem => ?_
  · rwa [List.takeWhile_append_dropWhile]
  · have := List.mem_takeWhile_imp hmem
    rw [hn] at this
    cases this

end Barrier

namespace Lexeme

/-- A plain group lies on one side of a barrier. -/
theorem groupArgument?_append_of_barrier {s r : Text} (hb : Barrier s r) :
    groupArgument? (s ++ r) = groupArgument? s := by
  have hblank := hb.dropWhile (P := isSpaceOrTab) (by decide)
  simp only [groupArgument?, Text.drop_length_takeWhile]
  rw [hb.takeWhile_append (by decide) (by decide) (by decide),
    hb.dropWhile_append (by decide) (by decide) (by decide)]
  cases hs : s.dropWhile isSpaceOrTab with
  | nil =>
    rw [hs] at hblank
    rcases hblank with h | h
    · cases h
    · obtain ⟨c, r, rfl, hc⟩ := Barrier.exists_cons h
      simp [ne_of_isBarrierChar hc (d := '{') rfl]
  | cons c body =>
    rw [hs] at hblank
    by_cases hc : c = '{'
    · subst hc
      have hbody : Barrier body r := hblank.of_append (a := ['{']) (by decide)
      have hrest := hbody.dropWhile (P := fun c => !endsGroup c) (by decide)
      simp only [List.cons_append]
      rw [hbody.takeWhile_append (by decide) (by decide) (by decide),
        hbody.dropWhile_append (by decide) (by decide) (by decide)]
      cases hbs : body.dropWhile fun c => !endsGroup c with
      | nil =>
        rw [hbs] at hrest
        rcases hrest with h | h
        · cases h
        · obtain ⟨c, r, rfl, hc⟩ := Barrier.exists_cons h
          simp [ne_of_isBarrierChar hc (d := '}') rfl]
      | cons d rest =>
        simp only [List.cons_append]
        split <;> split <;> simp_all
    · simp [hc]

/-- Delimited text that ends before a barrier ends there whatever stands behind it. -/
theorem delimited_exchange {d : Char} {s r r' : Text} (hb : Barrier s r)
    (hle : ((s ++ r).takeWhile fun c => c ≠ d && c ≠ '\n').length +
      (if ((s ++ r).dropWhile fun c => c ≠ d && c ≠ '\n').head? = some d then 1 else 0) ≤
        s.length) :
    ((s ++ r').takeWhile fun c => c ≠ d && c ≠ '\n') =
        ((s ++ r).takeWhile fun c => c ≠ d && c ≠ '\n') ∧
      ((s ++ r').dropWhile fun c => c ≠ d && c ≠ '\n').head? =
        ((s ++ r).dropWhile fun c => c ≠ d && c ≠ '\n').head? := by
  generalize hP : (fun c => decide (c ≠ d) && decide (c ≠ '\n')) = P at hle ⊢
  have hn : P '\n' = false := by simp [← hP]
  cases hs : s.dropWhile P with
  | cons c rest =>
    have hlen : (s.takeWhile P).length ≠ s.length := fun h => by
      have := congrArg List.length (List.takeWhile_append_dropWhile (p := P) (l := s))
      rw [List.length_append, hs, List.length_cons] at this
      omega
    simp [List.takeWhile_append, List.dropWhile_append, hlen, hs]
  | nil =>
    -- the delimiter would have to stand behind the barrier, or be its first character
    have hall := List.dropWhile_eq_nil_iff.1 hs
    exfalso
    rcases hb with hb | hb
    · have := hall _ (List.mem_of_getLast? hb)
      rw [hn] at this
      cases this
    · obtain ⟨c, r, rfl, hc⟩ := Barrier.exists_cons hb
      rw [List.takeWhile_append_of_pos hall, List.dropWhile_append_of_pos hall] at hle
      cases hp : P c with
      | true =>
        simp only [hp, List.takeWhile_cons_of_pos, List.length_append, List.length_cons] at hle
        omega
      | false =>
        have hd : c = d := by
          rw [← hP] at hp
          simpa [ne_of_isBarrierChar hc (d := '\n') rfl] using hp
        rw [List.takeWhile_cons_of_neg (by simp [hp]), List.dropWhile_cons_of_neg (by simp [hp]),
          List.append_nil, List.head?_cons, hd, if_pos rfl] at hle
        omega

/-- The length of the delimited text that `t` starts with. -/
def delimitedLength (t : Text) : Nat :=
  match t with
  | [] => 0
  | d :: body =>
    if isBlank d || d.isAlpha then 0
    else
      1 + (body.takeWhile fun c => c ≠ d && c ≠ '\n').length +
        if (body.dropWhile fun c => c ≠ d && c ≠ '\n').head? = some d then 1 else 0

theorem verbLength_eq (t : Text) :
    verbLength t = (if t.head? = some '*' then 1 else 0) +
      delimitedLength (t.drop (if t.head? = some '*' then 1 else 0)) := by
  simp only [verbLength]
  generalize (if t.head? = some '*' then 1 else 0) = star
  cases t.drop star with
  | nil => rfl
  | cons d body =>
    simp only [delimitedLength, Text.drop_length_takeWhile]
    split <;> omega

theorem delimitedLength_exchange {s r r' : Text} (hb : Barrier s r)
    (hle : delimitedLength (s ++ r) ≤ s.length) :
    s ≠ [] ∧ delimitedLength (s ++ r') = delimitedLength (s ++ r) := by
  cases s with
  | nil =>
    exfalso
    rcases hb with h | h
    · cases h
    · obtain ⟨c, r, rfl, hc⟩ := Barrier.exists_cons h
      have hdelimiter : ¬(isBlank c || c.isAlpha) = true :=
        isBarrierChar_cases (P := fun c => ¬(isBlank c || c.isAlpha) = true) (by decide)
          (by decide) hc
      rw [List.nil_append, delimitedLength, if_neg hdelimiter, List.length_nil] at hle
      omega
  | cons d body =>
    refine ⟨List.cons_ne_nil _ _, ?_⟩
    simp only [List.cons_append, delimitedLength, List.length_cons] at hle ⊢
    by_cases hd : isBlank d || d.isAlpha
    · rw [if_pos hd, if_pos hd]
    · rw [if_neg hd] at hle ⊢
      rw [if_neg hd]
      have hne : '\n' ∉ [d] := fun hmem => by
        rw [List.mem_singleton] at hmem
        subst hmem
        exact hd (by decide)
      obtain ⟨htake, hdrop⟩ := @delimited_exchange d body r r'
        (hb.of_append (a := [d]) hne) (by omega)
      rw [htake, hdrop]

/-- A `\verb` that ends before a barrier ends there whatever stands behind it. -/
theorem verbLength_exchange {s r r' : Text} (hb : Barrier s r) (hb' : Barrier s r')
    (hle : verbLength (s ++ r) ≤ s.length) : verbLength (s ++ r') = verbLength (s ++ r) := by
  have hhead : (s ++ r').head? = some '*' ↔ (s ++ r).head? = some '*' := by
    cases s with
    | cons c s => rfl
    | nil =>
      rcases hb with h | h
      · cases h
      · rcases hb' with h' | h'
        · cases h'
        · obtain ⟨c, r, rfl, hc⟩ := Barrier.exists_cons h
          obtain ⟨d, r', rfl, hd⟩ := Barrier.exists_cons h'
          simp [ne_of_isBarrierChar hc (d := '*') rfl, ne_of_isBarrierChar hd (d := '*') rfl]
  rw [verbLength_eq] at hle ⊢
  rw [verbLength_eq]
  simp only [hhead]
  by_cases hstar : (s ++ r).head? = some '*'
  · simp only [hstar, ↓reduceIte] at hle ⊢
    cases s with
    | nil => simp at hle
    | cons c s =>
      obtain rfl : c = '*' := by simpa using hstar
      simp only [List.cons_append, List.drop_succ_cons, List.drop_zero, List.length_cons] at hle ⊢
      rw [(delimitedLength_exchange (hb.of_append (a := ['*']) (by decide)) (by omega)).2]
  · simp only [hstar, ↓reduceIte, List.drop_zero, Nat.zero_add] at hle ⊢
    exact (delimitedLength_exchange hb hle).2

/-- The end of a verbatim environment that stands before `r` is found whatever stands in
its place. -/
theorem verbatimToken_exchange {name s r r' : Text}
    (hr : r = [] → (verbatimToken name (s ++ r)).1.isUnclosed = false)
    (hle : (verbatimToken name (s ++ r)).2 ≤ s.length) :
    verbatimToken name (s ++ r') = verbatimToken name (s ++ r) := by
  unfold verbatimToken at hr hle ⊢
  cases hf : Text.find? (verbatimEnd name) (s ++ r) with
  | none =>
    simp only [hf, List.length_append] at hr hle
    cases hr (List.eq_nil_of_length_eq_zero (by omega))
  | some i =>
    simp only [hf] at hle ⊢
    rw [Text.find?_append_of_some (Text.find?_of_find?_append hf hle)]

theorem controlWordToken_exchange {name s r r' : Text} (hb : Barrier s r) (hb' : Barrier s r')
    (hr : r = [] → (controlWordToken name (s ++ r)).1.isUnclosed = false)
    (hle : (controlWordToken name (s ++ r)).2 ≤ s.length) :
    controlWordToken name (s ++ r') = controlWordToken name (s ++ r) := by
  unfold controlWordToken at hr hle ⊢
  rw [groupArgument?_append_of_barrier hb] at hr hle ⊢
  rw [groupArgument?_append_of_barrier hb']
  by_cases hbegin : name = "begin".toList
  · simp only [hbegin, ↓reduceIte] at hr hle ⊢
    cases hg : groupArgument? s with
    | none => rfl
    | some arg =>
      obtain ⟨env, n⟩ := arg
      have hn := groupArgument?_le hg
      simp only [hg, List.drop_append_of_le_length hn] at hr hle ⊢
      split
      · rename_i hv
        rw [if_pos hv] at hr hle
        dsimp only at hle
        rw [verbatimToken_exchange hr (by rw [List.length_drop]; omega)]
      · rfl
  · simp only [hbegin, ↓reduceIte] at hle ⊢
    split
    · rfl
    · rename_i hend
      rw [if_neg hend] at hle
      split
      · rfl
      · rename_i hclass
        rw [if_neg hclass] at hle
        split
        · rename_i hverb
          rw [if_pos hverb] at hle
          rw [verbLength_exchange hb hb' hle]
        · rfl

theorem controlToken_exchange {s r r' : Text} (hb : Barrier s r) (hb' : Barrier s r')
    (hr : r = [] → (controlToken (s ++ r)).1.isUnclosed = false)
    (hle : (controlToken (s ++ r)).2 ≤ s.length) :
    controlToken (s ++ r') = controlToken (s ++ r) := by
  cases s with
  | nil =>
    exfalso
    rcases hb with h | h
    · cases h
    · obtain ⟨c, r, rfl, hc⟩ := Barrier.exists_cons h
      have hletter : isCommandChar c = false :=
        isBarrierChar_cases (P := fun c => isCommandChar c = false) rfl rfl hc
      simp [controlToken, hletter] at hle
  | cons c s =>
    simp only [List.cons_append, controlToken] at hr hle ⊢
    by_cases hc : isCommandChar c
    · simp only [hc, ↓reduceIte, Text.drop_length_takeWhile, ← List.cons_append] at hr hle ⊢
      have htake : ∀ q, Barrier (c :: s) q →
          (c :: s ++ q).takeWhile isCommandChar = (c :: s).takeWhile isCommandChar :=
        fun q hq => hq.takeWhile_append (by decide) (by decide) (by decide)
      have hdrop : ∀ q, Barrier (c :: s) q →
          (c :: s ++ q).dropWhile isCommandChar = (c :: s).dropWhile isCommandChar ++ q :=
        fun q hq => hq.dropWhile_append (by decide) (by decide) (by decide)
      rw [htake r hb, hdrop r hb] at hr hle ⊢
      rw [htake r' hb', hdrop r' hb']
      have hlen := congrArg List.length
        (List.takeWhile_append_dropWhile (p := isCommandChar) (l := c :: s))
      rw [List.length_append] at hlen
      rw [controlWordToken_exchange (hb.dropWhile (by decide)) (hb'.dropWhile (by decide)) hr
        (by omega)]
    · simp [hc]

/-- A lexeme that ends before a barrier is the same whatever stands behind it. -/
theorem lexeme_exchange {c : Char} {s r r' : Text} (hb : Barrier (c :: s) r)
    (hb' : Barrier (c :: s) r') (hr : r = [] → (lexeme c (s ++ r)).1.isUnclosed = false)
    (hle : (lexeme c (s ++ r)).2 ≤ s.length) : lexeme c (s ++ r') = lexeme c (s ++ r) := by
  unfold lexeme at hr hle ⊢
  split
  · -- a comment that ends before a barrier ends at a newline before it
    have hlen : (s.takeWhile (· ≠ '\n')).length ≠ s.length := fun h => by
      have hall := List.takeWhile_eq_self_iff.1 ((List.takeWhile_prefix _).eq_of_length h)
      rcases hb.of_append (a := ['%']) (by decide) with h' | h'
      · simpa using hall _ (List.mem_of_getLast? h')
      · obtain ⟨c, r, rfl, hc⟩ := Barrier.exists_cons h'
        simp only [List.takeWhile_append_of_pos hall, List.length_append] at hle
        rw [List.takeWhile_cons_of_pos (by simp [ne_of_isBarrierChar hc (d := '\n') rfl]),
          List.length_cons] at hle
        omega
    rw [List.takeWhile_append, List.takeWhile_append, if_neg hlen, if_neg hlen]
  · exact controlToken_exchange (hb.of_append (a := ['\\']) (by decide))
      (hb'.of_append (a := ['\\']) (by decide)) hr hle
  all_goals try rfl
  rw [(hb.of_append (a := ['$']) (by decide)).takeWhile_append (by decide) (by decide) (by decide),
    (hb'.of_append (a := ['$']) (by decide)).takeWhile_append (by decide) (by decide) (by decide)]

/-- A reading up to a barrier gives the same lexemes whatever stands behind it. -/
theorem Reads.exchange {p : Position} {s r r' : Text} {xs : List Lexeme}
    (h : Reads p s r xs) (hr : r = [] → ∀ x ∈ xs, x.token.isUnclosed = false)
    (hb : Barrier s r) (hb' : Barrier s r') : Reads p s r' xs := by
  induction h with
  | nil p r => exact .nil p r'
  | @cons c s₁ s₂ r xs p hlen h ih =>
    have heq : lexeme c (s₁ ++ (s₂ ++ r')) = lexeme c (s₁ ++ (s₂ ++ r)) := by
      have hle : (lexeme c (s₁ ++ s₂ ++ r)).2 ≤ (s₁ ++ s₂).length := by
        rw [List.append_assoc, hlen, List.length_append]
        omega
      have hclosed : r = [] → (lexeme c (s₁ ++ s₂ ++ r)).1.isUnclosed = false := fun hnil => by
        simpa using hr hnil _ (List.mem_cons_self ..)
      simpa using lexeme_exchange hb hb' hclosed hle
    rw [← heq]
    refine .cons p (by rw [heq, hlen]) ?_
    cases s₂ with
    | nil =>
      cases h
      exact .nil _ r'
    | cons d s₂ =>
      have htail : ∀ q, Barrier (c :: (s₁ ++ d :: s₂)) q → Barrier (d :: s₂) q := fun q hq => by
        simpa only [Barrier, ← List.cons_append, List.getLast?_append, List.getLast?_cons,
          Option.some_or] using hq
      exact ih (fun hnil x hx => hr hnil x (List.mem_cons_of_mem _ hx)) (htail r hb) (htail r' hb')

end Lexeme

end LatexRepair
