import LatexRepair.Proofs.BracePatch
import LatexRepair.Proofs.Encoding
import LatexRepair.Proofs.ReadMarkers

/-!
# Reading before closing braces at the end

Closing braces and white space behind a text change nothing in how it is read, up to the
lexeme that they end : a comment or verbatim text that would go on, which takes them in, or a
command whose argument they close. `Lexeme.Reaches` says so of one lexeme
(`Lexeme.reaches_lexeme`), function by function of the lexer.

`exists_bracesFrom_append` : so the text has the same braces up to that place. From there on
there are closers only, and without what stands behind the text at most one opener, which is
part of the argument else.
-/

namespace LatexRepair

variable {a r t : Text} {c : Char} {p : Position}

/-! ## Braces -/

namespace Lexeme

/-- The brace that a character is which stands at `p`. -/
def braceAt (p : Position) (c : Char) : List DelimiterEvent :=
  if c = '{' then [.opening p] else if c = '}' then [.closing p] else []

/-- Nothing but a brace is read as one. -/
theorem brace?_lexeme (c : Char) (t : Text) (p q : Position) :
    (brace? ⟨(lexeme c t).1, p, q⟩).toList = braceAt p c := by
  have hverbatim : ∀ name t, brace? ⟨(verbatimToken name t).1, p, q⟩ = none := fun name t => by
    unfold verbatimToken
    split <;> rfl
  have hword : ∀ name t, brace? ⟨(controlWordToken name t).1, p, q⟩ = none := fun name t => by
    unfold controlWordToken
    split
    · split
      · split
        · exact hverbatim _ _
        · rfl
      · rfl
    · split
      · split <;> rfl
      · split
        · rfl
        · split
          · rfl
          · split <;> rfl
  have hcontrol : brace? ⟨(controlToken t).1, p, q⟩ = none := by
    unfold controlToken
    split
    · rfl
    · split
      · exact hword _ _
      · rfl
  unfold lexeme braceAt
  split <;> first | rfl | skip
  · rw [hcontrol]
    rfl
  · simp_all [brace?]

end Lexeme

theorem bracesFrom_cons (p : Position) (c : Char) (t : Text) :
    bracesFrom p (c :: t) = Lexeme.braceAt p c ++
      bracesFrom ((p.next c).after (t.take (Lexeme.lexeme c t).2))
        (t.drop (Lexeme.lexeme c t).2) := by
  rw [bracesFrom, Lexeme.lexemesFrom_cons, filterMap_cons_eq, Lexeme.brace?_lexeme]
  rfl

/-- A brace of a text is a character of it. -/
theorem mem_of_mem_bracesFrom {e : DelimiterEvent} (h : e ∈ bracesFrom p t) :
    (if e.isOpening then '{' else '}') ∈ t := by
  induction hn : t.length using Nat.strong_induction_on generalizing p t with
  | _ n ih =>
    cases t with
    | nil =>
      rw [bracesFrom, Lexeme.lexemesFrom] at h
      cases h
    | cons c t =>
      rw [bracesFrom_cons, List.mem_append] at h
      rcases h with h | h
      · unfold Lexeme.braceAt at h
        split at h
        · obtain rfl := List.mem_singleton.1 h
          exact List.mem_cons.2 (.inl (by simp_all [DelimiterEvent.isOpening]))
        · split at h
          · obtain rfl := List.mem_singleton.1 h
            exact List.mem_cons.2 (.inl (by simp_all [DelimiterEvent.isOpening]))
          · cases h
      · have hlt : (t.drop (Lexeme.lexeme c t).2).length < n := by
          rw [List.length_drop, ← hn, List.length_cons]
          omega
        exact List.mem_cons_of_mem _ (List.mem_of_mem_drop (ih _ hlt h rfl))

theorem bracesFrom_eq_nil (hopen : '{' ∉ t) (hclose : '}' ∉ t) (p : Position) :
    bracesFrom p t = [] := by
  refine List.eq_nil_iff_forall_not_mem.2 fun e he => ?_
  have hmem := mem_of_mem_bracesFrom he
  split at hmem
  · exact hopen hmem
  · exact hclose hmem

/-- Without opening braces a text has closers only. -/
theorem isClosing_of_mem_bracesFrom (hopen : '{' ∉ t) {e : DelimiterEvent}
    (he : e ∈ bracesFrom p t) : e.isClosing = true := by
  cases e with
  | opening q => exact absurd (mem_of_mem_bracesFrom he) hopen
  | closing q => rfl

namespace Lexeme

theorem not_mem_of_filler {d : Char} (hr : ∀ c ∈ r, isFiller c = true) (hd : isFiller d = false) :
    d ∉ r := fun hmem => Bool.false_ne_true (hd.symm.trans (hr d hmem))

/-- No character of a control word is white space. -/
theorem isCommandChar_of_filler (h : isFiller c = true) : isCommandChar c = false := by
  have hall : ∀ n : Fin 128, isCommandChar (Char.ofNat n) = true →
      isFiller (Char.ofNat n) = false := by decide +kernel
  refine Bool.eq_false_iff.2 fun hc => ?_
  have hfiller := hall ⟨c.toNat, toNat_lt_of_isCommandChar hc⟩
  rw [Char.ofNat_toNat] at hfiller
  exact Bool.false_ne_true ((hfiller hc).symm.trans h)

/-! ## Groups -/

/-- A group that is opened, and neither closed nor broken off. -/
def OpensGroup (t : Text) : Prop :=
  ∃ blanks content, t = blanks ++ '{' :: content ∧ (∀ c ∈ blanks, isSpaceOrTab c = true) ∧
    ∀ c ∈ content, endsGroup c = false

theorem bracesFrom_of_opensGroup (h : OpensGroup t) (p : Position) :
    ∃ q, bracesFrom p t = [.opening q] := by
  obtain ⟨blanks, content, rfl, hblanks, hcontent⟩ := h
  have hcontent' : ∀ d, endsGroup d = true → d ∉ content := fun d hd hmem =>
    Bool.false_ne_true ((hcontent d hmem).symm.trans hd)
  have hfiller : ∀ c ∈ blanks, isFiller c = true := fun c hc => by
    simp [isFiller, isBlank_of_isSpaceOrTab (hblanks c hc)]
  have hnil : bracesFrom p blanks = [] :=
    bracesFrom_eq_nil (not_mem_of_filler hfiller (by decide))
      (fun hmem => absurd (hblanks _ hmem) (by decide)) p
  rw [bracesFrom_filler hfiller, hnil, bracesFrom_cons, bracesFrom_eq_nil]
  · exact ⟨_, rfl⟩
  · exact fun hmem => hcontent' '{' (by decide) (List.mem_of_mem_drop hmem)
  · exact fun hmem => hcontent' '}' (by decide) (List.mem_of_mem_drop hmem)

/-- A group is read whatever stands behind it. -/
theorem groupArgument?_append_of_some {x : Text × Nat} (h : groupArgument? a = some x) (r : Text) :
    groupArgument? (a ++ r) = some x := by
  obtain ⟨blanks, content, q, rfl, hx⟩ := groupArgument?_eq_some_iff.1 h
  exact groupArgument?_eq_some_iff.2 ⟨blanks, content, q ++ r, by simp, hx⟩

/-- Closing braces and white space behind a text may close the group that it opens, and change
no other group that it starts with. -/
theorem groupArgument?_append_filler (hr : ∀ c ∈ r, isFiller c = true) (a : Text) :
    groupArgument? (a ++ r) = groupArgument? a ∨
      groupArgument? a = none ∧ OpensGroup a ∧ '}' ∈ r ∧
        ∃ env n, groupArgument? (a ++ r) = some (env, n) ∧ a.length ≤ n := by
  cases ha : groupArgument? a with
  | some x => exact .inl (groupArgument?_append_of_some ha r)
  | none =>
    cases hg : groupArgument? (a ++ r) with
    | none => exact .inl rfl
    | some x =>
      obtain ⟨env, n⟩ := x
      have hopen : '{' ∉ r := not_mem_of_filler hr (by decide)
      obtain ⟨blanks, content, q, heq, hblanks, hcontent, henv, hne, rfl⟩ :=
        groupArgument?_eq_some_iff.1 hg
      refine .inr ⟨rfl, ?_⟩
      -- The opening brace stands in `a`, and the closing one does not.
      rcases List.append_eq_append_iff.1 heq with ⟨d, -, rfl⟩ | ⟨d, rfl, hd⟩
      · exact absurd (List.mem_append_right _ List.mem_cons_self) hopen
      · cases d with
        | nil =>
          rw [List.nil_append] at hd
          exact absurd (hd ▸ List.mem_cons_self) hopen
        | cons c d =>
          rw [List.cons_append, List.cons.injEq] at hd
          obtain ⟨rfl, hd⟩ := hd
          obtain ⟨s, rfl, rfl⟩ : ∃ s, content = d ++ s ∧ r = s ++ '}' :: q := by
            rcases List.append_eq_append_iff.1 hd with ⟨s, rfl, hs⟩ | h
            · cases s with
              | nil => exact ⟨[], by simp, hs.symm⟩
              | cons c s =>
                rw [List.cons_append, List.cons.injEq] at hs
                obtain ⟨rfl, -⟩ := hs
                rw [groupArgument?_eq_some_iff.2
                  ⟨blanks, content, s, rfl, hblanks, hcontent, henv, hne, rfl⟩] at ha
                cases ha
            · exact h
          refine ⟨⟨blanks, d, rfl, hblanks, fun c hc => ?_⟩, by simp, env, _, rfl, by simp; omega⟩
          have hchar := hcontent c (List.mem_append_left _ hc)
          rwa [Marker.isNameChar_eq, Bool.not_eq_true'] at hchar

/-! ## Lexemes -/

/-- What starts the text `a` goes over `m` characters with more text behind `a`, and over `n`
characters without. -/
inductive Ends (a : Text) (m n : Nat) : Prop where
  /-- It ends in `a`, and does not see what stands behind. -/
  | inside (h : m = n) (hle : n ≤ a.length)
  /-- It takes all of `a`. -/
  | whole (hm : a.length ≤ m) (hn : n = a.length)

/-- How far it goes what starts the text `a` : over `m` characters with `r` behind `a`, and over
`n` characters without. -/
inductive Reaches (a r : Text) (m n : Nat) : Prop where
  /-- It ends in `a`, and does not see what stands behind. -/
  | inside (h : m = n) (hle : n ≤ a.length)
  /-- It takes all of `a`. -/
  | whole (hm : a.length ≤ m) (hn : n = a.length)
  /-- It has an argument that ends behind `a`. -/
  | opened (hm : a.length ≤ m) (hgroup : OpensGroup (a.drop n)) (hr : '}' ∈ r)

variable {m n k : Nat}

theorem Ends.reaches (h : Ends a m n) : Reaches a r m n :=
  match h with
  | .inside h hle => .inside h hle
  | .whole hm hn => .whole hm hn

/-- What ends in `a` with more text behind it ends there without, too. -/
theorem Ends.eq_of_le (h : Ends a m n) (hle : m ≤ a.length) : n = m := by
  cases h with
  | inside h _ => exact h.symm
  | whole hm hn => omega

theorem Ends.of_drop (h : Ends (a.drop k) m n) (hk : k ≤ a.length) : Ends a (k + m) (k + n) := by
  have hlength := List.length_drop (i := k) (l := a)
  cases h with
  | inside h hle => exact .inside (congrArg (k + ·) h) (by omega)
  | whole hm hn => exact .whole (by omega) (by omega)

theorem Reaches.of_drop (h : Reaches (a.drop k) r m n) (hk : k ≤ a.length) :
    Reaches a r (k + m) (k + n) := by
  have hlength := List.length_drop (i := k) (l := a)
  cases h with
  | inside h hle => exact .inside (congrArg (k + ·) h) (by omega)
  | whole hm hn => exact .whole (by omega) (by omega)
  | opened hm hgroup hr => exact .opened (by omega) (by rwa [List.drop_drop] at hgroup) hr

theorem ends_takeWhile (P : Char → Bool) (a r : Text) :
    Ends a ((a ++ r).takeWhile P).length (a.takeWhile P).length := by
  rw [List.takeWhile_append]
  split
  · exact .whole (by simp) ‹_›
  · exact .inside rfl (Text.length_takeWhile_le P a)

theorem ends_delimitedLength (a r : Text) :
    Ends a (delimitedLength (a ++ r)) (delimitedLength a) := by
  cases a with
  | nil => exact .whole (Nat.zero_le _) rfl
  | cons d body =>
    rw [List.cons_append, delimitedLength, delimitedLength]
    split
    · exact .inside rfl (Nat.zero_le _)
    · generalize (fun c => decide (c ≠ d) && decide (c ≠ '\n')) = P
      have hlength := congrArg List.length (List.takeWhile_append_dropWhile (p := P) (l := body))
      rw [List.length_append] at hlength
      cases hrest : body.dropWhile P with
      | nil =>
        rw [hrest, List.length_nil] at hlength
        rw [List.takeWhile_append, if_pos (by omega)]
        exact .whole (by simp; omega) (by simp; omega)
      | cons c rest =>
        rw [hrest, List.length_cons] at hlength
        rw [List.takeWhile_append, if_neg (by omega), List.dropWhile_append, hrest]
        refine .inside (by simp) ?_
        rw [List.length_cons]
        split <;> omega

theorem ends_verbLength (a r : Text) : Ends a (verbLength (a ++ r)) (verbLength a) := by
  cases a with
  | nil => exact .whole (Nat.zero_le _) rfl
  | cons c a =>
    rw [verbLength_eq, verbLength_eq]
    have hhead : (c :: a ++ r).head? = (c :: a).head? := rfl
    rw [hhead]
    split
    · exact (ends_delimitedLength a r).of_drop (a := c :: a) (k := 1) (by simp)
    · rw [Nat.zero_add, Nat.zero_add]
      exact ends_delimitedLength (c :: a) r

theorem ends_verbatimToken (name a r : Text) :
    Ends a (verbatimToken name (a ++ r)).2 (verbatimToken name a).2 := by
  unfold verbatimToken
  cases ha : Text.find? (verbatimEnd name) a with
  | some i =>
    rw [Text.find?_append_of_some ha]
    exact .inside rfl (Text.length_le_of_find? ha)
  | none =>
    refine .whole ?_ rfl
    cases hi : Text.find? (verbatimEnd name) (a ++ r) with
    | none => simp
    | some i =>
      by_contra hlt
      rw [Text.find?_of_find?_append hi (Nat.le_of_not_le hlt)] at ha
      cases ha

section

variable (hr : ∀ c ∈ r, isFiller c = true)
include hr

theorem reaches_controlWordToken (name a : Text) :
    Reaches a r (controlWordToken name (a ++ r)).2 (controlWordToken name a).2 := by
  have hgroup := groupArgument?_append_filler hr a
  unfold controlWordToken
  split
  · rcases hgroup with heq | ⟨hnone, hopens, hbrace, env, n, hsome, hle⟩
    · rw [heq]
      cases ha : groupArgument? a with
      | none => exact .inside rfl (Nat.zero_le _)
      | some arg =>
        have hle := groupArgument?_le ha
        dsimp only
        rw [List.drop_append_of_le_length hle]
        split
        · exact (ends_verbatimToken _ _ r).reaches.of_drop hle
        · exact .inside rfl hle
    · rw [hnone, hsome]
      refine .opened ?_ hopens hbrace
      dsimp only
      split
      · exact hle.trans (Nat.le_add_right _ _)
      · exact hle
  · split
    · rcases hgroup with heq | ⟨hnone, hopens, hbrace, env, n, hsome, hle⟩
      · rw [heq]
        cases ha : groupArgument? a with
        | none => exact .inside rfl (Nat.zero_le _)
        | some arg => exact .inside rfl (groupArgument?_le ha)
      · rw [hnone, hsome]
        exact .opened hle hopens hbrace
    · split
      · exact .inside rfl (Nat.zero_le _)
      · split
        · exact (ends_verbLength a r).reaches
        · rcases hgroup with heq | ⟨hnone, hopens, hbrace, env, n, hsome, hle⟩
          · rw [heq]
            refine .inside rfl ?_
            split
            · exact groupArgument?_le ‹_›
            · exact Nat.zero_le _
          · rw [hnone, hsome]
            cases IncludeCommand.ofName? name with
            | none => exact .inside rfl (Nat.zero_le _)
            | some command => exact .opened hle hopens hbrace

theorem reaches_controlToken (a : Text) :
    Reaches a r (controlToken (a ++ r)).2 (controlToken a).2 := by
  cases a with
  | nil => exact .whole (Nat.zero_le _) rfl
  | cons c a =>
    simp only [List.cons_append, controlToken]
    split
    · rw [← List.cons_append]
      have hnil : r.takeWhile isCommandChar = [] := by
        cases r with
        | nil => rfl
        | cons d r =>
          exact List.takeWhile_cons_of_neg
            (by simp [isCommandChar_of_filler (List.forall_mem_cons.1 hr).1])
      have hname : (c :: a ++ r).takeWhile isCommandChar = (c :: a).takeWhile isCommandChar := by
        rw [List.takeWhile_append, hnil, List.append_nil]
        split
        · exact ((List.takeWhile_prefix _).eq_of_length ‹_›).symm
        · rfl
      have hle := Text.length_takeWhile_le isCommandChar (c :: a)
      rw [hname, List.drop_append_of_le_length hle]
      exact (reaches_controlWordToken hr _ _).of_drop hle
    · exact .inside rfl (by simp)

theorem reaches_lexeme (c : Char) (a : Text) :
    Reaches a r (lexeme c (a ++ r)).2 (lexeme c a).2 := by
  unfold lexeme
  split
  · exact (ends_takeWhile _ a r).reaches
  · exact reaches_controlToken hr a
  all_goals try exact .inside rfl (Nat.zero_le _)
  exact (ends_takeWhile _ a r).reaches

end

end Lexeme

/-! ## The braces of a text -/

/-- With closing braces and white space behind it a text has the braces of before up to some
place. From there on all braces are closers, and without what is behind they are none, or one
opener, that of a group which ends there. -/
theorem exists_bracesFrom_append (hr : ∀ c ∈ r, Lexeme.isFiller c = true) (p : Position)
    (a : Text) :
    ∃ E C D, bracesFrom p (a ++ r) = E ++ C ∧ bracesFrom p a = E ++ D ∧
      (∀ e ∈ C, e.isClosing = true) ∧ (D = [] ∨ ∃ q, D = [.opening q]) ∧
        ('}' ∉ r → C = [] ∧ D = []) := by
  have hopen : '{' ∉ r := Lexeme.not_mem_of_filler hr (by decide)
  have hclosing : ∀ (q : Position) (n : Nat),
      (∀ e ∈ bracesFrom q (r.drop n), e.isClosing = true) ∧
        ('}' ∉ r → bracesFrom q (r.drop n) = []) := fun q n =>
    ⟨fun e => isClosing_of_mem_bracesFrom fun hmem => hopen (List.mem_of_mem_drop hmem),
      fun hclose => bracesFrom_eq_nil (fun hmem => hopen (List.mem_of_mem_drop hmem))
        (fun hmem => hclose (List.mem_of_mem_drop hmem)) q⟩
  induction hn : a.length using Nat.strong_induction_on generalizing p a with
  | _ n ih =>
    cases a with
    | nil =>
      obtain ⟨hall, hnil⟩ := hclosing p 0
      refine ⟨[], bracesFrom p r, [], rfl, ?_, hall, .inl rfl, fun h => ⟨hnil h, rfl⟩⟩
      rw [bracesFrom, Lexeme.lexemesFrom]
      rfl
    | cons c a =>
      rw [List.cons_append, bracesFrom_cons, bracesFrom_cons]
      cases Lexeme.reaches_lexeme hr c a with
      | inside h hle =>
        rw [h, List.take_append_of_le_length hle, List.drop_append_of_le_length hle]
        have hlt : (a.drop (Lexeme.lexeme c a).2).length < n := by
          rw [List.length_drop, ← hn, List.length_cons]
          omega
        obtain ⟨E, C, D, hC, hD, hrest⟩ :=
          ih _ hlt ((p.next c).after (a.take (Lexeme.lexeme c a).2)) _ rfl
        refine ⟨Lexeme.braceAt p c ++ E, C, D, ?_, ?_, hrest⟩
        · rw [hC, List.append_assoc]
        · rw [hD, List.append_assoc]
      | whole hm hn =>
        obtain ⟨hall, hnil⟩ := hclosing
          ((p.next c).after ((a ++ r).take (Lexeme.lexeme c (a ++ r)).2))
          ((Lexeme.lexeme c (a ++ r)).2 - a.length)
        rw [List.drop_append, List.drop_eq_nil_of_le hm, List.nil_append,
          List.drop_eq_nil_of_le hn.ge]
        refine ⟨Lexeme.braceAt p c, _, [], rfl, ?_, hall, .inl rfl, fun h => ⟨hnil h, rfl⟩⟩
        rw [bracesFrom, Lexeme.lexemesFrom]
        rfl
      | opened hm hgroup hbrace =>
        obtain ⟨hall, -⟩ := hclosing
          ((p.next c).after ((a ++ r).take (Lexeme.lexeme c (a ++ r)).2))
          ((Lexeme.lexeme c (a ++ r)).2 - a.length)
        obtain ⟨q, hq⟩ := Lexeme.bracesFrom_of_opensGroup hgroup
          ((p.next c).after (a.take (Lexeme.lexeme c a).2))
        rw [List.drop_append, List.drop_eq_nil_of_le hm, List.nil_append, hq]
        exact ⟨Lexeme.braceAt p c, _, _, rfl, rfl, hall, .inr ⟨q, rfl⟩, absurd hbrace⟩

end LatexRepair
