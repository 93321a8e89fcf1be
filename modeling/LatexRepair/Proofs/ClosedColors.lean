import LatexRepair.Proofs.CheckedColors
import LatexRepair.Proofs.CodePlaces
import LatexRepair.Proofs.CommentBlindness
import LatexRepair.Proofs.TrailingReading

/-!
# Colours that are closed

The repair of colour shorthands inserts a closing brace before the end of a row for every colour
that is left open. The new braces cut the document into cells, one brace behind each of them, and a
rest behind the last one (`ClosesCells`).

A brace closes something only where it is read. `LineState` follows the reading of a line,
character by character, and a brace counts in the state `.code` only. Behind a new brace the row
ends, so whatever the brace did to the state of the line is over before the next line starts
(`codeBalance_eq_of_rowEnds`), and each new brace counts by itself
(`codeBalance_closeCells`). So the braces are all read exactly if each of them is code
(`closeColors?_closes`).
-/

namespace LatexRepair

/-! ## The state of a line -/

namespace LineState

/-- The state behind one more character. -/
def next (s : LineState) (c : Char) : LineState :=
  if c = '\n' then .code
  else
    match s with
    | .code => .behind c
    | .escaped => .code
    | .comment => .comment

section

variable {c : Char}

theorem next_code (hc : c ≠ '\n') : next .code c = .behind c :=
  if_neg hc

theorem next_escaped : next .escaped c = .code :=
  ite_self _

theorem next_comment (hc : c ≠ '\n') : next .comment c = .comment :=
  if_neg hc

end

theorem next_newline (s : LineState) : s.next '\n' = .code := by
  cases s <;> rfl

/-- The state behind a text. -/
def after (s : LineState) (t : Text) : LineState :=
  t.foldl next s

end LineState

/-- Opening less closing braces of the code of a text that is read in the given state. -/
def codeBalance (s : LineState) : Text → Int
  | [] => 0
  | c :: t => (if s = .code then braceValue c else 0) + codeBalance (s.next c) t

theorem sum_balance_codePlacesFrom_eq (s : LineState) (p : Position) (t : Text) :
    ((codePlacesFrom s p t).map CodePlace.balance).sum = codeBalance s t := by
  induction t generalizing s p with
  | nil => rfl
  | cons c t ih =>
    rw [codeBalance, ← ih (s.next c) (p.next c)]
    by_cases hc : c = '\n'
    · subst hc
      rw [codePlacesFrom_newline, LineState.next_newline]
      cases s <;> exact (Int.zero_add _).symm
    · cases s with
      | code =>
        rw [codePlacesFrom_code hc, List.map_cons, List.sum_cons, LineState.next_code hc]
        rfl
      | escaped =>
        rw [codePlacesFrom_escaped, LineState.next_escaped]
        exact (Int.zero_add _).symm
      | comment =>
        rw [codePlacesFrom_comment hc, LineState.next_comment hc]
        exact (Int.zero_add _).symm

/-- Where no text is taken literally, the validation counts the braces of the code. -/
theorem braceDelta_eq_codeBalance {t : Text} (h : NoLiteral t) (lookup : Option FileLookup) :
    (validate lookup t).braceDelta = codeBalance .code t := by
  rw [braceDelta_validate, delimiterEvents_brace, ← sum_balance_codePlacesFrom_eq .code .start]
  exact (agrees_codePlacesFrom .start t h).balance

theorem codeBalance_append (s : LineState) (a b : Text) :
    codeBalance s (a ++ b) = codeBalance s a + codeBalance (s.after a) b := by
  induction a generalizing s with
  | nil => exact (Int.zero_add _).symm
  | cons c a ih =>
    rw [List.cons_append, codeBalance, codeBalance, ih, Int.add_assoc]
    rfl

theorem codeBalance_eq_zero {t : Text} (h : ∀ c ∈ t, braceValue c = 0) (s : LineState) :
    codeBalance s t = 0 := by
  induction t generalizing s with
  | nil => rfl
  | cons c t ih =>
    rw [List.forall_mem_cons] at h
    rw [codeBalance, ih h.2, h.1, ite_self, Int.add_zero]

/-! ## Row ends -/

/-- Up to a row break at the end of its line there are only blanks. -/
def RowEnds (t : Text) : Prop :=
  BraceRepair.rowEndsHere (t.dropWhile isSpaceOrTab) = true

theorem exists_newline_of_rowEndsHere {t : Text} (h : BraceRepair.rowEndsHere t = true) :
    ∃ v r, t = v ++ '\n' :: r ∧ ∀ c ∈ v, isSpaceOrTab c = true ∨ c = '\\' ∨ c = '\r' := by
  unfold BraceRepair.rowEndsHere at h
  split at h
  · rename_i u
    have hu : u.takeWhile isSpaceOrTab ++ u.dropWhile isSpaceOrTab = u :=
      List.takeWhile_append_dropWhile
    have hblank : ∀ c ∈ u.takeWhile isSpaceOrTab, isSpaceOrTab c = true ∨ c = '\\' ∨ c = '\r' :=
      fun c hc => .inl (List.mem_takeWhile_imp hc)
    generalize u.takeWhile isSpaceOrTab = w at hu hblank
    split at h
    · rename_i r hr
      rw [hr] at hu
      refine ⟨'\\' :: '\\' :: w, r, by simp [hu], ?_⟩
      simpa using hblank
    · rename_i r hr
      rw [hr] at hu
      refine ⟨'\\' :: '\\' :: (w ++ ['\r']), r, by simp [hu], ?_⟩
      simpa [or_imp, forall_and] using hblank
    · cases h
  · cases h

/-- Before the end of a row it does not matter what state its line is read in. -/
theorem codeBalance_eq_of_rowEnds {t : Text} (h : RowEnds t) (s s' : LineState) :
    codeBalance s t = codeBalance s' t := by
  obtain ⟨v, r, hdrop, hv⟩ := exists_newline_of_rowEndsHere h
  have ht : t = (t.takeWhile isSpaceOrTab ++ v) ++ '\n' :: r := by
    rw [List.append_assoc, ← hdrop, List.takeWhile_append_dropWhile]
  have hneutral : ∀ c ∈ t.takeWhile isSpaceOrTab ++ v, braceValue c = 0 := fun c hc => by
    have hclass : isSpaceOrTab c = true ∨ c = '\\' ∨ c = '\r' :=
      (List.mem_append.1 hc).elim (fun hc => .inl (List.mem_takeWhile_imp hc)) (hv c)
    have hne : c ≠ '{' ∧ c ≠ '}' := by
      constructor <;> rintro rfl <;> exact absurd hclass (by decide)
    rw [braceValue, if_neg hne.1, if_neg hne.2]
  have hline : ∀ s, codeBalance s t = codeBalance .code r := fun s => by
    rw [ht, codeBalance_append, codeBalance_eq_zero hneutral, codeBalance, LineState.next_newline]
    split <;> exact (Int.zero_add _).trans (Int.zero_add _)
  rw [hline, hline]

/-! ## Cells with braces behind them -/

/-- The cells, each with a closing brace behind it. -/
def closeCells (cells : List Text) : Text :=
  cells.flatMap (· ++ ['}'])

/-- `u` is `t` with a closing brace behind each of the cells, where the row ends. -/
structure ClosesCells (cells : List Text) (rest t u : Text) : Prop where
  old : t = cells.flatten ++ rest
  new : u = closeCells cells ++ rest
  row : ∀ a c b, cells = a ++ c :: b → RowEnds (b.flatten ++ rest)

/-- The number of the closing braces behind cells that are code. -/
def closersInCode (s : LineState) : List Text → Nat
  | [] => 0
  | c :: cells => (if s.after c = .code then 1 else 0) + closersInCode ((s.after c).next '}') cells

section Cells

variable {cells : List Text} {c rest : Text}

theorem closeCells_cons_append (c : Text) (cells : List Text) (r : Text) :
    closeCells (c :: cells) ++ r = c ++ '}' :: (closeCells cells ++ r) := by
  simp [closeCells]

/-- Each brace behind a cell counts by itself, in code. -/
theorem codeBalance_closeCells (s : LineState)
    (hrow : ∀ a c b, cells = a ++ c :: b → RowEnds (b.flatten ++ rest)) :
    codeBalance s (closeCells cells ++ rest) =
      codeBalance s (cells.flatten ++ rest) - closersInCode s cells := by
  induction cells generalizing s with
  | nil => exact (Int.sub_zero _).symm
  | cons c cells ih =>
    have hrest := ih ((s.after c).next '}') fun a d b h => hrow (c :: a) d b (by rw [h]; rfl)
    have hstate :=
      codeBalance_eq_of_rowEnds (hrow [] c cells rfl) ((s.after c).next '}') (s.after c)
    rw [closeCells_cons_append, codeBalance_append, codeBalance, hrest, hstate, List.flatten_cons,
      List.append_assoc, codeBalance_append s c (cells.flatten ++ rest), closersInCode]
    split
    · have hvalue : braceValue '}' = -1 := rfl
      rw [hvalue]
      omega
    · omega

theorem closersInCode_le (s : LineState) (cells : List Text) :
    closersInCode s cells ≤ cells.length := by
  induction cells generalizing s with
  | nil => exact Nat.le_refl 0
  | cons c cells ih =>
    have := ih ((s.after c).next '}')
    rw [closersInCode, List.length_cons]
    split <;> omega

theorem closersInCode_eq_length_iff (s : LineState) :
    closersInCode s cells = cells.length ↔
      ∀ a c b, cells = a ++ c :: b → s.after (closeCells a ++ c) = .code := by
  induction cells generalizing s with
  | nil => simp [closersInCode]
  | cons c cells ih =>
    have hle := closersInCode_le ((s.after c).next '}') cells
    have hcons : ∀ a d, s.after (closeCells (c :: a) ++ d) =
        ((s.after c).next '}').after (closeCells a ++ d) := fun a d => by
      rw [closeCells_cons_append]
      simp [LineState.after, List.foldl_append]
    have hiff : closersInCode s (c :: cells) = (c :: cells).length ↔
        s.after c = .code ∧ closersInCode ((s.after c).next '}') cells = cells.length := by
      rw [closersInCode, List.length_cons]
      split
      · rename_i hcode
        rw [eq_true hcode, true_and, Nat.add_comm, Nat.add_right_cancel_iff]
      · rename_i hcode
        rw [eq_false hcode, false_and, iff_false]
        omega
    rw [hiff, ih]
    constructor
    · rintro ⟨hhead, htail⟩ a d b h
      cases a with
      | nil =>
        obtain ⟨rfl, -⟩ := List.cons.inj h
        exact hhead
      | cons e a =>
        obtain ⟨rfl, hd⟩ := List.cons.inj h
        rw [hcons]
        exact htail a d b hd
    · intro h
      refine ⟨h [] c cells rfl, fun a d b hd => ?_⟩
      rw [← hcons]
      exact h (c :: a) d b (by rw [hd]; rfl)

end Cells

/-! ## Places of the new braces -/

namespace BraceRepair

/-- A colour is closed where its row ends. -/
theorem rowEnds_of_mem_colorEnds {t : Text} {i : Nat} (h : i ∈ colorEnds t) :
    RowEnds (t.drop i) := by
  obtain ⟨x, -, hend⟩ := List.mem_filterMap.1 h
  obtain ⟨u, row, ⟨w, hu⟩, hrow, rfl⟩ := Checked.exists_rowEnd?_of_colorEnd? hend
  obtain ⟨hlt, hhere, -⟩ := Checked.rowEnd?_eq_some hrow
  obtain ⟨p, s, hp, -, -, hends⟩ := Checked.exists_of_rowEndsHere hhere
  have hbehind : (t.drop x.2).drop row = '\\' :: '\\' :: (p ++ (s ++ w)) := by
    rw [← hu, List.drop_append_of_le_length hlt.le, hp]
    simp
  have htrim : ∀ v r : Text, (v ++ r).drop (Text.trimEndBy isSpaceOrTab v).length =
      (v.reverse.takeWhile isSpaceOrTab).reverse ++ r := fun v r => by
    have hv : Text.trimEndBy isSpaceOrTab v ++ (v.reverse.takeWhile isSpaceOrTab).reverse = v := by
      rw [Text.trimEndBy, ← List.reverse_append, List.takeWhile_append_dropWhile,
        List.reverse_reverse]
    have hdrop : (Text.trimEndBy isSpaceOrTab v ++
        ((v.reverse.takeWhile isSpaceOrTab).reverse ++ r)).drop
          (Text.trimEndBy isSpaceOrTab v).length = _ := List.drop_left
    rwa [← List.append_assoc, hv] at hdrop
  have hdrop := htrim ((t.drop x.2).take row) ((t.drop x.2).drop row)
  rw [List.take_append_drop, List.drop_drop] at hdrop
  have hblank : ∀ c ∈ (((t.drop x.2).take row).reverse.takeWhile isSpaceOrTab).reverse,
      isSpaceOrTab c = true := fun c hc => List.mem_takeWhile_imp (List.mem_reverse.1 hc)
  rw [RowEnds, hdrop, hbehind, List.dropWhile_append_of_pos hblank,
    List.dropWhile_cons_of_neg (by decide)]
  exact hends _

end BraceRepair

/-- Braces that are inserted from left to right stand behind cells. -/
theorem exists_closeCells {t : Text} {start : Nat} {is : List Nat} (hstart : ∀ i ∈ is, start ≤ i)
    (hpairs : is.Pairwise (· ≤ ·)) (hle : ∀ i ∈ is, i ≤ t.length) :
    ∃ cells rest, cells.length = is.length ∧ t.drop start = cells.flatten ++ rest ∧
      (Edit.applyAll (is.map fun i => .insert i ['}']) t).drop start = closeCells cells ++ rest ∧
        ∀ a c b, cells = a ++ c :: b → ∃ i ∈ is, t.drop i = b.flatten ++ rest := by
  induction is generalizing start with
  | nil => exact ⟨[], t.drop start, rfl, rfl, rfl, fun a c b h => by simp at h⟩
  | cons i is ih =>
    rw [List.forall_mem_cons] at hstart hle
    rw [List.pairwise_cons] at hpairs
    obtain ⟨cells, rest, hlength, hold, hnew, hrow⟩ := ih hpairs.1 hpairs.2 hle.2
    have htake := Edit.take_applyAll (is.map fun i => .insert i ['}']) hle.1
      (by simpa [Edit.insert] using hpairs.1)
    have hsplit : ∀ r, (t.take i ++ r).drop start = (t.take i).drop start ++ r := fun r =>
      List.drop_append_of_le_length (by
        rw [List.length_take, Nat.min_eq_left hle.1]
        exact hstart.1)
    refine ⟨(t.take i).drop start :: cells, rest, congrArg (· + 1) hlength, ?_, ?_, ?_⟩
    · rw [List.flatten_cons, List.append_assoc, ← hold, ← hsplit, List.take_append_drop]
    · rw [closeCells_cons_append, ← hnew, List.map_cons, Edit.applyAll, List.foldr_cons,
        ← Edit.applyAll, Edit.apply_insert, htake, hsplit]
      rfl
    · intro a c b h
      cases a with
      | nil =>
        obtain ⟨-, rfl⟩ := List.cons.inj h
        exact ⟨i, List.mem_cons_self, hold⟩
      | cons d a =>
        obtain ⟨-, h⟩ := List.cons.inj h
        obtain ⟨j, hj, hdrop⟩ := hrow a c b h
        exact ⟨j, List.mem_cons_of_mem _ hj, hdrop⟩

theorem BraceRepair.exists_closesCells {t u : Text} {n : Nat} (h : closeColors? t = some (u, n)) :
    0 < n ∧ ∃ cells rest, cells.length = n ∧ ClosesCells cells rest t u := by
  obtain ⟨cells, rest, hlength, hold, hnew, hrow⟩ := @exists_closeCells t 0 _
    (fun _ _ => Nat.zero_le _) (Checked.pairwise_colorEnds t)
    (fun _ => Checked.le_length_of_mem_colorEnds)
  have hends : 0 < (colorEnds t).length ∧ (colorEnds t).length = n ∧
      Edit.applyAll ((colorEnds t).map fun i => .insert i ['}']) t = u := by
    unfold closeColors? at h
    split at h
    · cases h
    · rename_i hne
      cases h
      exact ⟨List.length_pos_iff.2 hne, rfl, rfl⟩
  obtain ⟨hpos, rfl, rfl⟩ := hends
  refine ⟨hpos, cells, rest, hlength, hold, hnew, fun a c b h => ?_⟩
  obtain ⟨i, hi, hdrop⟩ := hrow a c b h
  rw [← hdrop]
  exact rowEnds_of_mem_colorEnds hi

/-! ## Braces on both sides of a cut -/

namespace Lexeme

variable {a b r name : Text} {c : Char} {p q : Position}

/-- A text has no other group where more text stands behind it, if that group does not reach
into what stands behind. -/
theorem groupArgument?_eq_append
    (h : ∀ env n, groupArgument? (a ++ r) = some (env, n) → n ≤ a.length) :
    groupArgument? a = groupArgument? (a ++ r) := by
  cases hg : groupArgument? (a ++ r) with
  | none =>
    refine Option.eq_none_iff_forall_ne_some.2 fun x ha => ?_
    rw [groupArgument?_append_of_some ha r] at hg
    cases hg
  | some x =>
    obtain ⟨blanks, content, s, heq, hgroup⟩ := groupArgument?_eq_some_iff.1 hg
    have hle := h x.1 x.2 hg
    have hprefix : blanks ++ '{' :: (content ++ ['}']) <+: a := by
      refine List.prefix_of_prefix_length_le ⟨s, ?_⟩ (List.prefix_append a r) ?_
      · rw [heq]
        simp
      · rw [hgroup.2.2.2.2] at hle
        simp
        omega
    obtain ⟨s', rfl⟩ := hprefix
    exact groupArgument?_eq_some_iff.2 ⟨blanks, content, s', by simp, hgroup⟩

theorem length_controlWordToken_of_le (h : (controlWordToken name (a ++ r)).2 ≤ a.length) :
    (controlWordToken name a).2 = (controlWordToken name (a ++ r)).2 := by
  unfold controlWordToken at h ⊢
  by_cases hbegin : name = "begin".toList
  · simp only [hbegin, ↓reduceIte] at h ⊢
    have hgroup : ∀ env n, groupArgument? (a ++ r) = some (env, n) → n ≤ a.length :=
      fun env n hg => by
        rw [hg] at h
        dsimp only at h
        split at h
        · exact le_trans (Nat.le_add_right _ _) h
        · exact h
    rw [groupArgument?_eq_append hgroup]
    cases hg : groupArgument? (a ++ r) with
    | none => rfl
    | some x =>
      have hle := hgroup x.1 x.2 hg
      rw [hg] at h
      dsimp only at h ⊢
      split
      · rename_i hverbatim
        rw [if_pos hverbatim, List.drop_append_of_le_length hle] at h
        rw [List.drop_append_of_le_length hle]
        dsimp only at h ⊢
        rw [(ends_verbatimToken x.1 (a.drop x.2) r).eq_of_le (by rw [List.length_drop]; omega)]
      · rfl
  simp only [hbegin, ↓reduceIte] at h ⊢
  split
  · rename_i hend
    rw [if_pos hend] at h
    rw [groupArgument?_eq_append fun env n hg => by rw [hg] at h; exact h]
  rename_i hend
  rw [if_neg hend] at h
  split
  · rfl
  rename_i hclass
  rw [if_neg hclass] at h
  split
  · rename_i hverb
    rw [if_pos hverb] at h
    exact (ends_verbLength a r).eq_of_le h
  rename_i hverb
  rw [if_neg hverb] at h
  cases hcommand : IncludeCommand.ofName? name with
  | none => rfl
  | some command =>
    rw [hcommand] at h
    rw [groupArgument?_eq_append fun env n hg => by rw [hg] at h; exact h]

theorem length_controlToken_of_le (h : (controlToken (a ++ r)).2 ≤ a.length) :
    (controlToken a).2 = (controlToken (a ++ r)).2 := by
  cases a with
  | nil => exact (Nat.le_zero.1 h).symm
  | cons c a =>
    simp only [List.cons_append, controlToken] at h ⊢
    split
    · rename_i hc
      rw [if_pos hc, ← List.cons_append] at h
      dsimp only at h ⊢
      have hlength := (ends_takeWhile isCommandChar (c :: a) r).eq_of_le (by omega)
      have hname : (c :: a).takeWhile isCommandChar = (c :: a ++ r).takeWhile isCommandChar :=
        (List.prefix_of_prefix_length_le ((List.takeWhile_prefix _).trans (List.prefix_append _ r))
          (List.takeWhile_prefix _) hlength.le).eq_of_length hlength
      have hle := Text.length_takeWhile_le isCommandChar (c :: a)
      rw [← hname, List.drop_append_of_le_length hle] at h
      have hword : (controlWordToken ((c :: a).takeWhile isCommandChar)
          ((c :: a).drop ((c :: a).takeWhile isCommandChar).length ++ r)).2 ≤
            ((c :: a).drop ((c :: a).takeWhile isCommandChar).length).length := by
        rw [List.length_drop]
        omega
      rw [← List.cons_append, ← hname, List.drop_append_of_le_length hle,
        length_controlWordToken_of_le hword]
    · rfl

/-- A lexeme that ends before a cut ends there without what stands behind the cut. -/
theorem length_lexeme_of_le (h : (lexeme c (a ++ r)).2 ≤ a.length) :
    (lexeme c a).2 = (lexeme c (a ++ r)).2 := by
  unfold lexeme at h ⊢
  split
  · exact (ends_takeWhile _ a r).eq_of_le h
  · exact length_controlToken_of_le h
  all_goals try rfl
  exact (ends_takeWhile _ a r).eq_of_le h

/-- A text that is read up to a cut has the same braces as by itself. -/
theorem Reads.filterMap_brace? {xs : List Lexeme} (h : Reads p a r xs) :
    xs.filterMap brace? = bracesFrom p a := by
  induction h with
  | nil p r => simp [bracesFrom, lexemesFrom]
  | @cons c s₁ s₂ r xs p hlen h ih =>
    have hlexeme : (lexeme c (s₁ ++ s₂)).2 = s₁.length := by
      rw [← hlen, ← List.append_assoc]
      refine length_lexeme_of_le ?_
      rw [List.append_assoc, hlen, List.length_append]
      exact Nat.le_add_right _ _
    rw [bracesFrom_cons, hlexeme, List.take_left, List.drop_left, ← ih, filterMap_cons_eq,
      brace?_lexeme]

/-- Behind a cut that is read, a later one is read as well. -/
theorem Reads.behind {xs ys : List Lexeme} (h : Reads p a (b ++ r) xs)
    (h' : Reads p (a ++ b) r ys) :
    ∃ zs, Reads (p.after a) b r zs := by
  generalize hr : b ++ r = r' at h
  induction h generalizing ys with
  | nil p r => exact ⟨ys, h'⟩
  | @cons c s₁ s₂ r' xs p hlen h ih =>
    subst hr
    generalize ht : c :: (s₁ ++ s₂) ++ b = t at h'
    cases h' with
    | nil => cases ht
    | @cons d u₁ u₂ _ ys _ hlen' h' =>
      rw [List.cons_append, List.append_assoc] at ht
      obtain ⟨rfl, htail⟩ := List.cons.inj ht
      have htext : s₁ ++ (s₂ ++ (b ++ r)) = u₁ ++ (u₂ ++ r) := by
        rw [← List.append_assoc u₁, ← htail]
        simp
      rw [htext, hlen'] at hlen
      obtain ⟨rfl, rfl⟩ := List.append_inj htail hlen.symm
      rw [Position.after_cons, Position.after_append]
      exact ih h' rfl

theorem Reads.of_closer {xs : List Lexeme} (h : Reads p ('}' :: a) r xs) :
    ∃ ys, Reads (p.next '}') a r ys := by
  generalize ht : '}' :: a = t at h
  cases h with
  | nil => cases ht
  | @cons c s₁ s₂ _ ys _ hlen h =>
    obtain ⟨rfl, rfl⟩ := List.cons.inj ht
    obtain rfl : s₁ = [] := List.length_eq_zero_iff.1 hlen.symm
    exact ⟨ys, h⟩

end Lexeme

/-! ## Braces that are read -/

theorem balanceOf_append (es fs : List DelimiterEvent) :
    balanceOf (es ++ fs) = balanceOf es + balanceOf fs := by
  unfold balanceOf
  rw [List.countP_append, List.countP_append]
  omega

/-- How many braces a text has does not depend on where it stands. -/
theorem balanceOf_bracesFrom (p q : Position) (t : Text) :
    balanceOf (bracesFrom p t) = balanceOf (bracesFrom q t) := by
  have hcount : ∀ es : List DelimiterEvent, balanceOf es =
      (es.map DelimiterEvent.isOpening).count true -
        (es.map DelimiterEvent.isOpening).count false := fun es => by
    rw [balanceOf, List.count, List.count, List.countP_map, List.countP_map]
    have hclosing : ∀ e : DelimiterEvent, ((· == false) ∘ DelimiterEvent.isOpening) e =
        e.isClosing := fun e => by cases e <;> rfl
    have hopening : ∀ e : DelimiterEvent, ((· == true) ∘ DelimiterEvent.isOpening) e =
        e.isOpening := fun e => by cases e <;> rfl
    rw [funext hclosing, funext hopening]
  rw [hcount, hcount, map_isOpening_bracesFrom p q]

/-- A brace that is read behind each cell counts by itself. -/
theorem balanceOf_closeCells {cells : List Text} {rest : Text} (p p' : Position)
    (hold : ∀ a c b, cells = a ++ c :: b →
      ∃ xs, Lexeme.Reads p (a.flatten ++ c) (b.flatten ++ rest) xs)
    (hnew : ∀ a c b, cells = a ++ c :: b →
      ∃ xs, Lexeme.Reads p' (closeCells a ++ c) ('}' :: (closeCells b ++ rest)) xs) :
    balanceOf (bracesFrom p' (closeCells cells ++ rest)) =
      balanceOf (bracesFrom p (cells.flatten ++ rest)) - cells.length := by
  induction cells generalizing p p' with
  | nil => exact (balanceOf_bracesFrom p' p rest).trans (Int.sub_zero _).symm
  | cons c cells ih =>
    obtain ⟨xs, hxs⟩ := hold [] c cells rfl
    obtain ⟨ys, hys⟩ := hnew [] c cells rfl
    change Lexeme.Reads p c (cells.flatten ++ rest) xs at hxs
    change Lexeme.Reads p' c ('}' :: (closeCells cells ++ rest)) ys at hys
    have hrest := ih (p.after c) ((p'.after c).next '}') (fun a d b h => ?_) (fun a d b h => ?_)
    · have hsplit : bracesFrom p ((c :: cells).flatten ++ rest) =
          bracesFrom p c ++ bracesFrom (p.after c) (cells.flatten ++ rest) := by
        rw [List.flatten_cons, List.append_assoc, bracesFrom, hxs.lexemesFrom_append,
          List.filterMap_append, hxs.filterMap_brace?]
        rfl
      have hsplit' : bracesFrom p' (closeCells (c :: cells) ++ rest) =
          bracesFrom p' c ++ .closing (p'.after c) ::
            bracesFrom ((p'.after c).next '}') (closeCells cells ++ rest) := by
        rw [closeCells_cons_append, bracesFrom, hys.lexemesFrom_append, List.filterMap_append,
          hys.filterMap_brace?, ← bracesFrom, bracesFrom_cons]
        rfl
      have hone : balanceOf [.closing (p'.after c)] = -1 := rfl
      rw [hsplit, hsplit', balanceOf_append, ← List.singleton_append, balanceOf_append,
        balanceOf_append, hrest, balanceOf_bracesFrom p' p c, List.length_cons, hone]
      omega
    · obtain ⟨zs, hzs⟩ := hold (c :: a) d b (by rw [h]; rfl)
      rw [List.flatten_cons, List.append_assoc] at hzs
      rw [h, List.flatten_append, List.flatten_cons, List.append_assoc, List.append_assoc,
        ← List.append_assoc a.flatten] at hxs
      exact hxs.behind hzs
    · obtain ⟨zs, hzs⟩ := hnew (c :: a) d b (by rw [h]; rfl)
      rw [closeCells_cons_append] at hzs
      have hcells : '}' :: (closeCells cells ++ rest) =
          ('}' :: (closeCells a ++ d)) ++ '}' :: (closeCells b ++ rest) := by
        rw [h]
        simp [closeCells]
      rw [hcells] at hys
      obtain ⟨ws, hws⟩ := hys.behind hzs
      exact hws.of_closer

/-! ## Closed colours -/

namespace ClosesCells

variable {cells : List Text} {rest t u : Text}

/-- The new braces are all counted exactly if they all are code. -/
theorem braceDelta_iff (h : ClosesCells cells rest t u) (ht : NoLiteral t) (hu : NoLiteral u) :
    (validate none u).braceDelta = (validate none t).braceDelta - cells.length ↔
      ∀ a c b, cells = a ++ c :: b → LineState.code.after (closeCells a ++ c) = .code := by
  rw [braceDelta_eq_codeBalance ht, braceDelta_eq_codeBalance hu, h.old, h.new,
    codeBalance_closeCells .code h.row, ← closersInCode_eq_length_iff]
  omega

/-- The new braces are all counted if a scan comes to their places, before and after. -/
theorem braceDelta_of_reached (h : ClosesCells cells rest t u)
    (hreached : ∀ a c b, cells = a ++ c :: b → Reached (a.flatten ++ c) (b.flatten ++ rest) ∧
      Reached (closeCells a ++ c) ('}' :: (closeCells b ++ rest))) :
    (validate none u).braceDelta = (validate none t).braceDelta - cells.length := by
  rw [braceDelta_validate, braceDelta_validate, delimiterEvents_brace, delimiterEvents_brace, h.old,
    h.new]
  exact balanceOf_closeCells .start .start
    (fun a c b hcells => (hreached a c b hcells).1.exists_reads.imp fun _ => And.left)
    (fun a c b hcells => (hreached a c b hcells).2.exists_reads.imp fun _ => And.left)

end ClosesCells

/-- Where colours are closed, at least one, there is a closing brace behind each of as many cells
of the document, up to the end of a row, and nothing else is changed. All the braces are counted if
a scan comes to their places, before and after. Where no text is taken literally, all are counted
exactly if they stand in no comment and behind no backslash that escapes them. -/
theorem closeColors?_closes {t u : Text} {n : Nat} (h : BraceRepair.closeColors? t = some (u, n)) :
    0 < n ∧ (∃ cells rest, cells.length = n ∧ ClosesCells cells rest t u) ∧
      ∀ cells rest, cells.length = n → ClosesCells cells rest t u →
        ((∀ a c b, cells = a ++ c :: b → Reached (a.flatten ++ c) (b.flatten ++ rest) ∧
            Reached (closeCells a ++ c) ('}' :: (closeCells b ++ rest))) →
          (validate none u).braceDelta = (validate none t).braceDelta - n) ∧
        (NoLiteral t → NoLiteral u →
          ((validate none u).braceDelta = (validate none t).braceDelta - n ↔
            ∀ a c b, cells = a ++ c :: b → LineState.code.after (closeCells a ++ c) = .code)) := by
  obtain ⟨hpos, hcells⟩ := BraceRepair.exists_closesCells h
  refine ⟨hpos, hcells, fun cells rest hlength hcloses => ?_⟩
  subst hlength
  exact ⟨hcloses.braceDelta_of_reached, hcloses.braceDelta_iff⟩

/-- The colour of a cell is closed before the end of its row. -/
theorem closeColors?_closes_cell :
    BraceRepair.closeColors? "a & \\red\x7bb \\\\\n".toList =
        some ("a & \\red{b} \\\\\n".toList, 1) ∧
      (validate none "a & \\red{b} \\\\\n".toList).braceDelta =
        (validate none "a & \\red\x7bb \\\\\n".toList).braceDelta - 1 := by
  have h : BraceRepair.closeColors? "a & \\red\x7bb \\\\\n".toList =
      some ("a & \\red{b} \\\\\n".toList, 1) := by decide +kernel
  have hsplit : ∀ a c b, ["a & \\red\x7bb".toList] = a ++ c :: b →
      a = [] ∧ c = "a & \\red\x7bb".toList ∧ b = [] := fun a c b hcells => by
    obtain ⟨rfl, hcell⟩ | ⟨-, hnil⟩ := List.append_eq_singleton_iff.1 hcells.symm
    · exact ⟨rfl, List.cons.inj hcell⟩
    · cases hnil
  have hcloses : ClosesCells ["a & \\red\x7bb".toList] " \\\\\n".toList
      "a & \\red\x7bb \\\\\n".toList "a & \\red{b} \\\\\n".toList :=
    ⟨rfl, rfl, fun a c b hcells => by
      obtain ⟨-, -, rfl⟩ := hsplit a c b hcells
      unfold RowEnds
      decide +kernel⟩
  refine ⟨h, (((closeColors?_closes h).2.2 _ _ rfl hcloses).2 (by decide +kernel)
    (by decide +kernel)).2 fun a c b hcells => ?_⟩
  obtain ⟨rfl, rfl, -⟩ := hsplit a c b hcells
  decide +kernel

/-- Where the row ends in a comment, the brace is part of the comment and closes nothing, though
the next row ends in code. -/
theorem closeColors?_in_comment :
    BraceRepair.closeColors? "\\red\x7ba % b \\\\\nc \\\\\n".toList =
        some ("\\red\x7ba % b\x7d \\\\\nc \\\\\n".toList, 1) ∧
      (validate none "\\red\x7ba % b\x7d \\\\\nc \\\\\n".toList).braceDelta ≠
        (validate none "\\red\x7ba % b \\\\\nc \\\\\n".toList).braceDelta - 1 := by
  refine ⟨by decide +kernel, ?_⟩
  rw [braceDelta_validate, braceDelta_validate]
  decide +kernel

end LatexRepair
