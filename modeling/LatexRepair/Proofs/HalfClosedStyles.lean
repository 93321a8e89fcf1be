import LatexRepair.Proofs.BraceEdits
import LatexRepair.Proofs.EndCount

/-!
# Half-closed styles

Where nested bold and italic text is closed only once before punctuation (`HalfClosed`), a second
closing brace is put in. The search for such places finds the first one there is
(`StructureRepair.halfClosed?_eq_none_iff`, `StructureRepair.exists_of_halfClosed?`). Whatever
stands before a closing brace, nothing is escaped behind it, so each brace that is put in counts and
leaves the comment of the line what it was (`StylesClosed.lineBalance_eq`,
`StylesClosed.commentPart_eq`).

`StructureRepair.closesStyles_closeStyles` : so styles are closed until the rendition has no more
open braces than the guide, or has no half-closed style left.
-/

namespace LatexRepair

open StructureRepair

/-! ## Places -/

/-- The text `a` ends in nested bold and italic text and the text `b` starts with punctuation : with
one closing brace between them the style is half-closed. -/
structure HalfClosed (a b : Text) : Prop where
  style : ∃ before opening inner, a = before ++ (opening ++ inner) ∧ opening ∈ styleOpenings ∧
    inner ≠ [] ∧ ∀ c ∈ inner, c ≠ '{' ∧ c ≠ '}'
  punctuation : ∃ c r, b = c :: r ∧ isClosingPunctuation c = true

/-- A style of the text is half-closed. -/
def HasHalfClosed (t : Text) : Prop :=
  ∃ a b, t = a ++ '}' :: b ∧ HalfClosed a b

namespace StructureRepair

variable {t : Text} {n i : Nat}

/-- A text starts with one of the openings at most. -/
theorem find?_styleOpenings {opening : Text} (h : opening ∈ styleOpenings) (r : Text) :
    styleOpenings.find? (Text.startsWith · (opening ++ r)) = some opening := by
  rcases List.mem_pair.1 h with rfl | rfl <;> rfl

theorem halfClosedLength?_eq_some_iff :
    halfClosedLength? t = some n ↔ ∃ opening inner c r, t = opening ++ (inner ++ '}' :: c :: r) ∧
      opening ∈ styleOpenings ∧ inner ≠ [] ∧ (∀ c ∈ inner, c ≠ '{' ∧ c ≠ '}') ∧
      isClosingPunctuation c = true ∧ n = (opening ++ inner).length := by
  constructor
  · intro h
    obtain ⟨opening, hfind, h⟩ := Option.bind_eq_some_iff.1 h
    have hstarts : Text.startsWith opening t = true :=
      List.find?_some (p := (Text.startsWith · t)) hfind
    obtain ⟨r, rfl⟩ := Text.startsWith_iff.1 hstarts
    rw [List.drop_left] at h
    dsimp only at h
    split at h
    · cases h
    · rename_i hne
      split at h
      · rename_i c rest hdrop
        obtain ⟨hpunctuation, hn⟩ := Option.ite_none_right_eq_some.1 h
        rw [← List.drop_drop, List.drop_left] at hdrop
        refine ⟨opening, _, c, rest, congrArg _ (Text.eq_takeWhile_append_cons hdrop),
          List.mem_of_find?_eq_some hfind, fun hnil => hne (List.isEmpty_iff.2 hnil),
          fun d hd => ?_, hpunctuation, ?_⟩
        · simpa using List.mem_takeWhile_imp hd
        · rw [List.length_append, (Option.some.inj hn)]
      · cases h
  · rintro ⟨opening, inner, c, r, rfl, hopening, hne, hinner, hpunctuation, rfl⟩
    have htake : (inner ++ '}' :: c :: r).takeWhile (fun c => c ≠ '{' && c ≠ '}') = inner :=
      Text.takeWhile_append_cons (fun d hd => by simpa using hinner d hd) (by decide) _
    have hdrop : (opening ++ (inner ++ '}' :: c :: r)).drop (opening.length + inner.length) =
        '}' :: c :: r := by rw [← List.drop_drop, List.drop_left, List.drop_left]
    rw [halfClosedLength?, find?_styleOpenings hopening, Option.bind_eq_bind, Option.bind_some,
      List.drop_left, htake]
    simp [hne, hdrop, hpunctuation]

/-- A style that is half-closed is so at the start of the text or further on. -/
theorem hasHalfClosed_cons_iff {c : Char} :
    HasHalfClosed (c :: t) ↔ (∃ n, halfClosedLength? (c :: t) = some n) ∨ HasHalfClosed t := by
  constructor
  · rintro ⟨a, b, ht, ⟨before, opening, inner, rfl, hopening, hne, hinner⟩, ⟨d, r, rfl, hd⟩⟩
    cases before with
    | nil =>
      exact .inl ⟨_, halfClosedLength?_eq_some_iff.2 ⟨opening, inner, d, r, by simpa using ht,
        hopening, hne, hinner, hd, rfl⟩⟩
    | cons c' before =>
      exact .inr ⟨_, _, (List.cons.inj ht).2, ⟨before, opening, inner, rfl, hopening, hne, hinner⟩,
        ⟨d, r, rfl, hd⟩⟩
  · rintro (⟨n, h⟩ | ⟨a, b, rfl, hstyle, hpunctuation⟩)
    · obtain ⟨opening, inner, d, r, ht, hopening, hne, hinner, hd, -⟩ :=
        halfClosedLength?_eq_some_iff.1 h
      exact ⟨opening ++ inner, d :: r, by rw [ht, List.append_assoc],
        ⟨[], opening, inner, rfl, hopening, hne, hinner⟩, ⟨d, r, rfl, hd⟩⟩
    · obtain ⟨before, opening, inner, rfl, h⟩ := hstyle
      exact ⟨_, b, rfl, ⟨c :: before, opening, inner, rfl, h⟩, hpunctuation⟩

theorem halfClosed?_eq_none_iff : halfClosed? t = none ↔ ¬HasHalfClosed t := by
  induction t with
  | nil =>
    refine iff_of_true rfl ?_
    rintro ⟨a, b, h, -⟩
    simp at h
  | cons c t ih =>
    rw [hasHalfClosed_cons_iff, not_or, ← ih, halfClosed?]
    cases halfClosedLength? (c :: t) <;> simp

theorem exists_of_halfClosed? (h : halfClosed? t = some i) :
    ∃ a b, t = a ++ '}' :: b ∧ a.length = i ∧ HalfClosed a b := by
  obtain ⟨s, rest, n, rfl, hn, rfl⟩ := exists_halfClosedLength? h
  obtain ⟨opening, inner, d, r, rfl, hopening, hne, hinner, hd, rfl⟩ :=
    halfClosedLength?_eq_some_iff.1 hn
  exact ⟨s ++ (opening ++ inner), d :: r, by simp only [List.append_assoc], List.length_append,
    ⟨s, opening, inner, rfl, hopening, hne, hinner⟩, ⟨d, r, rfl, hd⟩⟩

end StructureRepair

/-! ## Lines -/

/-- The line `u` is `t` with a second closing brace put in where the code has a half-closed style,
`n` times one after the other. -/
inductive StylesClosed : Nat → Text → Text → Prop where
  | refl (t : Text) : StylesClosed 0 t t
  | step {n : Nat} {a b r u : Text} (hcode : codePart (a ++ '}' :: (b ++ r)) = a ++ '}' :: b)
      (h : HalfClosed a b) (hrest : StylesClosed n (a ++ '}' :: '}' :: (b ++ r)) u) :
      StylesClosed (n + 1) (a ++ '}' :: (b ++ r)) u

section

variable {a b r t u : Text} {n : Nat}

/-- A second closing brace behind one leaves code code. -/
theorem codePart_second_closer (hcode : codePart (a ++ '}' :: (b ++ r)) = a ++ '}' :: b) :
    codePart (a ++ '}' :: '}' :: (b ++ r)) = a ++ '}' :: '}' :: b := by
  have h := codePart_insert_closer (u := a ++ ['}']) (v := b) (r := r) (by simpa using hcode)
    fun h => by simp [escapes] at h
  simpa using h

theorem commentPart_of_codePart (h : codePart (t ++ r) = t) : commentPart (t ++ r) = r := by
  rw [commentPart, h, List.drop_left]

/-- A second closing brace behind one counts, whatever stands before the first one. -/
theorem lineBalance_second_closer (hcode : codePart (a ++ '}' :: (b ++ r)) = a ++ '}' :: b) :
    lineBalance (a ++ '}' :: '}' :: (b ++ r)) = lineBalance (a ++ '}' :: (b ++ r)) - 1 := by
  have hu : escapes false (a ++ ['}']) = false := by simp [escapes]
  have h := LineRepair.lineBalance_insert (u := a ++ ['}']) (v := b) (r := r)
    (by simpa using hcode) (by simpa using codePart_second_closer hcode) (by simp [hu])
  simpa [hu] using h

namespace StylesClosed

theorem lineBalance_eq (h : StylesClosed n t u) : lineBalance u = lineBalance t - n := by
  induction h with
  | refl t => simp
  | step hcode h hrest ih =>
    rw [ih, lineBalance_second_closer hcode]
    push_cast
    omega

theorem commentPart_eq (h : StylesClosed n t u) : commentPart u = commentPart t := by
  induction h with
  | refl t => rfl
  | @step n a b r u hcode h hrest ih =>
    have hold := commentPart_of_codePart (t := a ++ '}' :: b) (r := r) (by simpa using hcode)
    have hnew := commentPart_of_codePart (t := a ++ '}' :: '}' :: b) (r := r)
      (by simpa using codePart_second_closer hcode)
    rw [ih]
    simpa using hnew.trans hold.symm

end StylesClosed

end

namespace StructureRepair

variable {ts gs : List Text} {line : Text} {budget number : Nat}

/-- Styles are closed one after the other, within the budget, and as long as there are any. -/
theorem stylesClosed_closeInLine (budget : Nat) (line : Text) :
    StylesClosed (closeInLine budget line).2 line (closeInLine budget line).1 ∧
      (closeInLine budget line).2 ≤ budget ∧
      ((closeInLine budget line).2 = budget ∨
        ¬HasHalfClosed (codePart (closeInLine budget line).1)) := by
  induction budget generalizing line with
  | zero => exact ⟨.refl line, Nat.le_refl 0, .inl rfl⟩
  | succ budget ih =>
    rw [closeInLine]
    split
    · rename_i hnone
      exact ⟨.refl line, Nat.zero_le _, .inr (halfClosed?_eq_none_iff.1 hnone)⟩
    · rename_i i hi
      obtain ⟨a, b, hcode, rfl, h⟩ := exists_of_halfClosed? hi
      have hline : line = a ++ '}' :: (b ++ commentPart line) := by
        conv => lhs; rw [← codePart_append_comment line, hcode]
        simp
      have hinsert : (Edit.insert a.length ['}']).apply line =
          a ++ '}' :: '}' :: (b ++ commentPart line) := by
        rw [Edit.apply_insert]
        conv => lhs; rw [hline]
        rw [List.take_left, List.drop_left]
        rfl
      obtain ⟨hclosed, hle, hrest⟩ := ih (a ++ '}' :: '}' :: (b ++ commentPart line))
      rw [hinsert]
      refine ⟨?_, Nat.succ_le_succ hle, hrest.imp_left (congrArg _)⟩
      generalize commentPart line = r at hline hclosed
      subst hline
      exact .step hcode h hclosed

/-! ## Documents -/

theorem closeInLines_cons (budget number : Nat) (line : Text) (rest : List Text) :
    closeInLines budget number (line :: rest) =
      ((closeInLine budget line).1 ::
          (closeInLines (budget - (closeInLine budget line).2) (number + 1) rest).1,
        List.replicate (closeInLine budget line).2 (.closedStyle number) ++
          (closeInLines (budget - (closeInLine budget line).2) (number + 1) rest).2) :=
  rfl

/-- The fixes name the lines. -/
theorem of_mem_closeInLines {f : GuidedFix} (h : f ∈ (closeInLines budget number ts).2) :
    ∃ i < ts.length, f = .closedStyle (number + i) := by
  induction ts generalizing budget number with
  | nil => cases h
  | cons line rest ih =>
    rw [closeInLines_cons, List.mem_append] at h
    rcases h with h | h
    · exact ⟨0, Nat.zero_lt_succ _, List.eq_of_mem_replicate h⟩
    · obtain ⟨i, hi, rfl⟩ := ih h
      exact ⟨i + 1, Nat.succ_lt_succ hi, by rw [Nat.add_assoc, Nat.add_comm 1]⟩

/-- As many styles are closed in a line as there are fixes with its number. -/
theorem stylesClosed_closeInLines (budget number : Nat) {i : Nat} (h : ts[i]? = some line) :
    ∃ u, (closeInLines budget number ts).1[i]? = some u ∧
      StylesClosed ((closeInLines budget number ts).2.count (.closedStyle (number + i)))
        line u := by
  induction ts generalizing budget number i with
  | nil => cases h
  | cons t rest ih =>
    rw [closeInLines_cons, List.count_append, List.count_replicate]
    cases i with
    | zero =>
      obtain rfl := Option.some.inj h
      -- The lines behind this one have greater numbers.
      have hrest : (closeInLines (budget - (closeInLine budget t).2) (number + 1) rest).2.count
          (.closedStyle number) = 0 := List.count_eq_zero.2 fun hmem => by
        obtain ⟨i, -, heq⟩ := of_mem_closeInLines hmem
        have := GuidedFix.closedStyle.inj heq
        omega
      simpa [hrest] using (stylesClosed_closeInLine budget t).1
    | succ i =>
      obtain ⟨u, hu, hclosed⟩ := ih (budget - (closeInLine budget t).2) (number + 1) h
      refine ⟨u, hu, ?_⟩
      rw [Nat.add_assoc, Nat.add_comm 1] at hclosed
      simpa using hclosed

/-- Each fix lowers the balance by one. Styles are closed within the budget, and as long as there
are any. -/
theorem documentBalance_closeInLines (budget number : Nat) (ts : List Text) :
    documentBalance (closeInLines budget number ts).1 =
        documentBalance ts - (closeInLines budget number ts).2.length ∧
      (closeInLines budget number ts).2.length ≤ budget ∧
      ((closeInLines budget number ts).2.length = budget ∨
        ∀ u ∈ (closeInLines budget number ts).1, ¬HasHalfClosed (codePart u)) := by
  have hcons : ∀ (l : Text) ls, documentBalance (l :: ls) = lineBalance l + documentBalance ls :=
    fun _ _ => rfl
  induction ts generalizing budget number with
  | nil => simp [closeInLines, documentBalance]
  | cons line rest ih =>
    obtain ⟨hclosed, hle, hline⟩ := stylesClosed_closeInLine budget line
    obtain ⟨hbalance, hlength, hrest⟩ := ih (budget - (closeInLine budget line).2) (number + 1)
    rw [closeInLines_cons, hcons, hcons, hclosed.lineBalance_eq, hbalance, List.length_append,
      List.length_replicate, List.forall_mem_cons]
    refine ⟨by push_cast; omega, by omega, ?_⟩
    rcases hrest with hall | hnone
    · exact .inl (by omega)
    · rcases hline with hall | hline
      · exact .inl (by omega)
      · exact .inr ⟨hline, hnone⟩

/-- What closing the styles of the rendition `ts` beside the guide `gs` comes to : the lines `us`
and the fixes `fs`. -/
structure ClosesStyles (ts gs us : List Text) (fs : List GuidedFix) : Prop where
  length : us.length = ts.length
  line : ∀ i t, ts[i]? = some t → ∃ u, us[i]? = some u ∧ commentPart u = commentPart t ∧
    StylesClosed (fs.count (.closedStyle (i + 1))) t u
  fixes : ∀ f ∈ fs, ∃ i < ts.length, f = .closedStyle (i + 1)
  le : (fs.length : Int) ≤ max 0 (documentBalance ts - documentBalance gs)
  balance : documentBalance us = documentBalance ts - fs.length
  rest : (fs.length : Int) = max 0 (documentBalance ts - documentBalance gs) ∨
    ∀ u ∈ us, ¬HasHalfClosed (codePart u)

/-- No more styles are closed than the rendition has braces open beyond those of the guide, each
with one brace that counts and one fix. If they are fewer, no half-closed style is left. -/
theorem closesStyles_closeStyles (ts gs : List Text) :
    ClosesStyles ts gs (closeStyles ts gs).1 (closeStyles ts gs).2 := by
  rw [closeStyles]
  generalize hbudget : (documentBalance ts - documentBalance gs).toNat = budget
  obtain ⟨hbalance, hle, hrest⟩ := documentBalance_closeInLines budget 1 ts
  constructor
  case length =>
    have hlines := lines_closeInLines (R := fun _ _ => True) (fun _ _ => trivial) budget 1 ts
    exact hlines.length_eq.symm
  case line =>
    intro i t ht
    obtain ⟨u, hu, hclosed⟩ := stylesClosed_closeInLines budget 1 ht
    rw [Nat.add_comm 1] at hclosed
    exact ⟨u, hu, hclosed.commentPart_eq, hclosed⟩
  case fixes =>
    intro f hf
    obtain ⟨i, hi, rfl⟩ := of_mem_closeInLines hf
    exact ⟨i, hi, by rw [Nat.add_comm 1]⟩
  case le => omega
  case balance => exact hbalance
  case rest => exact hrest.imp_left fun h => by omega

/-- The brace behind a backslash is escaped, and the one that is put in behind it counts. -/
example :
    closeStyles ["\\textbf\x7b\\textit\x7ba\\\x7d: b".toList] ["a: b".toList] =
      (["\\textbf\x7b\\textit\x7ba\\\x7d\x7d: b".toList], [.closedStyle 1]) := by
  decide +kernel

end StructureRepair

end LatexRepair
