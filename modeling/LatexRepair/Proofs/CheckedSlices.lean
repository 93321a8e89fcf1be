import LatexRepair.LineRepair
import LatexRepair.Proofs.Reading

/-!
# Checked slices

Operations on texts and lists that may stop. A text is cut at byte offsets, and only where a
character starts or the text ends (`Checked.cut`); an entry of a list is reached only
by the number of one; and a number is taken away only from one that is not smaller. What is left
of an operation that stops is `none`.

A place in a text that is counted in characters is a place to cut it
(`Checked.cut_byteOffset`), so each operation at such places is carried out, and is the edit of
the same places (`Checked.replaceRange_byteOffset`).
-/

namespace LatexRepair

/-! ## Offsets of places -/

namespace Text

variable {t : Text} {i j : Nat}

theorem byteLength_reverse (t : Text) : byteLength t.reverse = byteLength t := by
  induction t with
  | nil => rfl
  | cons c t ih => rw [List.reverse_cons, byteLength_append, ih, byteLength, byteLength, byteLength,
      Nat.add_comm, Nat.add_zero]

@[simp]
theorem byteOffset_zero (t : Text) : byteOffset t 0 = 0 :=
  rfl

@[simp]
theorem byteOffset_length (t : Text) : byteOffset t t.length = byteLength t := by
  rw [byteOffset, List.take_length]

theorem byteOffset_of_append {s r : Text} (h : s ++ r = t) :
    byteOffset t s.length = byteLength s := by
  rw [byteOffset, ← h, List.take_left]

theorem byteOffset_append_of_le {s : Text} (r : Text) (h : i ≤ s.length) :
    byteOffset (s ++ r) i = byteOffset s i := by
  rw [byteOffset, List.take_append_of_le_length h, byteOffset]

theorem byteOffset_add (t : Text) (i n : Nat) :
    byteOffset t (i + n) = byteOffset t i + byteOffset (t.drop i) n := by
  rw [byteOffset, List.take_add, byteLength_append, byteOffset, byteOffset]

theorem byteOffset_take (h : i ≤ j) : byteOffset (t.take j) i = byteOffset t i := by
  rw [byteOffset, List.take_take, Nat.min_eq_left h, byteOffset]

theorem byteOffset_mono (t : Text) (h : i ≤ j) : byteOffset t i ≤ byteOffset t j := by
  obtain ⟨n, rfl⟩ := Nat.exists_eq_add_of_le h
  rw [byteOffset_add]
  exact Nat.le_add_right _ _

theorem byteOffset_lt (h : i < j) (hj : j ≤ t.length) : byteOffset t i < byteOffset t j := by
  obtain ⟨n, rfl⟩ := Nat.exists_eq_add_of_lt h
  have hpos := length_le_byteLength ((t.drop i).take (n + 1))
  rw [List.length_take, List.length_drop] at hpos
  rw [Nat.add_assoc, byteOffset_add, byteOffset, byteOffset]
  omega

theorem byteOffset_le_iff (hi : i ≤ t.length) : byteOffset t i ≤ byteOffset t j ↔ i ≤ j := by
  refine ⟨fun h => ?_, byteOffset_mono t⟩
  by_contra hlt
  exact absurd (byteOffset_lt (Nat.lt_of_not_le hlt) hi) (Nat.not_lt.2 h)

theorem byteOffset_lt_iff (hj : j ≤ t.length) :
    byteOffset t i < byteOffset t j ↔ i < j := by
  rw [← Nat.not_le, byteOffset_le_iff hj, Nat.not_le]

theorem byteOffset_inj (hi : i ≤ t.length) (hj : j ≤ t.length) :
    byteOffset t i = byteOffset t j ↔ i = j := by
  rw [Nat.le_antisymm_iff, byteOffset_le_iff hi, byteOffset_le_iff hj, Nat.le_antisymm_iff]

/-- The byte of a place depends on what stands before it. -/
theorem byteOffset_congr {s : Text} (h : s.take j = t.take j) (hij : i ≤ j) :
    byteOffset s i = byteOffset t i := by
  rw [← byteOffset_take hij, h, byteOffset_take hij]

end Text

/-- The outcome of operations that stop rather than leave a text or a list, part a character or
count below zero. -/
abbrev Checked (α : Type) := Option α

namespace Checked

open Text

variable {t a b s : Text} {i j n : Nat}

/-! ## Cutting a text -/

/-- The text before the byte with the number `n` and the text from it on. -/
def cut : Nat → Text → Checked (Text × Text)
  | 0, t => some ([], t)
  | _ + 1, [] => none
  | n + 1, c :: t =>
    if c.utf8Size ≤ n + 1 then (cut (n + 1 - c.utf8Size) t).map fun (a, b) => (c :: a, b) else none

/-- The text up to the byte with the number `j`. -/
def sliceTo (t : Text) (j : Nat) : Checked Text :=
  (cut j t).map (·.1)

/-- The text from the byte with the number `i` on. -/
def sliceFrom (t : Text) (i : Nat) : Checked Text :=
  (cut i t).map (·.2)

/-- The text between two bytes. -/
def slice (t : Text) (i j : Nat) : Checked Text := do
  let before ← sliceTo t j
  sliceFrom before i

/-- The text with `s` before the byte with the number `i`. -/
def insert (t : Text) (i : Nat) (s : Text) : Checked Text := do
  let (a, b) ← cut i t
  some (a ++ s ++ b)

/-- The text with `s` in place of what stands between two bytes. -/
def replaceRange (t : Text) (i j : Nat) (s : Text) : Checked Text := do
  let (before, b) ← cut j t
  let a ← sliceTo before i
  some (a ++ s ++ b)

/-- A text is cut into its two parts. -/
theorem cut_eq_some_iff : cut n t = some (a, b) ↔ a ++ b = t ∧ byteLength a = n := by
  induction a generalizing n t with
  | nil =>
    cases n with
    | zero => simp [cut, byteLength, eq_comm]
    | succ n =>
      refine iff_of_false (fun h => ?_) fun h => absurd h.2 (Nat.succ_ne_zero n).symm
      cases t with
      | nil => cases h
      | cons c t =>
        rw [cut] at h
        obtain ⟨-, h⟩ := Option.ite_none_right_eq_some.1 h
        obtain ⟨_, -, h⟩ := Option.map_eq_some_iff.1 h
        cases h
  | cons c a ih =>
    have hsize := c.utf8Size_pos
    cases n with
    | zero =>
      refine iff_of_false (fun h => by rw [cut] at h; cases h) fun h => ?_
      rw [byteLength] at h
      omega
    | succ n =>
      cases t with
      | nil => exact iff_of_false (fun h => by cases h) fun h => by cases h.1
      | cons c' t =>
        rw [cut, Option.ite_none_right_eq_some, Option.map_eq_some_iff, List.cons_append,
          List.cons.injEq, byteLength]
        constructor
        · rintro ⟨hle, ⟨a', b'⟩, hcut, heq⟩
          cases heq
          obtain ⟨happend, hlength⟩ := ih.1 hcut
          exact ⟨⟨rfl, happend⟩, by omega⟩
        · rintro ⟨⟨rfl, happend⟩, hlength⟩
          exact ⟨by omega, (a, b), ih.2 ⟨happend, by omega⟩, rfl⟩

/-- A place counted in characters is a place to cut. -/
theorem cut_byteOffset (t : Text) (i : Nat) : cut (byteOffset t i) t = some (t.take i, t.drop i) :=
  cut_eq_some_iff.2 ⟨List.take_append_drop i t, rfl⟩

example : cut 1 ['é'] = none := by decide

/-! ## Slices and edits at places of characters -/

theorem sliceTo_of_append (h : a ++ b = t) : sliceTo t (byteLength a) = some a := by
  rw [sliceTo, cut_eq_some_iff.2 ⟨h, rfl⟩, Option.map_some]

theorem sliceFrom_of_append (h : a ++ b = t) : sliceFrom t (byteLength a) = some b := by
  rw [sliceFrom, cut_eq_some_iff.2 ⟨h, rfl⟩, Option.map_some]

theorem sliceTo_byteOffset (t : Text) (i : Nat) : sliceTo t (byteOffset t i) = some (t.take i) := by
  rw [sliceTo, cut_byteOffset, Option.map_some]

theorem sliceFrom_byteOffset (t : Text) (i : Nat) :
    sliceFrom t (byteOffset t i) = some (t.drop i) := by
  rw [sliceFrom, cut_byteOffset, Option.map_some]

theorem slice_of_append {r : Text} (h : a ++ b ++ r = t) :
    slice t (byteLength a) (byteLength (a ++ b)) = some b := by
  rw [slice, sliceTo_of_append h, Option.bind_eq_bind, Option.bind_some, sliceFrom_of_append rfl]

theorem replaceRange_of_append {r : Text} (h : a ++ b ++ r = t) (s : Text) :
    replaceRange t (byteLength a) (byteLength (a ++ b)) s = some (a ++ s ++ r) := by
  rw [replaceRange, cut_eq_some_iff.2 ⟨h, rfl⟩, Option.bind_eq_bind, Option.bind_some]
  dsimp only
  rw [sliceTo_of_append rfl, Option.bind_eq_bind, Option.bind_some]

theorem slice_byteOffset (t : Text) (h : i ≤ j) :
    slice t (byteOffset t i) (byteOffset t j) = some (LineRepair.piece t i j) := by
  rw [slice, sliceTo_byteOffset, Option.bind_eq_bind, Option.bind_some, ← byteOffset_take h,
    sliceFrom_byteOffset, LineRepair.piece]

theorem insert_byteOffset (t : Text) (i : Nat) (s : Text) :
    insert t (byteOffset t i) s = some ((Edit.insert i s).apply t) := by
  rw [insert, cut_byteOffset]
  rfl

theorem replaceRange_byteOffset (t : Text) (h : i ≤ j) (s : Text) :
    replaceRange t (byteOffset t i) (byteOffset t j) s = some ((Edit.mk i j s).apply t) := by
  rw [replaceRange, cut_byteOffset, Option.bind_eq_bind, Option.bind_some]
  dsimp only
  rw [← byteOffset_take h, sliceTo_byteOffset, Option.bind_eq_bind, Option.bind_some,
    List.take_take, Nat.min_eq_left h, Edit.apply]

/-! ## Numbers and lists -/

/-- The difference of two numbers. -/
def sub (m n : Nat) : Checked Nat :=
  if n ≤ m then some (m - n) else none

theorem sub_of_le (h : j ≤ i) : sub i j = some (i - j) :=
  if_pos h

section

variable {α : Type} {xs : List α} {x : α}

/-- The list with another entry number `i`. -/
def setAt (xs : List α) (i : Nat) (x : α) : Checked (List α) :=
  if i < xs.length then some (xs.set i x) else none

/-- The list with one more entry before number `i`. -/
def insertAt (xs : List α) (i : Nat) (x : α) : Checked (List α) :=
  if i ≤ xs.length then some (xs.take i ++ x :: xs.drop i) else none

/-- The list with entry number `i` changed. -/
def modifyAt (xs : List α) (i : Nat) (f : α → Checked α) : Checked (List α) := do
  let x ← xs[i]?
  let y ← f x
  setAt xs i y

/-- The list without entry number `i`. -/
def removeAt (xs : List α) (i : Nat) : Checked (List α) :=
  if i < xs.length then some (xs.eraseIdx i) else none

/-- The list without entry number `i`, where the last entry takes its place. -/
def swapRemove (xs : List α) (i : Nat) : Checked (List α) := do
  let last ← xs.getLast?
  let filled ← setAt xs i last
  some filled.dropLast

/-- The entries up to number `i`. -/
def takeTo (xs : List α) (i : Nat) : Checked (List α) :=
  if i ≤ xs.length then some (xs.take i) else none

/-- The entries from number `i` on. -/
def dropTo (xs : List α) (i : Nat) : Checked (List α) :=
  if i ≤ xs.length then some (xs.drop i) else none

theorem setAt_of_lt (h : i < xs.length) (x : α) : setAt xs i x = some (xs.set i x) :=
  if_pos h

theorem modifyAt_of_lt (h : i < xs.length) {f : α → Checked α} {g : α → α}
    (hf : f xs[i] = some (g xs[i])) : modifyAt xs i f = some (xs.modify i g) := by
  rw [modifyAt, List.getElem?_eq_getElem h, Option.bind_eq_bind, Option.bind_some, hf,
    Option.bind_some, setAt_of_lt h, List.modify_eq_take_cons_drop h,
    List.set_eq_take_append_cons_drop, if_pos h]

theorem insertAt_of_le (h : i ≤ xs.length) (x : α) :
    insertAt xs i x = some (xs.take i ++ x :: xs.drop i) :=
  if_pos h

theorem removeAt_of_lt (h : i < xs.length) : removeAt xs i = some (xs.eraseIdx i) :=
  if_pos h

/-- The last entry takes the place of one that goes, and the others stay. -/
theorem exists_swapRemove (h : i < xs.length) :
    ∃ ys, swapRemove xs i = some ys ∧ ys.Perm (xs.eraseIdx i) := by
  obtain ⟨ys, last, rfl⟩ : ∃ ys last, xs = ys ++ [last] :=
    ⟨_, _, (List.dropLast_concat_getLast (List.ne_nil_of_length_pos (Nat.zero_lt_of_lt h))).symm⟩
  refine ⟨_, by rw [swapRemove, List.getLast?_concat, Option.bind_eq_bind, Option.bind_some,
    setAt_of_lt h, Option.bind_eq_bind, Option.bind_some], ?_⟩
  rw [List.length_append, List.length_singleton] at h
  rcases Nat.lt_or_ge i ys.length with hlt | hge
  · rw [List.set_append_left _ _ hlt, List.dropLast_concat, List.eraseIdx_append_of_lt_length hlt,
      List.eraseIdx_eq_take_drop_succ, List.set_eq_take_append_cons_drop, if_pos hlt]
    exact List.perm_middle.trans (List.perm_append_singleton _ _).symm
  · obtain rfl : i = ys.length := by omega
    rw [List.set_append_right _ _ (Nat.le_refl _),
      List.eraseIdx_append_of_length_le (Nat.le_refl _), Nat.sub_self, List.set_cons_zero,
      List.dropLast_concat, List.eraseIdx_zero, List.tail_cons, List.append_nil]

theorem takeTo_of_le (h : i ≤ xs.length) : takeTo xs i = some (xs.take i) :=
  if_pos h

theorem dropTo_of_le (h : i ≤ xs.length) : dropTo xs i = some (xs.drop i) :=
  if_pos h

theorem dropTo_map {β : Type} (f : α → β) (h : i ≤ xs.length) :
    dropTo (xs.map f) i = some ((xs.drop i).map f) := by
  rw [dropTo_of_le (by rwa [List.length_map]), List.map_drop]

end

end Checked

end LatexRepair
