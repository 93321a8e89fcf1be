import LatexRepair.Text

/-!
# Edits

An edit replaces the characters of a text between two places by other text. The rules that
repair a line answer with an edit, so what a repair does to a line can be read off its
edits.
-/

namespace LatexRepair

/-- Replace the characters from `start` up to `stop` by `insertion`. -/
structure Edit where
  start : Nat
  stop : Nat
  insertion : Text
deriving DecidableEq, Inhabited

namespace Edit

/-- Delete the characters from `start` up to `stop`. -/
def delete (start stop : Nat) : Edit :=
  ⟨start, stop, []⟩

/-- Insert a text before the character with the place `i`. -/
def insert (i : Nat) (t : Text) : Edit :=
  ⟨i, i, t⟩

/-- The edited text. -/
def apply (e : Edit) (t : Text) : Text :=
  t.take e.start ++ e.insertion ++ t.drop e.stop

/-- Apply edits, the last one first. -/
def applyAll (es : List Edit) (t : Text) : Text :=
  es.foldr apply t

/-- The edit stays within a text of `n` characters. -/
def Within (e : Edit) (n : Nat) : Prop :=
  e.start ≤ e.stop ∧ e.stop ≤ n

theorem apply_delete (i j : Nat) (t : Text) : (delete i j).apply t = t.take i ++ t.drop j := by
  simp [apply, delete]

theorem apply_insert (i : Nat) (s t : Text) :
    (insert i s).apply t = t.take i ++ (s ++ t.drop i) := by
  simp [apply, insert]

theorem length_apply {e : Edit} {t : Text} (h : e.Within t.length) :
    (e.apply t).length = t.length + e.insertion.length - (e.stop - e.start) := by
  obtain ⟨h₁, h₂⟩ := h
  simp only [apply, List.length_append, List.length_take, List.length_drop]
  omega

/-- Edits behind a place leave what stands before it. -/
theorem take_applyAll {t : Text} (es : List Edit) {n : Nat} (hn : n ≤ t.length)
    (h : ∀ e ∈ es, n ≤ e.start) : (applyAll es t).take n = t.take n := by
  induction es with
  | nil => rfl
  | cons e es ih =>
    rw [List.forall_mem_cons] at h
    have hrest := ih h.2
    have hlength := congrArg List.length hrest
    rw [List.length_take, List.length_take] at hlength
    rw [applyAll, List.foldr_cons, ← applyAll, apply, List.append_assoc,
      List.take_append_of_le_length (by rw [List.length_take]; omega), List.take_take,
      Nat.min_eq_left h.1, hrest]

end Edit

end LatexRepair
