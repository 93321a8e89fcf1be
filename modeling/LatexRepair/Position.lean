import LatexRepair.Text

/-!
# Positions

A position in a text: its line and column, counted from one, with columns in characters,
and its offset in bytes, counted from zero. `Position.after` moves a position past a
text, so the position of a place in a document is `Position.start.after` of what stands
before it; `Position.after_append` says that it may be moved piece by piece.
-/

namespace LatexRepair

/-- A place in a text. -/
structure Position where
  /-- The number of the line, from one. -/
  line : Nat
  /-- The number of the character in its line, from one. -/
  column : Nat
  /-- The number of bytes before the place. -/
  offset : Nat
deriving DecidableEq, Inhabited

namespace Position

/-- The first place of a text. -/
def start : Position :=
  ⟨1, 1, 0⟩

/-- The place behind the character `c` that stands at `p`. -/
def next (p : Position) (c : Char) : Position :=
  if c = '\n' then ⟨p.line + 1, 1, p.offset + c.utf8Size⟩
  else ⟨p.line, p.column + 1, p.offset + c.utf8Size⟩

/-- The place behind the text `t` that stands at `p`. -/
def after (p : Position) (t : Text) : Position :=
  t.foldl next p

@[simp] theorem after_nil (p : Position) : p.after [] = p := rfl

@[simp] theorem after_cons (p : Position) (c : Char) (t : Text) :
    p.after (c :: t) = (p.next c).after t := rfl

theorem after_append (p : Position) (s t : Text) : p.after (s ++ t) = (p.after s).after t :=
  List.foldl_append

/-- The places in reading order: by line, then by column. -/
def le (p q : Nat × Nat) : Bool :=
  p.1 < q.1 || (p.1 = q.1 && p.2 ≤ q.2)

theorem le_iff {p q : Nat × Nat} : le p q = true ↔ p.1 < q.1 ∨ p.1 = q.1 ∧ p.2 ≤ q.2 := by
  simp [le]

theorem le_trans {p q r : Nat × Nat} (h : le p q = true) (h' : le q r = true) :
    le p r = true := by
  rw [le_iff] at *
  omega

theorem le_total (p q : Nat × Nat) : (le p q || le q p) = true := by
  rw [Bool.or_eq_true, le_iff, le_iff]
  omega

end Position

end LatexRepair
