import LatexRepair.Proofs.BracePlaces

/-!
# A closing brace more

What a line is after the rule for braces has put one in. The brace stands in the code of the
line, and the rest of the code stays code (`LineRepair.exists_around_place`). So the balance
falls by one where nothing is escaped at the place, and stays where the brace takes the place
of what was escaped there (`LineRepair.lineBalance_insert`).
-/

namespace LatexRepair

/-- With a closing brace put into it the code stays code, if the brace comes between no backslash
and a backslash or percent sign that it escapes. -/
theorem codePart_insert_closer {u v r : Text} (hcode : codePart (u ++ (v ++ r)) = u ++ v)
    (hnext : escapes false u = true → ∀ c ∈ v.head?, c ≠ '\\' ∧ c ≠ '%') :
    codePart (u ++ '}' :: (v ++ r)) = u ++ '}' :: v := by
  have hrest := hcode
  rw [codePart, codePartFrom_append hcode, List.append_cancel_left_eq] at hrest
  have hread : codePart (u ++ '}' :: (v ++ r)) = u ++ '}' :: codePartFrom false (v ++ r) := by
    rw [codePart, codePartFrom_append hcode, codePartFrom, if_neg (by decide),
      if_neg (by simp)]
  rw [hread]
  cases hu : escapes false u with
  | false => rw [← hu, hrest]
  | true =>
    rw [hu] at hrest
    cases v with
    | nil =>
      cases r with
      | nil => rfl
      | cons c r =>
        simp only [List.nil_append, codePartFrom, Bool.not_true, Bool.and_false,
          Bool.false_eq_true, ↓reduceIte, ite_self] at hrest
        cases hrest
    | cons c v =>
      obtain ⟨hb, hp⟩ := hnext hu c rfl
      simp only [List.cons_append, codePartFrom, hb, hp, ↓reduceIte, decide_false,
        Bool.false_and, Bool.false_eq_true, List.cons.injEq, true_and] at hrest ⊢
      rw [hrest]

/-- A closing brace counts where it is not escaped. -/
theorem braceSum_insert_closer {u v : Text}
    (hnext : escapes false u = true → ∀ c ∈ v.head?, c ≠ '\\' ∧ braceValue c = 0) :
    braceSum false (u ++ '}' :: v) =
      braceSum false (u ++ v) - if escapes false u then 0 else 1 := by
  rw [braceSum_append, braceSum_append, braceSum]
  cases hu : escapes false u with
  | false =>
    have hvalue : braceValue '}' = -1 := by decide
    simp only [Bool.false_eq_true, ↓reduceIte, hvalue, Char.reduceEq, decide_false, Bool.false_and]
    omega
  | true =>
    cases v with
    | nil => simp [braceSum]
    | cons c v =>
      obtain ⟨hb, hvalue⟩ := hnext hu c rfl
      simp [braceSum, hb, hvalue]

namespace LineRepair

/-- A line around the place where it gets a closing brace. -/
theorem exists_around_place {t g : Text} {k i : Nat} {closer : PlacedToken}
    (hcloser : (skeleton (codePart g))[k]? = some closer) (hclose : closer.token = .closeBrace)
    (hk : k ≤ (skeleton (codePart t)).length)
    (hplace : bracePlace? (codePart t) (codePart g) (skeleton (codePart t))
      (skeleton (codePart g)) k closer = some i) :
    ∃ u v r, t = u ++ (v ++ r) ∧ codePart t = u ++ v ∧ u.length = i ∧
      (Edit.insert i ['}']).apply t = u ++ '}' :: (v ++ r) ∧
      codePart (u ++ '}' :: (v ++ r)) = u ++ '}' :: v ∧
      (escapes false u = true → ∀ c ∈ v.head?, c ≠ '\\' ∧ braceValue c = 0) := by
  have hnext := next_of_bracePlace? hk (List.mem_of_getElem? hcloser) hclose hplace
  have hvalue := braceValue_of_bracePlace? hcloser hk hplace
  have hi : i ≤ (codePart t).length := (of_bracePlace? hk hplace).2.1.trans gapStop_le_length
  have hlength : ((codePart t).take i).length = i := by
    rw [List.length_take, Nat.min_eq_left hi]
  have hcode : codePart t = (codePart t).take i ++ (codePart t).drop i :=
    (List.take_append_drop ..).symm
  have hline : t = (codePart t).take i ++ ((codePart t).drop i ++ commentPart t) := by
    rw [← List.append_assoc, ← hcode, codePart_append_comment]
  generalize (codePart t).take i = u at *
  generalize (codePart t).drop i = v at *
  generalize commentPart t = r at *
  subst hline hlength
  refine ⟨u, v, r, rfl, hcode, rfl, ?_, codePart_insert_closer hcode hnext, fun hu c hc =>
    ⟨(hnext hu c hc).1, hvalue hu c hc⟩⟩
  rw [Edit.apply_insert, List.take_left, List.drop_left]
  rfl

/-- The balance of a line behind its new brace. -/
theorem lineBalance_insert {u v r : Text} (hcode : codePart (u ++ (v ++ r)) = u ++ v)
    (hinsert : codePart (u ++ '}' :: (v ++ r)) = u ++ '}' :: v)
    (hnext : escapes false u = true → ∀ c ∈ v.head?, c ≠ '\\' ∧ braceValue c = 0) :
    lineBalance (u ++ '}' :: (v ++ r)) =
      lineBalance (u ++ (v ++ r)) - if escapes false u then 0 else 1 := by
  rw [lineBalance_eq, lineBalance_eq, hcode, hinsert, braceSum_insert_closer hnext]

end LineRepair

end LatexRepair
