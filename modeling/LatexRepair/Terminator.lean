import LatexRepair.LineRepair
import LatexRepair.Scan

/-!
# The end of the document

Two repairs around `\end{document}`. Ends that only blank lines and comments separate are
collapsed into the first one, and the text behind the end of the document is cut off.
Collapsing shortens the text (`length_collapseOne_lt`), so it can be repeated until no two
ends are left to collapse. The texts have newlines only, no carriage returns.
-/

namespace LatexRepair

namespace Terminator

/-! ## Duplicates -/

/-- The spaces, tabs, newlines and comments in front of a text, and the rest; `inComment`
says that the text starts inside a comment. -/
def splitGap (inComment : Bool) : Text → Text × Text
  | [] => ([], [])
  | c :: t =>
    if inComment then
      let (gap, r) := splitGap (c ≠ '\n') t
      (c :: gap, r)
    else if isSpaceOrTab c || c = '\n' then
      let (gap, r) := splitGap false t
      (c :: gap, r)
    else if c = '%' then
      let (gap, r) := splitGap true t
      (c :: gap, r)
    else ([], c :: t)

theorem splitGap_append (inComment : Bool) (t : Text) :
    (splitGap inComment t).1 ++ (splitGap inComment t).2 = t := by
  induction t generalizing inComment with
  | nil => rfl
  | cons c t ih =>
    rw [splitGap]
    split
    · simp [ih]
    · split
      · simp [ih]
      · split
        · simp [ih]
        · rfl

/-- What stands behind the one end that is left: a separator that ends a line takes the
line break behind the second end along; of any other, trailing blanks go. -/
def keptGap (gap rest : Text) : Text :=
  if gap.getLast? = some '\n' then gap ++ (if rest.head? = some '\n' then rest.drop 1 else rest)
  else Text.trimEndBy isSpaceOrTab gap ++ rest

/-- The text with two ends at its start collapsed into one. -/
def collapseAt? (t : Text) : Option Text := do
  let behind ← Text.strip? terminator t
  let rest ← Text.strip? terminator (splitGap false behind).2
  some (terminator ++ keptGap (splitGap false behind).1 rest)

/-- The text with the first two ends that can be collapsed made one. -/
def collapseOne? : Text → Option Text
  | [] => none
  | c :: t =>
    match collapseAt? (c :: t) with
    | some u => some u
    | none => (collapseOne? t).map (c :: ·)

theorem length_trimEndBy_le (p : Char → Bool) (t : Text) :
    (Text.trimEndBy p t).length ≤ t.length := by
  have h := (List.dropWhile_sublist (l := t.reverse) p).length_le
  simpa [Text.trimEndBy] using h

theorem length_keptGap_le (gap rest : Text) :
    (keptGap gap rest).length ≤ gap.length + rest.length := by
  have h := length_trimEndBy_le isSpaceOrTab gap
  rw [keptGap]
  split
  · split <;> simp
  · simpa using h

theorem length_collapseAt_lt {t u : Text} (h : collapseAt? t = some u) :
    u.length < t.length := by
  simp only [collapseAt?, Option.bind_eq_bind, Option.bind_eq_some_iff, Option.some.injEq] at h
  obtain ⟨behind, h₁, rest, h₂, rfl⟩ := h
  rw [Text.strip?_eq_some_iff] at h₁ h₂
  have h₃ := splitGap_append false behind
  rw [h₂] at h₃
  have h₄ := length_keptGap_le (splitGap false behind).1 rest
  have h₅ : terminator.length = 14 := by decide
  have h₆ := congrArg List.length h₃
  simp only [h₁, List.length_append] at h₆ ⊢
  omega

/-- Ends are collapsed at one place. -/
theorem exists_of_collapseOne? {t u : Text} (h : collapseOne? t = some u) :
    ∃ a s v, t = a ++ s ∧ u = a ++ v ∧ collapseAt? s = some v := by
  induction t generalizing u with
  | nil => cases h
  | cons c t ih =>
    rw [collapseOne?] at h
    split at h
    · rename_i v hat
      obtain rfl := Option.some.inj h
      exact ⟨[], c :: t, v, rfl, rfl, hat⟩
    · obtain ⟨w, hw, rfl⟩ := Option.map_eq_some_iff.1 h
      obtain ⟨a, s, v, rfl, rfl, hat⟩ := ih hw
      exact ⟨c :: a, s, v, rfl, rfl, hat⟩

theorem length_collapseOne_lt {t u : Text} (h : collapseOne? t = some u) :
    u.length < t.length := by
  obtain ⟨a, s, v, rfl, rfl, hat⟩ := exists_of_collapseOne? h
  rw [List.length_append, List.length_append]
  exact Nat.add_lt_add_left (length_collapseAt_lt hat) _

/-- Collapse ends until none are left to collapse; the number of ends removed. -/
def collapse (t : Text) : Text × Nat :=
  match h : collapseOne? t with
  | none => (t, 0)
  | some u =>
    have := length_collapseOne_lt h
    let (v, n) := collapse u
    (v, n + 1)
termination_by t.length

/-! ## Text behind the end -/

/-- The document up to its end, with a newline, if there is text behind the end. -/
def truncate? (t : Text) : Option Text := do
  let outcome := scan t
  let _ ← outcome.trailingContent
  let stop ← outcome.documentEnd
  some (Text.takeBytes stop.endOffset t ++ ['\n'])

end Terminator

end LatexRepair
