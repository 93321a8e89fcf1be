import LatexRepair.Text

/-!
# Searching a text

`Text.find?` gives the first place where a text stands (`Text.find?_eq_some_iff`), if it
stands anywhere (`Text.contains_iff`). What follows the end of the first occurrence does not
matter (`Text.find?_append_of_some`, `Text.find?_of_find?_append`).
-/

namespace LatexRepair

namespace Text

theorem startsWith_iff {needle t : Text} : startsWith needle t = true ↔ ∃ r, t = needle ++ r := by
  rw [startsWith, List.isPrefixOf_iff_prefix]
  exact exists_congr fun r => eq_comm

/-- Whether a text starts with another one is decided by as many characters. -/
theorem startsWith_append_of_le {needle s : Text} (r : Text) (h : needle.length ≤ s.length) :
    startsWith needle (s ++ r) = startsWith needle s := by
  rw [Bool.eq_iff_iff, startsWith, startsWith, List.isPrefixOf_iff_prefix,
    List.isPrefixOf_iff_prefix]
  exact ⟨fun hp => List.prefix_of_prefix_length_le hp (List.prefix_append s r) h,
    fun hp => hp.trans (List.prefix_append s r)⟩

theorem length_le_of_startsWith {needle t : Text} (h : startsWith needle t = true) :
    needle.length ≤ t.length := by
  obtain ⟨r, rfl⟩ := startsWith_iff.1 h
  simp

/-- The first place of a text is one where it stands, and it stands at none before. -/
theorem find?_eq_some_iff {needle t : Text} {i : Nat} :
    find? needle t = some i ↔ i ≤ t.length ∧ startsWith needle (t.drop i) = true ∧
      ∀ j < i, startsWith needle (t.drop j) = false := by
  induction t generalizing i with
  | nil =>
    cases needle with
    | nil => cases i <;> simp [find?, startsWith]
    | cons c needle => simp [find?, startsWith]
  | cons c t ih =>
    rw [find?]
    split
    · rename_i h
      constructor
      · intro hi
        obtain rfl : 0 = i := by simpa using hi
        exact ⟨Nat.zero_le _, h, fun j hj => absurd hj (Nat.not_lt_zero j)⟩
      · rintro ⟨-, -, hbefore⟩
        cases i with
        | zero => rfl
        | succ i =>
          have := hbefore 0 (Nat.succ_pos i)
          rw [List.drop_zero, h] at this
          cases this
    · rename_i h
      cases i with
      | zero => simp [h]
      | succ i =>
        rw [Option.map_eq_some_iff]
        simp only [Nat.add_right_cancel_iff, exists_eq_right, ih, List.length_cons,
          Nat.add_le_add_iff_right, List.drop_succ_cons]
        refine and_congr_right fun _ => and_congr_right fun _ =>
          ⟨fun hb j hj => ?_, fun hb j hj => hb (j + 1) (Nat.succ_lt_succ hj)⟩
        cases j with
        | zero => simpa using h
        | succ j => exact hb j (Nat.lt_of_succ_lt_succ hj)

/-- The first occurrence lies inside the text. -/
theorem length_le_of_find? {needle t : Text} {i : Nat} (h : find? needle t = some i) :
    i + needle.length ≤ t.length := by
  obtain ⟨hi, hs, -⟩ := find?_eq_some_iff.1 h
  have := length_le_of_startsWith hs
  rw [List.length_drop] at this
  omega

/-- Text behind the first occurrence does not move it. -/
theorem find?_append_of_some {needle s : Text} {i : Nat} (h : find? needle s = some i)
    (r : Text) : find? needle (s ++ r) = some i := by
  have hle := length_le_of_find? h
  obtain ⟨hi, hs, hbefore⟩ := find?_eq_some_iff.1 h
  refine find?_eq_some_iff.2 ⟨by rw [List.length_append]; omega, ?_, fun j hj => ?_⟩
  · rw [List.drop_append_of_le_length hi, startsWith_append_of_le r (by simp; omega), hs]
  · rw [List.drop_append_of_le_length (by omega),
      startsWith_append_of_le r (by simp; omega), hbefore j hj]

/-- An occurrence inside a leading part is found there. -/
theorem find?_of_find?_append {needle s r : Text} {i : Nat}
    (h : find? needle (s ++ r) = some i) (hle : i + needle.length ≤ s.length) :
    find? needle s = some i := by
  obtain ⟨-, hs, hbefore⟩ := find?_eq_some_iff.1 h
  refine find?_eq_some_iff.2 ⟨by omega, ?_, fun j hj => ?_⟩
  · rwa [List.drop_append_of_le_length (by omega),
      startsWith_append_of_le r (by simp; omega)] at hs
  · have := hbefore j hj
    rwa [List.drop_append_of_le_length (by omega),
      startsWith_append_of_le r (by simp; omega)] at this

/-- A text occurs in another one where it is a piece of it. -/
theorem contains_iff {needle t : Text} :
    contains needle t = true ↔ ∃ a b, t = a ++ (needle ++ b) := by
  constructor
  · intro h
    obtain ⟨i, hi⟩ := Option.isSome_iff_exists.1 h
    obtain ⟨-, hs, -⟩ := find?_eq_some_iff.1 hi
    obtain ⟨b, hb⟩ := startsWith_iff.1 hs
    exact ⟨t.take i, b, by rw [← hb, List.take_append_drop]⟩
  · rintro ⟨a, b, rfl⟩
    rw [contains]
    induction a with
    | nil =>
      have hstart : startsWith needle (needle ++ b) = true := startsWith_iff.2 ⟨b, rfl⟩
      rw [List.nil_append]
      cases hn : needle ++ b with
      | nil =>
        obtain ⟨rfl, -⟩ := List.append_eq_nil_iff.1 hn
        rfl
      | cons c t =>
        rw [find?, ← hn, hstart]
        rfl
    | cons c a ih =>
      rw [List.cons_append, find?]
      split
      · rfl
      · rwa [Option.isSome_map]

theorem contains_iff_infix {needle t : Text} : contains needle t = true ↔ needle <:+: t := by
  rw [contains_iff]
  exact exists_congr fun a => exists_congr fun b => by rw [List.append_assoc, eq_comm]

theorem le_length_of_findLast? {needle t : Text} {i : Nat} (h : findLast? needle t = some i) :
    i ≤ t.length := by
  induction t generalizing i with
  | nil =>
    obtain ⟨-, rfl⟩ : needle.isEmpty = true ∧ 0 = i := by simpa [findLast?] using h
    exact Nat.le_refl 0
  | cons c t ih =>
    rw [findLast?] at h
    split at h
    · rename_i j hj
      obtain rfl : j + 1 = i := by simpa using h
      exact Nat.succ_le_succ (ih hj)
    · obtain ⟨-, rfl⟩ : startsWith needle (c :: t) = true ∧ 0 = i := by simpa using h
      exact Nat.zero_le _

end Text

end LatexRepair
