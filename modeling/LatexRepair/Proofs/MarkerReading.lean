import LatexRepair.Proofs.LineRest

/-!
# Reading markers

How a marker is written (`Marker.Spelling`), and that a text starts with a marker exactly
when it starts with one of its spellings (`Marker.ofKindAt?_eq_some_iff`). No spelling holds
a percent sign, so no marker reaches into a comment (`Marker.at?_append_percent`) and the
live markers of a line are the markers of its code (`liveMarkers_eq`).
-/

namespace LatexRepair

/-- What follows the leading characters in a class starts with a character out of the
class. -/
theorem Text.eq_takeWhile_append_cons {P : Char → Bool} {c : Char} {t r : Text}
    (h : t.drop (t.takeWhile P).length = c :: r) : t = t.takeWhile P ++ c :: r := by
  rw [← h, takeWhile_append_drop]

theorem Text.takeWhile_append_cons {P : Char → Bool} {c : Char} {s : Text}
    (hs : ∀ x ∈ s, P x = true) (hc : P c = false) (r : Text) :
    (s ++ c :: r).takeWhile P = s :=
  takeWhile_append_eq hs fun d hd => by
    obtain rfl := Option.some.inj hd
    exact hc

namespace Marker

/-- A way to write a marker: white space may stand before the braces, and around the name
in them. -/
structure Spelling where
  kind : MarkerKind
  blanks : Text
  name : Text
  blank : ∀ c ∈ blanks, isBlank c = true
  nameChar : ∀ c ∈ name, isNameChar c = true
  ne_nil : name ≠ []

namespace Spelling

/-- The spelled text. -/
def text (s : Spelling) : Text :=
  controlWord s.kind ++ (s.blanks ++ '{' :: (s.name ++ ['}']))

/-- The marker that is spelled. -/
def marker (s : Spelling) : Marker :=
  ⟨s.kind, Text.trim s.name⟩

theorem percent_not_mem_text (s : Spelling) : '%' ∉ s.text := by
  have hword : '%' ∉ controlWord s.kind := by cases s.kind <;> decide
  have hblanks : '%' ∉ s.blanks := fun h => absurd (s.blank _ h) (by decide)
  have hname : '%' ∉ s.name := fun h => absurd (s.nameChar _ h) (by decide)
  simp [text, hword, hblanks, hname]

end Spelling

variable {kind : MarkerKind} {t : Text} {m : Marker} {n : Nat}

/-- A text starts with a marker exactly when it starts with a spelling of the marker. -/
theorem ofKindAt?_eq_some_iff :
    ofKindAt? kind t = some (m, n) ↔
      ∃ s : Spelling, s.kind = kind ∧ s.text <+: t ∧ m = s.marker ∧ n = s.text.length := by
  constructor
  · intro h
    obtain ⟨r, hr, hread⟩ := Option.bind_eq_some_iff.1 h
    obtain rfl := Text.strip?_eq_some_iff.1 hr
    dsimp only at hread
    split at hread
    · rename_i body hbody
      split at hread
      · rename_i c name rest hname hrest
        obtain ⟨rfl, rfl⟩ := Prod.mk.inj (Option.some.inj hread)
        have hr := Text.eq_takeWhile_append_cons hbody
        have hbody := Text.eq_takeWhile_append_cons hrest
        refine ⟨⟨kind, r.takeWhile isBlank, body.takeWhile isNameChar,
          fun _ => List.mem_takeWhile_imp, fun _ => List.mem_takeWhile_imp,
          fun hnil => by rw [hnil] at hname; cases hname⟩, rfl, ⟨rest, ?_⟩, rfl, ?_⟩
        · conv => rhs; rw [hr, hbody]
          simp [Spelling.text]
        · simp [Spelling.text]
          omega
      · cases hread
    · cases hread
  · rintro ⟨s, rfl, ⟨rest, rfl⟩, rfl, rfl⟩
    have hstrip : Text.strip? (controlWord s.kind) (s.text ++ rest) =
        some (s.blanks ++ '{' :: (s.name ++ '}' :: rest)) :=
      Text.strip?_eq_some_iff.2 (by simp [Spelling.text])
    have hblanks := Text.takeWhile_append_cons s.blank (by decide : isBlank '{' = false)
      (s.name ++ '}' :: rest)
    have hname := Text.takeWhile_append_cons s.nameChar (by decide : isNameChar '}' = false) rest
    have hlength : s.text.length =
        (controlWord s.kind).length + s.blanks.length + s.name.length + 2 := by
      simp [Spelling.text]
      omega
    obtain ⟨c, name, hc⟩ := List.exists_cons_of_ne_nil s.ne_nil
    simp only [ofKindAt?, hstrip, Option.bind_eq_bind, Option.bind_some, hblanks, hname,
      List.drop_left, hlength]
    split
    · rfl
    · rename_i hnone
      exact absurd rfl (hnone c name rest hc)

/-- Text without a character stands in front of what that character starts, or not at all. -/
theorem isPrefix_append_cons_iff {c : Char} {p s r : Text} (hp : c ∉ p) :
    p <+: s ++ c :: r ↔ p <+: s := by
  refine ⟨fun h => ?_, fun h => h.trans (List.prefix_append _ _)⟩
  rcases Nat.lt_or_ge s.length p.length with hlt | hle
  · have hlong : s ++ [c] <+: p := List.prefix_of_prefix_length_le (by simp) h (by simpa)
    exact absurd (hlong.subset (by simp)) hp
  · exact List.prefix_of_prefix_length_le h (List.prefix_append _ _) hle

theorem ofKindAt?_append_percent (kind : MarkerKind) (s r : Text) :
    ofKindAt? kind (s ++ '%' :: r) = ofKindAt? kind s := by
  refine Option.ext fun ⟨m, n⟩ => ?_
  simp only [ofKindAt?_eq_some_iff, isPrefix_append_cons_iff (Spelling.percent_not_mem_text _)]

/-- No marker reaches into a comment. -/
theorem at?_append_percent (s r : Text) : at? (s ++ '%' :: r) = at? s := by
  rw [at?, at?, ofKindAt?_append_percent, ofKindAt?_append_percent]

end Marker

/-- No marker starts before its text. -/
theorem le_start_of_mem_markersFrom {i : Nat} {t : Text} {x : PlacedMarker}
    (h : x ∈ markersFrom i t) : i ≤ x.start := by
  obtain ⟨j, hj, -⟩ := getElem?_start_of_mem_markersFrom h
  omega

/-- Nor does one start behind it. -/
theorem start_lt_of_mem_markersFrom {i : Nat} {t : Text} {x : PlacedMarker}
    (h : x ∈ markersFrom i t) : x.start < i + t.length := by
  obtain ⟨j, hstart, hj⟩ := getElem?_start_of_mem_markersFrom h
  have := (List.getElem?_eq_some_iff.1 hj).1
  omega

/-- Of the markers around a comment those in front of it are the ones that start there. -/
theorem filter_markersFrom_append_percent (i : Nat) (s r : Text) :
    (markersFrom i (s ++ '%' :: r)).filter (fun m => m.start < i + s.length) =
      markersFrom i s := by
  induction s generalizing i with
  | nil =>
    refine List.filter_eq_nil_iff.2 fun x hx => ?_
    have := le_start_of_mem_markersFrom hx
    simp
    omega
  | cons c s ih =>
    have hrest := ih (i + 1)
    rw [Nat.add_assoc, Nat.add_comm 1, ← List.length_cons (a := c)] at hrest
    rw [List.cons_append, markersFrom, markersFrom, ← List.cons_append,
      Marker.at?_append_percent]
    cases Marker.at? (c :: s) with
    | none => exact hrest
    | some m =>
      rw [List.filter_cons_of_pos (by simp), hrest]

/-- Behind the code of a line stands nothing or a comment. -/
theorem eq_codePartFrom_append (escaped : Bool) (t : Text) :
    codePartFrom escaped t = t ∨ ∃ r, t = codePartFrom escaped t ++ '%' :: r := by
  induction t generalizing escaped with
  | nil => exact .inl rfl
  | cons c t ih =>
    rw [codePartFrom]
    split
    · simpa using ih (!escaped)
    · split
      · rename_i hc
        obtain ⟨rfl, -⟩ : c = '%' ∧ _ := by simpa using hc
        exact .inr ⟨t, rfl⟩
      · simpa using ih false

/-- The live markers of a line are the markers of its code. -/
theorem liveMarkers_eq (line : Text) : liveMarkers line = markers (codePart line) := by
  rcases eq_codePartFrom_append false line with h | ⟨r, h⟩
  · rw [← codePart] at h
    refine (List.filter_eq_self.2 fun x hx => ?_).trans (by rw [h])
    have := start_lt_of_mem_markersFrom hx
    rw [h, decide_eq_true_iff]
    omega
  · rw [← codePart] at h
    have hmarkers := filter_markersFrom_append_percent 0 (codePart line) r
    rw [← h, Nat.zero_add] at hmarkers
    exact hmarkers

end LatexRepair
