import LatexRepair.Proofs.CodeCuts

/-!
# Places of tokens

The tokens of a skeleton stand in the code one behind the other (`pairwise_skeletonFrom`), and
nothing is escaped where one of them starts or ends (`isCut_of_mem_skeletonFrom`). Code may
be read in two parts where nothing is escaped, but not within a control word
(`skeletonFrom_append_of_endsInWord`).
-/

namespace LatexRepair

/-! ## Order -/

/-- The tokens of a skeleton stand within the code. -/
theorem bounds_of_mem_skeletonFrom {i : Nat} {t : Text} {x : PlacedToken}
    (h : x ∈ skeletonFrom i t) : i ≤ x.start ∧ x.start < x.stop ∧ x.stop ≤ i + t.length := by
  obtain ⟨a, b, rfl, -, -, hstart, hstop⟩ := spelledIn_of_mem_skeletonFrom h
  have htext := List.length_pos_iff.2 x.token.text_ne_nil
  rw [List.length_append, List.length_append]
  omega

/-- Tokens do not overlap. -/
theorem pairwise_skeletonFrom (i : Nat) (t : Text) :
    (skeletonFrom i t).Pairwise fun x y => x.stop ≤ y.start := by
  induction t using code_induction generalizing i with
  | nil => simp [skeletonFrom]
  | backslash => simp [skeletonFrom_backslash]
  | append s t m hread ih =>
    rw [hread.skeletonFrom_append]
    refine List.pairwise_append.2 ⟨?_, ih _, fun x hx y hy => ?_⟩
    · cases m with
      | none => exact .nil
      | some m => exact List.pairwise_singleton ..
    · obtain ⟨m, -, rfl⟩ := Option.map_eq_some_iff.1 (Option.mem_toList.1 hx)
      exact (bounds_of_mem_skeletonFrom hy).1

/-! ## Cuts -/

/-- Code that starts at the place `i` may be cut at the place `n` : nothing is escaped there. -/
def IsCut (i : Nat) (t : Text) (n : Nat) : Prop :=
  ∃ u v, t = u ++ v ∧ escapes false u = false ∧ n = i + u.length

theorem isCut_self (i : Nat) (t : Text) : IsCut i t i :=
  ⟨[], t, rfl, rfl, rfl⟩

/-- Nothing is escaped where a token starts or ends. -/
theorem isCut_of_mem_skeletonFrom {i : Nat} {t : Text} {x : PlacedToken}
    (h : x ∈ skeletonFrom i t) : IsCut i t x.start ∧ IsCut i t x.stop := by
  obtain ⟨a, b, rfl, ha, htext, hstart, hstop⟩ := spelledIn_of_mem_skeletonFrom h
  refine ⟨⟨a, x.token.text ++ b, rfl, ha, hstart⟩, a ++ x.token.text, b, ?_, ?_, ?_⟩
  · rw [List.append_assoc]
  · rw [escapes_append, ha, htext]
  · rw [hstop, List.length_append, Nat.add_assoc]

/-! ## Reading on -/

/-- The text ends with a control word. -/
def EndsInWord (t : Text) : Prop :=
  ∃ s name, t = s ++ '\\' :: name ∧ escapes false s = false ∧ name ≠ [] ∧
    ∀ c ∈ name, isCommandChar c = true

theorem EndsInWord.append {s t : Text} (hs : escapes false s = false) (h : EndsInWord t) :
    EndsInWord (s ++ t) := by
  obtain ⟨u, name, rfl, hu, hname⟩ := h
  refine ⟨s ++ u, name, (List.append_assoc ..).symm, ?_, hname⟩
  rw [escapes_append, hs, hu]

/-- What is read at once is read so in longer code, if no control word goes on there. -/
theorem ReadAtOnce.append {s t : Text} {x : Option MarkupToken} (h : ReadAtOnce t s x) {r : Text}
    (hr : EndsInWord (s ++ t) → ∀ c ∈ r.head?, isCommandChar c = false) :
    ReadAtOnce (t ++ r) s x := by
  cases h with
  | word hne hname hnext =>
    refine .word hne hname ?_
    cases t with
    | nil => exact hr ⟨[], _, List.append_nil _, rfl, hne, hname⟩
    | cons c t => exact hnext
  | lineBreak => exact .lineBreak
  | escape hc hback => exact .escape hc hback
  | openBrace => exact .openBrace
  | closeBrace => exact .closeBrace
  | align => exact .align
  | plain hback hopen hclose halign => exact .plain hback hopen hclose halign

/-- Code may be read in two parts where nothing is escaped, but not within a control word. -/
theorem skeletonFrom_append_of_endsInWord {t r : Text} (ht : escapes false t = false)
    (hr : EndsInWord t → ∀ c ∈ r.head?, isCommandChar c = false) (i : Nat) :
    skeletonFrom i (t ++ r) = skeletonFrom i t ++ skeletonFrom (i + t.length) r := by
  induction t using code_induction generalizing i with
  | nil => simp [skeletonFrom]
  | backslash => simp [escapes] at ht
  | append s t x hread ih =>
    rw [escapes_append, hread.unescaped] at ht
    have hrest := ih ht (fun hword => hr (hword.append hread.unescaped)) (i + s.length)
    rw [List.append_assoc, (hread.append hr).skeletonFrom_append, hread.skeletonFrom_append, hrest,
      List.append_assoc, List.length_append, Nat.add_assoc]

theorem skeletonFrom_append {t r : Text} (ht : escapes false t = false)
    (hr : ∀ c ∈ r.head?, isCommandChar c = false) (i : Nat) :
    skeletonFrom i (t ++ r) = skeletonFrom i t ++ skeletonFrom (i + t.length) r :=
  skeletonFrom_append_of_endsInWord ht (fun _ => hr) i

/-- An escaped backslash belongs to a line break. -/
theorem exists_lineBreak {u : Text} (hu : escapes false u = true) (i : Nat) (v : Text) :
    ∃ x ∈ skeletonFrom i (u ++ '\\' :: v), x.start + 1 = i + u.length ∧
      x.stop = i + u.length + 1 := by
  rcases List.eq_nil_or_concat u with rfl | ⟨w, c, rfl⟩
  · cases hu
  · rw [List.concat_eq_append] at hu ⊢
    rw [escapes_append] at hu
    obtain ⟨rfl, hw⟩ : c = '\\' ∧ escapes false w = false := by
      simpa [escapes] using hu
    have hread := skeletonFrom_append (r := '\\' :: '\\' :: v) hw
      (fun c hc => by obtain rfl := Option.some.inj hc; decide) i
    rw [skeletonFrom_escape (by decide), if_pos rfl] at hread
    rw [List.append_assoc, List.singleton_append, hread]
    refine ⟨⟨.lineBreak, i + w.length, i + w.length + 2⟩, by simp, ?_⟩
    simp
    omega

end LatexRepair
