import LatexRepair.Proofs.ComparedLines
import LatexRepair.Proofs.EndCount

/-!
# Ends of the document and trailing braces

To trim the trailing braces of a text leaves its ends of the document (`ends_trimBraces?`). What is
trimmed and what stands behind it are loose characters, and so the line that they are taken from is
the last one with other characters. It is another matter when the brace of an end is the last one
of them : it stays if the guide has a trailing brace itself, or else in a strict reading, where the
text behind the end has at most one brace more.
-/

namespace LatexRepair

open StructureRepair

variable {strict : Prop} {line l g x y : Text} {ts us ls ms gs : List Text} {i j k m n : Nat}

/-! ## Loose characters behind the last line -/

namespace Text

theorem isSuffix_of_lines {a last : Text} {before : List Text} (h : lines a = before ++ [last]) :
    last <:+ a := by
  rw [← unlines_lines a, h]
  rcases eq_or_ne before [] with rfl | hne
  · exact (unlines_singleton last).symm ▸ List.suffix_refl last
  · rw [unlines_append hne (List.cons_ne_nil _ _), unlines_singleton]
    exact (List.suffix_cons '\n' last).trans (List.suffix_append _ _)

end Text

theorem not_mentions_of_loose {t : Text} (h : ∀ c ∈ t, isLoose c = true) : ¬Mentions t := by
  rw [Mentions, bare_eq_nil h]
  decide

/-- The end of the document but for its brace. -/
def terminatorStem : Text :=
  "\\end\x7bdocument".toList

theorem terminator_eq : terminator = terminatorStem ++ ['}'] := by
  decide

/-- Loose characters behind a line without an end of the document may be others. -/
theorem SparesDocument.append_loose {p s r : Text} (h : SparesDocument (p ++ s))
    (hs : ∀ c ∈ s, isLoose c = true) (hr : ∀ c ∈ r, isLoose c = true) :
    SparesDocument (p ++ r) := by
  obtain ⟨q, w, heq, hw, hq⟩ := h
  rcases hw with rfl | ⟨hescapes, hw⟩
  · rw [List.append_nil] at heq
    refine sparesDocument_of_not_mentions ((not_mentions_congr (u := q) ?_).2 hq)
    rw [← heq, bare_append, bare_append p, bare_eq_nil hs, bare_eq_nil hr]
  · obtain ⟨c, hc, hloose⟩ := hw.exists_mem
    rcases List.append_eq_append_iff.1 heq with ⟨v, rfl, rfl⟩ | ⟨v, rfl, rfl⟩
    · rw [hs c (List.mem_append_right v hc)] at hloose
      cases hloose
    · exact ⟨q, v ++ r, List.append_assoc .., .inr ⟨hescapes, hw.of_append hs r⟩, hq⟩

/-- So may those behind a line that ends the document, unless one of them is the brace of its
end. -/
theorem EndsAt.append_loose {p s : Text} (h : EndsAt (p ++ s) x y)
    (hs : ∀ c ∈ s, isLoose c = true) :
    (∃ v, p = x ++ (terminator ++ v) ∧ y = v ++ s ∧
      ∀ r, (∀ c ∈ r, isLoose c = true) → EndsAt (p ++ r) x (v ++ r)) ∨
        p = x ++ terminatorStem ∧ s = '}' :: y := by
  obtain ⟨b, w, rfl, heq, hx, hb, hw⟩ := h
  have hinside : ∀ v, p = x ++ (terminator ++ v) → b ++ w = v ++ s →
      ∀ r, (∀ c ∈ r, isLoose c = true) → EndsAt (p ++ r) x (v ++ r) := fun v hp hv r hr => by
    rcases hw with rfl | ⟨hescapes, hw⟩
    · refine ⟨v ++ r, [], (List.append_nil _).symm, by simp [hp], hx, ?_, .inl rfl⟩
      rw [List.append_nil] at hv
      rwa [not_mentions_congr (u := x ++ b)]
      rw [hv, ← List.append_assoc, ← List.append_assoc, bare_append, bare_append _ s,
        bare_eq_nil hs, bare_eq_nil hr]
    · obtain ⟨c, hc, hloose⟩ := hw.exists_mem
      rcases List.append_eq_append_iff.1 hv.symm with ⟨u, rfl, rfl⟩ | ⟨u, rfl, rfl⟩
      · rw [hs c (List.mem_append_right u hc)] at hloose
        cases hloose
      · exact ⟨b, u ++ r, List.append_assoc .., by simp [hp], hx, hb,
          .inr ⟨hescapes, hw.of_append hs r⟩⟩
  rw [← List.append_assoc x] at heq
  rcases List.append_eq_append_iff.1 heq with ⟨u, hu, rfl⟩ | ⟨v, rfl, hv⟩
  · rcases List.eq_nil_or_concat u with rfl | ⟨u, c, rfl⟩
    · rw [List.append_nil] at hu
      exact .inl ⟨[], by rw [← hu, List.append_nil], rfl,
        hinside [] (by rw [← hu, List.append_nil]) rfl⟩
    · -- The end of the document is cut in two, and its second part is loose.
      rw [List.concat_eq_append] at hu hs ⊢
      rw [terminator_eq, ← List.append_assoc, ← List.append_assoc] at hu
      obtain ⟨hstem, hc⟩ := List.append_inj' hu rfl
      obtain rfl := List.singleton_inj.1 hc
      rcases List.eq_nil_or_concat u with rfl | ⟨u, d, rfl⟩
      · rw [List.append_nil] at hstem
        exact .inr ⟨hstem.symm, rfl⟩
      · have hlast := congrArg List.getLast? hstem
        rw [List.concat_eq_append, ← List.append_assoc p, List.getLast?_concat,
          List.getLast?_append, show terminatorStem.getLast? = some 't' by decide] at hlast
        obtain rfl : 't' = d := Option.some.inj hlast
        exact absurd (hs 't' (by simp)) (by decide)
  · exact .inl ⟨v, List.append_assoc .., hv, hinside v (List.append_assoc ..) hv⟩

/-- The lines at the end are others with as many ends. -/
theorem Ends.append_congr (h : Ends strict n (ls ++ us)) (hus : Ends strict j us)
    (hms : Ends strict j ms) (hleft : Loosely strict (leftOf us) (leftOf ms)) :
    Ends strict n (ls ++ ms) := by
  induction ls generalizing n with
  | nil =>
    obtain rfl := hus.unique h
    exact hms
  | cons l ls ih =>
    cases h with
    | free hl h hls => exact .free hl h (ih hls)
    | ended hl h hcalm hls =>
      refine .ended hl h (hcalm.of_loosely ?_) (ih hls)
      show Loosely strict (_ ++ leftOf (ls ++ us)) (_ ++ leftOf (ls ++ ms))
      rw [leftOf_append, leftOf_append]
      exact Loosely.append (.refl _) (Loosely.append (.refl _) hleft)

theorem bare_flatten (h : ∀ l ∈ ls, ∀ c ∈ l, isLoose c = true) : bare ls.flatten = [] :=
  bare_eq_nil fun c hc => by
    obtain ⟨l, hl, hc⟩ := List.mem_flatten.1 hc
    exact h l hl c hc

/-- Lines without other than loose characters. -/
theorem ends_loose (h : ∀ l ∈ ls, '\n' ∉ l ∧ ∀ c ∈ l, isLoose c = true) :
    Ends strict 0 ls ∧ leftOf ls = ls.flatten := by
  have hspares : ∀ l ∈ ls, SparesDocument l := fun l hl =>
    sparesDocument_of_not_mentions (not_mentions_of_loose (h l hl).2)
  refine ⟨ends_zero (fun l hl => (h l hl).1) hspares, ?_⟩
  rw [leftOf, List.flatMap_def, List.map_congr_left fun l hl => (hspares l hl).withoutEnd_eq,
    List.map_id']

theorem Text.count_flatten_lines {c : Char} (hc : c ≠ '\n') (t : Text) :
    (lines t).flatten.count c = t.count c := by
  conv => rhs; rw [← unlines_lines t]
  generalize lines t = ls
  induction ls with
  | nil => rfl
  | cons l ls ih =>
    rcases eq_or_ne ls [] with rfl | hne
    · rw [unlines_singleton, List.flatten_singleton]
    · rw [← List.singleton_append, unlines_append (List.cons_ne_nil _ _) hne, unlines_singleton,
        List.count_append, List.count_cons_of_ne hc.symm, ← ih, List.singleton_append,
        List.flatten_cons, List.count_append]

namespace StructureRepair

theorem length_takeWhile_append_le {α : Type*} {P : α → Bool} {c : α} (hc : P c = false)
    (xs ys : List α) : ((xs ++ c :: ys).takeWhile P).length ≤ xs.countP P := by
  induction xs with
  | nil => simp [hc]
  | cons x xs ih => cases hx : P x <;> simp [hx, ih]

/-- There are no more trailing braces than braces behind a character that is neither a brace nor
blank. -/
theorem trailingBraces_le {a : Text} {c : Char} (ha : a.getLast? = some c) (hc : c ≠ '}')
    (hblank : isBlank c = false) (t : Text) : trailingBraces (a ++ t) ≤ t.count '}' := by
  obtain ⟨a, rfl⟩ := List.getLast?_eq_some_iff.1 ha
  rw [List.append_assoc, List.singleton_append]
  have hspace : isLineSpace c = false := Bool.eq_false_iff.2 fun h =>
    Bool.false_ne_true (hblank.symm.trans (isBlank_of_isLineSpace h))
  have htrim : (Text.trimEnd (a ++ c :: t)).reverse =
      t.reverse.dropWhile isBlank ++ c :: a.reverse := by
    rw [Text.trimEnd, Text.trimEndBy, List.reverse_reverse, List.reverse_append,
      List.reverse_cons, List.append_assoc, List.singleton_append, List.dropWhile_append,
      List.dropWhile_cons_of_neg (by simp [hblank])]
    split
    · rename_i hempty
      rw [List.isEmpty_iff.1 hempty, List.nil_append]
    · rfl
  rw [trailingBraces, htrim, List.filter_append, List.filter_cons_of_pos (by simp [hspace])]
  have hsublist : ((t.reverse.dropWhile isBlank).filter (!isLineSpace ·)).Sublist t.reverse :=
    List.filter_sublist.trans (List.dropWhile_sublist isBlank)
  calc _ ≤ _ := length_takeWhile_append_le (by simpa using hc) _ _
    _ ≤ t.reverse.countP (· = '}') := hsublist.countP_le
    _ = t.count '}' := by rw [List.countP_reverse, List.count]; rfl

/-- If the brace of an end of the document were trimmed, it would be the last but those behind
it. -/
theorem trailingBraces_le_of_stem {a s b : Text} (ha : a.getLast? = some 't')
    (hb : ∀ c ∈ b, isBlank c = true) (hl : Text.lines (s ++ b) = ('}' :: y) :: ls) :
    trailingBraces (a ++ (s ++ b)) ≤ s.count '}' ∧
      s.count '}' = (y ++ ls.flatten).count '}' + 1 := by
  have htrailing := trailingBraces_le ha (by decide) (by decide) (s ++ b)
  have hflatten := Text.count_flatten_lines (c := '}') (by decide) (s ++ b)
  have hzero : b.count '}' = 0 := List.count_eq_zero.2 fun hmem => absurd (hb _ hmem) (by decide)
  rw [List.count_append, hzero, Nat.add_zero] at htrailing hflatten
  rw [hl, List.flatten_cons, List.cons_append, List.count_cons_self] at hflatten
  exact ⟨htrailing, hflatten.symm⟩

/-- What is trimmed goes from the lines at the end. -/
theorem loosely_flatten_lines {s b : Text} (hs : ∀ c ∈ s ++ b, isLoose c = true)
    (hb : ∀ c ∈ b, isBlank c = true) :
    Loosely strict (Text.lines (s ++ b)).flatten (Text.lines b).flatten := by
  have hbare : ∀ u : Text, (∀ c ∈ u, isLoose c = true) → bare (Text.lines u).flatten = [] :=
    fun u hu => bare_flatten fun l hl c hc => hu c (Text.mem_of_mem_lines hl hc)
  refine ⟨?_, fun _ _ => ?_⟩
  · rw [hbare _ hs, hbare b fun c hc => hs c (List.mem_append_right s hc)]
  · have hnone : b.count '}' = 0 := List.count_eq_zero.2 fun hmem => absurd (hb _ hmem) (by decide)
    rw [Text.count_flatten_lines (by decide), hnone]
    exact Nat.zero_le _

/-- Trimming braces leaves the ends of the document, in a strict reading or if the guide has a
trailing brace. -/
theorem ends_trimBraces? {t u guide : Text} (h : trimBraces? t guide = some (u, k))
    (hguide : strict ∨ 0 < trailingBraces guide) (ht : Ends strict n (Text.lines t)) :
    Ends strict n (Text.lines u) := by
  have hmore := (trimBraces?_eq_some_iff.1 h).1
  obtain ⟨a, s, b, rfl, rfl, hs, hb, hcount⟩ := exists_trimBraces? h
  obtain ⟨before, last, hlines⟩ := Text.exists_lines_append a
  obtain ⟨l, ls, hl⟩ := List.exists_cons_of_ne_nil (Text.lines_ne_nil (s ++ b))
  obtain ⟨m, ms, hm⟩ := List.exists_cons_of_ne_nil (Text.lines_ne_nil b)
  have hloose : ∀ c ∈ s ++ b, isLoose c = true := List.forall_mem_append.2 ⟨fun c hc => by
    rcases hs c hc with rfl | hc
    · decide
    · exact isLoose_of_isBlank hc, fun c hc => isLoose_of_isBlank (hb c hc)⟩
  have hrest : Loosely strict _ _ := loosely_flatten_lines hloose hb
  have hls : ∀ x ∈ l :: ls, '\n' ∉ x ∧ ∀ c ∈ x, isLoose c = true := fun x hx =>
    ⟨Text.newline_not_mem_of_mem_lines (hl ▸ hx), fun c hc =>
      hloose c (Text.mem_of_mem_lines (hl ▸ hx) hc)⟩
  have hms : ∀ x ∈ m :: ms, '\n' ∉ x ∧ ∀ c ∈ x, isLoose c = true := fun x hx =>
    ⟨Text.newline_not_mem_of_mem_lines (hm ▸ hx), fun c hc =>
      isLoose_of_isBlank (hb c (Text.mem_of_mem_lines (hm ▸ hx) hc))⟩
  have hlast : '\n' ∉ last ++ m := Text.newline_not_mem_of_mem_lines
    (t := a ++ b) (by rw [hlines _ _ _ hm]; simp)
  rw [hl, hm, List.flatten_cons, List.flatten_cons] at hrest
  rw [List.forall_mem_cons] at hls hms
  obtain ⟨hfree, hleft⟩ : Ends strict 0 ls ∧ _ := ends_loose hls.2
  obtain ⟨hfree', hleft'⟩ : Ends strict 0 ms ∧ _ := ends_loose hms.2
  rw [← hleft, ← hleft'] at hrest
  rw [hlines _ _ _ hl] at ht
  rw [hlines _ _ _ hm]
  obtain ⟨j, -, hj⟩ := ht.of_append
  suffices hsuffix : Ends strict j ((last ++ m) :: ms) ∧
      Loosely strict (leftOf ((last ++ l) :: ls)) (leftOf ((last ++ m) :: ms)) from
    ht.append_congr hj hsuffix.1 hsuffix.2
  rw [leftOf, leftOf, List.flatMap_cons, List.flatMap_cons]
  cases hj with
  | free _ h hls' =>
    obtain rfl := hls'.unique hfree
    have hspares := h.append_loose hls.1.2 hms.1.2
    refine ⟨.free hlast hspares hfree', ?_⟩
    rw [h.withoutEnd_eq, hspares.withoutEnd_eq, List.append_assoc, List.append_assoc]
    exact Loosely.append (.refl last) hrest
  | @ended _ _ x y _ _ h hcalm hls' =>
    obtain rfl := hls'.unique hfree
    rcases h.append_loose hls.1.2 with ⟨v, hp, rfl, hends⟩ | ⟨hp, rfl⟩
    · have hends := hends m hms.1.2
      have hbehind : Loosely strict ((v ++ l) ++ leftOf ls) ((v ++ m) ++ leftOf ms) := by
        rw [List.append_assoc, List.append_assoc]
        exact Loosely.append (.refl v) hrest
      refine ⟨.ended hlast hends (hcalm.of_loosely hbehind) hfree', ?_⟩
      rw [h.withoutEnd_eq, hends.withoutEnd_eq, List.append_assoc x, List.append_assoc x]
      exact Loosely.append (.refl x) hbehind
    · -- The brace of the end would go, but the guide or the slack leaves one brace more.
      exfalso
      have hsuffix := hlines [] [] [] rfl
      rw [List.append_nil, List.append_nil] at hsuffix
      obtain ⟨q, hq⟩ := Text.isSuffix_of_lines hsuffix
      have hstem : a.getLast? = some 't' := by
        rw [← hq, hp, ← List.append_assoc, List.getLast?_append,
          show terminatorStem.getLast? = some 't' by decide]
        rfl
      obtain ⟨htrailing, htotal⟩ := trailingBraces_le_of_stem hstem hb hl
      rcases hguide with hstrict | hguide
      · have hbare : bare (y ++ leftOf ls) = [] := by
          rw [hleft, bare_append, bare_eq_nil (List.forall_mem_cons.1 hls.1.2).2,
            bare_flatten fun l hl => (hls.2 l hl).2]
          rfl
        have hone := hcalm hstrict hbare
        rw [hleft] at hone
        unfold slack at hmore
        omega
      · omega

end StructureRepair

/-! ## The structure -/

/-- The repair of the structure leaves one end at most, and one where there is any. -/
theorem ends_repairStructure {t guide : Text} (h : Ends strict n (Text.lines t))
    (hgs : ∀ g ∈ Text.lines guide, IsEndLine (codePart g) ∨ ¬Mentions (codePart g))
    (honce : Occurrences.liveCount .endDocument (Occurrence.ofLines (Text.lines guide)) = 1)
    (hguide : strict ∨ 0 < trailingBraces guide) :
    ∃ m, min 1 n ≤ m ∧ m ≤ 1 ∧ Ends strict m (Text.lines (repairStructure t guide).content) := by
  obtain ⟨m, hle, hm, hends⟩ := ends_lineRules h hgs honce []
  refine ⟨m, hle, hm, ?_⟩
  rw [content_repairStructure]
  cases htrim : trimBraces? _ guide with
  | some trimmed => exact ends_trimBraces? htrim hguide hends.lines_unlines
  | none => exact hends.lines_unlines

end LatexRepair
