import LatexRepair.Proofs.ProsePreservation
import LatexRepair.Proofs.Remarks

/-!
# Ends of the document under the rules on the structure

`Ends strict n ls` says that `n` of the lines `ls` end the document and that the others do not
mention its end, remarks apart. Each rule on the structure is followed through it, beside a guide
with one live end : all ends but the first go (`ends_dropTerminators`), at most one comes back
where there is none (`ends_restoreEnds`), and no other rule changes their number, since it changes
lines as `Keeps` allows. Trailing braces are trimmed from the text (`ends_trimBraces?`). The brace
of the last end stays if the guide has a trailing brace itself, or else in a strict reading : then
behind no end there are two closing braces and nothing else (`Calm`).
-/

namespace LatexRepair

open StructureRepair

variable {strict sure : Prop} {line l g x y : Text} {ts us ls ms gs : List Text}
  {i j k m n : Nat}

/-! ## Lines with and without an end -/

/-- The line without the first end of the document in its code. -/
def withoutEnd (line : Text) : Text :=
  match Text.find? terminator (codePart line) with
  | some i => (Edit.delete i (i + terminator.length)).apply line
  | none => line

/-- What stands behind the first end of the document in the code of the line. -/
def behindEnd? (line : Text) : Option Text :=
  (Text.find? terminator (codePart line)).map fun i => line.drop (i + terminator.length)

theorem EndsAt.find?_eq (h : EndsAt line x y) :
    Text.find? terminator (codePart line) = some x.length := by
  obtain ⟨b, r, rfl, rfl, hx, hb, hr⟩ := h
  have hcode := hr.codePart_append
  rw [List.append_assoc, List.append_assoc, codePart_endLine hx b] at hcode
  obtain ⟨i, hi⟩ := Option.isSome_iff_exists.1
    (Text.contains_iff.2 ⟨x, codePart b, rfl⟩ :
      Text.contains terminator (x ++ (terminator ++ codePart b)) = true)
  rw [hcode, hi]
  obtain ⟨hle, hstarts, -⟩ := Text.find?_eq_some_iff.1 hi
  obtain ⟨v, hv⟩ := Text.startsWith_iff.1 hstarts
  have hsplit : (x ++ (terminator ++ codePart b)).take i ++ (terminator ++ v) =
      x ++ (terminator ++ codePart b) := by rw [← hv, List.take_append_drop]
  obtain ⟨htake, -⟩ := eq_of_append_terminator (not_mentions_codePart hb) hsplit
  rw [← htake, List.length_take, Nat.min_eq_left hle]

theorem EndsAt.apply_delete (h : EndsAt line x y) :
    (Edit.delete x.length (x.length + terminator.length)).apply line = x ++ y := by
  obtain ⟨b, r, -, rfl, -⟩ := h
  exact LineRepair.apply_delete_append ..

theorem EndsAt.withoutEnd_eq (h : EndsAt line x y) : withoutEnd line = x ++ y := by
  rw [withoutEnd, h.find?_eq]
  exact h.apply_delete

theorem EndsAt.behindEnd?_eq (h : EndsAt line x y) : behindEnd? line = some y := by
  rw [behindEnd?, h.find?_eq]
  obtain ⟨b, r, -, rfl, -⟩ := h
  rw [Option.map_some, ← List.drop_drop, List.drop_left, List.drop_left]

/-- Without its end the line does not mention it. -/
theorem EndsAt.sparesDocument_append (h : EndsAt line x y) : SparesDocument (x ++ y) := by
  obtain ⟨b, r, rfl, -, hx, hb, hr⟩ := h
  refine ⟨x ++ b, r, by simp, hr.imp_right fun ⟨hescapes, hr⟩ => ⟨?_, hr⟩, hb⟩
  rw [escapes_append, hx.unescaped, escapes_append] at hescapes
  rwa [escapes_append, hx.unescaped]

theorem EndsAt.newline_not_mem (h : EndsAt line x y) (hline : '\n' ∉ line) : '\n' ∉ x ++ y := by
  obtain ⟨b, r, -, rfl, -⟩ := h
  intro hmem
  rcases List.mem_append.1 hmem with hmem | hmem <;> simp [hmem] at hline

theorem SparesDocument.contains_eq_false (h : SparesDocument line) :
    Text.contains terminator (codePart line) = false := by
  obtain ⟨p, r, rfl, hr, hp⟩ := h
  rw [hr.codePart_append]
  exact Bool.eq_false_iff.2 fun hcontains => hp (mentions_of_contains hcontains)

theorem SparesDocument.withoutEnd_eq (h : SparesDocument line) : withoutEnd line = line := by
  rw [withoutEnd, Option.not_isSome_iff_eq_none.1 (Bool.eq_false_iff.1 h.contains_eq_false)]

/-- Of the live markers of a line that ends the document exactly one does. -/
theorem EndsAt.filter_liveMarkers_eq (h : EndsAt line x y) :
    (liveMarkers line).filter (·.marker = .endDocument) =
      [⟨.endDocument, x.length, x.length + terminator.length⟩] := by
  obtain ⟨b, r, rfl, rfl, hx, hb, hr⟩ := h
  have hlive := hr.liveMarkers_append
  rw [List.append_assoc, List.append_assoc] at hlive
  rw [hlive, filter_liveMarkers_endLine hx hb]

theorem SparesDocument.filter_liveMarkers_eq (h : SparesDocument line) :
    (liveMarkers line).filter (·.marker = .endDocument) = [] := by
  obtain ⟨p, r, rfl, hr, hp⟩ := h
  rw [hr.liveMarkers_append, filter_liveMarkers_eq_nil hp]

theorem EndsAt.hasTerminator_eq (h : EndsAt line x y) : hasTerminator line = true := by
  have hmem := List.mem_singleton_self
    (⟨.endDocument, x.length, x.length + terminator.length⟩ : PlacedMarker)
  rw [← h.filter_liveMarkers_eq, List.mem_filter] at hmem
  exact List.any_eq_true.2 ⟨_, hmem⟩

theorem SparesDocument.hasTerminator_eq (h : SparesDocument line) : hasTerminator line = false :=
  List.any_eq_false.2 (List.filter_eq_nil_iff.1 h.filter_liveMarkers_eq)

theorem sparesDocument_of_not_mentions (h : ¬Mentions line) : SparesDocument line :=
  ⟨line, [], (List.append_nil line).symm, .inl rfl, h⟩

/-! ## Counting ends -/

/-- What is left of the lines without their ends of the document. -/
def leftOf (ls : List Text) : Text :=
  ls.flatMap withoutEnd

/-- In a strict reading the text has at most one closing brace, if it has no other text. -/
def Calm (strict : Prop) (t : Text) : Prop :=
  strict → bare t = [] → t.count '}' ≤ 1

instance [Decidable strict] (t : Text) : Decidable (Calm strict t) :=
  inferInstanceAs (Decidable (_ → _))

theorem Calm.of_loosely {t u : Text} (h : Calm strict t) (hu : Loosely strict t u) :
    Calm strict u := fun hs hbare => by
  have ht : bare t = [] := hu.bare_eq ▸ hbare
  exact (hu.count_le hs ht).trans (h hs ht)

/-- So many of the lines end the document, and the others do not mention its end. Behind each
end the text is calm. -/
inductive Ends (strict : Prop) : Nat → List Text → Prop where
  | nil : Ends strict 0 []
  | free {n : Nat} {l : Text} {ls : List Text} (hl : '\n' ∉ l) (h : SparesDocument l)
      (hls : Ends strict n ls) : Ends strict n (l :: ls)
  | ended {n : Nat} {l x y : Text} {ls : List Text} (hl : '\n' ∉ l) (h : EndsAt l x y)
      (hcalm : Calm strict (y ++ leftOf ls)) (hls : Ends strict n ls) :
      Ends strict (n + 1) (l :: ls)

/-- Behind each end of the document the text is calm. -/
def Sealed (strict : Prop) : List Text → Prop
  | [] => True
  | l :: ls => (∀ y ∈ behindEnd? l, Calm strict (y ++ leftOf ls)) ∧ Sealed strict ls

instance decidableSealed [Decidable strict] : (ls : List Text) → Decidable (Sealed strict ls)
  | [] => inferInstanceAs (Decidable True)
  | _ :: ls =>
    have := decidableSealed ls
    inferInstanceAs (Decidable (_ ∧ _))

/-- The number of ends is that of the live markers that end the document. -/
theorem Ends.liveCount_eq (h : Ends strict n ls) :
    Occurrences.liveCount .endDocument (Occurrence.ofLines ls) = n := by
  rw [Occurrences.liveCount_ofLines]
  induction h with
  | nil => rfl
  | free hl h hls ih =>
    rw [List.flatMap_cons, List.countP_append, ih, List.countP_eq_length_filter,
      h.filter_liveMarkers_eq, List.length_nil, Nat.zero_add]
  | ended hl h hcalm hls ih =>
    rw [List.flatMap_cons, List.countP_append, ih, List.countP_eq_length_filter,
      h.filter_liveMarkers_eq, List.length_singleton, Nat.add_comm]

theorem Ends.unique (h : Ends strict m ls) (h' : Ends strict n ls) : m = n :=
  h.liveCount_eq.symm.trans h'.liveCount_eq

/-- Lines of which each ends the document or does not mention its end have some number of
ends. -/
theorem exists_ends (hnewline : ∀ l ∈ ls, '\n' ∉ l)
    (h : ∀ l ∈ ls, EndsDocument l ∨ SparesDocument l) (hsealed : Sealed strict ls) :
    ∃ n, Ends strict n ls := by
  induction ls with
  | nil => exact ⟨0, .nil⟩
  | cons l ls ih =>
    rw [List.forall_mem_cons] at hnewline h
    obtain ⟨n, hn⟩ := ih hnewline.2 h.2 hsealed.2
    rcases h.1 with ⟨x, y, h⟩ | h
    · exact ⟨n + 1, .ended hnewline.1 h (hsealed.1 y h.behindEnd?_eq) hn⟩
    · exact ⟨n, .free hnewline.1 h hn⟩

theorem ends_zero (hnewline : ∀ l ∈ ls, '\n' ∉ l) (h : ∀ l ∈ ls, SparesDocument l) :
    Ends strict 0 ls := by
  induction ls with
  | nil => exact .nil
  | cons l ls ih =>
    rw [List.forall_mem_cons] at hnewline h
    exact .free hnewline.1 h.1 (ih hnewline.2 h.2)

theorem Ends.newline_not_mem (h : Ends strict n ls) : ∀ l ∈ ls, '\n' ∉ l := by
  induction h with
  | nil => exact nofun
  | free hl h hls ih => exact List.forall_mem_cons.2 ⟨hl, ih⟩
  | ended hl h hcalm hls ih => exact List.forall_mem_cons.2 ⟨hl, ih⟩

theorem Ends.eq_zero (h : Ends strict n ls) (hnone : ∀ l ∈ ls, hasTerminator l = false) :
    n = 0 := by
  induction h with
  | nil => rfl
  | free hl h hls ih => exact ih (List.forall_mem_cons.1 hnone).2
  | ended hl h hcalm hls ih =>
    have := (List.forall_mem_cons.1 hnone).1
    rw [h.hasTerminator_eq] at this
    cases this

theorem leftOf_append (ls ms : List Text) : leftOf (ls ++ ms) = leftOf ls ++ leftOf ms :=
  List.flatMap_append

theorem Ends.append (h : Ends strict 0 ls) (h' : Ends strict n ms) :
    Ends strict n (ls ++ ms) := by
  generalize hm : 0 = m at h
  induction h with
  | nil => exact h'
  | free hl h hls ih => exact .free hl h (ih hm)
  | ended hl h hcalm hls ih => cases hm

theorem Ends.of_append (h : Ends strict n (ls ++ ms)) : ∃ j ≤ n, Ends strict j ms := by
  induction ls generalizing n with
  | nil => exact ⟨n, Nat.le_refl n, h⟩
  | cons l ls ih =>
    cases h with
    | free hl h hls => exact ih hls
    | ended hl h hcalm hls =>
      obtain ⟨j, hle, hj⟩ := ih hls
      exact ⟨j, hle.trans (Nat.le_succ _), hj⟩

/-- Put together to a text, the lines have as many ends as before. -/
theorem Ends.lines_unlines (h : Ends strict n ls) :
    Ends strict n (Text.lines (Text.unlines ls)) := by
  rcases eq_or_ne ls [] with rfl | hne
  · cases h
    exact .free List.not_mem_nil (sparesDocument_of_not_mentions (by decide)) .nil
  · rwa [Text.lines_unlines hne h.newline_not_mem]

/-- A line is changed so that it ends the document as it did before, or loses its end where that
is not sure to stay. -/
structure Keeps (strict sure : Prop) (t u : Text) : Prop where
  newline : '\n' ∉ t → '\n' ∉ u
  ended : ∀ x y, EndsAt t x y → StaysEnd strict x y u ∨ ¬sure ∧ SparesDocument u
  free : SparesDocument t → SparesDocument u ∧ Loosely strict t u

theorem Keeps.refl (t : Text) : Keeps strict sure t t :=
  ⟨id, fun x y h => .inl ⟨x, y, h, rfl, .refl y⟩, fun h => ⟨h, .refl t⟩⟩

theorem StaysEnd.trans {x' y' u : Text} (hbare : bare (x' ++ y') = bare (x ++ y))
    (hy : Loosely strict y y') (h : StaysEnd strict x' y' u) : StaysEnd strict x y u := by
  obtain ⟨x'', y'', hu, hbare', hy'⟩ := h
  exact ⟨x'', y'', hu, hbare'.trans hbare, hy.trans hy'⟩

theorem Keeps.trans {t u v : Text} (h : Keeps strict sure t u) (h' : Keeps strict sure u v) :
    Keeps strict sure t v where
  newline := h'.newline ∘ h.newline
  ended x y ht := by
    rcases h.ended x y ht with ⟨x', y', hu, hbare, hy⟩ | ⟨hsure, hu⟩
    · exact (h'.ended x' y' hu).imp_left (StaysEnd.trans hbare hy)
    · exact .inr ⟨hsure, (h'.free hu).1⟩
  free ht := ⟨(h'.free (h.free ht).1).1, (h.free ht).2.trans (h'.free (h.free ht).1).2⟩

/-- Lines that are changed one by one keep their end of the document, if there is one at most. -/
theorem Ends.of_forall₂ (h : Ends strict n ts) (hn : n ≤ 1)
    (hkeeps : List.Forall₂ (Keeps strict sure) ts us) :
    ∃ m ≤ n, (sure → m = n) ∧ Ends strict m us ∧
      (n = 0 → Loosely strict (leftOf ts) (leftOf us)) := by
  induction hkeeps generalizing n with
  | nil => exact ⟨n, Nat.le_refl n, fun _ => rfl, h, fun _ => .refl _⟩
  | cons hline _ ih =>
    cases h with
    | free hl h hls =>
      obtain ⟨m, hm, hsure, hends, hleft⟩ := ih hls hn
      obtain ⟨hu, hloosely⟩ := hline.free h
      refine ⟨m, hm, hsure, .free (hline.newline hl) hu hends, fun hzero => ?_⟩
      rw [leftOf, leftOf, List.flatMap_cons, List.flatMap_cons, h.withoutEnd_eq, hu.withoutEnd_eq]
      exact hloosely.append (hleft hzero)
    | @ended n _ x y _ hl h hcalm hls =>
      obtain rfl : n = 0 := by omega
      obtain ⟨m, hm, -, hends, hleft⟩ := ih hls (Nat.zero_le 1)
      obtain rfl : m = 0 := Nat.le_zero.1 hm
      rcases hline.ended x y h with ⟨x', y', hu, -, hy⟩ | ⟨hnot, hu⟩
      · exact ⟨1, Nat.le_refl 1, fun _ => rfl, .ended (hline.newline hl) hu
          (hcalm.of_loosely (hy.append (hleft rfl))) hends, nofun⟩
      · exact ⟨0, Nat.zero_le 1, fun hsure => absurd hsure hnot, .free (hline.newline hl) hu hends,
          nofun⟩

/-- Lines that keep their end of the document one by one keep their number of ends. -/
theorem Ends.keeps (h : Ends strict n ts) (hn : n ≤ 1)
    (hkeeps : List.Forall₂ (Keeps strict True) ts us) : Ends strict n us := by
  obtain ⟨m, -, hm, hends, -⟩ := h.of_forall₂ hn hkeeps
  rwa [← hm trivial]

/-- A line is changed before its remark. -/
theorem keeps_of_remarked {t u : Text} (hnewline : '\n' ∉ t → '\n' ∉ u)
    (hended : ∀ x b r, t = x ++ (terminator ++ b) ++ r → Clean x → ¬Mentions (x ++ b) →
      Remarked (x ++ (terminator ++ b)) r →
        ∃ v, u = v ++ r ∧ Remarked v r ∧ KeepsEnd strict x b v)
    (hfree : ∀ p r, t = p ++ r → Remarked p r → ¬Mentions p →
      ∃ v, u = v ++ r ∧ Remarked v r ∧ Loosely strict p v) : Keeps strict sure t u where
  newline := hnewline
  ended := by
    rintro x y ⟨b, r, rfl, ht, hx, hb, hr⟩
    obtain ⟨v, rfl, hv, hkeeps⟩ := hended x b r (by rw [ht]; simp) hx hb hr
    exact .inl (hkeeps.append_remark hv)
  free := by
    rintro ⟨p, r, rfl, hr, hp⟩
    obtain ⟨v, rfl, hv, hloosely⟩ := hfree p r rfl hr hp
    exact ⟨⟨v, r, rfl, hv, (not_mentions_congr hloosely.bare_eq).2 hp⟩, hloosely.append (.refl r)⟩

/-! ## Surplus ends -/

namespace StructureRepair

theorem loosely_of_isBlankText {t : Text} (h : Text.isBlankText t = true) :
    Loosely strict t [] := by
  have hdrop : Loosely strict ([] ++ (t ++ [])) ([] ++ []) :=
    .drop (fun c hc => isLoose_of_isBlank (List.all_eq_true.1 h c hc)) [] []
  rwa [List.append_nil] at hdrop

/-- All ends are removed. -/
theorem ends_removeTerminators_zero (h : Ends strict n ts) (number : Nat) :
    Ends strict 0 (removeTerminators 0 number ts).1 ∧
      Loosely strict (leftOf ts) (leftOf (removeTerminators 0 number ts).1) := by
  induction h generalizing number with
  | nil => exact ⟨.nil, .refl _⟩
  | @free n l ls hl h hls ih =>
    obtain ⟨hends, hleft⟩ := ih (number + 1)
    simp only [removeTerminators, h.filter_liveMarkers_eq, List.drop_nil, List.isEmpty_nil,
      List.length_nil, Nat.sub_zero, ↓reduceIte]
    refine ⟨.free hl h hends, ?_⟩
    rw [leftOf, leftOf, List.flatMap_cons, List.flatMap_cons]
    exact Loosely.append (.refl _) hleft
  | @ended n l x y ls hl h hcalm hls ih =>
    obtain ⟨hends, hleft⟩ := ih (number + 1)
    simp only [removeTerminators, h.filter_liveMarkers_eq, List.length_singleton, List.drop_zero,
      List.isEmpty_cons, Bool.false_eq_true, ↓reduceIte, List.map_cons, List.map_nil,
      Edit.applyAll, List.foldr_cons, List.foldr_nil, Nat.zero_sub, h.apply_delete]
    rw [leftOf, List.flatMap_cons, h.withoutEnd_eq]
    split
    · rename_i hblank
      exact ⟨hends, (loosely_of_isBlankText hblank).append hleft⟩
    · refine ⟨.free (h.newline_not_mem hl) h.sparesDocument_append hends, ?_⟩
      rw [leftOf, List.flatMap_cons, h.sparesDocument_append.withoutEnd_eq]
      exact Loosely.append (.refl _) hleft

/-- All ends but the first are removed. -/
theorem ends_removeTerminators_one (h : Ends strict n ts) (number : Nat) :
    Ends strict (min 1 n) (removeTerminators 1 number ts).1 := by
  induction h generalizing number with
  | nil => exact .nil
  | free hl h hls ih =>
    simp only [removeTerminators, h.filter_liveMarkers_eq, List.drop_nil, List.isEmpty_nil,
      List.length_nil, Nat.sub_zero, ↓reduceIte]
    exact .free hl h (ih (number + 1))
  | @ended n l x y ls hl h hcalm hls ih =>
    obtain ⟨hends, hleft⟩ := ends_removeTerminators_zero hls (number + 1)
    simp only [removeTerminators, h.filter_liveMarkers_eq, List.length_singleton,
      List.drop_succ_cons, List.drop_nil, List.isEmpty_nil, ↓reduceIte, Nat.sub_self]
    rw [Nat.min_eq_left (Nat.succ_le_succ (Nat.zero_le n))]
    exact .ended hl h (hcalm.of_loosely (Loosely.append (.refl _) hleft)) hends

/-- Beside a guide with one end the rendition is left with one at most. -/
theorem ends_dropTerminators (h : Ends strict n ts)
    (hgs : Occurrences.liveCount .endDocument (Occurrence.ofLines gs) = 1) :
    Ends strict (min 1 n) (dropTerminators ts gs).1 := by
  unfold dropTerminators
  dsimp only
  rw [hgs, if_pos (Nat.le_refl 1)]
  exact ends_removeTerminators_one h 1

/-! ## Hidden markers -/

theorem keeps_uncomment (line : Text) : Keeps strict sure line (uncomment line) := by
  unfold uncomment
  split
  · rename_i hidden hh
    refine keeps_of_remarked (fun h => LineRepair.newline_not_mem_apply h List.not_mem_nil) ?_ ?_
    · rintro x b r rfl hx hb hr
      rw [hr.hiddenMarker?_append] at hh
      exact ⟨_, Edit.apply_append (LineRepair.within_of_hiddenMarker? hh) r,
        hr.imp_right fun hr => ⟨LineRepair.escapes_uncomment hh hr.1, hr.2⟩,
        keepsEnd_uncomment hx hb hh⟩
    · rintro p r rfl hr hp
      rw [hr.hiddenMarker?_append] at hh
      exact ⟨_, Edit.apply_append (LineRepair.within_of_hiddenMarker? hh) r,
        hr.imp_right fun hr => ⟨LineRepair.escapes_uncomment hh hr.1, hr.2⟩,
        loosely_uncomment hh⟩
  · exact .refl line

theorem ends_restoreHidden (h : Ends strict n ts) (hn : n ≤ 1) :
    Ends strict n (restoreHidden ts gs).1 :=
  h.keeps hn (lines_restoreHidden Keeps.refl keeps_uncomment ts gs)

end StructureRepair

/-! ## Lost ends -/

/-- The markers of a text that does not mention the end of the document do not either. -/
theorem not_mentions_marker_text {t : Text} {x : PlacedMarker} (h : ¬Mentions t)
    (hx : x ∈ markersFrom i t) : ¬Mentions x.marker.text := by
  obtain ⟨a, s, b, rfl, hs, -⟩ := exists_spelling_of_mem_markersFrom hx
  rw [← hs, ← not_mentions_congr s.bare_text]
  exact fun hm => h (hm.append a b)

/-- Nor do the other markers of a line that ends the document. -/
theorem IsEndLine.not_mentions_marker_text {x : PlacedMarker} (h : IsEndLine g)
    (hx : x ∈ markers g) (hne : x.marker ≠ .endDocument) : ¬Mentions x.marker.text := by
  obtain ⟨a, b, rfl, -, hb⟩ := h
  obtain ⟨ha, hb⟩ := not_mentions_of_append hb
  rw [markers_around_terminator, List.mem_append, List.mem_cons] at hx
  rcases hx with hx | rfl | hx
  · exact LatexRepair.not_mentions_marker_text ha hx
  · exact absurd rfl hne
  · exact LatexRepair.not_mentions_marker_text hb hx

theorem newline_not_mem_marker_text {t : Text} {x : PlacedMarker} (hx : x ∈ markers t) :
    '\n' ∉ x.marker.text := by
  obtain ⟨a, s, b, -, hs, -⟩ := exists_spelling_of_mem_markers hx
  have hname : '\n' ∉ s.marker.name := fun hmem => by
    obtain ⟨u, v, hname, -⟩ := Text.exists_trim s.name
    have hmem : '\n' ∈ s.name := by
      rw [hname]
      exact List.mem_append_right _ (List.mem_append_left _ hmem)
    exact absurd (s.nameChar _ hmem) (by decide)
  have hword : '\n' ∉ Marker.controlWord s.marker.kind := by cases s.marker.kind <;> decide
  rw [← hs, Marker.text, List.mem_append, List.mem_cons, List.mem_append, List.mem_singleton]
  rintro (hmem | hmem | hmem | hmem)
  · exact hword hmem
  · cases hmem
  · exact hname hmem
  · cases hmem

theorem endsAt_terminator : EndsAt terminator [] [] :=
  ⟨[], [], rfl, rfl, ⟨rfl, rfl⟩, by decide, .inl rfl⟩

/-- Some lines without an end stand before the others. -/
theorem Ends.split (h : Ends strict n (ls ++ ms)) (hnone : ∀ l ∈ ls, hasTerminator l = false) :
    Ends strict 0 ls ∧ Ends strict n ms := by
  induction ls generalizing n with
  | nil => exact ⟨.nil, h⟩
  | cons l ls ih =>
    rw [List.forall_mem_cons] at hnone
    cases h with
    | free hl h hls =>
      obtain ⟨hfree, hrest⟩ := ih hls hnone.2
      exact ⟨.free hl h hfree, hrest⟩
    | ended hl h hcalm hls =>
      rw [h.hasTerminator_eq] at hnone
      cases hnone.1

theorem bare_marker_text (m : Marker) : bare m.text ≠ [] := by
  have hmem : '\\' ∈ bare m.text := List.mem_filter.2 ⟨by
    rw [Marker.text]
    cases m.kind <;> simp [Marker.controlWord], by decide⟩
  exact List.ne_nil_of_mem hmem

/-- Lines with markers before others without an end : as many of them end the document as there are
copies of its end. -/
theorem ends_map_text {xs : List Marker}
    (h : ∀ m ∈ xs, '\n' ∉ m.text ∧ (m ≠ .endDocument → ¬Mentions m.text))
    (hcount : xs.count .endDocument ≤ 1) (hms : Ends strict 0 ms)
    (hcalm : (leftOf ms).count '}' ≤ 1) :
    Ends strict (xs.count .endDocument) (xs.map (·.text) ++ ms) := by
  induction xs with
  | nil => exact hms
  | cons m xs ih =>
    obtain ⟨⟨hnewline, hfree⟩, hxs⟩ := List.forall_mem_cons.1 h
    rw [List.map_cons, List.cons_append]
    by_cases hm : m = .endDocument
    · subst hm
      rw [List.count_cons_self] at hcount ⊢
      refine .ended hnewline endsAt_terminator (fun _ hbare => ?_) (ih hxs (by omega))
      cases xs with
      | nil => exact hcalm
      | cons x xs =>
        -- Another marker stands behind the end.
        have hx : x ≠ .endDocument := by
          rintro rfl
          rw [List.count_cons_self] at hcount
          omega
        have hspares := sparesDocument_of_not_mentions ((hxs x (List.mem_cons_self ..)).2 hx)
        rw [List.nil_append, List.map_cons, List.cons_append, leftOf, List.flatMap_cons,
          hspares.withoutEnd_eq, bare_append, List.append_eq_nil_iff] at hbare
        exact absurd hbare.1 (bare_marker_text x)
    · rw [List.count_cons_of_ne hm] at hcount ⊢
      exact .free hnewline (sparesDocument_of_not_mentions (hfree hm)) (ih hxs hcount)

theorem nodup_eraseDups {α : Type*} [BEq α] [LawfulBEq α] (xs : List α) : xs.eraseDups.Nodup := by
  induction hn : xs.length using Nat.strong_induction_on generalizing xs with
  | _ n ih =>
    cases xs with
    | nil => exact List.nodup_nil
    | cons x xs =>
      have hle := List.length_filter_le (fun y => !y == x) xs
      rw [List.length_cons] at hn
      rw [List.eraseDups_cons, List.nodup_cons]
      refine ⟨fun hmem => ?_, ih _ (by omega) _ rfl⟩
      rw [List.mem_eraseDups, List.mem_filter] at hmem
      simp at hmem

theorem Occurrences.nodup_distinctMarkers (xs : List Occurrence) : (distinctMarkers xs).Nodup :=
  nodup_eraseDups _

namespace StructureRepair

/-- Copies of different markers, as many as `f` says. -/
theorem count_flatMap_replicate {xs : List Marker} (hxs : xs.Nodup) (f : Marker → Nat)
    (m : Marker) :
    (xs.flatMap fun x => List.replicate (f x) x).count m = if m ∈ xs then f m else 0 := by
  induction xs with
  | nil => rfl
  | cons x xs ih =>
    obtain ⟨hx, hxs⟩ := List.nodup_cons.1 hxs
    rw [List.flatMap_cons, List.count_append, List.count_replicate, ih hxs]
    by_cases hm : x = m
    · subst hm
      simp [hx]
    · simp [hm, Ne.symm hm]

theorem missingCount_le (ts gs : List Occurrence) (m : Marker) :
    missingCount ts gs m ≤ Occurrences.liveCount m gs := by
  unfold missingCount
  dsimp only
  split <;> omega

/-- No more ends of the document are missing than the guide has. -/
theorem count_missingEnds_le (ts gs : List Occurrence) :
    (missingEnds ts gs).count .endDocument ≤ Occurrences.liveCount .endDocument gs := by
  have hnodup : ((Occurrences.distinctMarkers gs).filter (·.kind = .closing)).Nodup :=
    (Occurrences.nodup_distinctMarkers _).filter _
  have hle := missingCount_le ts gs .endDocument
  rw [missingEnds, count_flatMap_replicate hnodup]
  split
  · exact hle
  · exact Nat.zero_le _

/-- The lines that are inserted end the document only where its end is missing. -/
theorem text_of_mem_missingEnds
    (hgs : ∀ g ∈ gs, IsEndLine (codePart g) ∨ ¬Mentions (codePart g)) {occ : List Occurrence}
    {m : Marker} (h : m ∈ missingEnds occ (Occurrence.ofLines gs)) :
    '\n' ∉ m.text ∧ (m ≠ .endDocument → ¬Mentions m.text) := by
  obtain ⟨-, g, hg, x, hx, rfl⟩ := of_mem_missingEnds h
  rw [liveMarkers_eq] at hx
  refine ⟨newline_not_mem_marker_text hx, fun hne => ?_⟩
  rcases hgs g hg with hend | hfree
  · exact hend.not_mentions_marker_text hx hne
  · exact not_mentions_marker_text hfree hx

/-- Beside a guide with one end, an end comes back only where there is none. -/
theorem ends_restoreEnds (h : Ends strict n ts) (hn : n ≤ 1)
    (hgs : ∀ g ∈ gs, IsEndLine (codePart g) ∨ ¬Mentions (codePart g))
    (honce : Occurrences.liveCount .endDocument (Occurrence.ofLines gs) = 1) :
    ∃ m, n ≤ m ∧ m ≤ 1 ∧ Ends strict m (restoreEnds ts gs).1 := by
  have hcount := count_missingEnds_le (Occurrence.ofLines ts) (Occurrence.ofLines gs)
  have htext : ∀ m ∈ missingEnds (Occurrence.ofLines ts) (Occurrence.ofLines gs), _ := fun m hm =>
    text_of_mem_missingEnds hgs hm
  rw [honce] at hcount
  unfold restoreEnds
  dsimp only
  generalize missingEnds (Occurrence.ofLines ts) (Occurrence.ofLines gs) = missing
    at hcount htext ⊢
  split
  · -- The rendition has an end already.
    rename_i place hplace
    obtain ⟨hlt, -, hbefore⟩ := List.findIdx?_eq_some_iff_getElem.1 hplace
    have hnone : ∀ l ∈ ts.take place, hasTerminator l = false := fun l hl => by
      obtain ⟨j, hj, rfl⟩ := List.getElem_of_mem hl
      rw [List.length_take] at hj
      rw [List.getElem_take]
      exact Bool.eq_false_iff.2 (hbefore j (by omega))
    rw [← List.take_append_drop place ts] at h
    obtain ⟨hfirst, hlast⟩ := h.split hnone
    have hinserted : Ends strict 0
        ((missing.filter (· ≠ Marker.endDocument)).map (·.text)) := by
      refine ends_zero ?_ ?_ <;> rw [List.forall_mem_map]
      · exact fun m hm => (htext m (List.mem_filter.1 hm).1).1
      · exact fun m hm => sparesDocument_of_not_mentions
          ((htext m (List.mem_filter.1 hm).1).2 (by simpa using (List.mem_filter.1 hm).2))
    exact ⟨n, Nat.le_refl n, hn, (hfirst.append hinserted).append hlast⟩
  · rename_i hnone
    rw [List.findIdx?_eq_none_iff] at hnone
    obtain rfl := h.eq_zero hnone
    refine ⟨_, Nat.zero_le _, hcount, ?_⟩
    rw [List.append_assoc]
    generalize hplace : (if ts.getLast? = some [] then ts.length - 1 else ts.length) = place
    have hempty : leftOf (ts.drop place) = [] := by
      subst hplace
      split
      · rename_i hlast
        obtain ⟨ts, rfl⟩ := List.getLast?_eq_some_iff.1 hlast
        rw [List.length_append, List.length_singleton, Nat.add_sub_cancel, List.drop_left]
        rfl
      · rw [List.drop_length]
        rfl
    rw [← List.take_append_drop place ts] at h
    obtain ⟨hfirst, hlast⟩ := h.split fun l hl => hnone l (List.mem_of_mem_take hl)
    exact hfirst.append (ends_map_text htext hcount hlast (by rw [hempty]; exact Nat.zero_le 1))

end StructureRepair

/-! ## Closing braces -/

/-- A closing brace escapes nothing. -/
theorem escapes_take_of_closer {t : Text} (h : t[i]? = some '}') :
    escapes false (t.take (i + 1)) = false := by
  rw [List.take_add_one, h, Option.toList_some, escapes_append]
  rfl

/-- A second closing brace behind one in the code keeps the end of the document, if there is other
text in the code, also behind an end that the brace stands behind. -/
theorem keeps_insertBehind {t : Text} (h : (codePart t)[i]? = some '}')
    (hrest : bare (codePart t) ≠ [])
    (hbehind : ∀ x y, codePart t = x ++ (terminator ++ y) → x.length + terminator.length ≤ i + 1 →
      bare y ≠ []) : Keeps strict sure t ((Edit.insert (i + 1) ['}']).apply t) := by
  have hcodebare : ∀ {u : Text}, bare (codePart u) ≠ [] → bare u ≠ [] := fun {u} hu hbare => by
    rw [← codePart_append_comment u, bare_append, List.append_eq_nil_iff] at hbare
    exact hu hbare.1
  -- No character of the end but its last one is a closing brace.
  have hlast : ∀ {x b : Text}, x.length ≤ i → (x ++ (terminator ++ b))[i]? = some '}' →
      x.length + terminator.length ≤ i + 1 := fun {x b} hi hget => by
    by_contra hinside
    rw [List.getElem?_append_right hi, List.getElem?_append_left (by omega)] at hget
    have hnone : ∀ j < terminator.length - 1, terminator[j]? ≠ some '}' := by decide
    exact hnone (i - x.length) (by omega) hget
  -- The brace comes to stand before the remark, if there is one.
  have hremark : ∀ {p r}, t = p ++ r → Remarked p r →
      (Edit.insert (i + 1) ['}']).apply t = (Edit.insert (i + 1) ['}']).apply p ++ r ∧
        p[i]? = some '}' ∧ Remarked ((Edit.insert (i + 1) ['}']).apply p) r := by
    rintro p r rfl hr
    rw [hr.codePart_append] at h
    have hp : p[i]? = some '}' := by
      rw [← codePart_append_comment p,
        List.getElem?_append_left (List.getElem?_eq_some_iff.1 h).1, h]
    obtain ⟨hlt, -⟩ := List.getElem?_eq_some_iff.1 hp
    have hwithin : (Edit.insert (i + 1) ['}']).Within p.length := ⟨Nat.le_refl _, hlt⟩
    refine ⟨Edit.apply_append hwithin r, hp, hr.imp_right fun hr => ⟨?_, hr.2⟩⟩
    rw [Edit.apply_insert]
    refine LineRepair.escapes_insert_closer hr.1 fun hescapes => ?_
    rw [escapes_take_of_closer hp] at hescapes
    cases hescapes
  refine keeps_of_remarked
    (fun hl => LineRepair.newline_not_mem_apply hl (show '\n' ∉ ['}'] by decide))
    ?_ ?_
  · intro x b r ht hx hb hr
    obtain ⟨hedit, hp, hr'⟩ := hremark ht hr
    refine ⟨_, hedit, hr', keepsEnd_insert hx hb ?_ fun hescapes => ?_⟩
    · rcases Nat.lt_or_ge i x.length with hi | hi
      · exact .inl hi
      · refine .inr ⟨?_, fun _ => hcodebare (hbehind x (codePart b) ?_ ?_)⟩
        · exact hlast hi hp
        · rw [ht, hr.codePart_append, codePart_endLine hx]
        · exact hlast hi hp
    · rcases Nat.lt_or_ge i x.length with hi | hi
      · rw [List.getElem?_append_left hi] at hp
        rw [escapes_take_of_closer hp] at hescapes
        cases hescapes
      · rw [List.take_of_length_le (by omega), hx.unescaped] at hescapes
        cases hescapes
  · intro p r ht hr hp
    obtain ⟨hedit, -, hr'⟩ := hremark ht hr
    refine ⟨_, hedit, hr', ?_⟩
    rw [ht, hr.codePart_append] at hrest
    have hinsert : Loosely strict (p.take (i + 1) ++ p.drop (i + 1)) _ :=
      .insert_closer fun _ => by
        rw [List.take_append_drop]
        exact hcodebare hrest
    rwa [List.take_append_drop, ← List.singleton_append, ← Edit.apply_insert] at hinsert

/-- Before a closing brace it is the same as behind it. -/
theorem apply_insert_closer {t : Text} (h : t[i]? = some '}') :
    (Edit.insert i ['}']).apply t = (Edit.insert (i + 1) ['}']).apply t := by
  obtain ⟨hi, hget⟩ := List.getElem?_eq_some_iff.1 h
  rw [Edit.apply_insert, Edit.apply_insert, List.take_add_one, h, List.drop_eq_getElem_cons hi,
    hget]
  simp

namespace StructureRepair

/-- Another marker than the end of the document stands in the code before the place of the
occurrence. -/
def ClosesAt (ts : List Text) (z : Occurrence) : Prop :=
  ∃ (t a : Text) (s : Marker.Spelling), ts[z.line]? = some t ∧ a ++ s.text <+: t ∧
    codePart (a ++ s.text) = a ++ s.text ∧ (a ++ s.text).length = z.stop ∧
      s.marker ≠ .endDocument

/-- A brace that is inserted behind the occurrence, or further on, leaves the marker before. -/
theorem ClosesAt.modify {z w : Occurrence} (h : ClosesAt ts w)
    (hle : Position.le (w.line, w.stop) (z.line, z.stop) = true) :
    ClosesAt (ts.modify z.line (Edit.insert z.stop ['}']).apply) w := by
  obtain ⟨t, a, s, ht, hstarts, hcode, hstop, hs⟩ := h
  rcases eq_or_ne z.line w.line with heq | hne
  · refine ⟨(Edit.insert z.stop ['}']).apply t, a, s, by simp [heq, ht], ?_, hcode, hstop, hs⟩
    have hle : w.stop ≤ z.stop := by simpa [Position.le, heq] using hle
    rw [Edit.apply_insert]
    exact (List.prefix_take_iff.2 ⟨hstarts, by omega⟩).trans (List.prefix_append _ _)
  · exact ⟨t, a, s, by simp [hne, ht], hstarts, hcode, hstop, hs⟩

/-- A closing brace behind the marker leaves the end of the document. -/
theorem keeps_insert_of_closesAt {t a : Text} {s : Marker.Spelling} (hstarts : a ++ s.text <+: t)
    (hcode : codePart (a ++ s.text) = a ++ s.text) (hs : s.marker ≠ .endDocument) :
    Keeps strict sure t ((Edit.insert (a ++ s.text).length ['}']).apply t) := by
  obtain ⟨w, rfl⟩ := hstarts
  have hread : codePartFrom false ((a ++ s.text) ++ []) = (a ++ s.text) ++ [] := by
    rwa [List.append_nil]
  obtain ⟨c, hline⟩ : ∃ c, codePart (a ++ s.text ++ w) = a ++ (s.text ++ c) :=
    ⟨codePartFrom (escapes false (a ++ s.text)) w, by
      rw [codePart, codePartFrom_append hread, List.append_assoc]⟩
  obtain ⟨r, hr⟩ : ∃ r, s.text = r ++ ['}'] :=
    ⟨Marker.controlWord s.kind ++ (s.blanks ++ '{' :: s.name), by simp [Marker.Spelling.text]⟩
  have hsolid : ∀ (u : Text) (s : Marker.Spelling) (v : Text), bare (u ++ (s.text ++ v)) ≠ [] :=
    fun u s v => by
      obtain ⟨rest, hrest, -⟩ := s.exists_text_eq
      have hmem : '\\' ∈ bare (u ++ (s.text ++ v)) := List.mem_filter.2
        ⟨by rw [hrest]; simp, by decide⟩
      exact List.ne_nil_of_mem hmem
  have hlength : (a ++ s.text).length = (a ++ r).length + 1 := by
    rw [hr, ← List.append_assoc, List.length_append, List.length_singleton]
  rw [hlength]
  refine keeps_insertBehind ?_ (hline ▸ hsolid a s c) fun x y hsplit hle => ?_
  · rw [hline, hr]
    simp
  · -- The marker starts behind the end, for markers do not overlap.
    have hmem : (⟨s.marker, a.length, a.length + s.text.length⟩ : PlacedMarker) ∈
        markers (a ++ (s.text ++ c)) := by
      have haround := markersFrom_around_spelling 0 a s c
      rw [Nat.zero_add] at haround
      rw [markers, haround]
      exact List.mem_append_right _ (List.mem_cons_self ..)
    rw [← hline, hsplit, markers_around_terminator, List.mem_append, List.mem_cons] at hmem
    rcases hmem with hmem | hmem | hmem
    · obtain ⟨u, z, v, rfl, -, -, hstop⟩ := exists_spelling_of_mem_markersFrom hmem
      have hpos : 0 < terminator.length := by decide
      simp only [List.length_append] at hstop hle hlength
      omega
    · exact absurd (congrArg PlacedMarker.marker hmem) hs
    · obtain ⟨u, z, v, rfl, -⟩ := exists_spelling_of_mem_markersFrom hmem
      exact hsolid u z v

theorem ends_insertClosers (h : Ends strict n ts) (hn : n ≤ 1) {zs : List Occurrence}
    (hzs : ∀ z ∈ zs, ClosesAt ts z)
    (hsorted : zs.Pairwise fun z w => Position.le (w.line, w.stop) (z.line, z.stop) = true) :
    Ends strict n (insertClosers ts zs) := by
  induction zs generalizing ts with
  | nil => exact h
  | cons z zs ih =>
    obtain ⟨hz, hzs⟩ := List.forall_mem_cons.1 hzs
    obtain ⟨hle, hsorted⟩ := List.pairwise_cons.1 hsorted
    -- The places are taken from the last one on, so the ones that are left have not moved.
    refine ih ?_ (fun w hw => (hzs w hw).modify (hle w hw)) hsorted
    obtain ⟨t, a, s, ht, hstarts, hcode, hstop, hs⟩ := hz
    refine h.keeps hn (lines_modify Keeps.refl z.line ts fun u hu => ?_)
    obtain rfl := Option.some.inj (ht.symm.trans hu)
    rw [← hstop]
    exact keeps_insert_of_closesAt hstarts hcode hs

/-- Every live marker but the end of the document stands so. -/
theorem closesAt_of_mem_ofLines {z : Occurrence} (h : z ∈ Occurrence.ofLines ts)
    (hlive : z.isLive = true) (hz : z.marker ≠ .endDocument) : ClosesAt ts z := by
  obtain ⟨line, hget, hz'⟩ := Occurrence.mem_ofLines h
  obtain ⟨p, hp, heq⟩ := List.mem_map.1 hz'
  have hmem : p ∈ liveMarkers line := by
    rw [← heq] at hlive
    exact List.mem_filter.2 ⟨hp, decide_eq_true ((Occurrence.isLive_iff rfl).1 hlive)⟩
  rw [liveMarkers_eq] at hmem
  obtain ⟨a, s, b, hline, hs, -, hstop⟩ := exists_spelling_of_mem_markers hmem
  have hsplit : (a ++ s.text) ++ (b ++ commentPart line) = line := by
    conv => rhs; rw [← codePart_append_comment line, hline]
    simp
  have hread : codePartFrom false ((a ++ s.text) ++ (b ++ commentPart line)) =
      (a ++ s.text) ++ b := by
    rw [hsplit, ← codePart, hline, List.append_assoc]
  have hcode := codePartFrom_append hread []
  rw [codePartFrom, List.append_nil] at hcode
  refine ⟨line, a, s, hget, ⟨_, hsplit⟩, hcode, ?_, ?_⟩
  · rw [List.length_append, ← hstop, ← heq]
  · rw [hs]
    rwa [← heq] at hz

/-- The occurrences from the last one on. -/
theorem pairwise_mergeSort_places (xs : List Occurrence) :
    (xs.mergeSort fun x y => Position.le (y.line, y.stop) (x.line, x.stop)).Pairwise fun x y =>
      Position.le (y.line, y.stop) (x.line, x.stop) = true := by
  refine List.pairwise_mergeSort (fun x y z h h' => ?_) (fun x y => ?_) xs
  · exact Position.le_trans h' h
  · exact Position.le_total _ _

theorem unclosedOf_sublist (ts gs : List Text) (m : Marker) :
    (unclosedOf ts gs m).Sublist (Occurrences.liveOf m (Occurrence.ofLines ts)) := by
  unfold unclosedOf
  dsimp only
  generalize Occurrences.liveOf m (Occurrence.ofLines ts) = xs
  generalize Occurrences.liveOf m (Occurrence.ofLines gs) = ys
  split
  · rename_i hcount
    have hzip : (xs.zip ys).map (·.1) = xs := List.map_fst_zip hcount.le
    have hsublist := (List.filter_sublist (l := xs.zip ys)
      (p := fun x => closedBehind gs x.2 && !closedBehind ts x.1)).map (·.1)
    rwa [hzip] at hsublist
  · exact List.nil_sublist _

theorem mem_ofLines_of_mem_unclosedOf {m : Marker} {x : Occurrence} (h : x ∈ unclosedOf ts gs m) :
    x ∈ Occurrence.ofLines ts :=
  (List.mem_filter.1 (List.mem_filter.1 ((unclosedOf_sublist ts gs m).subset h)).1).1

theorem ends_restoreClosers (h : Ends strict n ts) (hn : n ≤ 1) :
    Ends strict n (restoreClosers ts gs).1 := by
  refine ends_insertClosers h hn (fun z hz => ?_) (pairwise_mergeSort_places _)
  obtain ⟨m, hm, hz⟩ := List.mem_flatMap.1 (List.mem_mergeSort.1 hz)
  obtain ⟨hmarker, hlive⟩ := List.mem_filter.1 ((unclosedOf_sublist ts gs m).subset hz)
  refine closesAt_of_mem_ofLines (mem_ofLines_of_mem_unclosedOf hz) hlive ?_
  -- The document is no table.
  rintro hdocument
  obtain rfl : z.marker = m := by simpa using (List.mem_filter.1 hmarker).2
  rw [hdocument, List.mem_filter] at hm
  exact absurd hm.2 (by decide)

/-! ## Half-closed styles -/

/-- A half-closed style is closed before a closing brace that punctuation follows. -/
theorem getElem?_of_halfClosedLength? {t : Text} (h : halfClosedLength? t = some i) :
    t[i]? = some '}' ∧ ∃ c, t[i + 1]? = some c ∧ isClosingPunctuation c = true := by
  unfold halfClosedLength? at h
  obtain ⟨opening, -, h⟩ := Option.bind_eq_some_iff.1 h
  dsimp only at h
  split at h
  · cases h
  · split at h
    · rename_i c r hdrop
      split at h
      · rename_i hc
        obtain rfl := Option.some.inj h
        refine ⟨?_, c, ?_, hc⟩
        · rw [← Nat.add_zero (opening.length + _), ← List.getElem?_drop, hdrop]
          rfl
        · rw [← List.getElem?_drop, hdrop]
          rfl
      · cases h
    · cases h

theorem getElem?_of_halfClosed? {t : Text} (h : halfClosed? t = some i) :
    t[i]? = some '}' ∧ ∃ c, t[i + 1]? = some c ∧ isClosingPunctuation c = true := by
  obtain ⟨s, r, n, rfl, hn, rfl⟩ := exists_halfClosedLength? h
  rw [Nat.add_assoc, List.getElem?_append_right (Nat.le_add_right ..), Nat.add_sub_cancel_left,
    List.getElem?_append_right (Nat.le_add_right ..), Nat.add_sub_cancel_left]
  exact getElem?_of_halfClosedLength? hn

theorem isLoose_of_isClosingPunctuation {c : Char} (h : isClosingPunctuation c = true) :
    isLoose c = false := by
  have hall : ("=,;:，；：)）".toList.all fun c => !isLoose c) = true := by decide
  simpa using List.all_eq_true.1 hall c (List.contains_iff_mem.1 h)

theorem keeps_closeInLine (budget : Nat) (t : Text) :
    Keeps strict sure t (closeInLine budget t).1 := by
  induction budget generalizing t with
  | zero => exact .refl t
  | succ budget ih =>
    rw [closeInLine]
    split
    · exact .refl t
    · rename_i i hi
      obtain ⟨hcloser, c, hnext, hc⟩ := getElem?_of_halfClosed? hi
      have hline : t[i]? = some '}' := by
        rw [← codePart_append_comment t,
          List.getElem?_append_left (List.getElem?_eq_some_iff.1 hcloser).1, hcloser]
      have hsolid : ∀ {u : Text}, c ∈ u → bare u ≠ [] := fun hmem => List.ne_nil_of_mem
        (List.mem_filter.2 ⟨hmem, by rw [isLoose_of_isClosingPunctuation hc]; rfl⟩)
      rw [apply_insert_closer hline]
      refine (keeps_insertBehind hcloser (hsolid (List.mem_of_getElem? hnext)) ?_).trans (ih _)
      intro x y hsplit hle
      rw [hsplit, List.getElem?_append_right (by omega), List.getElem?_append_right (by omega)]
        at hnext
      exact hsolid (List.mem_of_getElem? hnext)

theorem ends_closeStyles (h : Ends strict n ts) (hn : n ≤ 1) :
    Ends strict n (closeStyles ts gs).1 :=
  h.keeps hn (lines_closeInLines keeps_closeInLine _ _ ts)

/-! ## All rules on lines -/

/-- The rules on lines, one after another, leave one end at most, and one where there is any. -/
theorem ends_lineRules (h : Ends strict n ts)
    (hgs : ∀ g ∈ gs, IsEndLine (codePart g) ∨ ¬Mentions (codePart g))
    (honce : Occurrences.liveCount .endDocument (Occurrence.ofLines gs) = 1)
    (fixes : List GuidedFix) :
    ∃ m, min 1 n ≤ m ∧ m ≤ 1 ∧
      Ends strict m (lineRules.foldl (fun s rule => andThen rule gs s) (ts, fixes)).1 := by
  have hle := Nat.min_le_left 1 n
  have hhidden : Ends strict (min 1 n) (restoreHidden _ gs).1 :=
    ends_restoreHidden (ends_dropTerminators h honce) hle
  obtain ⟨m, hmin, hm, hends⟩ := ends_restoreEnds hhidden hle hgs honce
  exact ⟨m, hmin, hm, ends_closeStyles (ends_restoreClosers hends hm) hm⟩

end StructureRepair

end LatexRepair
