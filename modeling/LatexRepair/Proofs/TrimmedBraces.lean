import LatexRepair.Proofs.ProsePreservation
import LatexRepair.Proofs.TrailingReading
import Mathlib.Data.List.Nodup

/-!
# Trimmed braces

Closing braces at the end of a rendition are trimmed by number: as many go as there are more
than at the end of the guide (`trimBraces?_eq_some_iff`). Whether they close something is not looked
at. What a scan reads in the trimmed text it reads in the rendition too, but for closers, and
for the opener of a group that is an argument no more (`exists_events_trimBraces?`).

`unclosedBrace_trimBraces?_iff` : so each brace that stays open in the trimmed text stayed
open in the rendition exactly when the trimmed text lacks no closers, or nothing that was
trimmed is read as a brace. A rendition whose braces are in order gets an unclosed brace as
soon as one that is read is trimmed.
-/

namespace LatexRepair

open Delimiter (Stack)

/-! ## The openers that are left over -/

namespace Delimiter.Stack

variable {w v E C D : List DelimiterEvent}

/-- Openers are left over exactly where there are more of them than closers. -/
theorem loneOpens_ofWord_eq_nil_iff :
    (ofWord w).loneOpens = [] ↔
      w.countP DelimiterEvent.isOpening ≤ w.countP DelimiterEvent.isClosing := by
  have hcount := (Leaves.leaves_ofWord w).count
  rw [loneOpens, List.drop_eq_nil_iff, misplacedCount, List.length_reverse]
  omega

theorem mem_opens_of_mem_loneOpens {s : Stack} {p : Position} (h : p ∈ s.loneOpens) :
    p ∈ s.opens :=
  List.mem_reverse.1 (List.mem_of_mem_drop h)

/-- If an opener is left over, the innermost one is. -/
theorem exists_innermost {s : Stack} (h : s.loneOpens ≠ []) :
    ∃ p outer, s.opens = p :: outer ∧ p ∈ s.loneOpens := by
  obtain ⟨opens, strays⟩ := s
  cases opens with
  | nil => simp [loneOpens] at h
  | cons p outer =>
    refine ⟨p, outer, rfl, ?_⟩
    rw [loneOpens, Ne, List.drop_eq_nil_iff, List.length_reverse, List.length_cons] at h
    rw [loneOpens, List.reverse_cons, List.drop_append_of_le_length (by simp; omega)]
    simp

theorem countP_closings (hC : ∀ e ∈ C, e.isClosing = true) :
    C.countP DelimiterEvent.isOpening = 0 ∧ C.countP DelimiterEvent.isClosing = C.length := by
  refine ⟨List.countP_eq_zero.2 fun e he => ?_, List.countP_eq_length.2 hC⟩
  cases e with
  | opening p => exact absurd (hC _ he) Bool.false_ne_true
  | closing p => exact Bool.false_ne_true

/-- Closers leave no openers. -/
theorem ofWord_closings (hC : ∀ e ∈ C, e.isClosing = true) :
    (ofWord C).opens = [] ∧ (ofWord C).strays.length = C.length := by
  have hopens : (ofWord C).opens = [] := List.eq_nil_iff_forall_not_mem.2 fun p hp =>
    Bool.false_ne_true (hC _ (opening_mem_of_mem_opens hp))
  have hcount := (Leaves.leaves_ofWord C).count
  obtain ⟨hopening, hclosing⟩ := countP_closings hC
  rw [hopens, hopening, hclosing, List.length_nil] at hcount
  exact ⟨hopens, by omega⟩

/-- Closers take openers, innermost first. -/
theorem opens_ofWord_append_closings (hC : ∀ e ∈ C, e.isClosing = true) :
    (ofWord (E ++ C)).opens = (ofWord E).opens.drop C.length := by
  obtain ⟨hopens, hstrays⟩ := ofWord_closings hC
  rw [ofWord_append, hopens, hstrays, List.nil_append]

/-- Where closers at the end of a word give way to nothing or to an opener, an opener is left
over that was not, unless none is or the word is the same. -/
theorem loneOpens_subset_iff (hw : (E ++ C).Nodup) (hv : (E ++ D).Nodup)
    (hC : ∀ e ∈ C, e.isClosing = true) (hD : D = [] ∨ ∃ q, D = [.opening q]) :
    (ofWord (E ++ D)).loneOpens ⊆ (ofWord (E ++ C)).loneOpens ↔
      (ofWord (E ++ D)).loneOpens = [] ∨ E ++ D = E ++ C := by
  constructor
  · intro hsub
    refine or_iff_not_imp_left.2 fun hne => ?_
    obtain ⟨p, outer, hopens, hp⟩ := exists_innermost hne
    have hmem := mem_opens_of_mem_loneOpens (hsub hp)
    rcases hD with rfl | ⟨q, rfl⟩
    · -- the first closer would take the innermost opener
      have hnodup := nodup_opens_ofWord hv
      rw [List.append_nil] at hopens hnodup
      rw [opens_ofWord_append_closings hC, hopens] at hmem
      rw [hopens, List.nodup_cons] at hnodup
      cases C with
      | nil => rfl
      | cons e C => exact absurd (List.mem_of_mem_drop (i := C.length) hmem) hnodup.1
    · -- the innermost opener is new
      rw [ofWord_append_singleton] at hopens
      obtain rfl : q = p := (List.cons.inj hopens).1
      rcases List.mem_append.1 (opening_mem_of_mem_opens hmem) with hE | hclosing
      · rw [List.nodup_append] at hv
        exact absurd rfl (hv.2.2 _ hE _ (List.mem_singleton_self _))
      · exact absurd (hC _ hclosing) Bool.false_ne_true
  · rintro (hnil | heq)
    · rw [hnil]
      exact List.nil_subset _
    · rw [heq]
      exact List.Subset.refl _

/-- Where the word was balanced, an opener is left over unless the word is the same. -/
theorem loneOpens_ne_nil_iff (hbalanced : Balanced (E ++ C)) (hC : ∀ e ∈ C, e.isClosing = true)
    (hD : D = [] ∨ ∃ q, D = [.opening q]) :
    (ofWord (E ++ D)).loneOpens ≠ [] ↔ E ++ D ≠ E ++ C := by
  have hcount := hbalanced.count
  refine not_congr ⟨fun hnil => ?_, fun heq => ?_⟩
  · -- the openers of the balanced word are as many as its closers
    obtain ⟨hopening, hclosing⟩ := countP_closings hC
    rw [loneOpens_ofWord_eq_nil_iff] at hnil
    rw [List.countP_append, List.countP_append] at hcount hnil
    rw [hopening, hclosing] at hcount
    rcases hD with rfl | ⟨q, rfl⟩
    · rw [List.countP_nil, List.countP_nil] at hnil
      rw [List.eq_nil_of_length_eq_zero (l := C) (by omega)]
    · simp only [List.countP_singleton, DelimiterEvent.isOpening, DelimiterEvent.isClosing,
        if_true, Bool.false_eq_true, if_false] at hnil
      omega
  · rw [heq, loneOpens_ofWord_eq_nil_iff]
    exact hcount.le

end Delimiter.Stack

/-- The scan of `t` reports the opening brace at `q` as one that nothing closes. -/
def UnclosedBrace (t : Text) (q : Position) : Prop :=
  .unmatchedOpen .brace q ∈ (scan t).findings

/-- Braces stay open exactly where the openers outnumber the closers. -/
theorem loneOpens_eq_nil_iff_braceDelta (lookup : Option FileLookup) (t : Text) :
    (Stack.ofWord (delimiterEvents .brace t)).loneOpens = [] ↔
      (validate lookup t).braceDelta ≤ 0 := by
  rw [Stack.loneOpens_ofWord_eq_nil_iff, braceDelta_validate]
  omega

namespace StructureRepair

/-! ## What is read -/

/-- The braces of a trimmed text are those of the rendition, but for closers, and for one
opener that is no brace in the rendition. -/
theorem exists_events_trimBraces? {t g u : Text} {n : Nat} (h : trimBraces? t g = some (u, n)) :
    ∃ E C D, delimiterEvents .brace t = E ++ C ∧ delimiterEvents .brace u = E ++ D ∧
      (∀ e ∈ C, e.isClosing = true) ∧ (D = [] ∨ ∃ q, D = [.opening q]) := by
  obtain ⟨a, s, b, rfl, rfl, hs, hb, -⟩ := exists_trimBraces? h
  have hblank : ∀ c ∈ b, Lexeme.isFiller c = true := fun c hc => by
    simp [Lexeme.isFiller, hb c hc]
  have hfiller : ∀ c ∈ s ++ b, Lexeme.isFiller c = true := fun c hc => by
    rcases List.mem_append.1 hc with hc | hc
    · simpa [Lexeme.isFiller] using hs c hc
    · exact hblank c hc
  have hclose : '}' ∉ b := fun hmem => Bool.false_ne_true (hb _ hmem)
  obtain ⟨E, C, D, ht, ha, hC, hD, -⟩ := exists_bracesFrom_append hfiller .start a
  -- the white space that stays changes no braces
  obtain ⟨E', C', D', hu, ha', -, -, hnil⟩ := exists_bracesFrom_append hblank .start a
  obtain ⟨rfl, rfl⟩ := hnil hclose
  refine ⟨E, C, D, ?_, ?_, hC, hD⟩
  · rw [delimiterEvents_brace, ht]
  · rw [delimiterEvents_brace, hu, ← ha', ha]

/-! ## What stays open -/

/-- As many closers are trimmed as the rendition has more of them at its end than the guide.
If the trimmed text lacks no closers or has the same braces, each brace that stays open in it
stayed open in the rendition, and else one did not. If the braces of the rendition are in
order, one stays open exactly if the trimmed text has not the same braces. -/
theorem unclosedBrace_trimBraces?_iff {t g u : Text} {n : Nat}
    (h : trimBraces? t g = some (u, n)) :
    (trailingBraces g + slack < trailingBraces t ∧ n = trailingBraces t - trailingBraces g) ∧
      ((∀ q, UnclosedBrace u q → UnclosedBrace t q) ↔
        (validate none u).braceDelta ≤ 0 ∨
          delimiterEvents .brace u = delimiterEvents .brace t) ∧
      ((∀ f ∈ (scan t).findings, f.delimiter? ≠ some .brace) →
        ((∃ q, UnclosedBrace u q) ↔ delimiterEvents .brace u ≠ delimiterEvents .brace t)) := by
  obtain ⟨E, C, D, ht, hu, hC, hD⟩ := exists_events_trimBraces? h
  have hnodup : ∀ t, (delimiterEvents .brace t).Nodup := fun t =>
    (conserves_findings_scan .brace t).nodup
  have hw := hnodup t
  have hv := hnodup u
  rw [ht] at hw
  rw [hu] at hv
  obtain ⟨hmore, hn, -⟩ := trimBraces?_eq_some_iff.1 h
  refine ⟨⟨hmore, hn⟩, ?_, fun hnone => ?_⟩
  · rw [← loneOpens_eq_nil_iff_braceDelta]
    simp only [UnclosedBrace, mem_findings_unmatchedOpen_iff, ht, hu]
    exact Stack.loneOpens_subset_iff hw hv hC hD
  · have hbalanced : Balanced (E ++ C) := by
      rw [← ht, ← (conserves_findings_scan .brace t).eq_nil_iff, List.filter_eq_nil_iff]
      simpa using hnone
    simp only [UnclosedBrace, mem_findings_unmatchedOpen_iff, ht, hu]
    rw [← Stack.loneOpens_ne_nil_iff hbalanced hC hD]
    exact ⟨fun ⟨q, hq⟩ => List.ne_nil_of_mem hq, List.exists_mem_of_ne_nil _⟩

/-- In a comment there are no braces to miss. -/
theorem unclosedBrace_trimBraces?_iff_comment :
    let t := "a % \x7d\x7d\x7d".toList
    let u := "a %".toList
    trimBraces? t "b".toList = some (u, 3) ∧ (∀ q, UnclosedBrace u q → UnclosedBrace t q) ∧
      ¬ ∃ q, UnclosedBrace u q := by
  intro t u
  have h : trimBraces? t "b".toList = some (u, 3) := by decide +kernel
  have hsame : delimiterEvents .brace u = delimiterEvents .brace t := by decide +kernel
  obtain ⟨-, hopen, hunclosed⟩ := unclosedBrace_trimBraces?_iff h
  refine ⟨h, hopen.2 (.inr hsame), fun hex => ?_⟩
  exact (hunclosed (by decide +kernel)).1 hex hsame

/-- The closers of three groups are trimmed, which stay open. -/
theorem trimBraces?_unclosed :
    let t := "\x7b\x7b{a}\x7d\x7d".toList
    let u := "\x7b\x7b\x7ba".toList
    trimBraces? t "x".toList = some (u, 3) ∧ (scan t).findings = [] ∧
      ∃ q, UnclosedBrace u q ∧ ¬ UnclosedBrace t q := by
  intro t u
  have hnil : (scan t).findings = [] := by decide +kernel
  have hopen : UnclosedBrace u ⟨1, 1, 0⟩ := by
    rw [UnclosedBrace, mem_findings_unmatchedOpen_iff]
    decide +kernel
  refine ⟨by decide +kernel, hnil, ⟨1, 1, 0⟩, hopen, fun h => ?_⟩
  rw [UnclosedBrace, hnil] at h
  cases h

end StructureRepair

end LatexRepair
