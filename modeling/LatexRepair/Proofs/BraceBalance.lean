import LatexRepair.Proofs.BracePatch
import LatexRepair.RuleRepair
import Mathlib.Data.List.DropRight

/-!
# Balancing braces

A document whose braces do not balance is mended by adding or removing closing braces in
one place (`BraceRepair.balancePlace`), and nothing else changes there but white space
(`exists_patch_of_rebalance?`).

`rebalance?_balances_iff` : where that place is code, before and after the change, the
braces balance and no other issue comes or goes exactly when the place is the right one
(`Mendable`). It need not be code: a brace that is added inside a comment closes nothing
(`rebalance?_in_comment`).
-/

namespace LatexRepair

namespace BraceRepair

/-! ## Places -/

/-- The place where closing braces are added. -/
def additionPlace (t : Text) : Nat :=
  (Text.findLast? terminator t).getD (Text.trimEndBy (· = '\n') t).length

/-- The number of characters of a text up to its `n`th closing brace. -/
def closersSpan : Nat → Text → Nat
  | 0, _ => 0
  | _ + 1, [] => 0
  | n + 1, c :: t => closersSpan (if c = '}' then n else n + 1) t + 1

/-- The place from which on closing braces are removed. -/
def removalPlace (n : Nat) (t : Text) : Nat :=
  let region := t.take ((Text.findLast? terminator t).getD t.length)
  region.length - closersSpan n region.reverse

/-- The place where braces that are `delta` apart are balanced. -/
def balancePlace (t : Text) (delta : Int) : Nat :=
  if delta > 0 then additionPlace t else removalPlace delta.natAbs t

/-! ## What is added and removed -/

theorem additionPlace_le (t : Text) : additionPlace t ≤ t.length := by
  unfold additionPlace
  cases hlast : Text.findLast? terminator t with
  | some i => exact Text.le_length_of_findLast? hlast
  | none => exact (List.rdropWhile_prefix ..).length_le

/-- Closing braces are added in one place, with at most two line breaks. -/
theorem exists_addClosers_eq (n : Nat) (t : Text) : ∃ added : Text,
    addClosers n t = t.take (additionPlace t) ++ (added ++ t.drop (additionPlace t)) ∧
      added.count '}' = n ∧ added.count '\n' ≤ 2 ∧ ∀ c ∈ added, c = '}' ∨ c = '\n' := by
  have hcount : (closers n).count '}' = n := List.count_replicate_self
  have hbreaks : (closers n).count '\n' = 0 := by
    rw [closers, List.count_replicate, if_neg (by decide)]
  have honly : ∀ c ∈ closers n, c = '}' ∨ c = '\n' := fun c hc =>
    .inl (List.eq_of_mem_replicate hc)
  unfold addClosers additionPlace
  cases hlast : Text.findLast? terminator t with
  | some i =>
    dsimp only [Option.getD_some]
    generalize hsep : (if ((t.take i).isEmpty || (t.take i).getLast? = some '\n') then []
      else ['\n'] : Text) = sep
    have hsep' : sep = [] ∨ sep = ['\n'] := by
      rw [← hsep]
      split <;> simp
    refine ⟨sep ++ closers n ++ ['\n'], by simp, ?_, ?_, ?_⟩
    · rcases hsep' with rfl | rfl <;> simp [hcount]
    · rcases hsep' with rfl | rfl <;> simp [hbreaks]
    · intro c hc
      simp only [List.mem_append, List.mem_singleton] at hc
      obtain (hc | hc) | rfl := hc
      · rcases hsep' with rfl | rfl
        · cases hc
        · exact .inr (List.mem_singleton.1 hc)
      · exact honly c hc
      · exact .inr rfl
  | none =>
    dsimp only [Option.getD_none]
    generalize hbody : Text.trimEndBy (· = '\n') t = body
    obtain ⟨r, rfl⟩ : body <+: t := hbody ▸ List.rdropWhile_prefix ..
    refine ⟨closers n, ?_, hcount, hbreaks.trans_le (Nat.zero_le 2), honly⟩
    rw [List.take_left, List.drop_left, List.append_assoc]

/-- A run that ends in a closing brace does so behind its first character. -/
theorem endsInCloser_of_cons {c : Char} {m : Text} (h : ∀ d ∈ (c :: m).getLast?, d = '}') :
    ∀ d ∈ m.getLast?, d = '}' := by
  cases m with
  | nil => simp
  | cons d m => rwa [List.getLast?_cons_cons] at h

/-- In a run that ends in a closing brace one comes behind any other character. -/
theorem exists_count_of_ne {c : Char} {m : Text} (h : ∀ d ∈ (c :: m).getLast?, d = '}')
    (hc : c ≠ '}') : ∃ k, m.count '}' = k + 1 := by
  refine Nat.exists_eq_add_one_of_ne_zero (List.count_pos_iff.2 ?_).ne'
  cases hlast : m.getLast? with
  | none =>
    obtain rfl := List.getLast?_eq_none_iff.1 hlast
    exact absurd (h c rfl) hc
  | some d =>
    obtain rfl := endsInCloser_of_cons h d hlast
    exact List.mem_of_getLast? hlast

/-- Of a reversed text the first closing braces are removed, if they stand in closing braces and
white space and no backslash stands before the last of them. -/
theorem dropClosers?_eq_some_iff {n : Nat} {t v : Text} : dropClosers? n t = some v ↔ ∃ m r,
    t = m ++ r ∧ v = m.filter (· ≠ '}') ++ r ∧ m.count '}' = n ∧
      (∀ c ∈ m, Lexeme.isFiller c = true) ∧ (∀ c ∈ m.getLast?, c = '}') ∧
        r.head? ≠ some '\\' := by
  constructor
  · intro h
    induction n, t using dropClosers?.induct generalizing v with
    | case1 t hesc => simp [dropClosers?, hesc] at h
    | case2 t hesc =>
      obtain rfl : t = v := by simpa [dropClosers?, hesc] using h
      exact ⟨[], t, rfl, rfl, rfl, by simp, by simp, hesc⟩
    | case3 n => cases h
    | case4 n t ih =>
      rw [dropClosers?, if_pos rfl] at h
      obtain ⟨m, r, rfl, rfl, hcount, hm, hlast, hesc⟩ := ih h
      refine ⟨'}' :: m, r, rfl, rfl, by simp [hcount], List.forall_mem_cons.2 ⟨rfl, hm⟩, ?_, hesc⟩
      cases m with
      | nil => simp
      | cons d m => rwa [List.getLast?_cons_cons]
    | case5 n c t hc hblank ih =>
      rw [dropClosers?, if_neg hc, if_pos hblank] at h
      obtain ⟨v, hv, rfl⟩ := Option.map_eq_some_iff.1 h
      obtain ⟨m, r, rfl, rfl, hcount, hm, hlast, hesc⟩ := ih hv
      refine ⟨c :: m, r, rfl, by simp [hc], by simp [hc, hcount],
        List.forall_mem_cons.2 ⟨by simp [Lexeme.isFiller, hblank], hm⟩, ?_, hesc⟩
      cases m with
      | nil => cases hcount
      | cons d m => rwa [List.getLast?_cons_cons]
    | case6 n c t hc hblank =>
      rw [dropClosers?, if_neg hc, if_neg hblank] at h
      cases h
  · rintro ⟨m, r, rfl, rfl, rfl, hm, hlast, hesc⟩
    induction m with
    | nil => simp [dropClosers?, hesc]
    | cons c m ih =>
      rw [List.forall_mem_cons] at hm
      by_cases hc : c = '}'
      · subst hc
        rw [List.count_cons_self, List.cons_append, dropClosers?, if_pos rfl,
          ih hm.2 (endsInCloser_of_cons hlast)]
        rfl
      · obtain ⟨k, hk⟩ := exists_count_of_ne hlast hc
        have hblank : isBlank c = true := by simpa [Lexeme.isFiller, hc] using hm.1
        rw [hk] at ih
        rw [List.count_cons_of_ne hc, hk, List.cons_append, dropClosers?, if_neg hc,
          if_pos hblank, ih hm.2 (endsInCloser_of_cons hlast), Option.map_some,
          List.filter_cons_of_pos (by simpa using hc)]
        rfl

/-- They are as many characters as the text has up to the last of them. -/
theorem closersSpan_append {m : Text} (hlast : ∀ c ∈ m.getLast?, c = '}') (r : Text) :
    closersSpan (m.count '}') (m ++ r) = m.length := by
  induction m with
  | nil => simp [closersSpan]
  | cons c m ih =>
    have ih := ih (endsInCloser_of_cons hlast)
    by_cases hc : c = '}'
    · subst hc
      rw [List.count_cons_self, List.cons_append, closersSpan, if_pos rfl, ih, List.length_cons]
    · obtain ⟨k, hk⟩ := exists_count_of_ne hlast hc
      rw [hk] at ih
      rw [List.count_cons_of_ne hc, hk, List.cons_append, closersSpan, if_neg hc, ih,
        List.length_cons]

/-! ## Patches -/

/-- Adding closing braces changes a text in one place. -/
theorem exists_patch_addClosers (n : Nat) (t : Text) :
    ∃ P : BracePatch t (addClosers n t), P.before.length = additionPlace t ∧
      P.old.count '}' = 0 ∧ P.new.count '}' = n := by
  obtain ⟨added, hadded, hcount, -, honly⟩ := exists_addClosers_eq n t
  have hfiller : ∀ c ∈ added, Lexeme.isFiller c = true := fun c hc => by
    rcases honly c hc with rfl | rfl <;> decide
  exact ⟨⟨t.take (additionPlace t), [], added, t.drop (additionPlace t), by simp, hfiller,
    by simp, hadded⟩, List.length_take_of_le (additionPlace_le t), rfl, hcount⟩

/-- Removing closing braces changes a text in one place. -/
theorem exists_patch_removeClosers? {n : Nat} {t u : Text} (h : removeClosers? n t = some u) :
    ∃ P : BracePatch t u, P.before.length = removalPlace n t ∧
      P.old.count '}' = n ∧ P.new.count '}' = 0 := by
  unfold removeClosers? at h
  unfold removalPlace
  dsimp only at h ⊢
  generalize (Text.findLast? terminator t).getD t.length = stop at h ⊢
  obtain ⟨v, hv, rfl⟩ := Option.map_eq_some_iff.1 h
  obtain ⟨m, r, hregion, rfl, hcount, hm, hlast, -⟩ := dropClosers?_eq_some_iff.1 hv
  have htake : t.take stop = r.reverse ++ m.reverse := by
    rw [← List.reverse_append, ← hregion, List.reverse_reverse]
  refine ⟨⟨r.reverse, m.reverse, (m.filter (· ≠ '}')).reverse, t.drop stop, by simpa using hm,
    fun c hc => hm c (List.mem_of_mem_filter (List.mem_reverse.1 hc)), ?_, by simp⟩, ?_, ?_, ?_⟩
  · rw [← List.append_assoc, ← htake, List.take_append_drop]
  · have hlength := congrArg List.length htake
    rw [List.length_append, List.length_reverse, List.length_reverse] at hlength
    rw [hregion, ← hcount, closersSpan_append hlast, hlength, List.length_reverse,
      Nat.add_sub_cancel]
  · rw [List.count_reverse, hcount]
  · rw [List.count_reverse, List.count_eq_zero]
    simp

end BraceRepair

/-! ## Rebalancing -/

open BraceRepair

theorem rebalance?_eq_some_iff {t u : Text} {fix : RuleFix} :
    rebalance? t = some (u, fix) ↔
      (validate none t).hasKind (.misordered .brace) = false ∧
        balanceBraces? t (validate none t).braceDelta = some u ∧
          fix = if (validate none t).braceDelta > 0
            then .addedBraces (validate none t).braceDelta.toNat
            else .removedBraces (validate none t).braceDelta.natAbs := by
  unfold rebalance?
  dsimp only
  split
  · rename_i hordered
    simp [hordered]
  · rename_i hordered
    rw [Option.bind_eq_bind, Option.bind_eq_some_iff]
    simp [hordered, eq_comm]

/-- Balancing the braces of a document changes it in one place. -/
theorem exists_patch_of_rebalance? {t u : Text} {fix : RuleFix}
    (h : rebalance? t = some (u, fix)) :
    (validate none t).hasKind (.misordered .brace) = false ∧
      (validate none t).braceDelta ≠ 0 ∧
      ∃ P : BracePatch t u, P.before.length = balancePlace t (validate none t).braceDelta ∧
        (validate none t).braceDelta = P.new.count '}' - P.old.count '}' := by
  obtain ⟨hordered, hbalance, -⟩ := rebalance?_eq_some_iff.1 h
  refine ⟨hordered, ?_⟩
  unfold balanceBraces? at hbalance
  unfold balancePlace
  split at hbalance
  · rename_i hpos
    obtain rfl := Option.some.inj hbalance
    obtain ⟨P, hplace, hold, hnew⟩ := exists_patch_addClosers (validate none t).braceDelta.toNat t
    exact ⟨by omega, P, by rw [if_pos hpos, hplace], by omega⟩
  · rename_i hpos
    split at hbalance
    · obtain ⟨P, hplace, hold, hnew⟩ := exists_patch_removeClosers? hbalance
      exact ⟨by omega, P, by rw [if_neg hpos, hplace], by omega⟩
    · cases hbalance

/-- Where the place of the change is code, balancing the braces of a document achieves it
and harms nothing else exactly when the place is the right one. -/
theorem rebalance?_balances_iff {t u : Text} {fix : RuleFix} {p : Nat}
    (h : rebalance? t = some (u, fix)) (hp : p = balancePlace t (validate none t).braceDelta)
    (ht : Lexeme.ReadsApart (t.take p) (t.drop p)) (hu : Lexeme.ReadsApart (u.take p) (u.drop p))
    (lookup : Option FileLookup) : Balances lookup t u ↔ Mendable t u p := by
  obtain ⟨hordered, hne, P, hplace, hdelta⟩ := exists_patch_of_rebalance? h
  rw [← hplace] at hp
  subst hp
  exact P.balances_iff (P.inCode_iff.2 ⟨ht, hu⟩) hordered hdelta hne lookup

/-- The closer that a document lacks is written before its end, which is the right place. -/
theorem rebalance?_balances_document :
    rebalance? "\\documentclass\\begin{document}\x7b\\end{document}".toList =
        some ("\\documentclass\\begin{document}\x7b\n\x7d\n\\end{document}".toList,
          .addedBraces 1) ∧
      Balances none "\\documentclass\\begin{document}\x7b\\end{document}".toList
        "\\documentclass\\begin{document}\x7b\n\x7d\n\\end{document}".toList := by
  set t : Text := "\\documentclass\\begin{document}\x7b\\end{document}".toList
  set u : Text :=
    "\\documentclass\\begin{document}\x7b\n\x7d\n\\end{document}".toList
  have hrun : rebalance? t = some (u, .addedBraces 1) := by
    decide +kernel
  have hplace : 31 = balancePlace t (validate none t).braceDelta := by
    decide +kernel
  have hfindings : (scan t).findings = [.unmatchedOpen .brace ⟨1, 31, 30⟩] := by
    decide +kernel
  refine ⟨hrun, (rebalance?_balances_iff hrun hplace (by decide +kernel) (by decide +kernel) none).2
    ⟨fun q hq => ?_, fun q hq => ?_, by decide +kernel⟩⟩
  · rw [hfindings] at hq
    obtain rfl : q = ⟨1, 31, 30⟩ := by simpa using hq
    decide +kernel
  · rw [hfindings] at hq
    simp at hq

/-- The brace that is added to a text that ends in a comment is part of the comment. -/
theorem rebalance?_in_comment :
    rebalance? "\x7ba %x".toList = some ("\x7ba %x\x7d".toList, .addedBraces 1) ∧
      ¬ Balances none "\x7ba %x".toList "\x7ba %x\x7d".toList := by
  have hdelta : (validate none "\x7ba %x".toList).braceDelta = 1 := by
    rw [braceDelta_validate]
    decide +kernel
  refine ⟨rebalance?_eq_some_iff.2 ⟨?_, ?_, by rw [hdelta]; rfl⟩, fun h => ?_⟩
  · rw [Validation.hasKind, (issues_validate_perm _ _).any_eq]
    decide +kernel
  · rw [hdelta]
    decide +kernel
  · have hbalanced := (forall_isBraces_eq_false_iff _ _).1 h.balanced
    rw [balanced_iff_ofWord_eq] at hbalanced
    exact absurd hbalanced (by decide +kernel)

end LatexRepair
