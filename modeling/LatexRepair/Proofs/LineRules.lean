import LatexRepair.LineRepair
import LatexRepair.Proofs.CodeCuts

/-!
# What the rules for lines do

Each rule for a line and its counterpart, read backwards : when it applies, and with which
edit. A line is at rest beside a counterpart that it is in step with (`InStep`), and no
rule puts a newline into a line (`LineRepair.newline_not_mem_insertion`).
-/

namespace LatexRepair

namespace LineRepair

variable {t g : Text} {e : Edit} {f : LineFix}

theorem of_removeTerminator? (h : removeTerminator? t g = some (e, f)) :
    Text.contains terminator (codePart g) = false ∧
      ∃ i, Text.find? terminator (codePart t) = some i ∧
        e = .delete i (i + terminator.length) ∧ f = .removedTerminator := by
  unfold removeTerminator? at h
  split at h
  · cases h
  · rename_i hg
    obtain ⟨i, hi, h⟩ := Option.bind_eq_some_iff.1 h
    obtain ⟨rfl, rfl⟩ := Prod.mk.inj (Option.some.inj h)
    exact ⟨by simpa using hg, i, hi, rfl, rfl⟩

theorem of_uncommentMarker? (h : uncommentMarker? t g = some (e, f)) :
    ∃ hidden, hiddenMarker? t = some hidden ∧
      liveCount hidden.marker t < liveCount hidden.marker g ∧
        e = .delete hidden.start hidden.stop ∧ f = .uncommentedMarker hidden.marker := by
  unfold uncommentMarker? at h
  obtain ⟨hidden, hh, h⟩ := Option.bind_eq_some_iff.1 h
  split at h
  · cases h
  · rename_i hlt
    obtain ⟨rfl, rfl⟩ := Prod.mk.inj (Option.some.inj h)
    exact ⟨hidden, hh, Nat.lt_of_not_le hlt, rfl, rfl⟩

theorem of_uncommentCommand? (h : uncommentCommand? t g = some (e, f)) :
    isCommentLine g = false ∧ isCommentLine t = true ∧
      ∃ name intro, leadingCommand? g = some name ∧ commentIntro? t = some intro ∧
        commandName? (t.drop intro.length) = some name ∧
        e = .delete (indentation t).length intro.length ∧ f = .uncommentedCommand name := by
  unfold uncommentCommand? at h
  split at h
  · cases h
  · rename_i hcomment
    obtain ⟨name, hname, h⟩ := Option.bind_eq_some_iff.1 h
    split at h
    · cases h
    · obtain ⟨intro, hintro, h⟩ := Option.bind_eq_some_iff.1 h
      split at h
      · cases h
      · rename_i hcommand
        obtain ⟨rfl, rfl⟩ := Prod.mk.inj (Option.some.inj h)
        refine ⟨by simp_all, by simp_all, name, intro, hname, hintro, by simpa using hcommand,
          rfl, rfl⟩

theorem of_restoreComment? (h : restoreComment? t g = some (e, f)) :
    isCommentLine g = true ∧ isCommentLine t = false ∧ Text.isBlankText t = false ∧
      ∃ intro, commentIntro? g = some intro ∧
        takesAll (structureTokens (g.drop intro.length)) (structureTokens (codePart t)) = true ∧
        e = ⟨0, (indentation t).length, intro⟩ ∧ f = .restoredComment := by
  unfold restoreComment? at h
  split at h
  · cases h
  · rename_i hcomment
    obtain ⟨intro, hintro, h⟩ := Option.bind_eq_some_iff.1 h
    dsimp only at h
    split at h
    · cases h
    · rename_i htakes
      obtain ⟨rfl, rfl⟩ := Prod.mk.inj (Option.some.inj h)
      refine ⟨by simp_all, by simp_all, by simp_all, intro, hintro, by simpa using htakes,
        rfl, rfl⟩

/-- Braces are balanced only beside a catalogued command, and only where the balances of the
two lines differ by one. A brace goes into the gap before the first token that the counterpart
does not share, or is that token, and all other tokens are the same. -/
theorem exists_of_rebalance? (h : rebalance? t g = some (e, f)) :
    let k := commonLength (skeleton (codePart t)) (skeleton (codePart g))
    (skeleton (codePart g)).any isCatalogued = true ∧
      ((lineBalance t = lineBalance g + 1 ∧ ∃ closer i,
        (skeleton (codePart g))[k]? = some closer ∧ closer.token = .closeBrace ∧
        bracePlace? (codePart t) (codePart g) (skeleton (codePart t)) (skeleton (codePart g)) k
          closer = some i ∧ e = .insert i ['}'] ∧ f = .insertedBrace ∧
        sameShape ((skeleton (codePart t)).drop k) ((skeleton (codePart g)).drop (k + 1)) = true) ∨
      lineBalance t = lineBalance g - 1 ∧ ∃ extra,
        (skeleton (codePart t))[k]? = some extra ∧ extra.token = .closeBrace ∧
        e = .delete extra.start extra.stop ∧ f = .removedBrace ∧
        sameShape ((skeleton (codePart t)).drop (k + 1)) ((skeleton (codePart g)).drop k) =
          true) := by
  unfold rebalance? at h
  dsimp only at h ⊢
  split at h
  · cases h
  · rename_i hcatalogued
    refine ⟨by simpa using hcatalogued, ?_⟩
    split at h
    · rename_i hexcess
      obtain ⟨closer, hcloser, h⟩ := Option.bind_eq_some_iff.1 h
      split at h
      · cases h
      · rename_i hclose
        split at h
        · cases h
        · rename_i hshape
          obtain ⟨i, hi, h⟩ := Option.bind_eq_some_iff.1 h
          obtain ⟨rfl, rfl⟩ := Prod.mk.inj (Option.some.inj h)
          exact .inl ⟨by unfold lineBalance; omega, closer, i, hcloser, not_not.1 hclose, hi, rfl,
            rfl, by simpa using hshape⟩
    · split at h
      · rename_i hexcess
        obtain ⟨extra, hextra, h⟩ := Option.bind_eq_some_iff.1 h
        split at h
        · cases h
        · rename_i hclose
          split at h
          · cases h
          · rename_i hshape
            obtain ⟨rfl, rfl⟩ := Prod.mk.inj (Option.some.inj h)
            exact .inr ⟨by unfold lineBalance; omega, extra, hextra, not_not.1 hclose, rfl, rfl,
              by simpa using hshape⟩
      · cases h

theorem of_rebalance? (h : rebalance? t g = some (e, f)) :
    (skeleton (codePart g)).any isCatalogued = true ∧
      (lineBalance t = lineBalance g + 1 ∧ (∃ i, e = .insert i ['}']) ∧ f = .insertedBrace ∨
        lineBalance t = lineBalance g - 1 ∧
          (∃ x ∈ skeleton (codePart t), x.token = .closeBrace ∧ e = .delete x.start x.stop) ∧
            f = .removedBrace) := by
  obtain ⟨hcatalogued, ⟨hbalance, closer, i, -, -, -, he, hf, -⟩ |
    ⟨hbalance, extra, hextra, hclose, he, hf, -⟩⟩ := exists_of_rebalance? h
  · exact ⟨hcatalogued, .inl ⟨hbalance, ⟨i, he⟩, hf⟩⟩
  · exact ⟨hcatalogued,
      .inr ⟨hbalance, ⟨extra, List.mem_of_getElem? hextra, hclose, he⟩, hf⟩⟩

theorem of_rule? (h : rule? t g = some (e, f)) :
    removeTerminator? t g = some (e, f) ∨ uncommentMarker? t g = some (e, f) ∨
      uncommentCommand? t g = some (e, f) ∨ restoreComment? t g = some (e, f) ∨
        rebalance? t g = some (e, f) := by
  unfold rule? at h
  simp only [Option.orElse_eq_orElse, Option.orElse_eq_or, Option.or_eq_some_iff] at h
  rcases h with h | ⟨-, h | ⟨-, h | ⟨-, h | ⟨-, h⟩⟩⟩⟩
  · exact .inl h
  · exact .inr (.inl h)
  · exact .inr (.inr (.inl h))
  · exact .inr (.inr (.inr (.inl h)))
  · exact .inr (.inr (.inr (.inr h)))

/-! ## Newlines -/

theorem exists_append_of_percentRun? {run : Text} (h : percentRun? t = some run) :
    ∃ r, t = run ++ r ∧ run.head? = some '%' := by
  unfold percentRun? at h
  have hsigns := takeWhile_append_drop (· = '%') t
  have hall : ∀ c ∈ t.takeWhile (· = '%'), c = '%' := fun c hc => by
    simpa using List.mem_takeWhile_imp hc
  generalize t.takeWhile (· = '%') = signs at h hsigns hall
  cases signs with
  | nil => cases h
  | cons c signs =>
    obtain rfl := Option.some.inj h
    refine ⟨(t.drop (c :: signs).length).dropWhile isSpaceOrTab, ?_, ?_⟩
    · rw [List.append_assoc, List.takeWhile_append_dropWhile, hsigns]
    · exact congrArg some (hall c (List.mem_cons_self ..))

theorem mem_of_mem_commentIntro? {line intro : Text} (h : commentIntro? line = some intro) :
    ∀ c ∈ intro, c ∈ line := by
  obtain ⟨run, hrun, rfl⟩ := Option.map_eq_some_iff.1 h
  obtain ⟨r, hr, -⟩ := exists_append_of_percentRun? hrun
  intro c hc
  rcases List.mem_append.1 hc with hc | hc
  · exact (List.takeWhile_sublist _).subset hc
  · have hmem : c ∈ Text.trimStart line := hr ▸ List.mem_append_left r hc
    exact (List.dropWhile_sublist _).subset hmem

/-- No rule puts a newline into a line. -/
theorem newline_not_mem_insertion (hg : '\n' ∉ g) (h : rule? t g = some (e, f)) :
    '\n' ∉ e.insertion := by
  rcases of_rule? h with h | h | h | h | h
  · obtain ⟨-, i, -, rfl, -⟩ := of_removeTerminator? h
    exact List.not_mem_nil
  · obtain ⟨hidden, -, -, rfl, -⟩ := of_uncommentMarker? h
    exact List.not_mem_nil
  · obtain ⟨-, -, name, intro, -, -, -, rfl, -⟩ := of_uncommentCommand? h
    exact List.not_mem_nil
  · obtain ⟨-, -, -, intro, hintro, -, rfl, -⟩ := of_restoreComment? h
    exact fun hmem => hg (mem_of_mem_commentIntro? hintro _ hmem)
  · rcases (of_rebalance? h).2 with ⟨-, ⟨i, rfl⟩, -⟩ | ⟨-, ⟨x, -, -, rfl⟩, -⟩
    · show '\n' ∉ ['}']
      decide
    · exact List.not_mem_nil

theorem newline_not_mem_apply (ht : '\n' ∉ t) (he : '\n' ∉ e.insertion) : '\n' ∉ e.apply t := by
  intro h
  rcases List.mem_append.1 h with h | h
  · rcases List.mem_append.1 h with h | h
    · exact ht (List.mem_of_mem_take h)
    · exact he h
  · exact ht (List.mem_of_mem_drop h)

theorem step?_eq_some {u : Text} (h : step? t g = some (u, f)) :
    u ≠ t ∧ ∃ e, rule? t g = some (e, f) ∧ e.apply t = u := by
  obtain ⟨⟨e, f'⟩, hrule, h⟩ := Option.bind_eq_some_iff.1 h
  dsimp only at h
  split at h
  · cases h
  · rename_i hne
    obtain ⟨rfl, rfl⟩ := Prod.mk.inj (Option.some.inj h)
    exact ⟨hne, e, hrule, rfl⟩

theorem newline_not_mem_step? {u : Text} (ht : '\n' ∉ t) (hg : '\n' ∉ g)
    (h : step? t g = some (u, f)) : '\n' ∉ u := by
  obtain ⟨-, e, hrule, rfl⟩ := step?_eq_some h
  exact newline_not_mem_apply ht (newline_not_mem_insertion hg hrule)

theorem newline_not_mem_rounds (n : Nat) (ht : '\n' ∉ t) (hg : '\n' ∉ g) :
    '\n' ∉ (rounds n t g).1 := by
  induction n generalizing t with
  | zero => exact ht
  | succ n ih =>
    rw [rounds]
    split
    · exact ht
    · rename_i u fix hstep
      exact ih (newline_not_mem_step? ht hg hstep)

/-! ## Rest -/

/-- A line is in step with its counterpart : it ends the document only where the
counterpart does, hides no marker that the counterpart has more often, is a comment exactly
when the counterpart is one unless it is blank, and has the same balance of braces. -/
structure InStep (t g : Text) : Prop where
  terminator : Text.contains terminator (codePart t) = true →
    Text.contains terminator (codePart g) = true
  hidden : ∀ h, hiddenMarker? t = some h → liveCount h.marker g ≤ liveCount h.marker t
  comment : isCommentLine t = isCommentLine g ∨ Text.isBlankText t = true
  balance : lineBalance t = lineBalance g

theorem isCommentLine_of_isBlankText (h : Text.isBlankText t = true) : isCommentLine t = false := by
  have hnil : Text.trimStart t = [] :=
    List.dropWhile_eq_nil_iff.2 fun c hc => List.all_eq_true.1 h c hc
  rw [isCommentLine, hnil]
  rfl

instance (t g : Text) : Decidable (InStep t g) :=
  decidable_of_iff
    ((Text.contains terminator (codePart t) = true → Text.contains terminator (codePart g) = true) ∧
      (∀ h ∈ hiddenMarker? t, liveCount h.marker g ≤ liveCount h.marker t) ∧
        (isCommentLine t = isCommentLine g ∨ Text.isBlankText t = true) ∧
          lineBalance t = lineBalance g)
    ⟨fun ⟨h₁, h₂, h₃, h₄⟩ => ⟨h₁, h₂, h₃, h₄⟩, fun ⟨h₁, h₂, h₃, h₄⟩ => ⟨h₁, h₂, h₃, h₄⟩⟩

theorem InStep.refl (t : Text) : InStep t t :=
  ⟨id, fun _ _ => Nat.le_refl _, .inl rfl, rfl⟩

/-- No rule applies to a line that is in step with its counterpart. -/
theorem InStep.rule?_eq_none (h : InStep t g) : rule? t g = none := by
  refine Option.eq_none_iff_forall_ne_some.2 fun ⟨e, f⟩ hrule => ?_
  rcases of_rule? hrule with hrule | hrule | hrule | hrule | hrule
  · obtain ⟨hg, i, hi, -⟩ := of_removeTerminator? hrule
    have := h.terminator (by rw [Text.contains, hi]; rfl)
    rw [hg] at this
    cases this
  · obtain ⟨hidden, hh, hlt, -⟩ := of_uncommentMarker? hrule
    exact absurd (h.hidden hidden hh) (Nat.not_le_of_lt hlt)
  · obtain ⟨hg, ht, name, intro, -, hintro, -⟩ := of_uncommentCommand? hrule
    rcases h.comment with hc | hblank
    · rw [hg, ht] at hc
      cases hc
    · rw [isCommentLine_of_isBlankText hblank] at ht
      cases ht
  · obtain ⟨hg, ht, hblank, -⟩ := of_restoreComment? hrule
    rcases h.comment with hc | hc
    · rw [hg, ht] at hc
      cases hc
    · rw [hblank] at hc
      cases hc
  · have := h.balance
    rcases (of_rebalance? hrule).2 with ⟨hb, -⟩ | ⟨hb, -⟩ <;> omega

theorem InStep.rounds_eq (h : InStep t g) (n : Nat) : rounds n t g = (t, []) := by
  have hstep : step? t g = none := by
    rw [step?, h.rule?_eq_none]
    rfl
  cases n with
  | zero => rfl
  | succ n => rw [rounds, hstep]

theorem InStep.repairLine_eq (h : InStep t g) : repairLine t g = (t, []) :=
  h.rounds_eq maxRounds

end LineRepair

end LatexRepair
