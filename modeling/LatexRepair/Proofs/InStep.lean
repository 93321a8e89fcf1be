import LatexRepair.Proofs.AlignedPass

/-!
# Renditions in step with their guide

A rendition is in step with its guide when none of its markup has moved to another line
(`Guided.InStep`). With as many physical lines as the guide, each line is to be in step
with the line of the same number; otherwise the markers and braces of the two documents
are compared as a whole (`StructureRepair.InStep`), and the lines that their signatures
pair at the start and at the end.

A guided repair finds nothing to do for a rendition in step : `repairGuided_of_inStep`. The
rules are followed one by one to where they list no fix, and what lists no fix changes
nothing.
-/

namespace LatexRepair

/-! ## Lines -/

namespace AlignedLines

/-- Lines of the same place are in step. -/
def InStep (ts gs : List Text) : Prop :=
  ∀ x ∈ ts.zip gs, LineRepair.InStep x.1 x.2

instance (ts gs : List Text) : Decidable (InStep ts gs) :=
  inferInstanceAs (Decidable (∀ x ∈ ts.zip gs, LineRepair.InStep x.1 x.2))

theorem InStep.fixes_repairFrom {ts gs : List Text} (h : InStep ts gs) (k : Nat) :
    ∀ x ∈ repairFrom k ts gs, x.2 = [] := by
  induction ts generalizing k gs with
  | nil => cases gs <;> simp [repairFrom]
  | cons t ts ih =>
    cases gs with
    | nil => simp [repairFrom]
    | cons g gs =>
      have htail : InStep ts gs := fun x hx => h x (List.mem_cons_of_mem _ hx)
      have hhead : LineRepair.InStep t g := h (t, g) (List.mem_cons_self ..)
      rw [repairFrom, List.forall_mem_cons]
      exact ⟨by rw [repairNumbered_eq, hhead.repairLine_eq]; rfl, ih htail (k + 1)⟩

end AlignedLines

open AlignedLines

/-! ## Markers -/

namespace Occurrences

theorem liveCount_ofLine (m : Marker) (i : Nat) (line : Text) :
    liveCount m (Occurrence.ofLine i line) = LineRepair.liveCount m line := by
  unfold liveCount liveOf of LineRepair.liveCount liveMarkers Occurrence.ofLine
  rw [List.filter_filter, ← List.countP_eq_length_filter, List.countP_map, List.countP_filter]
  refine List.countP_congr fun x _ => ?_
  simp only [Function.comp_apply, Bool.and_eq_true, decide_eq_true_eq]
  rw [Occurrence.isLive_iff rfl]
  exact And.comm

theorem liveCount_append (m : Marker) (xs ys : List Occurrence) :
    liveCount m (xs ++ ys) = liveCount m xs + liveCount m ys := by
  simp [liveCount, liveOf, of]

/-- The live copies of a marker in a document are those in its lines. -/
theorem liveCount_ofLines (m : Marker) (ls : List Text) :
    liveCount m (Occurrence.ofLines ls) = (ls.flatMap liveMarkers).countP (·.marker = m) := by
  have h : ∀ f : Nat → Nat,
      liveCount m (ls.mapIdx fun i line => Occurrence.ofLine (f i) line).flatten =
        (ls.flatMap liveMarkers).countP (·.marker = m) := by
    induction ls with
    | nil => intro f; rfl
    | cons line ls ih =>
      intro f
      rw [List.mapIdx_cons, List.flatten_cons, liveCount_append, liveCount_ofLine, ih,
        List.flatMap_cons, List.countP_append, LineRepair.liveCount]
  exact h id

end Occurrences

theorem Occurrence.state_of_mem_ofLines {ls : List Text}
    (h : ∀ line ∈ ls, hiddenMarker? line = none) :
    ∀ x ∈ ofLines ls, x.state ≠ .restorable := by
  intro x hx hstate
  obtain ⟨line, hline, hx⟩ := mem_ofLines hx
  obtain ⟨m, -, hx⟩ := List.mem_map.1 hx
  have hrestorable := (restorable_iff (congrArg state hx).symm).1 hstate
  rw [h line (List.mem_of_getElem? hline)] at hrestorable
  cases hrestorable.2

/-! ## Structure -/

namespace StructureRepair

/-- The markup of a rendition and of its guide, as a whole : the rendition ends the document
no more often, hides no marker, leaves no environment open, has its tables in braces where
the guide has them, and has neither more open braces nor clearly more braces at its end. -/
structure InStep (t o : Text) : Prop where
  terminators : Occurrences.liveCount .endDocument (Occurrence.ofLines (Text.lines o)) ≤ 1 →
    Occurrences.liveCount .endDocument (Occurrence.ofLines (Text.lines t)) ≤
      Occurrences.liveCount .endDocument (Occurrence.ofLines (Text.lines o))
  hidden : ∀ line ∈ Text.lines t, hiddenMarker? line = none
  ends : ∀ name,
    Occurrences.liveCount ⟨.opening, name⟩ (Occurrence.ofLines (Text.lines t)) ≤
      Occurrences.liveCount ⟨.closing, name⟩ (Occurrence.ofLines (Text.lines t))
  closers : ∀ m : Marker, Catalog.mem m.name Catalog.tabularEnvironments = true →
    ∀ x ∈ (Occurrences.liveOf m (Occurrence.ofLines (Text.lines t))).zip
        (Occurrences.liveOf m (Occurrence.ofLines (Text.lines o))),
      closedBehind (Text.lines o) x.2 = true → closedBehind (Text.lines t) x.1 = true
  balance : documentBalance (Text.lines t) ≤ documentBalance (Text.lines o)
  trailing : trailingBraces t ≤ trailingBraces o + slack

theorem fixes_removeTerminators {keep : Nat} {ts : List Text} (k : Nat)
    (h : (ts.flatMap liveMarkers).countP (·.marker = .endDocument) ≤ keep) :
    (removeTerminators keep k ts).2 = [] := by
  induction ts generalizing keep k with
  | nil => rfl
  | cons line rest ih =>
    rw [List.flatMap_cons, List.countP_append] at h
    have hlive : ((liveMarkers line).filter (·.marker = .endDocument)).length =
        (liveMarkers line).countP (·.marker = .endDocument) := by
      rw [List.countP_eq_length_filter]
    have hdrop : ((liveMarkers line).filter (·.marker = .endDocument)).drop keep = [] :=
      List.drop_eq_nil_of_le (by omega)
    simp only [removeTerminators, hdrop, List.isEmpty_nil, ↓reduceIte]
    exact ih (k + 1) (by omega)

namespace InStep

variable {t o : Text} (h : InStep t o)
include h

theorem fixes_dropTerminators : (dropTerminators (Text.lines t) (Text.lines o)).2 = [] := by
  unfold dropTerminators
  dsimp only
  split
  · rename_i hkeep
    refine fixes_removeTerminators 1 ?_
    rw [← Occurrences.liveCount_ofLines]
    exact h.terminators hkeep
  · rfl

theorem fixes_restoreHidden : (restoreHidden (Text.lines t) (Text.lines o)).2 = [] := by
  have hnone : ∀ m, restorableOf (Occurrence.ofLines (Text.lines t))
      (Occurrence.ofLines (Text.lines o)) m = [] := fun m => by
    unfold restorableOf
    dsimp only
    split
    · refine List.map_eq_nil_iff.2 (List.filter_eq_nil_iff.2 fun x hx => ?_)
      have hmem := (List.mem_filter.1 (List.of_mem_zip hx).1).1
      simp [Occurrence.state_of_mem_ofLines h.hidden x.1 hmem]
    · rfl
  have htargets : (Occurrences.distinctMarkers (Occurrence.ofLines (Text.lines t))).flatMap
      (restorableOf (Occurrence.ofLines (Text.lines t)) (Occurrence.ofLines (Text.lines o))) =
        [] := List.flatMap_eq_nil_iff.2 fun m _ => hnone m
  simp only [restoreHidden, htargets, List.mergeSort_nil, List.map_nil]

theorem fixes_restoreEnds : (restoreEnds (Text.lines t) (Text.lines o)).2 = [] := by
  have hnone : missingEnds (Occurrence.ofLines (Text.lines t))
      (Occurrence.ofLines (Text.lines o)) = [] := by
    refine List.flatMap_eq_nil_iff.2 fun m hm => ?_
    obtain ⟨kind, name⟩ := m
    obtain rfl : kind = .closing := by simpa using (List.mem_filter.1 hm).2
    have hzero : missingCount (Occurrence.ofLines (Text.lines t))
        (Occurrence.ofLines (Text.lines o)) ⟨.closing, name⟩ = 0 :=
      if_pos (by simpa using .inr (h.ends name))
    rw [hzero, List.replicate_zero]
  simp only [restoreEnds, hnone]
  split <;> rfl

theorem fixes_restoreClosers : (restoreClosers (Text.lines t) (Text.lines o)).2 = [] := by
  have htargets : ((Occurrences.distinctMarkers (Occurrence.ofLines (Text.lines t))).filter fun m =>
      m.kind = .closing && Catalog.mem m.name Catalog.tabularEnvironments).flatMap
        (unclosedOf (Text.lines t) (Text.lines o)) = [] := by
    refine List.flatMap_eq_nil_iff.2 fun m hm => ?_
    have hname := (Bool.and_eq_true _ _ ▸ (List.mem_filter.1 hm).2).2
    unfold unclosedOf
    dsimp only
    split
    · refine List.map_eq_nil_iff.2 (List.filter_eq_nil_iff.2 fun x hx => ?_)
      have := h.closers m hname x hx
      simpa using this
    · rfl
  simp only [restoreClosers, htargets, List.mergeSort_nil, List.map_nil]

theorem fixes_closeStyles : (closeStyles (Text.lines t) (Text.lines o)).2 = [] := by
  have hzero : ∀ (ts : List Text) (k : Nat), (closeInLines 0 k ts).2 = [] := fun ts => by
    induction ts with
    | nil => intro k; rfl
    | cons line rest ih => intro k; simp [closeInLines, closeInLine, ih]
  have hbudget : (documentBalance (Text.lines t) - documentBalance (Text.lines o)).toNat = 0 := by
    have := h.balance
    omega
  rw [closeStyles, hbudget]
  exact hzero _ 1

theorem lineRules_eq : ∀ rule ∈ lineRules,
    rule (Text.lines t) (Text.lines o) = (Text.lines t, []) := by
  have hquiet : ∀ rule, Accounted rule → (rule (Text.lines t) (Text.lines o)).2 = [] →
      rule (Text.lines t) (Text.lines o) = (Text.lines t, []) := fun rule hrule hnil =>
    Prod.ext (hrule _ _ hnil) hnil
  simp [lineRules, hquiet _ accounted_dropTerminators h.fixes_dropTerminators,
    hquiet _ accounted_restoreHidden h.fixes_restoreHidden,
    hquiet _ accounted_restoreEnds h.fixes_restoreEnds,
    hquiet _ accounted_restoreClosers h.fixes_restoreClosers,
    hquiet _ accounted_closeStyles h.fixes_closeStyles]

/-- No rule on the structure applies. -/
theorem repairStructure_eq : repairStructure t o = ⟨t, []⟩ := by
  have hfold : ∀ rules : List (List Text → List Text → Step),
      (∀ rule ∈ rules, rule (Text.lines t) (Text.lines o) = (Text.lines t, [])) →
        rules.foldl (fun s rule => andThen rule (Text.lines o) s) (Text.lines t, []) =
          (Text.lines t, []) := fun rules => by
    induction rules with
    | nil => intro _; rfl
    | cons rule rules ih =>
      intro hrules
      rw [List.forall_mem_cons] at hrules
      rw [List.foldl_cons, andThen_eq, hrules.1]
      exact ih hrules.2
  have htrim : trimBraces? t o = none := if_pos h.trailing
  unfold repairStructure
  dsimp only
  rw [hfold _ h.lineRules_eq, Text.unlines_lines, htrim]

end InStep

end StructureRepair

/-! ## Documents -/

/-- The lines that the signatures pair at the two ends are in step. -/
def AlignedLines.AnchorsInStep (ts gs : List Text) : Prop :=
  InStep (ts.take (headCount ts gs)) (gs.take (headCount ts gs)) ∧
    InStep (ts.drop (ts.length - tailCount ts gs)) (gs.drop (gs.length - tailCount ts gs))

/-- The rendition is in step with its guide. -/
def Guided.InStep (t o : Text) : Prop :=
  match Strategy.select t o with
  | .lineAligned => AlignedLines.InStep (Text.lines t) (Text.lines o)
  | .structural => StructureRepair.InStep t o ∧
      AlignedLines.AnchorsInStep (Text.lines t) (Text.lines o)

theorem fixes_repairByLine_of_inStep {t o : Text}
    (h : AlignedLines.InStep (Text.lines t) (Text.lines o)) : (repairByLine t o).fixes = [] :=
  List.flatMap_eq_nil_iff.2 (h.fixes_repairFrom 1)

theorem fixes_repairAnchored_of_inStep {t o : Text}
    (h : AlignedLines.AnchorsInStep (Text.lines t) (Text.lines o)) :
    (repairAnchored t o).fixes = [] := by
  unfold repairAnchored
  dsimp only
  rw [List.append_eq_nil_iff, List.flatMap_eq_nil_iff, List.flatMap_eq_nil_iff]
  exact ⟨h.1.fixes_repairFrom _, fun x hx => h.2.fixes_repairFrom _ x (List.mem_reverse.1 hx)⟩

/-- A pass finds nothing to do for a rendition in step. -/
theorem Guided.pass?_of_inStep {t o : Text} (h : InStep t o) : pass? t o = none := by
  have hfixes : ((Strategy.select t o).apply t o).fixes = [] := by
    unfold InStep at h
    split at h
    · rename_i hs
      rw [hs]
      exact fixes_repairByLine_of_inStep h
    · rename_i hs
      rw [hs, Strategy.apply]
      dsimp only
      rw [h.1.repairStructure_eq, hs]
      exact fixes_repairAnchored_of_inStep h.2
  exact if_pos (Strategy.content_apply_of_fixes_nil hfixes)

theorem Guided.passes_of_inStep {t o : Text} (h : InStep t o) (n : Nat) :
    passes n t o = ⟨t, []⟩ := by
  cases n with
  | zero => rfl
  | succ n => rw [passes, pass?_of_inStep h]

/-- A guided repair leaves a rendition in step as it is. -/
theorem repairGuided_of_inStep {t o : Text} (h : Guided.InStep t o) :
    repairGuided t o = ⟨t, []⟩ := by
  rw [repairGuided, Guided.passes_of_inStep h, ite_self]

end LatexRepair
