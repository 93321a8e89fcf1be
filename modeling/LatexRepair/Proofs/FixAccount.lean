import LatexRepair.Guided

/-!
# Every change is a fix

A guided repair lists what it did. A rule that lists nothing has changed nothing : so it is
for the rounds on a line (`LineRepair.rounds_of_fixes_nil`), for the documents that are
repaired line by line (`content_repairByLine_of_fixes_nil`,
`content_repairAnchored_of_fixes_nil`), for each rule on the structure
(`StructureRepair.Accounted`), so for a pass (`Strategy.content_apply_of_fixes_nil`), and so
for a whole repair (`content_repairGuided_of_fixes_nil`).
-/

namespace LatexRepair

namespace Text

theorem unlines_lines (t : Text) : unlines (lines t) = t :=
  List.intercalate_splitOn '\n'

end Text

/-! ## Lines -/

theorem LineRepair.rounds_of_fixes_nil {n : Nat} {t g : Text} (h : (rounds n t g).2 = []) :
    (rounds n t g).1 = t := by
  cases n with
  | zero => rfl
  | succ n =>
    rw [rounds] at h ⊢
    split
    · rfl
    · rename_i u fix hstep
      rw [hstep] at h
      cases h

namespace AlignedLines

theorem repairNumbered_eq (k : Nat) (t g : Text) :
    repairNumbered k t g = ((repairLine t g).1, (repairLine t g).2.map (.line k)) :=
  rfl

theorem repairNumbered_of_fixes_nil {k : Nat} {t g : Text} (h : (repairNumbered k t g).2 = []) :
    (repairNumbered k t g).1 = t := by
  rw [repairNumbered_eq, List.map_eq_nil_iff] at h
  exact LineRepair.rounds_of_fixes_nil h

theorem repairFrom_of_fixes_nil {k : Nat} {ts gs : List Text}
    (h : (repairFrom k ts gs).flatMap (·.2) = []) : (repairFrom k ts gs).map (·.1) = ts := by
  induction ts generalizing k gs with
  | nil => cases gs <;> rfl
  | cons t ts ih =>
    cases gs with
    | nil => simp [repairFrom, Function.comp_def]
    | cons g gs =>
      rw [repairFrom, List.flatMap_cons, List.append_eq_nil_iff] at h
      rw [repairFrom, List.map_cons, repairNumbered_of_fixes_nil h.1, ih h.2]

end AlignedLines

open AlignedLines

theorem AlignedLines.headCount_le (ts gs : List Text) : headCount ts gs ≤ ts.length := by
  unfold headCount
  induction ts generalizing gs with
  | nil => cases gs <;> simp [commonCount]
  | cons t ts ih =>
    cases gs with
    | nil => simp [commonCount]
    | cons g gs =>
      rw [commonCount]
      split
      · exact Nat.succ_le_succ (ih gs)
      · exact Nat.zero_le _

theorem content_repairByLine_of_fixes_nil {t o : Text} (h : (repairByLine t o).fixes = []) :
    (repairByLine t o).content = t := by
  unfold repairByLine at h ⊢
  dsimp only at h ⊢
  rw [repairFrom_of_fixes_nil h, Text.unlines_lines]

theorem content_repairAnchored_of_fixes_nil {t o : Text} (h : (repairAnchored t o).fixes = []) :
    (repairAnchored t o).content = t := by
  unfold repairAnchored at h ⊢
  dsimp only at h ⊢
  have hle : headCount (Text.lines t) (Text.lines o) ≤
      (Text.lines t).length - tailCount (Text.lines t) (Text.lines o) := by
    have := headCount_le (Text.lines t) (Text.lines o)
    dsimp only [tailCount]
    omega
  obtain ⟨hstart, hstop⟩ := List.append_eq_nil_iff.1 h
  rw [List.flatMap_eq_nil_iff] at hstop
  rw [repairFrom_of_fixes_nil hstart, repairFrom_of_fixes_nil (List.flatMap_eq_nil_iff.2
    fun x hx => hstop x (List.mem_reverse.2 hx)), ← List.take_add, Nat.add_sub_cancel' hle,
    List.take_append_drop, Text.unlines_lines]

/-! ## Structure -/

namespace StructureRepair

/-- The rule changes nothing unless it lists a fix. -/
def Accounted (rule : List Text → List Text → Step) : Prop :=
  ∀ ts gs, (rule ts gs).2 = [] → (rule ts gs).1 = ts

theorem removeTerminators_of_fixes_nil {keep k : Nat} {ts : List Text}
    (h : (removeTerminators keep k ts).2 = []) : (removeTerminators keep k ts).1 = ts := by
  induction ts generalizing keep k with
  | nil => rfl
  | cons line rest ih =>
    simp only [removeTerminators] at h ⊢
    split
    · rename_i hsurplus
      rw [if_pos hsurplus] at h
      rw [ih h]
    · rename_i hsurplus
      rw [if_neg hsurplus, List.append_eq_nil_iff, List.map_eq_nil_iff] at h
      exact absurd (List.isEmpty_iff.2 h.1) hsurplus

theorem accounted_dropTerminators : Accounted dropTerminators := by
  intro ts gs h
  unfold dropTerminators at h ⊢
  dsimp only at h ⊢
  split
  · rename_i hkeep
    rw [if_pos hkeep] at h
    exact removeTerminators_of_fixes_nil h
  · rfl

theorem accounted_restoreHidden : Accounted restoreHidden := by
  intro ts gs h
  unfold restoreHidden at h ⊢
  dsimp only at h ⊢
  rw [List.map_eq_nil_iff] at h
  rw [h]
  exact List.ext_getElem (by simp) (by simp)

theorem accounted_restoreEnds : Accounted restoreEnds := by
  intro ts gs h
  simp only [restoreEnds, List.mapIdx_eq_nil_iff] at h ⊢
  rw [h, List.map_nil, List.append_nil, List.take_append_drop]

theorem accounted_restoreClosers : Accounted restoreClosers := by
  intro ts gs h
  unfold restoreClosers at h ⊢
  dsimp only at h ⊢
  rw [List.map_eq_nil_iff] at h
  rw [h]
  rfl

theorem closeInLine_of_count_zero {budget : Nat} {line : Text}
    (h : (closeInLine budget line).2 = 0) : (closeInLine budget line).1 = line := by
  cases budget with
  | zero => rfl
  | succ budget =>
    rw [closeInLine] at h ⊢
    split
    · rfl
    · rename_i i hi
      rw [hi] at h
      cases h

theorem closeInLines_of_fixes_nil {budget k : Nat} {ts : List Text}
    (h : (closeInLines budget k ts).2 = []) : (closeInLines budget k ts).1 = ts := by
  induction ts generalizing budget k with
  | nil => rfl
  | cons line rest ih =>
    simp only [closeInLines, List.append_eq_nil_iff, List.replicate_eq_nil_iff] at h ⊢
    rw [closeInLine_of_count_zero h.1, ih h.2]

theorem accounted_closeStyles : Accounted closeStyles :=
  fun _ _ h => closeInLines_of_fixes_nil h

theorem accounted_lineRules : ∀ rule ∈ lineRules, Accounted rule := by
  simp [lineRules, accounted_dropTerminators, accounted_restoreHidden, accounted_restoreEnds,
    accounted_restoreClosers, accounted_closeStyles]

theorem andThen_eq (rule : List Text → List Text → Step) (gs : List Text) (s : Step) :
    andThen rule gs s = ((rule s.1 gs).1, s.2 ++ (rule s.1 gs).2) :=
  rfl

/-- One accounted rule after another. -/
theorem foldl_andThen_of_fixes_nil {rules : List (List Text → List Text → Step)}
    (hrules : ∀ rule ∈ rules, Accounted rule) {gs : List Text} {s : Step}
    (h : (rules.foldl (fun s rule => andThen rule gs s) s).2 = []) :
    s.2 = [] ∧ (rules.foldl (fun s rule => andThen rule gs s) s).1 = s.1 := by
  induction rules generalizing s with
  | nil => exact ⟨h, rfl⟩
  | cons rule rules ih =>
    obtain ⟨hfixes, hlines⟩ := ih (fun r hr => hrules r (List.mem_cons_of_mem _ hr)) h
    dsimp only at hfixes hlines
    rw [andThen_eq, List.append_eq_nil_iff] at hfixes
    refine ⟨hfixes.1, ?_⟩
    rw [List.foldl_cons, hlines]
    exact hrules rule (List.mem_cons_self ..) _ _ hfixes.2

end StructureRepair

open StructureRepair

theorem content_repairStructure_of_fixes_nil {t o : Text} (h : (repairStructure t o).fixes = []) :
    (repairStructure t o).content = t := by
  unfold repairStructure at h ⊢
  dsimp only at h ⊢
  split
  · rename_i htrim
    rw [htrim] at h
    simp at h
  · rename_i htrim
    rw [htrim] at h
    obtain ⟨-, hlines⟩ := foldl_andThen_of_fixes_nil accounted_lineRules h
    rw [hlines, Text.unlines_lines]

/-- A pass that lists no fix has changed nothing. -/
theorem Strategy.content_apply_of_fixes_nil {s : Strategy} {t o : Text}
    (h : (s.apply t o).fixes = []) : (s.apply t o).content = t := by
  cases s with
  | lineAligned => exact content_repairByLine_of_fixes_nil h
  | structural =>
    unfold apply at h ⊢
    dsimp only at h ⊢
    rw [List.append_eq_nil_iff] at h
    rw [content_repairStructure_of_fixes_nil h.1] at h ⊢
    split
    · rename_i hs
      rw [hs] at h
      exact content_repairByLine_of_fixes_nil h.2
    · rename_i hs
      rw [hs] at h
      exact content_repairAnchored_of_fixes_nil h.2

theorem Guided.content_passes_of_fixes_nil {n : Nat} {t o : Text} (h : (passes n t o).fixes = []) :
    (passes n t o).content = t := by
  cases n with
  | zero => rfl
  | succ n =>
    rw [passes] at h ⊢
    split
    · rfl
    · rename_i r hpass
      rw [hpass] at h
      obtain ⟨hne, hr⟩ : ((Strategy.select t o).apply t o).content ≠ t ∧
          (Strategy.select t o).apply t o = r := by simpa [pass?] using hpass
      rw [← hr] at h
      exact absurd (Strategy.content_apply_of_fixes_nil (List.append_eq_nil_iff.1 h).1) hne

/-- A repair that lists no fix has changed nothing. -/
theorem content_repairGuided_of_fixes_nil {t o : Text} (h : (repairGuided t o).fixes = []) :
    (repairGuided t o).content = t := by
  unfold repairGuided at h ⊢
  split
  · rfl
  · rename_i hblank
    rw [if_neg hblank] at h
    exact Guided.content_passes_of_fixes_nil h

end LatexRepair
