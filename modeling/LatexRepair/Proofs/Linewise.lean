import LatexRepair.Proofs.AlignedPass
import Mathlib.Data.List.Forall2

/-!
# Rules that work line by line

Some rules change each line of a rendition on its own : hidden markers are brought back and
styles closed in a line, and a line is repaired beside its counterpart. What such a rule
does to every line relates the lines before it to the lines after it, one to one
(`List.Forall₂`). Lines that are paired at the two ends of a document have the same
signature (`AlignedLines.lines_repairAnchored`).
-/

namespace LatexRepair

variable {R : Text → Text → Prop}

namespace StructureRepair

theorem lines_restoreHidden (hrefl : ∀ t, R t t)
    (huncomment : ∀ t, R t (uncomment t)) (ts gs : List Text) :
    List.Forall₂ R ts (restoreHidden ts gs).1 := by
  refine List.forall₂_iff_get.2 ⟨by simp [restoreHidden], fun i h₁ h₂ => ?_⟩
  simp only [restoreHidden, List.get_eq_getElem, List.getElem_mapIdx]
  split
  · exact huncomment _
  · exact hrefl _

theorem lines_modify (hrefl : ∀ t, R t t) {f : Text → Text}
    (i : Nat) (ts : List Text) (hf : ∀ t, ts[i]? = some t → R t (f t)) :
    List.Forall₂ R ts (ts.modify i f) := by
  refine List.forall₂_iff_get.2 ⟨by simp, fun j h₁ h₂ => ?_⟩
  simp only [List.get_eq_getElem, List.getElem_modify]
  split
  · rename_i hij
    exact hf _ (by rw [hij, List.getElem?_eq_getElem h₁])
  · exact hrefl _

theorem lines_closeInLines (hclose : ∀ budget t, R t (closeInLine budget t).1)
    (budget number : Nat) (ts : List Text) :
    List.Forall₂ R ts (closeInLines budget number ts).1 := by
  induction ts generalizing budget number with
  | nil => exact .nil
  | cons line rest ih => exact .cons (hclose budget line) (ih _ _)

end StructureRepair

namespace AlignedLines

/-- Lines that are repaired one by one, each as its counterpart allows. -/
theorem lines_mapAligned (hrefl : ∀ t, R t t)
    {f : Text → Text → Text} {ts gs : List Text} (hf : ∀ x ∈ ts.zip gs, R x.1 (f x.1 x.2)) :
    List.Forall₂ R ts (mapAligned f ts gs) := by
  induction ts generalizing gs with
  | nil => cases gs <;> exact .nil
  | cons t ts ih =>
    cases gs with
    | nil => exact List.forall₂_same.2 fun t _ => hrefl t
    | cons g gs =>
      rw [List.zip_cons_cons, List.forall_mem_cons] at hf
      exact .cons hf.1 (ih hf.2)

/-- Lines up to the first ones whose signatures differ have the same signatures. -/
theorem agree_of_mem_zip_take {n : Nat} {ts gs : List Text} {x : Text × Text}
    (hn : n ≤ commonCount ts gs) (h : x ∈ (ts.take n).zip (gs.take n)) :
    agree x.1 x.2 = true := by
  induction ts generalizing n gs with
  | nil => simp at h
  | cons t ts ih =>
    cases gs with
    | nil => simp at h
    | cons g gs =>
      cases n with
      | zero => simp at h
      | succ n =>
        rw [commonCount] at hn
        split at hn
        · rename_i hagree
          rw [List.take_succ_cons, List.take_succ_cons, List.zip_cons_cons, List.mem_cons] at h
          rcases h with rfl | h
          · exact hagree
          · exact ih (Nat.le_of_succ_le_succ hn) h
        · exact absurd hn (Nat.not_succ_le_zero n)

/-- So do the lines from the end up. -/
theorem agree_of_mem_zip_drop {n : Nat} {ts gs : List Text} {x : Text × Text}
    (hn : n ≤ commonCount ts.reverse gs.reverse) (hts : n ≤ ts.length) (hgs : n ≤ gs.length)
    (h : x ∈ (ts.drop (ts.length - n)).zip (gs.drop (gs.length - n))) :
    agree x.1 x.2 = true := by
  have hlength : ∀ ls : List Text, n ≤ ls.length → (ls.reverse.take n).length = n := by
    intro ls hls
    rw [List.length_take, List.length_reverse, Nat.min_eq_left hls]
  refine agree_of_mem_zip_take hn ?_
  rw [← List.mem_reverse, List.zip, List.reverse_zipWith (by rw [hlength ts hts, hlength gs hgs]),
    List.reverse_take, List.reverse_take, List.reverse_reverse, List.reverse_reverse,
    List.length_reverse, List.length_reverse]
  exact h

/-- No line at the end is paired that has none to pair with, or is paired at the start. -/
theorem tailCount_le (ts gs : List Text) :
    tailCount ts gs ≤ commonCount ts.reverse gs.reverse ∧ tailCount ts gs ≤ gs.length ∧
      headCount ts gs + tailCount ts gs ≤ ts.length := by
  have := headCount_le ts gs
  unfold tailCount
  dsimp only
  omega

/-- The lines of a document that is repaired at its two ends : those at the start, those in
the middle, which stay, and those at the end. -/
theorem lines_repairAnchored (hrefl : ∀ t, R t t) (t o : Text)
    (hR : ∀ l, ∀ g ∈ Text.lines o, agree l g = true → R l (lineStep g l)) :
    ∃ us, List.Forall₂ R (Text.lines t) us ∧ (repairAnchored t o).content = Text.unlines us := by
  unfold repairAnchored
  dsimp only
  generalize Text.lines t = ts
  generalize Text.lines o = gs at hR
  obtain ⟨hcommon, hgs, hts⟩ := tailCount_le ts gs
  have hhead : headCount ts gs ≤ commonCount ts gs := Nat.le_refl _
  generalize headCount ts gs = head at hts hhead
  generalize tailCount ts gs = tail at hcommon hgs hts
  have hstart := lines_mapAligned (R := R) hrefl (f := fun l g => lineStep g l)
    fun x (hx : x ∈ (ts.take head).zip (gs.take head)) =>
      hR x.1 x.2 (List.mem_of_mem_take (List.of_mem_zip hx).2) (agree_of_mem_zip_take hhead hx)
  have hmiddle : List.Forall₂ R ((ts.drop head).take (ts.length - tail - head))
      ((ts.drop head).take (ts.length - tail - head)) := List.forall₂_same.2 fun l _ => hrefl l
  have hstop := lines_mapAligned (R := R) hrefl (f := fun l g => lineStep g l)
    fun x (hx : x ∈ (ts.drop (ts.length - tail)).zip (gs.drop (gs.length - tail))) =>
      hR x.1 x.2 (List.mem_of_mem_drop (List.of_mem_zip hx).2)
        (agree_of_mem_zip_drop hcommon (by omega) hgs hx)
  have hlines := List.rel_append (List.rel_append hstart hmiddle) hstop
  dsimp only at hlines
  rw [← List.take_add, Nat.add_sub_cancel' (by omega), List.take_append_drop] at hlines
  rw [map_fst_repairFrom, map_fst_repairFrom]
  exact ⟨_, hlines, rfl⟩

end AlignedLines

end LatexRepair
