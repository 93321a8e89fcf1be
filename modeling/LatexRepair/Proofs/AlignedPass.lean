import LatexRepair.Proofs.FixAccount
import LatexRepair.Proofs.LineRules
import Mathlib.Logic.Function.Iterate

/-!
# Passes over aligned lines

A rendition that ends in a newline and has as many physical lines as its guide stays so :
no rule for lines puts a newline into a line (`LineRepair.newline_not_mem_insertion`), and
an empty line stays empty. So every pass repairs it line by line, and each of its lines
sees nothing but its own counterpart (`lines_repairByLine`).
-/

namespace LatexRepair

namespace Text

theorem newline_not_mem_of_mem_lines {t l : Text} (h : l ∈ lines t) : '\n' ∉ l := by
  induction t generalizing l with
  | nil =>
    obtain rfl : l = [] := by simpa [lines] using h
    simp
  | cons c t ih =>
    rw [lines, List.splitOn_cons_eq_if_modifyHead] at h
    split at h
    · rcases List.mem_cons.1 h with rfl | h
      · simp
      · exact ih h
    · rename_i hc
      obtain ⟨l', ls, hls⟩ := List.exists_cons_of_ne_nil (List.splitOn_ne_nil '\n' t)
      rw [hls, List.modifyHead_cons] at h
      have hmem : ∀ k ∈ l' :: ls, '\n' ∉ k := fun k hk => ih (by rwa [lines, hls])
      rcases List.mem_cons.1 h with rfl | h
      · have hc : c ≠ '\n' := by simpa using hc
        simp [hc.symm, hmem l' (List.mem_cons_self ..)]
      · exact hmem l (List.mem_cons_of_mem _ h)

theorem mem_of_mem_lines {c : Char} {line t : Text} (hline : line ∈ lines t) (hc : c ∈ line) :
    c ∈ t := by
  obtain ⟨i, hi⟩ := List.mem_iff_getElem?.1 hline
  have hmem : line ∈ (lines t).intersperse ['\n'] :=
    List.mem_iff_getElem?.2 ⟨2 * i, by rw [List.getElem?_intersperse_two_mul, hi]⟩
  rw [← unlines_lines t]
  exact List.mem_flatten.2 ⟨line, hmem, hc⟩

theorem lines_unlines {ls : List Text} (hne : ls ≠ []) (h : ∀ l ∈ ls, '\n' ∉ l) :
    lines (unlines ls) = ls :=
  List.splitOn_intercalate '\n' h hne

theorem lines_ne_nil (t : Text) : lines t ≠ [] :=
  List.splitOn_ne_nil '\n' t

end Text

namespace AlignedLines

/-- Change every line that has a counterpart by its counterpart. -/
def mapAligned (f : Text → Text → Text) : List Text → List Text → List Text
  | t :: ts, g :: gs => f t g :: mapAligned f ts gs
  | ts, [] => ts
  | [], _ => []

theorem map_fst_repairFrom (k : Nat) (ts gs : List Text) :
    (repairFrom k ts gs).map (·.1) = mapAligned (fun t g => (repairLine t g).1) ts gs := by
  induction ts generalizing k gs with
  | nil => cases gs <;> rfl
  | cons t ts ih =>
    cases gs with
    | nil => simp [repairFrom, mapAligned, Function.comp_def]
    | cons g gs =>
      rw [repairFrom, mapAligned, List.map_cons, ih, repairNumbered_eq]

theorem mapAligned_eq_iff {f h : Text → Text → Text} {ts gs : List Text} :
    mapAligned f ts gs = mapAligned h ts gs ↔ ∀ x ∈ ts.zip gs, f x.1 x.2 = h x.1 x.2 := by
  induction ts generalizing gs with
  | nil => cases gs <;> simp [mapAligned]
  | cons t ts ih => cases gs <;> simp [mapAligned, ih]

theorem mapAligned_fst (ts gs : List Text) : mapAligned (fun t _ => t) ts gs = ts := by
  induction ts generalizing gs with
  | nil => cases gs <;> rfl
  | cons t ts ih => cases gs <;> simp [mapAligned, ih]

theorem mapAligned_mapAligned (f h : Text → Text → Text) (ts gs : List Text) :
    mapAligned f (mapAligned h ts gs) gs = mapAligned (fun t g => f (h t g) g) ts gs := by
  induction ts generalizing gs with
  | nil => cases gs <;> rfl
  | cons t ts ih => cases gs <;> simp [mapAligned, ih]

theorem mapAligned_append {f : Text → Text → Text} {ts gs us hs : List Text}
    (h : ts.length = gs.length) :
    mapAligned f (ts ++ us) (gs ++ hs) = mapAligned f ts gs ++ mapAligned f us hs := by
  induction ts generalizing gs with
  | nil =>
    obtain rfl := List.eq_nil_of_length_eq_zero h.symm
    rfl
  | cons t ts ih =>
    cases gs with
    | nil => cases h
    | cons g gs => simp [mapAligned, ih (Nat.succ.inj h)]

theorem length_mapAligned (f : Text → Text → Text) (ts gs : List Text) :
    (mapAligned f ts gs).length = ts.length := by
  induction ts generalizing gs with
  | nil => cases gs <;> rfl
  | cons t ts ih => cases gs <;> simp [mapAligned, ih]

theorem forall_mem_mapAligned {P : Text → Prop} {f : Text → Text → Text} {ts gs : List Text}
    (hf : ∀ x ∈ ts.zip gs, P (f x.1 x.2)) (hrest : ∀ t ∈ ts.drop gs.length, P t) :
    ∀ u ∈ mapAligned f ts gs, P u := by
  induction ts generalizing gs with
  | nil => cases gs <;> exact nofun
  | cons t ts ih =>
    cases gs with
    | nil => exact hrest
    | cons g gs =>
      rw [List.zip_cons_cons, List.forall_mem_cons] at hf
      exact List.forall_mem_cons.2 ⟨hf.1, ih hf.2 hrest⟩

end AlignedLines

open AlignedLines

/-! ## Passes -/

/-- What a repair makes of a line beside its counterpart. -/
def lineStep (g t : Text) : Text :=
  (repairLine t g).1

/-- A repair line by line changes each line beside its counterpart. -/
theorem lines_repairByLine (t o : Text) :
    Text.lines (repairByLine t o).content =
      mapAligned (fun t g => lineStep g t) (Text.lines t) (Text.lines o) := by
  unfold repairByLine
  dsimp only
  rw [map_fst_repairFrom]
  refine Text.lines_unlines ?_ ?_
  · rw [← List.length_pos_iff, length_mapAligned, List.length_pos_iff]
    exact Text.lines_ne_nil t
  · exact forall_mem_mapAligned (fun x hx => LineRepair.newline_not_mem_rounds _
      (Text.newline_not_mem_of_mem_lines (List.of_mem_zip hx).1)
      (Text.newline_not_mem_of_mem_lines (List.of_mem_zip hx).2)) fun l hl =>
        Text.newline_not_mem_of_mem_lines (List.mem_of_mem_drop hl)

namespace Text

theorem lineCount_of_lines {t : Text} {ts : List Text} (h : lines t = ts ++ [[]]) :
    lineCount t = ts.length := by
  simp [lineCount, physicalLines, h]

/-- The pieces of a text are its physical lines, but for an empty one behind a final
newline. -/
theorem exists_lines_eq_append (t : Text) :
    ∃ ts rest, lines t = ts ++ rest ∧ ts.length = lineCount t ∧ (rest = [] ∨ rest = [[]]) := by
  rcases List.eq_nil_or_concat (lines t) with h | ⟨ts, last, h⟩
  · exact absurd h (lines_ne_nil t)
  · rw [List.concat_eq_append] at h
    cases last with
    | nil => exact ⟨ts, [[]], h, (lineCount_of_lines h).symm, .inr rfl⟩
    | cons c last =>
      refine ⟨ts ++ [c :: last], [], by simp [h], ?_, .inl rfl⟩
      simp [lineCount, physicalLines, h]

end Text

namespace Guided

/-- What one pass makes of a rendition. -/
def pass (guide rendition : Text) : Text :=
  ((Strategy.select rendition guide).apply rendition guide).content

/-- The rendition ends in a newline and has as many lines as its guide. -/
structure EndsAligned (o t : Text) : Prop where
  ends : ∃ ts, Text.lines t = ts ++ [[]]
  count : Text.lineCount t = Text.lineCount o

variable {o t : Text}

/-- A pass over as many lines as the guide has changes each of them beside its counterpart. -/
theorem lines_pass (h : Text.lineCount t = Text.lineCount o) :
    Text.lines (pass o t) =
      mapAligned (fun t g => lineStep g t) (Text.lines t) (Text.lines o) := by
  unfold pass Strategy.select
  rw [if_pos h]
  exact lines_repairByLine t o

/-- So do passes that keep a property of renditions with as many lines. -/
theorem iterate_pass_of_kept {kept : Text → Prop} (hpass : ∀ u, kept u → kept (pass o u))
    (hcount : ∀ u, kept u → Text.lineCount u = Text.lineCount o) (h : kept t) (n : Nat) :
    kept ((pass o)^[n] t) ∧
      Text.lines ((pass o)^[n] t) =
        mapAligned (fun t g => (lineStep g)^[n] t) (Text.lines t) (Text.lines o) := by
  induction n with
  | zero => exact ⟨h, (mapAligned_fst _ _).symm⟩
  | succ n ih =>
    obtain ⟨hkept, hlines⟩ := ih
    rw [Function.iterate_succ_apply', lines_pass (hcount _ hkept), hlines, mapAligned_mapAligned]
    exact ⟨hpass _ hkept, by simp only [Function.iterate_succ_apply']⟩

/-- A pass keeps a rendition aligned. -/
theorem EndsAligned.pass (h : EndsAligned o t) : EndsAligned o (pass o t) := by
  have hlines := lines_pass h.count
  obtain ⟨⟨ts, hts⟩, hcount⟩ := h
  obtain ⟨gs, rest, hgs, hlen, hrest⟩ := Text.exists_lines_eq_append o
  have hts' := Text.lineCount_of_lines hts
  have hlast : mapAligned (fun t g => lineStep g t) [[]] rest = [[]] := by
    rcases hrest with rfl | rfl
    · rfl
    · simp [mapAligned, lineStep, (LineRepair.InStep.refl []).repairLine_eq]
  rw [hts, hgs, mapAligned_append (by omega), hlast] at hlines
  refine ⟨⟨_, hlines⟩, ?_⟩
  rw [Text.lineCount_of_lines hlines, length_mapAligned]
  omega

theorem EndsAligned.iterate_pass (h : EndsAligned o t) (n : Nat) :
    EndsAligned o ((Guided.pass o)^[n] t) ∧
      Text.lines ((Guided.pass o)^[n] t) =
        mapAligned (fun t g => (lineStep g)^[n] t) (Text.lines t) (Text.lines o) :=
  iterate_pass_of_kept (fun _ h => h.pass) (fun _ h => h.count) h n

/-- A pass leaves an aligned rendition as it is exactly when it leaves each line so. -/
theorem EndsAligned.isFixedPt_iff (h : EndsAligned o t) (n : Nat) :
    Function.IsFixedPt (Guided.pass o) ((Guided.pass o)^[n] t) ↔
      ∀ x ∈ (Text.lines t).zip (Text.lines o),
        Function.IsFixedPt (lineStep x.2) ((lineStep x.2)^[n] x.1) := by
  obtain ⟨ha, hl⟩ := h.iterate_pass n
  have hinj : ∀ u v : Text, u = v ↔ Text.lines u = Text.lines v := fun u v =>
    ⟨congrArg _, fun h => by rw [← Text.unlines_lines u, h, Text.unlines_lines]⟩
  change Guided.pass o _ = _ ↔ _
  rw [hinj, lines_pass ha.count, hl, mapAligned_mapAligned, mapAligned_eq_iff]
  rfl

end Guided

end LatexRepair
