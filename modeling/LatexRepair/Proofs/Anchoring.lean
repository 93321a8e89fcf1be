import LatexRepair.Proofs.CheckedAlignment
import Mathlib.Data.List.Nodup

/-!
# Anchored lines

A rendition that has not as many lines as its guide is repaired at its two ends. Lines are paired
from the start on and from the end up, as far as their signatures agree
(`AlignedLines.Anchors`). Blank lines and lines of prose all have one signature, so what keeps the
pairs apart is their number alone : no more lines are paired than the shorter document has
(`AlignedLines.matching_endPairs`).

`repairAnchored_repairsPairs` : the line of each pair becomes what a repair beside its counterpart
makes of it, and every other line stays.
-/

namespace LatexRepair

namespace AlignedLines

variable {ts gs : List Text} {f : Text → Text → Text} {head tail m k i j n : Nat}

/-! ## Lines that agree -/

/-- The documents have lines at the two places, and these have the same signature. -/
def AgreeAt (ts gs : List Text) (i j : Nat) : Prop :=
  ∃ t g, ts[i]? = some t ∧ gs[j]? = some g ∧ signature t = signature g

theorem agreeAt_of_lt_commonCount (h : i < commonCount ts gs) : AgreeAt ts gs i i := by
  induction ts generalizing gs i with
  | nil => cases gs <;> cases h
  | cons t ts ih =>
    cases gs with
    | nil => cases h
    | cons g gs =>
      rw [commonCount] at h
      split at h
      · rename_i hagree
        cases i with
        | zero => exact ⟨t, g, rfl, rfl, of_decide_eq_true hagree⟩
        | succ i => exact ih (Nat.lt_of_succ_lt_succ h)
      · cases h

theorem not_agreeAt_commonCount (ts gs : List Text) :
    ¬AgreeAt ts gs (commonCount ts gs) (commonCount ts gs) := by
  induction ts generalizing gs with
  | nil =>
    rintro ⟨t, g, ht, -⟩
    cases ht
  | cons t ts ih =>
    cases gs with
    | nil =>
      rintro ⟨t, g, -, hg, -⟩
      cases hg
    | cons g gs =>
      rw [commonCount]
      split
      · exact ih gs
      · rename_i hagree
        rintro ⟨_, _, ⟨⟩, ⟨⟩, h⟩
        exact hagree (decide_eq_true h)

/-- The lines of the documents from the end up. -/
theorem agreeAt_reverse_iff (hts : j < ts.length) (hgs : j < gs.length) :
    AgreeAt ts.reverse gs.reverse j j ↔
      AgreeAt ts gs (ts.length - (j + 1)) (gs.length - (j + 1)) := by
  rw [AgreeAt, List.getElem?_reverse hts, List.getElem?_reverse hgs, Nat.sub_sub, Nat.sub_sub,
    Nat.add_comm 1]
  rfl

/-- So many lines at the start and at the end of the two documents agree as can be : the lines at
the end are those that are not at the start of either. -/
structure Anchors (ts gs : List Text) (head tail : Nat) : Prop where
  start : ∀ i < head, AgreeAt ts gs i i
  start_max : ¬AgreeAt ts gs head head
  stop : ∀ j < tail, AgreeAt ts gs (ts.length - (j + 1)) (gs.length - (j + 1))
  room : head + tail ≤ min ts.length gs.length
  stop_max : head + tail < min ts.length gs.length →
    ¬AgreeAt ts gs (ts.length - (tail + 1)) (gs.length - (tail + 1))

theorem anchors_headCount_tailCount (ts gs : List Text) :
    Anchors ts gs (headCount ts gs) (tailCount ts gs) := by
  have hts : headCount ts gs ≤ ts.length := headCount_le ts gs
  have hgs : headCount ts gs ≤ gs.length := by
    rw [headCount, Checked.commonCount_comm]
    exact headCount_le gs ts
  have htail : tailCount ts gs = min (commonCount ts.reverse gs.reverse)
      (min (ts.length - headCount ts gs) (gs.length - headCount ts gs)) := rfl
  refine ⟨fun i hi => agreeAt_of_lt_commonCount hi, not_agreeAt_commonCount ts gs, fun j hj => ?_,
    by omega, fun hroom => ?_⟩
  · rw [← agreeAt_reverse_iff (by omega) (by omega)]
    exact agreeAt_of_lt_commonCount (by omega)
  · have hcount : tailCount ts gs = commonCount ts.reverse gs.reverse := by omega
    rw [← agreeAt_reverse_iff (by omega) (by omega), hcount]
    exact not_agreeAt_commonCount _ _

/-! ## Pairs -/

/-- The pairs of the first `head` lines and of the last `tail` ones of documents with `m` and `k`
lines, the last pair of all first among those at the end. -/
def endPairs (head tail m k : Nat) : List (Nat × Nat) :=
  Checked.headPairs head ++ (List.range tail).map fun j => (m - (j + 1), k - (j + 1))

theorem mem_endPairs {x : Nat × Nat} : x ∈ endPairs head tail m k ↔
    (∃ i < head, (i, i) = x) ∨ ∃ j < tail, (m - (j + 1), k - (j + 1)) = x := by
  simp only [endPairs, Checked.headPairs, List.mem_append, List.mem_map, List.mem_range]

/-- The pairs match lines : no line is in two of them, and no two of them cross. -/
structure Matching (ps : List (Nat × Nat)) : Prop where
  nodup_fst : (ps.map (·.1)).Nodup
  nodup_snd : (ps.map (·.2)).Nodup
  ordered : ∀ x ∈ ps, ∀ y ∈ ps, x.1 < y.1 ↔ x.2 < y.2

theorem nodup_ends (h : head + tail ≤ m) :
    (List.range head ++ (List.range tail).map fun j => m - (j + 1)).Nodup := by
  refine List.nodup_append.2 ⟨List.nodup_range, List.nodup_range.map_on ?_, ?_⟩
  · intro i hi j hj heq
    rw [List.mem_range] at hi hj
    omega
  · intro i hi _ hmem
    obtain ⟨j, hj, rfl⟩ := List.mem_map.1 hmem
    rw [List.mem_range] at hi hj
    omega

theorem matching_endPairs (hm : head + tail ≤ m) (hk : head + tail ≤ k) :
    Matching (endPairs head tail m k) := by
  refine ⟨?_, ?_, fun x hx y hy => ?_⟩
  · simpa [endPairs, Checked.headPairs, Function.comp_def] using nodup_ends hm
  · simpa [endPairs, Checked.headPairs, Function.comp_def] using nodup_ends hk
  · rcases mem_endPairs.1 hx with ⟨i, hi, rfl⟩ | ⟨i, hi, rfl⟩ <;>
      rcases mem_endPairs.1 hy with ⟨j, hj, rfl⟩ | ⟨j, hj, rfl⟩ <;> dsimp only <;> omega

theorem Anchors.agreeAt_of_mem (h : Anchors ts gs head tail) {x : Nat × Nat}
    (hx : x ∈ endPairs head tail ts.length gs.length) : AgreeAt ts gs x.1 x.2 := by
  rcases mem_endPairs.1 hx with ⟨i, hi, rfl⟩ | ⟨j, hj, rfl⟩
  · exact h.start i hi
  · exact h.stop j hj

/-! ## Repairs at both ends -/

theorem getElem?_mapAligned (f : Text → Text → Text) (ts gs : List Text) (i : Nat) :
    (mapAligned f ts gs)[i]? = ts[i]?.map fun t => gs[i]?.elim t (f t) := by
  induction ts generalizing gs i with
  | nil => cases gs <;> rfl
  | cons t ts ih =>
    cases gs with
    | nil => simp [mapAligned]
    | cons g gs =>
      cases i with
      | zero => rfl
      | succ i => exact ih gs i

/-- The lines `ts` with the first `head` and the last `tail` ones changed by their counterparts. -/
def mapEnds (f : Text → Text → Text) (ts gs : List Text) (head tail : Nat) : List Text :=
  mapAligned f (ts.take head) (gs.take head) ++
    (ts.drop head).take (ts.length - tail - head) ++
      mapAligned f (ts.drop (ts.length - tail)) (gs.drop (gs.length - tail))

section

variable (hts : head + tail ≤ ts.length) (hgs : head + tail ≤ gs.length)
include hts

theorem length_mapEnds_start :
    (mapAligned f (ts.take head) (gs.take head)).length = head := by
  rw [length_mapAligned, List.length_take, Nat.min_eq_left (by omega)]

theorem length_mapEnds_front :
    (mapAligned f (ts.take head) (gs.take head) ++
      (ts.drop head).take (ts.length - tail - head)).length = ts.length - tail := by
  rw [List.length_append, length_mapEnds_start hts, List.length_take, List.length_drop]
  omega

theorem length_mapEnds : (mapEnds f ts gs head tail).length = ts.length := by
  rw [mapEnds, List.length_append, length_mapEnds_front hts, length_mapAligned, List.length_drop]
  omega

/-- The first lines are changed. -/
theorem mapEnds_start (hi : i < head) :
    (mapEnds f ts gs head tail)[i]? = ts[i]?.map fun t => gs[i]?.elim t (f t) := by
  rw [mapEnds, List.append_assoc,
    List.getElem?_append_left (by rwa [length_mapEnds_start hts]), getElem?_mapAligned,
    List.getElem?_take_of_lt hi, List.getElem?_take_of_lt hi]

/-- The lines in the middle stay. -/
theorem mapEnds_middle (hi : head ≤ i) (hi' : i < ts.length - tail) :
    (mapEnds f ts gs head tail)[i]? = ts[i]? := by
  rw [mapEnds, List.getElem?_append_left (by rwa [length_mapEnds_front hts]),
    List.getElem?_append_right (by rwa [length_mapEnds_start hts]), length_mapEnds_start hts,
    List.getElem?_take_of_lt (by omega), List.getElem?_drop, Nat.add_sub_cancel' hi]

include hgs in
/-- The last lines are changed. -/
theorem mapEnds_stop (hj : j < tail) :
    (mapEnds f ts gs head tail)[ts.length - (j + 1)]? =
      ts[ts.length - (j + 1)]?.map fun t => gs[gs.length - (j + 1)]?.elim t (f t) := by
  have hplace : ∀ m, head + tail ≤ m → m - tail + (tail - (j + 1)) = m - (j + 1) := fun m hm => by
    omega
  rw [mapEnds, List.getElem?_append_right (by rw [length_mapEnds_front hts]; omega),
    length_mapEnds_front hts, getElem?_mapAligned, List.getElem?_drop, List.getElem?_drop,
    show ts.length - (j + 1) - (ts.length - tail) = tail - (j + 1) by omega, hplace _ hts,
    hplace _ hgs]

end

/-- What a repair of the line at the first place beside the guide's line at the second one gives. -/
def repairAt (ts gs : List Text) (x : Nat × Nat) : Text × List GuidedFix :=
  repairNumbered (x.1 + 1) (ts.getD x.1 []) (gs.getD x.2 [])

theorem repairFrom_eq_map (h : ts.length = gs.length) :
    repairFrom n ts gs = (List.range ts.length).map fun i =>
      repairNumbered (n + i) (ts.getD i []) (gs.getD i []) := by
  induction ts generalizing gs n with
  | nil =>
    obtain rfl := List.eq_nil_of_length_eq_zero h.symm
    rfl
  | cons t ts ih =>
    cases gs with
    | nil => cases h
    | cons g gs =>
      rw [repairFrom, ih (Nat.succ.inj h), List.length_cons, List.range_succ_eq_map, List.map_cons,
        List.map_map]
      refine congrArg _ (List.map_congr_left fun i _ => ?_)
      rw [Function.comp_apply, Nat.add_assoc, Nat.add_comm 1]
      rfl

/-- The lines from the same number of lines on are repaired at their places. -/
theorem repairFrom_take_drop (hts : i + n ≤ ts.length) (hgs : j + n ≤ gs.length) :
    repairFrom (i + 1) ((ts.drop i).take n) ((gs.drop j).take n) =
      (List.range n).map fun l => repairAt ts gs (i + l, j + l) := by
  have hlength : ∀ (ls : List Text) i, i + n ≤ ls.length → ((ls.drop i).take n).length = n :=
    fun ls i hls => by
      rw [List.length_take, List.length_drop]
      omega
  rw [repairFrom_eq_map (by rw [hlength ts i hts, hlength gs j hgs]), hlength ts i hts]
  refine List.map_congr_left fun l hl => ?_
  rw [List.mem_range] at hl
  simp only [repairAt, List.getD_eq_getElem?_getD, List.getElem?_take_of_lt hl, List.getElem?_drop]
  rw [Nat.add_right_comm]

/-- The fixes of the repaired lines, the last lines from the end up. -/
theorem fixes_repairAnchored_eq {t o : Text} (hts : Text.lines t = ts) (hgs : Text.lines o = gs)
    (hhead : headCount ts gs = head) (htail : tailCount ts gs = tail)
    (h : Anchors ts gs head tail) :
    (repairAnchored t o).fixes =
      (endPairs head tail ts.length gs.length).flatMap fun x => (repairAt ts gs x).2 := by
  have hroom := h.room
  have hstart : repairFrom 1 (ts.take head) (gs.take head) =
      (Checked.headPairs head).map (repairAt ts gs) := by
    have hrepair : repairFrom (0 + 1) ((ts.drop 0).take head) ((gs.drop 0).take head) = _ :=
      repairFrom_take_drop (by omega) (by omega)
    simpa [Checked.headPairs, Function.comp_def] using hrepair
  have hstop : (repairFrom (ts.length - tail + 1) (ts.drop (ts.length - tail))
      (gs.drop (gs.length - tail))).reverse =
        ((List.range tail).map fun j => (ts.length - (j + 1), gs.length - (j + 1))).map
          (repairAt ts gs) := by
    have hrepair : repairFrom (ts.length - tail + 1) ((ts.drop (ts.length - tail)).take tail)
        ((gs.drop (gs.length - tail)).take tail) = _ := repairFrom_take_drop (by omega) (by omega)
    rw [List.take_of_length_le (by rw [List.length_drop]; omega),
      List.take_of_length_le (by rw [List.length_drop]; omega)] at hrepair
    rw [hrepair, ← List.map_reverse, List.range_eq_range', List.reverse_range',
      ← List.range_eq_range', List.map_map, List.map_map]
    refine List.map_congr_left fun j hj => ?_
    rw [List.mem_range] at hj
    have hplace : ∀ m, tail ≤ m → m - tail + (0 + tail - 1 - j) = m - (j + 1) := fun m hm => by
      omega
    simp only [Function.comp_apply, hplace ts.length (by omega), hplace gs.length (by omega)]
  unfold repairAnchored
  dsimp only
  rw [hts, hgs, hhead, htail, hstart, hstop, endPairs, List.flatMap_append, List.flatMap_map,
    List.flatMap_map]

/-- The lines of a document that is repaired at its two ends. -/
theorem lines_repairAnchored_eq {t o : Text} (hts : Text.lines t = ts) (hgs : Text.lines o = gs)
    (hhead : headCount ts gs = head) (htail : tailCount ts gs = tail)
    (h : Anchors ts gs head tail) :
    Text.lines (repairAnchored t o).content =
      mapEnds (fun l g => (repairLine l g).1) ts gs head tail := by
  have hroom := h.room
  have hcontent : (repairAnchored t o).content =
      Text.unlines (mapEnds (fun l g => (repairLine l g).1) ts gs head tail) := by
    unfold repairAnchored
    dsimp only
    rw [hts, hgs, hhead, htail, map_fst_repairFrom, map_fst_repairFrom]
    rfl
  have hnewline : ∀ l ∈ ts, '\n' ∉ l := fun l hl =>
    Text.newline_not_mem_of_mem_lines (hts ▸ hl)
  have hnewline' : ∀ g ∈ gs, '\n' ∉ g := fun g hg =>
    Text.newline_not_mem_of_mem_lines (hgs ▸ hg)
  have hmap : ∀ {ls ks : List Text}, ls ⊆ ts → ks ⊆ gs →
      ∀ u ∈ mapAligned (fun l g => (repairLine l g).1) ls ks, '\n' ∉ u := fun hls hks =>
    forall_mem_mapAligned (fun x hx => LineRepair.newline_not_mem_rounds _
      (hnewline _ (hls (List.of_mem_zip hx).1)) (hnewline' _ (hks (List.of_mem_zip hx).2)))
      fun l hl => hnewline l (hls (List.mem_of_mem_drop hl))
  rw [hcontent]
  refine Text.lines_unlines ?_ fun u hu => ?_
  · rw [← List.length_pos_iff, length_mapEnds (by omega), List.length_pos_iff, ← hts]
    exact Text.lines_ne_nil t
  · simp only [mapEnds, List.mem_append] at hu
    rcases hu with (hu | hu) | hu
    · exact hmap (List.take_subset ..) (List.take_subset ..) u hu
    · exact hnewline u (List.drop_subset _ _ (List.take_subset _ _ hu))
    · exact hmap (List.drop_subset ..) (List.drop_subset ..) u hu

end AlignedLines

open AlignedLines

/-- The rendition `ts` is repaired beside the guide `gs` at the given pairs of lines and nowhere
else : the lines `us` and the fixes `fs`. -/
structure RepairsPairs (ts gs : List Text) (ps : List (Nat × Nat)) (us : List Text)
    (fs : List GuidedFix) : Prop where
  length : us.length = ts.length
  paired : ∀ x ∈ ps, ∃ t g, ts[x.1]? = some t ∧ gs[x.2]? = some g ∧
    signature t = signature g ∧ us[x.1]? = some (repairLine t g).1
  unpaired : ∀ i, (∀ x ∈ ps, x.1 ≠ i) → us[i]? = ts[i]?
  fixes : fs = ps.flatMap fun x => (repairAt ts gs x).2

/-- The ends of a rendition are paired with those of its guide as far as they agree, in order and
each line once. The lines that are paired are repaired, each beside its counterpart, and the
others stay. -/
theorem repairAnchored_repairsPairs (t o : Text) :
    ∃ head tail, Anchors (Text.lines t) (Text.lines o) head tail ∧
      Matching (endPairs head tail (Text.lines t).length (Text.lines o).length) ∧
      RepairsPairs (Text.lines t) (Text.lines o)
        (endPairs head tail (Text.lines t).length (Text.lines o).length)
        (Text.lines (repairAnchored t o).content) (repairAnchored t o).fixes := by
  have h := anchors_headCount_tailCount (Text.lines t) (Text.lines o)
  have hlines := lines_repairAnchored_eq rfl rfl rfl rfl h
  have hfixes := fixes_repairAnchored_eq rfl rfl rfl rfl h
  refine ⟨_, _, h, ?_⟩
  generalize Text.lines t = ts at h hlines hfixes ⊢
  generalize Text.lines o = gs at h hlines hfixes ⊢
  generalize headCount ts gs = head at h hlines hfixes ⊢
  generalize tailCount ts gs = tail at h hlines hfixes ⊢
  obtain ⟨hts, hgs⟩ : head + tail ≤ ts.length ∧ head + tail ≤ gs.length := by
    have := h.room
    omega
  refine ⟨matching_endPairs hts hgs, ?_, fun x hx => ?_, fun i hi => ?_, hfixes⟩
  · rw [hlines, length_mapEnds hts]
  · obtain ⟨l, g, hl, hg, hsignature⟩ := h.agreeAt_of_mem hx
    refine ⟨l, g, hl, hg, hsignature, ?_⟩
    rw [hlines]
    rcases mem_endPairs.1 hx with ⟨i, hi, rfl⟩ | ⟨j, hj, rfl⟩
    · rw [mapEnds_start hts hi, hl, hg]
      rfl
    · rw [mapEnds_stop hts hgs hj, hl, hg]
      rfl
  · rw [hlines]
    have hstart : head ≤ i := Nat.le_of_not_lt fun hlt =>
      hi (i, i) (mem_endPairs.2 (.inl ⟨i, hlt, rfl⟩)) rfl
    rcases Nat.lt_or_ge i ts.length with hlt | hge
    · refine mapEnds_middle hts hstart (Nat.lt_of_not_le fun hle => ?_)
      refine hi _ (mem_endPairs.2 (.inr ⟨ts.length - (i + 1), by omega, rfl⟩)) ?_
      dsimp only
      omega
    · rw [List.getElem?_eq_none (by rwa [length_mapEnds hts]), List.getElem?_eq_none hge]

/-- Of blank lines only as many are paired as there are in both documents. -/
example :
    endPairs (headCount [[], [], []] [[], []]) (tailCount [[], [], []] [[], []]) 3 2 =
      [(0, 0), (1, 1)] := by
  decide +kernel

end LatexRepair
