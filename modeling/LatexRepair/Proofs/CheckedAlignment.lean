import LatexRepair.Proofs.CheckedLineRules
import LatexRepair.Proofs.Linewise

/-!
# Checked repair of aligned lines

Lines are paired by their numbers, and each pair is repaired in place, from the first line on and
from the last line up. The numbers of the lines at the end are differences, of the number of
lines and of those that are paired already; no difference is negative, and each pair has its
two lines (`Checked.repairByLine_eq`, `Checked.repairAnchored_eq`).
-/

namespace LatexRepair

namespace Checked

open AlignedLines

variable {ts gs us hs : List Text} {n : Nat}

/-! ## Pairs of lines -/

/-- Repair the line with the first number against the line of the guide with the second one. -/
def repairPair (gs ts : List Text) (x : Nat × Nat) : Checked (List Text) :=
  match ts[x.1]?, gs[x.2]? with
  | some t, some g => do
    let (u, fixes) ← repairLine t g
    if fixes.isEmpty then some ts else setAt ts x.1 u
  | _, _ => some ts

/-- Repair the lines of all pairs, one pair after the other. -/
def repairPairs (gs ts : List Text) (pairs : List (Nat × Nat)) : Checked (List Text) :=
  pairs.foldlM (repairPair gs) ts

/-- The pairs of the first `n` lines. -/
def headPairs (n : Nat) : List (Nat × Nat) :=
  (List.range n).map fun i => (i, i)

/-- The pairs of the last `n` of `m` and of `k` lines, the last one first. -/
def tailPairs (m k : Nat) : Nat → Checked (List (Nat × Nat))
  | 0 => some []
  | n + 1 => do
    let pairs ← tailPairs m k n
    let i ← sub m (n + 1)
    let j ← sub k (n + 1)
    some (pairs ++ [(i, j)])

/-- A pair is repaired where its lines stand. -/
theorem repairPair_append (us hs : List Text) (t g : Text) (ts gs : List Text) :
    repairPair (hs ++ g :: gs) (us ++ t :: ts) (us.length, hs.length) =
      some (us ++ lineStep g t :: ts) := by
  have hget : ∀ (xs : List Text) (x : Text) (ys : List Text),
      (xs ++ x :: ys)[xs.length]? = some x := fun xs x ys => by
    rw [List.getElem?_append_right (Nat.le_refl _), Nat.sub_self]
    rfl
  simp only [repairPair, hget, repairLine_eq, Option.bind_eq_bind, Option.bind_some, lineStep]
  split
  · rename_i hfixes
    have hsame : (LatexRepair.repairLine t g).1 = t :=
      LineRepair.rounds_of_fixes_nil (List.isEmpty_iff.1 hfixes)
    rw [hsame]
  · rw [setAt_of_lt (by simp), List.set_append_right _ _ (Nat.le_refl _), Nat.sub_self,
      List.set_cons_zero]

theorem repairPairs_append (gs ts : List Text) (ps qs : List (Nat × Nat)) :
    repairPairs gs ts (ps ++ qs) = (repairPairs gs ts ps).bind fun us => repairPairs gs us qs :=
  List.foldlM_append

theorem repairPairs_singleton (gs ts : List Text) (x : Nat × Nat) :
    repairPairs gs ts [x] = repairPair gs ts x := by
  rw [repairPairs, List.foldlM_cons, Option.bind_eq_bind]
  exact Option.bind_fun_some _

/-- The first lines of a document are repaired, and the others stay. -/
theorem repairPairs_headPairs (ht : n ≤ ts.length) (hg : n ≤ gs.length) :
    repairPairs gs ts (headPairs n) =
      some (mapAligned (fun t g => lineStep g t) (ts.take n) (gs.take n) ++ ts.drop n) := by
  -- By the number of lines; the last pair is the one behind those that are repaired.
  induction n with
  | zero => rfl
  | succ n ih =>
    have hlength : (mapAligned (fun t g => lineStep g t) (ts.take n) (gs.take n)).length = n := by
      rw [length_mapAligned, List.length_take, Nat.min_eq_left (by omega)]
    have hguide : (gs.take n).length = n := by rw [List.length_take, Nat.min_eq_left (by omega)]
    have hpair := repairPair_append (mapAligned (fun t g => lineStep g t) (ts.take n) (gs.take n))
      (gs.take n) ts[n] gs[n] (ts.drop (n + 1)) (gs.drop (n + 1))
    rw [hlength, hguide, ← List.drop_eq_getElem_cons hg, List.take_append_drop,
      ← List.drop_eq_getElem_cons ht] at hpair
    rw [headPairs, List.range_succ, List.map_append, ← headPairs, repairPairs_append,
      ih (by omega) (by omega), Option.bind_some, List.map_singleton, repairPairs_singleton, hpair,
      List.take_succ_eq_append_getElem ht, List.take_succ_eq_append_getElem hg, mapAligned_append
        (by rw [List.length_take, List.length_take]; omega), List.append_assoc]
    rfl

/-- The last lines of a document are repaired, and the others stay. -/
theorem repairPairs_tailPairs (us hs : List Text) (h : ts.length = gs.length) :
    ∃ pairs, tailPairs (us ++ ts).length (hs ++ gs).length ts.length = some pairs ∧
      repairPairs (hs ++ gs) (us ++ ts) pairs =
        some (us ++ mapAligned (fun t g => lineStep g t) ts gs) := by
  induction ts generalizing us hs gs with
  | nil =>
    obtain rfl := List.eq_nil_of_length_eq_zero h.symm
    exact ⟨[], rfl, rfl⟩
  | cons t ts ih =>
    cases gs with
    | nil => cases h
    | cons g gs =>
      obtain ⟨pairs, hpairs, hrepair⟩ := ih (us ++ [t]) (hs ++ [g]) (Nat.succ.inj h)
      rw [List.append_assoc, List.append_assoc, List.singleton_append, List.singleton_append]
        at hpairs hrepair
      refine ⟨pairs ++ [(us.length, hs.length)], ?_, ?_⟩
      · have hlast : ∀ (ls : List Text) (l : Text) (ks : List Text), ks.length = ts.length →
            sub (ls ++ l :: ks).length (ts.length + 1) = some ls.length := fun ls l ks hks => by
          rw [List.length_append, List.length_cons, hks, sub_of_le (Nat.le_add_left _ _),
            Nat.add_sub_cancel]
        rw [List.length_cons, tailPairs, hpairs, hlast us t ts rfl,
          hlast hs g gs (Nat.succ.inj h).symm]
        rfl
      · rw [repairPairs_append, hrepair, Option.bind_some, repairPairs_singleton, List.append_assoc,
          List.singleton_append, repairPair_append]
        rfl

theorem exists_repairPairs_tailPairs (ht : n ≤ ts.length) (hg : n ≤ gs.length) :
    ∃ pairs, tailPairs ts.length gs.length n = some pairs ∧
      repairPairs gs ts pairs = some (ts.take (ts.length - n) ++
        mapAligned (fun t g => lineStep g t) (ts.drop (ts.length - n))
          (gs.drop (gs.length - n))) := by
  have hlength : (ts.drop (ts.length - n)).length = (gs.drop (gs.length - n)).length := by
    rw [List.length_drop, List.length_drop]
    omega
  have h := repairPairs_tailPairs (ts.take (ts.length - n)) (gs.take (gs.length - n)) hlength
  rwa [List.take_append_drop, List.take_append_drop, List.length_drop, Nat.sub_sub_self ht] at h

/-! ## Line by line -/

/-- Repair every line of a rendition against the line of the guide with its number. -/
def repairByLine (rendition guide : Text) : Checked Text := do
  let ts := Text.lines rendition
  let gs := Text.lines guide
  let us ← repairPairs gs ts (headPairs (min ts.length gs.length))
  some (Text.unlines us)

/-- Lines without a counterpart stay. -/
theorem mapAligned_take_append_drop (f : Text → Text → Text) (ts gs : List Text) :
    mapAligned f (ts.take (min ts.length gs.length)) (gs.take (min ts.length gs.length)) ++
      ts.drop (min ts.length gs.length) = mapAligned f ts gs := by
  induction ts generalizing gs with
  | nil => cases gs <;> rfl
  | cons t ts ih =>
    cases gs with
    | nil => rfl
    | cons g gs =>
      rw [List.length_cons, List.length_cons, Nat.succ_min_succ, List.take_succ_cons,
        List.take_succ_cons, List.drop_succ_cons, mapAligned, List.cons_append, ih, mapAligned]

theorem repairByLine_eq (rendition guide : Text) :
    repairByLine rendition guide = some (LatexRepair.repairByLine rendition guide).content := by
  rw [repairByLine, LatexRepair.repairByLine, map_fst_repairFrom]
  dsimp only
  generalize Text.lines rendition = ts
  generalize Text.lines guide = gs
  rw [repairPairs_headPairs (Nat.min_le_left ..) (Nat.min_le_right ..), Option.bind_eq_bind,
    Option.bind_some, mapAligned_take_append_drop]
  rfl

/-! ## At both ends -/

/-- The number of leading lines whose signatures agree. -/
def commonCount : List Text → List Text → Checked Nat
  | t :: ts, g :: gs => do
    let ours ← signature t
    let theirs ← signature g
    if ours = theirs then (commonCount ts gs).map (· + 1) else some 0
  | _, _ => some 0

@[simp]
theorem commonCount_eq (ts gs : List Text) :
    commonCount ts gs = some (AlignedLines.commonCount ts gs) := by
  induction ts generalizing gs with
  | nil => cases gs <;> rfl
  | cons t ts ih =>
    cases gs with
    | nil => rfl
    | cons g gs =>
      simp only [commonCount, signature_eq, Option.bind_eq_bind, Option.bind_some, ih,
        Option.map_some, AlignedLines.commonCount, agree, decide_eq_true_eq]
      split <;> rfl

theorem commonCount_comm (ts gs : List Text) :
    AlignedLines.commonCount ts gs = AlignedLines.commonCount gs ts := by
  induction ts generalizing gs with
  | nil => cases gs <;> rfl
  | cons t ts ih =>
    cases gs with
    | nil => rfl
    | cons g gs => simp only [AlignedLines.commonCount, agree, ih, eq_comm]

/-- Repair the lines at the start and at the end of a rendition, as far as their signatures
agree with those of the guide. -/
def repairAnchored (rendition guide : Text) : Checked Text := do
  let ts := Text.lines rendition
  let gs := Text.lines guide
  let head ← commonCount ts gs
  let room ← sub ts.length head
  let guideRoom ← sub gs.length head
  let n := min room guideRoom
  let tail ← commonCount (ts.reverse.take n) (gs.reverse.take n)
  let pairs ← tailPairs ts.length gs.length tail
  let us ← repairPairs gs ts (headPairs head ++ pairs)
  some (Text.unlines us)

theorem commonCount_take (ts gs : List Text) (n : Nat) :
    AlignedLines.commonCount (ts.take n) (gs.take n) = min (AlignedLines.commonCount ts gs) n := by
  induction ts generalizing gs n with
  | nil => cases gs <;> simp [AlignedLines.commonCount]
  | cons t ts ih =>
    cases gs with
    | nil => simp [AlignedLines.commonCount]
    | cons g gs =>
      cases n with
      | zero => simp [AlignedLines.commonCount]
      | succ n =>
        rw [List.take_succ_cons, List.take_succ_cons, AlignedLines.commonCount, ih,
          AlignedLines.commonCount]
        split
        · rw [Nat.succ_min_succ]
        · rw [Nat.zero_min]

theorem repairAnchored_eq (rendition guide : Text) :
    repairAnchored rendition guide = some (LatexRepair.repairAnchored rendition guide).content := by
  rw [repairAnchored, LatexRepair.repairAnchored, map_fst_repairFrom, map_fst_repairFrom]
  dsimp only
  generalize Text.lines rendition = ts
  generalize Text.lines guide = gs
  obtain ⟨-, htail, hdisjoint⟩ := tailCount_le ts gs
  have hguide : headCount ts gs ≤ gs.length := by
    rw [headCount, commonCount_comm]
    exact headCount_le gs ts
  have hcount : min (AlignedLines.commonCount ts.reverse gs.reverse)
      (min (ts.length - headCount ts gs) (gs.length - headCount ts gs)) = tailCount ts gs :=
    rfl
  rw [commonCount_eq, show AlignedLines.commonCount ts gs = headCount ts gs from rfl]
  simp only [Option.bind_eq_bind, Option.bind_some]
  rw [sub_of_le (by omega), sub_of_le hguide]
  simp only [Option.bind_some]
  rw [commonCount_eq, commonCount_take, hcount]
  generalize headCount ts gs = head at *
  generalize tailCount ts gs = tail at *
  have hstart : (mapAligned (fun t g => lineStep g t) (ts.take head) (gs.take head)).length =
      head := by
    rw [length_mapAligned, List.length_take, Nat.min_eq_left (by omega)]
  have hlines : (mapAligned (fun t g => lineStep g t) (ts.take head) (gs.take head) ++
      ts.drop head).length = ts.length := by
    rw [List.length_append, hstart, List.length_drop]
    omega
  obtain ⟨pairs, hpairs, hrepair⟩ := exists_repairPairs_tailPairs
    (show tail ≤ (mapAligned (fun t g => lineStep g t) (ts.take head) (gs.take head) ++
      ts.drop head).length by omega) htail
  rw [hlines] at hpairs hrepair
  rw [Option.bind_some, hpairs, Option.bind_some, repairPairs_append,
    repairPairs_headPairs (by omega) hguide, Option.bind_some, hrepair, Option.bind_some,
    List.take_append, List.drop_append, hstart, List.take_of_length_le (by omega),
    List.drop_of_length_le (l := mapAligned _ _ _) (by omega), List.nil_append, List.drop_drop,
    Nat.add_sub_cancel' (by omega)]
  rfl

end Checked

end LatexRepair
