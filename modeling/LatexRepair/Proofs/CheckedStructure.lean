import LatexRepair.Proofs.CheckedOccurrences
import LatexRepair.Proofs.EndCount
import LatexRepair.StructureRepair
import Mathlib.Data.List.Destutter
import Mathlib.Data.List.Sort

/-!
# Checked repair of the structure

The rules for the structure of a document, with checked slices. A rule that edits a line several
times, or several lines of a document, goes from the last place up, so that the places before it
stay where they were found (`Checked.removeMarkers_eq`, `Checked.insertClosers_eq`). Each rule
makes the edits of its rule by characters, so the repair never stops
(`Checked.repairStructure_eq`).
-/

namespace LatexRepair

namespace Checked

open Text

/-! ## Ends of the document -/

/-- The live ends of the document in a line. -/
def liveEnds (line : Text) : Checked (List PlacedMarker) := do
  let code ← codePart line
  some (((markers line).map (·.inBytes line)).filter fun m =>
    m.start < byteLength code && m.marker = .endDocument)

/-- Remove markers from a line, the last one first. -/
def removeMarkers (line : Text) : List PlacedMarker → Checked Text
  | [] => some line
  | x :: xs => do
    let u ← removeMarkers line xs
    replaceRange u x.start x.stop []

/-- Remove the ends of the document, but for the first `keep` of them, from lines before which
there are `seen` ends and `index` lines; with the numbers of the lines that are left blank. -/
def stripTerminators (keep seen index : Nat) : List Text → Checked (List Text × List Nat)
  | [] => some ([], [])
  | line :: rest => do
    let live ← liveEnds line
    let surplus := ((live.zipIdx seen).filter fun x => keep ≤ x.2).map (·.1)
    if surplus.isEmpty then
      let (rest', blank) ← stripTerminators keep (seen + live.length) (index + 1) rest
      some (line :: rest', blank)
    else
      let line' ← removeMarkers line surplus
      let (rest', blank) ← stripTerminators keep (seen + live.length) (index + 1) rest
      some (line' :: rest', if isBlankText line' then index :: blank else blank)

/-- Remove the lines with the given numbers, the last one first. -/
def removeLines (lines : List Text) : List Nat → Checked (List Text)
  | [] => some lines
  | i :: is => do
    let rest ← removeLines lines is
    removeAt rest i

/-- Leave as many ends of the document as the guide has, if it has at most one. -/
def dropTerminators (ts gs : List Text) : Checked (List Text) := do
  let theirs ← occurrences gs
  let keep := Occurrences.liveCount .endDocument theirs
  if keep ≤ 1 then
    let (us, blank) ← stripTerminators keep 0 0 ts
    removeLines us blank
  else some ts

theorem start_lt_byteLength_codePart {line : Text} (i : Nat) :
    byteOffset line i < byteLength (LatexRepair.codePart line) ↔
      i < (LatexRepair.codePart line).length := by
  rw [byteLength_codePart, byteOffset_lt_iff (codePart_isPrefix line).length_le]

theorem liveEnds_eq (line : Text) :
    liveEnds line = some (((liveMarkers line).filter (·.marker = .endDocument)).map
      (·.inBytes line)) := by
  rw [liveEnds, codePart_eq, Option.bind_eq_bind, Option.bind_some, List.filter_map, liveMarkers,
    List.filter_filter]
  refine congrArg some (congrArg _ (List.filter_congr fun m _ => ?_))
  simp only [Function.comp_apply, PlacedMarker.inBytes, start_lt_byteLength_codePart]
  exact Bool.and_comm ..

theorem removeMarkers_eq {line : Text} {xs : List PlacedMarker}
    (hbounds : ∀ x ∈ xs, x.start ≤ x.stop ∧ x.stop ≤ line.length)
    (hpairs : xs.Pairwise fun x y => x.stop ≤ y.start) :
    removeMarkers line (xs.map (·.inBytes line)) =
      some (Edit.applyAll (xs.map fun x => .delete x.start x.stop) line) := by
  induction xs with
  | nil => rfl
  | cons x xs ih =>
    rw [List.forall_mem_cons] at hbounds
    rw [List.pairwise_cons] at hpairs
    have hprefix := Edit.take_applyAll (xs.map fun x => .delete x.start x.stop)
      hbounds.1.2 (by simpa [Edit.delete] using hpairs.1)
    rw [List.map_cons, removeMarkers, ih hbounds.2 hpairs.2, Option.bind_eq_bind, Option.bind_some,
      PlacedMarker.inBytes, ← byteOffset_congr hprefix hbounds.1.1,
      ← byteOffset_congr hprefix (Nat.le_refl _), replaceRange_byteOffset _ hbounds.1.1]
    rfl

/-- The items from number `keep` on, in a list that starts with number `n`. -/
theorem map_filter_zipIdx {α : Type} (keep n : Nat) (xs : List α) :
    ((xs.zipIdx n).filter fun x => keep ≤ x.2).map (·.1) = xs.drop (keep - n) := by
  induction xs generalizing n with
  | nil => simp
  | cons x xs ih =>
    rw [List.zipIdx_cons, List.filter_cons]
    split
    · rename_i h
      have hle : keep ≤ n := by simpa using h
      rw [List.map_cons, ih, Nat.sub_eq_zero_of_le hle, Nat.sub_eq_zero_of_le (by omega),
        List.drop_zero, List.drop_zero]
    · rename_i h
      have hlt : n < keep := by simpa using h
      rw [ih, show keep - n = keep - (n + 1) + 1 by omega, List.drop_succ_cons]

/-- The ends of the document that are too many are removed from their line. -/
theorem removeMarkers_liveEnds (line : Text) (n : Nat) :
    removeMarkers line ((((liveMarkers line).filter (·.marker = .endDocument)).drop n).map
        (·.inBytes line)) =
      some (Edit.applyAll ((((liveMarkers line).filter (·.marker = .endDocument)).drop n).map
        fun x => .delete x.start x.stop) line) := by
  refine removeMarkers_eq (fun x hx => ?_)
    (((pairwise_liveMarkers line).filter _).sublist (List.drop_sublist ..))
  have hmem := (List.mem_filter.1 (List.mem_filter.1 (List.mem_of_mem_drop hx)).1).1
  have hbounds := bounds_of_mem_markers hmem
  exact ⟨Nat.le_of_lt hbounds.1, hbounds.2⟩

/-- The lines that are left blank are removed from behind all lines before them. -/
theorem exists_stripTerminators (keep seen number : Nat) (before lines : List Text) :
    ∃ us blank, stripTerminators keep seen before.length lines = some (us, blank) ∧
      removeLines (before ++ us) blank =
        some (before ++ (StructureRepair.removeTerminators (keep - seen) number lines).1) := by
  induction lines generalizing seen number before with
  | nil => exact ⟨[], [], rfl, rfl⟩
  | cons line rest ih =>
    have hnext : ∀ line' : Text, before.length + 1 = (before ++ [line']).length := fun line' => by
      rw [List.length_append, List.length_singleton]
    rw [StructureRepair.removeTerminators, stripTerminators, liveEnds_eq]
    simp only [Option.bind_eq_bind, Option.bind_some, map_filter_zipIdx, ← List.map_drop,
      List.isEmpty_map, List.length_map]
    generalize hends : (liveMarkers line).filter (·.marker = .endDocument) = ends
    split
    · obtain ⟨us, blank, hstrip, hremove⟩ := ih (seen + ends.length) (number + 1) (before ++ [line])
      rw [← hnext] at hstrip
      rw [List.append_assoc, List.append_assoc] at hremove
      refine ⟨line :: us, blank, by rw [hstrip]; rfl, ?_⟩
      rw [Nat.sub_sub]
      exact hremove
    · have hline := removeMarkers_liveEnds line (keep - seen)
      rw [hends] at hline
      rw [hline, Option.bind_some]
      generalize Edit.applyAll _ line = line'
      obtain ⟨us, blank, hstrip, hremove⟩ :=
        ih (seen + ends.length) (number + 1) (before ++ [line'])
      rw [← hnext] at hstrip
      rw [List.append_assoc, List.singleton_append] at hremove
      rw [hstrip, Nat.sub_sub]
      refine ⟨_, _, rfl, ?_⟩
      dsimp only
      split
      · rw [removeLines, hremove, Option.bind_eq_bind, Option.bind_some, removeAt_of_lt
          (by simp only [List.length_append, List.length_singleton]; omega), List.append_assoc,
          List.eraseIdx_append_of_length_le (Nat.le_refl _), Nat.sub_self]
        rfl
      · rw [hremove, List.append_assoc]
        rfl

theorem dropTerminators_eq (ts gs : List Text) :
    dropTerminators ts gs = some (StructureRepair.dropTerminators ts gs).1 := by
  rw [dropTerminators, occurrences_eq, StructureRepair.dropTerminators]
  simp only [Option.bind_eq_bind, Option.bind_some, Occurrences.liveCount_inBytes]
  split
  · obtain ⟨us, blank, hstrip, hremove⟩ := exists_stripTerminators
      (Occurrences.liveCount .endDocument (Occurrence.ofLines gs)) 0 1 [] ts
    rw [List.length_nil] at hstrip
    rw [hstrip, Option.bind_some]
    exact hremove
  · rfl

/-! ## Hidden markers -/

/-- Delete the percent signs before the hidden marker of a line. -/
def uncomment (line : Text) : Checked Text := do
  match ← hiddenMarker line with
  | some hidden => replaceRange line hidden.start hidden.stop []
  | none => some line

/-- Bring back the hidden markers of the lines with the given numbers, each line once. -/
def uncommentLines (ts : List Text) (numbers : List Nat) : Checked (List Text) :=
  (numbers.mergeSort.destutter (· ≠ ·)).foldlM (modifyAt · · uncomment) ts

/-- Bring back hidden markers. -/
def restoreHidden (ts gs : List Text) : Checked (List Text) := do
  let ours ← occurrences ts
  let theirs ← occurrences gs
  let targets := (Occurrences.distinctMarkers ours).flatMap
    (StructureRepair.restorableOf ours theirs)
  uncommentLines ts (targets.map (·.line))

@[simp]
theorem uncomment_eq (line : Text) : uncomment line = some (StructureRepair.uncomment line) := by
  rw [uncomment, hiddenMarker_eq, Option.bind_eq_bind, Option.bind_some, StructureRepair.uncomment]
  cases hhidden : hiddenMarker? line with
  | none => rfl
  | some hidden => exact replaceRange_byteOffset _ (bounds_of_hiddenMarker? hhidden).1 []

/-- Lines with different numbers are changed one by one. -/
theorem foldlM_modifyAt {is : List Nat} {lines : List Text} {f : Text → Checked Text}
    {g : Text → Text} (hf : ∀ line, f line = some (g line)) (hnodup : is.Nodup)
    (h : ∀ i ∈ is, i < lines.length) :
    is.foldlM (modifyAt · · f) lines =
      some (lines.mapIdx fun i line => if i ∈ is then g line else line) := by
  induction is generalizing lines with
  | nil => simp [List.mapIdx_eq_zipIdx_map]
  | cons i is ih =>
    rw [List.nodup_cons] at hnodup
    rw [List.forall_mem_cons] at h
    rw [List.foldlM_cons, modifyAt_of_lt h.1 (hf _), Option.bind_eq_bind, Option.bind_some,
      ih hnodup.2 (by simpa using h.2)]
    refine congrArg some (List.ext_getElem? fun j => ?_)
    rw [List.getElem?_mapIdx, List.getElem?_mapIdx, List.getElem?_modify]
    cases lines[j]? with
    | none => rfl
    | some line =>
      by_cases hij : i = j
      · subst hij
        simp [hnodup.1]
      · simp [hij, Ne.symm hij]

theorem mem_destutter'_iff {is : List Nat} {i j : Nat} :
    i ∈ is.destutter' (· ≠ ·) j ↔ i ∈ j :: is := by
  induction is generalizing j with
  | nil => simp
  | cons k is ih =>
    rw [List.destutter'_cons]
    split
    · simp only [List.mem_cons, ih]
    · rename_i h
      obtain rfl : j = k := not_not.1 h
      rw [ih]
      simp

/-- A sorted list without its repetitions has no entry twice. -/
theorem nodup_destutter' {is : List Nat} {i : Nat} (h : (i :: is).Pairwise (· ≤ ·)) :
    (is.destutter' (· ≠ ·) i).Nodup := by
  induction is generalizing i with
  | nil => simp
  | cons j is ih =>
    obtain ⟨hi, hj⟩ := List.pairwise_cons.1 h
    rw [List.destutter'_cons]
    split
    · rename_i hne
      refine List.nodup_cons.2 ⟨fun hmem => ?_, ih hj⟩
      have hle : j ≤ i := by
        rcases List.mem_cons.1 (mem_destutter'_iff.1 hmem) with rfl | hmem
        · exact Nat.le_refl _
        · exact (List.pairwise_cons.1 hj).1 i hmem
      exact hne (Nat.le_antisymm (hi j (List.mem_cons_self ..)) hle)
    · exact ih (h.sublist (.cons_cons _ (List.sublist_cons_self ..)))

theorem uncommentLines_eq {ts : List Text} {numbers : List Nat} (h : ∀ i ∈ numbers, i < ts.length) :
    uncommentLines ts numbers = some (ts.mapIdx fun i line =>
      if i ∈ numbers then StructureRepair.uncomment line else line) := by
  have hmem : ∀ i, i ∈ numbers.mergeSort.destutter (· ≠ ·) ↔ i ∈ numbers := fun i => by
    rw [← List.mem_mergeSort (l := numbers)]
    cases numbers.mergeSort with
    | nil => rfl
    | cons j is => exact mem_destutter'_iff
  have hnodup : (numbers.mergeSort.destutter (· ≠ ·)).Nodup := by
    have hsorted : numbers.mergeSort.Pairwise (· ≤ ·) := List.pairwise_mergeSort' (· ≤ ·) _
    cases hlist : numbers.mergeSort with
    | nil => exact List.nodup_nil
    | cons j is => exact nodup_destutter' (hlist ▸ hsorted)
  rw [uncommentLines, foldlM_modifyAt uncomment_eq hnodup fun i hi => h i ((hmem i).1 hi)]
  simp only [hmem]

theorem restorableOf_inBytes (ts gs : List Text) (xs ys : List Occurrence) :
    StructureRepair.restorableOf (xs.map (·.inBytes ts)) (ys.map (·.inBytes gs)) =
      fun m => (StructureRepair.restorableOf xs ys m).map (·.inBytes ts) := by
  funext m
  simp only [StructureRepair.restorableOf, Occurrences.of_inBytes, List.length_map, List.zip_map]
  split
  · rw [List.filter_map, List.map_map, List.map_map]
    rfl
  · rfl

/-- What is brought back occurs in the rendition. -/
theorem mem_of_mem_restorableOf {xs ys : List Occurrence} {m : Marker} {x : Occurrence}
    (h : x ∈ StructureRepair.restorableOf xs ys m) : x ∈ xs := by
  unfold StructureRepair.restorableOf at h
  dsimp only at h
  split at h
  · obtain ⟨⟨x, y⟩, hxy, rfl⟩ := List.mem_map.1 h
    exact (List.mem_filter.1 (List.of_mem_zip (List.mem_filter.1 hxy).1).1).1
  · cases h

theorem restoreHidden_eq (ts gs : List Text) :
    restoreHidden ts gs = some (StructureRepair.restoreHidden ts gs).1 := by
  rw [restoreHidden, StructureRepair.restoreHidden]
  simp only [occurrences_eq, Option.bind_eq_bind, Option.bind_some,
    Occurrences.distinctMarkers_inBytes, restorableOf_inBytes]
  rw [← List.map_flatMap, List.map_map]
  have hmem : ∀ x ∈ (Occurrences.distinctMarkers (Occurrence.ofLines ts)).flatMap
      (StructureRepair.restorableOf (Occurrence.ofLines ts) (Occurrence.ofLines gs)),
      x ∈ Occurrence.ofLines ts := fun x hx => by
    obtain ⟨m, -, hx⟩ := List.mem_flatMap.1 hx
    exact mem_of_mem_restorableOf hx
  generalize (Occurrences.distinctMarkers (Occurrence.ofLines ts)).flatMap
    (StructureRepair.restorableOf (Occurrence.ofLines ts) (Occurrence.ofLines gs)) = targets at *
  rw [uncommentLines_eq fun i hi => ?_]
  · refine congrArg some (congrArg (List.mapIdx · ts) (funext fun i => funext fun line => ?_))
    simp [List.mem_map, List.any_eq_true]
  · obtain ⟨x, hx, rfl⟩ := List.mem_map.1 hi
    obtain ⟨line, hline, -⟩ := Occurrence.bounds_of_mem_ofLines (hmem x hx)
    exact (List.getElem?_eq_some_iff.1 hline).1

/-! ## Lost ends -/

/-- The number of the first line with a live end of the document. -/
def findTerminator : List Text → Checked (Option Nat)
  | [] => some none
  | line :: rest => do
    let live ← liveEnds line
    if live.isEmpty then (findTerminator rest).map (·.map (· + 1)) else some (some 0)

/-- Insert the markers as lines from the given number on; ends of the document may be left out. -/
def insertEnds (skip : Bool) : Nat → List Text → List Marker → Checked (List Text)
  | _, lines, [] => some lines
  | place, lines, m :: ms =>
    if skip && m = .endDocument then insertEnds skip place lines ms
    else do
      let lines' ← insertAt lines place m.text
      insertEnds skip (place + 1) lines' ms

/-- Insert the ends that the rendition lacks before its end of the document, or where it has none,
at its end but before a final newline. -/
def restoreEnds (ts gs : List Text) : Checked (List Text) := do
  let ours ← occurrences ts
  let theirs ← occurrences gs
  let missing := StructureRepair.missingEnds ours theirs
  if missing.isEmpty then some ts
  else
    match ← findTerminator ts with
    | some i => insertEnds true i ts missing
    | none =>
      let place ← if ts.getLast? = some [] then sub ts.length 1 else some ts.length
      insertEnds false place ts missing

theorem isEmpty_liveEnds (line : Text) :
    ((liveMarkers line).filter (·.marker = .endDocument)).isEmpty =
      !StructureRepair.hasTerminator line := by
  rw [StructureRepair.hasTerminator, Bool.eq_iff_iff]
  simp [List.isEmpty_iff, List.filter_eq_nil_iff]

theorem findTerminator_eq (lines : List Text) :
    findTerminator lines = some (lines.findIdx? StructureRepair.hasTerminator) := by
  induction lines with
  | nil => rfl
  | cons line rest ih =>
    rw [findTerminator, liveEnds_eq, Option.bind_eq_bind, Option.bind_some, List.isEmpty_map,
      isEmpty_liveEnds, ih, List.findIdx?_cons]
    cases StructureRepair.hasTerminator line <;> rfl

/-- The markers are inserted one behind the other. -/
theorem insertEnds_append (skip : Bool) (before behind : List Text) (ms : List Marker) :
    insertEnds skip before.length (before ++ behind) ms = some (before ++
      (ms.filter fun m => !(skip && m = .endDocument)).map (·.text) ++ behind) := by
  induction ms generalizing before with
  | nil => simp [insertEnds]
  | cons m ms ih =>
    rw [insertEnds]
    split
    · rename_i hskip
      rw [ih, List.filter_cons_of_neg (by simpa using hskip)]
    · rename_i hkeep
      have hnext := ih (before ++ [m.text])
      rw [List.length_append, List.length_singleton, List.append_assoc, List.singleton_append]
        at hnext
      rw [insertAt_of_le (by simp), List.take_left, List.drop_left, Option.bind_eq_bind,
        Option.bind_some, hnext, List.filter_cons_of_pos (by simp [hkeep]), List.map_cons,
        List.append_assoc before]
      rfl

theorem insertEnds_eq (skip : Bool) {place : Nat} {lines : List Text} (h : place ≤ lines.length)
    (ms : List Marker) :
    insertEnds skip place lines ms = some (lines.take place ++
      (ms.filter fun m => !(skip && m = .endDocument)).map (·.text) ++ lines.drop place) := by
  have hinsert := insertEnds_append skip (lines.take place) (lines.drop place) ms
  rwa [List.take_append_drop, List.length_take, Nat.min_eq_left h] at hinsert

theorem missingEnds_inBytes (ts gs : List Text) (xs ys : List Occurrence) :
    StructureRepair.missingEnds (xs.map (·.inBytes ts)) (ys.map (·.inBytes gs)) =
      StructureRepair.missingEnds xs ys := by
  simp only [StructureRepair.missingEnds, StructureRepair.missingCount,
    Occurrences.distinctMarkers_inBytes, Occurrences.liveCount_inBytes]

theorem restoreEnds_eq (ts gs : List Text) :
    restoreEnds ts gs = some (StructureRepair.restoreEnds ts gs).1 := by
  rw [restoreEnds, StructureRepair.restoreEnds]
  simp only [occurrences_eq, Option.bind_eq_bind, Option.bind_some, findTerminator_eq,
    missingEnds_inBytes]
  generalize StructureRepair.missingEnds (Occurrence.ofLines ts) (Occurrence.ofLines gs) = missing
  cases hplace : ts.findIdx? StructureRepair.hasTerminator with
  | some i =>
    obtain ⟨hlt, -⟩ := List.findIdx?_eq_some_iff_getElem.1 hplace
    split
    · rename_i hnone
      simp [List.isEmpty_iff.1 hnone]
    · dsimp only
      rw [insertEnds_eq true (Nat.le_of_lt hlt)]
      simp
  | none =>
    split
    · rename_i hnone
      simp [List.isEmpty_iff.1 hnone]
    · dsimp only
      split
      · rename_i hlast
        have hpos : 1 ≤ ts.length := List.length_pos_of_mem (List.mem_of_getLast? hlast)
        rw [sub_of_le hpos, Option.bind_some, insertEnds_eq false (Nat.sub_le _ _)]
        simp
      · rw [insertEnds_eq false (Nat.le_refl _)]
        simp

/-! ## Braces behind tables -/

/-- A closing brace stands directly behind the occurrence. -/
def closedBehind (lines : List Text) (x : Occurrence) : Checked Bool := do
  let line ← lines[x.line]?
  let rest ← sliceFrom line x.stop
  some (startsWith ['}'] rest)

/-- The first ones of pairs of occurrences that lack the closing brace behind the second one. -/
def unclosedPairs (ts gs : List Text) : List (Occurrence × Occurrence) → Checked (List Occurrence)
  | [] => some []
  | (x, y) :: rest => do
    let theirs ← closedBehind gs y
    let ours ← closedBehind ts x
    let xs ← unclosedPairs ts gs rest
    some (if theirs && !ours then x :: xs else xs)

/-- The live ends of environments that lack the closing brace which the guide has behind them. -/
def unclosed (ts gs : List Text) (ours theirs : List Occurrence) :
    List Marker → Checked (List Occurrence)
  | [] => some []
  | m :: ms => do
    let t := Occurrences.liveOf m ours
    let g := Occurrences.liveOf m theirs
    let xs ← if t.length = g.length then unclosedPairs ts gs (t.zip g) else some []
    let ys ← unclosed ts gs ours theirs ms
    some (xs ++ ys)

/-- Insert a closing brace behind each of the occurrences. -/
def insertClosers (ts : List Text) (xs : List Occurrence) : Checked (List Text) :=
  xs.foldlM (fun ls x => modifyAt ls x.line (insert · x.stop ['}'])) ts

/-- The occurrence comes after the other one, or is it. -/
def isBehind (x y : Occurrence) : Bool :=
  Position.le (y.line, y.stop) (x.line, x.stop)

/-- Bring back the closing braces behind the ends of tables, the last one first. -/
def restoreClosers (ts gs : List Text) : Checked (List Text) := do
  let ours ← occurrences ts
  let theirs ← occurrences gs
  let tables := (Occurrences.distinctMarkers ours).filter fun m =>
    m.kind = .closing && Catalog.mem m.name Catalog.tabularEnvironments
  let targets ← unclosed ts gs ours theirs tables
  insertClosers ts (targets.mergeSort isBehind)

section

variable {ts gs : List Text}

theorem closedBehind_eq {x : Occurrence} (h : x ∈ Occurrence.ofLines ts) :
    closedBehind ts (x.inBytes ts) = some (StructureRepair.closedBehind ts x) := by
  obtain ⟨line, hline, -⟩ := Occurrence.bounds_of_mem_ofLines h
  rw [closedBehind, Occurrence.line_inBytes, Occurrence.inBytes, StructureRepair.closedBehind,
    hline, Option.getD_some, Option.bind_eq_bind, Option.bind_some, sliceFrom_byteOffset]
  rfl

theorem unclosedPairs_eq {xs : List (Occurrence × Occurrence)}
    (h : ∀ x ∈ xs, x.1 ∈ Occurrence.ofLines ts ∧ x.2 ∈ Occurrence.ofLines gs) :
    unclosedPairs ts gs (xs.map (Prod.map (·.inBytes ts) (·.inBytes gs))) =
      some (((xs.filter fun x => StructureRepair.closedBehind gs x.2 &&
        !StructureRepair.closedBehind ts x.1).map (·.1)).map (·.inBytes ts)) := by
  induction xs with
  | nil => rfl
  | cons x xs ih =>
    obtain ⟨⟨hx, hy⟩, h⟩ := List.forall_mem_cons.1 h
    rw [List.map_cons, Prod.map, unclosedPairs, closedBehind_eq hx, closedBehind_eq hy, ih h,
      List.filter_cons]
    simp only [Option.bind_eq_bind, Option.bind_some]
    split <;> rfl

theorem mem_of_mem_liveOf {m : Marker} {xs : List Occurrence} {x : Occurrence}
    (h : x ∈ Occurrences.liveOf m xs) : x ∈ xs :=
  (List.mem_filter.1 (List.mem_filter.1 h).1).1

theorem unclosed_eq (ts gs : List Text) (ms : List Marker) :
    unclosed ts gs ((Occurrence.ofLines ts).map (·.inBytes ts))
        ((Occurrence.ofLines gs).map (·.inBytes gs)) ms =
      some ((ms.flatMap (StructureRepair.unclosedOf ts gs)).map (·.inBytes ts)) := by
  induction ms with
  | nil => rfl
  | cons m ms ih =>
    rw [unclosed, ih]
    simp only [Occurrences.liveOf_inBytes, List.length_map, List.zip_map,
      Option.bind_eq_bind, List.flatMap_cons, List.map_append, StructureRepair.unclosedOf]
    split
    · rw [unclosedPairs_eq fun x hx => ⟨mem_of_mem_liveOf (List.of_mem_zip hx).1,
        mem_of_mem_liveOf (List.of_mem_zip hx).2⟩]
      rfl
    · rfl

/-- Up to the place of the occurrence its line is the same in both documents. -/
def SameUpTo (ts us : List Text) (x : Occurrence) : Prop :=
  ∃ line u, ts[x.line]? = some line ∧ us[x.line]? = some u ∧ x.stop ≤ line.length ∧
    u.take x.stop = line.take x.stop

/-- A brace that is inserted behind the occurrence, or further on, leaves what stands before. -/
theorem SameUpTo.modify {us : List Text} {x y : Occurrence} (hx : SameUpTo ts us x)
    (hy : SameUpTo ts us y) (h : isBehind x y = true) :
    SameUpTo ts (us.modify x.line (Edit.insert x.stop ['}']).apply) y := by
  obtain ⟨line, u, hline, hu, hstop, htake⟩ := hy
  rcases eq_or_ne x.line y.line with heq | hne
  · obtain ⟨line', u', hline', hu', hstop', htake'⟩ := hx
    rw [heq, hline, Option.some_inj] at hline'
    rw [heq, hu, Option.some_inj] at hu'
    subst hline' hu'
    have hle : y.stop ≤ x.stop := by simpa [isBehind, Position.le, heq] using h
    have hlength := congrArg List.length htake'
    rw [List.length_take, List.length_take] at hlength
    refine ⟨line, (Edit.insert x.stop ['}']).apply u, hline, by simp [heq, hu], hstop, ?_⟩
    rw [Edit.apply_insert, List.take_append_of_le_length (by rw [List.length_take]; omega),
      List.take_take, Nat.min_eq_left hle, htake]
  · exact ⟨line, u, hline, by simp [hne, hu], hstop, htake⟩

/-- The places are taken from the last one on, so those that are left have not moved. -/
theorem insertClosers_eq {us : List Text} {xs : List Occurrence} (hxs : ∀ x ∈ xs, SameUpTo ts us x)
    (hsorted : xs.Pairwise fun x y => isBehind x y = true) :
    insertClosers us (xs.map (·.inBytes ts)) = some (StructureRepair.insertClosers us xs) := by
  induction xs generalizing us with
  | nil => rfl
  | cons x xs ih =>
    obtain ⟨hx, hxs⟩ := List.forall_mem_cons.1 hxs
    obtain ⟨hbehind, hsorted⟩ := List.pairwise_cons.1 hsorted
    have hrest := ih (fun y hy => hx.modify (hxs y hy) (hbehind y hy)) hsorted
    obtain ⟨line, u, hline, hu, -, htake⟩ := hx
    obtain ⟨hlt, rfl⟩ := List.getElem?_eq_some_iff.1 hu
    have hinsert : insert us[x.line] (x.inBytes ts).stop ['}'] =
        some ((Edit.insert x.stop ['}']).apply us[x.line]) := by
      rw [Occurrence.inBytes, hline, Option.getD_some, ← byteOffset_congr htake (Nat.le_refl _),
        insert_byteOffset]
    rw [List.map_cons, insertClosers, List.foldlM_cons, Occurrence.line_inBytes,
      modifyAt_of_lt hlt hinsert, Option.bind_eq_bind, Option.bind_some]
    exact hrest

/-- The order of places is the order of their bytes. -/
theorem isBehind_inBytes {x y : Occurrence} (hy : y ∈ Occurrence.ofLines ts) :
    isBehind (x.inBytes ts) (y.inBytes ts) = isBehind x y := by
  obtain ⟨line, hline, hstop⟩ := Occurrence.bounds_of_mem_ofLines hy
  rcases eq_or_ne y.line x.line with heq | hne
  · have hline' : ts[x.line]? = some line := heq ▸ hline
    simp [isBehind, Position.le, Occurrence.inBytes, hline', heq, byteOffset_le_iff hstop]
  · have hle : ∀ i j, Position.le (y.line, i) (x.line, j) = decide (y.line < x.line) := by
      simp [Position.le, hne]
    rw [isBehind, Occurrence.line_inBytes, Occurrence.line_inBytes, hle, isBehind, hle]

end

theorem restoreClosers_eq (ts gs : List Text) :
    restoreClosers ts gs = some (StructureRepair.restoreClosers ts gs).1 := by
  rw [restoreClosers, StructureRepair.restoreClosers]
  simp only [occurrences_eq, Option.bind_eq_bind, Option.bind_some, unclosed_eq,
    Occurrences.distinctMarkers_inBytes]
  generalize (Occurrences.distinctMarkers (Occurrence.ofLines ts)).filter _ = tables
  have hmem : ∀ x ∈ tables.flatMap (StructureRepair.unclosedOf ts gs),
      x ∈ Occurrence.ofLines ts := fun x hx => by
    obtain ⟨m, -, hx⟩ := List.mem_flatMap.1 hx
    exact StructureRepair.mem_ofLines_of_mem_unclosedOf hx
  generalize tables.flatMap (StructureRepair.unclosedOf ts gs) = targets at hmem ⊢
  rw [← List.map_mergeSort fun x _ y hy => (isBehind_inBytes (hmem y hy)).symm]
  refine insertClosers_eq (fun x hx => ?_)
    (StructureRepair.pairwise_mergeSort_places _)
  obtain ⟨line, hline, hstop⟩ := Occurrence.bounds_of_mem_ofLines
    (hmem x (List.mem_mergeSort.1 hx))
  exact ⟨line, line, hline, hline, hstop, rfl⟩

/-! ## Half-closed styles -/

/-- Opening less closing braces in the code of all lines. -/
def documentBalance : List Text → Checked Int
  | [] => some 0
  | line :: rest => do
    let code ← codePart line
    let tokens ← skeleton code
    let balance ← documentBalance rest
    some (braceBalance tokens + balance)

/-- Close at most `budget` half-closed styles of a line; how many more may be closed. -/
def closeInLine : Nat → Text → Checked (Text × Nat)
  | 0, line => some (line, 0)
  | budget + 1, line => do
    let code ← codePart line
    match StructureRepair.halfClosed? code with
    | none => some (line, budget + 1)
    | some i =>
      let line' ← insert line (byteOffset code i) ['}']
      closeInLine budget line'

/-- Close at most `budget` half-closed styles in lines. -/
def closeInLines (budget : Nat) : List Text → Checked (List Text)
  | [] => some []
  | line :: rest => do
    let (line', budget') ← closeInLine budget line
    let rest' ← closeInLines budget' rest
    some (line' :: rest')

/-- Close half-closed styles, as many as the rendition has more open braces than the guide. -/
def closeStyles (ts gs : List Text) : Checked (List Text) := do
  let ours ← documentBalance ts
  let theirs ← documentBalance gs
  closeInLines (ours - theirs).toNat ts

@[simp]
theorem documentBalance_eq (lines : List Text) :
    documentBalance lines = some (LatexRepair.documentBalance lines) := by
  induction lines with
  | nil => rfl
  | cons line rest ih =>
    rw [documentBalance, codePart_eq, ih]
    simp only [Option.bind_eq_bind, Option.bind_some, skeleton_eq, braceBalance_inBytes]
    rfl

theorem closeInLine_eq (budget : Nat) (line : Text) :
    closeInLine budget line = some ((StructureRepair.closeInLine budget line).1,
      budget - (StructureRepair.closeInLine budget line).2) := by
  induction budget generalizing line with
  | zero => rfl
  | succ budget ih =>
    rw [closeInLine, codePart_eq, Option.bind_eq_bind, Option.bind_some,
      StructureRepair.closeInLine]
    cases hplace : StructureRepair.halfClosed? (LatexRepair.codePart line) with
    | none => rfl
    | some i =>
      have hi := (List.getElem?_eq_some_iff.1 (StructureRepair.getElem?_of_halfClosed? hplace).1).1
      dsimp only
      rw [byteOffset_codePart (Nat.le_of_lt hi), insert_byteOffset, Option.bind_some, ih,
        Nat.add_sub_add_right]

theorem closeInLines_eq (budget number : Nat) (lines : List Text) :
    closeInLines budget lines = some (StructureRepair.closeInLines budget number lines).1 := by
  induction lines generalizing budget number with
  | nil => rfl
  | cons line rest ih =>
    rw [closeInLines, closeInLine_eq, StructureRepair.closeInLines]
    simp only [Option.bind_eq_bind, Option.bind_some, ih _ (number + 1)]

theorem closeStyles_eq (ts gs : List Text) :
    closeStyles ts gs = some (StructureRepair.closeStyles ts gs).1 := by
  rw [closeStyles, documentBalance_eq, documentBalance_eq, StructureRepair.closeStyles]
  exact closeInLines_eq _ 1 ts

/-! ## Trailing braces -/

/-- The rendition with no more trailing braces than the guide. -/
def trimBraces (rendition guide : Text) : Checked Text := do
  let ours := StructureRepair.trailingBraces rendition
  let theirs := StructureRepair.trailingBraces guide
  if ours ≤ theirs + StructureRepair.slack then some rendition
  else
    let body := trimEnd rendition
    let tail ← sliceFrom rendition (byteLength body)
    let surplus ← sub ours theirs
    let kept := (StructureRepair.stripBraces surplus body.reverse).1.reverse
    let trimmed ← sliceTo kept (byteLength (trimEnd kept))
    some (trimmed ++ tail)

theorem trimBraces_eq (rendition guide : Text) :
    trimBraces rendition guide =
      some (((StructureRepair.trimBraces? rendition guide).map (·.1)).getD rendition) := by
  rw [trimBraces, StructureRepair.trimBraces?]
  dsimp only
  split
  · rfl
  · have hcut : ∀ t : Text, ∃ s, trimEnd t ++ s = t := fun t => by
      obtain ⟨s, hs, -⟩ := exists_trimEnd t
      exact ⟨s, hs.symm⟩
    obtain ⟨tail, htail⟩ := hcut rendition
    obtain ⟨blanks, hblanks⟩ := hcut (StructureRepair.stripBraces
      (StructureRepair.trailingBraces rendition - StructureRepair.trailingBraces guide)
        (trimEnd rendition).reverse).1.reverse
    rw [sliceFrom_of_append htail, sub_of_le (by omega)]
    have hdrop : rendition.drop (trimEnd rendition).length = tail := by
      conv => lhs; rhs; rw [← htail]
      exact List.drop_left
    simp only [Option.bind_eq_bind, Option.bind_some, sliceTo_of_append hblanks, hdrop]
    rfl

/-! ## All rules -/

/-- The rules that work on lines. -/
def lineRules : List (List Text → List Text → Checked (List Text)) :=
  [dropTerminators, restoreHidden, restoreEnds, restoreClosers, closeStyles]

/-- Repair the structure of a rendition against its guide. -/
def repairStructure (rendition guide : Text) : Checked Text := do
  let gs := Text.lines guide
  let ts ← lineRules.foldlM (fun ts rule => rule ts gs) (Text.lines rendition)
  trimBraces (Text.unlines ts) guide

theorem repairStructure_eq (rendition guide : Text) :
    repairStructure rendition guide =
      some (LatexRepair.repairStructure rendition guide).content := by
  simp only [repairStructure, lineRules, List.foldlM_cons, List.foldlM_nil, dropTerminators_eq,
    restoreHidden_eq, restoreEnds_eq, restoreClosers_eq, closeStyles_eq, Option.bind_eq_bind,
    Option.pure_def, Option.bind_some, trimBraces_eq, content_repairStructure,
    StructureRepair.lineRules, List.foldl_cons, List.foldl_nil, StructureRepair.andThen]

end Checked

end LatexRepair
