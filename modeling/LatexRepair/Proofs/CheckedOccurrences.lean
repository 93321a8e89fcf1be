import LatexRepair.Occurrence
import LatexRepair.Proofs.CheckedLines
import LatexRepair.Proofs.MarkerPlaces
import LatexRepair.Proofs.MarkupEdits

/-!
# Checked readings of a document

The occurrences of markers in a document, with their places as byte offsets. A marker and an
occurrence are the same as by characters but for these places
(`Checked.occurrences_eq`), and counts, states and the markers that occur do not depend on them.
-/

namespace LatexRepair

/-! ## Places of markers -/

/-- A marker lies in its line. -/
theorem bounds_of_mem_markers {line : Text} {x : PlacedMarker} (h : x ∈ markers line) :
    x.start < x.stop ∧ x.stop ≤ line.length := by
  obtain ⟨a, s, b, rfl, -, hstart, hstop⟩ := exists_spelling_of_mem_markers h
  obtain ⟨r, hr, -⟩ := s.exists_text_eq
  simp only [hr, List.length_append, List.length_cons] at hstart hstop ⊢
  omega

/-- A hidden marker lies in its line. -/
theorem bounds_of_hiddenMarker? {line : Text} {hidden : HiddenMarker}
    (h : hiddenMarker? line = some hidden) :
    hidden.start ≤ hidden.stop ∧ hidden.stop ≤ line.length := by
  obtain ⟨run, r, hline, -, hstart, hstop⟩ := exists_around_hiddenMarker h
  have hlength := congrArg List.length hline
  rw [List.length_append, List.length_append] at hlength
  omega

/-- An occurrence has its line, and lies in it. -/
theorem Occurrence.bounds_of_mem_ofLines {lines : List Text} {x : Occurrence}
    (h : x ∈ ofLines lines) : ∃ line, lines[x.line]? = some line ∧ x.stop ≤ line.length := by
  obtain ⟨line, hline, hx⟩ := mem_ofLines h
  obtain ⟨m, hm, hx⟩ := List.mem_map.1 hx
  exact ⟨line, hline, congrArg stop hx ▸ (bounds_of_mem_markers hm).2⟩

/-- An occurrence with its place as byte offset, in a document of the given lines. -/
def Occurrence.inBytes (lines : List Text) (x : Occurrence) : Occurrence :=
  { x with stop := Text.byteOffset ((lines[x.line]?).getD []) x.stop }

section

variable (lines : List Text) (x : Occurrence)

@[simp]
theorem Occurrence.marker_inBytes : (x.inBytes lines).marker = x.marker :=
  rfl

@[simp]
theorem Occurrence.line_inBytes : (x.inBytes lines).line = x.line :=
  rfl

@[simp]
theorem Occurrence.state_inBytes : (x.inBytes lines).state = x.state :=
  rfl

@[simp]
theorem Occurrence.isLive_inBytes : (x.inBytes lines).isLive = x.isLive :=
  rfl

end

namespace Occurrences

variable (m : Marker) (lines : List Text) (xs : List Occurrence)

@[simp]
theorem of_inBytes : of m (xs.map (·.inBytes lines)) = (of m xs).map (·.inBytes lines) := by
  rw [of, List.filter_map, of]
  rfl

@[simp]
theorem liveOf_inBytes :
    liveOf m (xs.map (·.inBytes lines)) = (liveOf m xs).map (·.inBytes lines) := by
  rw [liveOf, of_inBytes, List.filter_map, liveOf]
  rfl

@[simp]
theorem liveCount_inBytes : liveCount m (xs.map (·.inBytes lines)) = liveCount m xs := by
  rw [liveCount, liveOf_inBytes, List.length_map, liveCount]

@[simp]
theorem distinctMarkers_inBytes :
    distinctMarkers (xs.map (·.inBytes lines)) = distinctMarkers xs := by
  rw [distinctMarkers, List.map_map, distinctMarkers]
  rfl

end Occurrences

namespace Checked

open Text

/-! ## Occurrences -/

/-- The occurrences in a line, which has the given number of lines before it. -/
def occurrencesOfLine (index : Nat) (line : Text) : Checked (List Occurrence) := do
  let code ← codePart line
  let hidden ← hiddenMarker line
  some ((markers line).map fun m =>
    let x := m.inBytes line
    { marker := x.marker
      line := index
      state :=
        if x.start < byteLength code then .live
        else if hidden.map (·.stop) = some x.start then .restorable
        else .hidden
      stop := x.stop })

/-- The occurrences in lines that have the given number of lines before them. -/
def occurrencesFrom (index : Nat) : List Text → Checked (List Occurrence)
  | [] => some []
  | line :: rest => do
    let xs ← occurrencesOfLine index line
    let ys ← occurrencesFrom (index + 1) rest
    some (xs ++ ys)

/-- The occurrences in a document. -/
def occurrences (lines : List Text) : Checked (List Occurrence) :=
  occurrencesFrom 0 lines

/-- The place where the comment of a line starts, in bytes. -/
theorem byteLength_codePart (line : Text) :
    byteLength (LatexRepair.codePart line) =
      byteOffset line (LatexRepair.codePart line).length := by
  obtain ⟨r, hr⟩ := codePart_isPrefix line
  exact (byteOffset_of_append hr).symm

theorem occurrencesOfLine_eq (index : Nat) (line : Text) :
    occurrencesOfLine index line = some ((Occurrence.ofLine index line).map fun x =>
      { x with stop := byteOffset line x.stop }) := by
  rw [occurrencesOfLine, codePart_eq, hiddenMarker_eq, Occurrence.ofLine]
  simp only [Option.bind_eq_bind, Option.bind_some, List.map_map, Option.map_map]
  refine congrArg some (List.map_congr_left fun m hm => ?_)
  obtain ⟨hwidth, hstop⟩ := bounds_of_mem_markers hm
  have hlive : byteOffset line m.start < byteLength (LatexRepair.codePart line) ↔
      m.start < (LatexRepair.codePart line).length := by
    rw [byteLength_codePart, byteOffset_lt_iff (codePart_isPrefix line).length_le]
  have hrestorable : (hiddenMarker? line).map (fun h => byteOffset line h.stop) =
      some (byteOffset line m.start) ↔ (hiddenMarker? line).map (·.stop) = some m.start := by
    cases hhidden : hiddenMarker? line with
    | none => simp
    | some hidden =>
      rw [Option.map_some, Option.map_some, Option.some_inj, Option.some_inj,
        byteOffset_inj (bounds_of_hiddenMarker? hhidden).2 (by omega)]
  simp only [Function.comp_def, PlacedMarker.inBytes, HiddenMarker.inBytes, hlive, hrestorable]

theorem occurrencesFrom_eq (before lines : List Text) :
    occurrencesFrom before.length lines =
      some (((lines.mapIdx fun i line => Occurrence.ofLine (before.length + i) line).flatten).map
        (·.inBytes (before ++ lines))) := by
  induction lines generalizing before with
  | nil => rfl
  | cons line rest ih =>
    have hfirst : (Occurrence.ofLine before.length line).map (·.inBytes (before ++ line :: rest)) =
        (Occurrence.ofLine before.length line).map fun x =>
          { x with stop := byteOffset line x.stop } := by
      refine List.map_congr_left fun x hx => ?_
      obtain ⟨m, -, rfl⟩ := List.mem_map.1 hx
      simp [Occurrence.inBytes]
    have hrest := ih (before ++ [line])
    rw [List.length_append, List.length_singleton, List.append_assoc, List.singleton_append]
      at hrest
    rw [occurrencesFrom, occurrencesOfLine_eq, hrest, List.mapIdx_cons, List.flatten_cons,
      List.map_append]
    simp only [Nat.add_zero, hfirst, Nat.add_assoc, Nat.add_comm 1]
    rfl

/-- The occurrences in a document are found at the bytes of their places. -/
@[simp]
theorem occurrences_eq (lines : List Text) :
    occurrences lines = some ((Occurrence.ofLines lines).map (·.inBytes lines)) := by
  have h := occurrencesFrom_eq [] lines
  simp only [List.length_nil, Nat.zero_add, List.nil_append] at h
  exact h

end Checked

end LatexRepair
