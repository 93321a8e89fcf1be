import LatexRepair.Skeleton

/-!
# Occurrences of markers in a document

The markers of a document in reading order, each with its line and its state: live, hidden
by a comment in a form that deleting percent signs brings back, or hidden otherwise. Two
documents are compared marker by marker: the first occurrence of a marker in one with the
first in the other, and so on.
-/

namespace LatexRepair

/-- Whether a marker counts. -/
inductive MarkerState where
  | live
  /-- In a comment that starts with it. -/
  | restorable
  | hidden
deriving DecidableEq, Inhabited

/-- A marker in a document. -/
structure Occurrence where
  marker : Marker
  /-- The number of lines before its line. -/
  line : Nat
  state : MarkerState
  /-- The place in its line behind it. -/
  stop : Nat
deriving DecidableEq, Inhabited

namespace Occurrence

/-- The occurrences in a line, which has the given number of lines before it. -/
def ofLine (index : Nat) (line : Text) : List Occurrence :=
  let codeLength := (codePart line).length
  let restorableAt : Option Nat := (hiddenMarker? line).map (·.stop)
  (markers line).map fun m =>
    { marker := m.marker
      line := index
      state :=
        if m.start < codeLength then .live
        else if restorableAt = some m.start then .restorable
        else .hidden
      stop := m.stop }

/-- The occurrences in a document. -/
def ofLines (lines : List Text) : List Occurrence :=
  (lines.mapIdx ofLine).flatten

/-- The occurrence is live. -/
def isLive (x : Occurrence) : Bool :=
  x.state = .live

variable {x : Occurrence} {P Q : Prop} [Decidable P] [Decidable Q]

theorem isLive_iff (h : x.state = if P then .live else if Q then .restorable else .hidden) :
    x.isLive = true ↔ P := by
  rw [isLive, h]
  split
  · simp_all
  · split <;> simp_all

theorem restorable_iff (h : x.state = if P then .live else if Q then .restorable else .hidden) :
    x.state = .restorable ↔ ¬P ∧ Q := by
  rw [h]
  split
  · simp_all
  · split <;> simp_all

/-- A document has the occurrences of its lines. -/
theorem mem_ofLines {ls : List Text} (h : x ∈ ofLines ls) :
    ∃ line, ls[x.line]? = some line ∧ x ∈ ofLine x.line line := by
  obtain ⟨xs, hxs, hx⟩ := List.mem_flatten.1 h
  obtain ⟨i, hi, rfl⟩ := List.mem_mapIdx.1 hxs
  obtain rfl : x.line = i := by
    obtain ⟨m, -, rfl⟩ := List.mem_map.1 hx
    rfl
  exact ⟨ls[x.line], List.getElem?_eq_getElem hi, hx⟩

end Occurrence

namespace Occurrences

/-- The occurrences of one marker. -/
def of (m : Marker) (xs : List Occurrence) : List Occurrence :=
  xs.filter (·.marker = m)

/-- The live occurrences of one marker. -/
def liveOf (m : Marker) (xs : List Occurrence) : List Occurrence :=
  (of m xs).filter (·.isLive)

/-- The number of live occurrences of one marker. -/
def liveCount (m : Marker) (xs : List Occurrence) : Nat :=
  (liveOf m xs).length

/-- The markers that occur, by their first occurrence. -/
def distinctMarkers (xs : List Occurrence) : List Marker :=
  (xs.map (·.marker)).eraseDups

end Occurrences

end LatexRepair
