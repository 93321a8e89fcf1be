import LatexRepair.Marker
import LatexRepair.Proofs.Reading
import LatexRepair.Proofs.ScanSteps
import Mathlib.Data.List.Induction

/-!
# Words of environment markers

The `\begin` and `\end` lexemes of a document, in reading order, are a word of markers. A
word is `WellNested` when it is a sequence of groups, each a beginning and an end of one
name around a well nested word.

`nest K w` reads a word with the names `K` open, innermost first, and fails where an end
does not have the name of the innermost open environment. `nest_nil_eq_some_nil_iff` : it
accepts the well nested words. A scan finds nothing wrong with the environments of a
document as long as `nest` accepts them (`ScanState.run_nest`).
-/

namespace LatexRepair

/-! ## Well nested words -/

/-- A word is well nested when it is empty, or a well nested word followed by one group. -/
inductive WellNested : List Marker → Prop where
  | nil : WellNested []
  | group {u v : List Marker} (name : Text) (hu : WellNested u) (hv : WellNested v) :
      WellNested (u ++ ⟨.opening, name⟩ :: (v ++ [⟨.closing, name⟩]))

/-- The word `w` leaves the environments with the names `K` open, innermost first. -/
inductive LeavesOpen : List Marker → List Text → Prop where
  | nested {w : List Marker} (hw : WellNested w) : LeavesOpen w []
  | waiting {w v : List Marker} {K : List Text} (name : Text) (hw : LeavesOpen w K)
      (hv : WellNested v) : LeavesOpen (w ++ ⟨.opening, name⟩ :: v) (name :: K)

theorem WellNested.append {u v : List Marker} (hu : WellNested u) (hv : WellNested v) :
    WellNested (u ++ v) := by
  induction hv with
  | nil => simpa using hu
  | @group v w name _ hw ih _ =>
    rw [← List.append_assoc]
    exact .group name ih hw

theorem LeavesOpen.append {w v : List Marker} {K : List Text} (hw : LeavesOpen w K)
    (hv : WellNested v) : LeavesOpen (w ++ v) K := by
  cases hw with
  | nested hw => exact .nested (hw.append hv)
  | waiting name hw hu => simpa using LeavesOpen.waiting name hw (hu.append hv)

theorem LeavesOpen.closing {w : List Marker} {name : Text} {K : List Text}
    (hw : LeavesOpen w (name :: K)) : LeavesOpen (w ++ [⟨.closing, name⟩]) K := by
  cases hw with
  | waiting _ hw hv => simpa using hw.append (.group name .nil hv)

/-! ## Reading a word -/

/-- Take in a marker with the names `K` open. -/
def nestStep (K : List Text) (m : Marker) : Option (List Text) :=
  match m.kind, K with
  | .opening, K => some (m.name :: K)
  | .closing, [] => none
  | .closing, name :: K => if name = m.name then some K else none

/-- Read a word with the names `K` open. -/
def nest (K : List Text) (w : List Marker) : Option (List Text) :=
  w.foldlM nestStep K

theorem nest_append (K : List Text) (w v : List Marker) :
    nest K (w ++ v) = (nest K w).bind fun K => nest K v :=
  List.foldlM_append

theorem nest_cons (K : List Text) (m : Marker) (w : List Marker) :
    nest K (m :: w) = (nestStep K m).bind fun K => nest K w :=
  List.foldlM_cons

theorem nest_opening_cons {K : List Text} {name : Text} {w : List Marker} :
    nest K (⟨.opening, name⟩ :: w) = nest (name :: K) w :=
  nest_cons ..

theorem nest_closing_cons {K K' : List Text} {name : Text} {w : List Marker} :
    nest K (⟨.closing, name⟩ :: w) = some K' ↔ ∃ K₁, K = name :: K₁ ∧ nest K₁ w = some K' := by
  rw [nest_cons, Option.bind_eq_some_iff]
  refine exists_congr fun K₁ => and_congr_left fun _ => ?_
  cases K with
  | nil => simp [nestStep]
  | cons name' K => by_cases h : name' = name <;> simp [nestStep, h]

/-- A well nested word gives the open environments back as they were. -/
theorem WellNested.nest_eq {w : List Marker} (h : WellNested w) (K : List Text) :
    nest K w = some K := by
  induction h generalizing K with
  | nil => rfl
  | group name _ _ hu hv =>
    rw [nest_append, hu, Option.bind_some, nest_opening_cons, nest_append, hv, Option.bind_some]
    exact nest_closing_cons.2 ⟨K, rfl, rfl⟩

theorem leavesOpen_of_nest {w : List Marker} {K : List Text} (h : nest [] w = some K) :
    LeavesOpen w K := by
  induction w using List.reverseRecOn generalizing K with
  | nil =>
    obtain rfl := Option.some.inj h
    exact .nested .nil
  | append_singleton w m ih =>
    rw [nest_append] at h
    obtain ⟨K', hK', h⟩ := Option.bind_eq_some_iff.1 h
    have hw := ih hK'
    obtain ⟨kind, name⟩ := m
    cases kind with
    | opening =>
      rw [nest_opening_cons] at h
      obtain rfl := Option.some.inj h
      exact .waiting name hw .nil
    | closing =>
      obtain ⟨K₁, rfl, hrest⟩ := nest_closing_cons.1 h
      obtain rfl := Option.some.inj hrest
      exact hw.closing

/-- Reading accepts the well nested words. -/
theorem nest_nil_eq_some_nil_iff {w : List Marker} : nest [] w = some [] ↔ WellNested w := by
  refine ⟨fun h => ?_, fun h => h.nest_eq []⟩
  cases leavesOpen_of_nest h with
  | nested hw => exact hw

/-! ## The markers of a document -/

/-- The marker that a lexeme is. -/
def Lexeme.marker? (x : Lexeme) : Option Marker :=
  match x.token with
  | .beginEnvironment name => some ⟨.opening, name⟩
  | .endEnvironment name => some ⟨.closing, name⟩
  | _ => none

/-- The markers among some lexemes. -/
def markersOf (xs : List Lexeme) : List Marker :=
  xs.filterMap Lexeme.marker?

/-- Lexemes of the same tokens have the same markers. -/
theorem markersOf_congr {xs ys : List Lexeme} (h : xs.map (·.token) = ys.map (·.token)) :
    markersOf xs = markersOf ys := by
  induction xs generalizing ys with
  | nil =>
    obtain rfl : ys = [] := List.map_eq_nil_iff.1 h.symm
    rfl
  | cons x xs ih =>
    obtain ⟨y, ys, rfl, hy, hys⟩ := List.map_eq_cons_iff.1 h.symm
    have hmarker : x.marker? = y.marker? := by rw [Lexeme.marker?, Lexeme.marker?, hy]
    have hrest : xs.filterMap Lexeme.marker? = ys.filterMap Lexeme.marker? := ih hys.symm
    rw [markersOf, markersOf, List.filterMap_cons, List.filterMap_cons, hmarker, hrest]

namespace ScanState

/-- The names of the open environments, innermost first. -/
def openNames (s : ScanState) : List Text :=
  s.environments.map (·.name)

variable {s : ScanState}

theorem endFindings_eq_nil_iff {name : Text} {p : Position} {open_ : List OpenEnvironment} :
    endFindings name p open_ = [] ↔ ∃ top outer, open_ = top :: outer ∧ top.name = name := by
  cases open_ with
  | nil => simp [endFindings]
  | cons top outer =>
    rw [endFindings]
    by_cases h : top.name = name <;> simp [h]

theorem splitAtEnd_cons_of_eq {name : Text} {top : OpenEnvironment} (h : top.name = name)
    (outer : List OpenEnvironment) :
    splitAtEnd name (top :: outer) = ([], some top, outer) := by
  simp [splitAtEnd, List.findIdx?_cons, h]

/-- A lexeme is in order, and its marker fits the open environments, or it adds a finding. -/
theorem step_nest (h : s.findings = []) (x : Lexeme) :
    (s.step x).findings = [] ∧ x.token.isUnclosed = false ∧
        nest s.openNames x.marker?.toList = some (s.step x).openNames ∨
      (s.step x).findings ≠ [] ∧
        (x.token.isUnclosed = true ∨ nest s.openNames x.marker?.toList = none) := by
  obtain ⟨p, hacts⟩ := s.exists_acts_step x
  generalize s.step x = s' at hacts
  cases hacts with
  | begins hx => exact .inl ⟨h, by rw [hx]; rfl, by rw [Lexeme.marker?, hx]; rfl⟩
  | @ends name hx =>
    have hmarker : nest s.openNames x.marker?.toList = nestStep s.openNames ⟨.closing, name⟩ := by
      rw [Lexeme.marker?, hx, Option.toList_some, nest_cons]
      exact Option.bind_fun_some _
    rw [hmarker]
    by_cases hend : endFindings name x.start s.environments = []
    · obtain ⟨top, outer, henv, rfl⟩ := endFindings_eq_nil_iff.1 hend
      refine .inl ⟨?_, by rw [hx]; rfl, ?_⟩
      · simp [closeEnvironment, hend, h]
      · simp [openNames, nestStep, closeEnvironment, henv, splitAtEnd_cons_of_eq]
    · refine .inr ⟨by simp [closeEnvironment, hend], .inr ?_⟩
      cases henv : s.environments with
      | nil => simp [openNames, nestStep, henv]
      | cons top outer =>
        have hne : top.name ≠ name := fun heq =>
          hend (endFindings_eq_nil_iff.2 ⟨top, outer, henv, heq⟩)
        simp [openNames, nestStep, henv, hne]
  | documentClass hx => exact .inl ⟨h, by rw [hx]; rfl, by rw [Lexeme.marker?, hx]; rfl⟩
  | unclosed hx => exact .inr ⟨List.cons_ne_nil _ _, .inl (by rw [hx]; rfl)⟩
  | includes hx => exact .inl ⟨h, by rw [hx]; rfl, by rw [Lexeme.marker?, hx]; rfl⟩
  | delimits ds hx =>
    obtain ⟨token, start, stop⟩ := x
    refine .inl ⟨h, ?_, ?_⟩ <;> cases token <;> first | rfl | cases hx | skip
    rename_i closed
    cases closed
    · cases hx
    · rfl

/-- A scan finds nothing wrong with environments where all verbatim environments are closed
and all ends fit, and only there. -/
theorem run_nest (h : s.findings = []) (xs : List Lexeme) :
    (s.run xs).findings = [] ∧ (∀ x ∈ xs, x.token.isUnclosed = false) ∧
        nest s.openNames (markersOf xs) = some (s.run xs).openNames ∨
      (s.run xs).findings ≠ [] ∧
        ((∃ x ∈ xs, x.token.isUnclosed = true) ∨ nest s.openNames (markersOf xs) = none) := by
  induction xs generalizing s with
  | nil => exact .inl ⟨h, by simp, rfl⟩
  | cons x xs ih =>
    have hword : markersOf (x :: xs) = x.marker?.toList ++ markersOf xs := filterMap_cons_eq ..
    rw [run_cons, hword, nest_append]
    rcases step_nest h x with ⟨hstep, hx, hnest⟩ | ⟨hstep, hx⟩
    · rw [hnest, Option.bind_some]
      rcases ih hstep with ⟨hrun, hxs, hw⟩ | ⟨hrun, hxs | hw⟩
      · exact .inl ⟨hrun, List.forall_mem_cons.2 ⟨hx, hxs⟩, hw⟩
      · exact .inr ⟨hrun, .inl (hxs.imp fun y hy => ⟨List.mem_cons_of_mem _ hy.1, hy.2⟩)⟩
      · exact .inr ⟨hrun, .inr hw⟩
    · refine .inr ⟨findings_run_ne_nil xs hstep, ?_⟩
      rcases hx with hx | hx
      · exact .inl ⟨x, List.mem_cons_self .., hx⟩
      · exact .inr (by rw [hx]; rfl)

/-- Nothing is wrong with the environments of some lexemes exactly when their markers are
well nested and all verbatim environments are closed. -/
theorem quiet_run_iff {xs : List Lexeme} :
    (run {} xs).findings = [] ∧ (run {} xs).environments = [] ↔
      WellNested (markersOf xs) ∧ ∀ x ∈ xs, x.token.isUnclosed = false := by
  have hnames : (run {} xs).openNames = [] ↔ (run {} xs).environments = [] := List.map_eq_nil_iff
  rw [← nest_nil_eq_some_nil_iff]
  rcases run_nest (s := {}) rfl xs with ⟨hquiet, hclosed, hword⟩ | ⟨hloud, hword⟩
  · change nest [] _ = _ at hword
    rw [hword, Option.some_inj, hnames]
    exact ⟨fun h => ⟨h.2, hclosed⟩, fun h => ⟨hquiet, h.1⟩⟩
  · refine iff_of_false (fun h => hloud h.1) fun ⟨hnest, hclosed⟩ => ?_
    rcases hword with ⟨x, hx, hopen⟩ | hnone
    · rw [hclosed x hx] at hopen
      cases hopen
    · cases hnest.symm.trans hnone

end ScanState

end LatexRepair
