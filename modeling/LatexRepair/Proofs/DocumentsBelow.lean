import LatexRepair.Proofs.TextComparison
import LatexRepair.Proofs.ToolBackups
import Mathlib.Data.List.Nodup

/-!
# The documents below a directory

The documents of a well-formed tree below a place, in the order in which they are repaired : each
once (`FileTree.WellFormed.pairwise_documentsBelow`), and all of them
(`FileTree.WellFormed.mem_documentsBelow_iff`). The order is that of paths, name by name
(`namesLe_eq_true_iff`).

A document and its backup lie at other places than any other document and its backup
(`IsDocumentBelow.ne_places`).
-/

namespace LatexRepair

open FileRepair LatexRepair.Path FileTree

/-! ## The order of paths -/

/-- Relative paths are ordered name by name. -/
theorem namesLe_eq_true_iff {names names' : List Text} :
    namesLe names names' = true ↔ names ≤ names' := by
  rw [← not_lt]
  induction names generalizing names' with
  | nil => exact iff_of_true rfl (List.not_lt_nil names')
  | cons a names ih =>
    cases names' with
    | nil => exact iff_of_false nofun (not_not.2 (List.nil_lt_cons a names))
    | cons b names' =>
      rw [namesLe, List.cons_lt_cons_iff]
      by_cases heq : a = b
      · rw [if_pos heq, ih]
        simp [heq]
      · rw [if_neg heq, Text.le_eq_true_iff, ← not_lt]
        simp [Ne.symm heq]

theorem pairwise_mergeSort_namesLe {names : List (List Text)} (h : names.Nodup) :
    (names.mergeSort namesLe).Pairwise (· < ·) := by
  have hle : (names.mergeSort namesLe).Pairwise fun a b => namesLe a b = true :=
    List.pairwise_mergeSort
      (fun a b c => by simpa only [namesLe_eq_true_iff] using le_trans)
      (fun a b => by simpa only [Bool.or_eq_true, namesLe_eq_true_iff] using le_total a b) names
  have hne : (names.mergeSort namesLe).Nodup := (List.mergeSort_perm names namesLe).nodup_iff.2 h
  exact hle.imp₂ (fun a b hab hne => lt_of_le_of_ne (namesLe_eq_true_iff.1 hab) hne) hne

/-- Documents with the same relative path have the same names. -/
theorem IsDocumentBelow.ofNames_inj {names names' : List Text} (h : IsDocumentBelow names)
    (h' : IsDocumentBelow names') (heq : ofNames names = ofNames names') : names = names' := by
  have hsplit : ∀ {names : List Text}, IsDocumentBelow names →
      (ofNames names).splitOn '/' = names := fun h =>
    List.splitOn_intercalate '/' (fun name hname => (h.2 name hname).2.1) h.ne_nil
  rw [← hsplit h, heq, hsplit h']

/-! ## Documents -/

section

variable {d k l : Location} {names names' : List Text} {tree : FileTree} {n : FileNode}

/-- The names of all documents below a place, in the order in which they are repaired. -/
def FileTree.documentsBelow (tree : FileTree) (d : Location) : List (List Text) :=
  ((tree.entries.filterMap (fileBelow? d)).filter isDocument).mergeSort namesLe

theorem FileTree.WellFormed.find?_eq_some_iff (h : tree.WellFormed) (hl : l ≠ []) :
    tree.find? l = some n ↔ (l, n) ∈ tree.entries := by
  rw [FileTree.find?, if_neg (by simpa using hl), Option.map_eq_some_iff]
  constructor
  · rintro ⟨e, he, rfl⟩
    obtain rfl : e.1 = l := by simpa using List.find?_some he
    exact List.mem_of_find?_eq_some he
  · intro hmem
    cases hfind : tree.entries.find? (·.1 = l) with
    | none => simpa using List.find?_eq_none.1 hfind _ hmem
    | some e =>
      have hplace : e.1 = l := by simpa using List.find?_some hfind
      have heq : e = (l, n) :=
        List.inj_on_of_nodup_map h.once (List.mem_of_find?_eq_some hfind) hmem hplace
      exact ⟨e, rfl, by rw [heq]⟩

theorem FileTree.WellFormed.mem_documentsBelow_iff (h : tree.WellFormed) :
    names ∈ tree.documentsBelow d ↔
      isDocument names = true ∧ ∃ content, tree.find? (d ++ names) = some (.file content) := by
  rw [documentsBelow, (List.mergeSort_perm _ _).mem_iff, List.mem_filter, and_comm]
  refine and_congr_right fun hdocument => ?_
  have hne : d ++ names ≠ [] :=
    List.append_ne_nil_of_right_ne_nil d (ne_nil_of_isDocument hdocument)
  rw [List.mem_filterMap]
  simp only [h.find?_eq_some_iff hne, fileBelow?_eq_some_iff]
  constructor
  · rintro ⟨⟨l, n⟩, hmem, rfl, content, rfl⟩
    exact ⟨content, hmem⟩
  · rintro ⟨content, hmem⟩
    exact ⟨_, hmem, rfl, content, rfl⟩

theorem FileTree.WellFormed.isDocumentBelow (h : tree.WellFormed)
    (hmem : names ∈ tree.documentsBelow d) : IsDocumentBelow names := by
  obtain ⟨hlisted, hdocument⟩ := List.mem_filter.1 ((List.mergeSort_perm _ _).mem_iff.1 hmem)
  exact ⟨hdocument, h.isName_of_mem_filesBelow hlisted⟩

theorem FileTree.WellFormed.pairwise_documentsBelow (h : tree.WellFormed) (d : Location) :
    (tree.documentsBelow d).Pairwise (· < ·) :=
  pairwise_mergeSort_namesLe ((h.nodup_filesBelow d).filter _)

theorem FileTree.WellFormed.nodup_documentsBelow (h : tree.WellFormed) (d : Location) :
    (tree.documentsBelow d).Nodup :=
  (h.pairwise_documentsBelow d).imp ne_of_lt

/-- A document and its backup lie at other places than another document and its backup. -/
theorem IsDocumentBelow.ne_places (h : IsDocumentBelow names) (h' : IsDocumentBelow names')
    (hne : names ≠ names') (hk : k = d ++ names ∨ k = d ++ backupNames names) :
    k ≠ d ++ names' ∧ k ≠ d ++ backupNames names' := by
  rcases hk with rfl | rfl
  · exact ⟨fun heq => hne (List.append_cancel_left heq),
      fun heq => h.ne_backupNames h' (List.append_cancel_left heq)⟩
  · exact ⟨fun heq => h'.ne_backupNames h (List.append_cancel_left heq).symm,
      fun heq => hne (backupNames_inj h.ne_nil h'.ne_nil (List.append_cancel_left heq))⟩

/-! ## Backups -/

theorem isDocument_append (d : Location) (h : names ≠ []) :
    isDocument (d ++ names) = isDocument names := by
  rw [isDocument, isDocument, List.getLast?_append_of_ne_nil d h]

theorem backupNames_append (d : Location) (h : names ≠ []) :
    backupNames (d ++ names) = d ++ backupNames names := by
  obtain ⟨init, last, rfl⟩ := (List.eq_nil_or_concat' names).resolve_left h
  rw [backupNames_append_singleton, ← List.append_assoc, backupNames_append_singleton,
    List.append_assoc]

/-- The place is that of the backup of a document of the tree. -/
def FileTree.IsBackup (tree : FileTree) (l : Location) : Prop :=
  ∃ k content, tree.find? k = some (.file content) ∧ isDocument k = true ∧ l = backupNames k

theorem FileTree.WellFormed.isBackup_of_mem (h : tree.WellFormed)
    (hmem : names ∈ tree.documentsBelow d) : tree.IsBackup (d ++ backupNames names) := by
  obtain ⟨hdocument, content, hfile⟩ := h.mem_documentsBelow_iff.1 hmem
  have hne := ne_nil_of_isDocument hdocument
  exact ⟨d ++ names, content, hfile, by rwa [isDocument_append d hne],
    (backupNames_append d hne).symm⟩

end

end LatexRepair
