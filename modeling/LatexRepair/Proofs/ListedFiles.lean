import LatexRepair.FileRepair
import LatexRepair.Proofs.TreeFrames
import Mathlib.Data.List.Perm.Basic

/-!
# Listed files

The paths of the files below a directory. The names under which a file is listed lead from the
directory to it (`FileTree.resolve_joinNames`), each file of a well-formed tree is listed once
(`FileTree.WellFormed.nodup_filesBelow`), and the backup of a document is no document
(`FileRepair.not_isDocument_backupNames`). So documents and their backups lie at places of
their own.
-/

namespace LatexRepair

/-! ## Names -/

/-- The text can be the name of an entry of a directory. -/
def Path.IsName (name : Text) : Prop :=
  name ≠ [] ∧ '/' ∉ name ∧ name ≠ ['.'] ∧ name ≠ "..".toList

instance : DecidablePred Path.IsName :=
  fun _ => inferInstanceAs (Decidable (_ ∧ _ ∧ _ ∧ _))

namespace Path

variable {p : Path} {name : Text} {names : List Text}

theorem IsName.append_backupSuffix (h : IsName name) : IsName (name ++ backupSuffix) := by
  have hlength : ∀ n : Text, n.length ≤ 2 → name ++ backupSuffix ≠ n := by
    rintro n hn rfl
    rw [List.length_append, FileTree.length_backupSuffix] at hn
    omega
  refine ⟨hlength _ (by decide), ?_, hlength _ (by decide), hlength _ (by decide)⟩
  rw [List.mem_append, not_or]
  exact ⟨h.2.1, by decide⟩

theorem IsName.isAbsolute (h : IsName name) : isAbsolute name = false := by
  refine decide_eq_false fun hhead => h.2.1 ?_
  exact List.mem_of_head? hhead

/-- The names of the backup of a file. -/
def backupNames (names : List Text) : List Text :=
  names.dropLast ++ [names.getLastD [] ++ backupSuffix]

@[simp]
theorem backupNames_append_singleton (init : List Text) (last : Text) :
    backupNames (init ++ [last]) = init ++ [last ++ backupSuffix] := by
  rw [backupNames, List.dropLast_concat, List.getLastD_concat]

theorem backupNames_inj {names names' : List Text} (hne : names ≠ []) (hne' : names' ≠ [])
    (h : backupNames names = backupNames names') : names = names' := by
  obtain ⟨init, last, rfl⟩ := (List.eq_nil_or_concat' names).resolve_left hne
  obtain ⟨init', last', rfl⟩ := (List.eq_nil_or_concat' names').resolve_left hne'
  rw [backupNames_append_singleton, backupNames_append_singleton] at h
  obtain ⟨rfl, hlast⟩ := List.append_inj' h rfl
  rw [List.append_cancel_right (List.singleton_inj.1 hlast)]

theorem backupNames_isName (hne : names ≠ []) (h : ∀ name ∈ names, IsName name) :
    ∀ name ∈ backupNames names, IsName name := by
  obtain ⟨init, last, rfl⟩ := (List.eq_nil_or_concat' names).resolve_left hne
  rw [List.forall_mem_append, List.forall_mem_singleton] at h
  rw [backupNames_append_singleton, List.forall_mem_append, List.forall_mem_singleton]
  exact ⟨h.1, h.2.append_backupSuffix⟩

/-- The path of a backup is that of its names. -/
theorem backup_joinNames (hne : names ≠ []) (h : ∀ name ∈ names, IsName name) :
    backup (joinNames p names) = joinNames p (backupNames names) := by
  obtain ⟨init, last, rfl⟩ := (List.eq_nil_or_concat' names).resolve_left hne
  rw [List.forall_mem_append, List.forall_mem_singleton] at h
  rw [backupNames_append_singleton, joinNames, joinNames, List.foldl_append, List.foldl_append]
  generalize List.foldl join p init = q
  rw [List.foldl_cons, List.foldl_nil, List.foldl_cons, List.foldl_nil, join, join,
    h.2.isAbsolute, h.2.append_backupSuffix.isAbsolute, backup]
  split
  · rfl
  · split
    · exact List.append_assoc ..
    · rw [List.append_assoc, List.cons_append]

end Path

namespace FileTree

open LatexRepair.Path

variable {tree : FileTree} {d l : Location} {p : Path} {name : Text} {names : List Text}

/-! ## Where names lead -/

/-- A single dot changes nothing before another name. -/
theorem follow_dot_bind (tree : FileTree) (d : Location) (name : Text) :
    (tree.follow d [['.']] >>= fun k => tree.follow k [name]) = tree.follow d [name] := by
  rw [follow]
  split <;> rename_i hd
  · rw [follow, hd]
    rfl
  · rw [follow, hd]
    rfl
  · rfl

/-- To follow a path and then a name is to follow the pieces of the path that are not empty,
and the name. -/
theorem follow_pathNames_bind (tree : FileTree) (p : Path) (name : Text) :
    (tree.follow [] (pathNames p) >>= fun d => tree.follow d [name]) =
      tree.follow [] ((p.splitOn '/').filter (!·.isEmpty) ++ [name]) := by
  obtain ⟨before, last, hp⟩ := (List.eq_nil_or_concat' (p.splitOn '/')).resolve_left
    (List.splitOn_ne_nil _ _)
  rw [pathNames, hp]
  simp only [List.dropLast_concat, List.getLast?_concat, Option.some.injEq, Option.getD_some]
  rw [List.filter_append]
  by_cases hlast : last = []
  · have hdrop : [last].filter (!·.isEmpty) = [] := by rw [hlast]; rfl
    rw [if_pos hlast, hdrop, List.append_nil, follow_append, bind_assoc, follow_append]
    simp only [follow_dot_bind]
  · have hkeep : [last].filter (!·.isEmpty) = [last] := by simpa using hlast
    rw [if_neg hlast, hkeep]
    exact follow_append.symm

theorem pathNames_join (hp : p ≠ []) (hname : IsName name) :
    pathNames (join p name) = (p.splitOn '/').filter (!·.isEmpty) ++ [name] := by
  have hnames : ∀ q : Path,
      pathNames (q ++ '/' :: name) = (q.splitOn '/').filter (!·.isEmpty) ++ [name] := by
    intro q
    rw [pathNames, List.splitOn_append_cons_self, List.splitOn_eq_singleton hname.2.1]
    simp only [List.dropLast_concat, List.getLast?_concat, Option.some.injEq, Option.getD_some,
      if_neg hname.1]
  rw [join, hname.isAbsolute, Bool.false_or, if_neg (by simpa using hp)]
  split
  · rename_i hslash
    obtain ⟨q, rfl⟩ : ∃ q, p = q ++ ['/'] := List.getLast?_eq_some_iff.1 hslash
    rw [List.append_assoc, List.singleton_append, hnames, List.splitOn_append_cons_self,
      List.splitOn_nil, List.filter_append]
    simp
  · exact hnames p

/-- A name behind a path leads to the entry of the directory that the path leads to. -/
theorem resolve_join (tree : FileTree) (hp : p ≠ []) (hname : IsName name) :
    tree.resolve (join p name) = tree.resolve p >>= fun d => tree.follow d [name] := by
  have hjoin : ((join p name).isEmpty || isAbsolute (join p name)) =
      (p.isEmpty || isAbsolute p) := by
    obtain ⟨c, r, rfl⟩ := List.exists_cons_of_ne_nil hp
    rw [join, hname.isAbsolute, Bool.false_or, if_neg (by simp)]
    split <;> rfl
  rw [resolve, hjoin, resolve]
  split
  · rfl
  · rw [pathNames_join hp hname, follow_pathNames_bind]

theorem join_ne_nil (hp : p ≠ []) : join p name ≠ [] := by
  unfold join
  split
  · rename_i h
    rintro rfl
    simp [isAbsolute, hp] at h
  · split
    · exact List.append_ne_nil_of_left_ne_nil hp _
    · exact List.append_ne_nil_of_left_ne_nil hp _

/-- Names behind a path lead on from where the path leads. -/
theorem resolve_joinNames (tree : FileTree) (hp : p ≠ []) (hnames : ∀ name ∈ names, IsName name) :
    tree.resolve (joinNames p names) = tree.resolve p >>= fun d => tree.follow d names := by
  induction names generalizing p with
  | nil => exact (bind_pure (tree.resolve p)).symm
  | cons name names ih =>
    rw [List.forall_mem_cons] at hnames
    have hcons : ∀ d, tree.follow d (name :: names) =
        tree.follow d [name] >>= fun k => tree.follow k names :=
      fun d => (follow_append : tree.follow d ([name] ++ names) = _)
    simp only [joinNames, List.foldl_cons] at ih ⊢
    rw [ih (join_ne_nil hp) hnames.2, resolve_join tree hp hnames.1, bind_assoc]
    simp only [hcons]

/-- Names of entries lead down. -/
theorem eq_append_of_follow (hnames : ∀ name ∈ names, IsName name)
    (h : tree.follow d names = .ok l) : l = d ++ names := by
  induction names generalizing d with
  | nil =>
    rw [follow] at h
    rw [← Except.ok.inj h, List.append_nil]
  | cons name names ih =>
    rw [List.forall_mem_cons] at hnames
    rw [follow] at h
    split at h
    · cases h
    · cases h
    · rw [if_neg hnames.1.2.2.1, if_neg hnames.1.2.2.2] at h
      rw [ih hnames.2 h, List.append_assoc, List.singleton_append]

/-- The path of a listed file leads to it, if it leads anywhere. -/
theorem eq_append_of_resolve (hd : tree.resolve p = .ok d) (hnames : ∀ name ∈ names, IsName name)
    (h : tree.resolve (joinNames p names) = .ok l) : l = d ++ names := by
  have hp : p ≠ [] := by
    rintro rfl
    cases hd
  rw [resolve_joinNames tree hp hnames, hd] at h
  exact eq_append_of_follow hnames h

/-! ## Well-formed trees -/

/-- Each place is stored once, under names of entries. -/
structure WellFormed (tree : FileTree) : Prop where
  once : (tree.entries.map (·.1)).Nodup
  named : ∀ e ∈ tree.entries, ∀ name ∈ e.1, IsName name

theorem filesBelow_eq_ok_iff {files : List (List Text)} :
    tree.filesBelow p = .ok files ↔ ∃ d, tree.resolve p = .ok d ∧
      tree.find? d = some .directory ∧ files = tree.entries.filterMap (fileBelow? d) := by
  unfold filesBelow
  constructor
  · intro h
    split at h
    · cases h
    · rename_i hdirectory
      obtain ⟨d, hresolve, hd⟩ := requireDirectory_eq_ok_iff.1 hdirectory
      rw [hresolve] at h
      exact ⟨d, hresolve, hd, (Except.ok.inj h).symm⟩
  · rintro ⟨d, hresolve, hd, rfl⟩
    rw [requireDirectory_eq_ok_iff.2 ⟨d, hresolve, hd⟩]
    dsimp only
    rw [hresolve]

theorem fileBelow?_eq_some_iff {e : Location × FileNode} :
    fileBelow? d e = some names ↔ e.1 = d ++ names ∧ ∃ content, e.2 = .file content := by
  unfold fileBelow?
  cases e.2 with
  | directory => simp
  | file content =>
    dsimp only
    rw [Option.ite_none_right_eq_some, Option.some.injEq, List.isPrefixOf_iff_prefix]
    constructor
    · rintro ⟨⟨rest, hrest⟩, hnames⟩
      rw [← hrest, List.drop_left] at hnames
      exact ⟨by rw [← hrest, hnames], _, rfl⟩
    · rintro ⟨he, -⟩
      rw [he]
      exact ⟨List.prefix_append _ _, List.drop_left⟩

/-- Each file is listed once. -/
theorem WellFormed.nodup_filesBelow (h : tree.WellFormed) (d : Location) :
    (tree.entries.filterMap (fileBelow? d)).Nodup := by
  have honce := List.pairwise_map.1 h.once
  refine List.pairwise_filterMap.2 (honce.imp ?_)
  rintro e e' hne names he names' he' rfl
  exact hne ((fileBelow?_eq_some_iff.1 he).1.trans (fileBelow?_eq_some_iff.1 he').1.symm)

/-- Files are listed under names of entries. -/
theorem WellFormed.isName_of_mem_filesBelow (h : tree.WellFormed)
    (hnames : names ∈ tree.entries.filterMap (fileBelow? d)) : ∀ name ∈ names, IsName name := by
  obtain ⟨e, he, hbelow⟩ := List.mem_filterMap.1 hnames
  intro name hname
  refine h.named e he name ?_
  rw [(fileBelow?_eq_some_iff.1 hbelow).1]
  exact List.mem_append_right _ hname

end FileTree

/-! ## Documents -/

namespace FileRepair

open LatexRepair.Path

theorem nameExtension?_append_backupSuffix {name : Text} (h : name ≠ []) :
    nameExtension? (name ++ backupSuffix) = some "backup".toList := by
  have hreverse : (name ++ backupSuffix).reverse =
      "pukcab".toList ++ '.' :: name.reverse := by
    rw [List.reverse_append]
    rfl
  have hext : ((name ++ backupSuffix).reverse.takeWhile (· ≠ '.')).reverse =
      "backup".toList := by
    rw [hreverse, List.takeWhile_append_of_pos (by simp), List.takeWhile_cons_of_neg (by simp)]
    rfl
  have hlength : 0 < name.length := List.length_pos_iff.2 h
  rw [nameExtension?, hext]
  refine if_pos ?_
  rw [List.length_append, FileTree.length_backupSuffix]
  have : "backup".toList.length = 6 := rfl
  omega

theorem ne_nil_of_isDocument {names : List Text} (h : isDocument names = true) : names ≠ [] := by
  rintro rfl
  cases h

/-- A backup is no document. -/
theorem not_isDocument_backupNames {names : List Text} (hne : names ≠ [])
    (h : ∀ name ∈ names, IsName name) : isDocument (backupNames names) = false := by
  obtain ⟨init, last, rfl⟩ := (List.eq_nil_or_concat' names).resolve_left hne
  rw [List.forall_mem_append, List.forall_mem_singleton] at h
  rw [backupNames_append_singleton, isDocument, List.getLast?_concat, Option.bind_some,
    nameExtension?_append_backupSuffix h.2.1]
  decide

end FileRepair

end LatexRepair
