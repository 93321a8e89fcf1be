import LatexRepair.FileTree
import Mathlib.Logic.Basic

/-!
# Storing files in trees

What storing a file leaves as it was. A file is stored only at a place without a directory, so
the directories stay the same, and every path leads where it led
(`FileTree.SameDirectories.resolve`). A path that can be written can be written again
(`FileTree.Replaceable.put`).

The backup of a path lies beside it, at another place (`FileTree.exists_resolve_backup`).
-/

namespace LatexRepair

namespace FileTree

variable {tree tree' : FileTree} {k l : Location} {p : Path} {content : ByteArray}

/-! ## Directories stay -/

theorem ne_nil_of_find?_ne (h : tree.find? l ≠ some .directory) : l ≠ [] := by
  rintro rfl
  exact h rfl

/-- The two trees have the same directories. -/
def SameDirectories (tree tree' : FileTree) : Prop :=
  ∀ l, tree'.find? l = some .directory ↔ tree.find? l = some .directory

namespace SameDirectories

protected theorem refl (tree : FileTree) : SameDirectories tree tree :=
  fun _ => Iff.rfl

protected theorem trans {tree'' : FileTree} (h : SameDirectories tree tree')
    (h' : SameDirectories tree' tree'') : SameDirectories tree tree'' :=
  fun l => (h' l).trans (h l)

/-- A file is stored where no directory is. -/
theorem put (h : tree.find? l ≠ some .directory) (content : ByteArray) :
    SameDirectories tree (tree.put l (.file content)) := by
  intro k
  rcases eq_or_ne k l with rfl | hne
  · rw [find?_put_self tree (ne_nil_of_find?_ne h)]
    exact ⟨nofun, fun hk => absurd hk h⟩
  · rw [find?_put_of_ne tree hne]

/-- Names lead where they led. -/
theorem follow (h : SameDirectories tree tree') {names : List Text}
    (hk : tree.follow k names = .ok l) : tree'.follow k names = .ok l := by
  induction names generalizing k with
  | nil => exact hk
  | cons name names ih =>
    rw [FileTree.follow] at hk ⊢
    split at hk
    · cases hk
    · cases hk
    · rename_i hdirectory
      rw [(h k).2 hdirectory]
      dsimp only at hk ⊢
      split at hk
      · rename_i hdot
        rw [if_pos hdot]
        exact ih hk
      · rename_i hdot
        rw [if_neg hdot]
        split at hk
        · rename_i hdots
          rw [if_pos hdots]
          split at hk
          · cases hk
          · rename_i hroot
            rw [if_neg hroot]
            exact ih hk
        · rename_i hdots
          rw [if_neg hdots]
          exact ih hk

/-- A path leads where it led. -/
theorem resolve (h : SameDirectories tree tree') (hp : tree.resolve p = .ok k) :
    tree'.resolve p = .ok k := by
  unfold FileTree.resolve at hp ⊢
  split at hp
  · cases hp
  · rename_i hrelative
    rw [if_neg hrelative]
    exact h.follow hp

/-- What is stored at the end of a path is read. -/
theorem read_eq (h : SameDirectories tree tree') (hp : tree.resolve p = .ok k)
    (hfind : tree'.find? k = tree.find? k) : tree'.read p = tree.read p := by
  rw [read, read, hp, h.resolve hp]
  dsimp only
  rw [hfind]

end SameDirectories

/-- A file that is stored where no directory is hides none. -/
theorem find?_put_of_directory (h : tree.find? l ≠ some .directory)
    (hk : tree.find? k = some .directory) :
    (tree.put l (.file content)).find? k = some .directory :=
  (SameDirectories.put h content k).2 hk

theorem resolve_put (h : tree.find? l ≠ some .directory) (hp : tree.resolve p = .ok k) :
    (tree.put l (.file content)).resolve p = .ok k :=
  (SameDirectories.put h content).resolve hp

/-! ## Reading and writing -/

theorem read_eq_ok_iff :
    tree.read p = .ok content ↔
      ∃ l, tree.resolve p = .ok l ∧ tree.find? l = some (.file content) := by
  unfold read
  cases tree.resolve p with
  | error fault => simp
  | ok l =>
    cases hl : tree.find? l with
    | none => simp [hl]
    | some node => cases node <;> simp [hl]

theorem requireDirectory_eq_ok_iff :
    tree.requireDirectory p = .ok () ↔
      ∃ l, tree.resolve p = .ok l ∧ tree.find? l = some .directory := by
  unfold requireDirectory
  cases tree.resolve p with
  | error fault => simp
  | ok l =>
    cases hl : tree.find? l with
    | none => simp [hl]
    | some node => cases node <;> simp [hl]

/-- A file can be stored under the path `p`, at the place `l`. -/
structure Writable (tree : FileTree) (p : Path) (l : Location) : Prop where
  named : namesEntry p = true
  slash : p.getLast? ≠ some '/'
  resolve : tree.resolve p = .ok l
  free : tree.find? l ≠ some .directory
  parent : tree.find? l.dropLast = some .directory

/-- A file is stored where it can be. -/
theorem write_eq_ok_iff :
    tree.write p content = .ok tree' ↔
      ∃ l, tree.Writable p l ∧ tree' = tree.put l (.file content) := by
  constructor
  · intro h
    unfold write at h
    split at h
    · cases h
    · rename_i hnamed
      split at h
      · cases h
      · rename_i hslash
        split at h
        · cases h
        · rename_i l hresolve
          split at h
          · cases h
          · rename_i hfree
            split at h
            · rename_i hparent
              obtain rfl := Except.ok.inj h
              exact ⟨l, ⟨by simpa using hnamed, hslash, hresolve, hfree, hparent⟩, rfl⟩
            · cases h
            · cases h
  · rintro ⟨l, ⟨hnamed, hslash, hresolve, hfree, hparent⟩, rfl⟩
    unfold write
    rw [hnamed, if_neg (by decide), if_neg hslash, hresolve]
    dsimp only
    split
    · exact absurd ‹_› hfree
    · rw [hparent]

/-- The file under the path `p`, at the place `l`, can be replaced. -/
structure Replaceable (tree : FileTree) (p : Path) (l : Location) : Prop
    extends tree.Writable p l where
  directory : tree.requireDirectory (Path.directory p) = .ok ()

theorem replace_eq_ok_iff :
    tree.replace p content = .ok tree' ↔
      ∃ l, tree.Replaceable p l ∧ tree' = tree.put l (.file content) := by
  unfold replace
  cases hdirectory : tree.requireDirectory (Path.directory p) with
  | error fault =>
    refine ⟨nofun, ?_⟩
    rintro ⟨l, h, -⟩
    exact nomatch hdirectory.symm.trans h.directory
  | ok _ =>
    dsimp only
    constructor
    · intro h
      split at h
      · cases h
      · rename_i hw
        obtain rfl := Except.ok.inj h
        obtain ⟨l, hl, htree⟩ := write_eq_ok_iff.1 hw
        exact ⟨l, ⟨hl, hdirectory⟩, htree⟩
    · rintro ⟨l, hl, htree⟩
      rw [write_eq_ok_iff.2 ⟨l, hl.toWritable, htree⟩]

/-- What can be replaced can be replaced when another file has been stored. -/
theorem Replaceable.put (hp : tree.Replaceable p k) (h : tree.find? l ≠ some .directory) :
    (tree.put l (.file content)).Replaceable p k where
  named := hp.named
  slash := hp.slash
  resolve := resolve_put h hp.resolve
  free := by
    rcases eq_or_ne k l with rfl | hne
    · rw [find?_put_self tree (ne_nil_of_find?_ne h)]
      nofun
    · rw [find?_put_of_ne tree hne]
      exact hp.free
  parent := find?_put_of_directory h hp.parent
  directory := by
    obtain ⟨d, hresolve, hd⟩ := requireDirectory_eq_ok_iff.1 hp.directory
    exact requireDirectory_eq_ok_iff.2 ⟨d, resolve_put h hresolve, find?_put_of_directory h hd⟩

/-- What is stored under a path is read from it. -/
theorem Replaceable.read_put (hp : tree.Replaceable p l) :
    (tree.put l (.file content)).read p = .ok content :=
  read_eq_ok_iff.2 ⟨l, (hp.put hp.free).resolve, find?_put_self tree (ne_nil_of_find?_ne hp.free) _⟩

/-- A file stays when another one is stored. -/
theorem read_put_of_ne (h : tree.find? l ≠ some .directory) {old : ByteArray}
    (hk : tree.resolve p = .ok k) (hne : k ≠ l) (hread : tree.read p = .ok old) :
    (tree.put l (.file content)).read p = .ok old := by
  obtain ⟨k', hk', hfile⟩ := read_eq_ok_iff.1 hread
  obtain rfl := Except.ok.inj (hk.symm.trans hk')
  exact read_eq_ok_iff.2 ⟨k, resolve_put h hk, by rwa [find?_put_of_ne tree hne]⟩

/-! ## Backups -/

theorem follow_append {names more : List Text} :
    tree.follow k (names ++ more) = tree.follow k names >>= fun d => tree.follow d more := by
  induction names generalizing k with
  | nil => rfl
  | cons name names ih =>
    rw [List.cons_append, follow, follow]
    split
    · rfl
    · rfl
    · split
      · exact ih
      · split
        · split
          · rfl
          · exact ih
        · exact ih

/-- A last name is looked up in a directory. -/
theorem follow_singleton {name : Text} (h : tree.follow k [name] = .ok l) :
    tree.find? k = some .directory ∧ (l = k ∨ l = k.dropLast ∨ l = k ++ [name]) := by
  rw [follow] at h
  split at h
  · cases h
  · cases h
  · rename_i hdirectory
    refine ⟨hdirectory, ?_⟩
    split at h
    · exact .inl (Except.ok.inj h).symm
    · split at h
      · split at h
        · cases h
        · exact .inr (.inl (Except.ok.inj h).symm)
      · exact .inr (.inr (Except.ok.inj h).symm)

/-- Text without a separator at the end belongs to the last piece. -/
theorem exists_splitOn_append {sep : Char} (s : Text) {t : Text} (ht : sep ∉ t) :
    ∃ before last, s.splitOn sep = before ++ [last] ∧
      (s ++ t).splitOn sep = before ++ [last ++ t] := by
  induction s with
  | nil => exact ⟨[], [], List.splitOn_nil sep, List.splitOn_eq_singleton ht⟩
  | cons c s ih =>
    obtain ⟨before, last, hs, hst⟩ := ih
    rw [List.cons_append, List.splitOn_cons_eq_if_modifyHead,
      List.splitOn_cons_eq_if_modifyHead, hs, hst]
    split
    · exact ⟨[] :: before, last, rfl, rfl⟩
    · cases before with
      | nil => exact ⟨[], c :: last, rfl, rfl⟩
      | cons b before => exact ⟨(c :: b) :: before, last, rfl, rfl⟩

theorem length_backupSuffix : Path.backupSuffix.length = 7 := by
  decide

/-- The names of a backup are those of its file, but for the last one. -/
theorem exists_pathNames_backup (p : Path) :
    ∃ names last, pathNames p = names ++ [if last = [] then ['.'] else last] ∧
      pathNames (Path.backup p) = names ++ [last ++ Path.backupSuffix] := by
  obtain ⟨before, last, hp, hbackup⟩ :=
    exists_splitOn_append p (show '/' ∉ Path.backupSuffix by decide)
  refine ⟨before.filter (!·.isEmpty), last, ?_, ?_⟩
  · rw [pathNames, hp]
    simp only [List.dropLast_concat, List.getLast?_concat, Option.some.injEq, Option.getD_some]
  · have hne : last ++ Path.backupSuffix ≠ [] :=
      List.append_ne_nil_of_right_ne_nil _ (List.ne_nil_of_length_eq_add_one length_backupSuffix)
    rw [pathNames, Path.backup, hbackup]
    simp only [List.dropLast_concat, List.getLast?_concat, Option.some.injEq, Option.getD_some,
      if_neg hne]

/-- A name that is neither one dot nor two leads into a directory. -/
theorem follow_name {name : Text} (hk : tree.find? k = some .directory) (hdot : name ≠ ['.'])
    (hdots : name ≠ "..".toList) : tree.follow k [name] = .ok (k ++ [name]) := by
  rw [follow, hk]
  dsimp only
  rw [if_neg hdot, if_neg hdots, follow]

/-- Where a path leads, the path of its backup leads to another place. -/
theorem exists_resolve_backup (h : tree.resolve p = .ok l) :
    ∃ l', tree.resolve (Path.backup p) = .ok l' ∧ l' ≠ l := by
  unfold resolve at h
  split at h
  · cases h
  · rename_i hrelative
    have hbackup : ¬((Path.backup p).isEmpty || Path.isAbsolute (Path.backup p)) = true := by
      cases p with
      | nil => exact absurd rfl hrelative
      | cons c r => exact hrelative
    obtain ⟨names, last, hp, hnames⟩ := exists_pathNames_backup p
    rw [hp, follow_append] at h
    rw [resolve, if_neg hbackup, hnames, follow_append]
    cases hd : tree.follow [] names with
    | error fault =>
      rw [hd] at h
      cases h
    | ok d =>
      replace h : tree.follow d [if last = [] then ['.'] else last] = .ok l := by
        rwa [hd] at h
      obtain ⟨hdirectory, hl⟩ := follow_singleton h
      have hlength : ∀ n : Text, n.length ≤ 2 → last ++ Path.backupSuffix ≠ n := by
        rintro n hn rfl
        rw [List.length_append, length_backupSuffix] at hn
        omega
      refine ⟨d ++ [last ++ Path.backupSuffix], follow_name hdirectory (hlength _ (by decide))
        (hlength _ (by decide)), ?_⟩
      -- The backup has the longer name.
      rintro rfl
      rcases hl with hl | hl | hl
      · simpa using congrArg List.length hl
      · have := congrArg List.length hl
        simp at this
        omega
      · have hname := List.singleton_inj.1 (List.append_cancel_left hl)
        split at hname
        · exact hlength _ (by decide) hname
        · have hsum := congrArg List.length hname
          rw [List.length_append, length_backupSuffix] at hsum
          omega

end FileTree

end LatexRepair
