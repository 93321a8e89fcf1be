import LatexRepair.Proofs.Backups
import LatexRepair.Proofs.ListedFiles

/-!
# Backups that commands leave

What the backup of a document holds when a command has rewritten the document
(`runTool_read_backup`). The repairs of `BackedUp` keep the old bytes there; the repair against a
guide stores its text directly, and what the backup held before is what it holds behind it.

The repair of a whole directory goes from document to document. Documents and their backups lie
at places of their own, so what one repair leaves is not touched by the next one
(`DocumentsKept.cons`).
-/

namespace LatexRepair

open FileRepair LatexRepair.Path

/-! ## Operations that keep the directories -/

/-- The operation leaves the directories of every tree as they are. -/
def KeepsDirectories {α : Type} (x : FileOp α) : Prop :=
  ∀ tree : FileTree, tree.SameDirectories (x.on tree).2

namespace KeepsDirectories

variable {α β : Type} {x : FileOp α}

theorem of_reads (h : Reads x.run) : KeepsDirectories x := fun tree => by
  rw [FileOp.on, h tree]
  exact .refl tree

protected theorem bind {f : α → FileOp β} (hx : KeepsDirectories x)
    (hf : ∀ a, KeepsDirectories (f a)) : KeepsDirectories (x >>= f) := by
  intro tree
  have hmid := hx tree
  rcases h : x.on tree with ⟨r, tree'⟩
  rw [h] at hmid
  cases r with
  | error e =>
    rw [on_bind_of_error h]
    exact hmid
  | ok a =>
    rw [on_bind_of_ok h]
    exact hmid.trans (hf a tree')

end KeepsDirectories

theorem reads_readSource (p : Path) : Reads (readSource (m := StateM FileTree) p).run :=
  fun tree => congrArg Prod.snd (on_readSource p tree)

theorem keepsDirectories_makeBackup (p : Path) : KeepsDirectories (makeBackup p) := by
  intro tree
  rw [on_makeBackup, FileTree.copy]
  cases tree.read p with
  | error fault => exact .refl tree
  | ok old =>
    dsimp only
    cases h : tree.write (backup p) old with
    | error fault => exact .refl tree
    | ok tree' =>
      obtain ⟨l, hl, rfl⟩ := FileTree.write_eq_ok_iff.1 h
      exact .put hl.free old

theorem keepsDirectories_writeText (p : Path) (t : Text) : KeepsDirectories (writeText p t) := by
  intro tree
  rcases on_writeText_cases p t tree with ⟨e, h⟩ | ⟨l, hl, h⟩
  · rw [h]
    exact .refl tree
  · rw [h]
    exact .put hl.free _

theorem keepsDirectories_fixFile (allowBalance : Bool) (v : Option Validation) (p : Path) :
    KeepsDirectories (fixFile allowBalance v p) := by
  refine .bind (.of_reads (reads_readSource p)) fun t => .bind (keepsDirectories_makeBackup p)
    fun _ => ?_
  dsimp only
  split
  · exact .bind (keepsDirectories_writeText p _) fun _ => .of_reads (.pure _)
  · exact .of_reads (.pure _)

/-- A file that is repaired is as it was, or its backup is. -/
theorem BackedUp.read_or_read_backup {α : Type} {p : Path} {content : α → Text} {tree : FileTree}
    {after : Except Failure α × FileTree} {old : ByteArray} (h : BackedUp p content tree after)
    (hold : tree.read p = .ok old) :
    after.2.read p = .ok old ∨ after.2.read (backup p) = .ok old := by
  rw [← hold, or_iff_not_imp_left]
  intro hchanged
  obtain ⟨old', -, hold', -, -, hbackup, -⟩ := h.changed hchanged
  rw [hbackup, hold']

/-! ## All documents of a directory -/

theorem snd_run_bind {α β : Type} (x : StateM FileTree α) (f : α → StateM FileTree β)
    (tree : FileTree) :
    ((x >>= f).run tree).2 = ((f (x.run tree).1).run (x.run tree).2).2 :=
  rfl

/-- What is left of a tree when the documents with the given names, below the directory with the
path `dir` at the place `d`, have been repaired. -/
structure DocumentsKept (dir : Path) (d : Location) (docs : List (List Text))
    (tree after : FileTree) : Prop where
  directories : tree.SameDirectories after
  frame : ∀ l, (∀ names ∈ docs, l ≠ d ++ names ∧ l ≠ d ++ backupNames names) →
    after.find? l = tree.find? l
  kept : ∀ names ∈ docs, ∀ old, tree.read (joinNames dir names) = .ok old →
    after.read (joinNames dir names) = .ok old ∨
      after.read (backup (joinNames dir names)) = .ok old

/-- The names are those of a document below a directory. -/
def IsDocumentBelow (names : List Text) : Prop :=
  isDocument names = true ∧ ∀ name ∈ names, IsName name

namespace IsDocumentBelow

variable {names names' : List Text}

theorem ne_nil (h : IsDocumentBelow names) : names ≠ [] :=
  ne_nil_of_isDocument h.1

theorem ne_backupNames (h : IsDocumentBelow names) (h' : IsDocumentBelow names') :
    names ≠ backupNames names' := by
  rintro rfl
  exact absurd h.1 (by rw [not_isDocument_backupNames h'.ne_nil h'.2]; decide)

end IsDocumentBelow

section

variable {allowBalance : Bool} {dir : Path} {d : Location} {names : List Text}
  {docs : List (List Text)} {tree mid after : FileTree} {old : ByteArray}

/-- The bytes of a file are still read from its path, if its place has not changed. -/
theorem read_joinNames_of_frame (hd : tree.resolve dir = .ok d)
    (hnames : ∀ name ∈ names, IsName name) (hdirectories : tree.SameDirectories after)
    (hframe : after.find? (d ++ names) = tree.find? (d ++ names))
    (hread : tree.read (joinNames dir names) = .ok old) :
    after.read (joinNames dir names) = .ok old := by
  obtain ⟨l, hl, -⟩ := FileTree.read_eq_ok_iff.1 hread
  obtain rfl := FileTree.eq_append_of_resolve hd hnames hl
  rw [hdirectories.read_eq hl hframe, hread]

namespace DocumentsKept

protected theorem nil (dir : Path) (d : Location) (tree : FileTree) :
    DocumentsKept dir d [] tree tree where
  directories := .refl tree
  frame _ _ := rfl
  kept _ h := absurd h List.not_mem_nil

/-- Another document is repaired first. -/
protected theorem cons (hd : tree.resolve dir = .ok d) (hnames : IsDocumentBelow names)
    (hdocs : ∀ names' ∈ docs, IsDocumentBelow names') (hnew : names ∉ docs)
    (h : DocumentsKept dir d [names] tree mid) (h' : DocumentsKept dir d docs mid after) :
    DocumentsKept dir d (names :: docs) tree after where
  directories := h.directories.trans h'.directories
  frame l hl := by
    rw [List.forall_mem_cons] at hl
    rw [h'.frame l hl.2, h.frame l (List.forall_mem_singleton.2 hl.1)]
  kept := by
    have hd' : mid.resolve dir = .ok d := h.directories.resolve hd
    rw [List.forall_mem_cons]
    constructor
    · -- The other repairs leave both the document and its backup alone.
      intro old hold
      have hbackup : ∀ name ∈ backupNames names, IsName name :=
        backupNames_isName hnames.ne_nil hnames.2
      rw [backup_joinNames hnames.ne_nil hnames.2]
      refine (h.kept names (List.mem_singleton_self names) old hold).imp (fun hread => ?_)
        fun hread => ?_
      · refine read_joinNames_of_frame hd' hnames.2 h'.directories (h'.frame _ ?_) hread
        intro names' hmem
        refine ⟨fun heq => hnew ?_, fun heq => ?_⟩
        · rwa [List.append_cancel_left heq]
        · exact hnames.ne_backupNames (hdocs names' hmem) (List.append_cancel_left heq)
      · rw [backup_joinNames hnames.ne_nil hnames.2] at hread
        refine read_joinNames_of_frame hd' hbackup h'.directories (h'.frame _ ?_) hread
        intro names' hmem
        refine ⟨fun heq => ?_, fun heq => hnew ?_⟩
        · exact (hdocs names' hmem).ne_backupNames hnames (List.append_cancel_left heq).symm
        · rwa [backupNames_inj hnames.ne_nil (hdocs names' hmem).ne_nil
            (List.append_cancel_left heq)]
    · -- The first repair leaves the other documents alone.
      intro names' hmem old hold
      refine h'.kept names' hmem old
        (read_joinNames_of_frame hd (hdocs names' hmem).2 h.directories (h.frame _ ?_) hold)
      rw [List.forall_mem_singleton]
      refine ⟨fun heq => hnew ?_, fun heq => ?_⟩
      · rwa [← List.append_cancel_left heq]
      · exact (hdocs names' hmem).ne_backupNames hnames (List.append_cancel_left heq)

end DocumentsKept

/-- The repair of a listed file changes nothing or is that of a file with issues. -/
theorem snd_run_fixListed (p : Path) (tree : FileTree) :
    ((fixListed (m := StateM FileTree) allowBalance p).run tree).2 = tree ∨
      ∃ v, ((fixListed (m := StateM FileTree) allowBalance p).run tree).2 =
        (FileOp.on (fixFile allowBalance (some v) p) tree).2 := by
  have hvalidate : ((validateFile (m := StateM FileTree) p).run.run tree).2 = tree :=
    snd_on_validateFile p tree
  rw [fixListed, snd_run_bind, hvalidate]
  cases ((validateFile (m := StateM FileTree) p).run.run tree).1 with
  | error e => exact .inl rfl
  | ok v =>
    dsimp only
    split
    · exact .inl rfl
    · refine .inr ⟨v, ?_⟩
      rw [snd_run_bind, FileOp.on]
      cases ((fixFile (m := StateM FileTree) allowBalance (some v) p).run.run tree).1 <;> rfl

/-- The repair of a listed document keeps it. -/
theorem documentsKept_fixListed (allowBalance : Bool) (hd : tree.resolve dir = .ok d)
    (hnames : IsDocumentBelow names) :
    DocumentsKept dir d [names] tree
      ((fixListed (m := StateM FileTree) allowBalance (joinNames dir names)).run tree).2 := by
  rcases snd_run_fixListed (joinNames dir names) tree with h | ⟨v, h⟩
  · rw [h]
    exact ⟨.refl tree, fun _ _ => rfl, fun _ _ _ => .inl⟩
  · rw [h]
    have hkept := backedUp_fixFile (joinNames dir names) tree allowBalance (some v)
    refine ⟨keepsDirectories_fixFile allowBalance (some v) _ tree, fun l hl => ?_, ?_⟩
    · rw [List.forall_mem_singleton] at hl
      refine hkept.frame l (fun hresolve => hl.1 ?_) fun hresolve => hl.2 ?_
      · exact FileTree.eq_append_of_resolve hd hnames.2 hresolve
      · rw [backup_joinNames hnames.ne_nil hnames.2] at hresolve
        exact FileTree.eq_append_of_resolve hd (backupNames_isName hnames.ne_nil hnames.2) hresolve
    · rw [List.forall_mem_singleton]
      exact fun old => hkept.read_or_read_backup

/-- The repair of documents one after another keeps them all. -/
theorem documentsKept_fixEach (allowBalance : Bool) (hd : tree.resolve dir = .ok d)
    (hdocs : ∀ names ∈ docs, IsDocumentBelow names) (honce : docs.Nodup) :
    DocumentsKept dir d docs tree
      ((fixEach (m := StateM FileTree) allowBalance dir docs).run tree).2 := by
  induction docs generalizing tree with
  | nil => exact .nil dir d tree
  | cons names docs ih =>
    rw [List.forall_mem_cons] at hdocs
    rw [List.nodup_cons] at honce
    have hfirst := documentsKept_fixListed allowBalance hd hdocs.1
    exact hfirst.cons hd hdocs.1 hdocs.2 honce.1
      (ih (hfirst.directories.resolve hd) hdocs.2 honce.2)

/-- Each document of a directory is kept by the repair of all of them. -/
theorem fixAll_kept {files : List (List Text)} (htree : tree.WellFormed)
    (hfiles : tree.filesBelow dir = .ok files) (hmem : names ∈ files)
    (hdocument : isDocument names = true) (hold : tree.read (joinNames dir names) = .ok old) :
    (FileOp.on (fixAll dir allowBalance) tree).2.read (joinNames dir names) = .ok old ∨
      (FileOp.on (fixAll dir allowBalance) tree).2.read (backup (joinNames dir names)) =
        .ok old := by
  obtain ⟨d, hd, -, rfl⟩ := FileTree.filesBelow_eq_ok_iff.1 hfiles
  set files := tree.entries.filterMap (FileTree.fileBelow? d)
  have hon : (FileOp.on (fixAll dir allowBalance) tree).2 =
      ((fixEach (m := StateM FileTree) allowBalance dir
        ((files.filter isDocument).mergeSort namesLe)).run tree).2 := by
    have hbelow : FileOp.on (FileAccess.filesBelow dir) tree = (.ok (.ok files), tree) := by
      rw [← hfiles]
      rfl
    rw [fixAll, on_bind_of_ok hbelow]
    rfl
  have hperm := List.mergeSort_perm (files.filter isDocument) namesLe
  have hdocs : ∀ names ∈ (files.filter isDocument).mergeSort namesLe, IsDocumentBelow names := by
    intro names h
    obtain ⟨hlisted, hdoc⟩ := List.mem_filter.1 (hperm.mem_iff.1 h)
    exact ⟨hdoc, htree.isName_of_mem_filesBelow hlisted⟩
  have honce : ((files.filter isDocument).mergeSort namesLe).Nodup :=
    hperm.nodup_iff.2 ((htree.nodup_filesBelow d).filter _)
  rw [hon]
  exact (documentsKept_fixEach allowBalance hd hdocs honce).kept names
    (hperm.mem_iff.2 (List.mem_filter.2 ⟨hmem, hdocument⟩)) old hold

end

/-! ## Steps of commands -/

namespace ToolM

variable {α β : Type}

/-- The steps leave every tree as it is. -/
def Quiet (x : ToolM (StateM FileTree) α) : Prop :=
  ∀ w, Reads (x.run.run w)

/-- The steps, taken in the given tree, leave one with the property. -/
def Leaves (P : FileTree → Prop) (x : ToolM (StateM FileTree) α) (tree : FileTree) : Prop :=
  ∀ w, P ((x.run.run w).run tree).2

theorem snd_run_bind (x : ToolM (StateM FileTree) α) (f : α → ToolM (StateM FileTree) β)
    (w : Written) (tree : FileTree) :
    (((x >>= f).run.run w).run tree).2 =
      match (x.run.run w).run tree with
      | ((.error _, _), tree') => tree'
      | ((.ok a, w'), tree') => (((f a).run.run w').run tree').2 := by
  change (((ExceptT.bindCont f ((x.run.run w).run tree).1.1).run ((x.run.run w).run tree).1.2).run
    ((x.run.run w).run tree).2).2 = _
  rcases (x.run.run w).run tree with ⟨⟨r, w'⟩, tree'⟩
  cases r <;> rfl

namespace Quiet

variable {x : ToolM (StateM FileTree) α}

protected theorem pure (a : α) : Quiet (pure a) :=
  fun _ _ => rfl

protected theorem bind {f : α → ToolM (StateM FileTree) β} (hx : Quiet x) (hf : ∀ a, Quiet (f a)) :
    Quiet (x >>= f) := by
  intro w tree
  have hfirst := hx w tree
  rw [ToolM.snd_run_bind]
  rcases h : (x.run.run w).run tree with ⟨⟨r, w'⟩, tree'⟩
  obtain rfl : tree' = tree := by rwa [h] at hfirst
  cases r with
  | error e => rfl
  | ok a => exact hf a w' tree'

protected theorem ite {c : Prop} [Decidable c] {y : ToolM (StateM FileTree) α} (hx : Quiet x)
    (hy : Quiet y) : Quiet (if c then x else y) := by
  split <;> assumption

/-- To read and write no file is quiet. -/
protected theorem perform {op : FileOp α} (h : ∀ tree, (op.on tree).2 = tree) :
    Quiet (perform op) :=
  fun _ => h

protected theorem put (t : Text) : Quiet (put t) :=
  fun _ _ => rfl

protected theorem putJson (v : Json) : Quiet (putJson v) :=
  .put _

protected theorem message (s : String) : Quiet (message s) :=
  fun _ _ => rfl

protected theorem messageAll (ss : List String) : Quiet (messageAll ss) := by
  induction ss with
  | nil => exact .pure ()
  | cons s ss ih => exact .bind (.message s) fun _ => ih

end Quiet

namespace Leaves

variable {P : FileTree → Prop} {x : ToolM (StateM FileTree) α} {tree : FileTree}

protected theorem of_quiet (hx : Quiet x) (h : P tree) : Leaves P x tree := fun w => by
  rw [hx w tree]
  exact h

protected theorem perform {op : FileOp α} (h : P (op.on tree).2) : Leaves P (perform op) tree :=
  fun _ => h

/-- Quiet steps come first. -/
protected theorem quiet_bind {f : α → ToolM (StateM FileTree) β} (hx : Quiet x) (h : P tree)
    (hf : ∀ a, Leaves P (f a) tree) : Leaves P (x >>= f) tree := by
  intro w
  have hfirst := hx w tree
  rw [ToolM.snd_run_bind]
  rcases hrun : (x.run.run w).run tree with ⟨⟨r, w'⟩, tree'⟩
  obtain rfl : tree' = tree := by rwa [hrun] at hfirst
  cases r with
  | error e => exact h
  | ok a => exact hf a w'

/-- Quiet steps follow. -/
protected theorem bind_quiet {f : α → ToolM (StateM FileTree) β} (hx : Leaves P x tree)
    (hf : ∀ a, Quiet (f a)) : Leaves P (x >>= f) tree := by
  intro w
  have hfirst := hx w
  rw [ToolM.snd_run_bind]
  rcases hrun : (x.run.run w).run tree with ⟨⟨r, w'⟩, tree'⟩
  rw [hrun] at hfirst
  cases r with
  | error e => exact hfirst
  | ok a =>
    dsimp only
    rw [hf a w' tree']
    exact hfirst

end Leaves

end ToolM

/-! ## Commands -/

namespace Command

open ToolM

/-- The command repairs the document with the given path and stores it there. -/
inductive Rewrites (tree : FileTree) : Command → Path → Prop where
  | fix (p : Path) : Rewrites tree (.fix p) p
  | substitute (p : Path) (s : Substitution) : Rewrites tree (.substitute p s) p
  | repair (p : Path) (guide : Option Path) (offline : Bool) (overrides : SettingOverrides)
      (asJson : Bool) : Rewrites tree (.repair p guide offline overrides asJson) p
  | reference (p guide : Path) : Rewrites tree (.reference p guide .inPlace) p
  | fixAll (dir : Path) {files : List (List Text)} {names : List Text}
      (below : tree.filesBelow dir = .ok files) (listed : names ∈ files)
      (document : isDocument names = true) : Rewrites tree (.fixAll dir) (joinNames dir names)

/-- The command repairs a rendition against its guide, and does nothing else. -/
def isReference : Command → Bool
  | reference .. => true
  | _ => false

theorem quiet_readSource (p : Path) : Quiet (perform (readSource (m := StateM FileTree) p)) :=
  .perform (reads_readSource p)

theorem quiet_reportFixed (p : Path) (r : FixedFile) :
    Quiet (reportFixed (m := StateM FileTree) p r) :=
  .bind (.messageAll _) fun _ => .bind (.perform (snd_on_validateFile p)) fun _ => .pure _

theorem quiet_readOptional (p : Option Path) :
    Quiet (readOptional (m := StateM FileTree) p) := by
  cases p with
  | none => exact .pure none
  | some p => exact .bind (quiet_readSource p) fun _ => .pure _

theorem quiet_resolve (p : Option Path) (env : Environment) :
    Quiet (perform (ChatSettings.resolve (m := StateM FileTree) p env)) := by
  refine .perform fun tree => ?_
  cases p with
  | none => rfl
  | some p =>
    have hread := on_readSource p tree
    rw [ChatSettings.resolve]
    dsimp only
    rw [ChatSettings.load, bind_assoc]
    cases h : tree.source p with
    | error e =>
      rw [h] at hread
      rw [on_bind_of_error hread]
    | ok t =>
      rw [h] at hread
      rw [on_bind_of_ok hread]
      cases ChatSettings.parse? t <;> rfl

section

variable {tree : FileTree} {p : Path} {old : ByteArray} {s : Surroundings (StateM FileTree)}
  {settings : ChatSettings}

/-- A command that rewrites a document keeps it, unless it is a repair against a guide. -/
theorem Rewrites.leaves {command : Command} (h : command.Rewrites tree p) (htree : tree.WellFormed)
    (hask : ∀ r, Reads (s.ask r)) (hreference : command.isReference = false)
    (hold : tree.read p = .ok old) :
    ToolM.Leaves (fun after => after.read p = .ok old ∨ after.read (backup p) = .ok old)
      (command.run s settings) tree := by
  cases h with
  | fix =>
    exact .bind_quiet (.perform ((backedUp_fixInvalid p tree true).read_or_read_backup hold))
      (quiet_reportFixed p)
  | substitute _ substitution =>
    have hkept := backedUp_substituteIn p tree substitution
    exact .bind_quiet (.perform (hkept.read_or_read_backup hold)) (quiet_reportFixed p)
  | repair _ guide offline overrides asJson =>
    refine .quiet_bind (quiet_readOptional guide) (.inl hold) fun g => .bind_quiet
      (.perform ((backedUp_runOnFile_of_reads p tree none (.inr hask)).read_or_read_backup hold))
      fun o => ?_
    exact .ite (.bind (.putJson _) fun _ => .pure _) (.bind (.messageAll _) fun _ => .pure _)
  | reference => cases hreference
  | fixAll dir below listed document =>
    exact .bind_quiet (.perform (fixAll_kept htree below listed document hold)) fun _ =>
      .bind (.messageAll _) fun _ => .bind (.message _) fun _ => .pure _

/-- A repair against a guide leaves the backup of the rendition as it was. -/
theorem leaves_reference (p guide : Path) :
    ToolM.Leaves (fun after => after.read (backup p) = tree.read (backup p))
      (run s settings (.reference p guide .inPlace)) tree := by
  have hwrite : ∀ t : Text, ((FileOp.on (writeText p t) tree).2).read (backup p) =
      tree.read (backup p) := by
    intro t
    rcases on_writeText_cases p t tree with ⟨e, h⟩ | ⟨l, hl, h⟩
    · rw [h]
    · obtain ⟨l', hl', hne⟩ := FileTree.exists_resolve_backup hl.resolve
      rw [h]
      exact (FileTree.SameDirectories.put hl.free _).read_eq hl'
        (FileTree.find?_put_of_ne tree hne _)
  refine .quiet_bind (quiet_readSource p) rfl fun t => .quiet_bind (quiet_readSource guide) rfl
    fun g => .quiet_bind (.message _) rfl fun _ => .quiet_bind (.messageAll _) rfl fun _ =>
      .bind_quiet (?_ : ToolM.Leaves _ (deliver p (repairGuided t g) .inPlace) tree)
        fun _ => .pure _
  unfold deliver
  dsimp only
  split
  · exact .bind_quiet (.perform (hwrite _)) fun _ => .message _
  · exact .of_quiet (.pure _) rfl

end

end Command

/-- What a command line leaves of a tree is what its command leaves. -/
theorem leaves_runTool {s : Surroundings (StateM FileTree)} {words : List Text} {i : Invocation}
    {P : FileTree → Prop} {tree : FileTree} (hread : Invocation.read words = .ok i) (h : P tree)
    (hrun : ∀ settings, ToolM.Leaves P (i.command.run s settings) tree) :
    P ((runTool s words).run tree).2 := by
  have hleaves : ToolM.Leaves P (i.run s) tree :=
    .quiet_bind (Command.quiet_resolve i.settings s.environment) h hrun
  have hreturn : ((runTool s words).run tree).2 = (((i.run s).run.run {}).run tree).2 := by
    rw [runTool, hread]
    dsimp only
    rw [snd_run_bind]
    rcases ((i.run s).run.run {}).run tree with ⟨⟨r, w⟩, tree'⟩
    cases r <;> rfl
  rw [hreturn]
  exact hleaves {}

/-- The backup of a document that a command line has changed holds the bytes that the document had.
A repair against a guide is the exception : it leaves the backup as it was, whether there was one
or not. -/
theorem runTool_read_backup {s : Surroundings (StateM FileTree)} (hask : ∀ r, Reads (s.ask r))
    {tree : FileTree} (htree : tree.WellFormed) {words : List Text} {i : Invocation}
    (hread : Invocation.read words = .ok i) {p : Path} (hp : i.command.Rewrites tree p)
    {old : ByteArray} (hold : tree.read p = .ok old)
    (hchanged : ((runTool s words).run tree).2.read p ≠ .ok old) :
    ((runTool s words).run tree).2.read (backup p) =
      if i.command.isReference then tree.read (backup p) else .ok old := by
  split
  · rename_i hreference
    obtain ⟨config, command⟩ := i
    cases hp <;> cases hreference
    exact leaves_runTool (P := fun after => after.read (backup p) = tree.read (backup p)) hread rfl
      fun settings => Command.leaves_reference p _
  · rename_i hreference
    have hleaves := leaves_runTool hread (.inl hold) fun settings =>
      hp.leaves htree hask (by simpa using hreference) hold
    exact hleaves.resolve_left hchanged

/-- A file that is changed by a substitution. -/
theorem runTool_read_backup_substitution :
    let s : Surroundings (StateM FileTree) := ⟨fun _ => none, .empty, fun _ => pure .refused⟩
    let tree : FileTree := ⟨[(["t.tex".toList], .file (Text.toBytes "a\n".toList))]⟩
    let words := ["fix", "t.tex", "--regex", "a", "--replacement", "b"].map String.toList
    ((runTool s words).run tree).2.read "t.tex.backup".toList =
      .ok (Text.toBytes "a\n".toList) := by
  intro s tree words
  have hread : Invocation.read words = .ok ⟨none, .substitute "t.tex".toList
      ⟨"a".toList, "b".toList, Command.defaultDescription⟩⟩ := by decide +kernel
  exact runTool_read_backup (fun _ => .pure _) ⟨by decide, by decide⟩ hread (.substitute _ _)
    (by decide +kernel) (by decide +kernel)

/-- Not every command line that changes a document leaves it in its backup : a rendition that is
repaired in place against a guide, which has no end of the document, loses its own end, and there
is no backup of it. -/
theorem runTool_loses_document :
    ¬∀ (s : Surroundings (StateM FileTree)) (tree : FileTree) (words : List Text) (i : Invocation)
        (p : Path) (old : ByteArray), (∀ r, Reads (s.ask r)) → tree.WellFormed →
      Invocation.read words = .ok i → i.command.Rewrites tree p → tree.read p = .ok old →
      ((runTool s words).run tree).2.read p ≠ .ok old →
      ((runTool s words).run tree).2.read (backup p) = .ok old := by
  intro h
  have hbackup := h ⟨fun _ => none, .empty, fun _ => pure .refused⟩
    ⟨[(["o.tex".toList], .file (Text.toBytes "x\n".toList)),
      (["t.tex".toList], .file (Text.toBytes "\\end{document}\n".toList))]⟩
    (["reference", "t.tex", "o.tex", "--in-place"].map String.toList)
    ⟨none, .reference "t.tex".toList "o.tex".toList .inPlace⟩ "t.tex".toList
    (Text.toBytes "\\end{document}\n".toList) (fun _ => .pure _) ⟨by decide, by decide⟩
    (by decide +kernel) (.reference _ _) (by decide +kernel) (by decide +kernel)
  revert hbackup
  decide +kernel

end LatexRepair
