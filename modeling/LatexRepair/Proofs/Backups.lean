import LatexRepair.Proofs.TreeFrames
import LatexRepair.Tool

/-!
# Backups

What the repairs of files do to a tree of files. Nothing but the file and its backup changes;
a file that changes has its old bytes in its backup, from which they are brought back; and an
operation that fails leaves the file alone (`BackedUp`).

An operation that only reads may come first (`BackedUp.bind`), so the repairs come down to the
copy that is made of a file (`BackedUp.makeBackup_pure`) and to the copy with the new text behind
it (`BackedUp.overwrite_pure`).
-/

namespace LatexRepair

/-- An operation on a tree of files, which may fail. -/
abbrev FileOp := ExceptT Failure (StateM FileTree)

/-- The outcome of an operation on a tree, and what it makes of the tree. -/
def FileOp.on {α : Type} (op : FileOp α) (tree : FileTree) : Except Failure α × FileTree :=
  op.run.run tree

open FileRepair

/-! ## What is kept -/

/-- From the tree the file with the path `p` is brought back from its backup, as it was with
the bytes `old`, and nothing else changes. -/
structure Restorable (p : Path) (old : ByteArray) (tree : FileTree) : Prop where
  succeeds : (FileOp.on (restoreBackup p) tree).1 = .ok ()
  restored : (FileOp.on (restoreBackup p) tree).2.read p = .ok old
  frame : ∀ l, tree.resolve p ≠ .ok l →
    (FileOp.on (restoreBackup p) tree).2.find? l = tree.find? l

/-- What is left of a tree `after` an operation on the file with the path `p`, where `content`
is the text that the operation returns as that of the file. -/
structure BackedUp {α : Type} (p : Path) (content : α → Text) (tree : FileTree)
    (after : Except Failure α × FileTree) : Prop where
  /-- Only the file and its backup change. -/
  frame : ∀ l, tree.resolve p ≠ .ok l → tree.resolve (Path.backup p) ≠ .ok l →
    after.2.find? l = tree.find? l
  error : ∀ e, after.1 = .error e → after.2.read p = tree.read p
  changed : after.2.read p ≠ tree.read p → ∃ old a,
    tree.read p = .ok old ∧ after.1 = .ok a ∧ after.2.read p = .ok (Text.toBytes (content a)) ∧
      after.2.read (Path.backup p) = .ok old ∧ Restorable p old after.2

/-! ## Operations in sequence -/

section

variable {α β : Type} {x : FileOp α} {f : α → FileOp β} {tree tree' : FileTree}

theorem on_bind_of_ok {a : α} (h : x.on tree = (.ok a, tree')) :
    (x >>= f).on tree = (f a).on tree' := by
  change (ExceptT.bindCont f (x.on tree).1).run (x.on tree).2 = _
  rw [h]
  rfl

theorem on_bind_of_error {e : Failure} (h : x.on tree = (.error e, tree')) :
    (x >>= f).on tree = (.error e, tree') := by
  change (ExceptT.bindCont f (x.on tree).1).run (x.on tree).2 = _
  rw [h]
  rfl

end

/-! ## Operations that only read -/

/-- The operation leaves every tree as it is. -/
def Reads {α : Type} (x : StateM FileTree α) : Prop :=
  ∀ tree, (x.run tree).2 = tree

namespace Reads

variable {α β : Type} {x : StateM FileTree α}

protected theorem pure (a : α) : Reads (pure a) :=
  fun _ => rfl

protected theorem bind {f : α → StateM FileTree β} (hx : Reads x) (hf : ∀ a, Reads (f a)) :
    Reads (x >>= f) := fun tree => by
  change ((f (x.run tree).1).run (x.run tree).2).2 = tree
  rw [hf, hx]

protected theorem ite {c : Prop} [Decidable c] {y : StateM FileTree α} (hx : Reads x)
    (hy : Reads y) : Reads (if c then x else y) := by
  split <;> assumption

end Reads

theorem reads_anyFile (ps : List Path) : Reads (FileAccess.anyFile ps) := by
  induction ps with
  | nil => exact .pure false
  | cons p ps ih => exact .bind (fun _ => rfl) fun found => .ite (.pure true) ih

theorem reads_existingTargets (base : Option Path) (targets : List Text) :
    Reads (existingTargets base targets) := by
  induction targets with
  | nil => exact .pure []
  | cons target targets ih =>
    exact .bind (reads_anyFile _) fun _ => .bind ih fun _ => .pure _

theorem reads_validateAt (lookup : Option FileLookup) (p : Path) (t : Text) :
    Reads (validateAt lookup p t) := by
  cases lookup with
  | some known => exact .pure _
  | none => exact .bind (reads_existingTargets _ _) fun _ => .pure _

namespace Progress

variable {check : Text → StateM FileTree Validation}

theorem reads_take (hcheck : ∀ t, Reads (check t)) (p : Progress) (stage : Stage)
    (q : Proposal) : Reads (p.take check stage q) := by
  unfold take
  cases q.change with
  | none => exact .pure _
  | some t => exact .bind (hcheck t) fun _ => .pure _

theorem reads_takeAnswer (hcheck : ∀ t, Reads (check t)) (p : Progress)
    (answer : Except Failure Text) : Reads (p.takeAnswer check answer) := by
  unfold takeAnswer
  cases answer with
  | error _ => exact reads_take hcheck _ _ _
  | ok t =>
    exact .ite (reads_take hcheck _ _ _)
      (.bind (hcheck t) fun _ => .ite (.pure _) (reads_take hcheck _ _ _))

end Progress

theorem reads_repairByChat {ask : ChatRequest → StateM FileTree ChatReply}
    (hask : ∀ r, Reads (ask r)) (s : ChatSettings) (t : Text) (errors : List SyntaxError) :
    Reads (repairByChat ask s t errors) := by
  refine .ite (.pure _) (.ite (.pure _) (.bind (hask _) fun reply => ?_))
  cases reply <;> exact .pure _

/-- A run only reads, if its check does, and the chat service where it may be asked. -/
theorem reads_runRepairs {check : Text → StateM FileTree Validation}
    (hcheck : ∀ t, Reads (check t)) {ask : ChatRequest → StateM FileTree ChatReply}
    {options : RunOptions} (hask : options.chat = none ∨ ∀ r, Reads (ask r)) (t : Text) :
    Reads (runRepairs check ask options t) := by
  refine .bind (hcheck t) fun initial => .bind ?_ fun p₁ => .bind ?_ fun p₂ => .bind ?_ fun p₃ =>
    .bind ?_ fun _ => .pure _
  · exact .ite (.pure _) (Progress.reads_take hcheck _ _ _)
  · unfold Progress.referenceStage
    cases options.guide with
    | none => exact .pure _
    | some g => exact Progress.reads_take hcheck _ _ _
  · exact .ite (Progress.reads_take hcheck _ _ _) (.pure _)
  · unfold Progress.llmStage
    cases hchat : options.chat with
    | none => exact .pure _
    | some s =>
      have hask' := hask.resolve_left (by rw [hchat]; nofun)
      exact .ite (.pure _) (.ite (Progress.reads_take hcheck _ _ _)
        (.bind (reads_repairByChat hask' s _ _) fun _ => Progress.reads_takeAnswer hcheck _ _))

/-! ## Reading and writing -/

/-- The text of a file of a tree. -/
def FileTree.source (tree : FileTree) (p : Path) : Except Failure Text :=
  match tree.read p with
  | .error fault => .error (.file p fault)
  | .ok bytes =>
    match Text.ofBytes? bytes with
    | some t => .ok t
    | none => .error (.file p .invalidText)

section

variable {tree tree' : FileTree} {p : Path} {t : Text}

theorem on_readSource (p : Path) (tree : FileTree) :
    FileOp.on (readSource p) tree = (tree.source p, tree) := by
  have hread : FileOp.on (FileAccess.read p) tree = (.ok (tree.read p), tree) := rfl
  rw [readSource, FileAccess.readText, bind_assoc, on_bind_of_ok hread, FileTree.source]
  cases tree.read p with
  | error fault => rfl
  | ok bytes =>
    dsimp only
    cases Text.ofBytes? bytes <;> rfl

theorem on_makeBackup (p : Path) (tree : FileTree) :
    FileOp.on (makeBackup p) tree =
      match tree.copy p (Path.backup p) with
      | .error fault => (.error (.file (Path.backup p) fault), tree)
      | .ok tree' => (.ok (), tree') := by
  change FileOp.on (orFault (Path.backup p) (FileTree.update (·.copy p (Path.backup p)) tree).1)
    (FileTree.update (·.copy p (Path.backup p)) tree).2 = _
  unfold FileTree.update
  dsimp only
  cases tree.copy p (Path.backup p) <;> rfl

theorem on_writeText (p : Path) (t : Text) (tree : FileTree) :
    FileOp.on (writeText p t) tree =
      match tree.replace p (Text.toBytes t) with
      | .error (q, fault) => (.error (.file q fault), tree)
      | .ok tree' => (.ok (), tree') := by
  have hreplace : FileOp.on (FileAccess.replace p (Text.toBytes t)) tree =
      (.ok (FileTree.update (·.replace p (Text.toBytes t)) tree).1,
        (FileTree.update (·.replace p (Text.toBytes t)) tree).2) := rfl
  rw [writeText, on_bind_of_ok hreplace, FileTree.update]
  cases tree.replace p (Text.toBytes t) <;> rfl

/-- A text is written, or nothing changes. -/
theorem on_writeText_cases (p : Path) (t : Text) (tree : FileTree) :
    (∃ e, FileOp.on (writeText p t) tree = (.error e, tree)) ∨
      ∃ l, tree.Replaceable p l ∧
        FileOp.on (writeText p t) tree = (.ok (), tree.put l (.file (Text.toBytes t))) := by
  rw [on_writeText]
  cases h : tree.replace p (Text.toBytes t) with
  | error e => exact .inl ⟨_, rfl⟩
  | ok tree' =>
    obtain ⟨l, hl, rfl⟩ := FileTree.replace_eq_ok_iff.1 h
    exact .inr ⟨l, hl, rfl⟩

theorem on_writeText_of_replaceable {l : Location} (h : tree.Replaceable p l) (t : Text) :
    FileOp.on (writeText p t) tree = (.ok (), tree.put l (.file (Text.toBytes t))) := by
  rw [on_writeText, FileTree.replace_eq_ok_iff.2 ⟨l, h, rfl⟩]

theorem source_eq_ok_iff :
    tree.source p = .ok t ↔ ∃ bytes, tree.read p = .ok bytes ∧ Text.ofBytes? bytes = some t := by
  unfold FileTree.source
  cases tree.read p with
  | error fault => simp
  | ok bytes =>
    cases h : Text.ofBytes? bytes <;> simp [h]

/-- Bytes that are read as a text are those of that text. -/
theorem toBytes_of_ofBytes? {bytes : ByteArray} (h : Text.ofBytes? bytes = some t) :
    Text.toBytes t = bytes := by
  obtain ⟨s, hs, rfl⟩ := Option.map_eq_some_iff.1 h
  rw [Text.toBytes, String.ofList_toList]
  unfold String.fromUTF8? at hs
  split at hs
  · obtain rfl := Option.some.inj hs
    rfl
  · cases hs

end

/-! ## Copies -/

/-- The tree `tree'` is `tree` with a backup of the file with the path `p`, of which `old` are
the bytes. -/
structure BackupMade (p : Path) (old : ByteArray) (tree tree' : FileTree) : Prop where
  frame : ∀ l, tree.resolve (Path.backup p) ≠ .ok l → tree'.find? l = tree.find? l
  resolve : ∀ l, tree.resolve p = .ok l → tree'.resolve p = .ok l
  file : tree'.read p = .ok old
  backup : tree'.read (Path.backup p) = .ok old

section

variable {p : Path} {t : Text} {old : ByteArray} {tree tree' : FileTree} {l : Location}

/-- A backup is made, or nothing changes. -/
theorem on_makeBackup_cases (hread : tree.read p = .ok old) :
    (∃ e, FileOp.on (makeBackup p) tree = (.error e, tree)) ∨
      ∃ tree', FileOp.on (makeBackup p) tree = (.ok (), tree') ∧ BackupMade p old tree tree' := by
  rw [on_makeBackup, FileTree.copy, hread]
  dsimp only
  cases h : tree.write (Path.backup p) old with
  | error fault => exact .inl ⟨_, rfl⟩
  | ok tree' =>
    obtain ⟨l, hl, rfl⟩ := FileTree.write_eq_ok_iff.1 h
    obtain ⟨k, hk, hfile⟩ := FileTree.read_eq_ok_iff.1 hread
    obtain ⟨l', hl', hne⟩ := FileTree.exists_resolve_backup hk
    obtain rfl := Except.ok.inj (hl.resolve.symm.trans hl')
    refine .inr ⟨_, rfl, ⟨fun m hm => ?_, fun m => FileTree.resolve_put hl.free, ?_, ?_⟩⟩
    · exact FileTree.find?_put_of_ne tree (by rintro rfl; exact hm hl.resolve) _
    · exact FileTree.read_put_of_ne hl.free hk hne.symm hread
    · exact FileTree.read_eq_ok_iff.2 ⟨l, FileTree.resolve_put hl.free hl.resolve,
        FileTree.find?_put_self tree (FileTree.ne_nil_of_find?_ne hl.free) _⟩

/-- A file that was replaced is brought back from its backup. -/
theorem Restorable.of_put (hl : tree.Replaceable p l)
    (hbackup : tree.read (Path.backup p) = .ok old) (hold : Text.ofBytes? old = some t)
    (new : ByteArray) :
    Restorable p old (tree.put l (.file new)) := by
  have hput : (tree.put l (.file new)).Replaceable p l := hl.put hl.free
  obtain ⟨l', hl', hne⟩ := FileTree.exists_resolve_backup hl.resolve
  have hread : (tree.put l (.file new)).read (Path.backup p) = .ok old :=
    FileTree.read_put_of_ne hl.free hl' hne hbackup
  generalize tree.put l (.file new) = tree' at hput hread
  have hfile : FileOp.on (FileAccess.isFile (Path.backup p)) tree' = (.ok true, tree') := by
    change (Except.ok (tree'.isFile (Path.backup p)), tree') = _
    rw [FileTree.isFile, hread]
  have hsource : FileOp.on (readSource (Path.backup p)) tree' = (.ok t, tree') := by
    rw [on_readSource, source_eq_ok_iff.2 ⟨old, hread, hold⟩]
  have hrestore : FileOp.on (restoreBackup p) tree' =
      (.ok (), tree'.put l (.file old)) := by
    rw [restoreBackup, on_bind_of_ok hfile, if_pos rfl, on_bind_of_ok hsource,
      on_writeText_of_replaceable hput, toBytes_of_ofBytes? hold]
  constructor
  · rw [hrestore]
  · rw [hrestore]
    exact hput.read_put
  · intro m hm
    rw [hrestore]
    exact FileTree.find?_put_of_ne tree' (by rintro rfl; exact hm hput.resolve) _

end

/-! ## Operations on a file -/

namespace BackedUp

variable {α β : Type} {p : Path} {content : α → Text} {tree tree' : FileTree} {old : ByteArray}
  {t : Text}

/-- Nothing happens. -/
theorem refl (r : Except Failure α) : BackedUp p content tree (r, tree) where
  frame _ _ _ := rfl
  error _ _ := rfl
  changed h := absurd rfl h

/-- What only reads may come first. -/
theorem bind {x : FileOp β} {f : β → FileOp α} (hx : (x.on tree).2 = tree)
    (hf : ∀ b, (x.on tree).1 = .ok b → BackedUp p content tree ((f b).on tree)) :
    BackedUp p content tree (FileOp.on (x >>= f) tree) := by
  rcases h : x.on tree with ⟨r, tree'⟩
  obtain rfl : tree' = tree := (congrArg Prod.snd h).symm.trans hx
  cases r with
  | error e =>
    rw [on_bind_of_error h]
    exact refl _
  | ok b =>
    rw [on_bind_of_ok h]
    exact hf b (congrArg Prod.fst h)

/-- A backup alone does not change the file. -/
theorem of_backupMade (hread : tree.read p = .ok old) (h : BackupMade p old tree tree')
    (r : Except Failure α) : BackedUp p content tree (r, tree') where
  frame l _ := h.frame l
  error _ _ := h.file.trans hread.symm
  changed hne := absurd (h.file.trans hread.symm) hne

/-- A file is replaced when its backup has been made. -/
theorem of_put {l : Location} (hread : tree.read p = .ok old) (hold : Text.ofBytes? old = some t)
    (h : BackupMade p old tree tree') (hl : tree'.Replaceable p l) (a : α) :
    BackedUp p content tree (.ok a, tree'.put l (.file (Text.toBytes (content a)))) where
  frame k hk hbackup := by
    obtain ⟨l', hl', -⟩ := FileTree.read_eq_ok_iff.1 hread
    obtain rfl := Except.ok.inj (hl.resolve.symm.trans (h.resolve l' hl'))
    exact (FileTree.find?_put_of_ne tree' (by rintro rfl; exact hk hl') _).trans
      (h.frame k hbackup)
  error _ he := nomatch he
  changed _ := by
    obtain ⟨l', hl', hne⟩ := FileTree.exists_resolve_backup hl.resolve
    exact ⟨old, a, hread, rfl, hl.read_put,
      FileTree.read_put_of_ne hl.free hl' hne h.backup, .of_put hl h.backup hold _⟩

/-- A backup is made. -/
theorem makeBackup_pure (hread : tree.read p = .ok old) (a : α) :
    BackedUp p content tree (FileOp.on (makeBackup p >>= fun _ => pure a) tree) := by
  rcases on_makeBackup_cases hread with ⟨e, he⟩ | ⟨tree', hok, hmade⟩
  · rw [on_bind_of_error he]
    exact refl _
  · rw [on_bind_of_ok hok]
    exact of_backupMade hread hmade _

/-- A backup is made, and the new text is stored. -/
theorem overwrite_pure (hread : tree.read p = .ok old) (hold : Text.ofBytes? old = some t)
    {u : Text} {a : α} (ha : content a = u) :
    BackedUp p content tree (FileOp.on (overwrite p u >>= fun _ => pure a) tree) := by
  rw [overwrite, bind_assoc]
  rcases on_makeBackup_cases hread with ⟨e, he⟩ | ⟨tree', hok, hmade⟩
  · rw [on_bind_of_error he]
    exact refl _
  · rw [on_bind_of_ok hok]
    rcases on_writeText_cases p u tree' with ⟨e, he⟩ | ⟨l, hl, hwrite⟩
    · rw [on_bind_of_error he]
      exact of_backupMade hread hmade _
    · rw [on_bind_of_ok hwrite, ← ha]
      exact of_put hread hold hmade hl a

/-- The text of the file is read first. -/
theorem readSource_bind {f : Text → FileOp α} (hf : ∀ old t, tree.read p = .ok old →
      Text.ofBytes? old = some t → BackedUp p content tree ((f t).on tree)) :
    BackedUp p content tree (FileOp.on (readSource p >>= f) tree) := by
  have hreads := on_readSource p tree
  refine .bind (by rw [hreads]) fun t ht => ?_
  rw [hreads] at ht
  obtain ⟨old, hread, hold⟩ := source_eq_ok_iff.1 ht
  exact hf old t hread hold

end BackedUp

section

variable (p : Path) (tree : FileTree)

/-- To validate a file is to read. -/
theorem snd_on_validateFile : (FileOp.on (validateFile p) tree).2 = tree := by
  unfold validateFile
  cases h : tree.source p with
  | error e => rw [on_bind_of_error ((on_readSource p tree).trans (by rw [h]))]
  | ok t =>
    rw [on_bind_of_ok ((on_readSource p tree).trans (by rw [h]))]
    exact reads_validateAt none p t tree

theorem backedUp_fixFile (allowBalance : Bool) (v : Option Validation) :
    BackedUp p FixedFile.content tree (FileOp.on (fixFile allowBalance v p) tree) := by
  refine .readSource_bind fun old t hread hold => ?_
  dsimp only
  by_cases h : (repairByRules allowBalance v t).content = t
  · rw [if_neg (not_not.2 h)]
    exact .makeBackup_pure hread _
  · rw [if_pos h, ← bind_assoc]
    exact .overwrite_pure hread hold rfl

theorem backedUp_fixInvalid (allowBalance : Bool) :
    BackedUp p FixedFile.content tree (FileOp.on (fixInvalid p allowBalance) tree) := by
  refine .bind (snd_on_validateFile p tree) fun v _ => ?_
  split
  · exact .readSource_bind fun _ _ _ _ => .refl _
  · exact backedUp_fixFile p tree allowBalance (some v)

theorem backedUp_substitute (change : Text → Text) (description : Text) :
    BackedUp p FixedFile.content tree (FileOp.on (substitute change description p) tree) := by
  refine .readSource_bind fun old t hread hold => ?_
  dsimp only
  split
  · exact .refl _
  · exact .overwrite_pure hread hold rfl

/-- A run that asks the chat service keeps the file too, if the service does not change files. -/
theorem backedUp_runOnFile_of_reads (lookup : Option FileLookup)
    {ask : ChatRequest → StateM FileTree ChatReply} {options : RunOptions}
    (hask : options.chat = none ∨ ∀ r, Reads (ask r)) :
    BackedUp p RunOutcome.content tree (FileOp.on (runOnFile lookup ask options p) tree) := by
  refine .readSource_bind fun old t hread hold => .bind ?_ fun outcome _ => ?_
  · exact reads_runRepairs (reads_validateAt lookup p) hask t tree
  · split
    · exact .refl _
    · exact .overwrite_pure hread hold rfl

theorem backedUp_runOnFile (lookup : Option FileLookup)
    (ask : ChatRequest → StateM FileTree ChatReply) (guide : Option Text) :
    BackedUp p RunOutcome.content tree
      (FileOp.on (runOnFile lookup ask { guide := guide } p) tree) :=
  backedUp_runOnFile_of_reads p tree lookup (.inl rfl)

theorem backedUp_substituteIn (s : Substitution) :
    BackedUp p FixedFile.content tree (FileOp.on (Command.substituteIn p s) tree) := by
  unfold Command.substituteIn
  split
  · exact .refl _
  · exact backedUp_substitute p tree _ _

end

/-- Whatever repairs a file keeps it : nothing but the file and its backup changes, a file that
changes can be brought back, and an operation that fails leaves it alone. -/
theorem fileRepairs_backedUp (p : Path) (tree : FileTree) :
    (∀ allowBalance v,
      BackedUp p FixedFile.content tree (FileOp.on (fixFile allowBalance v p) tree)) ∧
    (∀ allowBalance,
      BackedUp p FixedFile.content tree (FileOp.on (fixInvalid p allowBalance) tree)) ∧
    (∀ change description,
      BackedUp p FixedFile.content tree (FileOp.on (substitute change description p) tree)) ∧
    (∀ s, BackedUp p FixedFile.content tree (FileOp.on (Command.substituteIn p s) tree)) ∧
    ∀ lookup ask guide, BackedUp p RunOutcome.content tree
      (FileOp.on (runOnFile lookup ask { guide := guide } p) tree) :=
  ⟨backedUp_fixFile p tree, backedUp_fixInvalid p tree, backedUp_substitute p tree,
    backedUp_substituteIn p tree, backedUp_runOnFile p tree⟩

end LatexRepair
