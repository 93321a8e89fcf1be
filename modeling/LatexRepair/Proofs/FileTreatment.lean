import LatexRepair.Proofs.ToolBackups

/-!
# The treatment of a file

What the repair of a directory does to one of its files : it stores a backup of the file or not,
and then a new content or not (`Treatment`). Which of these it does, and what it lists, is decided
by the bytes of the file, its validation and the directories of the tree. Trees that agree on these
get the same treatment, whatever else is stored in them (`exists_treatment`).

The validation of a file asks the tree only for the files that it includes
(`validationIn_eq`). So it stays the same as long as the same ones exist
(`validationIn_congr`), and a valid file stays valid when there are more
(`valid_validationIn_mono`).
-/

namespace LatexRepair

open FileRepair

/-! ## Stores -/

namespace FileTree

variable {tree tree' : FileTree} {k l : Location} {p : Path} {puts : List (Location × ByteArray)}

theorem SameDirectories.symm (h : SameDirectories tree tree') : SameDirectories tree' tree :=
  fun l => (h l).symm

theorem SameDirectories.writable (h : SameDirectories tree tree') (hp : tree.Writable p l) :
    tree'.Writable p l where
  named := hp.named
  slash := hp.slash
  resolve := h.resolve hp.resolve
  free hl := hp.free ((h l).1 hl)
  parent := (h _).2 hp.parent

theorem SameDirectories.replaceable (h : SameDirectories tree tree') (hp : tree.Replaceable p l) :
    tree'.Replaceable p l where
  toWritable := h.writable hp.toWritable
  directory := by
    obtain ⟨d, hresolve, hd⟩ := requireDirectory_eq_ok_iff.1 hp.directory
    exact requireDirectory_eq_ok_iff.2 ⟨d, h.resolve hresolve, (h d).2 hd⟩

/-- The tree with contents stored at places, one after another. -/
def store (tree : FileTree) (puts : List (Location × ByteArray)) : FileTree :=
  puts.foldl (fun tree e => tree.put e.1 (.file e.2)) tree

/-- What is stored at a place does not depend on other places. -/
theorem find?_store_congr (h : tree'.find? k = tree.find? k) :
    (tree'.store puts).find? k = (tree.store puts).find? k := by
  induction puts generalizing tree tree' with
  | nil => exact h
  | cons e puts ih =>
    have hput : (tree'.put e.1 (.file e.2)).find? k = (tree.put e.1 (.file e.2)).find? k := by
      rcases eq_or_ne k e.1 with rfl | hne
      · rcases eq_or_ne e.1 [] with hnil | hne
        · rw [hnil]
          rfl
        · rw [find?_put_self _ hne, find?_put_self _ hne]
      · rw [find?_put_of_ne _ hne, find?_put_of_ne _ hne, h]
    exact ih hput

/-- The file is there in the other tree too, if with another content. -/
def FilesStay (tree tree' : FileTree) : Prop :=
  ∀ k content, tree.find? k = some (.file content) →
    ∃ content', tree'.find? k = some (.file content')

namespace FilesStay

protected theorem refl (tree : FileTree) : FilesStay tree tree :=
  fun _ content h => ⟨content, h⟩

protected theorem trans {tree'' : FileTree} (h : FilesStay tree tree')
    (h' : FilesStay tree' tree'') : FilesStay tree tree'' := fun k _ hk =>
  let ⟨content', hk'⟩ := h k _ hk
  h' k content' hk'

theorem store (tree : FileTree) (puts : List (Location × ByteArray)) :
    FilesStay tree (tree.store puts) := by
  induction puts generalizing tree with
  | nil => exact .refl tree
  | cons e puts ih =>
    refine .trans (fun k content hk => ?_) (ih (tree.put e.1 (.file e.2)))
    rcases eq_or_ne k e.1 with rfl | hne
    · refine ⟨e.2, find?_put_self tree (fun hnil => ?_) _⟩
      rw [hnil] at hk
      cases hk
    · exact ⟨content, by rwa [find?_put_of_ne tree hne]⟩

end FilesStay

/-- The path names a file in the one tree if it does in the other. -/
theorem isFile_eq_true_iff : tree.isFile p = true ↔
    ∃ l content, tree.resolve p = .ok l ∧ tree.find? l = some (.file content) := by
  have hread : tree.isFile p = true ↔ ∃ content, tree.read p = .ok content := by
    unfold isFile
    cases tree.read p <;> simp
  simp only [hread, read_eq_ok_iff]
  exact exists_comm

theorem isFile_mono (h : SameDirectories tree tree') (hstay : FilesStay tree tree')
    (hp : tree.isFile p = true) : tree'.isFile p = true := by
  obtain ⟨l, content, hl, hfile⟩ := isFile_eq_true_iff.1 hp
  obtain ⟨content', hfile'⟩ := hstay l content hfile
  exact isFile_eq_true_iff.2 ⟨l, content', h.resolve hl, hfile'⟩

end FileTree

/-! ## Validation -/

section

open FileTree FileAccess

variable {tree tree' : FileTree} {p : Path} {t : Text}

/-- The target of an inclusion is a file of the tree. -/
def FileTree.holdsTarget (tree : FileTree) (base : Option Path) (target : Text) : Bool :=
  ((includeCandidates target).map (targetPath base)).any tree.isFile

theorem run_anyFile (ps : List Path) (tree : FileTree) :
    (anyFile (m := StateM FileTree) ps).run tree = (ps.any tree.isFile, tree) := by
  induction ps with
  | nil => rfl
  | cons p ps ih =>
    rw [List.any_cons, anyFile]
    change (if tree.isFile p then pure true else anyFile (m := StateM FileTree) ps).run tree = _
    cases tree.isFile p with
    | true => rfl
    | false => exact ih

theorem run_existingTargets (base : Option Path) (targets : List Text) (tree : FileTree) :
    (existingTargets (m := StateM FileTree) base targets).run tree =
      (targets.filter (tree.holdsTarget base), tree) := by
  induction targets with
  | nil => rfl
  | cons target targets ih =>
    have hfound : (targetExists (m := StateM FileTree) base target).run tree =
        (tree.holdsTarget base target, tree) := run_anyFile _ tree
    have hcons : (existingTargets (m := StateM FileTree) base (target :: targets)).run tree =
        let found := (targetExists (m := StateM FileTree) base target).run tree
        let more := (existingTargets (m := StateM FileTree) base targets).run found.2
        (if found.1 then target :: more.1 else more.1, more.2) := rfl
    rw [hcons, hfound, List.filter_cons]
    dsimp only
    rw [ih]

/-- The validation of a file of a tree, if it is a text. -/
def validationIn (tree : FileTree) (p : Path) : Except Failure Validation :=
  (FileOp.on (validateFile p) tree).1

/-- A document that is validated with some lookup. -/
def validateWith (holds : Text → Bool) (t : Text) : Validation :=
  validate (some ((((scan t).inclusions.map (·.target)).filter holds).contains ·)) t

theorem validationIn_eq (tree : FileTree) (p : Path) : validationIn tree p =
    (tree.source p).map (validateWith (tree.holdsTarget (some (Path.directory p)))) := by
  unfold validationIn validateFile
  cases h : tree.source p with
  | error e =>
    rw [on_bind_of_error ((on_readSource p tree).trans (by rw [h]))]
    rfl
  | ok t =>
    have htargets := run_existingTargets (some (Path.directory p))
      ((scan t).inclusions.map (·.target)) tree
    rw [on_bind_of_ok ((on_readSource p tree).trans (by rw [h]))]
    change Except.ok (validate (some (((existingTargets (m := StateM FileTree)
      (some (Path.directory p)) ((scan t).inclusions.map (·.target))).run
        tree).1.contains ·)) t) = _
    rw [htargets]
    rfl

/-- Only the files that are included matter. -/
theorem validateWith_congr {holds holds' : Text → Bool}
    (h : ∀ i ∈ (scan t).inclusions, holds i.target = holds' i.target) :
    validateWith holds t = validateWith holds' t := by
  have hfilter : ((scan t).inclusions.map (·.target)).filter holds =
      ((scan t).inclusions.map (·.target)).filter holds' :=
    List.filter_congr (List.forall_mem_map.2 h)
  rw [validateWith, hfilter, validateWith]

/-- With more files to include a valid document is valid. -/
theorem valid_validateWith_mono {holds holds' : Text → Bool}
    (h : ∀ target, holds target = true → holds' target = true)
    (hvalid : (validateWith holds t).valid = true) : (validateWith holds' t).valid = true := by
  unfold validateWith validate at hvalid ⊢
  rw [Validation.valid_ofIssues] at hvalid ⊢
  simp only [issuesOf, List.append_eq_nil_iff, Issue.ofInclusions, List.map_eq_nil_iff,
    List.filter_eq_nil_iff] at hvalid ⊢
  refine ⟨hvalid.1, fun i hi => ?_⟩
  have hknown := hvalid.2 i hi
  simp only [Bool.not_eq_true', Bool.not_eq_false, List.contains_iff_mem, List.mem_filter]
    at hknown ⊢
  exact ⟨hknown.1, h _ hknown.2⟩

theorem source_congr (h : tree'.read p = tree.read p) : tree'.source p = tree.source p := by
  rw [FileTree.source, h, FileTree.source]

theorem exists_read_of_validationIn {v : Validation} (h : validationIn tree p = .ok v) :
    ∃ bytes, tree.read p = .ok bytes := by
  rw [validationIn_eq] at h
  cases hsource : tree.source p with
  | error e =>
    rw [hsource] at h
    cases h
  | ok t =>
    obtain ⟨bytes, hread, -⟩ := source_eq_ok_iff.1 hsource
    exact ⟨bytes, hread⟩

/-- A file is validated alike where it holds the same and the same files that it includes
exist. -/
theorem validationIn_congr (hread : tree'.read p = tree.read p)
    (h : ∀ t, tree.source p = .ok t → ∀ i ∈ (scan t).inclusions,
      tree'.holdsTarget (some (Path.directory p)) i.target =
        tree.holdsTarget (some (Path.directory p)) i.target) :
    validationIn tree' p = validationIn tree p := by
  rw [validationIn_eq, validationIn_eq, source_congr hread]
  cases hsource : tree.source p with
  | error e => rfl
  | ok t => exact congrArg Except.ok (validateWith_congr (h t hsource))

/-- A valid file stays valid when files are added. -/
theorem valid_validationIn_mono {v : Validation} (hread : tree'.read p = tree.read p)
    (hdirectories : SameDirectories tree tree') (hstay : FilesStay tree tree')
    (hv : validationIn tree p = .ok v) (hvalid : v.valid = true) :
    ∃ v', validationIn tree' p = .ok v' ∧ v'.valid = true := by
  rw [validationIn_eq] at hv
  rw [validationIn_eq, source_congr hread]
  cases hsource : tree.source p with
  | error e =>
    rw [hsource] at hv
    cases hv
  | ok t =>
    rw [hsource] at hv
    obtain rfl := Except.ok.inj hv
    refine ⟨_, rfl, valid_validateWith_mono (fun target hholds => ?_) hvalid⟩
    rw [holdsTarget, List.any_eq_true] at hholds ⊢
    obtain ⟨q, hq, hfile⟩ := hholds
    exact ⟨q, hq, isFile_mono hdirectories hstay hfile⟩

end

/-! ## Treatments -/

/-- What may be listed of the file with the path `p`, and which contents may be stored. -/
inductive Treatment (tree : FileTree) (p : Path) :
    Option FixedFile → List (Location × ByteArray) → Prop where
  | left : Treatment tree p none []
  | saved {old : ByteArray} {b : Location} (file : tree.read p = .ok old)
      (backup : tree.Writable (Path.backup p) b) : Treatment tree p none [(b, old)]
  | fixed {old : ByteArray} {t : Text} {b l : Location} {r : FixedFile}
      (file : tree.read p = .ok old) (text : Text.ofBytes? old = some t)
      (backup : tree.Writable (Path.backup p) b) (place : tree.Replaceable p l)
      (changed : r.content ≠ t) :
      Treatment tree p (some r) [(b, old), (l, Text.toBytes r.content)]

section

open FileTree

variable {allowBalance : Bool} {tree tree' : FileTree} {p : Path} {old : ByteArray} {b l : Location}

theorem on_makeBackup_of_writable (hread : tree.read p = .ok old)
    (hb : tree.Writable (Path.backup p) b) :
    FileOp.on (makeBackup p) tree = (.ok (), tree.put b (.file old)) := by
  rw [on_makeBackup, FileTree.copy, hread]
  dsimp only
  rw [write_eq_ok_iff.2 ⟨b, hb, rfl⟩]

theorem exists_on_makeBackup_of_not_writable (hread : tree.read p = .ok old)
    (hb : ∀ b, ¬tree.Writable (Path.backup p) b) :
    ∃ e, FileOp.on (makeBackup p) tree = (.error e, tree) := by
  rw [on_makeBackup, FileTree.copy, hread]
  dsimp only
  cases h : tree.write (Path.backup p) old with
  | error fault => exact ⟨_, rfl⟩
  | ok tree' =>
    obtain ⟨b, hwritable, -⟩ := write_eq_ok_iff.1 h
    exact absurd hwritable (hb b)

theorem exists_on_writeText_of_not_replaceable (h : ∀ l, ¬tree.Replaceable p l) (t : Text) :
    ∃ e, FileOp.on (writeText p t) tree = (.error e, tree) :=
  (on_writeText_cases p t tree).resolve_right fun ⟨l, hl, _⟩ => h l hl

theorem run_bind {α β : Type} (x : StateM FileTree α) (f : α → StateM FileTree β)
    (tree : FileTree) : (x >>= f).run tree = (f (x.run tree).1).run (x.run tree).2 :=
  rfl

/-- The repair of a listed file is its validation and, if there is something to mend, the repair by
rules, of which nothing is listed where it fails or changes nothing. -/
theorem run_fixListed (p : Path) (tree : FileTree) :
    (fixListed (m := StateM FileTree) allowBalance p).run tree =
      match validationIn tree p with
      | .error _ => (none, tree)
      | .ok v =>
        if v.valid then (none, tree)
        else ((FileOp.on (fixFile allowBalance (some v) p) tree).1.toOption.filter (·.fixed),
          (FileOp.on (fixFile allowBalance (some v) p) tree).2) := by
  have hvalidate : (validateFile (m := StateM FileTree) p).run.run tree =
      (validationIn tree p, tree) := Prod.ext rfl (snd_on_validateFile p tree)
  rw [fixListed, run_bind, hvalidate]
  cases validationIn tree p with
  | error e => rfl
  | ok v =>
    dsimp only
    split
    · rfl
    · rw [run_bind, FileOp.on]
      cases ((fixFile (m := StateM FileTree) allowBalance (some v) p).run.run tree).1 with
      | error e => rfl
      | ok r =>
        cases hfixed : r.fixed <;> simp [Except.toOption, Option.filter, hfixed] <;> rfl

/-- When the backup has been made, the content is stored if it has changed. -/
theorem on_fixFile_of_makeBackup {t : Text} (hsource : tree.source p = .ok t)
    (hbackup : FileOp.on (makeBackup p) tree = (.ok (), tree')) (allowBalance : Bool)
    (v : Option Validation) :
    let r := repairByRules allowBalance v t
    let out : FixedFile := ⟨r.content ≠ t, r.fixes.map .rule, some (Path.backup p), r.content⟩
    FileOp.on (fixFile allowBalance v p) tree =
      if r.content = t then (.ok out, tree')
      else ((FileOp.on (writeText p r.content) tree').1.map fun _ => out,
        (FileOp.on (writeText p r.content) tree').2) := by
  intro r out
  have hread : FileOp.on (readSource p) tree = (.ok t, tree) := by rw [on_readSource, hsource]
  rw [fixFile, on_bind_of_ok hread, on_bind_of_ok hbackup]
  dsimp only
  by_cases hsame : r.content = t
  · rw [if_pos hsame, if_neg (not_not.2 hsame)]
    rfl
  · rw [if_neg hsame, if_pos hsame]
    rcases hwrite : FileOp.on (writeText p r.content) tree' with ⟨e | ⟨⟩, next⟩
    · exact on_bind_of_error hwrite
    · exact on_bind_of_ok hwrite

/-- What the repair by rules stores and returns is decided by the bytes of the file and the
directories of the tree. -/
theorem exists_stores_fixFile (tree : FileTree) (p : Path) (v : Validation) :
    ∃ x puts, Treatment tree p x puts ∧ ∀ tree', SameDirectories tree tree' →
      tree'.read p = tree.read p →
        (FileOp.on (fixFile allowBalance (some v) p) tree').1.toOption.filter (·.fixed) = x ∧
          (FileOp.on (fixFile allowBalance (some v) p) tree').2 = tree'.store puts := by
  cases htext : tree.source p with
  | error e =>
    refine ⟨none, [], .left, fun tree' _ hread => ?_⟩
    have hsource : FileOp.on (readSource p) tree' = (.error e, tree') := by
      rw [on_readSource, source_congr hread, htext]
    rw [fixFile, on_bind_of_error hsource]
    exact ⟨rfl, rfl⟩
  | ok t =>
    obtain ⟨old, hold, hbytes⟩ := source_eq_ok_iff.1 htext
    by_cases hbackup : ∃ b, tree.Writable (Path.backup p) b
    · obtain ⟨b, hb⟩ := hbackup
      have hfix : ∀ tree' : FileTree, SameDirectories tree tree' → tree'.read p = tree.read p → _ :=
        fun tree' hdirs hread => on_fixFile_of_makeBackup ((source_congr hread).trans htext)
          (on_makeBackup_of_writable (hread.trans hold) (hdirs.writable hb)) allowBalance (some v)
      by_cases hsame : (repairByRules allowBalance (some v) t).content = t
      · refine ⟨none, [(b, old)], .saved hold hb, fun tree' hdirs hread => ?_⟩
        rw [hfix tree' hdirs hread, if_pos hsame]
        simp only [hsame, ne_eq, not_true_eq_false, decide_false]
        exact ⟨rfl, rfl⟩
      · by_cases hplace : ∃ l, tree.Replaceable p l
        · obtain ⟨l, hl⟩ := hplace
          refine ⟨some ⟨true, (repairByRules allowBalance (some v) t).fixes.map .rule,
            some (Path.backup p), (repairByRules allowBalance (some v) t).content⟩, _,
            .fixed hold hbytes hb hl hsame, fun tree' hdirs hread => ?_⟩
          have hput : (tree'.put b (.file old)).Replaceable p l :=
            (hdirs.replaceable hl).put (hdirs.writable hb).free
          rw [hfix tree' hdirs hread, if_neg hsame, on_writeText_of_replaceable hput]
          simp only [ne_eq, hsame, not_false_eq_true, decide_true]
          exact ⟨rfl, rfl⟩
        · -- The backup stays although the file cannot be written.
          push Not at hplace
          refine ⟨none, [(b, old)], .saved hold hb, fun tree' hdirs hread => ?_⟩
          have hput : SameDirectories tree (tree'.put b (.file old)) :=
            hdirs.trans (.put (hdirs.writable hb).free old)
          obtain ⟨e, he⟩ := exists_on_writeText_of_not_replaceable
            (fun l hl => hplace l (hput.symm.replaceable hl))
            (repairByRules allowBalance (some v) t).content
          rw [hfix tree' hdirs hread, if_neg hsame, he]
          exact ⟨rfl, rfl⟩
    · push Not at hbackup
      refine ⟨none, [], .left, fun tree' hdirs hread => ?_⟩
      have hsource : FileOp.on (readSource p) tree' = (.ok t, tree') := by
        rw [on_readSource, source_congr hread, htext]
      obtain ⟨e, he⟩ := exists_on_makeBackup_of_not_writable (hread.trans hold)
        fun b hb => hbackup b (hdirs.symm.writable hb)
      rw [fixFile, on_bind_of_ok hsource, on_bind_of_error he]
      exact ⟨rfl, rfl⟩

/-- The treatment of a file is decided by its bytes, its validation and the directories of the
tree. -/
theorem exists_treatment (tree : FileTree) (p : Path) :
    ∃ x puts, Treatment tree p x puts ∧ ∀ tree', SameDirectories tree tree' →
      tree'.read p = tree.read p → validationIn tree' p = validationIn tree p →
        (fixListed (m := StateM FileTree) allowBalance p).run tree' = (x, tree'.store puts) := by
  cases hv : validationIn tree p with
  | error e =>
    refine ⟨none, [], .left, fun tree' _ _ hsame => ?_⟩
    rw [run_fixListed, hsame]
    rfl
  | ok v =>
    by_cases hvalid : v.valid = true
    · refine ⟨none, [], .left, fun tree' _ _ hsame => ?_⟩
      rw [run_fixListed, hsame]
      exact if_pos hvalid
    · obtain ⟨x, puts, htreatment, hstores⟩ := exists_stores_fixFile tree p v
      refine ⟨x, puts, htreatment, fun tree' hdirs hread hsame => ?_⟩
      obtain ⟨hx, hputs⟩ := hstores tree' hdirs hread
      rw [run_fixListed, hsame]
      dsimp only
      rw [if_neg hvalid, hx, hputs]

/-- A file that is no text or has nothing to mend is left as it is. -/
theorem run_fixListed_of_left
    (h : (∃ e, tree.source p = .error e) ∨ ∃ v, validationIn tree p = .ok v ∧ v.valid = true) :
    (fixListed (m := StateM FileTree) allowBalance p).run tree = (none, tree) := by
  rw [run_fixListed]
  rcases h with ⟨e, he⟩ | ⟨v, hv, hvalid⟩
  · rw [validationIn_eq, he]
    rfl
  · rw [hv]
    exact if_pos hvalid

end

end LatexRepair
