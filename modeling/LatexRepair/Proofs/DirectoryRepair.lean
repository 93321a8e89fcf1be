import LatexRepair.Proofs.DocumentsBelow
import LatexRepair.Proofs.FileTreatment

/-!
# Repair of a directory

What the repair of all documents below a directory does to a tree of files
(`fixAll_repairsListed`). The files that change are those that are listed, and backups. Each listed
file holds what is listed for it, and its backup the bytes that it had. A document that is no text
or has nothing to mend is left alone (`RepairsListed`).

A document is treated when its turn comes, in the tree that the repairs before it have left. At its
own place and at that of its backup this is the first tree (`exists_turn`), so its treatment
depends on the other files by its validation alone (`fixEach_alike`) : whatever they hold, and
whether or not they are repaired. Its validation could change because backups are new files; it is
that of the first tree unless the document includes one of them (`validationAtTurn_eq`).
-/

namespace LatexRepair

open FileRepair LatexRepair.Path FileTree

/-- The bytes of a text are read as this text. -/
theorem Text.ofBytes?_toBytes (t : Text) : Text.ofBytes? (Text.toBytes t) = some t := by
  have hvalid : (String.ofList t).toUTF8.IsValidUTF8 := String.isValidUTF8 _
  rw [Text.ofBytes?, Text.toBytes, String.fromUTF8?, dif_pos hvalid]
  exact congrArg some String.toList_ofList

section

variable {allowBalance : Bool} {dir : Path} {d k l : Location} {names names' : List Text}
  {docs docs' : List (List Text)} {tree tree' : FileTree} {x : Option FixedFile}
  {old : ByteArray} {puts : List (Location × ByteArray)}

/-! ## One document after another -/

/-- What is listed of one document. -/
def listing (names : List Text) (x : Option FixedFile) : List (Path × FixedFile) :=
  (x.map (ofNames names, ·)).toList

theorem run_fixEach_cons (dir : Path) (names : List Text) (docs : List (List Text))
    (tree : FileTree) : (fixEach (m := StateM FileTree) allowBalance dir (names :: docs)).run tree =
      let out := (fixListed (m := StateM FileTree) allowBalance (joinNames dir names)).run tree
      let more := (fixEach (m := StateM FileTree) allowBalance dir docs).run out.2
      (listing names out.1 ++ more.1, more.2) := by
  rw [fixEach, run_bind]
  dsimp only
  cases ((fixListed (m := StateM FileTree) allowBalance (joinNames dir names)).run tree).1 <;> rfl

theorem run_fixEach_append (dir : Path) (docs more : List (List Text)) (tree : FileTree) :
    (fixEach (m := StateM FileTree) allowBalance dir (docs ++ more)).run tree =
      let first := (fixEach (m := StateM FileTree) allowBalance dir docs).run tree
      let second := (fixEach (m := StateM FileTree) allowBalance dir more).run first.2
      (first.1 ++ second.1, second.2) := by
  induction docs generalizing tree with
  | nil => rfl
  | cons names docs ih =>
    rw [List.cons_append, run_fixEach_cons, run_fixEach_cons]
    dsimp only
    rw [ih, List.append_assoc]

/-- The listed paths are those of some of the documents, in their order. -/
theorem sublist_fixEach (dir : Path) (docs : List (List Text)) (tree : FileTree) :
    (((fixEach (m := StateM FileTree) allowBalance dir docs).run tree).1.map (·.1)).Sublist
      (docs.map ofNames) := by
  induction docs generalizing tree with
  | nil => exact .slnil
  | cons names docs ih =>
    rw [run_fixEach_cons, List.map_append, List.map_cons]
    cases ((fixListed (m := StateM FileTree) allowBalance (joinNames dir names)).run tree).1 with
    | none => exact (ih _).cons _
    | some r => exact (ih _).cons_cons _

theorem exists_of_mem_fixEach {e : Path × FixedFile}
    (h : e ∈ ((fixEach (m := StateM FileTree) allowBalance dir docs).run tree).1) :
    ∃ names ∈ docs, ofNames names = e.1 :=
  List.mem_map.1 ((sublist_fixEach dir docs tree).subset (List.mem_map_of_mem h))

/-- The repair of other documents lists nothing for a document. -/
theorem IsDocumentBelow.not_mem_fixEach {r : FixedFile} (h : IsDocumentBelow names)
    (hdocs : ∀ names' ∈ docs, IsDocumentBelow names') (hnot : names ∉ docs) :
    (ofNames names, r) ∉ ((fixEach (m := StateM FileTree) allowBalance dir docs).run tree).1 :=
  fun hlisted =>
    let ⟨names', hmem, heq⟩ := exists_of_mem_fixEach hlisted
    hnot (h.ofNames_inj (hdocs names' hmem) heq.symm ▸ hmem)

theorem filesStay_fixEach (dir : Path) (docs : List (List Text)) (tree : FileTree) :
    FilesStay tree ((fixEach (m := StateM FileTree) allowBalance dir docs).run tree).2 := by
  induction docs generalizing tree with
  | nil => exact .refl tree
  | cons names docs ih =>
    obtain ⟨x, puts, -, hrun⟩ := exists_treatment tree (joinNames dir names)
    rw [run_fixEach_cons, hrun tree (.refl tree) rfl rfl]
    exact (FilesStay.store tree puts).trans (ih _)

/-- The tree when the turn of a document comes. -/
def treeAtTurn (allowBalance : Bool) (dir : Path) (docs : List (List Text)) (tree : FileTree)
    (names : List Text) : FileTree :=
  ((fixEach (m := StateM FileTree) allowBalance dir (docs.takeWhile (· ≠ names))).run tree).2

theorem documentsKept_treeAtTurn (hd : tree.resolve dir = .ok d)
    (hdocs : ∀ names ∈ docs, IsDocumentBelow names) (honce : docs.Nodup) (names : List Text) :
    DocumentsKept dir d (docs.takeWhile (· ≠ names)) tree
      (treeAtTurn allowBalance dir docs tree names) :=
  have hsublist := List.takeWhile_sublist (l := docs) (· ≠ names)
  documentsKept_fixEach allowBalance hd (fun names' h => hdocs names' (hsublist.subset h))
    (honce.sublist hsublist)

/-- The validation of a document when its turn comes. -/
def validationAtTurn (allowBalance : Bool) (dir : Path) (docs : List (List Text))
    (tree : FileTree) (names : List Text) : Except Failure Validation :=
  validationIn (treeAtTurn allowBalance dir docs tree names) (joinNames dir names)

/-- What holds of the tree `mid` in which the turn of a document comes, where `x` and `next` are
the outcome of its repair in this tree, and `fixed` and `after` that of all repairs. -/
structure Turn (d : Location) (names : List Text) (tree mid : FileTree) (x : Option FixedFile)
    (next : FileTree) (fixed : List (Path × FixedFile)) (after : FileTree) : Prop where
  directories : SameDirectories tree mid
  files : FilesStay tree mid
  /-- Nothing has happened to the document and its backup before. -/
  before : ∀ k, k = d ++ names ∨ k = d ++ backupNames names → mid.find? k = tree.find? k
  /-- Nothing happens to them later. -/
  later : ∀ k, k = d ++ names ∨ k = d ++ backupNames names → after.find? k = next.find? k
  listed : ∀ r, (ofNames names, r) ∈ fixed ↔ x = some r

/-- The document is read as it was. -/
theorem Turn.read_eq {mid next after : FileTree} {fixed : List (Path × FixedFile)}
    (h : Turn d names tree mid x next fixed after) (hd : tree.resolve dir = .ok d)
    (hnames : IsDocumentBelow names) (hread : tree.read (joinNames dir names) = .ok old) :
    mid.read (joinNames dir names) = .ok old :=
  read_joinNames_of_frame hd hnames.2 h.directories (h.before _ (.inl rfl)) hread

/-- Each document has its turn. -/
theorem exists_turn (allowBalance : Bool) (hd : tree.resolve dir = .ok d)
    (hdocs : ∀ names ∈ docs, IsDocumentBelow names) (honce : docs.Nodup) (hmem : names ∈ docs) :
    let mid := treeAtTurn allowBalance dir docs tree names
    let out := (fixListed (m := StateM FileTree) allowBalance (joinNames dir names)).run mid
    let run := (fixEach (m := StateM FileTree) allowBalance dir docs).run tree
    Turn d names tree mid out.1 out.2 run.1 run.2 := by
  obtain ⟨pre, post, rfl⟩ := List.append_of_mem hmem
  rw [List.forall_mem_append, List.forall_mem_cons] at hdocs
  obtain ⟨hpre, hnames, hpost⟩ := hdocs
  rw [List.nodup_append, List.nodup_cons] at honce
  obtain ⟨hpreOnce, ⟨hnotPost, hpostOnce⟩, hdisjoint⟩ := honce
  have hnotPre : ∀ names' ∈ pre, names' ≠ names :=
    fun names' h => hdisjoint names' h names (List.mem_cons_self ..)
  have hturn : (pre ++ names :: post).takeWhile (· ≠ names) = pre := by
    rw [List.takeWhile_append_of_pos (by simpa using hnotPre), List.takeWhile_cons_of_neg (by simp),
      List.append_nil]
  intro mid out run
  have hmid : mid = ((fixEach (m := StateM FileTree) allowBalance dir pre).run tree).2 := by
    rw [← hturn]
    rfl
  have hkept : DocumentsKept dir d pre tree mid :=
    hmid ▸ documentsKept_fixEach allowBalance hd hpre hpreOnce
  have hout : DocumentsKept dir d [names] mid out.2 :=
    documentsKept_fixListed allowBalance (hkept.directories.resolve hd) hnames
  have hlater : DocumentsKept dir d post out.2
      ((fixEach (m := StateM FileTree) allowBalance dir post).run out.2).2 :=
    documentsKept_fixEach allowBalance (hout.directories.resolve (hkept.directories.resolve hd))
      hpost hpostOnce
  have hrun : run = (((fixEach (m := StateM FileTree) allowBalance dir pre).run tree).1 ++
      (listing names out.1 ++ ((fixEach (m := StateM FileTree) allowBalance dir post).run out.2).1),
        ((fixEach (m := StateM FileTree) allowBalance dir post).run out.2).2) := by
    simp only [run, out, hmid, run_fixEach_append, run_fixEach_cons]
  refine ⟨hkept.directories, hmid ▸ filesStay_fixEach dir pre tree, fun k hk => ?_,
    fun k hk => ?_, fun r => ?_⟩
  · exact hkept.frame k fun names' h =>
      hnames.ne_places (hpre names' h) (hnotPre names' h).symm hk
  · rw [hrun]
    exact hlater.frame k fun names' h =>
      hnames.ne_places (hpost names' h) (fun heq => hnotPost (heq ▸ h)) hk
  · rw [hrun, List.mem_append, List.mem_append,
      or_iff_right (hnames.not_mem_fixEach hpre fun h => hnotPre names h rfl),
      or_iff_left (hnames.not_mem_fixEach hpost hnotPost), listing, Option.mem_toList]
    simp

/-- Two repairs of documents agree on one of them : it lies in the same directories, with the same
bytes and the same backup, and has the same validation when its turn comes. -/
structure AgreesOn (allowBalance : Bool) (dir : Path) (d : Location) (names : List Text)
    (docs : List (List Text)) (tree : FileTree) (docs' : List (List Text)) (tree' : FileTree) :
    Prop where
  directories : SameDirectories tree tree'
  file : tree'.find? (d ++ names) = tree.find? (d ++ names)
  backup : tree'.find? (d ++ backupNames names) = tree.find? (d ++ backupNames names)
  validation : validationAtTurn allowBalance dir docs' tree' names =
    validationAtTurn allowBalance dir docs tree names

/-- Some path that is tried for an inclusion of the file leads to the place. -/
def FileTree.Includes (tree : FileTree) (p : Path) (l : Location) : Prop :=
  ∃ t, tree.source p = .ok t ∧ ∃ i ∈ (scan t).inclusions, ∃ target ∈ includeCandidates i.target,
    tree.resolve (FileAccess.targetPath (some (Path.directory p)) target) = .ok l

/-! ## What happens to a document -/

/-- The document has been rewritten, and its backup holds the bytes that it had. -/
def Rewritten (tree after : FileTree) (d : Location) (names : List Text) (r : FixedFile) : Prop :=
  ∃ old, tree.find? (d ++ names) = some (.file old) ∧ Text.toBytes r.content ≠ old ∧
    after.find? (d ++ names) = some (.file (Text.toBytes r.content)) ∧
      after.find? (d ++ backupNames names) = some (.file old)

/-- The backup of a document is stored beside it. -/
theorem FileTree.Writable.eq_append (hb : tree.Writable (backup (joinNames dir names)) l)
    (hd : tree.resolve dir = .ok d) (hnames : IsDocumentBelow names) :
    l = d ++ backupNames names := by
  have hresolve := hb.resolve
  rw [backup_joinNames hnames.ne_nil hnames.2] at hresolve
  exact eq_append_of_resolve hd (backupNames_isName hnames.ne_nil hnames.2) hresolve

/-- A document that is not listed keeps its bytes, and a listed one is rewritten. -/
theorem Treatment.find?_document (h : Treatment tree (joinNames dir names) x puts)
    (hd : tree.resolve dir = .ok d) (hnames : IsDocumentBelow names) :
    (x = none ∧ (tree.store puts).find? (d ++ names) = tree.find? (d ++ names)) ∨
      ∃ r, x = some r ∧ Rewritten tree (tree.store puts) d names r := by
  have hne : d ++ names ≠ d ++ backupNames names :=
    fun heq => hnames.ne_backupNames hnames (List.append_cancel_left heq)
  cases h with
  | left => exact .inl ⟨rfl, rfl⟩
  | saved file hb =>
    obtain rfl := hb.eq_append hd hnames
    exact .inl ⟨rfl, find?_put_of_ne tree hne _⟩
  | @fixed old t b l r file htext hb hl hchanged =>
    obtain rfl := hb.eq_append hd hnames
    obtain rfl := eq_append_of_resolve hd hnames.2 hl.resolve
    obtain ⟨l, hresolve, hfile⟩ := read_eq_ok_iff.1 file
    obtain rfl := eq_append_of_resolve hd hnames.2 hresolve
    have hbytes : Text.toBytes r.content ≠ old := by
      rintro rfl
      exact hchanged (Option.some.inj ((Text.ofBytes?_toBytes _).symm.trans htext))
    refine .inr ⟨r, rfl, old, hfile, hbytes, find?_put_self _ (ne_nil_of_find?_ne hl.free) _, ?_⟩
    exact (find?_put_of_ne _ hne.symm _).trans (find?_put_self tree (ne_nil_of_find?_ne hb.free) _)

section

variable (hd : tree.resolve dir = .ok d) (hdocs : ∀ names ∈ docs, IsDocumentBelow names)
  (honce : docs.Nodup)
include hd hdocs honce

/-- A document is listed and rewritten, or it is not listed and keeps its bytes. -/
theorem exists_result (allowBalance : Bool) (hmem : names ∈ docs) :
    let run := (fixEach (m := StateM FileTree) allowBalance dir docs).run tree
    ∃ x, (∀ r, (ofNames names, r) ∈ run.1 ↔ x = some r) ∧
      ((x = none ∧ run.2.find? (d ++ names) = tree.find? (d ++ names)) ∨
        ∃ r, x = some r ∧ Rewritten tree run.2 d names r) := by
  have hturn := exists_turn allowBalance hd hdocs honce hmem
  dsimp only at hturn ⊢
  obtain ⟨x, puts, htreatment, hrun⟩ :=
    exists_treatment (treeAtTurn allowBalance dir docs tree names) (joinNames dir names)
  rw [hrun _ (.refl _) rfl rfl] at hturn
  refine ⟨x, hturn.listed, ?_⟩
  refine (htreatment.find?_document (hturn.directories.resolve hd) (hdocs names hmem)).imp ?_ ?_
  · rintro ⟨hx, hsame⟩
    exact ⟨hx, by rw [hturn.later _ (.inl rfl), hsame, hturn.before _ (.inl rfl)]⟩
  · rintro ⟨r, hx, old, hold, hchanged, hnew, hbackup⟩
    rw [hturn.before _ (.inl rfl)] at hold
    rw [← hturn.later _ (.inl rfl)] at hnew
    rw [← hturn.later _ (.inr rfl)] at hbackup
    exact ⟨r, hx, old, hold, hchanged, hnew, hbackup⟩

/-- What is listed has been rewritten. -/
theorem exists_rewritten {e : Path × FixedFile}
    (he : e ∈ ((fixEach (m := StateM FileTree) allowBalance dir docs).run tree).1) :
    ∃ names ∈ docs, e.1 = ofNames names ∧
      Rewritten tree ((fixEach (m := StateM FileTree) allowBalance dir docs).run tree).2 d names
        e.2 := by
  obtain ⟨names, hmem, hname⟩ := exists_of_mem_fixEach he
  refine ⟨names, hmem, hname.symm, ?_⟩
  obtain ⟨x, hlisted, hx⟩ := exists_result hd hdocs honce allowBalance hmem
  have hsome : x = some e.2 := (hlisted e.2).1 (hname ▸ he)
  rcases hx with ⟨hnone, -⟩ | ⟨r, hr, hrewritten⟩
  · cases hnone.symm.trans hsome
  · obtain rfl := Option.some.inj (hr.symm.trans hsome)
    exact hrewritten

/-- A document that is no text or has nothing to mend is left alone, and gets no backup. -/
theorem find?_of_left (hmem : names ∈ docs) (hfile : tree.find? (d ++ names) = some (.file old))
    (hleft : Text.ofBytes? old = none ∨ ∃ v, v.valid = true ∧
      (validationIn tree (joinNames dir names) = .ok v ∨
        validationAtTurn allowBalance dir docs tree names = .ok v))
    (hk : k = d ++ names ∨ k = d ++ backupNames names) :
    ((fixEach (m := StateM FileTree) allowBalance dir docs).run tree).2.find? k = tree.find? k := by
  have hnames := hdocs names hmem
  have hturn := exists_turn allowBalance hd hdocs honce hmem
  dsimp only at hturn
  have hnothing : (fixListed (m := StateM FileTree) allowBalance (joinNames dir names)).run
      (treeAtTurn allowBalance dir docs tree names) =
        (none, treeAtTurn allowBalance dir docs tree names) := by
    refine run_fixListed_of_left ?_
    rcases hleft with htext | ⟨v, hvalid, hv | hv⟩
    · left
      cases hsource :
        (treeAtTurn allowBalance dir docs tree names).source (joinNames dir names) with
      | error e => exact ⟨e, rfl⟩
      | ok t =>
        obtain ⟨bytes, hread, hbytes⟩ := source_eq_ok_iff.1 hsource
        obtain ⟨l, hl, hplace⟩ := read_eq_ok_iff.1 hread
        obtain rfl := eq_append_of_resolve (hturn.directories.resolve hd) hnames.2 hl
        rw [hturn.before _ (.inl rfl), hfile] at hplace
        cases hplace
        cases hbytes.symm.trans htext
    · -- What has been repaired before are files that a valid document may include.
      right
      obtain ⟨bytes, hread⟩ := exists_read_of_validationIn hv
      exact valid_validationIn_mono ((hturn.read_eq hd hnames hread).trans hread.symm)
        hturn.directories hturn.files hv hvalid
    · exact .inr ⟨v, hv, hvalid⟩
  rw [hnothing] at hturn
  rw [hturn.later k hk, hturn.before k hk]

/-- A document whose turn comes in trees that agree on it fares alike in both, whatever else is
repaired, or fails to be. -/
theorem fixEach_alike (hdocs' : ∀ names ∈ docs', IsDocumentBelow names) (honce' : docs'.Nodup)
    (hmem : names ∈ docs) (hmem' : names ∈ docs')
    (h : AgreesOn allowBalance dir d names docs tree docs' tree') :
    let run := (fixEach (m := StateM FileTree) allowBalance dir docs).run tree
    let run' := (fixEach (m := StateM FileTree) allowBalance dir docs').run tree'
    (∀ r, (ofNames names, r) ∈ run'.1 ↔ (ofNames names, r) ∈ run.1) ∧
      ∀ k, k = d ++ names ∨ k = d ++ backupNames names → run'.2.find? k = run.2.find? k := by
  have hturn := exists_turn allowBalance hd hdocs honce hmem
  have hturn' := exists_turn allowBalance (h.directories.resolve hd) hdocs' honce' hmem'
  have hvalidation := h.validation
  unfold validationAtTurn at hvalidation
  dsimp only at hturn hturn' ⊢
  set mid := treeAtTurn allowBalance dir docs tree names
  set mid' := treeAtTurn allowBalance dir docs' tree' names
  have hplaces : ∀ k, k = d ++ names ∨ k = d ++ backupNames names → mid'.find? k = mid.find? k := by
    intro k hk
    rw [hturn'.before k hk, hturn.before k hk]
    rcases hk with rfl | rfl
    · exact h.file
    · exact h.backup
  have hdirectories : mid.SameDirectories mid' :=
    hturn.directories.symm.trans (h.directories.trans hturn'.directories)
  -- The same is stored in both trees and the same is listed.
  obtain ⟨x, puts, hrun, hrun'⟩ : ∃ x puts,
      (fixListed (m := StateM FileTree) allowBalance (joinNames dir names)).run mid =
        (x, mid.store puts) ∧
        (fixListed (m := StateM FileTree) allowBalance (joinNames dir names)).run mid' =
          (x, mid'.store puts) := by
    cases hv : validationIn mid (joinNames dir names) with
    | error e =>
      refine ⟨none, [], ?_, ?_⟩
      · rw [run_fixListed, hv]
        rfl
      · rw [run_fixListed, hvalidation, hv]
        rfl
    | ok v =>
      obtain ⟨bytes, hread⟩ := exists_read_of_validationIn hv
      have hread' := read_joinNames_of_frame (hturn.directories.resolve hd) (hdocs names hmem).2
        hdirectories (hplaces _ (.inl rfl)) hread
      obtain ⟨x, puts, -, hrun⟩ := exists_treatment mid (joinNames dir names)
      exact ⟨x, puts, hrun mid (.refl mid) rfl rfl,
        hrun mid' hdirectories (hread'.trans hread.symm) hvalidation⟩
  rw [hrun] at hturn
  rw [hrun'] at hturn'
  refine ⟨fun r => by rw [hturn'.listed, hturn.listed], fun k hk => ?_⟩
  rw [hturn'.later k hk, hturn.later k hk, find?_store_congr (hplaces k hk)]

/-- A document that includes no backup has the validation that it had. -/
theorem validationAtTurn_eq (hmem : names ∈ docs)
    (hfiles : ∀ names' ∈ docs, ∃ content, tree.find? (d ++ names') = some (.file content))
    (hread : tree.read (joinNames dir names) = .ok old)
    (h : ∀ names' ∈ docs, ¬tree.Includes (joinNames dir names) (d ++ backupNames names')) :
    validationAtTurn allowBalance dir docs tree names =
      validationIn tree (joinNames dir names) := by
  have hturn := exists_turn allowBalance hd hdocs honce hmem
  dsimp only at hturn
  refine validationIn_congr ((hturn.read_eq hd (hdocs names hmem) hread).trans hread.symm) ?_
  intro t ht i hi
  refine Bool.eq_iff_iff.2 ?_
  rw [holdsTarget, holdsTarget, List.any_eq_true, List.any_eq_true]
  refine exists_congr fun q => and_congr_right fun hq => ⟨fun hfile => ?_,
    isFile_mono hturn.directories hturn.files⟩
  obtain ⟨l, content, hl, hplace⟩ := isFile_eq_true_iff.1 hfile
  have hl' := hturn.directories.symm.resolve hl
  obtain ⟨c, hc, rfl⟩ := List.mem_map.1 hq
  have hbackup : ∀ names' ∈ docs, l ≠ d ++ backupNames names' := by
    rintro names' hnames' rfl
    exact h names' hnames' ⟨t, ht, i, hi, c, hc, hl'⟩
  -- A file that is no backup was there before, be it a document or not.
  refine isFile_eq_true_iff.2 ⟨l, ?_⟩
  by_cases hdocument : ∃ names' ∈ docs, l = d ++ names'
  · obtain ⟨names', hnames', rfl⟩ := hdocument
    obtain ⟨content', hfile'⟩ := hfiles names' hnames'
    exact ⟨content', hl', hfile'⟩
  · push Not at hdocument
    refine ⟨content, hl', ?_⟩
    rw [← hplace, (documentsKept_treeAtTurn hd hdocs honce names).frame l fun names' hnames' =>
      have hmem' := (List.takeWhile_sublist _).subset hnames'
      ⟨hdocument names' hmem', hbackup names' hmem'⟩]

end

/-! ## All documents of a directory -/

/-- To repair a directory is to repair the documents below it one after another. -/
theorem on_fixAll (hd : tree.resolve dir = .ok d) (hdirectory : tree.find? d = some .directory) :
    FileOp.on (fixAll dir allowBalance) tree =
      let run := (fixEach (m := StateM FileTree) allowBalance dir (tree.documentsBelow d)).run tree
      (.ok run.1, run.2) := by
  have hfiles : tree.filesBelow dir = .ok (tree.entries.filterMap (fileBelow? d)) :=
    filesBelow_eq_ok_iff.2 ⟨d, hd, hdirectory, rfl⟩
  have hbelow : FileOp.on (FileAccess.filesBelow dir) tree =
      (.ok (.ok (tree.entries.filterMap (fileBelow? d))), tree) := by
    rw [← hfiles]
    rfl
  rw [fixAll, on_bind_of_ok hbelow]
  rfl

/-- A file that is no backup has other bytes when it is listed. -/
theorem exists_find?_fixEach (htree : tree.WellFormed) (hd : tree.resolve dir = .ok d)
    (hfile : tree.find? l = some (.file old)) (hbackup : ¬tree.IsBackup l) :
    let run := (fixEach (m := StateM FileTree) allowBalance dir (tree.documentsBelow d)).run tree
    ∃ new, run.2.find? l = some (.file new) ∧ (new ≠ old ↔ ∃ names, l = d ++ names ∧
      isDocument names = true ∧ ofNames names ∈ run.1.map (·.1)) := by
  have hdocs : ∀ names ∈ tree.documentsBelow d, IsDocumentBelow names :=
    fun names => htree.isDocumentBelow
  have honce := htree.nodup_documentsBelow d
  dsimp only
  by_cases hdocument : ∃ names ∈ tree.documentsBelow d, l = d ++ names
  · obtain ⟨names, hmem, rfl⟩ := hdocument
    obtain ⟨x, hlisted, ⟨rfl, hsame⟩ | ⟨r, rfl, old', hold', hchanged, hnew, -⟩⟩ :=
      exists_result hd hdocs honce allowBalance hmem
    · refine ⟨old, hsame.trans hfile, iff_of_false (not_not.2 rfl) ?_⟩
      rintro ⟨names', heq, -, hkey⟩
      obtain rfl := List.append_cancel_left heq
      obtain ⟨e, he, hname⟩ := List.mem_map.1 hkey
      exact nomatch (hlisted e.2).1 (hname ▸ he)
    · cases hfile.symm.trans hold'
      exact ⟨_, hnew, iff_of_true hchanged ⟨names, rfl, (hdocs names hmem).1,
        List.mem_map_of_mem ((hlisted r).2 rfl)⟩⟩
  · have hframe := (documentsKept_fixEach allowBalance hd hdocs honce).frame l fun names hmem =>
      ⟨fun heq => hdocument ⟨names, hmem, heq⟩,
        fun heq => hbackup (heq ▸ htree.isBackup_of_mem hmem)⟩
    refine ⟨old, hframe.trans hfile, iff_of_false (not_not.2 rfl) ?_⟩
    rintro ⟨names, rfl, hname, -⟩
    exact hdocument ⟨names, htree.mem_documentsBelow_iff.2 ⟨hname, old, hfile⟩, rfl⟩

/-- It is a directory that is repaired. -/
theorem exists_of_on_fixAll_eq_ok {fixed : List (Path × FixedFile)}
    (h : (FileOp.on (fixAll dir allowBalance) tree).1 = .ok fixed) :
    ∃ d, tree.resolve dir = .ok d ∧ tree.find? d = some .directory := by
  have hbelow : FileOp.on (FileAccess.filesBelow dir) tree = (.ok (tree.filesBelow dir), tree) :=
    rfl
  rw [fixAll, on_bind_of_ok hbelow] at h
  cases hfiles : tree.filesBelow dir with
  | error e =>
    rw [hfiles] at h
    cases h
  | ok files =>
    obtain ⟨d, hd, hdirectory, -⟩ := filesBelow_eq_ok_iff.1 hfiles
    exact ⟨d, hd, hdirectory⟩

/-- What the repair of the directory with the path `dir`, at the place `d`, has made of a tree,
where `fixed` is what it has listed. -/
structure RepairsListed (allowBalance : Bool) (dir : Path) (d : Location) (tree : FileTree)
    (fixed : List (Path × FixedFile)) (after : FileTree) : Prop where
  /-- Documents are listed in the order of their paths. -/
  ordered : ∃ docs : List (List Text), docs.Sublist (tree.documentsBelow d) ∧
    docs.Pairwise (· < ·) ∧ fixed.map (·.1) = docs.map ofNames
  once : (fixed.map (·.1)).Nodup
  /-- Files stay files, and those that have other bytes are the listed ones. -/
  changed : ∀ l old, tree.find? l = some (.file old) → ¬tree.IsBackup l →
    ∃ new, after.find? l = some (.file new) ∧ (new ≠ old ↔ ∃ names, l = d ++ names ∧
      isDocument names = true ∧ ofNames names ∈ fixed.map (·.1))
  listed : ∀ e ∈ fixed, ∃ names ∈ tree.documentsBelow d,
    e.1 = ofNames names ∧ Rewritten tree after d names e.2
  /-- What is no text or has nothing to mend is left alone. -/
  left : ∀ names old, isDocument names = true → tree.find? (d ++ names) = some (.file old) →
    (Text.ofBytes? old = none ∨ ∃ v, v.valid = true ∧
      (validationIn tree (joinNames dir names) = .ok v ∨
        validationAtTurn allowBalance dir (tree.documentsBelow d) tree names = .ok v)) →
    ∀ k, k = d ++ names ∨ k = d ++ backupNames names → after.find? k = tree.find? k
  frame : ∀ l, (∀ names ∈ tree.documentsBelow d, l ≠ d ++ names ∧ l ≠ d ++ backupNames names) →
    after.find? l = tree.find? l
  /-- A document fares as it does where other files hold something else, or where only some other
  documents are repaired or none is, provided that its validation is the same. -/
  alike : ∀ (tree' : FileTree) (docs' : List (List Text)),
    (∀ names ∈ docs', IsDocumentBelow names) → docs'.Nodup →
    ∀ names ∈ docs', names ∈ tree.documentsBelow d →
    AgreesOn allowBalance dir d names (tree.documentsBelow d) tree docs' tree' →
    let run' := (fixEach (m := StateM FileTree) allowBalance dir docs').run tree'
    (∀ r, (ofNames names, r) ∈ run'.1 ↔ (ofNames names, r) ∈ fixed) ∧
      ∀ k, k = d ++ names ∨ k = d ++ backupNames names → run'.2.find? k = after.find? k
  /-- The validation of a document is what it was if no backup is included. -/
  settled : ∀ names ∈ tree.documentsBelow d, ∀ old,
    tree.read (joinNames dir names) = .ok old →
    (∀ l, tree.IsBackup l → ¬tree.Includes (joinNames dir names) l) →
    validationAtTurn allowBalance dir (tree.documentsBelow d) tree names =
      validationIn tree (joinNames dir names)

/-- The repair of a directory changes the files that it lists, each as it is listed and with a
backup, and apart from backups no others. -/
theorem fixAll_repairsListed (htree : tree.WellFormed) {fixed : List (Path × FixedFile)}
    (h : (FileOp.on (fixAll dir allowBalance) tree).1 = .ok fixed) :
    ∃ d, tree.resolve dir = .ok d ∧
      RepairsListed allowBalance dir d tree fixed (FileOp.on (fixAll dir allowBalance) tree).2 := by
  obtain ⟨d, hd, hdirectory⟩ := exists_of_on_fixAll_eq_ok h
  refine ⟨d, hd, ?_⟩
  rw [on_fixAll hd hdirectory] at h ⊢
  obtain rfl := Except.ok.inj h
  dsimp only
  have hdocs : ∀ names ∈ tree.documentsBelow d, IsDocumentBelow names :=
    fun names => htree.isDocumentBelow
  have honce := htree.nodup_documentsBelow d
  obtain ⟨docs, hsublist, hordered⟩ : ∃ docs : List (List Text),
      docs.Sublist (tree.documentsBelow d) ∧
      ((fixEach (m := StateM FileTree) allowBalance dir (tree.documentsBelow d)).run
        tree).1.map (·.1) =
        docs.map ofNames :=
    List.sublist_map_iff.1 (sublist_fixEach dir (tree.documentsBelow d) tree)
  constructor
  case ordered =>
    exact ⟨docs, hsublist, (htree.pairwise_documentsBelow d).sublist hsublist, hordered⟩
  case once =>
    rw [hordered]
    exact (honce.sublist hsublist).map_on fun names h names' h' =>
      (hdocs names (hsublist.subset h)).ofNames_inj (hdocs names' (hsublist.subset h'))
  case frame => exact (documentsKept_fixEach allowBalance hd hdocs honce).frame
  case left =>
    intro names old hdocument hfile hleft k hk
    exact find?_of_left hd hdocs honce (htree.mem_documentsBelow_iff.2 ⟨hdocument, old, hfile⟩)
      hfile hleft hk
  case alike =>
    intro tree' docs' hdocs' honce' names hmem' hmem hagree
    exact fixEach_alike hd hdocs honce hdocs' honce' hmem hmem' hagree
  case settled =>
    intro names hmem old hread hinclude
    exact validationAtTurn_eq hd hdocs honce hmem
      (fun names' h' => (htree.mem_documentsBelow_iff.1 h').2) hread
      fun names' h' => hinclude _ (htree.isBackup_of_mem h')
  case listed => exact fun e => exists_rewritten hd hdocs honce
  case changed => exact fun l old => exists_find?_fixEach htree hd

/-- A document is repaired although the one before it is no text. -/
theorem fixAll_repairsListed_beside_invalid_text :
    let new :=
      "\\documentclass{a}\n\\begin{document}\n\\end{document}\n".toList
    let old := new ++ "x\n".toList
    let tree : FileTree := ⟨[(["a.tex".toList], .file ⟨#[255]⟩),
      (["b.tex".toList], .file (Text.toBytes old))]⟩
    let out := FileOp.on (fixAll current) tree
    ∃ fixed, out.1 = .ok fixed ∧ RepairsListed true current [] tree fixed out.2 ∧
      "b.tex".toList ∈ fixed.map (·.1) ∧
      out.2.find? ["a.tex".toList] = some (.file ⟨#[255]⟩) ∧
      out.2.find? ["a.tex.backup".toList] = none ∧
      out.2.find? ["b.tex".toList] = some (.file (Text.toBytes new)) ∧
      out.2.find? ["b.tex.backup".toList] = some (.file (Text.toBytes old)) := by
  intro new old tree out
  have htree : tree.WellFormed := ⟨by decide, by decide⟩
  have hroot : tree.resolve current = .ok [] := by decide +kernel
  have hon : out.1 = .ok _ := congrArg Prod.fst (on_fixAll hroot rfl)
  obtain ⟨d, hd, hrepairs⟩ := fixAll_repairsListed htree hon
  obtain rfl : d = [] := Except.ok.inj (hd.symm.trans hroot)
  have hleft := hrepairs.left ["a.tex".toList] ⟨#[255]⟩ (by decide) rfl
    (.inl (by decide +kernel))
  -- What happens to the second document is what happens when it is repaired alone.
  have hsource : tree.source (joinNames current ["b.tex".toList]) = .ok old := by decide +kernel
  have hmem : ["b.tex".toList] ∈ tree.documentsBelow [] :=
    htree.mem_documentsBelow_iff.2 ⟨by decide, _, rfl⟩
  have hsettled := hrepairs.settled _ hmem (Text.toBytes old) (by decide +kernel) (by
    rintro l - ⟨t, ht, i, hi, -⟩
    obtain rfl := Except.ok.inj (ht.symm.trans hsource)
    have hnone : (scan old).inclusions = [] := by decide +kernel
    rw [hnone] at hi
    cases hi)
  have halone := hrepairs.alike tree [["b.tex".toList]]
    (List.forall_mem_singleton.2 (htree.isDocumentBelow hmem)) (List.nodup_singleton _) _
    (List.mem_singleton_self _) hmem ⟨.refl tree, rfl, rfl, hsettled.symm⟩
  have hvalidation : validationIn tree (joinNames current ["b.tex".toList]) =
      .ok ⟨issuesOf none (scan old)⟩ := by
    rw [validationIn_eq, hsource]
    refine congrArg Except.ok (congrArg Validation.mk ?_)
    refine (List.mergeSort_of_pairwise ?_).trans ?_
    · decide +kernel
    · decide +kernel
  have hfixed : ((FileOp.on (fixFile true (some ⟨issuesOf none (scan old)⟩)
      (joinNames current ["b.tex".toList])) tree).1.toOption.filter (·.fixed)).map (·.content) =
        some new := by decide +kernel
  obtain ⟨r, hr, hcontent⟩ := Option.map_eq_some_iff.1 hfixed
  have hlisted : (ofNames ["b.tex".toList], r) ∈
      ((fixEach (m := StateM FileTree) true current [["b.tex".toList]]).run tree).1 := by
    rw [run_fixEach_cons, run_fixListed, hvalidation]
    dsimp only
    rw [if_neg (by decide +kernel), hr]
    exact List.mem_append_left _ (List.mem_singleton_self _)
  have hinFixed := (halone.1 r).1 hlisted
  obtain ⟨names, hnames, hname, old', hold', -, hnew, hbackup⟩ := hrepairs.listed _ hinFixed
  obtain rfl := (htree.isDocumentBelow hmem).ofNames_inj (htree.isDocumentBelow hnames) hname
  cases hold'
  exact ⟨_, hon, hrepairs, List.mem_map_of_mem hinFixed, hleft _ (.inl rfl), hleft _ (.inr rfl),
    hcontent ▸ hnew, hbackup⟩

end

end LatexRepair
