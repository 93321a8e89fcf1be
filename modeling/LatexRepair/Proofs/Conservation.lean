import LatexRepair.Proofs.DelimiterTrace
import LatexRepair.Proofs.ScanSteps
import LatexRepair.Validation
import Mathlib.Data.List.Perm.Basic

/-!
# Conservation of delimiters

What a scan reports about a delimiter class accounts for the word of its events
(`Conserves`) : no unmatched opener is reported beside an unmatched closer, their numbers
differ by as much as openers and closers do, no event is reported twice, the word without
the reported events is balanced, and a closer reported as misordered stands before its
opener. Nothing is reported exactly when the word is balanced.

`conserves_ofStack` : the findings made of a stack conserve the word that it was fed with.
The last strays and the outermost openers that are reported as pairs come from the two ends
of what the word leaves, so the reported events are what is left, each once
(`events_ofStack_perm`).
-/

namespace LatexRepair

namespace Finding

/-! ## What a finding says about the events -/

/-- The delimiter class that a finding is about. -/
def delimiter? : Finding → Option Delimiter
  | unmatchedOpen d _ | unmatchedClose d _ | misordered d _ _ => some d
  | _ => none

/-- The finding is an opener without closer. -/
def isUnmatchedOpen : Finding → Bool
  | unmatchedOpen _ _ => true
  | _ => false

/-- The finding is a closer without opener. -/
def isUnmatchedClose : Finding → Bool
  | unmatchedClose _ _ => true
  | _ => false

/-- The events that a finding reports. -/
def events : Finding → List DelimiterEvent
  | unmatchedOpen _ p => [.opening p]
  | unmatchedClose _ p => [.closing p]
  | misordered _ closer opener => [.closing closer, .opening opener]
  | _ => []

end Finding

/-- The findings `F` account for the word `E`. -/
structure Conserves (E : List DelimiterEvent) (F : List Finding) : Prop where
  one_sided : F.countP Finding.isUnmatchedOpen = 0 ∨ F.countP Finding.isUnmatchedClose = 0
  difference : (F.countP Finding.isUnmatchedOpen : Int) - F.countP Finding.isUnmatchedClose =
    E.countP DelimiterEvent.isOpening - E.countP DelimiterEvent.isClosing
  nodup : E.Nodup
  reported_nodup : (F.flatMap Finding.events).Nodup
  reported_subset : F.flatMap Finding.events ⊆ E
  balanced_rest : Balanced (E.filter (· ∉ F.flatMap Finding.events))
  misordered : ∀ d closer opener, .misordered d closer opener ∈ F →
    closer.offset < opener.offset
  eq_nil_iff : F = [] ↔ Balanced E

/-- The order of the findings does not matter. -/
theorem Conserves.perm {E : List DelimiterEvent} {F G : List Finding} (h : Conserves E F)
    (hp : F.Perm G) : Conserves E G := by
  have hevents := hp.flatMap_right Finding.events
  have hopen := hp.countP_eq Finding.isUnmatchedOpen
  have hclose := hp.countP_eq Finding.isUnmatchedClose
  refine ⟨?_, ?_, h.nodup, hevents.nodup_iff.1 h.reported_nodup,
    List.Subset.trans hevents.symm.subset h.reported_subset, ?_,
    fun d closer opener hmem => h.misordered d closer opener (hp.mem_iff.2 hmem), ?_⟩
  · rw [← hopen, ← hclose]
    exact h.one_sided
  · rw [← hopen, ← hclose]
    exact h.difference
  · simpa only [hevents.mem_iff] using h.balanced_rest
  · rw [← h.eq_nil_iff]
    exact ⟨fun hG => (hG ▸ hp).eq_nil, fun hF => (hF ▸ hp).symm.eq_nil⟩

/-! ## The findings of a stack -/

section OfStack

variable (d : Delimiter) (s : Delimiter.Stack)

/-- The closers that are reported beside an opener. -/
theorem Delimiter.Stack.map_fst_misplaced :
    s.misplaced.map Prod.fst = s.strays.reverse.drop (s.strays.length - s.misplacedCount) := by
  unfold misplaced
  rw [List.map_fst_zip]
  simp [misplacedCount]
  omega

/-- The openers that are reported beside a closer. -/
theorem Delimiter.Stack.map_snd_misplaced :
    s.misplaced.map Prod.snd = s.opens.reverse.take s.misplacedCount := by
  unfold misplaced
  rw [List.map_snd_zip]
  simp [misplacedCount]
  omega

/-- Each pair of a list of pairs in two parts. -/
theorem flatMap_misordered_perm (ps : List (Position × Position)) :
    ((ps.map fun p => Finding.misordered d p.1 p.2).flatMap Finding.events).Perm
      ((ps.map Prod.fst).map .closing ++ (ps.map Prod.snd).map .opening) := by
  have h := List.flatMap_append_perm ps (fun p => [DelimiterEvent.closing p.1])
    fun p => [DelimiterEvent.opening p.2]
  simpa only [List.map_eq_flatMap, List.flatMap_assoc, List.flatMap_singleton, Finding.events,
    List.cons_append, List.nil_append] using h.symm

/-- The findings of a stack report what the stack holds. -/
theorem events_ofStack_perm :
    ((Finding.ofStack d s).flatMap Finding.events).Perm (leftover s.strays s.opens) := by
  have hlone : ∀ (f : Position → Finding) (e : Position → DelimiterEvent) (ps : List Position),
      (∀ p, (f p).events = [e p]) → (ps.map f).flatMap Finding.events = ps.map e :=
    fun f e ps h => by
      rw [List.flatMap_map, List.map_eq_flatMap, funext h]
  have hmid := flatMap_misordered_perm d s.misplaced
  rw [s.map_fst_misplaced, s.map_snd_misplaced] at hmid
  have hcloses : s.strays.reverse = s.loneCloses ++
      s.strays.reverse.drop (s.strays.length - s.misplacedCount) :=
    (List.take_append_drop _ _).symm
  have hopens : s.opens.reverse = s.opens.reverse.take s.misplacedCount ++ s.loneOpens :=
    (List.take_append_drop _ _).symm
  rw [Finding.ofStack, List.flatMap_append, List.flatMap_append,
    hlone _ .closing _ fun _ => rfl, hlone _ .opening _ fun _ => rfl, leftover]
  conv => rhs; rw [hcloses, hopens, List.map_append, List.map_append, List.append_assoc]
  rw [List.append_assoc]
  refine List.Perm.append_left _ ?_
  rw [← List.append_assoc]
  exact hmid.append_right _

theorem countP_isUnmatchedOpen_ofStack :
    (Finding.ofStack d s).countP Finding.isUnmatchedOpen = s.loneOpens.length := by
  simp only [Finding.ofStack, List.countP_append, List.countP_map]
  change s.loneCloses.countP (fun _ => false) + s.misplaced.countP (fun _ => false) +
    s.loneOpens.countP (fun _ => true) = _
  simp

theorem countP_isUnmatchedClose_ofStack :
    (Finding.ofStack d s).countP Finding.isUnmatchedClose = s.loneCloses.length := by
  simp only [Finding.ofStack, List.countP_append, List.countP_map]
  change s.loneCloses.countP (fun _ => true) + s.misplaced.countP (fun _ => false) +
    s.loneOpens.countP (fun _ => false) = _
  simp

end OfStack

/-- The findings of a stack conserve the word that it was fed with. -/
theorem conserves_ofStack (d : Delimiter) {E : List DelimiterEvent}
    (hE : E.Pairwise fun e f => e.pos.offset < f.pos.offset) :
    Conserves E (Finding.ofStack d (.ofWord E)) := by
  have hleaves := Leaves.leaves_ofWord E
  generalize hs : Delimiter.Stack.ofWord E = s at hleaves ⊢
  have hnodup : E.Nodup := hE.imp fun h heq => by
    rw [heq] at h
    exact Nat.lt_irrefl _ h
  have hperm := events_ofStack_perm d s
  have hsub := hleaves.sublist
  have hcount := hleaves.count
  have hmin : s.misplacedCount = min s.strays.length s.opens.length := rfl
  refine ⟨?_, ?_, hnodup, hperm.nodup_iff.2 (hsub.nodup hnodup), ?_, ?_, ?_, ?_⟩
  · rw [countP_isUnmatchedOpen_ofStack, countP_isUnmatchedClose_ofStack, List.length_eq_zero_iff,
      List.length_eq_zero_iff]
    exact s.loneCloses_eq_nil_or_loneOpens_eq_nil.symm
  · rw [countP_isUnmatchedOpen_ofStack, countP_isUnmatchedClose_ofStack, s.length_loneOpens,
      s.length_loneCloses]
    omega
  · exact List.Subset.trans hperm.subset hsub.subset
  · refine hleaves.balanced_filter hnodup fun e _ => ?_
    rw [decide_eq_true_iff, hperm.mem_iff]
  · intro e closer opener hmem
    have hmem : (closer, opener) ∈ s.misplaced := by
      simp only [Finding.ofStack, List.mem_append, List.mem_map, reduceCtorEq, and_false,
        exists_false, false_or, or_false, Finding.misordered.injEq] at hmem
      obtain ⟨p, hp, -, rfl, rfl⟩ := hmem
      exact hp
    have hclose : .closing closer ∈ s.strays.reverse.map DelimiterEvent.closing :=
      List.mem_map_of_mem (List.mem_of_mem_drop (List.of_mem_zip hmem).1)
    have hopen : .opening opener ∈ s.opens.reverse.map DelimiterEvent.opening :=
      List.mem_map_of_mem (List.mem_of_mem_take (List.of_mem_zip hmem).2)
    exact (List.pairwise_append.1 (hE.sublist hsub)).2.2 _ hclose _ hopen
  · rw [balanced_iff_ofWord_eq, hs]
    refine ⟨fun hnil => ?_, fun h => by rw [h]; rfl⟩
    rw [hnil] at hperm
    have hleft := hperm.symm.eq_nil
    simp only [leftover, List.append_eq_nil_iff, List.map_eq_nil_iff,
      List.reverse_eq_nil_iff] at hleft
    obtain ⟨opens, strays⟩ := s
    obtain ⟨rfl, rfl⟩ := hleft
    rfl

/-! ## The findings of a scan -/

namespace ScanState

theorem delimiter?_of_mem_endFindings {name : Text} {p : Position} {open_ : List OpenEnvironment}
    {f : Finding} (h : f ∈ endFindings name p open_) : f.delimiter? = none := by
  unfold endFindings at h
  split at h
  · obtain rfl := List.mem_singleton.1 h
    rfl
  · split at h
    · simp at h
    · rcases List.mem_append.1 h with h | h
      · obtain ⟨env, -, rfl⟩ := List.mem_map.1 h
        rfl
      · obtain rfl := List.mem_singleton.1 h
        rfl

/-- A lexeme adds no finding about delimiters. -/
theorem delimiter?_of_mem_findings_step {s : ScanState} {x : Lexeme}
    (h : ∀ f ∈ s.findings, f.delimiter? = none) :
    ∀ f ∈ (s.step x).findings, f.delimiter? = none := by
  obtain ⟨fs, hfs, hnew⟩ := exists_findings_step x s
  rw [hfs]
  intro f hf
  rcases List.mem_append.1 hf with hf | hf
  · rcases hnew f hf with ⟨env, rfl⟩ | ⟨name, p, hend⟩
    · rfl
    · exact delimiter?_of_mem_endFindings hend
  · exact h f hf

theorem delimiter?_of_mem_findings_run {s : ScanState} {xs : List Lexeme}
    (h : ∀ f ∈ s.findings, f.delimiter? = none) :
    ∀ f ∈ (s.run xs).findings, f.delimiter? = none := by
  induction xs generalizing s with
  | nil => exact h
  | cons x xs ih => exact ih (delimiter?_of_mem_findings_step h)

end ScanState

theorem delimiter?_of_mem_ofStack {d : Delimiter} {s : Delimiter.Stack} {f : Finding}
    (h : f ∈ Finding.ofStack d s) : f.delimiter? = some d := by
  unfold Finding.ofStack at h
  rcases List.mem_append.1 h with h | h
  · rcases List.mem_append.1 h with h | h <;> obtain ⟨p, -, rfl⟩ := List.mem_map.1 h <;> rfl
  · obtain ⟨p, -, rfl⟩ := List.mem_map.1 h
    rfl

theorem filter_ofStack (d e : Delimiter) (s : Delimiter.Stack) :
    ((Finding.ofStack e s).filter fun f => f.delimiter? = some d) =
      if e = d then Finding.ofStack e s else [] := by
  split
  · rename_i h
    refine List.filter_eq_self.2 fun f hf => ?_
    simpa [h] using delimiter?_of_mem_ofStack hf
  · rename_i h
    refine List.filter_eq_nil_iff.2 fun f hf => ?_
    simpa [delimiter?_of_mem_ofStack hf] using h

/-- The findings of one class that a document ends with are those of its stack. -/
theorem filter_findings_scan_perm (d : Delimiter) (t : Text) :
    ((scan t).findings.filter fun f => f.delimiter? = some d).Perm
      (Finding.ofStack d (.ofWord (delimiterEvents d t))) := by
  have hsort := (List.mergeSort_perm (ScanState.run {} (Lexeme.lexemes t)).allFindings
    fun f g => Position.le f.place g.place).filter fun f => f.delimiter? = some d
  refine hsort.trans (.of_eq ?_)
  rw [← get_delimiters_run_lexemes]
  have hrun : ∀ f ∈ (ScanState.run {} (Lexeme.lexemes t)).findings, f.delimiter? = none :=
    ScanState.delimiter?_of_mem_findings_run (by simp)
  generalize ScanState.run {} (Lexeme.lexemes t) = s at hrun
  have hfindings : (s.findings.reverse.filter fun f => f.delimiter? = some d) = [] :=
    List.filter_eq_nil_iff.2 fun f hf => by simp [hrun f (List.mem_reverse.1 hf)]
  have henvs : ((s.environments.reverse.map Finding.unclosed).filter
      fun f => f.delimiter? = some d) = [] :=
    List.filter_eq_nil_iff.2 fun f hf => by
      obtain ⟨env, -, rfl⟩ := List.mem_map.1 hf
      simp [Finding.delimiter?]
  rw [ScanState.allFindings, List.filter_append, List.filter_append, hfindings, henvs,
    List.nil_append, List.append_nil]
  cases d <;> simp [Delimiter.all, filter_ofStack]

/-! ## The issues about braces -/

/-- An issue about braces reports a brace without partner. -/
theorem kind_ofFinding_eq_brace_iff (f : Finding) :
    (Issue.ofFinding f).kind = .brace ↔
      f.delimiter? = some .brace ∧ (f.isUnmatchedOpen ∨ f.isUnmatchedClose) := by
  cases f with
  | unmatchedOpen d p | unmatchedClose d p | misordered d c o =>
    cases d <;> simp [Issue.ofFinding, IssueKind.ofDelimiter, Finding.delimiter?,
      Finding.isUnmatchedOpen, Finding.isUnmatchedClose]
  | _ => simp [Issue.ofFinding, Finding.delimiter?]

namespace Issue

variable {o : ScanOutcome} {i : Issue}

theorem kind_of_mem_ofSkeleton (h : i ∈ ofSkeleton o) : i.kind = .structure_ := by
  unfold ofSkeleton at h
  split at h
  · obtain rfl := List.mem_singleton.1 h
    rfl
  · split at h
    · obtain rfl := List.mem_singleton.1 h
      rfl
    · simp at h

theorem kind_of_mem_ofTrailing (h : i ∈ ofTrailing o) : i.kind = .trailingContent := by
  unfold ofTrailing at h
  split at h
  · obtain rfl := List.mem_singleton.1 h
    rfl
  · simp at h

theorem kind_of_mem_ofInclusions {known : FileLookup} (h : i ∈ ofInclusions known o) :
    i.kind = .include_ := by
  obtain ⟨x, -, rfl⟩ := List.mem_map.1 h
  rfl

end Issue

/-- The issues about braces are those of the findings about braces without partner. -/
theorem filter_brace_issuesOf (lookup : Option FileLookup) (o : ScanOutcome) :
    ((issuesOf lookup o).filter fun i => i.kind = .brace) =
      ((o.findings.filter fun f => f.delimiter? = some .brace).filter
        fun f => f.isUnmatchedOpen || f.isUnmatchedClose).map Issue.ofFinding := by
  have hskeleton : ((Issue.ofSkeleton o).filter fun i => i.kind = .brace) = [] :=
    List.filter_eq_nil_iff.2 fun i hi => by simp [Issue.kind_of_mem_ofSkeleton hi]
  have htrailing : ((Issue.ofTrailing o).filter fun i => i.kind = .brace) = [] :=
    List.filter_eq_nil_iff.2 fun i hi => by simp [Issue.kind_of_mem_ofTrailing hi]
  have hfindings : (fun f => decide ((Issue.ofFinding f).kind = .brace)) = fun f =>
      decide (f.delimiter? = some .brace) && (f.isUnmatchedOpen || f.isUnmatchedClose) :=
    funext fun f => by simp [kind_ofFinding_eq_brace_iff]
  have hmain : ((o.findings.map Issue.ofFinding).filter fun i => i.kind = .brace) =
      ((o.findings.filter fun f => f.delimiter? = some .brace).filter
        fun f => f.isUnmatchedOpen || f.isUnmatchedClose).map Issue.ofFinding := by
    rw [List.filter_map, List.filter_filter]
    refine congrArg _ (congrArg (List.filter · _) (funext fun f => ?_))
    rw [Function.comp_apply, Bool.and_comm]
    exact congrFun hfindings f
  unfold issuesOf
  rw [List.filter_append, List.filter_append, List.filter_append, hskeleton, htrailing,
    List.append_nil, List.append_nil, hmain]
  cases lookup with
  | none => simp
  | some known =>
    have hinclusions : ((Issue.ofInclusions known o).filter fun i => i.kind = .brace) = [] :=
      List.filter_eq_nil_iff.2 fun i hi => by simp [Issue.kind_of_mem_ofInclusions hi]
    rw [hinclusions, List.append_nil]

theorem length_filter_unmatched (F : List Finding) :
    (F.filter fun f => f.isUnmatchedOpen || f.isUnmatchedClose).length =
      F.countP Finding.isUnmatchedOpen + F.countP Finding.isUnmatchedClose := by
  induction F with
  | nil => rfl
  | cons f F ih =>
    cases f <;>
      simp_all [List.countP_cons, Finding.isUnmatchedOpen, Finding.isUnmatchedClose] <;> omega

theorem sum_delta_unmatched (F : List Finding) :
    (((F.filter fun f => f.isUnmatchedOpen || f.isUnmatchedClose).map
      Issue.ofFinding).filterMap (·.delta)).foldr (· + ·) 0 =
      (F.countP Finding.isUnmatchedOpen : Int) - F.countP Finding.isUnmatchedClose := by
  induction F with
  | nil => rfl
  | cons f F ih =>
    cases f <;>
      simp_all [List.countP_cons, Finding.isUnmatchedOpen, Finding.isUnmatchedClose,
        Issue.ofFinding] <;> omega

/-- What a scan reports about a delimiter class accounts for its events. -/
theorem conserves_findings_scan (d : Delimiter) (t : Text) :
    Conserves (delimiterEvents d t) ((scan t).findings.filter fun f => f.delimiter? = some d) :=
  (conserves_ofStack d (pairwise_delimiterEvents d t)).perm (filter_findings_scan_perm d t).symm

/-- A validation lists what there is to report, in an order of its own. -/
theorem issues_validate_perm (lookup : Option FileLookup) (t : Text) :
    (validate lookup t).issues.Perm (issuesOf lookup (scan t)) :=
  List.mergeSort_perm _ _

/-- The issues about braces without partner are those of the findings about them. -/
theorem filter_brace_validate_perm (lookup : Option FileLookup) (t : Text) :
    ((validate lookup t).issues.filter fun i => i.kind = .brace).Perm
      ((((scan t).findings.filter fun f => f.delimiter? = some .brace).filter
        fun f => f.isUnmatchedOpen || f.isUnmatchedClose).map Issue.ofFinding) := by
  rw [← filter_brace_issuesOf lookup]
  exact (issues_validate_perm lookup t).filter _

theorem braceDelta_validate (lookup : Option FileLookup) (t : Text) :
    (validate lookup t).braceDelta =
      (delimiterEvents .brace t).countP DelimiterEvent.isOpening -
        (delimiterEvents .brace t).countP DelimiterEvent.isClosing := by
  rw [← (conserves_findings_scan .brace t).difference, ← sum_delta_unmatched]
  exact ((filter_brace_validate_perm lookup t).filterMap (·.delta)).foldr_eq'
    (fun x _ y _ z => Int.add_left_comm y x z) 0

/-- What a scan reports about each delimiter class accounts for the events that the stack of
the class was fed with, and the issues about braces are as many as openers and closers
differ by. -/
theorem scan_conserves (t : Text) :
    (∀ d, (ScanState.run {} (Lexeme.lexemes t)).delimiters.get d =
        Delimiter.Stack.ofWord (delimiterEvents d t) ∧
      Conserves (delimiterEvents d t)
        ((scan t).findings.filter fun f => f.delimiter? = some d)) ∧
    ∀ lookup,
      ((validate lookup t).issues.countP (·.kind = .brace) =
        Int.natAbs ((delimiterEvents .brace t).countP DelimiterEvent.isOpening -
          (delimiterEvents .brace t).countP DelimiterEvent.isClosing)) ∧
      (validate lookup t).braceDelta =
        (delimiterEvents .brace t).countP DelimiterEvent.isOpening -
          (delimiterEvents .brace t).countP DelimiterEvent.isClosing := by
  refine ⟨fun d => ⟨get_delimiters_run_lexemes d t, conserves_findings_scan d t⟩, fun lookup =>
    ⟨?_, braceDelta_validate lookup t⟩⟩
  obtain ⟨hsided, hdiff, -⟩ := conserves_findings_scan .brace t
  rw [List.countP_eq_length_filter, (filter_brace_validate_perm lookup t).length_eq,
    List.length_map, length_filter_unmatched]
  omega

end LatexRepair
