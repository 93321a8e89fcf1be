import LatexRepair.Proofs.Conservation
import LatexRepair.Proofs.EnvironmentWord

/-!
# Well formed documents

What it is for a document to be valid, without a scan : its delimiters are balanced, class
by class, its environment markers well nested and its verbatim environments closed, it has
a document class and a `document` environment, nothing that counts stands behind the end
of the document, and the files that it includes are known (`WellFormed`).

`valid_iff_wellFormed` : validation finds nothing to mend in the well formed documents, and
in no other ones.
-/

namespace LatexRepair

open ScanState (documentName isSignificant)

/-! ## The end of a document -/

/-- Some lexeme ends the document : with it the environments are well nested. -/
def Ended (xs : List Lexeme) : Prop :=
  ∃ ys x zs, xs = ys ++ x :: zs ∧ x.token = .endEnvironment documentName ∧
    WellNested (markersOf (ys ++ [x]))

/-- A lexeme that counts stands behind one that ends the document. -/
def HasTrailing (xs : List Lexeme) : Prop :=
  ∃ ys x zs, xs = ys ++ x :: zs ∧ x.token = .endEnvironment documentName ∧
    WellNested (markersOf (ys ++ [x])) ∧ ∃ z ∈ zs, isSignificant z.token = true

theorem HasTrailing.ended {xs : List Lexeme} (h : HasTrailing xs) : Ended xs := by
  obtain ⟨ys, x, zs, heq, hx, hw, -⟩ := h
  exact ⟨ys, x, zs, heq, hx, hw⟩

theorem ended_append_singleton {xs : List Lexeme} {y : Lexeme} :
    Ended (xs ++ [y]) ↔
      Ended xs ∨ y.token = .endEnvironment documentName ∧ WellNested (markersOf (xs ++ [y])) := by
  constructor
  · rintro ⟨ys, x, zs, heq, hx, hw⟩
    rcases List.eq_nil_or_concat zs with rfl | ⟨zs, z, rfl⟩
    · obtain ⟨rfl, h⟩ := List.append_inj' heq rfl
      obtain rfl := List.singleton_inj.1 h
      exact .inr ⟨hx, hw⟩
    · rw [List.concat_eq_append, ← List.cons_append, ← List.append_assoc] at heq
      obtain ⟨rfl, -⟩ := List.append_inj' heq rfl
      exact .inl ⟨ys, x, zs, rfl, hx, hw⟩
  · rintro (⟨ys, x, zs, rfl, hx, hw⟩ | ⟨hy, hw⟩)
    · exact ⟨ys, x, zs ++ [y], by simp, hx, hw⟩
    · exact ⟨xs, y, [], rfl, hy, hw⟩

theorem hasTrailing_append_singleton {xs : List Lexeme} {y : Lexeme} :
    HasTrailing (xs ++ [y]) ↔ HasTrailing xs ∨ Ended xs ∧ isSignificant y.token = true := by
  constructor
  · rintro ⟨ys, x, zs, heq, hx, hw, z, hz, hsig⟩
    rcases List.eq_nil_or_concat zs with rfl | ⟨zs, z', rfl⟩
    · cases hz
    · rw [List.concat_eq_append] at heq hz
      rw [← List.cons_append, ← List.append_assoc] at heq
      obtain ⟨rfl, h⟩ := List.append_inj' heq rfl
      obtain rfl := List.singleton_inj.1 h
      rcases List.mem_append.1 hz with hz | hz
      · exact .inl ⟨ys, x, zs, rfl, hx, hw, z, hz, hsig⟩
      · obtain rfl := List.mem_singleton.1 hz
        exact .inr ⟨⟨ys, x, zs, rfl, hx, hw⟩, hsig⟩
  · rintro (⟨ys, x, zs, rfl, hx, hw, z, hz, hsig⟩ | ⟨⟨ys, x, zs, rfl, hx, hw⟩, hsig⟩)
    · exact ⟨ys, x, zs ++ [y], by simp, hx, hw, z, List.mem_append_left _ hz, hsig⟩
    · exact ⟨ys, x, zs ++ [y], by simp, hx, hw, y, by simp, hsig⟩

namespace ScanState

variable {s : ScanState}

theorem documentEnd_step (h : s.findings = []) {x : Lexeme} (h' : (s.step x).findings = []) :
    (s.step x).documentEnd.isSome = true ↔
      s.documentEnd.isSome = true ∨
        x.token = .endEnvironment documentName ∧ (s.step x).environments = [] := by
  obtain ⟨p, hacts⟩ := s.exists_acts_step x
  generalize s.step x = s' at hacts h'
  cases hacts with
  | @ends name hx =>
    have hend : endFindings name x.start s.environments = [] := by
      simpa [closeEnvironment, h] using h'
    obtain ⟨top, outer, henv, rfl⟩ := endFindings_eq_nil_iff.1 hend
    simp only [closeEnvironment, henv, splitAtEnd_cons_of_eq, hx]
    by_cases hname : top.name = documentName
    · cases outer with
      | nil => cases s.documentEnd <;> simp [hname]
      | cons => simp
    · simp [hname]
  | delimits ds hx =>
    have : x.token ≠ .endEnvironment documentName := fun heq => by rw [heq] at hx; cases hx
    simp [this]
  | begins hx | documentClass hx | unclosed hx | includes hx => simp [hx, openEnvironment]

/-- What a scan without findings knows about the end of the document. -/
theorem trailing_run (xs : List Lexeme) (h : (run {} xs).findings = []) :
    ((run {} xs).documentEnd.isSome = true ↔ Ended xs) ∧
      ((run {} xs).trailingContent.isSome = true ↔ HasTrailing xs) := by
  induction xs using List.reverseRecOn with
  | nil => simp [run, Ended, HasTrailing]
  | append_singleton xs y ih =>
    have hsnoc : run {} (xs ++ [y]) = (run {} xs).step y := by simp [run]
    have hxs : (run {} xs).findings = [] := by
      by_contra hne
      have hstep := h
      rw [hsnoc] at hstep
      exact findings_run_ne_nil [y] hne hstep
    obtain ⟨hend, htrailing⟩ := ih hxs
    have hnest : nest [] (markersOf (xs ++ [y])) = some (run {} (xs ++ [y])).openNames := by
      rcases run_nest (s := {}) rfl (xs ++ [y]) with ⟨-, -, hw⟩ | ⟨hne, -⟩
      · exact hw
      · exact absurd h hne
    have henv : (run {} (xs ++ [y])).environments = [] ↔ WellNested (markersOf (xs ++ [y])) := by
      rw [← nest_nil_eq_some_nil_iff, hnest, Option.some_inj, openNames, List.map_eq_nil_iff]
    rw [hsnoc] at h henv ⊢
    rw [documentEnd_step hxs h, trailingContent_step, ended_append_singleton,
      hasTrailing_append_singleton, hend, htrailing, henv]
    exact ⟨Iff.rfl, Iff.rfl⟩

end ScanState

/-! ## Validity -/

/-- There is nothing to mend in the document. -/
structure WellFormed (lookup : Option FileLookup) (t : Text) : Prop where
  delimiters : ∀ d, Balanced (delimiterEvents d t)
  environments : WellNested (markersOf (Lexeme.lexemes t))
  verbatim : ∀ x ∈ Lexeme.lexemes t, x.token.isUnclosed = false
  documentClass : ∃ x ∈ Lexeme.lexemes t, x.token = .documentClass
  document : ∃ x ∈ Lexeme.lexemes t, x.token = .beginEnvironment documentName
  trailing : ¬ HasTrailing (Lexeme.lexemes t)
  inclusions : ∀ known ∈ lookup, ∀ x ∈ Lexeme.lexemes t, ∀ command target,
    x.token = .inclusion command target → known target = true

/-- A scan reports nothing exactly when all delimiters are balanced and nothing is wrong
with the environments. -/
theorem findings_scan_eq_nil_iff (t : Text) :
    (scan t).findings = [] ↔ (∀ d, Balanced (delimiterEvents d t)) ∧
      (ScanState.run {} (Lexeme.lexemes t)).findings = [] ∧
        (ScanState.run {} (Lexeme.lexemes t)).environments = [] := by
  have hsort : (scan t).findings = [] ↔
      (ScanState.run {} (Lexeme.lexemes t)).allFindings = [] := by
    rw [← List.length_eq_zero_iff, ← List.length_eq_zero_iff]
    exact iff_of_eq (congrArg (· = 0) (List.length_mergeSort _))
  have hstack : ∀ d, Finding.ofStack d
      ((ScanState.run {} (Lexeme.lexemes t)).delimiters.get d) = [] ↔
        Balanced (delimiterEvents d t) := fun d => by
    rw [get_delimiters_run_lexemes]
    exact (conserves_ofStack d (pairwise_delimiterEvents d t)).eq_nil_iff
  rw [hsort, ScanState.allFindings, List.append_eq_nil_iff, List.append_eq_nil_iff,
    List.reverse_eq_nil_iff, List.flatMap_eq_nil_iff, List.map_eq_nil_iff,
    List.reverse_eq_nil_iff]
  simp only [hstack, Delimiter.mem_all, forall_const]
  constructor
  · rintro ⟨⟨hf, hd⟩, he⟩
    exact ⟨hd, hf, he⟩
  · rintro ⟨hd, hf, he⟩
    exact ⟨⟨hf, hd⟩, he⟩

namespace Issue

variable {o : ScanOutcome}

theorem ofSkeleton_eq_nil_iff :
    ofSkeleton o = [] ↔ o.hasDocumentClass = true ∧ o.beginDocument.isSome = true := by
  unfold ofSkeleton
  cases o.hasDocumentClass <;> cases o.beginDocument <;> simp

theorem ofTrailing_eq_nil_iff :
    ofTrailing o = [] ↔ ¬ (o.documentEnd.isSome = true ∧ o.trailingContent.isSome = true) := by
  unfold ofTrailing
  cases o.documentEnd <;> cases o.trailingContent <;> simp

theorem ofInclusions_eq_nil_iff {known : FileLookup} :
    ofInclusions known o = [] ↔ ∀ x ∈ o.inclusions, known x.target = true := by
  simp [ofInclusions]

end Issue

theorem issuesOf_eq_nil_iff {lookup : Option FileLookup} {o : ScanOutcome} :
    issuesOf lookup o = [] ↔ o.findings = [] ∧ Issue.ofSkeleton o = [] ∧
      Issue.ofTrailing o = [] ∧ ∀ known ∈ lookup, Issue.ofInclusions known o = [] := by
  unfold issuesOf
  cases lookup <;> simp

/-! ## What a scan declares -/

theorem hasDocumentClass_scan (t : Text) :
    (scan t).hasDocumentClass = true ↔ ∃ x ∈ Lexeme.lexemes t, x.token = .documentClass := by
  change (ScanState.run {} _).hasDocumentClass = true ↔ _
  simp [ScanState.hasDocumentClass_run]

theorem beginDocument_scan (t : Text) :
    (scan t).beginDocument.isSome = true ↔
      ∃ x ∈ Lexeme.lexemes t, x.token = .beginEnvironment documentName := by
  change (ScanState.run {} _).beginDocument.isSome = true ↔ _
  simp [ScanState.beginDocument_run]

theorem mem_inclusions_scan {t : Text} {i : Inclusion} :
    i ∈ (scan t).inclusions ↔ ∃ x ∈ Lexeme.lexemes t, x.inclusion? = some i := by
  change i ∈ (ScanState.run {} _).inclusions.reverse ↔ _
  simp [ScanState.inclusions_run]

theorem inclusions_known_iff {known : FileLookup} {t : Text} :
    (∀ i ∈ (scan t).inclusions, known i.target = true) ↔
      ∀ x ∈ Lexeme.lexemes t, ∀ command target,
        x.token = .inclusion command target → known target = true := by
  refine ⟨fun h x hx command target htoken => ?_, fun h i hi => ?_⟩
  · exact h ⟨command, target, x.start⟩
      (mem_inclusions_scan.2 ⟨x, hx, by rw [Lexeme.inclusion?, htoken]⟩)
  · obtain ⟨x, hx, hi⟩ := mem_inclusions_scan.1 hi
    unfold Lexeme.inclusion? at hi
    split at hi
    · rename_i command target htoken
      obtain rfl := Option.some.inj hi
      exact h x hx command target htoken
    · cases hi

/-! ## The well formed documents -/

/-- Validation finds nothing to mend exactly in the well formed documents. -/
theorem valid_iff_wellFormed (lookup : Option FileLookup) (t : Text) :
    (validate lookup t).valid = true ↔ WellFormed lookup t := by
  have htrailing := ScanState.trailing_run (Lexeme.lexemes t)
  rw [validate, Validation.valid_ofIssues, issuesOf_eq_nil_iff, findings_scan_eq_nil_iff,
    ScanState.quiet_run_iff, Issue.ofSkeleton_eq_nil_iff, Issue.ofTrailing_eq_nil_iff,
    hasDocumentClass_scan, beginDocument_scan]
  simp only [Issue.ofInclusions_eq_nil_iff, inclusions_known_iff]
  change _ ∧ _ ∧ ¬ ((ScanState.run {} (Lexeme.lexemes t)).documentEnd.isSome = true ∧
    (ScanState.run {} (Lexeme.lexemes t)).trailingContent.isSome = true) ∧ _ ↔ _
  constructor
  · rintro ⟨⟨hdelimiters, hword, hclosed⟩, ⟨hc, hb⟩, ht, hi⟩
    obtain ⟨hend, htrail⟩ := htrailing (ScanState.quiet_run_iff.2 ⟨hword, hclosed⟩).1
    exact ⟨hdelimiters, hword, hclosed, hc, hb,
      fun h => ht ⟨hend.2 h.ended, htrail.2 h⟩, hi⟩
  · intro h
    obtain ⟨hend, htrail⟩ :=
      htrailing (ScanState.quiet_run_iff.2 ⟨h.environments, h.verbatim⟩).1
    exact ⟨⟨h.delimiters, h.environments, h.verbatim⟩, ⟨h.documentClass, h.document⟩,
      fun ht => h.trailing (htrail.1 ht.2), h.inclusions⟩

end LatexRepair
