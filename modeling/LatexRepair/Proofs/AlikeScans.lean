import LatexRepair.Proofs.Conservation
import LatexRepair.Proofs.EnvironmentWord

/-!
# Scans that differ in places and braces

Two scans are alike when they have met the same in the same order, but for the places where
it stands and for braces (`ScanState.Alike`). Lexemes of the same tokens keep them alike
(`ScanState.Alike.run`).

Alike scans report as many issues of each kind that is neither about braces nor about
trailing content (`ScanState.Alike.countP_issuesOf`).
-/

namespace LatexRepair

namespace ScanState

/-- The scans have met the same, but for places and braces. -/
structure Alike (s s' : ScanState) : Prop where
  delimiters : ∀ d, d ≠ .brace → (s.delimiters.get d).SameSize (s'.delimiters.get d)
  environments : s.openNames = s'.openNames
  findings : s.findings.length = s'.findings.length
  documentClass : s.hasDocumentClass = s'.hasDocumentClass
  beginDocument : s.beginDocument.isSome = s'.beginDocument.isSome
  documentEnd : s.documentEnd.isSome = s'.documentEnd.isSome
  inclusions : s.inclusions.map (·.target) = s'.inclusions.map (·.target)

/-- Whether math is open is seen from the names of the open environments and from the delimiters
of math that wait. -/
theorem inMath_congr {s s' : ScanState} (hnames : s.openNames = s'.openNames)
    (hopen : ∀ d, d ≠ .brace → (s.delimiters.get d).isOpen = (s'.delimiters.get d).isOpen) :
    s.inMath = s'.inMath := by
  have henv : ∀ s : ScanState,
      (s.environments.any fun env => Catalog.mem env.name Catalog.mathEnvironments) =
        s.openNames.any (Catalog.mem · Catalog.mathEnvironments) := fun s => by
    rw [openNames, List.any_map]
    rfl
  have hi := hopen .inlineMath (by decide)
  have hd := hopen .displayMath (by decide)
  have hp := hopen .parenMath (by decide)
  have hb := hopen .bracketMath (by decide)
  simp only [DelimiterStacks.get] at hi hd hp hb
  rw [inMath, inMath, henv, henv, hnames, hi, hd, hp, hb]

namespace Alike

variable {s s' s'' : ScanState} {x x' : Lexeme}

theorem refl (s : ScanState) : Alike s s :=
  ⟨fun _ _ => ⟨rfl, rfl⟩, rfl, rfl, rfl, rfl, rfl, rfl⟩

theorem symm (h : Alike s s') : Alike s' s :=
  ⟨fun d hd => ⟨(h.delimiters d hd).opens.symm, (h.delimiters d hd).strays.symm⟩,
    h.environments.symm, h.findings.symm, h.documentClass.symm, h.beginDocument.symm,
    h.documentEnd.symm, h.inclusions.symm⟩

theorem trans (h : Alike s s') (h' : Alike s' s'') : Alike s s'' :=
  ⟨fun d hd => ⟨(h.delimiters d hd).opens.trans (h'.delimiters d hd).opens,
      (h.delimiters d hd).strays.trans (h'.delimiters d hd).strays⟩,
    h.environments.trans h'.environments, h.findings.trans h'.findings,
    h.documentClass.trans h'.documentClass, h.beginDocument.trans h'.beginDocument,
    h.documentEnd.trans h'.documentEnd, h.inclusions.trans h'.inclusions⟩

/-! ## Delimiters -/

theorem openDelimiter (h : Alike s s') (d : Delimiter) (p q : Position) :
    Alike (s.openDelimiter d p) (s'.openDelimiter d q) where
  __ := h
  delimiters e he := by
    by_cases hd : e = d
    · subst hd
      simpa [ScanState.openDelimiter] using (h.delimiters e he).push p q
    · simpa [ScanState.openDelimiter, DelimiterStacks.get_modify_of_ne _ hd] using
        h.delimiters e he

theorem closeDelimiter (h : Alike s s') (d : Delimiter) (p q : Position) :
    Alike (s.closeDelimiter d p) (s'.closeDelimiter d q) where
  __ := h
  delimiters e he := by
    by_cases hd : e = d
    · subst hd
      simpa [ScanState.closeDelimiter] using (h.delimiters e he).pop p q
    · simpa [ScanState.closeDelimiter, DelimiterStacks.get_modify_of_ne _ hd] using
        h.delimiters e he

theorem isOpen (h : Alike s s') {d : Delimiter} (hd : d ≠ .brace) :
    (s.delimiters.get d).isOpen = (s'.delimiters.get d).isOpen :=
  (h.delimiters d hd).isOpen

theorem toggleDelimiter (h : Alike s s') {d : Delimiter} (hd : d ≠ .brace) (p q : Position) :
    Alike (s.toggleDelimiter d p) (s'.toggleDelimiter d q) := by
  rw [ScanState.toggleDelimiter, ScanState.toggleDelimiter, h.isOpen hd]
  split
  · exact h.closeDelimiter d p q
  · exact h.openDelimiter d p q

theorem inMath (h : Alike s s') : s.inMath = s'.inMath :=
  inMath_congr h.environments fun _ => h.isOpen

theorem dollars (h : Alike s s') (p q : Position) (n : Nat) :
    Alike (s.dollars p n) (s'.dollars q n) := by
  induction s, p, n using dollars.induct generalizing s' q with
  | case1 s p => exact h
  | case2 s p => exact h.toggleDelimiter (by decide) p q
  | case3 s p n hopen ih =>
    have hopen' : s'.delimiters.inlineMath.isOpen := by
      have := h.isOpen (d := .inlineMath) (by decide)
      simp only [DelimiterStacks.get] at this
      rw [← this, hopen]
    rw [ScanState.dollars, ScanState.dollars, if_pos hopen, if_pos hopen']
    exact ih (h.closeDelimiter .inlineMath p q) _
  | case4 s p n hopen ih =>
    have hopen' : ¬ s'.delimiters.inlineMath.isOpen := by
      have := h.isOpen (d := .inlineMath) (by decide)
      simp only [DelimiterStacks.get] at this
      rwa [← this]
    rw [ScanState.dollars, ScanState.dollars, if_neg hopen, if_neg hopen']
    exact ih (h.toggleDelimiter (by decide) p q) _

/-! ## Environments -/

theorem openEnvironment (h : Alike s s') (name : Text) (p q : Position) :
    Alike (s.openEnvironment name p) (s'.openEnvironment name q) where
  __ := h
  environments := congrArg (name :: ·) h.environments
  beginDocument := by
    have := h.beginDocument
    unfold ScanState.openEnvironment
    dsimp only
    split
    · rw [Option.isSome_or, Option.isSome_or, this]
      rfl
    · exact this

/-- How an end splits the open environments, by their names. -/
theorem splitAtEnd_congr {K K' : List OpenEnvironment} (h : K.map (·.name) = K'.map (·.name))
    (name : Text) :
    (splitAtEnd name K).1.length = (splitAtEnd name K').1.length ∧
      (splitAtEnd name K).2.1.isSome = (splitAtEnd name K').2.1.isSome ∧
        (splitAtEnd name K).2.2.map (·.name) = (splitAtEnd name K').2.2.map (·.name) := by
  have hlength : K.length = K'.length := by simpa using congrArg List.length h
  have hfind : ∀ K : List OpenEnvironment, K.findIdx? (·.name = name) =
      (K.map (·.name)).findIdx? (· = name) := fun K => by
    rw [List.findIdx?_map]
    rfl
  have hdrop : ∀ n, (K.drop n).map (·.name) = (K'.drop n).map (·.name) := fun n => by
    rw [List.map_drop, List.map_drop, h]
  unfold splitAtEnd
  rw [hfind, hfind, h]
  cases (K'.map (·.name)).findIdx? (· = name) with
  | none => exact ⟨by simp [hlength], rfl, hdrop 1⟩
  | some i =>
    have hget : ∀ K : List OpenEnvironment, K[i]?.isSome = (K.map (·.name))[i]?.isSome :=
      fun K => by rw [List.getElem?_map, Option.isSome_map]
    exact ⟨by simp [hlength], by dsimp only; rw [hget, hget, h], hdrop (i + 1)⟩

theorem length_endFindings_congr {K K' : List OpenEnvironment}
    (h : K.map (·.name) = K'.map (·.name)) (name : Text) (p q : Position) :
    (endFindings name p K).length = (endFindings name q K').length := by
  obtain ⟨hinner, -⟩ := splitAtEnd_congr h name
  cases K with
  | nil =>
    obtain rfl : K' = [] := List.map_eq_nil_iff.1 h.symm
    rfl
  | cons top K =>
    obtain ⟨top', K', rfl, htop, -⟩ := List.map_eq_cons_iff.1 h.symm
    rw [endFindings, endFindings, htop]
    split
    · rfl
    · simp [hinner]

theorem closeEnvironment (h : Alike s s') (name : Text) (p stop q stop' : Position) :
    Alike (s.closeEnvironment name p stop) (s'.closeEnvironment name q stop') := by
  obtain ⟨-, hclosed, houter⟩ := splitAtEnd_congr h.environments name
  have hempty : (splitAtEnd name s.environments).2.2.isEmpty =
      (splitAtEnd name s'.environments).2.2.isEmpty := by
    simpa using congrArg List.isEmpty houter
  exact
    { h with
      environments := houter
      findings := by
        simp [ScanState.closeEnvironment, h.findings,
          length_endFindings_congr h.environments name p q]
      documentEnd := by
        simp only [ScanState.closeEnvironment, hclosed, hempty]
        split
        · rw [Option.isSome_or, Option.isSome_or, h.documentEnd]
          rfl
        · exact h.documentEnd }

/-! ## Steps -/

theorem noteTrailing (h : Alike s s') (x x' : Lexeme) :
    Alike (s.noteTrailing x) (s'.noteTrailing x') := by
  obtain ⟨p, hp⟩ := s.exists_noteTrailing_eq x
  obtain ⟨p', hp'⟩ := s'.exists_noteTrailing_eq x'
  rw [hp, hp']
  exact { h with }

theorem act (h : Alike s s') (hx : x.token = x'.token) : Alike (s.act x) (s'.act x') := by
  obtain ⟨token, start, stop⟩ := x
  obtain ⟨token', start', stop'⟩ := x'
  obtain rfl : token = token' := hx
  unfold ScanState.act
  cases token with
  | openBrace => exact h.openDelimiter _ _ _
  | closeBrace => exact h.closeDelimiter _ _ _
  | openBracket =>
    dsimp only
    rw [h.inMath]
    split
    · exact h
    · exact h.openDelimiter _ _ _
  | closeBracket =>
    dsimp only
    rw [h.inMath]
    split
    · exact h
    · exact h.closeDelimiter _ _ _
  | controlSymbol c =>
    induction c using Token.mathSymbol_cases with
    | openParen | openBracket => exact h.openDelimiter _ _ _
    | closeParen | closeBracket => exact h.closeDelimiter _ _ _
    | other c h₁ h₂ h₃ h₄ => simpa [h₁, h₂, h₃, h₄] using h
  | dollars n => exact h.dollars _ _ n
  | documentClass => exact { h with documentClass := rfl }
  | beginEnvironment name => exact h.openEnvironment name _ _
  | endEnvironment name => exact h.closeEnvironment name _ _ _ _
  | verbatim name closed =>
    cases closed with
    | false => exact { h with findings := congrArg (· + 1) h.findings }
    | true => exact h
  | inclusion command target => exact { h with inclusions := congrArg (target :: ·) h.inclusions }
  | comment | controlWord name | verb | plain c => exact h

/-- A lexeme of one token keeps scans alike. -/
theorem step (h : Alike s s') (hx : x.token = x'.token) : Alike (s.step x) (s'.step x') :=
  (h.noteTrailing x x').act hx

/-- Lexemes of the same tokens keep scans alike. -/
theorem run {xs xs' : List Lexeme} (h : Alike s s')
    (hxs : xs.map (·.token) = xs'.map (·.token)) : Alike (s.run xs) (s'.run xs') := by
  induction xs generalizing s s' xs' with
  | nil =>
    obtain rfl : xs' = [] := List.map_eq_nil_iff.1 hxs.symm
    exact h
  | cons x xs ih =>
    obtain ⟨x', xs', rfl, hx, hxs⟩ := List.map_eq_cons_iff.1 hxs.symm
    rw [run_cons, run_cons]
    exact ih (h.step hx.symm) hxs.symm

/-- Alike scans meet trailing content alike. -/
theorem trailingContent_run {xs xs' : List Lexeme} (h : Alike s s')
    (ht : s.trailingContent.isSome = s'.trailingContent.isSome)
    (hxs : xs.map (·.token) = xs'.map (·.token)) :
    (s.run xs).trailingContent.isSome = (s'.run xs').trailingContent.isSome := by
  induction xs generalizing s s' xs' with
  | nil =>
    obtain rfl : xs' = [] := List.map_eq_nil_iff.1 hxs.symm
    exact ht
  | cons x xs ih =>
    obtain ⟨x', xs', rfl, hx, hxs⟩ := List.map_eq_cons_iff.1 hxs.symm
    rw [run_cons, run_cons]
    refine ih (h.step hx.symm) ?_ hxs.symm
    rw [Bool.eq_iff_iff, trailingContent_step, trailingContent_step, ht, h.documentEnd, hx]

end Alike

end ScanState

/-! ## Kinds of issues -/

/-- The kinds of the issues about braces. -/
def IssueKind.isBraces : IssueKind → Bool
  | .brace | .misordered .brace => true
  | _ => false

/-- The kind of the issue that reports a finding. -/
def Finding.kind (f : Finding) : IssueKind :=
  (Issue.ofFinding f).kind

theorem Finding.isBraces_kind (f : Finding) :
    f.kind.isBraces = true ↔ f.delimiter? = some .brace := by
  cases f with
  | unmatchedOpen d p | unmatchedClose d p | misordered d p q =>
    cases d <;> simp [kind, Issue.ofFinding, IssueKind.ofDelimiter, IssueKind.isBraces, delimiter?]
  | _ => simp [kind, Issue.ofFinding, IssueKind.isBraces, delimiter?]

theorem Finding.kind_ne_trailingContent (f : Finding) : f.kind ≠ .trailingContent := by
  cases f with
  | unmatchedOpen d p | unmatchedClose d p => cases d <;> exact fun h => by cases h
  | _ => exact fun h => by cases h

/-- Findings that are not about delimiters are about environments. -/
theorem map_kind_of_delimiter?_eq_none {fs : List Finding}
    (h : ∀ f ∈ fs, f.delimiter? = none) :
    fs.map Finding.kind = List.replicate fs.length .environment := by
  refine List.eq_replicate_iff.2 ⟨List.length_map _, fun k hk => ?_⟩
  obtain ⟨f, hf, rfl⟩ := List.mem_map.1 hk
  have hnone := h f hf
  cases f <;> first | rfl | cases hnone

/-- The findings about one class are as many of each kind as its stack holds. -/
theorem map_kind_ofStack (d : Delimiter) (s : Delimiter.Stack) :
    (Finding.ofStack d s).map Finding.kind =
      List.replicate s.loneCloses.length (.ofDelimiter d) ++
        List.replicate s.misplaced.length (.misordered d) ++
          List.replicate s.loneOpens.length (.ofDelimiter d) := by
  simp only [Finding.ofStack, List.map_append, List.map_map]
  congr 2 <;> exact List.map_const'

theorem Delimiter.Stack.SameSize.map_kind_ofStack {s s' : Delimiter.Stack} (h : s.SameSize s')
    (d : Delimiter) :
    (Finding.ofStack d s).map Finding.kind = (Finding.ofStack d s').map Finding.kind := by
  simp [LatexRepair.map_kind_ofStack, loneCloses, misplaced, loneOpens, misplacedCount, h.opens,
    h.strays]

namespace ScanState.Alike

variable {s s' : ScanState} {k : IssueKind}

theorem count_kind_ofStack (h : Alike s s') (hk : k.isBraces = false) (d : Delimiter) :
    ((Finding.ofStack d (s.delimiters.get d)).map Finding.kind).count k =
      ((Finding.ofStack d (s'.delimiters.get d)).map Finding.kind).count k := by
  by_cases hd : d = .brace
  · subst hd
    have hzero : ∀ t, ((Finding.ofStack .brace t).map Finding.kind).count k = 0 := fun t => by
      refine List.count_eq_zero.2 fun hmem => ?_
      obtain ⟨f, hf, rfl⟩ := List.mem_map.1 hmem
      rw [f.isBraces_kind.2 (delimiter?_of_mem_ofStack hf)] at hk
      cases hk
    rw [hzero, hzero]
  · rw [(h.delimiters d hd).map_kind_ofStack]

/-- Alike scans report as many findings of each kind that is not about braces. -/
theorem count_kind_allFindings (h : Alike s s') (hs : ∀ f ∈ s.findings, f.delimiter? = none)
    (hs' : ∀ f ∈ s'.findings, f.delimiter? = none) (hk : k.isBraces = false) :
    (s.allFindings.map Finding.kind).count k = (s'.allFindings.map Finding.kind).count k := by
  have hfindings : s.findings.reverse.map Finding.kind = s'.findings.reverse.map Finding.kind := by
    rw [List.map_reverse, List.map_reverse, map_kind_of_delimiter?_eq_none hs,
      map_kind_of_delimiter?_eq_none hs', h.findings]
  have hunclosed : ∀ s : ScanState, (s.environments.reverse.map Finding.unclosed).map Finding.kind =
      List.replicate s.openNames.length .environment := fun s => by
    have hnone : ∀ f ∈ s.environments.reverse.map Finding.unclosed, f.delimiter? = none :=
      fun f hf => by
        obtain ⟨env, -, rfl⟩ := List.mem_map.1 hf
        rfl
    rw [map_kind_of_delimiter?_eq_none hnone]
    simp [openNames]
  simp only [allFindings, List.map_append, List.count_append, hfindings, hunclosed,
    h.environments, List.map_flatMap, List.count_flatMap, Function.comp_def,
    h.count_kind_ofStack hk]

end ScanState.Alike

/-- The issues of one kind, by what they are about. -/
theorem countP_issuesOf (lookup : Option FileLookup) (o : ScanOutcome) (k : IssueKind) :
    (issuesOf lookup o).countP (·.kind = k) = (o.findings.map Finding.kind).count k +
      (Issue.ofSkeleton o).countP (·.kind = k) + (Issue.ofTrailing o).countP (·.kind = k) +
        (lookup.elim 0 fun known => (Issue.ofInclusions known o).countP (·.kind = k)) := by
  have hfindings : (o.findings.map Issue.ofFinding).countP (·.kind = k) =
      (o.findings.map Finding.kind).count k := by
    rw [List.count, List.countP_map, List.countP_map]
    rfl
  unfold issuesOf
  cases lookup <;> simp only [List.countP_append, hfindings, List.countP_nil, Option.elim]

theorem countP_ofTrailing (o : ScanOutcome) (k : IssueKind) :
    (Issue.ofTrailing o).countP (·.kind = k) =
      if k = .trailingContent ∧ o.documentEnd.isSome ∧ o.trailingContent.isSome then 1 else 0 := by
  unfold Issue.ofTrailing
  cases o.documentEnd <;> cases o.trailingContent <;> simp [List.countP_cons, eq_comm]

/-- An issue about trailing content is reported where the document has ended and something
was met behind its end. -/
theorem countP_trailingContent (lookup : Option FileLookup) (o : ScanOutcome) :
    (issuesOf lookup o).countP (·.kind = .trailingContent) =
      if o.documentEnd.isSome ∧ o.trailingContent.isSome then 1 else 0 := by
  have hfindings : (o.findings.map Finding.kind).count .trailingContent = 0 := by
    refine List.count_eq_zero.2 fun hmem => ?_
    obtain ⟨f, -, hf⟩ := List.mem_map.1 hmem
    exact f.kind_ne_trailingContent hf
  have hskeleton : (Issue.ofSkeleton o).countP (·.kind = .trailingContent) = 0 :=
    List.countP_eq_zero.2 fun i hi => by simp [Issue.kind_of_mem_ofSkeleton hi]
  have hinclusions : ∀ known, (Issue.ofInclusions known o).countP (·.kind = .trailingContent) = 0 :=
    fun known => List.countP_eq_zero.2 fun i hi => by simp [Issue.kind_of_mem_ofInclusions hi]
  rw [countP_issuesOf, hfindings, hskeleton, countP_ofTrailing]
  cases lookup <;> simp [hinclusions]

namespace ScanState.Alike

variable {s s' : ScanState} {k : IssueKind}

/-- Alike scans report as many issues of each kind that is neither about braces nor about
trailing content. -/
theorem countP_issuesOf (h : Alike s s') (hs : ∀ f ∈ s.findings, f.delimiter? = none)
    (hs' : ∀ f ∈ s'.findings, f.delimiter? = none) (hk : k.isBraces = false)
    (hne : k ≠ .trailingContent) (lookup : Option FileLookup) :
    (issuesOf lookup s.finish).countP (·.kind = k) =
      (issuesOf lookup s'.finish).countP (·.kind = k) := by
  have hfindings : ∀ s : ScanState, (s.finish.findings.map Finding.kind).count k =
      (s.allFindings.map Finding.kind).count k := fun s =>
    ((List.mergeSort_perm _ _).map _).count_eq k
  have hskeleton : Issue.ofSkeleton s.finish = Issue.ofSkeleton s'.finish := by
    have hbegin := congrArg (!·) h.beginDocument
    rw [Option.not_isSome, Option.not_isSome] at hbegin
    unfold Issue.ofSkeleton finish
    dsimp only
    rw [h.documentClass, hbegin]
  have hinclusions : ∀ known (s : ScanState),
      (Issue.ofInclusions known s.finish).countP (·.kind = k) =
        if k = .include_ then (s.inclusions.map (·.target)).countP (!known ·) else 0 :=
    fun known s => by
      have hkind : (Issue.ofInclusions known s.finish).countP (·.kind = k) =
          (s.inclusions.reverse.filter fun i => !known i.target).countP fun _ => k = .include_ := by
        rw [Issue.ofInclusions, List.countP_map]
        refine List.countP_congr fun i _ => ?_
        simp [eq_comm]
      rw [hkind, List.countP_map, List.filter_reverse, List.countP_reverse]
      split
      · rename_i hinclude
        simp [hinclude, List.countP_eq_length_filter, Function.comp_def]
      · rename_i hinclude
        simp [hinclude]
  rw [LatexRepair.countP_issuesOf, LatexRepair.countP_issuesOf, hfindings, hfindings,
    h.count_kind_allFindings hs hs' hk, hskeleton, countP_ofTrailing, countP_ofTrailing]
  simp only [hinclusions, h.inclusions, hne, false_and]

end ScanState.Alike

end LatexRepair
