import LatexRepair.Proofs.AlikeScans

/-!
# Scans at corresponding places

Two documents with the same tokens are scanned alike, but not at the same places, and findings are
sorted by their places. Here `R` says which places correspond to each other. What a scan keeps of
delimiters and environments corresponds, where it does so for the lexemes
(`ScanState.Corresponds.run`), and so do the findings that it ends with, sorted or not, if places
that correspond stand in the same order (`scan_corresponds`). What is the same in findings that
correspond is what they say without their places (`Finding.unplaced`).
-/

namespace LatexRepair

/-! ## What findings say -/

/-- The finding at no place in particular. -/
def Finding.unplaced : Finding → Finding
  | unmatchedOpen d _ => unmatchedOpen d .start
  | unmatchedClose d _ => unmatchedClose d .start
  | misordered d _ _ => misordered d .start .start
  | interrupted env name _ => interrupted ⟨env.name, 1, 1⟩ name .start
  | mismatchedEnd name expected _ _ => mismatchedEnd name expected 1 .start
  | unmatchedEnd name _ => unmatchedEnd name .start
  | unclosed env => unclosed ⟨env.name, 1, 1⟩

/-- Two scans report the same in the same order, at whatever places. -/
structure SameReport (o o' : ScanOutcome) : Prop where
  findings : o.findings.map Finding.unplaced = o'.findings.map Finding.unplaced
  documentClass : o.hasDocumentClass = o'.hasDocumentClass
  beginDocument : o.beginDocument.isSome = o'.beginDocument.isSome
  documentEnd : o.documentEnd.isSome = o'.documentEnd.isSome
  trailingContent : o.trailingContent.isSome = o'.trailingContent.isSome
  inclusions : o.inclusions.map (fun i => (i.command, i.target)) =
    o'.inclusions.map (fun i => (i.command, i.target))

/-! ## Correspondence -/

section Corresponds

variable (R : Position → Position → Prop)

/-- The environments have one name and begin at places that correspond. -/
inductive OpenEnvironment.Corresponds : OpenEnvironment → OpenEnvironment → Prop where
  | mk (name : Text) {p q : Position} (h : R p q) :
      Corresponds ⟨name, p.line, p.column⟩ ⟨name, q.line, q.column⟩

/-- The findings say the same at places that correspond. -/
inductive Finding.Corresponds : Finding → Finding → Prop where
  | unmatchedOpen (d : Delimiter) {p q : Position} (h : R p q) :
      Corresponds (.unmatchedOpen d p) (.unmatchedOpen d q)
  | unmatchedClose (d : Delimiter) {p q : Position} (h : R p q) :
      Corresponds (.unmatchedClose d p) (.unmatchedClose d q)
  | misordered (d : Delimiter) {p q p' q' : Position} (h : R p q) (h' : R p' q') :
      Corresponds (.misordered d p p') (.misordered d q q')
  | interrupted {env env' : OpenEnvironment} (henv : env.Corresponds R env') (name : Text)
      {p q : Position} (h : R p q) :
      Corresponds (.interrupted env name p) (.interrupted env' name q)
  | mismatchedEnd {env env' : OpenEnvironment} (henv : env.Corresponds R env') (name : Text)
      {p q : Position} (h : R p q) :
      Corresponds (.mismatchedEnd name env.name env.line p)
        (.mismatchedEnd name env'.name env'.line q)
  | unmatchedEnd (name : Text) {p q : Position} (h : R p q) :
      Corresponds (.unmatchedEnd name p) (.unmatchedEnd name q)
  | unclosed {env env' : OpenEnvironment} (henv : env.Corresponds R env') :
      Corresponds (.unclosed env) (.unclosed env')

/-- The stacks hold delimiters at places that correspond. -/
structure Delimiter.Stack.Corresponds (s s' : Delimiter.Stack) : Prop where
  opens : List.Forall₂ R s.opens s'.opens
  strays : List.Forall₂ R s.strays s'.strays

/-- The scans have met the same delimiters and environments, at places that correspond. -/
structure ScanState.Corresponds (s s' : ScanState) : Prop where
  delimiters : ∀ d, (s.delimiters.get d).Corresponds R (s'.delimiters.get d)
  environments : List.Forall₂ (OpenEnvironment.Corresponds R) s.environments s'.environments
  findings : List.Forall₂ (Finding.Corresponds R) s.findings s'.findings

/-- The lexemes have one token and start at places that correspond, and so does each dollar sign
of a run of them. -/
structure Lexeme.Corresponds (x x' : Lexeme) : Prop where
  token : x.token = x'.token
  start : R x.start x'.start
  dollars : ∀ n, x.token = .dollars n → ∀ k < n,
    R (x.start.after (List.replicate k '$')) (x'.start.after (List.replicate k '$'))

end Corresponds

variable {R : Position → Position → Prop} {p q : Position}

theorem OpenEnvironment.Corresponds.name_eq {env env' : OpenEnvironment}
    (h : env.Corresponds R env') : env.name = env'.name := by
  cases h
  rfl

/-! ## Delimiters -/

namespace Delimiter.Stack.Corresponds

variable {s s' : Stack}

theorem push (h : s.Corresponds R s') (hp : R p q) : (s.push p).Corresponds R (s'.push q) :=
  ⟨.cons hp h.opens, h.strays⟩

theorem pop (h : s.Corresponds R s') (hp : R p q) : (s.pop p).Corresponds R (s'.pop q) := by
  obtain ⟨opens, strays⟩ := s
  obtain ⟨opens', strays'⟩ := s'
  obtain ⟨hopens, hstrays⟩ := h
  cases hopens with
  | nil => exact ⟨.nil, .cons hp hstrays⟩
  | cons _ houter => exact ⟨houter, hstrays⟩

theorem isOpen_eq (h : s.Corresponds R s') : s.isOpen = s'.isOpen := by
  obtain ⟨opens, strays⟩ := s
  obtain ⟨opens', strays'⟩ := s'
  obtain ⟨hopens, -⟩ := h
  cases hopens <;> rfl

/-- Stacks that correspond leave findings that correspond. -/
theorem ofStack (h : s.Corresponds R s') (d : Delimiter) :
    List.Forall₂ (Finding.Corresponds R) (Finding.ofStack d s) (Finding.ofStack d s') := by
  have hcount : s.misplacedCount = s'.misplacedCount := by
    rw [misplacedCount, misplacedCount, h.opens.length_eq, h.strays.length_eq]
  have hopens := List.rel_reverse h.opens
  have hstrays := List.rel_reverse h.strays
  have hzip : ∀ {ps qs ps' qs' : List Position}, List.Forall₂ R ps qs → List.Forall₂ R ps' qs' →
      List.Forall₂ (fun x y => R x.1 y.1 ∧ R x.2 y.2) (ps.zip ps') (qs.zip qs') :=
    fun {ps qs ps' qs'} hps => by
      induction hps generalizing ps' qs' with
      | nil => exact fun _ => .nil
      | cons hp _ ih =>
        intro hps'
        cases hps' with
        | nil => exact .nil
        | cons hp' hps' => exact .cons ⟨hp, hp'⟩ (ih hps')
  unfold Finding.ofStack loneCloses misplaced loneOpens
  rw [hcount, h.strays.length_eq]
  refine List.rel_append (List.rel_append ?_ ?_) ?_
  · exact List.rel_map (fun _ _ => .unmatchedClose d) (List.forall₂_take _ hstrays)
  · exact List.rel_map (fun _ _ hpair => .misordered d hpair.1 hpair.2)
      (hzip (List.forall₂_drop _ hstrays) (List.forall₂_take _ hopens))
  · exact List.rel_map (fun _ _ => .unmatchedOpen d) (List.forall₂_drop _ hopens)

end Delimiter.Stack.Corresponds

namespace ScanState.Corresponds

variable {s s' : ScanState} {d : Delimiter}

theorem init : Corresponds R {} {} :=
  ⟨fun d => by cases d <;> exact ⟨.nil, .nil⟩, .nil, .nil⟩

theorem modify (h : s.Corresponds R s') {f g : Delimiter.Stack → Delimiter.Stack}
    (hf : (f (s.delimiters.get d)).Corresponds R (g (s'.delimiters.get d))) :
    Corresponds R { s with delimiters := s.delimiters.modify d f }
      { s' with delimiters := s'.delimiters.modify d g } := by
  refine { h with delimiters := fun e => ?_ }
  by_cases he : e = d
  · rw [he, DelimiterStacks.get_modify_self, DelimiterStacks.get_modify_self]
    exact hf
  · rw [DelimiterStacks.get_modify_of_ne _ he, DelimiterStacks.get_modify_of_ne _ he]
    exact h.delimiters e

theorem openDelimiter (h : s.Corresponds R s') (hp : R p q) :
    (s.openDelimiter d p).Corresponds R (s'.openDelimiter d q) :=
  h.modify ((h.delimiters d).push hp)

theorem closeDelimiter (h : s.Corresponds R s') (hp : R p q) :
    (s.closeDelimiter d p).Corresponds R (s'.closeDelimiter d q) :=
  h.modify ((h.delimiters d).pop hp)

theorem toggleDelimiter (h : s.Corresponds R s') (hp : R p q) :
    (s.toggleDelimiter d p).Corresponds R (s'.toggleDelimiter d q) := by
  unfold ScanState.toggleDelimiter
  rw [(h.delimiters d).isOpen_eq]
  split
  · exact h.closeDelimiter hp
  · exact h.openDelimiter hp

theorem dollars (h : s.Corresponds R s') {n : Nat}
    (hp : ∀ k < n, R (p.after (List.replicate k '$')) (q.after (List.replicate k '$'))) :
    (s.dollars p n).Corresponds R (s'.dollars q n) := by
  induction s, p, n using ScanState.dollars.induct generalizing s' q with
  | case1 s p => exact h
  | case2 s p => exact h.toggleDelimiter (hp 0 Nat.one_pos)
  | case3 s p n hopen ih =>
    have hopen' : s'.delimiters.inlineMath.isOpen = true :=
      (h.delimiters .inlineMath).isOpen_eq.symm.trans hopen
    rw [ScanState.dollars, ScanState.dollars, if_pos hopen, if_pos hopen']
    exact ih (h.closeDelimiter (hp 0 (Nat.succ_pos _))) fun k hk => hp (k + 1) (Nat.succ_lt_succ hk)
  | case4 s p n hopen ih =>
    have hopen' : ¬s'.delimiters.inlineMath.isOpen = true := fun h' =>
      hopen ((h.delimiters .inlineMath).isOpen_eq.trans h')
    rw [ScanState.dollars, ScanState.dollars, if_neg hopen, if_neg hopen']
    exact ih (h.toggleDelimiter (hp 0 (Nat.succ_pos _))) fun k hk =>
      hp (k + 2) (Nat.add_lt_add_right hk 2)

/-! ## Environments -/

theorem openNames_eq (h : s.Corresponds R s') : s.openNames = s'.openNames :=
  List.forall₂_eq_eq_eq ▸ List.rel_map (R := OpenEnvironment.Corresponds R) (P := (· = ·))
    (fun _ _ henv => henv.name_eq) h.environments

theorem inMath (h : s.Corresponds R s') : s.inMath = s'.inMath :=
  inMath_congr h.openNames_eq fun d _ => (h.delimiters d).isOpen_eq

theorem openEnvironment (h : s.Corresponds R s') (name : Text) (hp : R p q) :
    (s.openEnvironment name p).Corresponds R (s'.openEnvironment name q) where
  __ := h
  environments := .cons (.mk name hp) h.environments

/-- An end splits open environments that correspond in the same way. -/
theorem splitAtEnd {K K' : List OpenEnvironment}
    (h : List.Forall₂ (OpenEnvironment.Corresponds R) K K') (name : Text) :
    List.Forall₂ (OpenEnvironment.Corresponds R) (splitAtEnd name K).1 (splitAtEnd name K').1 ∧
      List.Forall₂ (OpenEnvironment.Corresponds R) (splitAtEnd name K).2.2
        (splitAtEnd name K').2.2 := by
  have hfind : K.findIdx? (·.name = name) = K'.findIdx? (·.name = name) := by
    induction h with
    | nil => rfl
    | cons henv _ ih =>
      cases henv
      rw [List.findIdx?_cons, List.findIdx?_cons, ih]
  unfold ScanState.splitAtEnd
  rw [hfind]
  split
  · exact ⟨List.forall₂_take _ h, List.forall₂_drop _ h⟩
  · exact ⟨List.forall₂_take _ h, List.forall₂_drop _ h⟩

theorem endFindings {K K' : List OpenEnvironment}
    (h : List.Forall₂ (OpenEnvironment.Corresponds R) K K') (name : Text) (hp : R p q) :
    List.Forall₂ (Finding.Corresponds R) (endFindings name p K) (endFindings name q K') := by
  have hinner := (splitAtEnd h name).1
  cases h with
  | nil => exact .cons (.unmatchedEnd name hp) .nil
  | @cons top top' K K' htop hK =>
    have hname := htop.name_eq
    rw [ScanState.endFindings, ScanState.endFindings, hname]
    split
    · exact .nil
    · refine List.rel_append (List.rel_map (fun _ _ henv => .interrupted henv name hp) hinner) ?_
      rw [← hname]
      exact .cons (hname ▸ .mismatchedEnd htop name hp) .nil

theorem closeEnvironment (h : s.Corresponds R s') (name : Text) (hp : R p q)
    (stop stop' : Position) :
    (s.closeEnvironment name p stop).Corresponds R (s'.closeEnvironment name q stop') where
  __ := h
  environments := (splitAtEnd h.environments name).2
  findings := List.rel_append (List.rel_reverse (endFindings h.environments name hp)) h.findings

/-! ## Lexemes -/

variable {x x' : Lexeme}

theorem act (h : s.Corresponds R s') (hx : x.Corresponds R x') :
    (s.act x).Corresponds R (s'.act x') := by
  obtain ⟨token, start, stop⟩ := x
  obtain ⟨token', start', stop'⟩ := x'
  obtain ⟨htoken, hstart, hdollars⟩ := hx
  dsimp only at htoken hstart hdollars
  subst htoken
  unfold ScanState.act
  cases token with
  | openBrace => exact h.openDelimiter hstart
  | closeBrace => exact h.closeDelimiter hstart
  | openBracket =>
    dsimp only
    rw [h.inMath]
    split
    · exact h
    · exact h.openDelimiter hstart
  | closeBracket =>
    dsimp only
    rw [h.inMath]
    split
    · exact h
    · exact h.closeDelimiter hstart
  | controlSymbol c =>
    induction c using Token.mathSymbol_cases with
    | openParen | openBracket => exact h.openDelimiter hstart
    | closeParen | closeBracket => exact h.closeDelimiter hstart
    | other c h₁ h₂ h₃ h₄ => simpa [h₁, h₂, h₃, h₄] using h
  | dollars n => exact h.dollars (hdollars n rfl)
  | beginEnvironment name => exact h.openEnvironment name hstart
  | endEnvironment name => exact h.closeEnvironment name hstart stop stop'
  | verbatim name closed =>
    cases closed with
    | false => exact { h with findings := .cons (.unclosed (.mk name hstart)) h.findings }
    | true => exact h
  | documentClass | inclusion command target => exact { h with }
  | comment | controlWord name | verb | plain c => exact h

theorem step (h : s.Corresponds R s') (hx : x.Corresponds R x') :
    (s.step x).Corresponds R (s'.step x') := by
  obtain ⟨p, hp⟩ := s.exists_noteTrailing_eq x
  obtain ⟨p', hp'⟩ := s'.exists_noteTrailing_eq x'
  rw [ScanState.step, ScanState.step, hp, hp']
  exact act { h with } hx

/-- Lexemes at places that correspond lead to states that correspond. -/
theorem run {xs xs' : List Lexeme} (h : s.Corresponds R s')
    (hxs : List.Forall₂ (Lexeme.Corresponds R) xs xs') :
    (s.run xs).Corresponds R (s'.run xs') := by
  induction hxs generalizing s s' with
  | nil => exact h
  | cons hx _ ih => exact ih (h.step hx)

theorem allFindings (h : s.Corresponds R s') :
    List.Forall₂ (Finding.Corresponds R) s.allFindings s'.allFindings := by
  refine List.rel_append (List.rel_append (List.rel_reverse h.findings) ?_)
    (List.rel_map (fun _ _ => .unclosed) (List.rel_reverse h.environments))
  refine List.rel_flatMap (R := (· = ·)) (List.forall₂_refl _) ?_
  rintro d _ rfl
  exact (h.delimiters d).ofStack d

end ScanState.Corresponds

/-! ## What is reported -/

/-- Sorting keeps pairs together, if their parts are in the same order. -/
theorem forall₂_mergeSort {α β : Type*} {S : α → β → Prop} {le : α → α → Bool}
    {le' : β → β → Bool} (hle : ∀ {a b a' b'}, S a b → S a' b' → le a a' = le' b b')
    {xs : List α} {ys : List β} (h : List.Forall₂ S xs ys) :
    List.Forall₂ S (xs.mergeSort le) (ys.mergeSort le') := by
  have hpairs : ∀ z ∈ xs.zip ys, S z.1 z.2 := fun z hz => List.forall₂_zip h hz
  have hfst : (xs.zip ys).map Prod.fst = xs := List.map_fst_zip h.length_eq.le
  have hsnd : (xs.zip ys).map Prod.snd = ys := List.map_snd_zip h.length_eq.ge
  have hxs : xs.mergeSort le = ((xs.zip ys).mergeSort fun y z => le y.1 z.1).map Prod.fst := by
    rw [List.map_mergeSort (s := le) (f := Prod.fst) fun _ _ _ _ => rfl, hfst]
  have hys : ys.mergeSort le' = ((xs.zip ys).mergeSort fun y z => le y.1 z.1).map Prod.snd := by
    rw [List.map_mergeSort (fun y hy z hz => hle (hpairs y hy) (hpairs z hz)), hsnd]
  rw [hxs, hys, List.forall₂_map_left_iff, List.forall₂_map_right_iff, List.forall₂_same]
  exact fun z hz => hpairs z (List.mem_mergeSort.1 hz)

namespace Finding.Corresponds

variable {f f' g g' : Finding}

theorem unplaced_eq (h : f.Corresponds R f') : f.unplaced = f'.unplaced := by
  cases h with
  | interrupted henv | mismatchedEnd henv | unclosed henv => simp [unplaced, henv.name_eq]
  | _ => rfl

/-- Findings that correspond are reported at places that correspond. -/
theorem exists_place (h : f.Corresponds R f') :
    ∃ p q, R p q ∧ f.place = (p.line, p.column) ∧ f'.place = (q.line, q.column) := by
  have henv : ∀ {env env' : OpenEnvironment}, env.Corresponds R env' → ∃ p q, R p q ∧
      (env.line, env.column) = (p.line, p.column) ∧
        (env'.line, env'.column) = (q.line, q.column) := fun h => by
    cases h with
    | mk name hp => exact ⟨_, _, hp, rfl, rfl⟩
  cases h with
  | interrupted h | unclosed h => exact henv h
  | unmatchedOpen _ hp | unmatchedClose _ hp | misordered _ hp | mismatchedEnd _ _ hp
  | unmatchedEnd _ hp => exact ⟨_, _, hp, rfl, rfl⟩

end Finding.Corresponds

/-- The places are in the same order as the places that correspond to them. -/
def KeepsOrder (R : Position → Position → Prop) : Prop :=
  ∀ ⦃p q p' q'⦄, R p q → R p' q' →
    Position.le (p.line, p.column) (p'.line, p'.column) =
      Position.le (q.line, q.column) (q'.line, q'.column)

/-- Documents whose lexemes correspond are reported to be the same, but for the places. -/
theorem scan_corresponds {t t' : Text} (hR : KeepsOrder R)
    (h : List.Forall₂ (Lexeme.Corresponds R) (Lexeme.lexemes t) (Lexeme.lexemes t')) :
    SameReport (scan t) (scan t') := by
  have htokens : (Lexeme.lexemes t).map (·.token) = (Lexeme.lexemes t').map (·.token) :=
    List.forall₂_eq_eq_eq ▸ List.rel_map (R := Lexeme.Corresponds R) (P := (· = ·))
      (fun _ _ hx => hx.token) h
  have halike := (ScanState.Alike.refl {}).run htokens
  have hfindings := (ScanState.Corresponds.init.run h).allFindings
  have hsorted : List.Forall₂ (Finding.Corresponds R) (scan t).findings (scan t').findings := by
    refine forall₂_mergeSort (fun hf hg => ?_) hfindings
    obtain ⟨p, q, hp, hplace, hplace'⟩ := hf.exists_place
    obtain ⟨p', q', hq, hplace₂, hplace₂'⟩ := hg.exists_place
    rw [hplace, hplace', hplace₂, hplace₂']
    exact hR hp hq
  refine ⟨?_, halike.documentClass, halike.beginDocument, halike.documentEnd,
    (ScanState.Alike.refl {}).trailingContent_run rfl htokens, ?_⟩
  · exact List.forall₂_eq_eq_eq ▸ List.rel_map (R := Finding.Corresponds R) (P := (· = ·))
      (fun _ _ hf => hf.unplaced_eq) hsorted
  · have hinclusions : ∀ t, (scan t).inclusions.map (fun i => (i.command, i.target)) =
        ((Lexeme.lexemes t).map (·.token)).filterMap fun token =>
          (Lexeme.inclusion? ⟨token, .start, .start⟩).map fun i => (i.command, i.target) :=
      fun t => by
      have hrun : (scan t).inclusions = (Lexeme.lexemes t).filterMap Lexeme.inclusion? := by
        rw [scan, ScanState.finish, ScanState.inclusions_run, List.append_nil, List.reverse_reverse]
      rw [hrun, List.map_filterMap, List.filterMap_map]
      refine List.filterMap_congr fun x _ => ?_
      obtain ⟨token, start, stop⟩ := x
      cases token <;> rfl
    rw [hinclusions, hinclusions, htokens]

end LatexRepair
