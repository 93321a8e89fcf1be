import LatexRepair.Proofs.BracePatch
import LatexRepair.Proofs.Concatenation

/-!
# Outlines

The outline of a part of a document is what validation counts of it, braces apart : the tokens that
open, close or declare something, and behind the end of the document all that are significant
(`outline`). Two scans that have met the same but for braces match each other at whatever places
(`ScanState.Matches`), and parts with one outline lead scans that match to scans that match
(`ScanState.Matches.run_of_outline`). What braces are left depends on the braces of the parts alone
(`ScanState.sameSize_brace_run`).

Where no issue has been met so far, two scans match if as much is open in them
(`ScanState.Level`).
-/

namespace LatexRepair

open ScanState (documentName isSignificant)

/-- The token opens, closes or declares something other than braces. -/
def Token.counts : Token → Bool
  | .openBrace | .closeBrace | .comment | .controlWord _ | .verb | .plain _ | .verbatim _ true =>
    false
  | .controlSymbol c => c = '(' || c = ')' || c = '[' || c = ']'
  | _ => true

/-- What validation counts of tokens, some of them perhaps behind the end of the document. -/
def outline (ended : Bool) : List Token → List Token
  | [] => []
  | x :: xs =>
    let rest := outline (ended || x = .endEnvironment documentName) xs
    if x.counts || ended && isSignificant x then x :: rest else rest

variable {ended : Bool} {x y : Token} {xs ys : List Token}

theorem outline_cons_of_counts (h : x.counts = true ∨ ended = true ∧ isSignificant x = true)
    (xs : List Token) :
    outline ended (x :: xs) = x :: outline (ended || x = .endEnvironment documentName) xs := by
  rw [outline, if_pos (by simpa using h)]

theorem outline_cons_of_not_counts
    (h : ¬(x.counts = true ∨ ended = true ∧ isSignificant x = true)) (xs : List Token) :
    outline ended (x :: xs) = outline ended xs := by
  have hname : decide (x = .endEnvironment documentName) = false := decide_eq_false fun heq =>
    h (.inl (by rw [heq]; rfl))
  rw [outline, if_neg (by simpa using h), hname, Bool.or_false]

/-- The tokens of an outline are among those of the part. -/
theorem mem_of_mem_outline (h : y ∈ outline ended xs) : y ∈ xs := by
  induction xs generalizing ended with
  | nil => exact h
  | cons x xs ih =>
    rw [outline] at h
    split at h
    · exact (List.mem_cons.1 h).elim (fun h => h ▸ List.mem_cons_self ..)
        fun h => List.mem_cons_of_mem _ (ih h)
    · exact List.mem_cons_of_mem _ (ih h)

theorem mem_outline (h : y ∈ xs) (hy : y.counts = true) : y ∈ outline ended xs := by
  induction xs generalizing ended with
  | nil => exact h
  | cons x xs ih =>
    rcases List.mem_cons.1 h with rfl | h
    · rw [outline_cons_of_counts (.inl hy)]
      exact List.mem_cons_self ..
    · rw [outline]
      split
      · exact List.mem_cons_of_mem _ (ih h)
      · exact ih h

/-- An outline starts with the first token that counts. -/
theorem exists_of_outline_eq_cons (h : outline ended xs = y :: ys) :
    ∃ before behind, xs = before ++ y :: behind ∧
      (∀ x ∈ before, ¬(x.counts = true ∨ ended = true ∧ isSignificant x = true)) ∧
        outline (ended || y = .endEnvironment documentName) behind = ys := by
  induction xs with
  | nil => cases h
  | cons x xs ih =>
    by_cases hx : x.counts = true ∨ ended = true ∧ isSignificant x = true
    · rw [outline_cons_of_counts hx] at h
      obtain ⟨rfl, hrest⟩ := List.cons.inj h
      exact ⟨[], xs, rfl, nofun, hrest⟩
    · rw [outline_cons_of_not_counts hx] at h
      obtain ⟨before, behind, rfl, hbefore, hrest⟩ := ih h
      exact ⟨x :: before, behind, rfl, List.forall_mem_cons.2 ⟨hx, hbefore⟩, hrest⟩

theorem not_counts_of_outline_eq_nil (h : outline ended xs = []) :
    ∀ x ∈ xs, ¬(x.counts = true ∨ ended = true ∧ isSignificant x = true) := by
  induction xs with
  | nil => exact nofun
  | cons x xs ih =>
    by_cases hx : x.counts = true ∨ ended = true ∧ isSignificant x = true
    · rw [outline_cons_of_counts hx] at h
      cases h
    · rw [outline_cons_of_not_counts hx] at h
      exact List.forall_mem_cons.2 ⟨hx, ih h⟩

/-! ## Scans that match -/

instance Delimiter.Stack.decidableSameSize (s s' : Delimiter.Stack) : Decidable (s.SameSize s') :=
  decidable_of_iff (s.opens.length = s'.opens.length ∧ s.strays.length = s'.strays.length)
    ⟨fun ⟨h, h'⟩ => ⟨h, h'⟩, fun h => ⟨h.opens, h.strays⟩⟩

namespace ScanState

/-- The scans have met the same, at whatever places, but for braces and inclusions. -/
structure Matches (s s' : ScanState) : Prop where
  nesting : Alike s.nesting s'.nesting
  documentClass : s.hasDocumentClass = s'.hasDocumentClass
  beginDocument : s.beginDocument.isSome = s'.beginDocument.isSome
  documentEnd : s.documentEnd.isSome = s'.documentEnd.isSome
  trailingContent : s.trailingContent.isSome = s'.trailingContent.isSome

instance (s s' : ScanState) : Decidable (Matches s s') :=
  decidable_of_iff ((∀ d ∈ Delimiter.all, d ≠ .brace →
      (s.delimiters.get d).SameSize (s'.delimiters.get d)) ∧
      s.openNames = s'.openNames ∧ s.findings.length = s'.findings.length ∧
        s.hasDocumentClass = s'.hasDocumentClass ∧
          s.beginDocument.isSome = s'.beginDocument.isSome ∧
            s.documentEnd.isSome = s'.documentEnd.isSome ∧
              s.trailingContent.isSome = s'.trailingContent.isSome)
    ⟨fun ⟨hd, he, hf, hc, hb, hend, ht⟩ =>
      ⟨⟨fun d => hd d (Delimiter.mem_all d), he, hf, rfl, rfl, rfl, rfl⟩, hc, hb, hend, ht⟩,
      fun h => ⟨fun d _ => h.nesting.delimiters d, h.nesting.environments, h.nesting.findings,
        h.documentClass, h.beginDocument, h.documentEnd, h.trailingContent⟩⟩

variable {s s' s'' : ScanState} {x x' : Lexeme} {xs ys : List Lexeme}

theorem Alike.nesting (h : Alike s s') : Alike s.nesting s'.nesting :=
  ⟨h.delimiters, h.environments, h.findings, rfl, rfl, rfl, rfl⟩

/-- Whether the document has ended after a step is seen from what is open before it. -/
theorem documentEnd_step_congr (hnames : s.openNames = s'.openNames)
    (hend : s.documentEnd.isSome = s'.documentEnd.isSome) (hx : x.token = x'.token) :
    (s.step x).documentEnd.isSome = (s'.step x').documentEnd.isSome := by
  by_cases hname : x.token = .endEnvironment documentName
  · have hstep : ∀ (s : ScanState) (x : Lexeme), x.token = .endEnvironment documentName →
        ∃ p, s.step x =
          { s with trailingContent := p }.closeEnvironment documentName x.start x.stop :=
      fun s x hx => by
        obtain ⟨p, hp⟩ := s.exists_noteTrailing_eq x
        exact ⟨p, by rw [step, hp, act, hx]⟩
    obtain ⟨p, hp⟩ := hstep s x hname
    obtain ⟨q, hq⟩ := hstep s' x' (hx ▸ hname)
    obtain ⟨-, hclosed, houter⟩ := Alike.splitAtEnd_congr hnames documentName
    have hempty : (splitAtEnd documentName s.environments).2.2.isEmpty =
        (splitAtEnd documentName s'.environments).2.2.isEmpty := by
      simpa using congrArg List.isEmpty houter
    rw [hp, hq, closeEnvironment, closeEnvironment]
    simp only [hclosed, hempty]
    split
    · rw [Option.isSome_or, Option.isSome_or, hend]
      rfl
    · exact hend
  · have hstays : ∀ (s : ScanState) (x : Lexeme), x.token ≠ .endEnvironment documentName →
        (s.step x).documentEnd = s.documentEnd := fun s x hx =>
      (s.documentEnd_step_cases x).resolve_right fun h => hx h.2.1
    rw [hstays s x hname, hstays s' x' (hx ▸ hname), hend]

namespace Matches

theorem refl (s : ScanState) : Matches s s :=
  ⟨.refl _, rfl, rfl, rfl, rfl⟩

theorem symm (h : Matches s s') : Matches s' s :=
  ⟨h.nesting.symm, h.documentClass.symm, h.beginDocument.symm, h.documentEnd.symm,
    h.trailingContent.symm⟩

theorem trans (h : Matches s s') (h' : Matches s' s'') : Matches s s'' :=
  ⟨h.nesting.trans h'.nesting, h.documentClass.trans h'.documentClass,
    h.beginDocument.trans h'.beginDocument, h.documentEnd.trans h'.documentEnd,
    h.trailingContent.trans h'.trailingContent⟩

/-- Braces do not matter. -/
theorem modify_brace (s : ScanState) (f : Delimiter.Stack → Delimiter.Stack) :
    Matches { s with delimiters := s.delimiters.modify .brace f } s where
  nesting :=
    { Alike.refl s.nesting with
      delimiters := fun d hd => by
        change (DelimiterStacks.get (s.delimiters.modify .brace f) d).SameSize _
        rw [DelimiterStacks.get_modify_of_ne _ hd]
        exact ⟨rfl, rfl⟩ }
  documentClass := rfl
  beginDocument := rfl
  documentEnd := rfl
  trailingContent := rfl

theorem step (h : Matches s s') (hx : x.token = x'.token) : Matches (s.step x) (s'.step x') where
  nesting := by
    rw [nesting_step s, nesting_step s']
    exact (h.nesting.step hx).nesting
  documentClass := by rw [hasDocumentClass_step, hasDocumentClass_step, h.documentClass, hx]
  beginDocument := by rw [beginDocument_step, beginDocument_step, h.beginDocument, hx]
  documentEnd := documentEnd_step_congr h.nesting.environments h.documentEnd hx
  trailingContent := by
    rw [Bool.eq_iff_iff, trailingContent_step, trailingContent_step, h.trailingContent,
      h.documentEnd, hx]

end Matches

/-- A token that does not count changes nothing but braces in what a scan has met. -/
theorem matches_step_of_not_counts (hx : ¬(x.token.counts = true ∨
    s.documentEnd.isSome = true ∧ isSignificant x.token = true)) : Matches (s.step x) s := by
  rw [not_or] at hx
  rw [ScanState.step, noteTrailing, if_neg (by simpa using hx.2)]
  have hcounts := hx.1
  unfold act
  generalize x.token = token at hcounts
  cases token with
  | openBrace | closeBrace => exact .modify_brace s _
  | comment | controlWord | verb | plain => exact .refl s
  | controlSymbol c =>
    have hc : c ≠ '(' ∧ c ≠ ')' ∧ c ≠ '[' ∧ c ≠ ']' := by
      simpa [Token.counts, and_assoc] using hcounts
    simpa [hc] using Matches.refl s
  | verbatim name closed =>
    cases closed with
    | true => exact .refl s
    | false => exact absurd rfl hcounts
  | _ => exact absurd rfl hcounts

/-- Nor do several, where the document has not ended but as the outline says. -/
theorem matches_run_of_not_counts (hended : s.documentEnd.isSome = true → ended = true)
    (hxs : ∀ x ∈ xs.map (·.token), ¬(x.counts = true ∨ ended = true ∧ isSignificant x = true)) :
    Matches (s.run xs) s := by
  induction xs generalizing s with
  | nil => exact .refl s
  | cons x xs ih =>
    rw [List.map_cons, List.forall_mem_cons] at hxs
    have hstep := matches_step_of_not_counts (mt (Or.imp_right (And.imp_left hended)) hxs.1)
    exact (ih (fun hend => hended (hstep.documentEnd ▸ hend)) hxs.2).trans hstep

/-- Behind a step the document has not ended but as the outline says. -/
theorem ended_step (hended : s.documentEnd.isSome = true → ended = true)
    (h : (s.step x).documentEnd.isSome = true) :
    (ended || x.token = .endEnvironment documentName) = true := by
  rw [Bool.or_eq_true, decide_eq_true_eq]
  rcases s.documentEnd_step_cases x with heq | ⟨-, htoken, -⟩
  · exact .inl (hended (heq ▸ h))
  · exact .inr htoken

/-- Parts with one outline lead scans that match to scans that match. -/
theorem Matches.run_of_outline (h : Matches s s')
    (hended : s.documentEnd.isSome = true → ended = true)
    (hxs : outline ended (xs.map (·.token)) = outline ended (ys.map (·.token))) :
    Matches (s.run xs) (s'.run ys) := by
  induction xs generalizing s s' ys ended with
  | nil =>
    have hys := matches_run_of_not_counts (fun hend => hended (h.documentEnd ▸ hend))
      (not_counts_of_outline_eq_nil hxs.symm)
    exact h.trans hys.symm
  | cons x xs ih =>
    rw [List.map_cons] at hxs
    by_cases hx : x.token.counts = true ∨ ended = true ∧ isSignificant x.token = true
    · rw [outline_cons_of_counts hx] at hxs
      obtain ⟨before, behind, hys, hbefore, hbehind⟩ := exists_of_outline_eq_cons hxs.symm
      obtain ⟨before, behind', rfl, rfl, hcons⟩ := List.map_eq_append_iff.1 hys
      obtain ⟨y, behind, rfl, hy, rfl⟩ := List.map_eq_cons_iff.1 hcons
      have hskip := matches_run_of_not_counts (fun hend => hended (h.documentEnd ▸ hend)) hbefore
      rw [run_cons, run_append, run_cons]
      exact ih ((h.trans hskip.symm).step hy.symm) (ended_step hended) hbehind.symm
    · rw [outline_cons_of_not_counts hx] at hxs
      have hskip := matches_step_of_not_counts (mt (Or.imp_right (And.imp_left hended)) hx)
      exact ih (hskip.trans h) (fun hend => hended (hskip.documentEnd ▸ hend)) hxs

end ScanState

/-! ## Braces -/

namespace Delimiter.Stack

/-- How many delimiters a word leaves behind others. -/
theorem length_foldl_feed (s : Stack) (w : List DelimiterEvent) :
    (w.foldl feed s).opens.length =
        (ofWord w).opens.length + (s.opens.length - (ofWord w).strays.length) ∧
      (w.foldl feed s).strays.length =
        ((ofWord w).strays.length - s.opens.length) + s.strays.length := by
  induction w using List.reverseRecOn with
  | nil => simp [ofWord]
  | append_singleton w e ih =>
    rw [List.foldl_append, ofWord_append_singleton]
    generalize w.foldl feed s = s' at ih
    generalize ofWord w = r at ih
    obtain ⟨opens, strays⟩ := s'
    obtain ⟨opens', strays'⟩ := r
    cases e with
    | opening p =>
      simp only [List.foldl_cons, List.foldl_nil, feed, push, List.length_cons] at ih ⊢
      omega
    | closing p =>
      cases opens <;> cases opens' <;>
        simp only [List.foldl_cons, List.foldl_nil, feed, pop, List.length_cons, List.length_nil]
          at ih ⊢ <;> omega

theorem SameSize.eq_empty {s : Stack} (h : SameSize s {}) : s = {} := by
  obtain ⟨opens, strays⟩ := s
  obtain rfl : opens = [] := List.eq_nil_of_length_eq_zero h.opens
  obtain rfl : strays = [] := List.eq_nil_of_length_eq_zero h.strays
  rfl

/-- Words that leave as many leave as many behind others. -/
theorem SameSize.foldl_feed {s s' : Stack} {w v : List DelimiterEvent} (h : SameSize s s')
    (hw : SameSize (ofWord w) (ofWord v)) :
    SameSize (w.foldl Stack.feed s) (v.foldl Stack.feed s') := by
  obtain ⟨hopens, hstrays⟩ := length_foldl_feed s w
  obtain ⟨hopens', hstrays'⟩ := length_foldl_feed s' v
  refine ⟨?_, ?_⟩
  · rw [hopens, hopens', h.opens, hw.opens, hw.strays]
  · rw [hstrays, hstrays', h.opens, h.strays, hw.strays]

end Delimiter.Stack

namespace ScanState

variable {s s' : ScanState} {x x' : Lexeme} {xs ys : List Lexeme}

/-- The braces that a part leaves open or stray behind others depend on its braces alone. -/
theorem sameSize_brace_run (h : s.delimiters.brace.SameSize s'.delimiters.brace)
    (hxs : (Delimiter.Stack.ofWord (xs.filterMap Lexeme.brace?)).SameSize
      (Delimiter.Stack.ofWord (ys.filterMap Lexeme.brace?))) :
    (s.run xs).delimiters.brace.SameSize (s'.run ys).delimiters.brace := by
  have hrun : ∀ (s : ScanState) (xs : List Lexeme), (s.run xs).delimiters.brace =
      (xs.filterMap Lexeme.brace?).foldl Delimiter.Stack.feed s.delimiters.brace := fun s xs => by
    have hget := DelimiterStacks.get_foldl_feed (s.trace xs) s.delimiters .brace
    rwa [← delimiters_run, eventsOf_brace_trace] at hget
  rw [hrun, hrun]
  exact h.foldl_feed hxs

/-! ## Sound scans -/

/-- Nothing is left to mend where the scan has come to. -/
structure Sound (s : ScanState) : Prop where
  delimiters : ∀ d, s.delimiters.get d = {}
  environments : s.environments = []
  findings : s.findings = []
  documentClass : s.hasDocumentClass = true
  beginDocument : s.beginDocument.isSome = true
  trailing : ¬(s.documentEnd.isSome = true ∧ s.trailingContent.isSome = true)

/-- No issue has been met so far, delimiters apart. -/
structure Quiet (s : ScanState) : Prop where
  findings : s.findings = []
  trailingContent : s.trailingContent = none

/-- As much is open in the scans, and the document has come as far. -/
structure Level (s s' : ScanState) : Prop where
  delimiters : ∀ d, (s.delimiters.get d).SameSize (s'.delimiters.get d)
  environments : s.openNames = s'.openNames
  documentClass : s.hasDocumentClass = s'.hasDocumentClass
  beginDocument : s.beginDocument.isSome = s'.beginDocument.isSome
  documentEnd : s.documentEnd.isSome = s'.documentEnd.isSome

instance (s s' : ScanState) : Decidable (Level s s') :=
  decidable_of_iff ((∀ d ∈ Delimiter.all, (s.delimiters.get d).SameSize (s'.delimiters.get d)) ∧
      s.openNames = s'.openNames ∧ s.hasDocumentClass = s'.hasDocumentClass ∧
        s.beginDocument.isSome = s'.beginDocument.isSome ∧
          s.documentEnd.isSome = s'.documentEnd.isSome)
    ⟨fun ⟨hd, he, hc, hb, hend⟩ => ⟨fun d => hd d (Delimiter.mem_all d), he, hc, hb, hend⟩,
      fun h => ⟨fun d _ => h.delimiters d, h.environments, h.documentClass, h.beginDocument,
        h.documentEnd⟩⟩

/-- Level scans that have met no issue match. -/
theorem Level.matches (h : Level s s') (hs : Quiet s) (hs' : Quiet s') : Matches s s' where
  nesting :=
    { delimiters := fun d _ => h.delimiters d
      environments := h.environments
      findings := congrArg List.length (hs.findings.trans hs'.findings.symm)
      documentClass := rfl
      beginDocument := rfl
      documentEnd := rfl
      inclusions := rfl }
  documentClass := h.documentClass
  beginDocument := h.beginDocument
  documentEnd := h.documentEnd
  trailingContent := by rw [hs.trailingContent, hs'.trailingContent]

/-- A scan that matches a sound one is sound as well, if its braces balance. -/
theorem Matches.sound (h : Matches s s') (hbraces : s.delimiters.brace = {}) (hs : Sound s') :
    Sound s where
  delimiters d := by
    rcases eq_or_ne d .brace with rfl | hd
    · exact hbraces
    · obtain ⟨hopens, hstrays⟩ := h.nesting.delimiters d hd
      change (s.delimiters.get d).opens.length = (s'.delimiters.get d).opens.length at hopens
      change (s.delimiters.get d).strays.length = (s'.delimiters.get d).strays.length at hstrays
      rw [hs.delimiters d] at hopens hstrays
      exact Delimiter.Stack.SameSize.eq_empty ⟨hopens, hstrays⟩
  environments := by
    have hnames := h.nesting.environments
    change s.openNames = s'.openNames at hnames
    rwa [openNames, openNames, hs.environments, List.map_nil, List.map_eq_nil_iff] at hnames
  findings := by
    have hlength := h.nesting.findings
    change s.findings.length = s'.findings.length at hlength
    rwa [hs.findings, List.length_nil, List.length_eq_zero_iff] at hlength
  documentClass := h.documentClass.trans hs.documentClass
  beginDocument := h.beginDocument.trans hs.beginDocument
  trailing := by
    rw [h.documentEnd, h.trailingContent]
    exact hs.trailing

theorem trailingContent_run_of_isSome (h : s.trailingContent.isSome = true) (xs : List Lexeme) :
    (s.run xs).trailingContent.isSome = true := by
  induction xs generalizing s with
  | nil => exact h
  | cons x xs ih => exact ih ((s.trailingContent_step x).2 (.inl h))

/-- Trailing content is met behind the end of the document only. -/
theorem documentEnd_of_trailingContent (h : (run {} xs).trailingContent.isSome = true) :
    (run {} xs).documentEnd.isSome = true := by
  induction xs using List.reverseRecOn with
  | nil => cases h
  | append_singleton xs x ih =>
    rw [run_append] at h ⊢
    have hend : (run {} xs).documentEnd.isSome = true := by
      rcases ((run {} xs).trailingContent_step x).1 h with h | h
      · exact ih h
      · exact h.1
    obtain ⟨d, hd⟩ := Option.isSome_iff_exists.1 hend
    rw [documentEnd_run_of_some hd]
    rfl

/-- On the way to a sound state a scan meets no issue. -/
theorem Sound.quiet (h : Sound (run {} (xs ++ ys))) : Quiet (run {} xs) := by
  rw [run_append] at h
  refine ⟨?_, ?_⟩
  · by_contra hne
    exact findings_run_ne_nil ys hne h.findings
  · by_contra hne
    have htrailing := Option.isSome_iff_ne_none.2 hne
    obtain ⟨d, hd⟩ := Option.isSome_iff_exists.1 (documentEnd_of_trailingContent htrailing)
    refine h.trailing ⟨?_, trailingContent_run_of_isSome htrailing ys⟩
    rw [documentEnd_run_of_some hd]
    rfl

end ScanState

/-! ## Validity -/

/-- The tokens of a text. -/
def tokens (t : Text) : List Token :=
  (Lexeme.lexemes t).map (·.token)

/-- The files that the tokens include are known. -/
def IncludesKnown (lookup : Option FileLookup) (xs : List Token) : Prop :=
  ∀ known ∈ lookup, ∀ command target, .inclusion command target ∈ xs → known target = true

/-- A document is valid if its scan ends in a sound state and the files that it includes are
known. -/
theorem valid_iff_sound {lookup : Option FileLookup} {t : Text} :
    (validate lookup t).valid = true ↔
      ScanState.Sound (ScanState.run {} (Lexeme.lexemes t)) ∧ IncludesKnown lookup (tokens t) := by
  have hknown : (∀ known ∈ lookup, Issue.ofInclusions known (scan t) = []) ↔
      IncludesKnown lookup (tokens t) := by
    simp only [Issue.ofInclusions_eq_nil_iff, inclusions_known_iff, IncludesKnown, tokens,
      List.mem_map]
    refine forall₂_congr fun known _ => ?_
    constructor
    · rintro h command target ⟨x, hx, htoken⟩
      exact h x hx command target htoken
    · exact fun h x hx command target htoken => h command target ⟨x, hx, htoken⟩
  have hbalanced : (∀ d, Balanced (delimiterEvents d t)) ↔
      ∀ d, (ScanState.run {} (Lexeme.lexemes t)).delimiters.get d = {} :=
    forall_congr' fun d => by rw [get_delimiters_run_lexemes, balanced_iff_ofWord_eq]
  rw [validate, Validation.valid_ofIssues, issuesOf_eq_nil_iff, findings_scan_eq_nil_iff, hknown,
    hbalanced, Issue.ofSkeleton_eq_nil_iff, Issue.ofTrailing_eq_nil_iff]
  constructor
  · rintro ⟨⟨hd, hf, he⟩, ⟨hc, hb⟩, ht, hi⟩
    exact ⟨⟨hd, he, hf, hc, hb, ht⟩, hi⟩
  · rintro ⟨⟨hd, he, hf, hc, hb, ht⟩, hi⟩
    exact ⟨⟨hd, hf, he⟩, ⟨hc, hb⟩, ht, hi⟩

end LatexRepair
