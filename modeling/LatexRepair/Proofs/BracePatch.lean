import LatexRepair.Proofs.AlikeScans

/-!
# Changes of closing braces

A `BracePatch` changes a text in one place: closing braces and white space give way to
others. Where a reading comes to the place before and after the change
(`Lexeme.ReadsApart`), these braces are braces for the scan too, and the rest of the text is
read as before.

`BracePatch.balances_iff` : such a change of the right number of braces balances the braces
and leaves the number of all other issues alone (`Balances`) exactly when no brace stays
open behind the place, no closing brace is stray before it, and the change does not put the
first text behind the end of the document or take the last text away from there
(`Mendable`).

The words of braces before and behind the place decide what is left of the braces
(`BracePatch.InCode.ofWord_eq`); the scans of the two texts are alike
(`BracePatch.InCode.alike`), so they report as much of everything else.
-/

namespace LatexRepair

/-! ## Closing braces and white space -/

namespace Lexeme

/-- A closing brace or white space. -/
def isFiller (c : Char) : Bool :=
  c = '}' || isBlank c

/-- The token of a closing brace or of white space. -/
def fillerToken (c : Char) : Token :=
  if c = '}' then .closeBrace else .plain c

theorem lexeme_of_isFiller {c : Char} (h : isFiller c = true) (t : Text) :
    lexeme c t = (fillerToken c, 0) := by
  by_cases hc : c = '}'
  · subst hc
    rfl
  · have hblank : isBlank c = true := by simpa [isFiller, hc] using h
    have hne : ∀ d, isBlank d = false → c ≠ d := fun d hd heq => by
      rw [heq, hd] at hblank
      cases hblank
    rw [fillerToken, if_neg hc]
    unfold lexeme
    split <;> first | rfl | exact absurd rfl (hne _ (by decide))

/-- Closing braces and white space are read character by character. -/
theorem lexemesFrom_filler {m : Text} (hm : ∀ c ∈ m, isFiller c = true) (p : Position) (r : Text) :
    lexemesFrom p (m ++ r) = lexemesFrom p m ++ lexemesFrom (p.after m) r := by
  induction m generalizing p with
  | nil => simp [lexemesFrom]
  | cons c m ih =>
    rw [List.forall_mem_cons] at hm
    rw [List.cons_append, lexemesFrom_cons, lexemesFrom_cons, lexeme_of_isFiller hm.1,
      lexeme_of_isFiller hm.1]
    simp [ih hm.2]

/-- What a text is read as does not depend on where it stands. -/
theorem map_token_lexemesFrom (p q : Position) (t : Text) :
    (lexemesFrom p t).map (·.token) = (lexemesFrom q t).map (·.token) := by
  induction p, t using lexemesFrom.induct generalizing q with
  | case1 p => simp [lexemesFrom]
  | case2 p c t token n hlex stop ih =>
    rw [lexemesFrom_cons, lexemesFrom_cons, hlex, List.map_cons, List.map_cons, ih]

/-- A reading of `a ++ r` reads `a` first and then `r`. -/
def ReadsApart (a r : Text) : Prop :=
  lexemes (a ++ r) = lexemes a ++ lexemesFrom (Position.start.after a) r

instance (a r : Text) : Decidable (ReadsApart a r) :=
  inferInstanceAs (Decidable (_ = _))

/-- The brace that a lexeme is. -/
def brace? (x : Lexeme) : Option DelimiterEvent :=
  match x.token with
  | .openBrace => some (.opening x.start)
  | .closeBrace => some (.closing x.start)
  | _ => none

end Lexeme

/-! ## The word of braces -/

namespace ScanState

theorem eventsOf_brace_dollarEvents (s : ScanState) (p : Position) (n : Nat) :
    eventsOf .brace (s.dollarEvents p n) = [] := by
  have hclass : ∀ e ∈ s.dollarEvents p n, e.1 ≠ .brace := by
    induction s, p, n using dollarEvents.induct with
    | case1 s p => simp [dollarEvents]
    | case2 s p => simp [dollarEvents, toggleEvent]
    | case3 s p n h ih =>
      rw [dollarEvents, if_pos h, List.forall_mem_cons]
      exact ⟨by simp, ih⟩
    | case4 s p n h ih =>
      rw [dollarEvents, if_neg h, List.forall_mem_cons]
      exact ⟨by simp [toggleEvent], ih⟩
  rw [eventsOf, List.filter_eq_nil_iff.2 fun e he => by simpa using hclass e he, List.map_nil]

/-- Braces are braces whatever else is open. -/
theorem eventsOf_brace_emits (s : ScanState) (x : Lexeme) :
    eventsOf .brace (s.emits x) = x.brace?.toList := by
  obtain ⟨token, start, stop⟩ := x
  unfold emits Lexeme.brace?
  cases token with
  | dollars n => exact s.eventsOf_brace_dollarEvents start n
  | openBracket | closeBracket => dsimp only; split <;> rfl
  | controlSymbol c =>
    induction c using Token.mathSymbol_cases with
    | other c h₁ h₂ h₃ h₄ => simp [h₁, h₂, h₃, h₄, eventsOf]
    | _ => rfl
  | _ => rfl

theorem eventsOf_brace_trace (s : ScanState) (xs : List Lexeme) :
    eventsOf .brace (s.trace xs) = xs.filterMap Lexeme.brace? := by
  induction xs generalizing s with
  | nil => rfl
  | cons x xs ih =>
    have happend : ∀ es fs, eventsOf .brace (es ++ fs) = eventsOf .brace es ++ eventsOf .brace fs :=
      fun es fs => by simp [eventsOf]
    rw [trace, happend, eventsOf_brace_emits, ih, filterMap_cons_eq]

end ScanState

/-- The braces of a text that starts at `p`. -/
def bracesFrom (p : Position) (t : Text) : List DelimiterEvent :=
  (Lexeme.lexemesFrom p t).filterMap Lexeme.brace?

theorem delimiterEvents_brace (t : Text) : delimiterEvents .brace t = bracesFrom .start t :=
  ScanState.eventsOf_brace_trace {} _

/-- The braces of a text stand in it. -/
theorem offset_of_mem_bracesFrom {p : Position} {t : Text} {e : DelimiterEvent}
    (h : e ∈ bracesFrom p t) :
    p.offset ≤ e.pos.offset ∧ e.pos.offset < p.offset + Text.byteLength t := by
  rw [bracesFrom, ← ScanState.eventsOf_brace_trace {}] at h
  obtain ⟨x, hx, rfl⟩ := List.mem_map.1 h
  exact (ScanState.eventsWithin_trace {} p t).1 x (List.mem_of_mem_filter hx)

/-- Lexemes of the same tokens have the same braces. -/
theorem Lexeme.map_isOpening_filterMap_brace? {xs ys : List Lexeme}
    (h : xs.map (·.token) = ys.map (·.token)) :
    (xs.filterMap brace?).map DelimiterEvent.isOpening =
      (ys.filterMap brace?).map DelimiterEvent.isOpening := by
  have htoken : ∀ xs : List Lexeme, (xs.filterMap brace?).map DelimiterEvent.isOpening =
      (xs.map (·.token)).filterMap fun token =>
        match token with
        | .openBrace => some true
        | .closeBrace => some false
        | _ => none := fun xs => by
    rw [List.map_filterMap, List.filterMap_map]
    refine List.filterMap_congr fun x _ => ?_
    obtain ⟨token, start, stop⟩ := x
    cases token <;> rfl
  rw [htoken, htoken, h]

theorem map_isOpening_bracesFrom (p q : Position) (t : Text) :
    (bracesFrom p t).map DelimiterEvent.isOpening =
      (bracesFrom q t).map DelimiterEvent.isOpening :=
  Lexeme.map_isOpening_filterMap_brace? (Lexeme.map_token_lexemesFrom p q t)

theorem bracesFrom_filler {m : Text} (hm : ∀ c ∈ m, Lexeme.isFiller c = true) (p : Position)
    (r : Text) : bracesFrom p (m ++ r) = bracesFrom p m ++ bracesFrom (p.after m) r := by
  rw [bracesFrom, Lexeme.lexemesFrom_filler hm, List.filterMap_append]
  rfl

/-- Closing braces and white space leave as many closers as there are closing braces. -/
theorem ofWord_bracesFrom_filler {m : Text} (hm : ∀ c ∈ m, Lexeme.isFiller c = true)
    (p : Position) :
    (Delimiter.Stack.ofWord (bracesFrom p m)).opens = [] ∧
      (Delimiter.Stack.ofWord (bracesFrom p m)).strays.length = m.count '}' := by
  induction m generalizing p with
  | nil => simp [bracesFrom, Lexeme.lexemesFrom, Delimiter.Stack.ofWord]
  | cons c m ih =>
    rw [List.forall_mem_cons] at hm
    obtain ⟨hopens, hstrays⟩ := ih hm.2 (p.next c)
    have hcons : bracesFrom p (c :: m) =
        (if c = '}' then [.closing p] else []) ++ bracesFrom (p.next c) m := by
      rw [bracesFrom, Lexeme.lexemesFrom_cons, Lexeme.lexeme_of_isFiller hm.1, Lexeme.fillerToken]
      split <;> rfl
    rw [hcons]
    split
    · rename_i hc
      subst hc
      have hone : Delimiter.Stack.ofWord [.closing p] = ⟨[], [p]⟩ := rfl
      rw [Delimiter.Stack.ofWord_append, hone]
      simp [hopens, hstrays]
    · rename_i hc
      simp [hopens, hstrays, hc]

/-! ## What is reported about braces -/

theorem Delimiter.Stack.length_misplaced (s : Stack) : s.misplaced.length = s.misplacedCount := by
  simp [misplaced, misplacedCount]
  omega

section Findings

variable {d : Delimiter} {t : Text}

theorem mem_findings_iff_mem_ofStack {f : Finding} (hf : f.delimiter? = some d) :
    f ∈ (scan t).findings ↔ f ∈ Finding.ofStack d (.ofWord (delimiterEvents d t)) := by
  rw [← (filter_findings_scan_perm d t).mem_iff, List.mem_filter]
  simp [hf]

/-- Where nothing is in the wrong order, the stack pairs nothing. -/
theorem misplacedCount_eq_zero (h : ∀ p q, .misordered d p q ∉ (scan t).findings) :
    (Delimiter.Stack.ofWord (delimiterEvents d t)).misplacedCount = 0 := by
  have hnil : (Delimiter.Stack.ofWord (delimiterEvents d t)).misplaced = [] := by
    refine List.eq_nil_iff_forall_not_mem.2 fun pq hpq => h pq.1 pq.2 ?_
    rw [mem_findings_iff_mem_ofStack rfl, Finding.ofStack]
    simp [hpq]
  rw [← Delimiter.Stack.length_misplaced, hnil, List.length_nil]

/-- The openers that are reported are those that the stack has no closer for. -/
theorem mem_findings_unmatchedOpen_iff {q : Position} : .unmatchedOpen d q ∈ (scan t).findings ↔
    q ∈ (Delimiter.Stack.ofWord (delimiterEvents d t)).loneOpens := by
  rw [mem_findings_iff_mem_ofStack rfl]
  simp [Finding.ofStack]

theorem mem_findings_unmatchedOpen (h : ∀ p q, .misordered d p q ∉ (scan t).findings)
    {q : Position} : .unmatchedOpen d q ∈ (scan t).findings ↔
      q ∈ (Delimiter.Stack.ofWord (delimiterEvents d t)).opens := by
  rw [mem_findings_unmatchedOpen_iff, Delimiter.Stack.loneOpens, misplacedCount_eq_zero h,
    List.drop_zero, List.mem_reverse]

theorem mem_findings_unmatchedClose (h : ∀ p q, .misordered d p q ∉ (scan t).findings)
    {q : Position} : .unmatchedClose d q ∈ (scan t).findings ↔
      q ∈ (Delimiter.Stack.ofWord (delimiterEvents d t)).strays := by
  rw [mem_findings_iff_mem_ofStack rfl]
  have hlone : ∀ s : Delimiter.Stack, s.misplacedCount = 0 → s.loneCloses = s.strays.reverse :=
    fun s hs => by
      rw [Delimiter.Stack.loneCloses, hs, List.take_of_length_le (by simp)]
  simp [Finding.ofStack, hlone _ (misplacedCount_eq_zero h)]

end Findings

theorem ofFinding_mem_issues (lookup : Option FileLookup) {t : Text} {f : Finding}
    (h : f ∈ (scan t).findings) : Issue.ofFinding f ∈ (validate lookup t).issues := by
  rw [(issues_validate_perm lookup t).mem_iff]
  simp only [issuesOf, List.mem_append]
  exact .inl (.inl (.inl (List.mem_map_of_mem h)))

/-- An issue reports a finding, or it is about the skeleton, the text behind the end or a file. -/
theorem kind_of_mem_issues {lookup : Option FileLookup} {t : Text} {i : Issue}
    (h : i ∈ (validate lookup t).issues) : (∃ f ∈ (scan t).findings, Issue.ofFinding f = i) ∨
      i.kind = .structure_ ∨ i.kind = .trailingContent ∨ i.kind = .include_ := by
  rw [(issues_validate_perm lookup t).mem_iff] at h
  simp only [issuesOf, List.mem_append] at h
  rcases h with ((h | h) | h) | h
  · exact .inl (List.mem_map.1 h)
  · exact .inr (.inl (Issue.kind_of_mem_ofSkeleton h))
  · exact .inr (.inr (.inl (Issue.kind_of_mem_ofTrailing h)))
  · cases lookup with
    | none => cases h
    | some known => exact .inr (.inr (.inr (Issue.kind_of_mem_ofInclusions h)))

/-- No issue is about braces exactly when the braces balance. -/
theorem forall_isBraces_eq_false_iff (lookup : Option FileLookup) (t : Text) :
    (∀ i ∈ (validate lookup t).issues, i.kind.isBraces = false) ↔
      Balanced (delimiterEvents .brace t) := by
  rw [← (conserves_findings_scan .brace t).eq_nil_iff, List.filter_eq_nil_iff]
  simp only [decide_eq_true_eq, ← Finding.isBraces_kind, Bool.not_eq_true]
  refine ⟨fun h f hf => h _ (ofFinding_mem_issues lookup hf), fun h i hi => ?_⟩
  rcases kind_of_mem_issues hi with ⟨f, hf, rfl⟩ | hkind | hkind | hkind
  · exact h f hf
  all_goals
    rw [hkind]
    rfl

/-! ## Scanning closing braces -/

namespace ScanState

theorem alike_noteTrailing (s : ScanState) (x : Lexeme) : Alike s (s.noteTrailing x) := by
  obtain ⟨p, hp⟩ := s.exists_noteTrailing_eq x
  rw [hp]
  exact { Alike.refl s with }

theorem alike_closeDelimiter_brace (s : ScanState) (p : Position) :
    Alike s (s.closeDelimiter .brace p) where
  __ := Alike.refl s
  delimiters d hd := by
    rw [closeDelimiter, DelimiterStacks.get_modify_of_ne _ hd]
    exact ⟨rfl, rfl⟩

/-- Closing braces and white space keep a scan alike, and where the document has ended its
first closing brace is trailing content. -/
theorem run_filler {m : Text} (hm : ∀ c ∈ m, Lexeme.isFiller c = true) (s : ScanState)
    (p : Position) :
    Alike s (s.run (Lexeme.lexemesFrom p m)) ∧
      ((s.run (Lexeme.lexemesFrom p m)).trailingContent.isSome = true ↔
        s.trailingContent.isSome = true ∨ s.documentEnd.isSome = true ∧ '}' ∈ m) := by
  induction m generalizing s p with
  | nil =>
    rw [Lexeme.lexemesFrom]
    exact ⟨Alike.refl s, by simp [run]⟩
  | cons c m ih =>
    rw [List.forall_mem_cons] at hm
    rw [Lexeme.lexemesFrom_cons, Lexeme.lexeme_of_isFiller hm.1]
    -- white space is no content, and a closing brace feeds the braces only
    set x : Lexeme := ⟨Lexeme.fillerToken c, p, (p.next c).after (m.take 0)⟩ with hx
    have hstep : Alike s (s.step x) := by
      refine (s.alike_noteTrailing x).trans ?_
      rw [step, hx, Lexeme.fillerToken]
      split
      · exact alike_closeDelimiter_brace _ p
      · exact Alike.refl _
    have hsignificant : isSignificant x.token = true ↔ '}' = c := by
      rw [hx, Lexeme.fillerToken]
      split
      · rename_i hc
        simp [isSignificant, hc]
      · rename_i hc
        have hblank : isBlank c = true := by simpa [Lexeme.isFiller, hc] using hm.1
        simp [isSignificant, hblank, eq_comm, hc]
    obtain ⟨halike, htrailing⟩ := ih hm.2 (s.step x) x.stop
    refine ⟨hstep.trans halike, htrailing.trans ?_⟩
    rw [trailingContent_step, hsignificant, ← hstep.documentEnd, List.mem_cons, or_assoc,
      ← and_or_left]

/-- The end of a document and trailing content stay. -/
theorem isSome_run {s : ScanState} (xs : List Lexeme) :
    (s.documentEnd.isSome = true → (s.run xs).documentEnd.isSome = true) ∧
      (s.trailingContent.isSome = true → (s.run xs).trailingContent.isSome = true) := by
  constructor
  · intro h
    obtain ⟨d, hd⟩ := Option.isSome_iff_exists.1 h
    rw [documentEnd_run_of_some hd]
    rfl
  · induction xs generalizing s with
    | nil => exact id
    | cons x xs ih => exact fun h => ih ((s.trailingContent_step x).2 (.inl h))

end ScanState

/-! ## What is to be achieved -/

/-- The braces of `u` balance, and it has as many issues of each other kind as `t`. -/
structure Balances (lookup : Option FileLookup) (t u : Text) : Prop where
  balanced : ∀ i ∈ (validate lookup u).issues, i.kind.isBraces = false
  unharmed : ∀ k : IssueKind, k.isBraces = false →
    (validate lookup u).issues.countP (·.kind = k) = (validate lookup t).issues.countP (·.kind = k)

/-- The place behind `p` characters of `t` is the right one to change `t` into `u`. -/
structure Mendable (t u : Text) (p : Nat) : Prop where
  /-- No brace stays open behind the place. -/
  unclosed : ∀ q, .unmatchedOpen .brace q ∈ (scan t).findings → q.offset < Text.byteOffset t p
  /-- No closing brace is stray before the place. -/
  stray : ∀ q, .unmatchedClose .brace q ∈ (scan t).findings → Text.byteOffset t p ≤ q.offset
  /-- Where the document has ended, there is text behind its end before and after the change. -/
  trailing : (scan (t.take p)).documentEnd.isSome = true →
    (scan t).trailingContent.isSome = true ∧ (scan u).trailingContent.isSome = true

/-! ## Patches -/

/-- In one place of a text, closing braces and white space give way to others. -/
structure BracePatch (t u : Text) where
  before : Text
  old : Text
  new : Text
  behind : Text
  old_filler : ∀ c ∈ old, Lexeme.isFiller c = true
  new_filler : ∀ c ∈ new, Lexeme.isFiller c = true
  eq_old : t = before ++ (old ++ behind)
  eq_new : u = before ++ (new ++ behind)

namespace BracePatch

open ScanState
open Delimiter (Stack)

variable {t u : Text}

/-- The patch that takes the change back. -/
def symm (P : BracePatch t u) : BracePatch u t :=
  ⟨P.before, P.new, P.old, P.behind, P.new_filler, P.old_filler, P.eq_new, P.eq_old⟩

/-- A reading comes to the place of the change, before and after it. -/
structure InCode (P : BracePatch t u) : Prop where
  old : Lexeme.ReadsApart P.before (P.old ++ P.behind)
  new : Lexeme.ReadsApart P.before (P.new ++ P.behind)

theorem InCode.symm {P : BracePatch t u} (h : P.InCode) : P.symm.InCode :=
  ⟨h.new, h.old⟩

variable (P : BracePatch t u)

/-- The place of the change. -/
def place : Position :=
  Position.start.after P.before

/-- A scan up to the change. -/
def stateBefore : ScanState :=
  run {} (Lexeme.lexemes P.before)

/-- What the braces up to the change leave. -/
def stackBefore : Stack :=
  .ofWord (bracesFrom .start P.before)

/-- What the braces behind the change leave. -/
def stackBehind : Stack :=
  .ofWord (bracesFrom (P.place.after P.old) P.behind)

theorem take_before : t.take P.before.length = P.before :=
  (congrArg (List.take P.before.length) P.eq_old).trans List.take_left

theorem drop_before : t.drop P.before.length = P.old ++ P.behind :=
  (congrArg (List.drop P.before.length) P.eq_old).trans List.drop_left

theorem inCode_iff :
    P.InCode ↔ Lexeme.ReadsApart (t.take P.before.length) (t.drop P.before.length) ∧
      Lexeme.ReadsApart (u.take P.before.length) (u.drop P.before.length) := by
  have htake : u.take P.before.length = P.before := P.symm.take_before
  have hdrop : u.drop P.before.length = P.new ++ P.behind := P.symm.drop_before
  rw [take_before, drop_before, htake, hdrop]
  exact ⟨fun h => ⟨h.old, h.new⟩, fun h => ⟨h.1, h.2⟩⟩

theorem byteOffset_place : Text.byteOffset t P.before.length = P.place.offset := by
  rw [Text.byteOffset, take_before, place, Position.offset_after]
  simp [Position.start]

variable {P}

theorem InCode.run_eq (h : P.InCode) :
    run {} (Lexeme.lexemes t) = (P.stateBefore.run (Lexeme.lexemesFrom P.place P.old)).run
      (Lexeme.lexemesFrom (P.place.after P.old) P.behind) := by
  have hread := h.old
  rw [Lexeme.ReadsApart, ← P.eq_old, Lexeme.lexemesFrom_filler P.old_filler] at hread
  rw [hread, run_append, run_append]
  rfl

theorem InCode.braces_eq (h : P.InCode) :
    delimiterEvents .brace t = bracesFrom .start P.before ++
      (bracesFrom P.place P.old ++ bracesFrom (P.place.after P.old) P.behind) := by
  have hread := h.old
  rw [Lexeme.ReadsApart, ← P.eq_old] at hread
  rw [← bracesFrom_filler P.old_filler, delimiterEvents_brace, bracesFrom, ← Lexeme.lexemes, hread,
    List.filterMap_append]
  rfl

/-! ## The braces -/

/-- What the braces of the document leave, by what they leave on the two sides of the
change. -/
theorem InCode.ofWord_eq (h : P.InCode) :
    Stack.ofWord (delimiterEvents .brace t) =
      ⟨P.stackBehind.opens ++
          P.stackBefore.opens.drop (P.stackBehind.strays.length + P.old.count '}'),
        (P.stackBehind.strays ++ (Stack.ofWord (bracesFrom P.place P.old)).strays).take
            (P.stackBehind.strays.length + P.old.count '}' - P.stackBefore.opens.length) ++
          P.stackBefore.strays⟩ := by
  obtain ⟨hopens, hstrays⟩ := ofWord_bracesFrom_filler P.old_filler P.place
  rw [h.braces_eq, Stack.ofWord_append, Stack.ofWord_append, hopens]
  simp [stackBehind, stackBefore, hstrays]

theorem sameSize_stackBehind : P.stackBehind.SameSize P.symm.stackBehind :=
  Stack.sameSize_ofWord (map_isOpening_bracesFrom _ _ _)

/-- The braces balance after the change exactly when none behind it stays open and none
before it is stray, if their number is right. -/
theorem InCode.balanced_iff (h : P.InCode)
    (hdelta : (validate none t).braceDelta = P.new.count '}' - P.old.count '}') :
    Balanced (delimiterEvents .brace u) ↔
      P.stackBehind.opens = [] ∧ P.stackBefore.strays = [] := by
  have hcount := (Leaves.leaves_ofWord (delimiterEvents .brace t)).count
  rw [braceDelta_validate] at hdelta
  rw [h.ofWord_eq] at hcount
  obtain ⟨hopens, hstrays⟩ := sameSize_stackBehind (P := P)
  have hold := (ofWord_bracesFrom_filler P.old_filler P.place).2
  have hsymm : P.symm.stackBefore = P.stackBefore ∧ P.symm.old = P.new := ⟨rfl, rfl⟩
  have hempty : ∀ s : Stack, s = {} ↔ s.opens.length = 0 ∧ s.strays.length = 0 :=
    fun ⟨opens, strays⟩ => by simp
  rw [balanced_iff_ofWord_eq, h.symm.ofWord_eq, hempty, ← List.length_eq_zero_iff,
    ← List.length_eq_zero_iff]
  -- `hdelta` says how many openers before the change wait for it, so the lengths decide.
  simp only [List.length_append, List.length_drop, List.length_take, hsymm, hold] at hcount ⊢
  omega

/-- No brace stays open behind the change. -/
theorem InCode.unclosed_iff (h : P.InCode)
    (hordered : ∀ p q, .misordered .brace p q ∉ (scan t).findings) :
    (∀ q, .unmatchedOpen .brace q ∈ (scan t).findings →
        q.offset < Text.byteOffset t P.before.length) ↔ P.stackBehind.opens = [] := by
  simp only [mem_findings_unmatchedOpen hordered, P.byteOffset_place, h.ofWord_eq, List.mem_append]
  constructor
  · intro hall
    refine List.eq_nil_iff_forall_not_mem.2 fun q hq => ?_
    have hbehind := (offset_of_mem_bracesFrom (Stack.opening_mem_of_mem_opens hq)).1
    have := hall q (.inl hq)
    rw [Position.offset_after] at hbehind
    simp only [DelimiterEvent.pos] at hbehind
    omega
  · rintro hnil q (hq | hq)
    · rw [hnil] at hq
      cases hq
    · have hbefore := (offset_of_mem_bracesFrom
        (Stack.opening_mem_of_mem_opens (List.mem_of_mem_drop hq))).2
      rwa [← Position.offset_after] at hbefore

/-- No brace is stray before the change. -/
theorem InCode.stray_iff (h : P.InCode)
    (hordered : ∀ p q, .misordered .brace p q ∉ (scan t).findings) :
    (∀ q, .unmatchedClose .brace q ∈ (scan t).findings →
        Text.byteOffset t P.before.length ≤ q.offset) ↔ P.stackBefore.strays = [] := by
  simp only [mem_findings_unmatchedClose hordered, P.byteOffset_place, h.ofWord_eq, List.mem_append]
  constructor
  · intro hall
    refine List.eq_nil_iff_forall_not_mem.2 fun q hq => ?_
    have hbefore := (offset_of_mem_bracesFrom (Stack.closing_mem_of_mem_strays hq)).2
    have := hall q (.inr hq)
    rw [← Position.offset_after] at hbefore
    exact absurd hbefore (by simpa [place, DelimiterEvent.pos] using this)
  · rintro hnil q (hq | hq)
    · rcases List.mem_append.1 (List.mem_of_mem_take hq) with hq | hq
      · have hbehind := (offset_of_mem_bracesFrom (Stack.closing_mem_of_mem_strays hq)).1
        rw [Position.offset_after] at hbehind
        exact (Nat.le_add_right _ _).trans hbehind
      · exact (offset_of_mem_bracesFrom (Stack.closing_mem_of_mem_strays hq)).1
    · rw [hnil] at hq
      cases hq

/-! ## The rest of the document -/

/-- The scan of the rest of the document meets the same after the change. -/
theorem InCode.alike (h : P.InCode) :
    Alike (run {} (Lexeme.lexemes t)) (run {} (Lexeme.lexemes u)) := by
  have hold := (run_filler P.old_filler P.stateBefore P.place).1
  have hnew := (run_filler P.new_filler P.stateBefore P.place).1
  rw [h.run_eq, h.symm.run_eq]
  exact (hold.symm.trans hnew).run (Lexeme.map_token_lexemesFrom _ _ _)

/-- Before the end of the document, the change is no trailing content. -/
theorem InCode.trailingContent_eq (h : P.InCode)
    (hend : P.stateBefore.documentEnd.isSome = false) :
    (scan u).trailingContent.isSome = (scan t).trailingContent.isSome := by
  obtain ⟨hold, hold'⟩ := run_filler P.old_filler P.stateBefore P.place
  obtain ⟨hnew, hnew'⟩ := run_filler P.new_filler P.stateBefore P.place
  change (run {} (Lexeme.lexemes u)).trailingContent.isSome =
    (run {} (Lexeme.lexemes t)).trailingContent.isSome
  rw [h.run_eq, h.symm.run_eq]
  refine (hnew.symm.trans hold).trailingContent_run ?_ (Lexeme.map_token_lexemesFrom _ _ _)
  rw [Bool.eq_iff_iff]
  refine hnew'.trans (Iff.trans ?_ hold'.symm)
  simp [hend]

/-- Behind the end of the document, a closing brace is trailing content. -/
theorem InCode.trailingContent_of_mem (h : P.InCode)
    (hend : P.stateBefore.documentEnd.isSome = true) (hmem : '}' ∈ P.old) :
    (scan t).trailingContent.isSome = true := by
  change (run {} (Lexeme.lexemes t)).trailingContent.isSome = true
  rw [h.run_eq]
  exact (isSome_run _).2 ((run_filler P.old_filler _ _).2.2 (.inr ⟨hend, hmem⟩))

theorem InCode.documentEnd (h : P.InCode) (hend : P.stateBefore.documentEnd.isSome = true) :
    (scan t).documentEnd.isSome = true := by
  change (run {} (Lexeme.lexemes t)).documentEnd.isSome = true
  rw [h.run_eq]
  exact (isSome_run _).1 ((run_filler P.old_filler _ _).1.documentEnd ▸ hend)

/-- The change leaves the issue about trailing content alone exactly when there is some
before and after it, or the document has not ended. -/
theorem InCode.countP_trailingContent_iff (h : P.InCode) (hmem : '}' ∈ P.old ∨ '}' ∈ P.new)
    (lookup : Option FileLookup) :
    ((issuesOf lookup (scan u)).countP (·.kind = .trailingContent) =
        (issuesOf lookup (scan t)).countP (·.kind = .trailingContent)) ↔
      (P.stateBefore.documentEnd.isSome = true →
        (scan t).trailingContent.isSome = true ∧ (scan u).trailingContent.isSome = true) := by
  rw [countP_trailingContent, countP_trailingContent]
  cases hend : P.stateBefore.documentEnd.isSome with
  | false =>
    have hstop : (scan u).documentEnd.isSome = (scan t).documentEnd.isSome :=
      h.alike.symm.documentEnd
    rw [h.trailingContent_eq hend, hstop]
    simp
  | true =>
    rw [h.documentEnd hend, h.symm.documentEnd hend]
    have hsome : (scan t).trailingContent.isSome = true ∨ (scan u).trailingContent.isSome = true :=
      hmem.imp (h.trailingContent_of_mem hend) (h.symm.trailingContent_of_mem hend)
    generalize (scan t).trailingContent.isSome = a at hsome
    generalize (scan u).trailingContent.isSome = b at hsome
    revert hsome
    cases a <;> cases b <;> simp

/-- A change in code leaves the issues alone that are neither about braces nor about trailing
content. -/
theorem InCode.countP_issues (h : P.InCode) {k : IssueKind} (hk : k.isBraces = false)
    (hne : k ≠ .trailingContent) (lookup : Option FileLookup) :
    (validate lookup u).issues.countP (·.kind = k) =
      (validate lookup t).issues.countP (·.kind = k) := by
  have hcount : ∀ t, (validate lookup t).issues.countP (·.kind = k) =
      (issuesOf lookup (scan t)).countP (·.kind = k) := fun t =>
    (issues_validate_perm lookup t).countP_eq _
  rw [hcount, hcount]
  exact (h.alike.countP_issuesOf (delimiter?_of_mem_findings_run (by simp))
    (delimiter?_of_mem_findings_run (by simp)) hk hne lookup).symm

/-- A change in code of the right number of closing braces balances the braces and harms
nothing else exactly when its place is right. -/
theorem balances_iff (P : BracePatch t u) (h : P.InCode)
    (hordered : (validate none t).hasKind (.misordered .brace) = false)
    (hdelta : (validate none t).braceDelta = P.new.count '}' - P.old.count '}')
    (hne : (validate none t).braceDelta ≠ 0) (lookup : Option FileLookup) :
    Balances lookup t u ↔ Mendable t u P.before.length := by
  have hfindings : ∀ p q, .misordered .brace p q ∉ (scan t).findings := fun p q hmem => by
    rw [Validation.hasKind, List.any_eq_false] at hordered
    exact hordered _ (ofFinding_mem_issues none hmem) (by simp [Issue.ofFinding])
  have hmem : '}' ∈ P.old ∨ '}' ∈ P.new := by
    rw [← List.count_pos_iff, ← List.count_pos_iff]
    omega
  have hcount : ∀ t k, (validate lookup t).issues.countP (·.kind = k) =
      (issuesOf lookup (scan t)).countP (·.kind = k) := fun t k =>
    (issues_validate_perm lookup t).countP_eq _
  have hbalanced := (forall_isBraces_eq_false_iff lookup u).trans (h.balanced_iff hdelta)
  have hunclosed := h.unclosed_iff hfindings
  have hstray := h.stray_iff hfindings
  have htrailing := h.countP_trailingContent_iff hmem lookup
  rw [stateBefore, ← P.take_before] at htrailing
  constructor
  · rintro ⟨hb, hu⟩
    obtain ⟨hopens, hstrays⟩ := hbalanced.1 hb
    refine ⟨hunclosed.2 hopens, hstray.2 hstrays, htrailing.1 ?_⟩
    rw [← hcount, ← hcount]
    exact hu .trailingContent rfl
  · rintro ⟨hopens, hstrays, htrail⟩
    refine ⟨hbalanced.2 ⟨hunclosed.1 hopens, hstray.1 hstrays⟩, fun k hk => ?_⟩
    obtain rfl | hk' := eq_or_ne k .trailingContent
    · rw [hcount, hcount]
      exact htrailing.2 htrail
    · exact h.countP_issues hk hk' lookup

end BracePatch

end LatexRepair
