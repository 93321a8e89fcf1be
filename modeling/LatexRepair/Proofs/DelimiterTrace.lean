import LatexRepair.Proofs.EventWord
import LatexRepair.Proofs.Reading
import LatexRepair.Proofs.ScanSteps

/-!
# The openers and closers of a document

A step of a scan feeds its delimiter stacks with openers and closers : at most one for each
lexeme, except that a run of dollar signs gives one for each sign or pair of signs. Which
ones they are depends on what is open (`ScanState.emits`), since square brackets do not
count in math and a dollar sign closes what is open.

`delimiterEvents d t` is the word of the class `d` over a whole document. The stacks hold
what these words leave and nothing else (`get_delimiters_run_lexemes`), and the events of
a document stand in it from left to right, no two at one place (`pairwise_delimiterEvents`).
-/

namespace LatexRepair

/-- Feed the stack of the class of an event. -/
def DelimiterStacks.feed (s : DelimiterStacks) (e : Delimiter × DelimiterEvent) :
    DelimiterStacks :=
  s.modify e.1 (·.feed e.2)

/-- The events of one class. -/
def eventsOf (d : Delimiter) (es : List (Delimiter × DelimiterEvent)) : List DelimiterEvent :=
  (es.filter fun e => e.1 = d).map (·.2)

/-- The classes do not mix. -/
theorem DelimiterStacks.get_foldl_feed (es : List (Delimiter × DelimiterEvent))
    (s : DelimiterStacks) (d : Delimiter) :
    (es.foldl feed s).get d = (eventsOf d es).foldl Delimiter.Stack.feed (s.get d) := by
  induction es generalizing s with
  | nil => rfl
  | cons e es ih =>
    rw [List.foldl_cons, ih, feed]
    by_cases h : e.1 = d
    · simp [eventsOf, h]
    · rw [get_modify_of_ne s (Ne.symm h)]
      simp [eventsOf, h]

namespace ScanState

/-! ## The events of one step -/

/-- A delimiter that closes the class `d` where it is open and opens it elsewhere. -/
def toggleEvent (s : ScanState) (d : Delimiter) (p : Position) : Delimiter × DelimiterEvent :=
  (d, if (s.delimiters.get d).isOpen then .closing p else .opening p)

/-- The events of a run of `n` dollar signs that starts at `p`. -/
def dollarEvents (s : ScanState) (p : Position) : Nat → List (Delimiter × DelimiterEvent)
  | 0 => []
  | 1 => [s.toggleEvent .inlineMath p]
  | n + 2 =>
    if s.delimiters.inlineMath.isOpen then
      (.inlineMath, .closing p) ::
        (s.closeDelimiter .inlineMath p).dollarEvents (p.next '$') (n + 1)
    else
      s.toggleEvent .displayMath p ::
        (s.toggleDelimiter .displayMath p).dollarEvents ((p.next '$').next '$') n

/-- The events of a lexeme. -/
def emits (s : ScanState) (x : Lexeme) : List (Delimiter × DelimiterEvent) :=
  match x.token with
  | .openBrace => [(.brace, .opening x.start)]
  | .closeBrace => [(.brace, .closing x.start)]
  | .openBracket => if s.inMath then [] else [(.bracket, .opening x.start)]
  | .closeBracket => if s.inMath then [] else [(.bracket, .closing x.start)]
  | .controlSymbol '(' => [(.parenMath, .opening x.start)]
  | .controlSymbol ')' => [(.parenMath, .closing x.start)]
  | .controlSymbol '[' => [(.bracketMath, .opening x.start)]
  | .controlSymbol ']' => [(.bracketMath, .closing x.start)]
  | .dollars n => s.dollarEvents x.start n
  | _ => []

theorem delimiters_toggleDelimiter (s : ScanState) (d : Delimiter) (p : Position) :
    (s.toggleDelimiter d p).delimiters = s.delimiters.feed (s.toggleEvent d p) := by
  unfold toggleDelimiter toggleEvent
  split <;> rfl

theorem delimiters_dollars (s : ScanState) (p : Position) (n : Nat) :
    (s.dollars p n).delimiters = (s.dollarEvents p n).foldl .feed s.delimiters := by
  induction s, p, n using dollarEvents.induct with
  | case1 s p => rfl
  | case2 s p => exact s.delimiters_toggleDelimiter .inlineMath p
  | case3 s p n h ih =>
    rw [dollars, dollarEvents, if_pos h, if_pos h, ih]
    rfl
  | case4 s p n h ih =>
    rw [dollars, dollarEvents, if_neg h, if_neg h, ih, List.foldl_cons,
      delimiters_toggleDelimiter]

/-- A lexeme changes the stacks by its events. -/
theorem delimiters_act (s : ScanState) (x : Lexeme) :
    (s.act x).delimiters = (s.emits x).foldl .feed s.delimiters := by
  obtain ⟨token, start, stop⟩ := x
  unfold act emits
  cases token with
  | dollars n => exact s.delimiters_dollars start n
  | openBracket | closeBracket => dsimp only; split <;> rfl
  | controlSymbol c =>
    induction c using Token.mathSymbol_cases with
    | other c h₁ h₂ h₃ h₄ => simp [h₁, h₂, h₃, h₄]
    | _ => rfl
  | verbatim name closed => cases closed <;> rfl
  | _ => rfl

/-! ## The events of a run -/

/-- The events of a sequence of lexemes. -/
def trace (s : ScanState) : List Lexeme → List (Delimiter × DelimiterEvent)
  | [] => []
  | x :: xs => (s.noteTrailing x).emits x ++ (s.step x).trace xs

theorem delimiters_noteTrailing (s : ScanState) (x : Lexeme) :
    (s.noteTrailing x).delimiters = s.delimiters := by
  unfold noteTrailing
  split <;> rfl

theorem delimiters_step (s : ScanState) (x : Lexeme) :
    (s.step x).delimiters = ((s.noteTrailing x).emits x).foldl .feed s.delimiters := by
  rw [step, delimiters_act, delimiters_noteTrailing]

theorem delimiters_run (s : ScanState) (xs : List Lexeme) :
    (s.run xs).delimiters = (s.trace xs).foldl .feed s.delimiters := by
  induction xs generalizing s with
  | nil => rfl
  | cons x xs ih =>
    rw [trace, List.foldl_append, ← delimiters_step]
    exact ih (s.step x)

end ScanState

/-- The openers and closers of the class `d` in a document, in reading order. -/
def delimiterEvents (d : Delimiter) (t : Text) : List DelimiterEvent :=
  eventsOf d (ScanState.trace {} (Lexeme.lexemes t))

/-- The stack of a class holds what the events of the class leave. -/
theorem get_delimiters_run_lexemes (d : Delimiter) (t : Text) :
    (ScanState.run {} (Lexeme.lexemes t)).delimiters.get d =
      Delimiter.Stack.ofWord (delimiterEvents d t) := by
  rw [ScanState.delimiters_run, DelimiterStacks.get_foldl_feed]
  cases d <;> rfl

/-! ## The places of the events -/

/-- The events stand at increasing offsets from `lo` on and before `hi`. -/
def EventsWithin (lo hi : Nat) (es : List (Delimiter × DelimiterEvent)) : Prop :=
  (∀ e ∈ es, lo ≤ e.2.pos.offset ∧ e.2.pos.offset < hi) ∧
    es.Pairwise fun e f => e.2.pos.offset < f.2.pos.offset

namespace EventsWithin

variable {lo mid hi : Nat} {es fs : List (Delimiter × DelimiterEvent)}

theorem nil : EventsWithin lo hi [] :=
  ⟨by simp, .nil⟩

theorem singleton {e : Delimiter × DelimiterEvent} (h : lo ≤ e.2.pos.offset)
    (h' : e.2.pos.offset < hi) : EventsWithin lo hi [e] :=
  ⟨by simpa using ⟨h, h'⟩, List.pairwise_singleton _ _⟩

theorem mono (h : EventsWithin lo mid es) (hle : mid ≤ hi) : EventsWithin lo hi es :=
  ⟨fun e he => ⟨(h.1 e he).1, (h.1 e he).2.trans_le hle⟩, h.2⟩

theorem append (he : EventsWithin lo mid es) (hf : EventsWithin mid hi fs) (h : lo ≤ mid)
    (h' : mid ≤ hi) : EventsWithin lo hi (es ++ fs) := by
  refine ⟨fun e hmem => ?_, List.pairwise_append.2 ⟨he.2, hf.2, fun e hmem f hmem' => ?_⟩⟩
  · rcases List.mem_append.1 hmem with hmem | hmem
    · have := he.1 e hmem
      omega
    · have := hf.1 e hmem
      omega
  · have := he.1 e hmem
    have := hf.1 f hmem'
    omega

end EventsWithin

namespace ScanState

theorem pos_toggleEvent (s : ScanState) (d : Delimiter) (p : Position) :
    (s.toggleEvent d p).2.pos = p := by
  unfold toggleEvent
  split <;> rfl

theorem eventsWithin_dollarEvents (s : ScanState) (p : Position) (n : Nat) :
    EventsWithin p.offset (p.offset + n) (s.dollarEvents p n) := by
  have hsize : ('$' : Char).utf8Size = 1 := by decide
  induction s, p, n using dollarEvents.induct with
  | case1 s p => exact .nil
  | case2 s p =>
    refine .singleton ?_ ?_ <;> rw [pos_toggleEvent]
    omega
  | case3 s p n h ih =>
    rw [dollarEvents, if_pos h]
    rw [Position.offset_next, hsize] at ih
    have hfirst : EventsWithin p.offset (p.offset + 1)
        [(Delimiter.inlineMath, DelimiterEvent.closing p)] :=
      .singleton (Nat.le_refl _) (Nat.lt_succ_self _)
    exact (hfirst.append ih (by omega) (by omega)).mono (by omega)
  | case4 s p n h ih =>
    rw [dollarEvents, if_neg h]
    rw [Position.offset_next, Position.offset_next, hsize] at ih
    have hfirst : EventsWithin p.offset (p.offset + 1 + 1) [s.toggleEvent .displayMath p] := by
      refine .singleton ?_ ?_ <;> rw [pos_toggleEvent]
      omega
    exact (hfirst.append ih (by omega) (by omega)).mono (by omega)

/-- Only a run of dollar signs has more than one event. -/
theorem eventsWithin_emits (s : ScanState) (x : Lexeme) {hi : Nat} (h : x.start.offset < hi)
    (hd : ∀ n, x.token = .dollars n → x.start.offset + n ≤ hi) :
    EventsWithin x.start.offset hi (s.emits x) := by
  have hone : ∀ d e, DelimiterEvent.pos e = x.start →
      EventsWithin x.start.offset hi [(d, e)] := fun d e he =>
    .singleton (by simp [he]) (by simpa [he] using h)
  obtain ⟨token, start, stop⟩ := x
  unfold emits
  cases token with
  | openBrace | closeBrace => exact hone _ _ rfl
  | openBracket | closeBracket =>
    dsimp only
    split
    · exact .nil
    · exact hone _ _ rfl
  | controlSymbol c =>
    induction c using Token.mathSymbol_cases with
    | other c h₁ h₂ h₃ h₄ => simp [h₁, h₂, h₃, h₄, EventsWithin.nil]
    | _ => exact hone _ _ rfl
  | dollars n => exact (s.eventsWithin_dollarEvents start n).mono (hd n rfl)
  | _ => exact .nil

end ScanState

namespace Lexeme

theorem verbatimToken_ne_dollars (name t : Text) (n : Nat) :
    (verbatimToken name t).1 ≠ .dollars n := by
  unfold verbatimToken
  split <;> simp

theorem controlWordToken_ne_dollars (name t : Text) (n : Nat) :
    (controlWordToken name t).1 ≠ .dollars n := by
  have hverb := fun env m => verbatimToken_ne_dollars env (t.drop m) n
  unfold controlWordToken
  dsimp only
  repeat' split
  all_goals first | exact hverb _ _ | simp

theorem controlToken_ne_dollars (t : Text) (n : Nat) : (controlToken t).1 ≠ .dollars n := by
  unfold controlToken
  split
  · simp
  · split
    · exact controlWordToken_ne_dollars _ _ n
    · simp

/-- A run of `n` dollar signs is `n` characters long. -/
theorem length_of_dollars {c : Char} {t : Text} {n : Nat} (h : (lexeme c t).1 = .dollars n) :
    n = (lexeme c t).2 + 1 := by
  unfold lexeme at h ⊢
  split at h <;> first | cases h; rfl | cases h | skip
  exact absurd h (controlToken_ne_dollars t n)

end Lexeme

namespace ScanState

theorem eventsWithin_trace (s : ScanState) (p : Position) (t : Text) :
    EventsWithin p.offset (p.offset + Text.byteLength t)
      (s.trace (Lexeme.lexemesFrom p t)) := by
  induction p, t using Lexeme.lexemesFrom.induct generalizing s with
  | case1 p =>
    rw [Lexeme.lexemesFrom]
    exact .nil
  | case2 p c t token n hlex stop ih =>
    have hn : n ≤ t.length := by
      have := Lexeme.lexeme_le c t
      rwa [hlex] at this
    have hsize := c.utf8Size_pos
    have htake : n ≤ Text.byteLength (t.take n) := by
      have := Text.length_le_byteLength (t.take n)
      rwa [List.length_take, Nat.min_eq_left hn] at this
    have hstop : stop.offset = p.offset + c.utf8Size + Text.byteLength (t.take n) := by
      rw [Position.offset_after, Position.offset_next]
    have hbytes : Text.byteLength (c :: t) =
        c.utf8Size + (Text.byteLength (t.take n) + Text.byteLength (t.drop n)) := by
      rw [← Text.byteLength_append, List.take_append_drop, Text.byteLength]
    have hlexeme : EventsWithin p.offset stop.offset
        ((s.noteTrailing ⟨token, p, stop⟩).emits ⟨token, p, stop⟩) := by
      refine eventsWithin_emits _ _ (by dsimp only; omega) fun k hk => ?_
      have := Lexeme.length_of_dollars (c := c) (t := t) (n := k) (by rw [hlex]; exact hk)
      rw [hlex] at this
      dsimp only at this ⊢
      omega
    rw [Lexeme.lexemesFrom_cons, hlex]
    exact (hlexeme.append (ih _) (by omega) (by omega)).mono (by omega)

end ScanState

/-- The events of a class stand in the document from left to right. -/
theorem pairwise_delimiterEvents (d : Delimiter) (t : Text) :
    (delimiterEvents d t).Pairwise fun e f => e.pos.offset < f.pos.offset := by
  have h := (ScanState.eventsWithin_trace {} .start t).2
  exact List.pairwise_map.2 (h.filter _)

end LatexRepair
