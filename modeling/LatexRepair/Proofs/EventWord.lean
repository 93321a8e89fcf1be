import LatexRepair.Finding
import Mathlib.Data.List.Induction
import Mathlib.Data.List.Nodup

/-!
# Words of openers and closers

The openers and closers of one delimiter class, in reading order, are a word of
`DelimiterEvent`s. A word is `Balanced` when it is a sequence of groups, each an opener and
a closer around a balanced word.

`Leaves w cs os` says that a reading of `w` leaves the closers `cs` without an opener and
the openers `os` without a closer : `w` is a sequence of balanced words, each but the last
followed by one of these, and no opener of `os` stands before a closer of `cs`.
`leaves_ofWord` : that is what the stack of a class holds after the word. The facts about
what is left at the end of a document are read off it :

* what is left keeps its order in the word, closers first (`Leaves.sublist`);
* what is taken away leaves a balanced word (`Leaves.balanced_filter`);
* nothing is left exactly when the word is balanced (`balanced_iff_ofWord_eq`);
* the numbers left differ by as much as those of the word (`Leaves.count`).

What a word in two parts leaves follows from what the parts leave
(`Delimiter.Stack.ofWord_append`).
-/

namespace LatexRepair

/-- An opener or a closer of one delimiter class, with its place. -/
inductive DelimiterEvent where
  | opening (pos : Position)
  | closing (pos : Position)
deriving DecidableEq

namespace DelimiterEvent

/-- The place of an event. -/
def pos : DelimiterEvent → Position
  | opening p | closing p => p

/-- The event is an opener. -/
def isOpening : DelimiterEvent → Bool
  | opening _ => true
  | closing _ => false

/-- The event is a closer. -/
def isClosing : DelimiterEvent → Bool
  | opening _ => false
  | closing _ => true

end DelimiterEvent

open DelimiterEvent

/-! ## Balanced words -/

/-- A word is balanced when it is empty, or a balanced word followed by one group. -/
inductive Balanced : List DelimiterEvent → Prop where
  | nil : Balanced []
  | group {u v : List DelimiterEvent} (p q : Position) (hu : Balanced u) (hv : Balanced v) :
      Balanced (u ++ opening p :: (v ++ [closing q]))

theorem Balanced.append {u v : List DelimiterEvent} (hu : Balanced u) (hv : Balanced v) :
    Balanced (u ++ v) := by
  induction hv with
  | nil => simpa using hu
  | @group v w p q _ hw ih _ =>
    rw [← List.append_assoc]
    exact .group p q ih hw

theorem Balanced.count {w : List DelimiterEvent} (h : Balanced w) :
    w.countP isOpening = w.countP isClosing := by
  induction h with
  | nil => rfl
  | group p q _ _ hu hv =>
    simp [List.countP_cons, isOpening, isClosing]
    omega

/-! ## The stack of a word -/

namespace Delimiter.Stack

/-- Take in an event. -/
def feed (s : Stack) : DelimiterEvent → Stack
  | opening p => s.push p
  | closing p => s.pop p

/-- The stack after a word. -/
def ofWord (w : List DelimiterEvent) : Stack :=
  w.foldl feed {}

theorem ofWord_append_singleton (w : List DelimiterEvent) (e : DelimiterEvent) :
    ofWord (w ++ [e]) = (ofWord w).feed e := by
  simp [ofWord]

end Delimiter.Stack

/-- A balanced word gives the stack back as it was. -/
theorem Balanced.foldl_feed {w : List DelimiterEvent} (h : Balanced w)
    (s : Delimiter.Stack) : w.foldl Delimiter.Stack.feed s = s := by
  induction h generalizing s with
  | nil => rfl
  | group p q _ _ hu hv =>
    rw [List.foldl_append, hu, List.foldl_cons, List.foldl_append, hv]
    rfl

/-! ## What a word leaves -/

/-- The word `w` leaves the closers `cs`, latest first, and the openers `os`, innermost
first. -/
inductive Leaves : List DelimiterEvent → List Position → List Position → Prop where
  | balanced {w : List DelimiterEvent} (hw : Balanced w) : Leaves w [] []
  | stray {w v : List DelimiterEvent} {cs : List Position} (p : Position)
      (hw : Leaves w cs []) (hv : Balanced v) : Leaves (w ++ closing p :: v) (p :: cs) []
  | waiting {w v : List DelimiterEvent} {cs os : List Position} (p : Position)
      (hw : Leaves w cs os) (hv : Balanced v) : Leaves (w ++ opening p :: v) cs (p :: os)

/-- The events that a word leaves, in reading order. -/
def leftover (cs os : List Position) : List DelimiterEvent :=
  cs.reverse.map closing ++ os.reverse.map opening

theorem leftover_stray (cs : List Position) (p : Position) :
    leftover (p :: cs) [] = leftover cs [] ++ [closing p] := by
  simp [leftover]

theorem leftover_waiting (cs os : List Position) (p : Position) :
    leftover cs (p :: os) = leftover cs os ++ [opening p] := by
  simp [leftover]

/-- Taking one event and all of `L` out of a word, where the event is followed by a
balanced word and all of `L` stands before it. -/
theorem balanced_filter_append {w v L : List DelimiterEvent} {e : DelimiterEvent}
    {P : DelimiterEvent → Bool} (hL : L ⊆ w) (hv : Balanced v) (hn : (w ++ e :: v).Nodup)
    (hP : ∀ x ∈ w ++ e :: v, P x = true ↔ x ∉ L ++ [e])
    (hw : w.Nodup → (∀ x ∈ w, P x = true ↔ x ∉ L) → Balanced (w.filter P)) :
    Balanced ((w ++ e :: v).filter P) := by
  rw [List.nodup_append, List.nodup_cons] at hn
  obtain ⟨hnw, ⟨hev, -⟩, hdisj⟩ := hn
  have he : P e = false := by
    rw [← Bool.not_eq_true, hP e (by simp)]
    simp
  have hkeep : v.filter P = v := List.filter_eq_self.2 fun x hx => by
    rw [hP x (by simp [hx]), List.mem_append, List.mem_singleton, not_or]
    refine ⟨fun hxL => hdisj x (hL hxL) x (by simp [hx]) rfl, ?_⟩
    rintro rfl
    exact hev hx
  rw [List.filter_append, List.filter_cons, he, hkeep]
  refine (hw hnw fun x hx => ?_).append hv
  have hne : x ≠ e := hdisj x hx e (List.mem_cons_self ..)
  rw [hP x (by simp [hx]), List.mem_append, List.mem_singleton]
  simp [hne]

namespace Leaves

variable {w v : List DelimiterEvent} {cs os : List Position}

theorem append_balanced (h : Leaves w cs os) (hv : Balanced v) : Leaves (w ++ v) cs os := by
  cases h with
  | balanced hw => exact .balanced (hw.append hv)
  | stray p hw hu => simpa using stray p hw (hu.append hv)
  | waiting p hw hu => simpa using waiting p hw (hu.append hv)

theorem opening (h : Leaves w cs os) (p : Position) :
    Leaves (w ++ [.opening p]) cs (p :: os) :=
  waiting p h .nil

/-- A closer takes the innermost opener. -/
theorem closing {o : Position} (h : Leaves w cs (o :: os)) (p : Position) :
    Leaves (w ++ [.closing p]) cs os := by
  cases h with
  | waiting o hw hv => simpa using hw.append_balanced (.group o p .nil hv)

theorem leaves_feed {s : Delimiter.Stack} (h : Leaves w s.strays s.opens)
    (e : DelimiterEvent) : Leaves (w ++ [e]) (s.feed e).strays (s.feed e).opens := by
  obtain ⟨opens, strays⟩ := s
  cases e with
  | opening p => exact h.opening p
  | closing p =>
    cases opens with
    | nil => exact stray p h .nil
    | cons o opens => exact h.closing p

/-- The stack of a class holds what the word of its events leaves. -/
theorem leaves_ofWord (w : List DelimiterEvent) :
    Leaves w (Delimiter.Stack.ofWord w).strays (Delimiter.Stack.ofWord w).opens := by
  induction w using List.reverseRecOn with
  | nil => exact .balanced .nil
  | append_singleton w e ih =>
    rw [Delimiter.Stack.ofWord_append_singleton]
    exact leaves_feed ih e

theorem sublist (h : Leaves w cs os) : (leftover cs os).Sublist w := by
  induction h with
  | balanced hw => exact List.nil_sublist _
  | stray p _ _ ih =>
    rw [leftover_stray]
    exact ih.append ((List.nil_sublist _).cons_cons _)
  | waiting p _ _ ih =>
    rw [leftover_waiting]
    exact ih.append ((List.nil_sublist _).cons_cons _)

theorem count (h : Leaves w cs os) :
    w.countP isOpening + cs.length = w.countP isClosing + os.length := by
  induction h with
  | balanced hw => simpa using hw.count
  | stray p _ hv ih =>
    have := hv.count
    simp [List.countP_cons, isOpening, isClosing] at ih ⊢
    omega
  | waiting p _ hv ih =>
    have := hv.count
    simp [List.countP_cons, isOpening, isClosing] at ih ⊢
    omega

/-- What a word leaves, taken out of the word, leaves a balanced word. -/
theorem balanced_filter (h : Leaves w cs os) (hn : w.Nodup) {P : DelimiterEvent → Bool}
    (hP : ∀ e ∈ w, P e = true ↔ e ∉ leftover cs os) : Balanced (w.filter P) := by
  induction h with
  | balanced hw =>
    rw [List.filter_eq_self.2 fun e he => (hP e he).2 (by simp [leftover])]
    exact hw
  | stray p hw hv ih =>
    rw [leftover_stray] at hP
    exact balanced_filter_append hw.sublist.subset hv hn hP ih
  | waiting p hw hv ih =>
    rw [leftover_waiting] at hP
    exact balanced_filter_append hw.sublist.subset hv hn hP ih

end Leaves

/-- A word is balanced exactly when its stack is empty and no closer was stray. -/
theorem balanced_iff_ofWord_eq {w : List DelimiterEvent} :
    Balanced w ↔ Delimiter.Stack.ofWord w = {} := by
  refine ⟨fun h => h.foldl_feed _, fun h => ?_⟩
  have hw := Leaves.leaves_ofWord w
  rw [h] at hw
  cases hw with
  | balanced hw => exact hw

/-! ## Words in parts -/

namespace Delimiter.Stack

/-- The two stacks hold as many delimiters. -/
structure SameSize (s s' : Stack) : Prop where
  opens : s.opens.length = s'.opens.length
  strays : s.strays.length = s'.strays.length

namespace SameSize

variable {s s' : Stack}

theorem isOpen (h : SameSize s s') : s.isOpen = s'.isOpen := by
  rw [Stack.isOpen, Stack.isOpen, Bool.eq_iff_iff]
  simp [← List.length_eq_zero_iff, h.opens]

theorem push (h : SameSize s s') (p q : Position) : SameSize (s.push p) (s'.push q) :=
  ⟨congrArg (· + 1) h.opens, h.strays⟩

theorem pop (h : SameSize s s') (p q : Position) : SameSize (s.pop p) (s'.pop q) := by
  obtain ⟨opens, strays⟩ := s
  obtain ⟨opens', strays'⟩ := s'
  obtain ⟨ho, hs⟩ := h
  cases opens with
  | nil =>
    obtain rfl : opens' = [] := List.eq_nil_of_length_eq_zero ho.symm
    exact ⟨rfl, congrArg (· + 1) hs⟩
  | cons o opens =>
    obtain ⟨o', opens', rfl⟩ := List.exists_cons_of_length_eq_add_one ho.symm
    exact ⟨Nat.succ.inj ho, hs⟩

theorem feed (h : SameSize s s') {e e' : DelimiterEvent} (he : e.isOpening = e'.isOpening) :
    SameSize (s.feed e) (s'.feed e') := by
  cases e <;> cases e' <;> first | exact h.push _ _ | exact h.pop _ _ | cases he

end SameSize

/-- What a word leaves in number depends on its openers and closers, not on their places. -/
theorem sameSize_ofWord {w v : List DelimiterEvent} (h : w.map isOpening = v.map isOpening) :
    SameSize (ofWord w) (ofWord v) := by
  have hfold : ∀ s s', SameSize s s' → SameSize (w.foldl Stack.feed s) (v.foldl Stack.feed s') := by
    induction w generalizing v with
    | nil =>
      obtain rfl : v = [] := List.map_eq_nil_iff.1 h.symm
      exact fun _ _ hs => hs
    | cons e w ih =>
      obtain ⟨e', v, rfl, he, hv⟩ := List.map_eq_cons_iff.1 h.symm
      exact fun s s' hs => ih hv.symm _ _ (hs.feed he.symm)
  exact hfold {} {} ⟨rfl, rfl⟩

/-- What two words leave one after the other : closers of the second take openers of the
first. -/
theorem ofWord_append (w v : List DelimiterEvent) :
    ofWord (w ++ v) =
      ⟨(ofWord v).opens ++ (ofWord w).opens.drop (ofWord v).strays.length,
        (ofWord v).strays.take ((ofWord v).strays.length - (ofWord w).opens.length) ++
          (ofWord w).strays⟩ := by
  induction v using List.reverseRecOn with
  | nil => simp [ofWord]
  | append_singleton v e ih =>
    rw [← List.append_assoc, ofWord_append_singleton, ofWord_append_singleton, ih]
    obtain ⟨opens, strays⟩ := ofWord w
    obtain ⟨opens', strays'⟩ := ofWord v
    cases e with
    | opening p => rfl
    | closing p =>
      cases opens' with
      | cons o opens' => rfl
      | nil =>
        rcases Nat.lt_or_ge strays'.length opens.length with hlt | hge
        · -- an opener of the first word waits for the closer
          have hnone : strays'.length - opens.length = 0 := by omega
          have hnone' : strays'.length + 1 - opens.length = 0 := by omega
          simp only [feed, pop, List.nil_append, List.length_cons, hnone, hnone', List.take_zero,
            List.drop_eq_getElem_cons hlt]
        · -- the first word has no opener left
          have hdrop : opens.drop strays'.length = [] := List.drop_eq_nil_of_le hge
          have hdrop' : opens.drop (strays'.length + 1) = [] :=
            List.drop_eq_nil_of_le (by omega)
          have hone : strays'.length + 1 - opens.length = strays'.length - opens.length + 1 := by
            omega
          simp [feed, pop, hdrop, hdrop', hone]

variable {w : List DelimiterEvent} {p : Position}

theorem opening_mem_of_mem_opens (h : p ∈ (ofWord w).opens) : opening p ∈ w :=
  (Leaves.leaves_ofWord w).sublist.subset (by simp [leftover, h])

theorem closing_mem_of_mem_strays (h : p ∈ (ofWord w).strays) : closing p ∈ w :=
  (Leaves.leaves_ofWord w).sublist.subset (by simp [leftover, h])

theorem nodup_opens_ofWord (hw : w.Nodup) : (ofWord w).opens.Nodup := by
  have hleft := (Leaves.leaves_ofWord w).sublist.nodup hw
  rw [leftover, List.nodup_append] at hleft
  exact List.nodup_reverse.1 (hleft.2.1.of_map _)

end Delimiter.Stack

end LatexRepair
