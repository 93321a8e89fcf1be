import LatexRepair.Proofs.BraceEdits
import Mathlib.Order.WellFounded
import Mathlib.Tactic.Ring

/-!
# Rules for a line come to an end

However often the rules are asked about a line, they apply a bounded number of times
(`LineRepair.rules_end`). `LineRepair.potential` falls with each application
(`LineRepair.potential_lt_of_rule?`) :

* beside a counterpart that is a comment the line gets shorter or becomes a comment, and no
  rule applies to a comment there;
* beside any other counterpart a terminator or a comment prefix that goes takes percent signs
  or backslashes with it, and no rule brings one back;
* a brace that counts leaves the line in balance with its counterpart, where no brace is put
  in or taken out any more;
* a brace behind an unescaped backslash does not count, but it takes the place of what that
  backslash escaped, and a backslash that escapes a closing brace never escapes another
  character again. `LineRepair.loose` counts the backslashes that may still be used up so.
-/

namespace LatexRepair

namespace LineRepair

variable {t g u v : Text} {e : Edit} {f : LineFix}

/-! ## Loose backslashes -/

/-- The number of unescaped backslashes that escape another character than a closing brace, or
nothing at all. -/
def loose (escaped : Bool) : Text → Nat
  | [] => if escaped then 1 else 0
  | c :: t => (if escaped && c ≠ '}' then 1 else 0) + loose (c = '\\' && !escaped) t

/-- A closing brace that is put behind an unescaped backslash makes it less loose. -/
theorem loose_insert_closer_lt (hu : escapes false u = true) (hnext : ∀ c ∈ v.head?, c ≠ '\\')
    (hbrace : ∀ c ∈ v.head?, braceValue c = 0) :
    loose false (u ++ '}' :: v) < loose false (u ++ v) := by
  have happend : ∀ (escaped : Bool) (s : Text),
      ∃ n, ∀ w, loose escaped (s ++ w) = n + loose (escapes escaped s) w := fun escaped s => by
    induction s generalizing escaped with
    | nil => exact ⟨0, fun w => (Nat.zero_add _).symm⟩
    | cons c s ih =>
      obtain ⟨n, hn⟩ := ih (c = '\\' && !escaped)
      refine ⟨(if escaped && c ≠ '}' then 1 else 0) + n, fun w => ?_⟩
      rw [List.cons_append, loose, hn, escapes, escapes, List.foldl_cons, Nat.add_assoc]
  obtain ⟨n, hn⟩ := happend false u
  rw [hn, hn, hu, Nat.add_lt_add_iff_left, loose]
  cases v with
  | nil => simp [loose]
  | cons c v =>
    have hc : c ≠ '}' := fun hc => by
      have := hbrace c rfl
      rw [hc] at this
      exact absurd this (by decide)
    simp [loose, hnext c rfl, hc]

theorem loose_le (escaped : Bool) (t : Text) :
    loose escaped t ≤ weight t + if escaped then 1 else 0 := by
  induction t generalizing escaped with
  | nil => simp [loose]
  | cons c t ih =>
    have hrest := ih (c = '\\' && !escaped)
    have hcons : weight (c :: t) = weight t + if c = '%' || c = '\\' then 1 else 0 :=
      List.countP_cons ..
    have hmono : ∀ {p q : Bool}, (p = true → q = true) →
        (if p then 1 else 0) ≤ if q then 1 else 0 := fun {p q} h => by
      cases p with
      | false => exact Nat.zero_le _
      | true => rw [h rfl]
    have hold : (if escaped && c ≠ '}' then 1 else 0) ≤ if escaped then 1 else 0 :=
      hmono fun h => (Bool.and_eq_true_iff.1 h).1
    have hnew : (if c = '\\' && !escaped then 1 else 0) ≤ if c = '%' || c = '\\' then 1 else 0 :=
      hmono fun h => Bool.or_eq_true_iff.2 (.inr (Bool.and_eq_true_iff.1 h).1)
    rw [loose, hcons]
    omega

theorem loose_codePart_le (t : Text) : loose false (codePart t) ≤ weight t := by
  have hcode := loose_le false (codePart t)
  have hweight : weight t = weight (codePart t) + weight (commentPart t) := by
    rw [← weight_append, codePart_append_comment]
  simp only [Bool.false_eq_true, ↓reduceIte] at hcode
  omega

/-! ## Potential -/

/-- How many braces may still be put into a line, or taken out of it, before a rule makes it
lighter. -/
def unrest (g t : Text) : Nat :=
  if lineBalance t = lineBalance g then 0 else loose false (codePart t) + 1

/-- How many rules may still be applied to a line. -/
def potential (g t : Text) : Nat :=
  if isCommentLine g then if isCommentLine t then 0 else t.length + 1
  else weight t * (weight t + 1) + unrest g t

theorem weight_le_length (t : Text) : weight t ≤ t.length :=
  List.countP_le_length

theorem unrest_le (g t : Text) : unrest g t ≤ weight t + 1 := by
  have := loose_codePart_le t
  unfold unrest
  split <;> omega

theorem potential_le (g t : Text) : potential g t ≤ (t.length + 1) ^ 2 := by
  have hunrest := unrest_le g t
  have hsquare : (weight t + 1) ^ 2 ≤ (t.length + 1) ^ 2 :=
    Nat.pow_le_pow_left (Nat.succ_le_succ (weight_le_length t)) 2
  have hlength : t.length + 1 ≤ (t.length + 1) ^ 2 := Nat.le_self_pow (by decide) _
  have hexpand : (weight t + 1) ^ 2 = weight t * (weight t + 1) + (weight t + 1) := by ring
  unfold potential
  split
  · split <;> omega
  · omega

theorem potential_of_not_isCommentLine (hg : isCommentLine g = false) (t : Text) :
    potential g t = weight t * (weight t + 1) + unrest g t := by
  rw [potential, if_neg (by simp [hg])]

/-- A lighter line has less potential, however many braces may be put into it. -/
theorem potential_lt_of_weight_lt (hg : isCommentLine g = false) (h : weight u < weight t) :
    potential g u < potential g t := by
  rw [potential_of_not_isCommentLine hg, potential_of_not_isCommentLine hg]
  calc weight u * (weight u + 1) + unrest g u
      ≤ weight u * (weight u + 1) + (weight u + 1) := Nat.add_le_add_left (unrest_le g u) _
    _ = (weight u + 1) * (weight u + 1) := (Nat.succ_mul ..).symm
    _ ≤ weight t * weight t := Nat.mul_le_mul h h
    _ < weight t * (weight t + 1) := Nat.mul_lt_mul_of_pos_left (Nat.lt_succ_self _) (by omega)
    _ ≤ weight t * (weight t + 1) + unrest g t := Nat.le_add_right ..

/-- A brace leaves the line in balance, or takes the place of what a backslash escaped. -/
theorem unrest_lt_of_rebalance? (h : rebalance? t g = some (e, f)) :
    weight (e.apply t) = weight t ∧ unrest g (e.apply t) < unrest g t := by
  obtain ⟨-, ⟨hexcess, closer, i, hcloser, hclose, hplace, rfl, -⟩ |
    ⟨hlack, x, hx, hclose, rfl, -⟩⟩ := exists_of_rebalance? h
  · refine ⟨weight_insert i, ?_⟩
    obtain ⟨u, v, r, rfl, hcode, -, hedit, hinsert, hnext⟩ :=
      exists_around_place hcloser hclose (commonLength_le ..) hplace
    have hline := lineBalance_insert hcode hinsert hnext
    rw [hedit, unrest, unrest, if_neg (show ¬lineBalance (u ++ (v ++ r)) = _ by omega), hinsert,
      hcode]
    cases hu : escapes false u with
    | false =>
      rw [hu, if_neg Bool.false_ne_true] at hline
      rw [if_pos (by omega)]
      exact Nat.succ_pos _
    | true =>
      have hlt := loose_insert_closer_lt hu (fun c hc => (hnext hu c hc).1)
        fun c hc => (hnext hu c hc).2
      split <;> omega
  · have hx := List.mem_of_getElem? hx
    have hline := lineBalance_delete hx hclose
    refine ⟨weight_delete_closer hx hclose, ?_⟩
    rw [unrest, unrest, if_pos (by omega), if_neg (by omega)]
    exact Nat.succ_pos _

/-- Each rule lowers the potential of the line that it is applied to. -/
theorem potential_lt_of_rule? (h : rule? t g = some (e, f)) :
    potential g (e.apply t) < potential g t := by
  cases hg : isCommentLine g with
  | true =>
    have hprogress := progresses_of_isCommentLine hg h
    rw [Progresses, if_pos hg] at hprogress
    obtain ⟨ht, hu⟩ := hprogress
    have hbefore : potential g t = t.length + 1 := by
      rw [potential, if_pos hg, if_neg (by simp [ht])]
    rw [hbefore, potential, if_pos hg]
    rcases hu with hu | hlt
    · rw [if_pos hu]
      exact Nat.succ_pos _
    · split <;> omega
  | false =>
    rcases of_rule? h with h | h | h | h | h
    · exact potential_lt_of_weight_lt hg (weight_lt_of_removeTerminator? h)
    · exact potential_lt_of_weight_lt hg (weight_lt_of_uncommentMarker? h)
    · exact potential_lt_of_weight_lt hg (weight_lt_of_uncommentCommand? h)
    · obtain ⟨hcomment, -⟩ := of_restoreComment? h
      rw [hg] at hcomment
      cases hcomment
    · obtain ⟨hweight, hunrest⟩ := unrest_lt_of_rebalance? h
      rw [potential_of_not_isCommentLine hg, potential_of_not_isCommentLine hg, hweight]
      exact Nat.add_lt_add_left hunrest _

/-! ## Runs -/

/-- A rule that applies to a line changes it. -/
theorem step?_of_rule? (h : rule? t g = some (e, f)) : step? t g = some (e.apply t, f) := by
  have hne : e.apply t ≠ t := fun heq => by
    have hlt := potential_lt_of_rule? h
    rw [heq] at hlt
    exact Nat.lt_irrefl _ hlt
  rw [step?, h]
  exact if_neg hne

/-- One line is what a step makes of another line. -/
def Steps (g u t : Text) : Prop :=
  ∃ f, step? t g = some (u, f)

theorem Steps.potential_lt (h : Steps g u t) : potential g u < potential g t := by
  obtain ⟨f, h⟩ := h
  obtain ⟨-, e, hrule, rfl⟩ := step?_eq_some h
  exact potential_lt_of_rule? hrule

theorem wellFounded_steps (g : Text) : WellFounded (Steps g) :=
  Subrelation.wf Steps.potential_lt (measure (potential g)).wf

/-- As many rounds as a line has potential bring it to rest. -/
theorem rule?_rounds_of_le (n : Nat) (t : Text) (h : potential g t ≤ n) :
    rule? (rounds n t g).1 g = none := by
  induction n generalizing t with
  | zero =>
    by_contra hrule
    obtain ⟨⟨e, f⟩, hrule⟩ := Option.ne_none_iff_exists'.1 hrule
    have hlt := potential_lt_of_rule? hrule
    exact Nat.not_lt_zero _ (hlt.trans_le h)
  | succ n ih =>
    cases hrule : rule? t g with
    | none =>
      have hstep : step? t g = none := by
        rw [step?, hrule]
        rfl
      rw [rounds, hstep]
      exact hrule
    | some rule =>
      obtain ⟨e, f⟩ := rule
      have hlt := potential_lt_of_rule? hrule
      rw [rounds, step?_of_rule? hrule]
      exact ih _ (by omega)

/-- The rules for a line do not cycle : asked again and again without a limit they end with a
line to which none of them applies, after at most as many steps as the square of one more than
the length of the line, and no chain of steps goes on for ever. -/
theorem rules_end (g : Text) :
    (∀ t, ∃ n ≤ (t.length + 1) ^ 2, rule? (rounds n t g).1 g = none) ∧
      ¬∃ lines : Nat → Text, ∀ n, ∃ f, step? (lines n) g = some (lines (n + 1), f) := by
  refine ⟨fun t => ⟨potential g t, potential_le g t, rule?_rounds_of_le _ t (Nat.le_refl _)⟩, ?_⟩
  rintro ⟨lines, hlines⟩
  exact (wellFounded_iff_isEmpty_descending_chain.1 (wellFounded_steps g)).elim ⟨lines, hlines⟩

end LineRepair

end LatexRepair
