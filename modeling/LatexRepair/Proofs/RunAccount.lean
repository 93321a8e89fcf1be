import LatexRepair.Proofs.FixAccount
import LatexRepair.RepairRun
import Mathlib.Logic.Basic

/-!
# No silent change

A repair that lists no fix has changed nothing. For a repair against a guide this is
`content_repairGuided_of_fixes_nil`; here it is carried to the rules that need no guide
(`content_repairByRules_of_fixes_nil`), rule by rule (`RuleRepair.Accounted`), and to the run of
all repairs (`runRepairs_accounts`), stage by stage (`Progress.Accounted`).

A run is taken over states : the check of a document and the chat service may answer what they
like, and differently each time they are asked.
-/

namespace LatexRepair

/-! ## Rules -/

namespace Typo

theorem correct_of_nil {typo : Typo} {t : Text} (h : (typo.correct t).2 = []) :
    (typo.correct t).1 = t := by
  unfold correct at h ⊢
  dsimp only at h ⊢
  split
  · rfl
  · rename_i hcount
    rw [if_neg hcount] at h
    cases h

/-- One entry after another. -/
theorem foldl_correct_of_nil {typos : List Typo} {acc : Text × List Correction}
    (h : (typos.foldl (fun acc typo => ((typo.correct acc.1).1, acc.2 ++ (typo.correct acc.1).2))
      acc).2 = []) :
    acc.2 = [] ∧ (typos.foldl (fun acc typo =>
      ((typo.correct acc.1).1, acc.2 ++ (typo.correct acc.1).2)) acc).1 = acc.1 := by
  induction typos generalizing acc with
  | nil => exact ⟨h, rfl⟩
  | cons typo typos ih =>
    obtain ⟨hfound, htext⟩ := ih h
    dsimp only at hfound htext
    rw [List.append_eq_nil_iff] at hfound
    rw [List.foldl_cons, htext]
    exact ⟨hfound.1, correct_of_nil hfound.2⟩

theorem correctAll_of_nil {t : Text} (h : (correctAll t).2 = []) : (correctAll t).1 = t :=
  (foldl_correct_of_nil h).2

end Typo

namespace RuleRepair

/-- The rule changes nothing unless it lists a fix. -/
def Accounted (rule : Rule) : Prop :=
  ∀ t u, rule t = some (u, []) → u = t

/-- A rule that lists a fix wherever it applies. -/
theorem accounted_of_ne_nil {rule : Rule} (h : ∀ t u fixes, rule t = some (u, fixes) → fixes ≠ []) :
    Accounted rule :=
  fun t u hu => absurd rfl (h t u [] hu)

theorem accounted_correctTypos : Accounted correctTypos := by
  intro t u h
  obtain ⟨hu, hfound⟩ := Prod.mk.inj (Option.some.inj h)
  rw [← hu]
  exact Typo.correctAll_of_nil (List.map_eq_nil_iff.1 hfound)

theorem accounted_normalizeNewlines : Accounted normalizeNewlines := by
  refine accounted_of_ne_nil fun t u fixes h => ?_
  obtain ⟨-, h⟩ := Option.ite_none_right_eq_some.1 h
  cases h
  exact List.cons_ne_nil _ _

theorem accounted_collapseTerminators : Accounted collapseTerminators := by
  refine accounted_of_ne_nil fun t u fixes h => ?_
  obtain ⟨-, h⟩ := Option.ite_none_left_eq_some.1 h
  cases h
  exact List.cons_ne_nil _ _

theorem accounted_reorderPictures : Accounted reorderPictures := by
  refine accounted_of_ne_nil fun t u fixes h => ?_
  obtain ⟨-, h⟩ := Option.ite_none_left_eq_some.1 h
  cases h
  exact List.cons_ne_nil _ _

/-- A rule that names its one fix. -/
theorem accounted_map {α : Type} (find? : Text → Option α) (content : α → Text)
    (fix : α → RuleFix) : Accounted fun t => (find? t).map fun a => (content a, [fix a]) := by
  refine accounted_of_ne_nil fun t u fixes h => ?_
  obtain ⟨a, -, ha⟩ := Option.map_eq_some_iff.1 h
  cases ha
  exact List.cons_ne_nil _ _

theorem accounted_removeTrailing : Accounted removeTrailing :=
  accounted_map Terminator.truncate? id fun _ => .removedTrailing

theorem accounted_closePictures : Accounted closePictures :=
  accounted_map PictureRepair.closePictures? (·.1) (.closedPictures ·.2)

theorem accounted_closeColors : Accounted closeColors :=
  accounted_map BraceRepair.closeColors? (·.1) (.closedColors ·.2)

theorem accounted_balance : Accounted balance :=
  accounted_map rebalance? (·.1) (·.2)

theorem accounted_rules (allowBalance : Bool) (v : Option Validation) :
    ∀ rule ∈ rules allowBalance v, Accounted rule := by
  intro rule hrule
  simp only [rules, List.mem_append, List.mem_ite_nil_right, List.mem_cons, List.not_mem_nil,
    or_false] at hrule
  rcases hrule with ((((rfl | rfl | rfl) | ⟨-, rfl⟩) | ⟨-, rfl | rfl⟩) | ⟨-, rfl⟩) | ⟨-, rfl⟩
  · exact accounted_correctTypos
  · exact accounted_normalizeNewlines
  · exact accounted_collapseTerminators
  · exact accounted_removeTrailing
  · exact accounted_reorderPictures
  · exact accounted_closePictures
  · exact accounted_closeColors
  · exact accounted_balance

/-- One accounted rule after another. -/
theorem foldl_andThen_of_fixes_nil {rules : List Rule} (hrules : ∀ rule ∈ rules, Accounted rule)
    {r : RuleRepair} (h : (rules.foldl andThen r).fixes = []) :
    r.fixes = [] ∧ (rules.foldl andThen r).content = r.content := by
  induction rules generalizing r with
  | nil => exact ⟨h, rfl⟩
  | cons rule rules ih =>
    obtain ⟨hfixes, hcontent⟩ := ih (fun rule' hr => hrules rule' (List.mem_cons_of_mem _ hr)) h
    rw [List.foldl_cons, hcontent]
    unfold andThen at hfixes ⊢
    split at hfixes
    · rename_i u fixes hrule
      obtain ⟨hr, rfl⟩ := List.append_eq_nil_iff.1 hfixes
      exact ⟨hr, hrules rule (List.mem_cons_self ..) _ _ hrule⟩
    · exact ⟨hfixes, rfl⟩

end RuleRepair

/-- A repair by rules that lists no fix has changed nothing, whatever validation it goes by. -/
theorem content_repairByRules_of_fixes_nil {allowBalance : Bool} {v : Option Validation} {t : Text}
    (h : (repairByRules allowBalance v t).fixes = []) :
    (repairByRules allowBalance v t).content = t :=
  (RuleRepair.foldl_andThen_of_fixes_nil (RuleRepair.accounted_rules allowBalance v) h).2

/-! ## Operations on states -/

/-- From every state the operation returns a value with the property. -/
def Returns {σ α : Type} (P : α → Prop) (x : StateM σ α) : Prop :=
  ∀ s, P (x.run s).1

namespace Returns

variable {σ α β : Type} {P : α → Prop} {Q : β → Prop}

protected theorem pure {a : α} (h : P a) : Returns P (pure a : StateM σ α) :=
  fun _ => h

protected theorem bind {x : StateM σ α} {f : α → StateM σ β} (hx : Returns P x)
    (hf : ∀ a, P a → Returns Q (f a)) : Returns Q (x >>= f) :=
  fun s => hf _ (hx s) _

protected theorem any (x : StateM σ α) : Returns (fun _ => True) x :=
  fun _ => trivial

end Returns

/-! ## Stages -/

/-- The proposal leaves the document as it is unless it lists a fix. -/
def Proposal.Accounted (q : Proposal) : Prop :=
  q.fixes = [] → q.change = none

namespace Progress

variable {σ : Type} {check : Text → StateM σ Validation} {t : Text} {p : Progress}

/-- A run on `t` that has come so far has changed nothing unless a stage lists a fix. -/
def Accounted (t : Text) (p : Progress) : Prop :=
  (∀ r ∈ p.stages, r.fixes = []) → p.content = t

/-- A stage with another report. -/
theorem Accounted.report (hp : p.Accounted t) {q : Progress} {r : StageReport}
    (hstages : q.stages = p.stages ++ [r]) (hcontent : r.fixes = [] → q.content = p.content) :
    q.Accounted t := by
  intro h
  rw [hstages, List.forall_mem_append, List.forall_mem_singleton] at h
  rw [hcontent h.2]
  exact hp h.1

theorem Accounted.take (hp : p.Accounted t) {q : Proposal} (hq : q.Accounted) (stage : Stage) :
    Returns (Accounted t) (p.take check stage q) := by
  unfold Progress.take
  split
  · exact .pure (hp.report rfl fun _ => rfl)
  · rename_i u hu
    exact .bind (.any _) fun v _ =>
      .pure (hp.report rfl fun hnil => nomatch hu.symm.trans (hq hnil))

theorem accounted_bySimpleRules (guide : Option Text) (p : Progress) :
    (p.bySimpleRules guide).Accounted :=
  fun h => if_pos (content_repairByRules_of_fixes_nil (List.map_eq_nil_iff.1 h))

theorem accounted_byReference (guide : Text) (p : Progress) : (p.byReference guide).Accounted :=
  fun h => if_pos (List.isEmpty_iff.2 (List.map_eq_nil_iff.1 h))

theorem accounted_byBalance (p : Progress) : p.byBalance.Accounted := by
  unfold byBalance
  split
  · exact nofun
  · exact fun _ => rfl

theorem Accounted.simpleStage (hp : p.Accounted t) (guide : Option Text) :
    Returns (Accounted t) (p.simpleStage check guide) := by
  unfold Progress.simpleStage
  split
  · exact .pure hp
  · exact hp.take (accounted_bySimpleRules guide p) _

theorem Accounted.referenceStage (hp : p.Accounted t) (guide : Option Text) :
    Returns (Accounted t) (p.referenceStage check guide) := by
  cases guide with
  | none => exact .pure hp
  | some g => exact hp.take (accounted_byReference g p) _

theorem Accounted.rebalanceStage (hp : p.Accounted t) (guide : Option Text) :
    Returns (Accounted t) (p.rebalanceStage check guide) := by
  unfold Progress.rebalanceStage
  split
  · exact hp.take (accounted_byBalance p) _
  · exact .pure hp

/-- An answer that is taken is reported as a fix. -/
theorem Accounted.takeAnswer (hp : p.Accounted t) (answer : Except Failure Text) :
    Returns (Accounted t) (p.takeAnswer check answer) := by
  have hunchanged : Returns (Accounted t) (p.take check .llm ⟨none, []⟩) := hp.take (fun _ => rfl) _
  unfold Progress.takeAnswer
  split
  · exact hunchanged
  · dsimp only
    split
    · exact hunchanged
    · refine .bind (.any _) fun v _ => ?_
      split
      · exact .pure (hp.report rfl nofun)
      · exact hunchanged

theorem Accounted.llmStage (hp : p.Accounted t) (ask : ChatRequest → StateM σ ChatReply)
    (chat : Option ChatSettings) : Returns (Accounted t) (p.llmStage check ask chat) := by
  unfold Progress.llmStage
  split
  · exact .pure hp
  · split
    · exact .pure hp
    · split
      · exact hp.take (fun _ => rfl) _
      · exact .bind (.any _) fun r _ =>
          Accounted.takeAnswer (p := { p with request := r.request }) hp _

end Progress

/-! ## Runs -/

/-- A run without fixes has stages without fixes. -/
theorem RunOutcome.fixCount_eq_zero_iff (o : RunOutcome) :
    o.fixCount = 0 ↔ ∀ r ∈ o.stages, r.fixes = [] := by
  unfold fixCount
  induction o.stages with
  | nil => simp
  | cons r rs ih => simp [ih]

/-- No repair changes a document silently : neither a run of all repairs, whatever the check of
the document and the chat service answer, nor the repair by rules, whatever validation it goes
by, nor the repair against a guide. -/
theorem runRepairs_accounts :
    (∀ {σ : Type} (check : Text → StateM σ Validation) (ask : ChatRequest → StateM σ ChatReply)
      (options : RunOptions) (t : Text),
        Returns (fun o => o.content = t ∨ 0 < o.fixCount) (runRepairs check ask options t)) ∧
    (∀ allowBalance v t, (repairByRules allowBalance v t).content = t ∨
      (repairByRules allowBalance v t).fixes ≠ []) ∧
    ∀ t g, (repairGuided t g).content = t ∨ 0 < (repairGuided t g).fixCount := by
  refine ⟨fun check ask options t => ?_, fun allowBalance v t => ?_, fun t g => ?_⟩
  · have hstart : ∀ v, (⟨t, v, [], none⟩ : Progress).Accounted t := fun _ _ => rfl
    refine .bind (.any _) fun v _ => .bind ((hstart v).simpleStage _) fun p hp =>
      .bind (hp.referenceStage _) fun p hp => .bind (hp.rebalanceStage _) fun p hp =>
        .bind (hp.llmStage ask _) fun p hp => .pure ?_
    rw [Nat.pos_iff_ne_zero, or_iff_not_imp_right, not_not, RunOutcome.fixCount_eq_zero_iff]
    exact hp
  · rw [or_iff_not_imp_right, not_not]
    exact content_repairByRules_of_fixes_nil
  · rw [Nat.pos_iff_ne_zero, or_iff_not_imp_right, not_not]
    exact fun h => content_repairGuided_of_fixes_nil (List.length_eq_zero_iff.1 h)

end LatexRepair
