import LatexRepair.Proofs.CleanRepair

/-!
# Runs report truly

A run of repairs validates a document anew only where a stage says that it has changed it,
so that what the run says at the end need not be about the text that it returns. It is
(`runRepairs_truthful`), for every document, with and without a guide, and whatever the chat
service answers : the validation at the end is that of the returned text, the number of
issues that the last stage reports is the number of its issues, the stages that have run
are reported in their order, and a run that reports no stage has changed nothing.

`Progress.Ran` says what the report of one stage tells about the progress of the run, and
each stage either runs or leaves the progress as it is, by a condition of its own
(`Progress.Passes`).
-/

namespace LatexRepair

namespace Progress

variable {lookup : Option FileLookup} {stage : Stage} {ran : Bool} {t : Text} {p q : Progress}

/-! ## The report of a stage -/

/-- The stage has made `q` of `p` : it is reported last, with the number of issues that it has
left, and the validation is that of the content. -/
structure Ran (lookup : Option FileLookup) (stage : Stage) (p q : Progress) : Prop where
  fresh : q.Fresh lookup
  report : ∃ fixes, q.stages = p.stages ++ [⟨stage, fixes, q.result.issues.length⟩]

/-- The stage has run where it should, and has left the progress as it was elsewhere. -/
def Passes (lookup : Option FileLookup) (stage : Stage) (ran : Bool) (p q : Progress) : Prop :=
  if ran then Ran lookup stage p q else q = p

/-- The stages that have been reported. -/
def names (p : Progress) : List Stage :=
  p.stages.map (·.stage)

/-- The progress of a run on `t` of which the reports are true. -/
structure Truthful (lookup : Option FileLookup) (t : Text) (p : Progress) : Prop where
  fresh : p.Fresh lookup
  last : ∀ r ∈ p.stages.getLast?, r.issuesAfter = p.result.issues.length
  unchanged : p.stages = [] → p.content = t

theorem Passes.names_eq (h : Passes lookup stage ran p q) :
    q.names = p.names ++ if ran then [stage] else [] := by
  cases ran with
  | false =>
    obtain rfl : q = p := h
    exact (List.append_nil _).symm
  | true =>
    obtain ⟨-, fixes, hstages⟩ : Ran lookup stage p q := h
    rw [names, hstages, List.map_append]
    rfl

/-- A stage keeps the reports true. -/
theorem Truthful.passes (hp : p.Truthful lookup t) (h : Passes lookup stage ran p q) :
    q.Truthful lookup t := by
  cases ran with
  | false =>
    obtain rfl : q = p := h
    exact hp
  | true =>
    obtain ⟨hfresh, fixes, hstages⟩ : Ran lookup stage p q := h
    refine ⟨hfresh, fun r hr => ?_, fun hnil => ?_⟩
    · rw [hstages, List.getLast?_append, List.getLast?_singleton, Option.some_or] at hr
      obtain rfl := Option.some.inj hr
      rfl
    · rw [hstages] at hnil
      exact absurd hnil (List.append_ne_nil_of_right_ne_nil _ (List.cons_ne_nil _ _))

/-! ## The stages -/

/-- To take over a proposal is to report it. -/
theorem Fresh.ran_take (h : p.Fresh lookup) (stage : Stage) (proposal : Proposal) :
    Ran lookup stage p (p.take (memoryCheck lookup) stage proposal).run := by
  refine ⟨h.take stage proposal, proposal.fixes, ?_⟩
  unfold Progress.take
  cases proposal.change <;> rfl

/-- The answer of the chat service is reported whether it is taken or not. -/
theorem Fresh.ran_takeAnswer (h : p.Fresh lookup) (answer : Except Failure Text) :
    Ran lookup .llm p (p.takeAnswer (memoryCheck lookup) answer).run := by
  have hunchanged := h.ran_take .llm ⟨none, []⟩
  unfold takeAnswer
  cases answer with
  | error _ => exact hunchanged
  | ok u =>
    dsimp only
    split
    · exact hunchanged
    · change Ran lookup .llm p (Id.run (if (validate lookup u).issues.length <
        p.result.issues.length then _ else _))
      split
      · exact ⟨rfl, _, rfl⟩
      · exact hunchanged

/-- The rules are applied to a document with issues. -/
theorem Fresh.passes_simpleStage (h : p.Fresh lookup) (guide : Option Text) :
    Passes lookup .simple (!p.result.valid) p
      (p.simpleStage (memoryCheck lookup) guide).run := by
  unfold simpleStage Passes
  cases p.result.valid with
  | true => rfl
  | false => exact h.ran_take _ _

/-- The guide is followed where there is one. -/
theorem Fresh.passes_referenceStage (h : p.Fresh lookup) (guide : Option Text) :
    Passes lookup .reference guide.isSome p
      (p.referenceStage (memoryCheck lookup) guide).run := by
  cases guide with
  | none => rfl
  | some g => exact h.ran_take _ _

/-- The braces are balanced where following the guide has left issues with braces. -/
theorem Fresh.passes_rebalanceStage (h : p.Fresh lookup) (guide : Option Text) :
    Passes lookup .rebalance (guide.isSome && p.result.hasKind .brace) p
      (p.rebalanceStage (memoryCheck lookup) guide).run := by
  unfold Progress.rebalanceStage Passes
  cases guide.isSome && p.result.hasKind .brace with
  | true => exact h.ran_take _ _
  | false => rfl

/-- The chat service has its turn on a document with issues, where there is a key for it. -/
theorem Fresh.passes_llmStage (h : p.Fresh lookup) (ask : ChatRequest → Id ChatReply)
    (chat : Option ChatSettings) :
    Passes lookup .llm (!p.result.valid && chat.any (·.hasKey)) p
      (p.llmStage (memoryCheck lookup) ask chat).run := by
  unfold llmStage Passes
  cases chat with
  | none => simp
  | some s =>
    have hturn : (!p.result.valid && s.hasKey) = !(p.result.valid || !s.hasKey) := by simp
    have hasked : ∀ r : ChatRepair, Ran lookup .llm p
        (({ p with request := r.request } : Progress).takeAnswer (memoryCheck lookup)
          r.result).run := fun r => by
      obtain ⟨hfresh, hreport⟩ :=
        Fresh.ran_takeAnswer (p := { p with request := r.request }) h r.result
      exact ⟨hfresh, hreport⟩
    rw [Option.any_some, hturn]
    dsimp only
    by_cases hskip : (p.result.valid || !s.hasKey) = true
    · rw [if_pos hskip, hskip]
      rfl
    · rw [if_neg hskip, Bool.eq_false_iff.2 hskip]
      change Ran lookup .llm p (Id.run (if p.result.syntaxErrors.isEmpty then _ else _))
      split
      · exact h.ran_take _ _
      · exact hasked (repairByChat ask s p.content p.result.syntaxErrors).run

end Progress

/-! ## The outcome of a run -/

/-- What the outcome of a run on `t` says is true of the text that it returns. -/
structure RunOutcome.Truthful (lookup : Option FileLookup) (guide : Option Text) (t : Text)
    (o : RunOutcome) : Prop where
  initial : o.initial = validate lookup t
  final : o.final = validate lookup o.content
  valid : o.valid = o.final.valid
  /-- The last stage reports the number of issues that are left. -/
  last : ∀ r ∈ o.stages.getLast?, r.issuesAfter = o.final.issues.length
  /-- Every stage runs at most once, and in its turn. -/
  order : (o.stages.map (·.stage)).Sublist [.simple, .reference, .rebalance, .llm]
  simple : .simple ∈ o.stages.map (·.stage) ↔ o.initial.valid = false
  reference : .reference ∈ o.stages.map (·.stage) ↔ guide.isSome = true
  unchanged : o.stages = [] → o.content = t

/-- The outcome of a run is true, whatever the chat service answers. -/
theorem runRepairs_truthful (lookup : Option FileLookup) (ask : ChatRequest → Id ChatReply)
    (options : RunOptions) (t : Text) :
    (runRepairs (memoryCheck lookup) ask options t).run.Truthful lookup options.guide t := by
  obtain ⟨guide, chat⟩ := options
  let p₀ : Progress := ⟨t, validate lookup t, [], none⟩
  let p₁ := (p₀.simpleStage (memoryCheck lookup) guide).run
  let p₂ := (p₁.referenceStage (memoryCheck lookup) guide).run
  let p₃ := (p₂.rebalanceStage (memoryCheck lookup) guide).run
  let p₄ := (p₃.llmStage (memoryCheck lookup) ask chat).run
  have h₀ : p₀.Truthful lookup t := ⟨rfl, by simp [p₀], fun _ => rfl⟩
  have hsimple := h₀.fresh.passes_simpleStage guide
  have h₁ : p₁.Truthful lookup t := h₀.passes hsimple
  have hreference := h₁.fresh.passes_referenceStage guide
  have h₂ : p₂.Truthful lookup t := h₁.passes hreference
  have hrebalance := h₂.fresh.passes_rebalanceStage guide
  have h₃ : p₃.Truthful lookup t := h₂.passes hrebalance
  have hllm := h₃.fresh.passes_llmStage ask chat
  have h₄ : p₄.Truthful lookup t := h₃.passes hllm
  have hnames : p₄.names =
      (if !(validate lookup t).valid then [.simple] else []) ++
        (if guide.isSome then [.reference] else []) ++
          (if guide.isSome && p₂.result.hasKind .brace then [.rebalance] else []) ++
            (if !p₃.result.valid && chat.any (·.hasKey) then [.llm] else []) := by
    rw [hllm.names_eq, hrebalance.names_eq, hreference.names_eq, hsimple.names_eq]
    rfl
  have horder : ∀ a b c d : Bool,
      ((if a then [Stage.simple] else []) ++ (if b then [Stage.reference] else []) ++
        (if c then [Stage.rebalance] else []) ++ (if d then [Stage.llm] else [])).Sublist
          [.simple, .reference, .rebalance, .llm] := by decide
  change RunOutcome.Truthful lookup guide t
    { initial := validate lookup t
      final := p₄.result
      stages := p₄.stages
      content := p₄.content
      request := p₄.request }
  refine ⟨rfl, h₄.fresh, rfl, h₄.last, ?_, ?_, ?_, h₄.unchanged⟩
  · change p₄.names.Sublist _
    rw [hnames]
    exact horder _ _ _ _
  · change _ ∈ p₄.names ↔ _
    rw [hnames]
    cases (validate lookup t).valid <;> simp
  · change _ ∈ p₄.names ↔ _
    rw [hnames]
    cases guide <;> simp

end LatexRepair
