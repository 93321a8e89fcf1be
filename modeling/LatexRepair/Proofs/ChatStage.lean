import LatexRepair.Proofs.RunReport

/-!
# Asking the chat service

What the chat service may do to a run. The service may answer whatever it likes, and
differently each time it is asked; the requests that a run sends are recorded in their order
(`Endpoint.ask`). Up to the stage of the service a run is the run that asks no service
(`runRepairs_pureCheck`), so the outcome of that one is what the service may change.

At most one request is sent, only about a document that still has syntax errors and only
with a key. Either the run ends as if no service had been asked, or with a text that the
service offered and that has fewer issues (`runRepairs_asksChat`).
-/

namespace LatexRepair

/-- A chat service : its reply to a request, after those that it was sent before. -/
abbrev Endpoint := List ChatRequest → ChatRequest → ChatReply

/-- Send a request, and record it. -/
def Endpoint.ask (endpoint : Endpoint) (r : ChatRequest) : StateM (List ChatRequest) ChatReply :=
  fun sent => (endpoint sent r, sent ++ [r])

/-- The reply offers a text : it is a success, and the text is the content of the first choice
in a body that reports no error. -/
inductive ChatReply.Offers : ChatReply → Text → Prop where
  | intro {status : Nat} {body u : Text} {more : List Text} (success : 200 ≤ status ∧ status < 300)
      (choices : (ChatAnswer.value? body).bind ChatAnswer.parts? = some (u :: more, none)) :
      Offers (.answered status body) u

namespace RunOutcome

/-- The outcome `o'` is that of a run that ends as `o` does; if the chat service had its turn,
that is reported without a fix. -/
structure Keeps (o o' : RunOutcome) : Prop where
  content : o'.content = o.content
  final : o'.final = o.final
  stages : o'.stages = o.stages ∨
    o'.stages = o.stages ++ [⟨.llm, [], o.final.issues.length⟩]

/-- The outcome `o'` is that of a run that ends with the text `u` where `o` ended with more
issues. -/
structure Improves (lookup : Option FileLookup) (u : Text) (o o' : RunOutcome) : Prop where
  content : o'.content = u
  nonblank : Text.isBlankText u = false
  final : o'.final = validate lookup u
  fewer : o'.final.issues.length < o.final.issues.length
  stages : o'.stages = o.stages ++
    [⟨.llm, [.acceptedAnswer o.final.issues.length o'.final.issues.length],
      o'.final.issues.length⟩]

/-- The outcome `o'` is that of a run that goes on from `o` with a turn of the chat service,
to which it has sent the requests `sent`. -/
structure AsksChat (lookup : Option FileLookup) (endpoint : Endpoint)
    (chat : Option ChatSettings) (o o' : RunOutcome) (sent : List ChatRequest) : Prop where
  initial : o'.initial = o.initial
  sent_length : sent.length ≤ 1
  mem_sent : ∀ r, r ∈ sent ↔ o.valid = false ∧ o.final.syntaxErrors ≠ [] ∧
    ∃ s, chat = some s ∧ s.hasKey = true ∧ r = ChatRequest.of s o.content o.final.syntaxErrors
  outcome : o.Keeps o' ∨ ∃ r ∈ sent, ∃ u, (endpoint [] r).Offers u ∧ Improves lookup u o o'
  /-- An offer is taken wherever it can be. -/
  taken : ∀ r ∈ sent, ∀ u, (endpoint [] r).Offers u → Text.isBlankText u = false →
    (validate lookup u).issues.length < o.final.issues.length → Improves lookup u o o'
  /-- Without an offer nothing changes. -/
  error : (∀ r ∈ sent, ∀ u, ¬(endpoint [] r).Offers u) → o.Keeps o'

end RunOutcome

variable {lookup : Option FileLookup}

/-! ## Answers -/

/-- What comes of a reply. -/
def ChatReply.answer : ChatReply → Except Failure Text
  | refused => .error .unreachable
  | answered status body => ChatAnswer.read status body

/-- A reply comes to a text exactly when it offers that. -/
theorem ChatReply.answer_eq_ok_iff {reply : ChatReply} {u : Text} :
    reply.answer = .ok u ↔ reply.Offers u := by
  cases reply with
  | refused => exact ⟨nofun, nofun⟩
  | answered status body =>
    have hsuccess : ChatAnswer.isSuccess status = true ↔ 200 ≤ status ∧ status < 300 := by
      simp [ChatAnswer.isSuccess]
    constructor
    · intro h
      rw [answer, ChatAnswer.read] at h
      split at h
      · cases h
      · rename_i hstatus
        rw [Bool.not_eq_true, Bool.not_eq_false', hsuccess] at hstatus
        split at h
        · cases h
        · cases h
        · cases h
        · rename_i hparts
          obtain rfl := Except.ok.inj h
          exact ⟨hstatus, hparts⟩
    · rintro ⟨hstatus, hparts⟩
      rw [answer, ChatAnswer.read, hsuccess.2 hstatus, hparts]
      rfl

/-- With a key, a document and errors in it the service is asked. -/
theorem repairByChat_ask {m : Type → Type} [Monad m] [LawfulMonad m]
    (ask : ChatRequest → m ChatReply) {s : ChatSettings} {t : Text} {errors : List SyntaxError}
    (hkey : s.hasKey = true) (ht : t ≠ []) (herrors : errors ≠ []) :
    ∃ request : ChatReply → Option ChatRequest,
      repairByChat ask s t errors =
        ask (.of s t errors) >>= fun reply => pure ⟨request reply, reply.answer⟩ := by
  have hasked : ¬(t.isEmpty || errors.isEmpty) = true := by simp [ht, herrors]
  refine ⟨fun | .refused => none | .answered _ _ => some (.of s t errors), ?_⟩
  rw [repairByChat, hkey, if_neg (by decide), if_neg hasked]
  exact bind_congr fun reply => by cases reply <;> rfl

/-- There is nothing to ask the service about in an empty document. -/
theorem syntaxErrors_validate_nil : (validate lookup []).syntaxErrors = [] := by
  have hscan : scan [] = ScanState.finish {} := by
    rw [scan, Lexeme.lexemes, Lexeme.lexemesFrom]
    rfl
  have hfindings : (ScanState.finish {}).findings = [] := List.mergeSort_nil
  have hissues : issuesOf lookup (scan []) = Issue.ofSkeleton (scan []) := by
    unfold issuesOf
    rw [hscan, hfindings]
    cases lookup <;> rfl
  rw [validate, hissues, hscan]
  exact congrArg _ (congrArg _ (List.mergeSort_singleton _))

/-! ## Stages without the service -/

namespace Progress

variable {m : Type → Type} [Monad m] [LawfulMonad m]

/-- Validation in memory, for a run in any monad. -/
def pureCheck (m : Type → Type) [Monad m] (lookup : Option FileLookup) : Text → m Validation :=
  fun t => pure (validate lookup t)

theorem take_pureCheck (p : Progress) (stage : Stage) (q : Proposal) :
    p.take (pureCheck m lookup) stage q = pure (p.take (memoryCheck lookup) stage q).run := by
  unfold take
  cases q.change with
  | none => rfl
  | some t => exact pure_bind ..

theorem simpleStage_pureCheck (p : Progress) (guide : Option Text) :
    p.simpleStage (pureCheck m lookup) guide =
      pure (p.simpleStage (memoryCheck lookup) guide).run := by
  unfold simpleStage
  split
  · rfl
  · exact take_pureCheck ..

theorem referenceStage_pureCheck (p : Progress) (guide : Option Text) :
    p.referenceStage (pureCheck m lookup) guide =
      pure (p.referenceStage (memoryCheck lookup) guide).run := by
  cases guide with
  | none => rfl
  | some g => exact take_pureCheck ..

theorem rebalanceStage_pureCheck (p : Progress) (guide : Option Text) :
    p.rebalanceStage (pureCheck m lookup) guide =
      pure (p.rebalanceStage (memoryCheck lookup) guide).run := by
  unfold rebalanceStage
  split
  · exact take_pureCheck ..
  · rfl

theorem takeAnswer_pureCheck (p : Progress) (answer : Except Failure Text) :
    p.takeAnswer (pureCheck m lookup) answer =
      pure (p.takeAnswer (memoryCheck lookup) answer).run := by
  unfold takeAnswer
  cases answer with
  | error _ => exact take_pureCheck ..
  | ok u =>
    dsimp only
    split
    · exact take_pureCheck ..
    · rw [pureCheck, memoryCheck, pure_bind, pure_bind]
      split
      · rfl
      · exact take_pureCheck ..

/-- How far a run on `t` has come when the chat service has its turn. -/
def beforeChat (lookup : Option FileLookup) (guide : Option Text) (t : Text) : Progress :=
  Id.run do
    let p ← Progress.simpleStage (memoryCheck lookup) guide ⟨t, validate lookup t, [], none⟩
    let p ← p.referenceStage (memoryCheck lookup) guide
    p.rebalanceStage (memoryCheck lookup) guide

/-- The outcome of a run on `t` that has come so far. -/
def outcome (lookup : Option FileLookup) (t : Text) (p : Progress) : RunOutcome where
  initial := validate lookup t
  final := p.result
  stages := p.stages
  content := p.content
  request := p.request

end Progress

open Progress

/-- A run that asks no service ends where the service has its turn. -/
theorem repairOffline_eq (lookup : Option FileLookup) (guide : Option Text) (t : Text) :
    repairOffline lookup guide t = (beforeChat lookup guide t).outcome lookup t :=
  rfl

/-- Only the stage of the service depends on the service. -/
theorem runRepairs_pureCheck {m : Type → Type} [Monad m] [LawfulMonad m]
    (ask : ChatRequest → m ChatReply) (options : RunOptions) (t : Text) :
    runRepairs (pureCheck m lookup) ask options t =
      (fun p => p.outcome lookup t) <$>
        (beforeChat lookup options.guide t).llmStage (pureCheck m lookup) ask options.chat := by
  simp only [runRepairs, simpleStage_pureCheck, referenceStage_pureCheck,
    rebalanceStage_pureCheck, pure_bind]
  rw [pureCheck, pure_bind, map_eq_pure_bind]
  rfl

/-! ## The stage of the service -/

namespace Progress

theorem fresh_beforeChat (lookup : Option FileLookup) (guide : Option Text) (t : Text) :
    (beforeChat lookup guide t).Fresh lookup := by
  let p₀ : Progress := ⟨t, validate lookup t, [], none⟩
  have h₀ : p₀.Truthful lookup t := ⟨rfl, by simp [p₀], fun _ => rfl⟩
  have h₁ := h₀.passes (h₀.fresh.passes_simpleStage guide)
  have h₂ := h₁.passes (h₁.fresh.passes_referenceStage guide)
  exact (h₂.passes (h₂.fresh.passes_rebalanceStage guide)).fresh

variable {p : Progress} {t : Text} {r : Option ChatRequest}

/-- A stage that proposes nothing leaves the document alone. -/
theorem keeps_take_none :
    (p.outcome lookup t).Keeps
      ((Progress.take (memoryCheck lookup) { p with request := r } .llm ⟨none, []⟩).run.outcome
        lookup t) :=
  ⟨rfl, rfl, .inr rfl⟩

theorem keeps_takeAnswer_error (e : Failure) :
    (p.outcome lookup t).Keeps
      ((takeAnswer (memoryCheck lookup) { p with request := r } (.error e)).run.outcome lookup t) :=
  keeps_take_none

/-- A text that is offered is taken if it is not blank and has fewer issues. -/
theorem improves_takeAnswer_ok {u : Text} (hblank : Text.isBlankText u = false)
    (hfewer : (validate lookup u).issues.length < p.result.issues.length) :
    RunOutcome.Improves lookup u (p.outcome lookup t)
      ((takeAnswer (memoryCheck lookup) { p with request := r } (.ok u)).run.outcome lookup t) := by
  unfold takeAnswer
  dsimp only
  rw [if_neg (Bool.eq_false_iff.1 hblank), memoryCheck, pure_bind, if_pos hfewer]
  exact ⟨rfl, hblank, rfl, hfewer, rfl⟩

/-- Otherwise it is discarded. -/
theorem keeps_takeAnswer_ok {u : Text} (h : Text.isBlankText u = false →
    ¬(validate lookup u).issues.length < p.result.issues.length) :
    (p.outcome lookup t).Keeps
      ((takeAnswer (memoryCheck lookup) { p with request := r } (.ok u)).run.outcome lookup t) := by
  unfold takeAnswer
  dsimp only
  split
  · exact keeps_take_none
  · rename_i hblank
    have hfewer := h (Bool.eq_false_iff.2 hblank)
    rw [memoryCheck, pure_bind, if_neg hfewer]
    exact keeps_take_none

end Progress

namespace RunOutcome.AsksChat

variable {endpoint : Endpoint} {chat : Option ChatSettings} {o o' : RunOutcome}

/-- The service is not asked, and the run ends as it would have without it. -/
theorem of_keeps (hinitial : o'.initial = o.initial) (hkeeps : o.Keeps o')
    (hquiet : o.valid = false → o.final.syntaxErrors ≠ [] →
      ∀ s, chat = some s → s.hasKey = false) :
    AsksChat lookup endpoint chat o o' [] where
  initial := hinitial
  sent_length := Nat.zero_le 1
  mem_sent r := by
    refine ⟨fun h => absurd h List.not_mem_nil, ?_⟩
    rintro ⟨hvalid, herrors, s, hs, hkey, -⟩
    rw [hquiet hvalid herrors s hs] at hkey
    cases hkey
  outcome := .inl hkeeps
  taken r hr := absurd hr List.not_mem_nil
  error _ := hkeeps

/-- The service is asked once, and its offer is taken or discarded. -/
theorem of_ask {s : ChatSettings} (hinitial : o'.initial = o.initial) (hvalid : o.valid = false)
    (herrors : o.final.syntaxErrors ≠ []) (hchat : chat = some s) (hkey : s.hasKey = true)
    (htaken : ∀ u, (endpoint [] (.of s o.content o.final.syntaxErrors)).Offers u →
      Text.isBlankText u = false → (validate lookup u).issues.length < o.final.issues.length →
        Improves lookup u o o')
    (hkeeps : (∀ u, (endpoint [] (.of s o.content o.final.syntaxErrors)).Offers u →
      Text.isBlankText u = false →
        ¬(validate lookup u).issues.length < o.final.issues.length) → o.Keeps o') :
    AsksChat lookup endpoint chat o o' [.of s o.content o.final.syntaxErrors] where
  initial := hinitial
  sent_length := le_rfl
  mem_sent r := by
    rw [List.mem_singleton]
    refine ⟨fun h => ⟨hvalid, herrors, s, hchat, hkey, h⟩, ?_⟩
    rintro ⟨-, -, s', hs', -, rfl⟩
    rw [Option.some.inj (hchat.symm.trans hs')]
  outcome := by
    by_cases h : ∀ u, (endpoint [] (.of s o.content o.final.syntaxErrors)).Offers u →
        Text.isBlankText u = false → ¬(validate lookup u).issues.length < o.final.issues.length
    · exact .inl (hkeeps h)
    · push Not at h
      obtain ⟨u, hoffer, hblank, hfewer⟩ := h
      exact .inr ⟨_, List.mem_singleton_self _, u, hoffer, htaken u hoffer hblank hfewer⟩
  taken r hr u hoffer := by
    obtain rfl := List.mem_singleton.1 hr
    exact htaken u hoffer
  error h := hkeeps fun u hoffer => absurd hoffer (h _ (List.mem_singleton_self _) u)

end RunOutcome.AsksChat

namespace Progress

variable {p : Progress}

/-- What a run makes of the reply of the service. -/
theorem asksChat_reply {endpoint : Endpoint} {s : ChatSettings} {reply : ChatReply} (t : Text)
    (hreply : endpoint [] (.of s p.content p.result.syntaxErrors) = reply)
    (hvalid : p.result.valid = false) (hkey : s.hasKey = true)
    (herrors : p.result.syntaxErrors ≠ []) (r : Option ChatRequest) :
    RunOutcome.AsksChat lookup endpoint (some s) (p.outcome lookup t)
      ((takeAnswer (memoryCheck lookup) { p with request := r } reply.answer).run.outcome lookup t)
      [.of s p.content p.result.syntaxErrors] := by
  refine .of_ask rfl hvalid herrors rfl hkey (fun u hu hblank hfewer => ?_) fun h => ?_
  · rw [ChatReply.answer_eq_ok_iff.2 (hreply ▸ hu)]
    exact improves_takeAnswer_ok hblank hfewer
  · cases hanswer : reply.answer with
    | error e => exact keeps_takeAnswer_error e
    | ok u => exact keeps_takeAnswer_ok (h u (hreply ▸ ChatReply.answer_eq_ok_iff.1 hanswer))

/-- The stage of the service. -/
theorem Fresh.asksChat (h : p.Fresh lookup) (endpoint : Endpoint) (chat : Option ChatSettings)
    (t : Text) :
    let after := (p.llmStage (pureCheck _ lookup) endpoint.ask chat).run []
    RunOutcome.AsksChat lookup endpoint chat (p.outcome lookup t) (after.1.outcome lookup t)
      after.2 := by
  unfold llmStage
  cases chat with
  | none => exact .of_keeps rfl ⟨rfl, rfl, .inl rfl⟩ fun _ _ _ hs => nomatch hs
  | some s =>
    dsimp only
    cases hvalid : p.result.valid with
    | true => exact .of_keeps rfl ⟨rfl, rfl, .inl rfl⟩ fun h => absurd (hvalid.symm.trans h) nofun
    | false =>
      cases hkey : s.hasKey with
      | false =>
        exact .of_keeps rfl ⟨rfl, rfl, .inl rfl⟩ fun _ _ _ hs => Option.some.inj hs ▸ hkey
      | true =>
        rw [if_neg (by decide)]
        by_cases herrors : p.result.syntaxErrors = []
        · rw [if_pos (List.isEmpty_iff.2 herrors)]
          exact .of_keeps rfl ⟨rfl, rfl, .inr rfl⟩ fun _ hne => absurd herrors hne
        · have hcontent : p.content ≠ [] := fun hnil => herrors (by
            rw [h, hnil, syntaxErrors_validate_nil])
          obtain ⟨request, hask⟩ := repairByChat_ask endpoint.ask hkey hcontent herrors
          simp only [if_neg (mt List.isEmpty_iff.1 herrors), hask, bind_assoc, pure_bind,
            takeAnswer_pureCheck]
          exact asksChat_reply t rfl hvalid hkey herrors _

end Progress

/-- The chat service never makes a document worse : it is asked at most once, only about the
syntax errors that a run leaves without it, and the run ends as it would have without it, or
with a text that the service offered and that has fewer issues. -/
theorem runRepairs_asksChat (lookup : Option FileLookup) (endpoint : Endpoint)
    (options : RunOptions) (t : Text) :
    let after := (runRepairs (Progress.pureCheck _ lookup) endpoint.ask options t).run []
    RunOutcome.AsksChat lookup endpoint options.chat (repairOffline lookup options.guide t)
      after.1 after.2 := by
  rw [runRepairs_pureCheck, repairOffline_eq]
  exact (fresh_beforeChat lookup options.guide t).asksChat endpoint options.chat t

end LatexRepair
