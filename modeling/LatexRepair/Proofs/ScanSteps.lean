import LatexRepair.Scan
import Mathlib.Logic.Basic

/-!
# What a step of a scan does

A lexeme begins or ends an environment, declares something about the document, or at most
feeds the delimiter stacks (`ScanState.Acts`, `ScanState.acts_act`). What a scan knows
beside its stacks follows from that, field by field : the declarations that it has met
(`ScanState.hasDocumentClass_run`, `ScanState.beginDocument_run`,
`ScanState.inclusions_run`), and that findings stay (`ScanState.findings_run_ne_nil`).
-/

namespace LatexRepair

/-- The token says something about the document beside its delimiters. -/
def Token.declares : Token → Bool
  | .beginEnvironment _ | .endEnvironment _ | .documentClass | .verbatim _ false
  | .inclusion _ _ => true
  | _ => false

/-- Four control symbols are delimiters. -/
theorem Token.mathSymbol_cases {P : Char → Prop} (openParen : P '(') (closeParen : P ')')
    (openBracket : P '[') (closeBracket : P ']')
    (other : ∀ c, c ≠ '(' → c ≠ ')' → c ≠ '[' → c ≠ ']' → P c) (c : Char) : P c := by
  obtain rfl | h₁ := eq_or_ne c '('
  · exact openParen
  obtain rfl | h₂ := eq_or_ne c ')'
  · exact closeParen
  obtain rfl | h₃ := eq_or_ne c '['
  · exact openBracket
  obtain rfl | h₄ := eq_or_ne c ']'
  · exact closeBracket
  exact other c h₁ h₂ h₃ h₄

/-- The inclusion that a lexeme is. -/
def Lexeme.inclusion? (x : Lexeme) : Option Inclusion :=
  match x.token with
  | .inclusion command target => some ⟨command, target, x.start⟩
  | _ => none

theorem filterMap_cons_eq {α β : Type*} (f : α → Option β) (x : α) (xs : List α) :
    (x :: xs).filterMap f = (f x).toList ++ xs.filterMap f := by
  rw [List.filterMap_cons]
  cases f x <;> rfl

namespace ScanState

/-- What a lexeme may make of a state. -/
inductive Acts (s : ScanState) (x : Lexeme) : ScanState → Prop where
  | begins {name : Text} (h : x.token = .beginEnvironment name) :
      Acts s x (s.openEnvironment name x.start)
  | ends {name : Text} (h : x.token = .endEnvironment name) :
      Acts s x (s.closeEnvironment name x.start x.stop)
  | documentClass (h : x.token = .documentClass) : Acts s x { s with hasDocumentClass := true }
  | unclosed {name : Text} (h : x.token = .verbatim name false) :
      Acts s x
        { s with findings := .unclosed ⟨name, x.start.line, x.start.column⟩ :: s.findings }
  | includes {command : IncludeCommand} {target : Text} (h : x.token = .inclusion command target) :
      Acts s x { s with inclusions := ⟨command, target, x.start⟩ :: s.inclusions }
  | delimits (ds : DelimiterStacks) (h : x.token.declares = false) :
      Acts s x { s with delimiters := ds }

/-- Dollar signs feed the stacks and change nothing else. -/
theorem exists_dollars_eq (s : ScanState) (p : Position) (n : Nat) :
    ∃ ds, s.dollars p n = { s with delimiters := ds } := by
  have htoggle : ∀ (s : ScanState) d p, ∃ ds, s.toggleDelimiter d p = { s with delimiters := ds } :=
    fun s d p => by
      unfold toggleDelimiter
      split <;> exact ⟨_, rfl⟩
  induction s, p, n using dollars.induct with
  | case1 s p => exact ⟨_, rfl⟩
  | case2 s p => exact htoggle s _ p
  | case3 s p n h ih =>
    obtain ⟨ds, hds⟩ := ih
    exact ⟨ds, by rw [dollars, if_pos h, hds]; rfl⟩
  | case4 s p n h ih =>
    obtain ⟨ds, hds⟩ := ih
    obtain ⟨es, hes⟩ := htoggle s .displayMath p
    exact ⟨ds, by rw [dollars, if_neg h, hds, hes]⟩

theorem acts_act (s : ScanState) (x : Lexeme) : Acts s x (s.act x) := by
  obtain ⟨token, start, stop⟩ := x
  cases token with
  | beginEnvironment name => exact .begins rfl
  | endEnvironment name => exact .ends rfl
  | documentClass => exact .documentClass rfl
  | inclusion command target => exact .includes rfl
  | verbatim name closed =>
    cases closed with
    | false => exact .unclosed rfl
    | true => exact .delimits s.delimiters rfl
  | openBracket | closeBracket =>
    unfold act
    dsimp only
    split <;> exact .delimits _ rfl
  | dollars n =>
    obtain ⟨ds, hds⟩ := s.exists_dollars_eq start n
    change Acts s _ (s.dollars start n)
    rw [hds]
    exact .delimits ds rfl
  | controlSymbol c =>
    induction c using Token.mathSymbol_cases with
    | other c h₁ h₂ h₃ h₄ =>
      have hact : s.act ⟨.controlSymbol c, start, stop⟩ = s := by simp [act, h₁, h₂, h₃, h₄]
      rw [hact]
      exact .delimits s.delimiters rfl
    | _ => exact .delimits _ rfl
  | _ => exact .delimits _ rfl

/-! ## Field by field -/

variable (s : ScanState) (x : Lexeme) (xs : List Lexeme)

theorem run_cons : s.run (x :: xs) = (s.step x).run xs := rfl

theorem run_append (ys : List Lexeme) : s.run (xs ++ ys) = (s.run xs).run ys :=
  List.foldl_append

theorem exists_noteTrailing_eq :
    ∃ p, s.noteTrailing x = { s with trailingContent := p } := by
  unfold noteTrailing
  split <;> exact ⟨_, rfl⟩

/-- A step is an action, but for trailing content. -/
theorem exists_acts_step : ∃ p, Acts { s with trailingContent := p } x (s.step x) := by
  obtain ⟨p, hp⟩ := s.exists_noteTrailing_eq x
  exact ⟨p, by rw [step, hp]; exact acts_act _ x⟩

variable {s} in
/-- What holds once a lexeme of some kind has been met holds after a run with one. -/
theorem any_run {f : ScanState → Bool} {P : Lexeme → Bool}
    (h : ∀ s x, f (step s x) = (f s || P x)) : f (s.run xs) = (f s || xs.any P) := by
  induction xs generalizing s with
  | nil => simp [run]
  | cons x xs ih => rw [run_cons, ih, h, List.any_cons, Bool.or_assoc]

theorem hasDocumentClass_step :
    (s.step x).hasDocumentClass = (s.hasDocumentClass || decide (x.token = .documentClass)) := by
  obtain ⟨p, h⟩ := s.exists_acts_step x
  generalize s.step x = s' at h
  cases h with
  | documentClass h => simp [h]
  | delimits ds h =>
    have : x.token ≠ .documentClass := fun heq => by rw [heq] at h; cases h
    simp [this]
  | begins h | ends h | unclosed h | includes h =>
    simp [h, openEnvironment, closeEnvironment]

theorem hasDocumentClass_run :
    (s.run xs).hasDocumentClass =
      (s.hasDocumentClass || xs.any fun x => x.token = .documentClass) :=
  any_run xs hasDocumentClass_step

theorem beginDocument_step :
    (s.step x).beginDocument.isSome =
      (s.beginDocument.isSome || decide (x.token = .beginEnvironment documentName)) := by
  obtain ⟨p, h⟩ := s.exists_acts_step x
  generalize s.step x = s' at h
  cases h with
  | begins h =>
    rw [h, openEnvironment]
    dsimp only
    split
    · rename_i hname
      cases s.beginDocument <;> simp [hname]
    · rename_i hname
      simp [hname]
  | delimits ds h =>
    have : x.token ≠ .beginEnvironment documentName := fun heq => by rw [heq] at h; cases h
    simp [this]
  | documentClass h | ends h | unclosed h | includes h => simp [h, closeEnvironment]

theorem beginDocument_run :
    (s.run xs).beginDocument.isSome =
      (s.beginDocument.isSome || xs.any fun x => x.token = .beginEnvironment documentName) :=
  any_run xs (f := (·.beginDocument.isSome)) beginDocument_step

theorem inclusions_step :
    (s.step x).inclusions = x.inclusion?.toList ++ s.inclusions := by
  obtain ⟨p, h⟩ := s.exists_acts_step x
  generalize s.step x = s' at h
  cases h with
  | delimits ds h =>
    obtain ⟨token, start, stop⟩ := x
    cases token with
    | inclusion => cases h
    | _ => rfl
  | begins h | ends h | unclosed h | includes h | documentClass h =>
    simp [h, Lexeme.inclusion?, openEnvironment, closeEnvironment]

theorem inclusions_run :
    (s.run xs).inclusions = (xs.filterMap Lexeme.inclusion?).reverse ++ s.inclusions := by
  induction xs generalizing s with
  | nil => simp [run]
  | cons x xs ih =>
    rw [run_cons, ih, inclusions_step, filterMap_cons_eq]
    cases x.inclusion? <;> simp

/-- Trailing content is met with a lexeme that counts, behind the end of the document. -/
theorem trailingContent_step :
    (s.step x).trailingContent.isSome = true ↔
      s.trailingContent.isSome = true ∨
        s.documentEnd.isSome = true ∧ isSignificant x.token = true := by
  have hact : (s.step x).trailingContent = (s.noteTrailing x).trailingContent := by
    have h := acts_act (s.noteTrailing x) x
    rw [step]
    generalize (s.noteTrailing x).act x = s' at h ⊢
    cases h <;> rfl
  rw [hact, noteTrailing]
  split
  · rename_i h
    rw [Bool.and_eq_true] at h
    exact iff_of_true (by cases s.trailingContent <;> rfl) (.inr h)
  · rename_i h
    rw [Bool.and_eq_true] at h
    exact ⟨.inl, fun h' => h'.resolve_right h⟩

/-- The document ends with an `\end` of its environment, where it has not ended before. -/
theorem documentEnd_step_cases :
    (s.step x).documentEnd = s.documentEnd ∨
      s.documentEnd = none ∧ x.token = .endEnvironment documentName ∧
        (s.step x).documentEnd = some ⟨x.start, x.stop.offset⟩ := by
  obtain ⟨p, h⟩ := s.exists_acts_step x
  generalize s.step x = s' at h
  cases h with
  | @ends name h =>
    dsimp only [closeEnvironment]
    split
    · rename_i hcloses
      simp only [Bool.and_eq_true, decide_eq_true_eq] at hcloses
      cases hend : s.documentEnd with
      | none => exact .inr ⟨rfl, hcloses.1.2 ▸ h, rfl⟩
      | some d => exact .inl rfl
    · exact .inl rfl
  | begins h | documentClass h | unclosed h | includes h | delimits ds h => exact .inl rfl

section EndOfDocument

variable {s xs}

theorem documentEnd_run_of_some {d : DocumentEnd} (h : s.documentEnd = some d) :
    (s.run xs).documentEnd = some d := by
  induction xs generalizing s with
  | nil => exact h
  | cons x xs ih =>
    refine ih ?_
    rcases s.documentEnd_step_cases x with heq | ⟨hnone, -⟩
    · rw [heq, h]
    · cases h.symm.trans hnone

theorem documentEnd_run_eq_none (h : s.documentEnd = none)
    (hxs : ∀ x ∈ xs, x.token ≠ .endEnvironment documentName) :
    (s.run xs).documentEnd = none := by
  induction xs generalizing s with
  | nil => exact h
  | cons x xs ih =>
    obtain ⟨hx, hxs⟩ := List.forall_mem_cons.1 hxs
    refine ih ?_ hxs
    rcases s.documentEnd_step_cases x with heq | ⟨-, htoken, -⟩
    · rw [heq, h]
    · exact absurd htoken hx

/-- The end of the document is met with a lexeme, and not before. -/
theorem exists_documentEnd_step {d : DocumentEnd} (h : s.documentEnd = none)
    (hd : (s.run xs).documentEnd = some d) :
    ∃ before x behind, xs = before ++ x :: behind ∧ (s.run before).documentEnd = none ∧
      x.token = .endEnvironment documentName ∧
      ((s.run before).step x).documentEnd = some d ∧ d = ⟨x.start, x.stop.offset⟩ := by
  induction xs generalizing s with
  | nil => cases h.symm.trans hd
  | cons x xs ih =>
    rcases s.documentEnd_step_cases x with heq | ⟨-, htoken, hend⟩
    · obtain ⟨before, y, behind, rfl, hbefore, hy⟩ := ih (heq.trans h) hd
      exact ⟨x :: before, y, behind, rfl, hbefore, hy⟩
    · have hstays : (s.run (x :: xs)).documentEnd = some ⟨x.start, x.stop.offset⟩ := by
        rw [run_cons]
        exact documentEnd_run_of_some hend
      obtain rfl := Option.some.inj (hd.symm.trans hstays)
      exact ⟨[], x, xs, rfl, h, htoken, hend, rfl⟩

end EndOfDocument

variable {s}

/-- A step adds findings, none of them about delimiters, and takes none away. -/
theorem exists_findings_step (s : ScanState) :
    ∃ fs, (s.step x).findings = fs ++ s.findings ∧
      ∀ f ∈ fs, (∃ env, f = .unclosed env) ∨ ∃ name p, f ∈ endFindings name p s.environments := by
  obtain ⟨p, h⟩ := s.exists_acts_step x
  generalize s.step x = s' at h
  cases h with
  | ends h =>
    exact ⟨_, rfl, fun f hf => .inr ⟨_, _, List.mem_reverse.1 hf⟩⟩
  | unclosed h => exact ⟨[_], rfl, fun f hf => .inl ⟨_, List.mem_singleton.1 hf⟩⟩
  | begins h | includes h | documentClass h | delimits ds h => exact ⟨[], rfl, by simp⟩

theorem findings_run_ne_nil (h : s.findings ≠ []) : (s.run xs).findings ≠ [] := by
  induction xs generalizing s with
  | nil => exact h
  | cons x xs ih =>
    obtain ⟨fs, hfs, -⟩ := exists_findings_step x s
    refine ih ?_
    rw [hfs]
    simp [h]

end ScanState

end LatexRepair
