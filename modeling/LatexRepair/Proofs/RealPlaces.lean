import LatexRepair.Proofs.EnvironmentAccount

/-!
# Reported positions

Every position that a scan reports is that of a place in the document, in bytes as well as in
lines and columns, and the text at the place is what is reported there : the delimiter, the
`\begin` or `\end`, the inclusion command, or a character that counts as content behind the end
of the document (`Shows`, `scan_isReal`).

A position that has been moved past a text counts that text (`Position.line_after`,
`Position.column_after_start`), so a lexeme starts where its token is spelled
(`Lexeme.shows_of_mem`). All positions that a scan keeps are those of lexemes, or lie inside a
run of dollar signs. `ScanState.IsReal` says so for a state; each operation of a scan keeps it,
so each step (`ScanState.IsReal.step`), and so a run over the lexemes of the document.
-/

namespace LatexRepair

/-! ## Places -/

/-- The text `token` stands in `t` at `p`, which counts the bytes and the newlines before it,
and the characters between the last newline and it. -/
def Shows (t token : Text) (p : Position) : Prop :=
  ∃ a r, t = a ++ (token ++ r) ∧ p.offset = Text.byteLength a ∧ p.line = 1 + a.count '\n' ∧
    p.column = 1 + (a.reverse.takeWhile (· ≠ '\n')).length

namespace Position

theorem line_after (p : Position) (a : Text) : (p.after a).line = p.line + a.count '\n' := by
  induction a generalizing p with
  | nil => rfl
  | cons c a ih =>
    rw [after_cons, ih, next]
    by_cases hc : c = '\n'
    · rw [if_pos hc, hc, List.count_cons_self, Nat.add_assoc, Nat.add_comm 1]
    · rw [if_neg hc, List.count_cons_of_ne hc]

theorem column_after_start (a : Text) :
    (start.after a).column = 1 + (a.reverse.takeWhile (· ≠ '\n')).length := by
  induction a using List.reverseRecOn with
  | nil => rfl
  | append_singleton a c ih =>
    rw [after_append, after_cons, after_nil, next, List.reverse_append, List.reverse_singleton,
      List.singleton_append]
    by_cases hc : c = '\n'
    · rw [if_pos hc, List.takeWhile_cons_of_neg (by simp [hc])]
      rfl
    · rw [if_neg hc, List.takeWhile_cons_of_pos (by simp [hc]), List.length_cons, ih,
        Nat.add_assoc]

end Position

theorem shows_after (a token r : Text) :
    Shows (a ++ (token ++ r)) token (Position.start.after a) := by
  refine ⟨a, r, rfl, ?_, Position.line_after _ a, Position.column_after_start a⟩
  rw [Position.offset_after]
  exact Nat.zero_add _

theorem Shows.mono {t token token' : Text} {p : Position} (h : Shows t token p)
    (htoken : token' <+: token) : Shows t token' p := by
  obtain ⟨a, r, rfl, hp⟩ := h
  obtain ⟨s, rfl⟩ := htoken
  exact ⟨a, s ++ r, by simp, hp⟩

/-! ## Tokens -/

/-- The text that a token starts with. -/
def Token.spelling : Token → Text
  | .openBrace => ['{']
  | .closeBrace => ['}']
  | .openBracket => ['[']
  | .closeBracket => [']']
  | .dollars n => List.replicate n '$'
  | .controlSymbol c => ['\\', c]
  | .beginEnvironment _ | .verbatim _ _ => "\\begin".toList
  | .endEnvironment _ => "\\end".toList
  | .inclusion command _ => '\\' :: command.name.toList
  | _ => []

namespace Lexeme

theorem spelling_controlWordToken (name t : Text) :
    (controlWordToken name t).1.spelling <+: '\\' :: name := by
  unfold controlWordToken
  split
  · rename_i hname
    have hverbatim : ∀ env u, (verbatimToken env u).1.spelling = '\\' :: name := fun env u => by
      unfold verbatimToken
      rw [hname]
      split <;> rfl
    split
    · split
      · exact (hverbatim _ _).symm ▸ List.prefix_refl _
      · rw [hname]
        exact List.prefix_refl _
    · exact List.nil_prefix
  · split
    · rename_i hname
      split
      · rw [hname]
        exact List.prefix_refl _
      · exact List.nil_prefix
    · split
      · exact List.nil_prefix
      · split
        · exact List.nil_prefix
        · split
          · rename_i command target n hcommand hgroup
            have hname : command.name.toList = name := by
              simpa [IncludeCommand.ofName?] using List.find?_some hcommand
            rw [← hname]
            exact List.prefix_refl _
          · exact List.nil_prefix

/-- A lexeme starts with the spelling of its token. -/
theorem spelling_lexeme (c : Char) (t : Text) : (lexeme c t).1.spelling <+: c :: t := by
  unfold lexeme
  split
  case h_2 =>
    cases t with
    | nil => exact List.nil_prefix
    | cons d t =>
      by_cases hd : isCommandChar d = true
      · simp only [controlToken, hd, ↓reduceIte]
        refine (spelling_controlWordToken _ _).trans ?_
        exact List.cons_prefix_cons.2 ⟨rfl, List.takeWhile_prefix _⟩
      · simp only [controlToken, hd, Bool.false_eq_true, ↓reduceIte]
        exact ⟨t, rfl⟩
  case h_7 =>
    have hall : t.takeWhile (· = '$') = List.replicate (t.takeWhile (· = '$')).length '$' :=
      List.eq_replicate_of_mem fun c hc => by simpa using List.mem_takeWhile_imp hc
    refine List.cons_prefix_cons.2 ⟨rfl, ?_⟩
    rw [← hall]
    exact List.takeWhile_prefix _
  all_goals first | exact List.nil_prefix | exact ⟨t, rfl⟩

/-- What counts as content is neither white space nor a comment. -/
theorem isSignificant_lexeme {c : Char} {t : Text}
    (h : ScanState.isSignificant (lexeme c t).1 = true) : isBlank c = false ∧ c ≠ '%' := by
  unfold lexeme at h
  split at h
  case h_1 => cases h
  case h_8 h₁ _ _ _ _ _ _ => exact ⟨by simpa [ScanState.isSignificant] using h, h₁⟩
  all_goals exact ⟨by decide, by decide⟩

theorem exists_of_mem {t : Text} {x : Lexeme} (hx : x ∈ lexemes t) :
    ∃ a c r, t = a ++ c :: r ∧ x.token = (lexeme c r).1 ∧ x.start = Position.start.after a := by
  obtain ⟨a, c, r, -, ht, -, htoken, hstart⟩ := exists_reads_of_mem hx
  exact ⟨a, c, r, ht, htoken, hstart⟩

/-- A lexeme of a document stands where its token is spelled. -/
theorem exists_spelling_of_mem {t : Text} {x : Lexeme} (hx : x ∈ lexemes t) :
    ∃ a r, t = a ++ (x.token.spelling ++ r) ∧ x.start = Position.start.after a := by
  obtain ⟨a, c, r, rfl, htoken, hstart⟩ := exists_of_mem hx
  obtain ⟨s, hs⟩ := spelling_lexeme c r
  exact ⟨a, s, by rw [htoken, hs], hstart⟩

theorem shows_of_mem {t : Text} {x : Lexeme} (hx : x ∈ lexemes t) :
    Shows t x.token.spelling x.start := by
  obtain ⟨a, r, rfl, hstart⟩ := exists_spelling_of_mem hx
  rw [hstart]
  exact shows_after a _ r

end Lexeme

/-! ## What is kept and reported -/

section IsReal

variable (t : Text)

/-- The line and column are those of a `\begin`. -/
def OpenEnvironment.IsReal (env : OpenEnvironment) : Prop :=
  ∃ p, Shows t "\\begin".toList p ∧ env.line = p.line ∧ env.column = p.column

/-- Each place that the finding names is that of what it names. -/
def Finding.IsReal : Finding → Prop
  | unmatchedOpen d p => Shows t d.openText.toList p
  | unmatchedClose d p => Shows t d.closeText.toList p
  | misordered d closer opener =>
    Shows t d.closeText.toList closer ∧ Shows t d.openText.toList opener
  | interrupted env _ p => env.IsReal t ∧ Shows t "\\end".toList p
  | mismatchedEnd _ _ line p =>
    Shows t "\\end".toList p ∧ ∃ q, Shows t "\\begin".toList q ∧ line = q.line
  | unmatchedEnd _ p => Shows t "\\end".toList p
  | unclosed env => env.IsReal t

/-- The delimiters of the stack stand in the text. -/
structure Delimiter.Stack.IsReal (d : Delimiter) (s : Delimiter.Stack) : Prop where
  opens : ∀ p ∈ s.opens, Shows t d.openText.toList p
  strays : ∀ p ∈ s.strays, Shows t d.closeText.toList p

/-- A character that is neither white space nor a percent sign stands in the text. -/
def ShowsContent (p : Position) : Prop :=
  ∃ c, isBlank c = false ∧ c ≠ '%' ∧ Shows t [c] p

/-- All places that a scan keeps are real. -/
structure ScanState.IsReal (s : ScanState) : Prop where
  delimiters : ∀ d, (s.delimiters.get d).IsReal t d
  environments : ∀ env ∈ s.environments, env.IsReal t
  findings : ∀ f ∈ s.findings, f.IsReal t
  beginDocument : ∀ p ∈ s.beginDocument, Shows t "\\begin".toList p
  documentEnd : ∀ e ∈ s.documentEnd, Shows t "\\end".toList e.start
  trailingContent : ∀ p ∈ s.trailingContent, ShowsContent t p
  inclusions : ∀ x ∈ s.inclusions, Shows t ('\\' :: x.command.name.toList) x.pos

/-- All places that a scan reports are real, and the findings are in order. -/
structure ScanOutcome.IsReal (o : ScanOutcome) : Prop where
  findings : ∀ f ∈ o.findings, f.IsReal t
  beginDocument : ∀ p ∈ o.beginDocument, Shows t "\\begin".toList p
  documentEnd : ∀ e ∈ o.documentEnd, Shows t "\\end".toList e.start
  trailingContent : ∀ p ∈ o.trailingContent, ShowsContent t p
  inclusions : ∀ x ∈ o.inclusions, Shows t ('\\' :: x.command.name.toList) x.pos
  sorted : o.findings.Pairwise fun f g =>
    f.place.1 < g.place.1 ∨ f.place.1 = g.place.1 ∧ f.place.2 ≤ g.place.2

end IsReal

variable {t : Text}

/-! ## Delimiters -/

namespace Delimiter.Stack.IsReal

variable {d : Delimiter} {s : Stack} {p : Position}

theorem push (h : s.IsReal t d) (hp : Shows t d.openText.toList p) : (s.push p).IsReal t d :=
  ⟨List.forall_mem_cons.2 ⟨hp, h.opens⟩, h.strays⟩

theorem pop (h : s.IsReal t d) (hp : Shows t d.closeText.toList p) : (s.pop p).IsReal t d := by
  obtain ⟨opens, strays⟩ := s
  cases opens with
  | nil => exact ⟨h.opens, List.forall_mem_cons.2 ⟨hp, h.strays⟩⟩
  | cons q outer => exact ⟨(List.forall_mem_cons.1 h.opens).2, h.strays⟩

/-- The findings of a stack name what the stack holds. -/
theorem of_mem_ofStack (h : s.IsReal t d) {f : Finding} (hf : f ∈ Finding.ofStack d s) :
    f.IsReal t := by
  unfold Finding.ofStack at hf
  rcases List.mem_append.1 hf with hf | hf
  · rcases List.mem_append.1 hf with hf | hf
    · obtain ⟨p, hp, rfl⟩ := List.mem_map.1 hf
      exact h.strays p (List.mem_reverse.1 (List.mem_of_mem_take hp))
    · obtain ⟨⟨closer, opener⟩, hpair, rfl⟩ := List.mem_map.1 hf
      obtain ⟨hcloser, hopener⟩ := List.of_mem_zip hpair
      exact ⟨h.strays closer (List.mem_reverse.1 (List.mem_of_mem_drop hcloser)),
        h.opens opener (List.mem_reverse.1 (List.mem_of_mem_take hopener))⟩
  · obtain ⟨p, hp, rfl⟩ := List.mem_map.1 hf
    exact h.opens p (List.mem_reverse.1 (List.mem_of_mem_drop hp))

end Delimiter.Stack.IsReal

namespace ScanState.IsReal

variable {s : ScanState} {d : Delimiter} {p : Position}

theorem modify (h : s.IsReal t) {f : Delimiter.Stack → Delimiter.Stack}
    (hf : (f (s.delimiters.get d)).IsReal t d) :
    IsReal t { s with delimiters := s.delimiters.modify d f } := by
  refine { h with delimiters := fun e => ?_ }
  by_cases he : e = d
  · rw [he, DelimiterStacks.get_modify_self]
    exact hf
  · rw [DelimiterStacks.get_modify_of_ne _ he]
    exact h.delimiters e

theorem openDelimiter (h : s.IsReal t) (hp : Shows t d.openText.toList p) :
    (s.openDelimiter d p).IsReal t :=
  h.modify ((h.delimiters d).push hp)

theorem closeDelimiter (h : s.IsReal t) (hp : Shows t d.closeText.toList p) :
    (s.closeDelimiter d p).IsReal t :=
  h.modify ((h.delimiters d).pop hp)

theorem toggleDelimiter (h : s.IsReal t) (hopen : Shows t d.openText.toList p)
    (hclose : Shows t d.closeText.toList p) : (s.toggleDelimiter d p).IsReal t := by
  unfold ScanState.toggleDelimiter
  split
  · exact h.closeDelimiter hclose
  · exact h.openDelimiter hopen

/-- Each delimiter of a run of dollar signs stands in it. -/
theorem dollars (h : s.IsReal t) {n : Nat} {a r : Text}
    (ht : t = a ++ (List.replicate n '$' ++ r)) :
    (s.dollars (Position.start.after a) n).IsReal t := by
  generalize hp : Position.start.after a = p
  induction s, p, n using ScanState.dollars.induct generalizing a with
  | case1 s p => exact h
  | case2 s p =>
    have hone : Shows t ['$'] p := by
      rw [ht, ← hp]
      exact shows_after a ['$'] r
    exact h.toggleDelimiter hone hone
  | case3 s p n hopen ih =>
    have hnext : t = (a ++ ['$']) ++ (List.replicate (n + 1) '$' ++ r) := by
      rw [ht, List.append_assoc]
      rfl
    have hone : Shows t ['$'] p := by
      rw [ht, ← hp]
      exact shows_after a ['$'] (List.replicate (n + 1) '$' ++ r)
    rw [ScanState.dollars, if_pos hopen]
    exact ih (h.closeDelimiter hone) hnext (by rw [Position.after_append, hp]; rfl)
  | case4 s p n hopen ih =>
    have hnext : t = (a ++ ['$', '$']) ++ (List.replicate n '$' ++ r) := by
      rw [ht, List.append_assoc]
      rfl
    have htwo : Shows t ['$', '$'] p := by
      rw [ht, ← hp]
      exact shows_after a ['$', '$'] (List.replicate n '$' ++ r)
    rw [ScanState.dollars, if_neg hopen]
    exact ih (h.toggleDelimiter htwo htwo) hnext (by rw [Position.after_append, hp]; rfl)

/-! ## Environments -/

theorem isReal_of_shows {name : Text} (hp : Shows t "\\begin".toList p) :
    OpenEnvironment.IsReal t ⟨name, p.line, p.column⟩ :=
  ⟨p, hp, rfl, rfl⟩

theorem openEnvironment (h : s.IsReal t) (name : Text) (hp : Shows t "\\begin".toList p) :
    (s.openEnvironment name p).IsReal t where
  __ := h
  environments := List.forall_mem_cons.2 ⟨isReal_of_shows hp, h.environments⟩
  beginDocument := by
    unfold ScanState.openEnvironment
    dsimp only
    split
    · intro q hq
      rcases Option.or_eq_some_iff.1 hq with hq | ⟨-, hq⟩
      · exact h.beginDocument q hq
      · exact Option.some.inj hq ▸ hp
    · exact h.beginDocument

/-- What an end reports names the environments that were open. -/
theorem endFindings {name : Text} {open_ : List OpenEnvironment}
    (h : ∀ env ∈ open_, env.IsReal t) (hp : Shows t "\\end".toList p) :
    ∀ f ∈ ScanState.endFindings name p open_, f.IsReal t := by
  cases open_ with
  | nil => exact List.forall_mem_singleton.2 hp
  | cons top outer =>
    unfold ScanState.endFindings
    dsimp only
    split
    · simp
    · intro f hf
      rcases List.mem_append.1 hf with hf | hf
      · obtain ⟨env, henv, rfl⟩ := List.mem_map.1 hf
        refine ⟨h env ?_, hp⟩
        rw [← ScanState.splitAtEnd_append name (top :: outer)]
        exact List.mem_append_left _ henv
      · obtain rfl := List.mem_singleton.1 hf
        obtain ⟨q, hq, hline, -⟩ := h top (List.mem_cons_self ..)
        exact ⟨hp, q, hq, hline⟩

theorem closeEnvironment (h : s.IsReal t) (name : Text) (hp : Shows t "\\end".toList p)
    (stop : Position) : (s.closeEnvironment name p stop).IsReal t where
  __ := h
  environments := fun env henv => by
    refine h.environments env ?_
    rw [← ScanState.splitAtEnd_append name s.environments]
    exact List.mem_append_right _ (List.mem_append_right _ henv)
  findings := fun f hf => by
    rcases List.mem_append.1 hf with hf | hf
    · exact endFindings h.environments hp f (List.mem_reverse.1 hf)
    · exact h.findings f hf
  documentEnd := by
    unfold ScanState.closeEnvironment
    dsimp only
    split
    · intro e he
      rcases Option.or_eq_some_iff.1 he with he | ⟨-, he⟩
      · exact h.documentEnd e he
      · exact Option.some.inj he ▸ hp
    · exact h.documentEnd

/-! ## Steps -/

variable {x : Lexeme}

theorem noteTrailing (h : s.IsReal t) (hx : x ∈ Lexeme.lexemes t) :
    (s.noteTrailing x).IsReal t := by
  unfold ScanState.noteTrailing
  split
  · rename_i hsignificant
    obtain ⟨-, hsignificant⟩ := Bool.and_eq_true_iff.1 hsignificant
    refine { h with trailingContent := fun p hp => ?_ }
    rcases Option.or_eq_some_iff.1 hp with hp | ⟨-, hp⟩
    · exact h.trailingContent p hp
    · obtain ⟨a, c, r, rfl, htoken, hstart⟩ := Lexeme.exists_of_mem hx
      rw [htoken] at hsignificant
      obtain ⟨hblank, hpercent⟩ := Lexeme.isSignificant_lexeme hsignificant
      obtain rfl := Option.some.inj hp
      exact ⟨c, hblank, hpercent, hstart ▸ shows_after a [c] r⟩
  · exact h

theorem act (h : s.IsReal t) (hx : x ∈ Lexeme.lexemes t) : (s.act x).IsReal t := by
  have hshows := Lexeme.shows_of_mem hx
  have hspelling := Lexeme.exists_spelling_of_mem hx
  obtain ⟨token, start, stop⟩ := x
  dsimp only at hshows hspelling
  unfold ScanState.act
  cases token with
  | openBrace => exact h.openDelimiter hshows
  | closeBrace => exact h.closeDelimiter hshows
  | openBracket =>
    dsimp only
    split
    · exact h
    · exact h.openDelimiter hshows
  | closeBracket =>
    dsimp only
    split
    · exact h
    · exact h.closeDelimiter hshows
  | dollars n =>
    obtain ⟨a, r, ht, rfl⟩ := hspelling
    exact h.dollars ht
  | controlSymbol c =>
    induction c using Token.mathSymbol_cases with
    | openParen => exact h.openDelimiter hshows
    | closeParen => exact h.closeDelimiter hshows
    | openBracket => exact h.openDelimiter hshows
    | closeBracket => exact h.closeDelimiter hshows
    | other c h₁ h₂ h₃ h₄ => simpa [h₁, h₂, h₃, h₄] using h
  | documentClass => exact { h with }
  | beginEnvironment name => exact h.openEnvironment name hshows
  | endEnvironment name => exact h.closeEnvironment name hshows stop
  | verbatim name closed =>
    cases closed with
    | true => exact h
    | false =>
      exact { h with findings := List.forall_mem_cons.2 ⟨isReal_of_shows hshows, h.findings⟩ }
  | inclusion command target =>
    exact { h with inclusions := List.forall_mem_cons.2 ⟨hshows, h.inclusions⟩ }
  | _ => exact h

/-- A step over a lexeme of the document keeps all places real. -/
theorem step (h : s.IsReal t) (hx : x ∈ Lexeme.lexemes t) : (s.step x).IsReal t :=
  (h.noteTrailing hx).act hx

theorem run (h : s.IsReal t) {xs : List Lexeme} (hxs : ∀ x ∈ xs, x ∈ Lexeme.lexemes t) :
    (s.run xs).IsReal t := by
  induction xs generalizing s with
  | nil => exact h
  | cons x xs ih =>
    obtain ⟨hx, hxs⟩ := List.forall_mem_cons.1 hxs
    exact ih (h.step hx) hxs

theorem init : IsReal t {} where
  delimiters := fun d => by
    have hget : DelimiterStacks.get {} d = {} := by cases d <;> rfl
    rw [hget]
    exact ⟨by simp, by simp⟩
  environments := by simp
  findings := by simp
  beginDocument := by simp
  documentEnd := by simp
  trailingContent := by simp
  inclusions := by simp

/-! ## The outcome -/

theorem allFindings (h : s.IsReal t) : ∀ f ∈ s.allFindings, f.IsReal t := by
  intro f hf
  rcases List.mem_append.1 hf with hf | hf
  · rcases List.mem_append.1 hf with hf | hf
    · exact h.findings f (List.mem_reverse.1 hf)
    · obtain ⟨d, -, hf⟩ := List.mem_flatMap.1 hf
      exact (h.delimiters d).of_mem_ofStack hf
  · obtain ⟨env, henv, rfl⟩ := List.mem_map.1 hf
    exact h.environments env (List.mem_reverse.1 henv)

end ScanState.IsReal

/-- The findings stand in the order of their lines, and on one line in that of their columns. -/
theorem Finding.pairwise_sort (fs : List Finding) :
    (sort fs).Pairwise fun f g =>
      f.place.1 < g.place.1 ∨ f.place.1 = g.place.1 ∧ f.place.2 ≤ g.place.2 := by
  have hsorted : (sort fs).Pairwise fun f g => Position.le f.place g.place = true := by
    refine List.pairwise_mergeSort (fun f g k h h' => ?_) (fun f g => ?_) fs
    · exact Position.le_trans h h'
    · exact Position.le_total _ _
  exact hsorted.imp Position.le_iff.1

/-- Every position that a scan reports is real, and its findings are in order. -/
theorem scan_isReal (t : Text) : (scan t).IsReal t := by
  have h : (ScanState.run {} (Lexeme.lexemes t)).IsReal t :=
    ScanState.IsReal.init.run fun _ hx => hx
  refine ⟨fun f hf => ?_, h.beginDocument, h.documentEnd, h.trailingContent, fun x hx => ?_, ?_⟩
  · exact h.allFindings f ((List.mergeSort_perm _ _).mem_iff.1 hf)
  · exact h.inclusions x (List.mem_reverse.1 hx)
  · exact Finding.pairwise_sort _

end LatexRepair
