import LatexRepair.Proofs.AlignedPass
import LatexRepair.Proofs.BracePatch
import Mathlib.Algebra.BigOperators.Group.List.Basic
import Mathlib.Algebra.Ring.Int.Defs

/-!
# The code of a document

A character of a document is code when it stands in no comment and no backslash escapes it.
Two readers tell code from the rest : the scan, lexeme by lexeme, and the helpers for lines,
which cut a line where its comment starts and count its backslashes. `codePlacesFrom` lists
the code of a document character by character, every line afresh, and both readers agree
with the list (`agrees_codePlacesFrom`, `codePlaces_unlines`), unless a `\verb` or a verbatim
environment takes text literally (`NoLiteral`).

So the two agree with each other (`lines_agree_with_scan`) : the lines have as many opening
less closing braces as the scan meets, and each line has its comment where the scan enters
one.
-/

namespace LatexRepair

/-! ## Text that is taken literally -/

/-- The token takes text literally. -/
def Token.isLiteral : Token → Bool
  | .verb | .verbatim _ _ => true
  | _ => false

/-- A scan of the document takes no text literally. -/
def NoLiteral (t : Text) : Prop :=
  ∀ x ∈ Lexeme.lexemes t, x.token.isLiteral = false

instance (t : Text) : Decidable (NoLiteral t) :=
  inferInstanceAs (Decidable (∀ x ∈ Lexeme.lexemes t, x.token.isLiteral = false))

/-- Behind a backslash, the text starts with the control word `verb`, or with `begin` and the
name of a verbatim environment. -/
def StartsLiteral (t : Text) : Prop :=
  t.takeWhile isCommandChar = "verb".toList ∨
    t.takeWhile isCommandChar = "begin".toList ∧
      ∃ env n, Lexeme.groupArgument? (t.drop "begin".toList.length) = some (env, n) ∧
        Catalog.mem env Catalog.verbatimEnvironments = true

namespace Lexeme

theorem isLiteral_verbatimToken (name t : Text) : (verbatimToken name t).1.isLiteral = true := by
  unfold verbatimToken
  split <;> rfl

theorem isLiteral_controlWordToken_iff (name t : Text) :
    (controlWordToken name t).1.isLiteral = true ↔
      name = "verb".toList ∨ name = "begin".toList ∧
        ∃ env n, groupArgument? t = some (env, n) ∧
          Catalog.mem env Catalog.verbatimEnvironments = true := by
  unfold controlWordToken
  by_cases hbegin : name = "begin".toList
  · have hverb : name ≠ "verb".toList := by rw [hbegin]; decide
    simp only [hbegin, ↓reduceIte, true_and]
    cases hg : groupArgument? t with
    | none => simp [Token.isLiteral]
    | some arg =>
      obtain ⟨env, n⟩ := arg
      have hliteral := isLiteral_verbatimToken env (t.drop n)
      by_cases hv : Catalog.mem env Catalog.verbatimEnvironments = true
      · simp [hv, hliteral]
      · simp [hv, Token.isLiteral]
  · by_cases hverb : name = "verb".toList
    · rw [hverb]
      simp [Token.isLiteral]
    · simp only [hbegin, hverb, ↓reduceIte, false_and, or_self, iff_false]
      repeat' split
      all_goals simp [Token.isLiteral]

/-- A lexeme takes text literally where its text says so. -/
theorem isLiteral_lexeme_iff (c : Char) (t : Text) :
    (lexeme c t).1.isLiteral = true ↔ c = '\\' ∧ StartsLiteral t := by
  by_cases hc : c = '\\'
  · subst hc
    change (controlToken t).1.isLiteral = true ↔ _
    rw [eq_self, true_and, StartsLiteral]
    cases t with
    | nil => simp [controlToken, Token.isLiteral]
    | cons d t =>
      by_cases hd : isCommandChar d = true
      · simp only [controlToken, hd, ↓reduceIte]
        rw [isLiteral_controlWordToken_iff]
        refine or_congr_right (and_congr_right fun hname => ?_)
        rw [hname]
      · simp [controlToken, hd, Token.isLiteral]
  · refine iff_of_false ?_ fun h => hc h.1
    unfold lexeme
    split <;> first | exact absurd rfl hc | simp [Token.isLiteral]

end Lexeme

/-! ## Code, character by character -/

/-- How far the reading of a line has come. -/
inductive LineState where
  | code
  /-- Behind a backslash that is code. -/
  | escaped
  | comment
deriving DecidableEq

/-- The state behind a character of code. -/
def LineState.behind (c : Char) : LineState :=
  if c = '\\' then .escaped else if c = '%' then .comment else .code

/-- A character of code, or a percent sign that starts a comment. -/
structure CodePlace where
  pos : Position
  char : Char
  /-- The text behind the character. -/
  rest : Text

/-- The code of a text that starts at `p`, each line read from its start. -/
def codePlacesFrom (state : LineState) (p : Position) : Text → List CodePlace
  | [] => []
  | c :: t =>
    if c = '\n' then codePlacesFrom .code (p.next c) t
    else
      match state with
      | .code => ⟨p, c, t⟩ :: codePlacesFrom (.behind c) (p.next c) t
      | .escaped => codePlacesFrom .code (p.next c) t
      | .comment => codePlacesFrom .comment (p.next c) t

section Reading

variable {state : LineState} {p : Position} {c : Char} {t : Text}

theorem codePlacesFrom_newline :
    codePlacesFrom state p ('\n' :: t) = codePlacesFrom .code (p.next '\n') t := by
  cases state <;> rw [codePlacesFrom, if_pos rfl]

theorem codePlacesFrom_code (hc : c ≠ '\n') :
    codePlacesFrom .code p (c :: t) = ⟨p, c, t⟩ :: codePlacesFrom (.behind c) (p.next c) t := by
  rw [codePlacesFrom, if_neg hc]

theorem codePlacesFrom_escaped :
    codePlacesFrom .escaped p (c :: t) = codePlacesFrom .code (p.next c) t := by
  rw [codePlacesFrom]
  exact ite_self _

theorem codePlacesFrom_comment (hc : c ≠ '\n') :
    codePlacesFrom .comment p (c :: t) = codePlacesFrom .comment (p.next c) t := by
  rw [codePlacesFrom, if_neg hc]

/-- Where a line is over, the state of its reading does not matter. -/
theorem codePlacesFrom_eq_of_head? (h : t = [] ∨ t.head? = some '\n') :
    codePlacesFrom state p t = codePlacesFrom .code p t := by
  rcases h with rfl | h
  · rfl
  · obtain ⟨t, rfl⟩ := List.head?_eq_some_iff.1 h
    rw [codePlacesFrom_newline, codePlacesFrom_newline]

end Reading

/-! ## The code that the scan reads -/

/-- The marker that the scan reads behind a backslash. -/
def readMarker? (t : Text) : Option Marker :=
  let name := t.takeWhile isCommandChar
  let group := Lexeme.groupArgument? (t.drop name.length)
  if name = "begin".toList then group.map fun x => ⟨.opening, x.1⟩
  else if name = "end".toList then group.map fun x => ⟨.closing, x.1⟩
  else none

/-- A token that takes no text literally has the marker that is read. -/
theorem marker?_controlToken {t : Text} (h : (Lexeme.controlToken t).1.isLiteral = false)
    (p q : Position) : Lexeme.marker? ⟨(Lexeme.controlToken t).1, p, q⟩ = readMarker? t := by
  cases t with
  | nil => rfl
  | cons d t =>
    by_cases hd : isCommandChar d = true
    · simp only [Lexeme.controlToken, hd, ↓reduceIte] at h ⊢
      unfold readMarker?
      dsimp only
      generalize (d :: t).takeWhile isCommandChar = name at h ⊢
      generalize (d :: t).drop name.length = r at h ⊢
      rw [Bool.eq_false_iff, ne_eq, Lexeme.isLiteral_controlWordToken_iff, not_or] at h
      obtain ⟨hverb, hverbatim⟩ := h
      unfold Lexeme.controlWordToken
      by_cases hbegin : name = "begin".toList
      · rw [if_pos hbegin, if_pos hbegin]
        cases hg : Lexeme.groupArgument? r with
        | none => rfl
        | some arg =>
          obtain ⟨env, n⟩ := arg
          have hmem : ¬Catalog.mem env Catalog.verbatimEnvironments = true :=
            fun hmem => hverbatim ⟨hbegin, env, n, hg, hmem⟩
          simp only [if_neg hmem, Option.map_some]
          rfl
      · rw [if_neg hbegin, if_neg hbegin]
        by_cases hend : name = "end".toList
        · rw [if_pos hend, if_pos hend]
          cases Lexeme.groupArgument? r <;> rfl
        · rw [if_neg hend, if_neg hend, if_neg hverb]
          repeat' split
          all_goals rfl
    · have hname : (d :: t).takeWhile isCommandChar = [] := List.takeWhile_cons_of_neg hd
      have hread : readMarker? (d :: t) = none := by
        unfold readMarker?
        rw [hname]
        rfl
      simp only [Lexeme.controlToken, hd, Bool.false_eq_true, ↓reduceIte, hread]
      rfl

namespace CodePlace

/-- The comment that starts at a place. -/
def comment? (x : CodePlace) : Option Position :=
  if x.char = '%' then some x.pos else none

/-- The marker that starts at a place. -/
def marker? (x : CodePlace) : Option Marker :=
  if x.char = '\\' then readMarker? x.rest else none

/-- The same with the place. -/
def placedMarker? (x : CodePlace) : Option (Position × Marker) :=
  x.marker?.map fun m => (x.pos, m)

/-- What a place adds to the balance of braces. -/
def balance (x : CodePlace) : Int :=
  braceValue x.char

end CodePlace

/-- The comment that a lexeme is. -/
def Lexeme.comment? (x : Lexeme) : Option Position :=
  if x.token = .comment then some x.start else none

/-- The marker that a lexeme is, with its place. -/
def Lexeme.placedMarker? (x : Lexeme) : Option (Position × Marker) :=
  x.marker?.map fun m => (x.start, m)

/-- Opening less closing braces of a word. -/
def balanceOf (es : List DelimiterEvent) : Int :=
  es.countP DelimiterEvent.isOpening - es.countP DelimiterEvent.isClosing

/-- The lexemes `xs` and the code `places` hold as many opening less closing braces, the same
comments and the same markers, at the same places. -/
structure Agrees (xs : List Lexeme) (places : List CodePlace) : Prop where
  balance : balanceOf (xs.filterMap Lexeme.brace?) = (places.map CodePlace.balance).sum
  comments : xs.filterMap Lexeme.comment? = places.filterMap CodePlace.comment?
  placedMarkers :
    xs.filterMap Lexeme.placedMarker? = places.filterMap CodePlace.placedMarker?

namespace Agrees

variable {xs ys : List Lexeme} {places others : List CodePlace}

theorem nil : Agrees [] [] :=
  ⟨rfl, rfl, rfl⟩

theorem append (h : Agrees xs places) (h' : Agrees ys others) :
    Agrees (xs ++ ys) (places ++ others) where
  balance := by
    have hx := h.balance
    have hy := h'.balance
    unfold balanceOf at *
    rw [List.filterMap_append, List.countP_append, List.countP_append, List.map_append,
      List.sum_append]
    omega
  comments := by rw [List.filterMap_append, List.filterMap_append, h.comments, h'.comments]
  placedMarkers := by
    rw [List.filterMap_append, List.filterMap_append, h.placedMarkers, h'.placedMarkers]

theorem markers (h : Agrees xs places) : markersOf xs = places.filterMap CodePlace.marker? := by
  have hplaced := congrArg (List.map Prod.snd) h.placedMarkers
  rw [List.map_filterMap, List.map_filterMap] at hplaced
  simpa [markersOf, Lexeme.placedMarker?, CodePlace.placedMarker?, Function.comp_def] using hplaced

end Agrees

/-- Characters that neither start a comment nor escape nor end a line. -/
def isProse (c : Char) : Bool :=
  c ≠ '\n' && c ≠ '\\' && c ≠ '%'

/-- Such characters are code, one by one, and agree with no lexeme at all where their braces
balance. -/
theorem exists_codePlaces_prose {w : Text} (hw : ∀ c ∈ w, isProse c = true)
    (hsum : (w.map braceValue).sum = 0) (p : Position) (r : Text) :
    ∃ places, codePlacesFrom .code p (w ++ r) = places ++ codePlacesFrom .code (p.after w) r ∧
      Agrees [] places ∧ ∀ x ∈ places, x.char ≠ '\\' := by
  have hplaces : ∃ places : List CodePlace, places.map (·.char) = w ∧
      codePlacesFrom .code p (w ++ r) = places ++ codePlacesFrom .code (p.after w) r := by
    clear hsum
    induction w generalizing p with
    | nil => exact ⟨[], rfl, rfl⟩
    | cons c w ih =>
      obtain ⟨hc, hw⟩ := List.forall_mem_cons.1 hw
      obtain ⟨⟨hnewline, hbackslash⟩, hpercent⟩ : (c ≠ '\n' ∧ c ≠ '\\') ∧ c ≠ '%' := by
        simpa [isProse] using hc
      obtain ⟨places, hchars, hplaces⟩ := ih hw (p.next c)
      refine ⟨⟨p, c, w ++ r⟩ :: places, by rw [List.map_cons, hchars], ?_⟩
      rw [List.cons_append, codePlacesFrom_code hnewline, LineState.behind, if_neg hbackslash,
        if_neg hpercent, hplaces]
      rfl
  obtain ⟨places, rfl, hplaces⟩ := hplaces
  have hchar : ∀ x ∈ places, x.char ≠ '\\' ∧ x.char ≠ '%' := fun x hx => by
    have := hw x.char (List.mem_map_of_mem hx)
    simp only [isProse, Bool.and_eq_true, decide_eq_true_eq] at this
    exact ⟨this.1.2, this.2⟩
  refine ⟨places, hplaces, ⟨?_, Eq.symm ?_, Eq.symm ?_⟩, fun x hx => (hchar x hx).1⟩
  · rw [List.map_map] at hsum
    exact hsum.symm
  · exact List.filterMap_eq_nil_iff.2 fun x hx => if_neg (hchar x hx).2
  · refine List.filterMap_eq_nil_iff.2 fun x hx => ?_
    rw [CodePlace.placedMarker?, CodePlace.marker?, if_neg (hchar x hx).1]
    rfl

/-! ### Control sequences -/

/-- The token is that of a backslash and what belongs to it. -/
def Token.isControl : Token → Bool
  | .comment | .openBrace | .closeBrace | .openBracket | .closeBracket | .dollars _ => false
  | _ => true

namespace Lexeme

theorem isControl_controlWordToken (name t : Text) :
    (controlWordToken name t).1.isControl = true := by
  have hverbatim : ∀ env u, (verbatimToken env u).1.isControl = true := fun env u => by
    unfold verbatimToken
    split <;> rfl
  unfold controlWordToken
  dsimp only
  repeat' split
  all_goals first | exact hverbatim _ _ | rfl

theorem isControl_controlToken (t : Text) : (controlToken t).1.isControl = true := by
  unfold controlToken
  split
  · rfl
  · split
    · exact isControl_controlWordToken _ _
    · rfl

/-- Characters of a class without braces are prose. -/
theorem prose_of_class {P : Char → Bool} {u : Text} (hu : ∀ c ∈ u, P c = true)
    (hP : ['\n', '\\', '%', '{', '}'].any P = false) :
    (∀ c ∈ u, isProse c = true) ∧ (u.map braceValue).sum = 0 := by
  have hne : ∀ c ∈ u, ∀ d ∈ ['\n', '\\', '%', '{', '}'], c ≠ d := fun c hc d hd heq => by
    have := hu c hc
    rw [heq] at this
    exact Bool.eq_false_iff.1 hP (List.any_eq_true.2 ⟨d, hd, this⟩)
  refine ⟨fun c hc => ?_, List.sum_eq_zero fun v hv => ?_⟩
  · simp [isProse, hne c hc]
  · obtain ⟨c, hc, rfl⟩ := List.mem_map.1 hv
    simp [braceValue, hne c hc]

/-- Spaces and tabs, and a group of text without braces, escapes, comments and newlines. -/
def PlainGroup (g : Text) : Prop :=
  ∃ blanks content, g = blanks ++ '{' :: (content ++ ['}']) ∧
    (∀ c ∈ blanks, isSpaceOrTab c = true) ∧ ∀ c ∈ content, endsGroup c = false

theorem plainGroup_of_groupArgument? {t env : Text} {n : Nat}
    (h : groupArgument? t = some (env, n)) : PlainGroup (t.take n) := by
  obtain ⟨blanks, content, r, rfl, hblanks, hcontent, -, rfl⟩ := eq_of_groupArgument? h
  have hgroup : blanks ++ '{' :: (content ++ '}' :: r) =
      (blanks ++ '{' :: (content ++ ['}'])) ++ r := by simp
  rw [hgroup, List.take_left' (by simp; omega)]
  exact ⟨blanks, content, rfl, hblanks, hcontent⟩

/-- A plain group is prose with a pair of braces. -/
theorem PlainGroup.prose {g : Text} (h : PlainGroup g) :
    (∀ c ∈ g, isProse c = true) ∧ (g.map braceValue).sum = 0 := by
  obtain ⟨blanks, content, rfl, hblanks, hcontent⟩ := h
  obtain ⟨hprose, hsum⟩ := prose_of_class hblanks (by decide)
  obtain ⟨hprose', hsum'⟩ := prose_of_class (P := fun c => !endsGroup c)
    (fun c hc => by rw [hcontent c hc]; rfl) (by decide)
  refine ⟨fun c hc => ?_, ?_⟩
  · simp only [List.mem_append, List.mem_cons, List.not_mem_nil, or_false] at hc
    rcases hc with hc | rfl | hc | rfl
    · exact hprose c hc
    · decide
    · exact hprose' c hc
    · decide
  · simp [hsum, hsum', braceValue]

/-- At most a plain group belongs to a control word that takes no text literally. -/
theorem groupArgument?_of_controlWordToken {name t : Text}
    (h : (controlWordToken name t).1.isLiteral = false) :
    (controlWordToken name t).2 = 0 ∨
      ∃ env, groupArgument? t = some (env, (controlWordToken name t).2) := by
  rw [Bool.eq_false_iff, ne_eq, isLiteral_controlWordToken_iff, not_or] at h
  obtain ⟨hverb, hverbatim⟩ := h
  unfold controlWordToken
  by_cases hbegin : name = "begin".toList
  · rw [if_pos hbegin]
    cases hgroup : groupArgument? t with
    | none => exact .inl rfl
    | some arg =>
      obtain ⟨env, n⟩ := arg
      have hmem : ¬Catalog.mem env Catalog.verbatimEnvironments = true :=
        fun hmem => hverbatim ⟨hbegin, env, n, hgroup, hmem⟩
      simp only [if_neg hmem]
      exact .inr ⟨env, rfl⟩
  · rw [if_neg hbegin, if_neg hverb]
    repeat' split
    all_goals first | exact .inl rfl | exact .inr ⟨_, ‹_›⟩

/-- A control sequence that takes no text literally : behind the backslash and a first
character, the rest of a control word and at most a plain group. -/
theorem exists_take_controlToken {d : Char} {t : Text}
    (h : (controlToken (d :: t)).1.isLiteral = false) :
    ∃ word group, (d :: t).take (controlToken (d :: t)).2 = d :: (word ++ group) ∧
      (∀ c ∈ word, isCommandChar c = true) ∧ (group = [] ∨ PlainGroup group) := by
  unfold controlToken at h ⊢
  by_cases hd : isCommandChar d = true
  · simp only [hd, ↓reduceIte] at h ⊢
    have hname : (d :: t).takeWhile isCommandChar = d :: t.takeWhile isCommandChar :=
      List.takeWhile_cons_of_pos hd
    rw [List.take_add, ← List.prefix_iff_eq_take.1 (List.takeWhile_prefix _), hname]
    rw [hname] at h
    refine ⟨_, _, rfl, fun _ hc => List.mem_takeWhile_imp hc, ?_⟩
    rcases groupArgument?_of_controlWordToken h with hzero | ⟨env, hgroup⟩
    · exact .inl (by rw [hzero, List.take_zero])
    · exact .inr (plainGroup_of_groupArgument? hgroup)
  · simp only [hd, Bool.false_eq_true, ↓reduceIte]
    exact ⟨[], [], rfl, by simp, .inl rfl⟩

end Lexeme

/-! ### Lexemes -/

namespace Agrees

variable {xs : List Lexeme} {places : List CodePlace} {p q : Position} {c : Char} {t : Text}

/-- A backslash agrees with the token that it starts. -/
theorem control (h : (Lexeme.controlToken t).1.isLiteral = false) :
    Agrees [⟨(Lexeme.controlToken t).1, p, q⟩] [⟨p, '\\', t⟩] := by
  have hcontrol := Lexeme.isControl_controlToken t
  have hmarker := marker?_controlToken h p q
  refine ⟨?_, ?_, ?_⟩
  · generalize (Lexeme.controlToken t).1 = token at hcontrol
    cases token <;> first | rfl | cases hcontrol
  · generalize (Lexeme.controlToken t).1 = token at hcontrol
    cases token <;> first | rfl | cases hcontrol
  · rw [filterMap_cons_eq, filterMap_cons_eq, Lexeme.placedMarker?, hmarker]
    rfl

/-- Any other character agrees with the lexeme that it starts. -/
theorem char (hc : c ≠ '\\') : Agrees [⟨(Lexeme.lexeme c t).1, p, q⟩] [⟨p, c, t⟩] := by
  have hmarker : CodePlace.marker? ⟨p, c, t⟩ = none := if_neg hc
  unfold Lexeme.lexeme
  split
  case h_2 => exact absurd rfl hc
  case h_8 _ h₁ _ h₂ h₃ _ _ _ =>
    have hbalance : CodePlace.balance ⟨p, c, t⟩ = 0 := by
      rw [CodePlace.balance, braceValue, if_neg h₂, if_neg h₃]
    have hcomment : CodePlace.comment? ⟨p, c, t⟩ = none := if_neg h₁
    refine ⟨?_, ?_, ?_⟩
    · rw [List.map_singleton, hbalance]
      rfl
    · rw [filterMap_cons_eq CodePlace.comment?, hcomment]
      rfl
    · rw [filterMap_cons_eq CodePlace.placedMarker?, CodePlace.placedMarker?, hmarker]
      rfl
  all_goals exact ⟨rfl, rfl, rfl⟩

end Agrees

/-- A comment holds no code. -/
theorem codePlacesFrom_comment_line (p : Position) (t : Text) :
    codePlacesFrom .comment p t =
      codePlacesFrom .code (p.after (t.takeWhile (· ≠ '\n'))) (t.dropWhile (· ≠ '\n')) := by
  induction t generalizing p with
  | nil => rfl
  | cons c t ih =>
    by_cases hc : c = '\n'
    · rw [List.takeWhile_cons_of_neg (by simp [hc]), List.dropWhile_cons_of_neg (by simp [hc])]
      exact codePlacesFrom_eq_of_head? (.inr (congrArg some hc))
    · rw [List.takeWhile_cons_of_pos (by simp [hc]), List.dropWhile_cons_of_pos (by simp [hc]),
        codePlacesFrom_comment hc, ih]
      rfl

/-- But for comments and control sequences, only dollar signs are lexemes of more than one
character. -/
theorem Lexeme.prose_lexeme {c : Char} (t : Text) (hbackslash : c ≠ '\\') (hpercent : c ≠ '%') :
    (∀ d ∈ t.take (lexeme c t).2, isProse d = true) ∧
      ((t.take (lexeme c t).2).map braceValue).sum = 0 := by
  unfold lexeme
  split
  case h_1 => exact absurd rfl hpercent
  case h_2 => exact absurd rfl hbackslash
  case h_7 =>
    dsimp only
    rw [← List.prefix_iff_eq_take.1 (List.takeWhile_prefix _)]
    exact prose_of_class (fun _ hd => List.mem_takeWhile_imp hd) (by decide)
  all_goals simp

/-- A control sequence is a backslash, an escaped character and prose. -/
theorem Lexeme.prose_controlToken {d : Char} {t : Text}
    (h : (controlToken (d :: t)).1.isLiteral = false) :
    ∃ w, (d :: t).take (controlToken (d :: t)).2 = d :: w ∧
      (∀ c ∈ w, isProse c = true) ∧ (w.map braceValue).sum = 0 := by
  obtain ⟨word, group, htake, hword, hgroup⟩ := exists_take_controlToken h
  obtain ⟨hprose, hsum⟩ := prose_of_class hword (by decide)
  obtain ⟨hprose', hsum'⟩ : (∀ c ∈ group, isProse c = true) ∧ (group.map braceValue).sum = 0 := by
    rcases hgroup with rfl | hgroup
    · simp
    · exact hgroup.prose
  refine ⟨word ++ group, htake, List.forall_mem_append.2 ⟨hprose, hprose'⟩, ?_⟩
  rw [List.map_append, List.sum_append, hsum, hsum']
  rfl

/-- The code of a lexeme, up to its end, agrees with it, and only its first character may be a
backslash. -/
theorem exists_codePlaces_lexeme {c : Char} {t : Text} (p : Position)
    (h : (Lexeme.lexeme c t).1.isLiteral = false) :
    ∃ places, codePlacesFrom .code p (c :: t) = places ++
        codePlacesFrom .code ((p.next c).after (t.take (Lexeme.lexeme c t).2))
          (t.drop (Lexeme.lexeme c t).2) ∧
      Agrees [⟨(Lexeme.lexeme c t).1, p, (p.next c).after (t.take (Lexeme.lexeme c t).2)⟩]
        places ∧ ∀ x ∈ places, x.char = '\\' → x = ⟨p, c, t⟩ := by
  by_cases hnewline : c = '\n'
  · subst hnewline
    exact ⟨[], codePlacesFrom_newline, ⟨rfl, rfl, rfl⟩, nofun⟩
  rw [codePlacesFrom_code hnewline, LineState.behind]
  by_cases hbackslash : c = '\\'
  · subst hbackslash
    rw [if_pos rfl]
    change (Lexeme.controlToken t).1.isLiteral = false at h
    change ∃ places, _ = places ++ codePlacesFrom .code
      ((p.next '\\').after (t.take (Lexeme.controlToken t).2)) (t.drop (Lexeme.controlToken t).2) ∧
        Agrees [⟨(Lexeme.controlToken t).1, p, _⟩] places ∧ _
    cases t with
    | nil => exact ⟨[⟨p, '\\', []⟩], rfl, .control h, fun x hx _ => List.mem_singleton.1 hx⟩
    | cons d t =>
      obtain ⟨w, hw, hprose, hsum⟩ := Lexeme.prose_controlToken h
      obtain ⟨places, hplaces, hagrees, hchar⟩ := exists_codePlaces_prose hprose hsum
        ((p.next '\\').next d) ((d :: t).drop (Lexeme.controlToken (d :: t)).2)
      have ht : t = w ++ (d :: t).drop (Lexeme.controlToken (d :: t)).2 := by
        have := List.take_append_drop (Lexeme.controlToken (d :: t)).2 (d :: t)
        rw [hw, List.cons_append, List.cons.injEq] at this
        exact this.2.symm
      refine ⟨⟨p, '\\', d :: t⟩ :: places, ?_, (Agrees.control h).append hagrees,
        List.forall_mem_cons.2 ⟨fun _ => rfl, fun x hx hslash => absurd hslash (hchar x hx)⟩⟩
      rw [← ht] at hplaces
      rw [codePlacesFrom_escaped, hplaces, hw]
      rfl
  have hchar : Agrees [⟨(Lexeme.lexeme c t).1, p,
      (p.next c).after (t.take (Lexeme.lexeme c t).2)⟩] [⟨p, c, t⟩] := .char hbackslash
  rw [if_neg hbackslash]
  by_cases hpercent : c = '%'
  · subst hpercent
    refine ⟨[⟨p, '%', t⟩], ?_, hchar, fun x hx _ => List.mem_singleton.1 hx⟩
    rw [if_pos rfl, codePlacesFrom_comment_line, Lexeme.lexeme,
      ← List.prefix_iff_eq_take.1 (List.takeWhile_prefix _), Text.drop_length_takeWhile]
    rfl
  · rw [if_neg hpercent]
    obtain ⟨hprose, hsum⟩ := Lexeme.prose_lexeme t hbackslash hpercent
    obtain ⟨places, hplaces, hagrees, hslash⟩ := exists_codePlaces_prose hprose hsum (p.next c)
      (t.drop (Lexeme.lexeme c t).2)
    rw [List.take_append_drop] at hplaces
    exact ⟨⟨p, c, t⟩ :: places, by rw [hplaces]; rfl, hchar.append hagrees,
      List.forall_mem_cons.2 ⟨fun _ => rfl, fun x hx hback => absurd hback (hslash x hx)⟩⟩

/-- The code of a document agrees with its lexemes, where no text is taken literally. -/
theorem agrees_codePlacesFrom (p : Position) (t : Text)
    (h : ∀ x ∈ Lexeme.lexemesFrom p t, x.token.isLiteral = false) :
    Agrees (Lexeme.lexemesFrom p t) (codePlacesFrom .code p t) := by
  induction p, t using Lexeme.lexemesFrom.induct with
  | case1 p =>
    rw [Lexeme.lexemesFrom]
    exact .nil
  | case2 p c t token n hlex stop ih =>
    rw [Lexeme.lexemesFrom_cons, List.forall_mem_cons] at h
    obtain ⟨places, hplaces, hagrees, -⟩ := exists_codePlaces_lexeme p h.1
    rw [Lexeme.lexemesFrom_cons, hplaces]
    rw [hlex] at h hagrees ⊢
    exact hagrees.append (ih h.2)

/-- No text is taken literally where no backslash that is code says so. -/
theorem isLiteral_eq_false_iff_codePlacesFrom (p : Position) (t : Text) :
    (∀ x ∈ Lexeme.lexemesFrom p t, x.token.isLiteral = false) ↔
      ∀ x ∈ codePlacesFrom .code p t, x.char = '\\' → ¬StartsLiteral x.rest := by
  induction p, t using Lexeme.lexemesFrom.induct with
  | case1 p =>
    rw [Lexeme.lexemesFrom]
    exact iff_of_true (List.forall_mem_nil _) (List.forall_mem_nil _)
  | case2 p c t token n hlex stop ih =>
    rw [Lexeme.lexemesFrom_cons, List.forall_mem_cons]
    have hfirst : (Lexeme.lexeme c t).1.isLiteral = false ↔ (c = '\\' → ¬StartsLiteral t) := by
      rw [Bool.eq_false_iff, ne_eq, Lexeme.isLiteral_lexeme_iff, not_and]
    rw [hlex] at hfirst ⊢
    rw [ih]
    by_cases hliteral : token.isLiteral = false
    · obtain ⟨places, hplaces, -, hslash⟩ :=
        exists_codePlaces_lexeme p (by rw [hlex]; exact hliteral)
      rw [hlex] at hplaces
      rw [hplaces, List.forall_mem_append]
      refine and_congr_left fun _ => iff_of_true hliteral fun x hx hback => ?_
      obtain rfl := hslash x hx hback
      exact hfirst.1 hliteral hback
    · refine iff_of_false (fun h => hliteral h.1) fun h => hliteral (hfirst.2 fun hback => ?_)
      subst hback
      refine h ⟨p, '\\', t⟩ ?_ rfl
      rw [codePlacesFrom_code (by decide)]
      exact List.mem_cons_self ..

/-! ## The code that the lines have -/

/-- The place of a character of code, with the character. -/
def CodePlace.mark (x : CodePlace) : Position × Char :=
  (x.pos, x.char)

/-- Every line is read from its start. -/
theorem map_mark_codePlacesFrom_append (state : LineState) (p : Position) (s r : Text) :
    (codePlacesFrom state p (s ++ '\n' :: r)).map CodePlace.mark =
      (codePlacesFrom state p s).map CodePlace.mark ++
        (codePlacesFrom .code ((p.after s).next '\n') r).map CodePlace.mark := by
  induction s generalizing state p with
  | nil =>
    rw [List.nil_append, codePlacesFrom_newline]
    rfl
  | cons c s ih =>
    rw [List.cons_append, Position.after_cons]
    by_cases hc : c = '\n'
    · subst hc
      rw [codePlacesFrom_newline, codePlacesFrom_newline]
      exact ih _ _
    · cases state with
      | code =>
        rw [codePlacesFrom_code hc, codePlacesFrom_code hc]
        exact congrArg _ (ih _ _)
      | escaped =>
        rw [codePlacesFrom_escaped, codePlacesFrom_escaped]
        exact ih _ _
      | comment =>
        rw [codePlacesFrom_comment hc, codePlacesFrom_comment hc]
        exact ih _ _

/-- The state of a reading that knows whether the next character is escaped. -/
def LineState.ofEscaped (escaped : Bool) : LineState :=
  if escaped then .escaped else .code

theorem codePartFrom_cons (escaped : Bool) (c : Char) (t : Text) :
    codePartFrom escaped (c :: t) =
      if c = '%' && !escaped then [] else c :: codePartFrom (c = '\\' && !escaped) t := by
  rw [codePartFrom]
  by_cases hc : c = '\\'
  · simp [hc]
  · simp [hc]

/-- The code of a line, character by character. -/
theorem codePlacesFrom_line_cons {c : Char} {t : Text} (ht : '\n' ∉ c :: t) (escaped : Bool)
    (p : Position) :
    codePlacesFrom (.ofEscaped escaped) p (c :: t) =
      (if escaped then [] else [⟨p, c, t⟩]) ++
        if c = '%' && !escaped then []
        else codePlacesFrom (.ofEscaped (c = '\\' && !escaped)) (p.next c) t := by
  obtain ⟨hc, ht⟩ : c ≠ '\n' ∧ '\n' ∉ t := by simpa [eq_comm] using ht
  cases escaped with
  | true =>
    rw [Bool.not_true, Bool.and_false, Bool.and_false]
    exact codePlacesFrom_escaped
  | false =>
    rw [LineState.ofEscaped, if_neg Bool.false_ne_true, codePlacesFrom_code hc]
    refine congrArg (_ :: ·) ?_
    by_cases hbackslash : c = '\\'
    · simp [hbackslash, LineState.behind, LineState.ofEscaped]
    · by_cases hpercent : c = '%'
      · have hnone : codePlacesFrom .comment (p.next c) t = [] := by
          have hend : t.dropWhile (· ≠ '\n') = [] :=
            List.dropWhile_eq_nil_iff.2 fun d hd => decide_eq_true (ne_of_mem_of_not_mem hd ht)
          rw [codePlacesFrom_comment_line, hend]
          rfl
        simpa [hpercent, LineState.behind] using hnone
      · simp [hbackslash, hpercent, LineState.behind, LineState.ofEscaped]

/-- The characters of code in a line have its braces. -/
theorem sum_balance_codePlacesFrom {t : Text} (ht : '\n' ∉ t) (escaped : Bool) (p : Position) :
    ((codePlacesFrom (.ofEscaped escaped) p t).map CodePlace.balance).sum =
      braceSum escaped (codePartFrom escaped t) := by
  induction t generalizing escaped p with
  | nil => rfl
  | cons c t ih =>
    have hrest := ih (fun h => ht (List.mem_cons_of_mem _ h)) (c = '\\' && !escaped) (p.next c)
    rw [codePlacesFrom_line_cons ht, codePartFrom_cons, List.map_append, List.sum_append]
    cases hcomment : c = '%' && !escaped with
    | true =>
      obtain ⟨rfl, rfl⟩ : c = '%' ∧ escaped = false := by simpa using hcomment
      rfl
    | false =>
      rw [if_neg Bool.false_ne_true, if_neg Bool.false_ne_true, hrest, braceSum]
      cases escaped <;> simp [CodePlace.balance]

/-- A line has its comment where the code starts one. -/
theorem filterMap_comment?_codePlacesFrom {t : Text} (ht : '\n' ∉ t) (escaped : Bool)
    (p : Position) :
    (codePlacesFrom (.ofEscaped escaped) p t).filterMap CodePlace.comment? =
      if (codePartFrom escaped t).length < t.length then [p.after (codePartFrom escaped t)]
      else [] := by
  induction t generalizing escaped p with
  | nil => rfl
  | cons c t ih =>
    have hrest := ih (fun h => ht (List.mem_cons_of_mem _ h)) (c = '\\' && !escaped) (p.next c)
    rw [codePlacesFrom_line_cons ht, codePartFrom_cons, List.filterMap_append]
    cases hcomment : c = '%' && !escaped with
    | true =>
      obtain ⟨rfl, rfl⟩ : c = '%' ∧ escaped = false := by simpa using hcomment
      rfl
    | false =>
      rw [if_neg Bool.false_ne_true, if_neg Bool.false_ne_true, hrest]
      have hnone : (if escaped = true then [] else [(⟨p, c, t⟩ : CodePlace)]).filterMap
          CodePlace.comment? = [] := by
        cases escaped with
        | true => rfl
        | false =>
          have hc : c ≠ '%' := by simpa using hcomment
          simp [CodePlace.comment?, hc]
      rw [hnone, List.nil_append, List.length_cons, List.length_cons, Position.after_cons]
      simp only [Nat.add_lt_add_iff_right]

/-- Where the comments of the given lines start, in a text that starts at `p`. -/
def commentStartsFrom (p : Position) : List Text → List Position
  | [] => []
  | l :: ls =>
    ((commentStart? l).map fun n => p.after (l.take n)).toList ++
      commentStartsFrom ((p.after l).next '\n') ls

/-- The code of a document is that of its lines. -/
theorem codePlaces_unlines (ls : List Text) (h : ∀ l ∈ ls, '\n' ∉ l) (p : Position) :
    ((codePlacesFrom .code p (Text.unlines ls)).map CodePlace.balance).sum = documentBalance ls ∧
      (codePlacesFrom .code p (Text.unlines ls)).filterMap CodePlace.comment? =
        commentStartsFrom p ls := by
  have hline : ∀ l p, '\n' ∉ l →
      ((codePlacesFrom .code p l).map CodePlace.balance).sum = lineBalance l ∧
        (codePlacesFrom .code p l).filterMap CodePlace.comment? =
          ((commentStart? l).map fun n => p.after (l.take n)).toList := fun l p hl => by
    refine ⟨(sum_balance_codePlacesFrom hl false p).trans (lineBalance_eq l).symm, ?_⟩
    rw [commentStart?]
    refine (filterMap_comment?_codePlacesFrom hl false p).trans ?_
    rw [← codePart]
    split
    · have hcode : l.take (codePart l).length = codePart l :=
        (List.prefix_iff_eq_take.1 (codePartFrom_isPrefix false l)).symm
      rw [Option.map_some, hcode]
      rfl
    · rfl
  induction ls generalizing p with
  | nil => exact ⟨rfl, rfl⟩
  | cons l ls ih =>
    obtain ⟨hl, hls⟩ := List.forall_mem_cons.1 h
    obtain ⟨hbalance, hcomments⟩ := hline l p hl
    cases ls with
    | nil =>
      rw [Text.unlines, List.intercalate_singleton, hbalance, hcomments]
      exact ⟨(Int.add_zero _).symm, (List.append_nil _).symm⟩
    | cons m ls =>
      obtain ⟨hbalance', hcomments'⟩ := ih hls ((p.after l).next '\n')
      have hunlines : Text.unlines (l :: m :: ls) = l ++ '\n' :: Text.unlines (m :: ls) := by
        simp [Text.unlines, List.intercalate_cons_cons]
      have hmarks := map_mark_codePlacesFrom_append .code p l (Text.unlines (m :: ls))
      rw [← hunlines] at hmarks
      constructor
      · have hsum : ∀ places : List CodePlace, (places.map CodePlace.balance).sum =
            ((places.map CodePlace.mark).map fun x => braceValue x.2).sum := fun places => by
          rw [List.map_map]
          rfl
        rw [hsum, hmarks, List.map_append, List.sum_append, ← hsum, ← hsum, hbalance, hbalance']
        rfl
      · have hstarts : ∀ places : List CodePlace, places.filterMap CodePlace.comment? =
            (places.map CodePlace.mark).filterMap fun x => if x.2 = '%' then some x.1 else none :=
          fun places => by
            rw [List.filterMap_map]
            rfl
        rw [hstarts, hmarks, List.filterMap_append, ← hstarts, ← hstarts, hcomments, hcomments']
        rfl

/-- Where no text is taken literally, the lines of a document have as many opening less
closing braces as its scan meets, which is what its validation counts, and each line has its
comment where the scan enters one. -/
theorem lines_agree_with_scan {t : Text} (h : NoLiteral t) (lookup : Option FileLookup) :
    documentBalance (Text.lines t) = balanceOf (delimiterEvents .brace t) ∧
      documentBalance (Text.lines t) = (validate lookup t).braceDelta ∧
      (Lexeme.lexemes t).filterMap Lexeme.comment? =
        commentStartsFrom .start (Text.lines t) := by
  obtain ⟨hbalance, hcomments⟩ := codePlaces_unlines (Text.lines t)
    (fun _ => Text.newline_not_mem_of_mem_lines) .start
  rw [Text.unlines_lines] at hbalance hcomments
  have hagrees := agrees_codePlacesFrom .start t h
  have hevents : documentBalance (Text.lines t) = balanceOf (delimiterEvents .brace t) := by
    rw [← hbalance, delimiterEvents_brace]
    exact hagrees.balance.symm
  refine ⟨hevents, ?_, ?_⟩
  · rw [braceDelta_validate]
    exact hevents
  · rw [← hcomments]
    exact hagrees.comments

/-- An escaped percent sign, a group that belongs to its control word, a comment with a brace,
and a backslash at the end of a line. -/
theorem lines_agree_with_scan_escapes :
    NoLiteral "\\%\x7b\\end {a}\\\\%\x7d\n\\%\\\n%".toList ∧
      documentBalance (Text.lines "\\%\x7b\\end {a}\\\\%\x7d\n\\%\\\n%".toList) =
        balanceOf (delimiterEvents .brace "\\%\x7b\\end {a}\\\\%\x7d\n\\%\\\n%".toList) ∧
      (Lexeme.lexemes "\\%\x7b\\end {a}\\\\%\x7d\n\\%\\\n%".toList).filterMap
        Lexeme.comment? = [⟨1, 14, 13⟩, ⟨3, 1, 20⟩] := by
  have h : NoLiteral "\\%\x7b\\end {a}\\\\%\x7d\n\\%\\\n%".toList := by decide +kernel
  obtain ⟨hbalance, -, hcomments⟩ := lines_agree_with_scan h none
  refine ⟨h, hbalance, ?_⟩
  rw [hcomments]
  decide +kernel

end LatexRepair
