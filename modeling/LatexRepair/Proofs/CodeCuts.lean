import LatexRepair.Edit
import LatexRepair.Skeleton
import Mathlib.Data.List.TakeWhile

/-!
# Cutting the code of a line

A backslash escapes the character behind it. Whether the character at some place of a line
is escaped is decided by what stands before the place (`escapes`), so the code of a line
may be cut anywhere : what stands before the cut stays code whatever stands behind it
(`codePartFrom_append`), and the braces of the two parts add up (`braceSum_append`).

Code is read piece by piece (`ReadAtOnce`), and what holds of skeletons is shown so
(`code_induction`). A skeleton counts the same braces (`lineBalance_eq`). Its tokens are spelled in
the code, where nothing is escaped before and behind them (`spelledIn_of_mem_skeletonFrom`), closing
braces among them. So to take one out raises the balance of the line by one
(`lineBalance_delete`).
-/

namespace LatexRepair

/-- Whether the character behind `t` is escaped, where the first one of `t` is escaped as
given. -/
def escapes (escaped : Bool) (t : Text) : Bool :=
  t.foldl (fun e c => c = '\\' && !e) escaped

theorem escapes_append (escaped : Bool) (s t : Text) :
    escapes escaped (s ++ t) = escapes (escapes escaped s) t :=
  List.foldl_append

/-! ## Comments -/

theorem codePartFrom_cons_of_cons {escaped : Bool} {c : Char} {t s : Text}
    (h : codePartFrom escaped (c :: t) = c :: s) (r : Text) :
    codePartFrom escaped (c :: r) = c :: codePartFrom (c = '\\' && !escaped) r := by
  rw [codePartFrom] at h ⊢
  by_cases hc : c = '\\'
  · simp [hc]
  · by_cases hp : c = '%' && !escaped
    · rw [if_neg hc, if_pos hp] at h
      cases h
    · rw [if_neg hc, if_neg hp]
      simp [hc]

/-- Code up to a place stays code whatever stands behind it. -/
theorem codePartFrom_append {escaped : Bool} {s t u : Text}
    (h : codePartFrom escaped (s ++ t) = s ++ u) (r : Text) :
    codePartFrom escaped (s ++ r) = s ++ codePartFrom (escapes escaped s) r := by
  induction s generalizing escaped with
  | nil => rfl
  | cons c s ih =>
    rw [List.cons_append, List.cons_append] at h
    rw [List.cons_append, List.cons_append, codePartFrom_cons_of_cons h]
    rw [codePartFrom_cons_of_cons h] at h
    rw [ih (List.cons.inj h).2]
    rfl

/-! ## Braces -/

/-- What a character adds to the balance of braces. -/
def braceValue (c : Char) : Int :=
  if c = '{' then 1 else if c = '}' then -1 else 0

/-- Opening less closing braces that are not escaped. -/
def braceSum (escaped : Bool) : Text → Int
  | [] => 0
  | c :: t => (if escaped then 0 else braceValue c) + braceSum (c = '\\' && !escaped) t

theorem braceSum_append (escaped : Bool) (s t : Text) :
    braceSum escaped (s ++ t) = braceSum escaped s + braceSum (escapes escaped s) t := by
  induction s generalizing escaped with
  | nil => simp [braceSum, escapes]
  | cons c s ih =>
    rw [List.cons_append, braceSum, braceSum, ih, escapes, escapes, List.foldl_cons,
      Int.add_assoc]

/-! ## Reading code -/

/-- How a piece of markup is spelled. -/
def MarkupToken.text : MarkupToken → Text
  | .command name => '\\' :: name
  | .openBrace => ['{']
  | .closeBrace => ['}']
  | .lineBreak => ['\\', '\\']
  | .align => ['&']

theorem MarkupToken.text_ne_nil (m : MarkupToken) : m.text ≠ [] := by
  cases m <;> exact List.cons_ne_nil _ _

/-- The text `s` is read at once where `t` follows, as a piece of markup or as prose. -/
inductive ReadAtOnce (t : Text) : Text → Option MarkupToken → Prop where
  | lineBreak : ReadAtOnce t ['\\', '\\'] (some .lineBreak)
  | escape {c : Char} (hc : isCommandChar c = false) (hback : c ≠ '\\') :
      ReadAtOnce t ['\\', c] none
  | word {name : Text} (hne : name ≠ []) (hname : ∀ c ∈ name, isCommandChar c = true)
      (hnext : ∀ c ∈ t.head?, isCommandChar c = false) :
      ReadAtOnce t ('\\' :: name) (some (.command name))
  | openBrace : ReadAtOnce t ['{'] (some .openBrace)
  | closeBrace : ReadAtOnce t ['}'] (some .closeBrace)
  | align : ReadAtOnce t ['&'] (some .align)
  | plain {c : Char} (hback : c ≠ '\\') (hopen : c ≠ '{') (hclose : c ≠ '}') (halign : c ≠ '&') :
      ReadAtOnce t [c] none

theorem takeWhile_append_drop (P : Char → Bool) (t : Text) :
    t.takeWhile P ++ t.drop (t.takeWhile P).length = t :=
  List.prefix_iff_eq_append.1 (List.takeWhile_prefix _)

theorem of_mem_head?_drop_takeWhile {P : Char → Bool} {t : Text} {c : Char}
    (h : c ∈ (t.drop (t.takeWhile P).length).head?) : P c = false := by
  induction t with
  | nil => cases h
  | cons d t ih =>
    cases hd : P d with
    | true =>
      rw [List.takeWhile_cons_of_pos hd] at h
      exact ih h
    | false =>
      rw [List.takeWhile_cons_of_neg (by simp [hd])] at h
      obtain rfl := Option.some.inj h
      exact hd

theorem takeWhile_append_eq {P : Char → Bool} {s t : Text} (hs : ∀ c ∈ s, P c = true)
    (ht : ∀ c ∈ t.head?, P c = false) : (s ++ t).takeWhile P = s := by
  rw [List.takeWhile_append_of_pos hs]
  cases t with
  | nil => exact List.append_nil _
  | cons c t => rw [List.takeWhile_cons_of_neg (by simp [ht c rfl]), List.append_nil]

/-- Code is read piece by piece; only a backslash at its end stands alone. -/
@[elab_as_elim]
theorem code_induction {motive : Text → Prop} (nil : motive []) (backslash : motive ['\\'])
    (append : ∀ s t x, ReadAtOnce t s x → motive t → motive (s ++ t)) (t : Text) : motive t := by
  have hread : ∀ i : Nat, motive t := fun i => by
    induction i, t using skeletonFrom.induct with
    | case1 i => exact nil
    | case2 i t name hname hhead ih =>
      obtain ⟨t, rfl⟩ := List.head?_eq_some_iff.1 hhead
      exact append _ t _ .lineBreak ih
    | case3 i t name hname hhead ih =>
      cases t with
      | nil => exact backslash
      | cons c t =>
        have hc : isCommandChar c = false := by
          by_contra htrue
          rw [Bool.not_eq_false] at htrue
          simp [name, htrue] at hname
        exact append _ t _ (.escape hc (by simpa using hhead)) ih
    | case4 i t name hname stop ih =>
      rw [← takeWhile_append_drop isCommandChar t]
      exact append _ _ _ (.word (mt List.isEmpty_iff.2 hname)
        (fun c hc => List.mem_takeWhile_imp hc) fun c hc => of_mem_head?_drop_takeWhile hc) ih
    | case5 i t ih => exact append _ t _ .openBrace ih
    | case6 i t ih => exact append _ t _ .closeBrace ih
    | case7 i t ih => exact append _ t _ .align ih
    | case8 i c t h₁ h₂ h₃ h₄ ih => exact append _ t _ (.plain h₁ h₂ h₃ h₄) ih
  exact hread 0

/-- A control word holds no brace, and nothing is escaped behind it. -/
theorem commandName_neutral {name : Text} (hne : name ≠ [])
    (hname : ∀ c ∈ name, isCommandChar c = true) :
    escapes true name = false ∧ braceSum true name = 0 := by
  have hchar : ∀ c, isCommandChar c = true → c ≠ '\\' ∧ braceValue c = 0 := fun c hc => by
    have hother : ∀ d, isCommandChar d = false → c ≠ d := fun d hd heq => by
      rw [heq, hd] at hc
      cases hc
    refine ⟨hother '\\' (by decide), ?_⟩
    rw [braceValue, if_neg (hother '{' (by decide)), if_neg (hother '}' (by decide))]
  have hrest : ∀ rest : Text, (∀ c ∈ rest, isCommandChar c = true) →
      escapes false rest = false ∧ braceSum false rest = 0 := fun rest => by
    induction rest with
    | nil => exact fun _ => ⟨rfl, rfl⟩
    | cons c rest ih =>
      intro h
      obtain ⟨hc, h⟩ := List.forall_mem_cons.1 h
      simpa [escapes, braceSum, hchar c hc] using ih h
  obtain ⟨c, name, rfl⟩ := List.exists_cons_of_ne_nil hne
  simpa [escapes, braceSum] using hrest name (List.forall_mem_cons.1 hname).2

/-! ## Skeletons -/

/-- An escaped character is no markup, but an escaped backslash is a line break. -/
theorem skeletonFrom_escape {c : Char} (hc : isCommandChar c = false) (i : Nat) (t : Text) :
    skeletonFrom i ('\\' :: c :: t) =
      (if c = '\\' then [⟨.lineBreak, i, i + 2⟩] else []) ++ skeletonFrom (i + 2) t := by
  rw [skeletonFrom, List.takeWhile_cons_of_neg (by simp [hc]), if_pos List.isEmpty_nil]
  by_cases hb : c = '\\'
  · rw [if_pos hb]
    exact if_pos (congrArg some hb)
  · rw [if_neg hb]
    exact if_neg (mt Option.some.inj hb)

/-- A control word is read to its end. -/
theorem skeletonFrom_word {name r : Text} (hne : name ≠ [])
    (hname : ∀ c ∈ name, isCommandChar c = true)
    (hr : ∀ c ∈ r.head?, isCommandChar c = false) (i : Nat) :
    skeletonFrom i ('\\' :: (name ++ r)) =
      ⟨.command name, i, i + 1 + name.length⟩ :: skeletonFrom (i + 1 + name.length) r := by
  rw [skeletonFrom, takeWhile_append_eq hname hr, if_neg (mt List.isEmpty_iff.1 hne),
    List.drop_left]

/-- Prose is skipped. -/
theorem skeletonFrom_cons_of_ne {c : Char} (h₁ : c ≠ '\\') (h₂ : c ≠ '{') (h₃ : c ≠ '}')
    (h₄ : c ≠ '&') (i : Nat) (t : Text) : skeletonFrom i (c :: t) = skeletonFrom (i + 1) t := by
  rw [skeletonFrom] <;> assumption

theorem skeletonFrom_backslash (i : Nat) : skeletonFrom i ['\\'] = [] := by
  simp [skeletonFrom]

namespace ReadAtOnce

variable {s t : Text} {x : Option MarkupToken}

theorem text {m : MarkupToken} (h : ReadAtOnce t s (some m)) : m.text = s := by
  cases h <;> rfl

/-- Nothing is escaped behind it. -/
theorem unescaped (h : ReadAtOnce t s x) : escapes false s = false := by
  cases h with
  | escape hc hback => simp [escapes]
  | word hne hname _ => exact (commandName_neutral hne hname).1
  | plain hback _ _ _ => simp [escapes, hback]
  | _ => rfl

theorem braceSum_eq (h : ReadAtOnce t s x) :
    braceSum false s = (x.map MarkupToken.balance).getD 0 := by
  cases h with
  | escape hc hback => simp [braceSum, braceValue]
  | word hne hname _ =>
    exact (Int.zero_add _).trans (commandName_neutral hne hname).2
  | plain _ hopen hclose _ => simp [braceSum, braceValue, hopen, hclose]
  | _ => rfl

/-- The skeleton starts with the token that it is read as. -/
theorem skeletonFrom_append (h : ReadAtOnce t s x) (i : Nat) : skeletonFrom i (s ++ t) =
    (x.map (PlacedToken.mk · i (i + s.length))).toList ++ skeletonFrom (i + s.length) t := by
  cases h with
  | lineBreak => exact skeletonFrom_escape (by decide) i t
  | escape hc hback =>
    rw [List.cons_append, List.cons_append, skeletonFrom_escape hc, if_neg hback]
    rfl
  | @word name hne hname hnext =>
    have hstop : i + ('\\' :: name).length = i + 1 + name.length := by
      rw [List.length_cons, Nat.add_comm name.length, Nat.add_assoc]
    rw [List.cons_append, skeletonFrom_word hne hname hnext, hstop]
    rfl
  | plain hback hopen hclose halign => exact skeletonFrom_cons_of_ne hback hopen hclose halign i t
  | _ =>
    rw [List.singleton_append, skeletonFrom]
    rfl

end ReadAtOnce

/-- A skeleton holds the braces of the code. -/
theorem braceBalance_skeletonFrom (i : Nat) (t : Text) :
    braceBalance (skeletonFrom i t) = braceSum false t := by
  induction t using code_induction generalizing i with
  | nil => simp [skeletonFrom, braceBalance, braceSum]
  | backslash => simp [skeletonFrom_backslash, braceBalance, braceSum, braceValue]
  | append s t x h ih =>
    rw [h.skeletonFrom_append, braceSum_append, h.unescaped, h.braceSum_eq, ← ih (i + s.length)]
    cases x with
    | none => exact (Int.zero_add _).symm
    | some m => rfl

theorem lineBalance_eq (line : Text) : lineBalance line = braceSum false (codePart line) :=
  braceBalance_skeletonFrom 0 _

/-! ## Tokens in code -/

/-- The token is spelled in code that starts at the place `i`, and nothing is escaped before or
behind it. -/
def PlacedToken.SpelledIn (i : Nat) (t : Text) (x : PlacedToken) : Prop :=
  ∃ a b, t = a ++ (x.token.text ++ b) ∧ escapes false a = false ∧
    escapes false x.token.text = false ∧
      x.start = i + a.length ∧ x.stop = i + a.length + x.token.text.length

theorem PlacedToken.SpelledIn.append {i : Nat} {s t : Text} {x : PlacedToken}
    (hs : escapes false s = false) (h : x.SpelledIn (i + s.length) t) : x.SpelledIn i (s ++ t) := by
  obtain ⟨a, b, rfl, ha, htext, hstart, hstop⟩ := h
  refine ⟨s ++ a, b, by rw [List.append_assoc], ?_, htext, ?_, ?_⟩
  · rw [escapes_append, hs, ha]
  · rw [hstart, List.length_append, Nat.add_assoc]
  · rw [hstop, List.length_append, Nat.add_assoc i]

/-- The tokens of a skeleton are spelled in the code. -/
theorem spelledIn_of_mem_skeletonFrom {i : Nat} {t : Text} {x : PlacedToken}
    (h : x ∈ skeletonFrom i t) : x.SpelledIn i t := by
  induction t using code_induction generalizing i with
  | nil => simp [skeletonFrom] at h
  | backslash => simp [skeletonFrom_backslash] at h
  | append s t m hread ih =>
    rw [hread.skeletonFrom_append, List.mem_append] at h
    rcases h with h | h
    · obtain ⟨m, rfl, rfl⟩ := Option.map_eq_some_iff.1 (Option.mem_toList.1 h)
      obtain rfl := hread.text
      exact ⟨[], t, rfl, rfl, hread.unescaped, rfl, rfl⟩
    · exact .append hread.unescaped (ih h)

/-- The token is a closing brace, not escaped, of code that starts at the place `i`. -/
def IsCloserOf (i : Nat) (t : Text) (x : PlacedToken) : Prop :=
  ∃ a b, t = a ++ '}' :: b ∧ escapes false a = false ∧
    x.start = i + a.length ∧ x.stop = i + a.length + 1

/-- No closing brace of a skeleton is escaped. -/
theorem isCloserOf_of_mem_skeletonFrom {i : Nat} {t : Text} {x : PlacedToken}
    (h : x ∈ skeletonFrom i t) (hx : x.token = .closeBrace) : IsCloserOf i t x := by
  obtain ⟨a, b, rfl, ha, -, hstart, hstop⟩ := spelledIn_of_mem_skeletonFrom h
  rw [hx] at hstop ⊢
  exact ⟨a, b, rfl, ha, hstart, hstop⟩

/-! ## Lines without a brace -/

/-- A line around one of the closing braces of its skeleton. -/
theorem exists_code_around_closer {line : Text} {x : PlacedToken}
    (h : x ∈ skeleton (codePart line)) (hx : x.token = .closeBrace) :
    ∃ a b r, line = a ++ '}' :: (b ++ r) ∧ codePart line = a ++ '}' :: b ∧
      escapes false a = false ∧ x.start = a.length ∧ x.stop = a.length + 1 ∧
        (Edit.delete x.start x.stop).apply line = a ++ (b ++ r) := by
  obtain ⟨a, b, hcode, hescapes, hstart, hstop⟩ := isCloserOf_of_mem_skeletonFrom h hx
  have hline : line = a ++ '}' :: (b ++ commentPart line) := by
    conv => lhs; rw [← codePart_append_comment line, hcode]
    simp
  refine ⟨a, b, commentPart line, hline, hcode, hescapes, by rw [hstart, Nat.zero_add],
    by rw [hstop, Nat.zero_add], ?_⟩
  generalize commentPart line = r at hline
  rw [hline, Edit.apply_delete, hstart, hstop]
  simp

/-- Without one of its closing braces the rest of the code stays code. -/
theorem codePart_delete_closer {a b r : Text}
    (hcode : codePart (a ++ '}' :: (b ++ r)) = a ++ '}' :: b) (ha : escapes false a = false) :
    codePart (a ++ (b ++ r)) = a ++ b := by
  have hbrace := hcode
  rw [codePart, codePartFrom_append hcode, ha, List.append_cancel_left_eq, codePartFrom,
    if_neg (by decide), if_neg (by decide), List.cons.injEq] at hbrace
  rw [codePart, codePartFrom_append hcode, ha, hbrace.2]

/-- To take a closing brace out of the skeleton of a line raises the balance by one. -/
theorem lineBalance_delete {line : Text} {x : PlacedToken} (h : x ∈ skeleton (codePart line))
    (hx : x.token = .closeBrace) :
    lineBalance ((Edit.delete x.start x.stop).apply line) = lineBalance line + 1 := by
  obtain ⟨a, b, r, rfl, hcode, hescapes, -, -, hedit⟩ := exists_code_around_closer h hx
  have hvalue : braceValue '}' = -1 := by decide
  rw [hedit, lineBalance_eq, lineBalance_eq, codePart_delete_closer hcode hescapes, hcode,
    braceSum_append, braceSum_append, hescapes, braceSum]
  simp only [Bool.false_eq_true, ↓reduceIte, hvalue, Bool.not_false, Bool.and_true,
    Char.reduceEq, decide_false]
  omega

end LatexRepair
