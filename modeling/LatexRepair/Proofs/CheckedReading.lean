import LatexRepair.Proofs.CheckedSlices
import LatexRepair.Proofs.Reading
import LatexRepair.Proofs.Search

/-!
# Checked lexemes

The lexemes of a document read with a cursor, a position whose offset is a byte of the document:
the next character is the first one of what the document has from this byte on, and the cursor
moves over it. Groups and names are cut out of the document at such offsets. The cursor always
stands between two characters (`Checked.StandsAt`), so the reading does not stop before the end
of the document, and it comes to its end (`Checked.lexemes_eq`). Each round of a loop moves the
cursor on, so the loops end wherever the cursor starts.
-/

namespace LatexRepair

namespace Checked

open Text

/-! ## The cursor -/

/-- The text from the cursor on. -/
def rest (src : Text) (p : Position) : Checked Text :=
  sliceFrom src p.offset

/-- The character at the cursor. -/
def peek (src : Text) (p : Position) : Checked (Option Char) := do
  let r ← rest src p
  some r.head?

/-- The cursor behind the next character. -/
def bump (src : Text) (p : Position) : Checked Position := do
  match ← peek src p with
  | none => some p
  | some c => some (p.next c)

/-- The cursor stands before the last part `r` of the document. -/
def StandsAt (src : Text) (p : Position) (r : Text) : Prop :=
  ∃ before, before ++ r = src ∧ p.offset = byteLength before

section

variable {src r s : Text} {p : Position} {c : Char} {n : Nat}

theorem standsAt_start (t : Text) : StandsAt t .start t :=
  ⟨[], rfl, rfl⟩

namespace StandsAt

theorem after (h : StandsAt src p (s ++ r)) : StandsAt src (p.after s) r := by
  obtain ⟨before, rfl, hp⟩ := h
  exact ⟨before ++ s, List.append_assoc .., by
    rw [Position.offset_after, hp, byteLength_append]⟩

theorem next (h : StandsAt src p (c :: r)) : StandsAt src (p.next c) r :=
  h.after (s := [c])

theorem take (h : StandsAt src p r) (n : Nat) : StandsAt src (p.after (r.take n)) (r.drop n) :=
  StandsAt.after (by rwa [List.take_append_drop])

theorem rest_eq (h : StandsAt src p r) : rest src p = some r := by
  obtain ⟨before, rfl, hp⟩ := h
  rw [rest, hp, sliceFrom_of_append rfl]

theorem peek_eq (h : StandsAt src p r) : peek src p = some r.head? := by
  rw [peek, h.rest_eq]
  rfl

theorem bump_eq (h : StandsAt src p (c :: r)) : bump src p = some (p.next c) := by
  rw [bump, h.peek_eq]
  rfl

/-- Where a character is read the cursor stands before it. -/
theorem exists_of_peek (h : peek src p = some (some c)) : ∃ r, StandsAt src p (c :: r) := by
  obtain ⟨r, hrest, hhead⟩ := Option.bind_eq_some_iff.1 h
  obtain ⟨⟨before, _⟩, hcut, rfl⟩ := Option.map_eq_some_iff.1 hrest
  obtain ⟨happend, hlength⟩ := cut_eq_some_iff.1 hcut
  obtain ⟨r, rfl⟩ := List.head?_eq_some_iff.1 (Option.some.inj hhead)
  exact ⟨r, before, happend, hlength.symm⟩

/-- Behind a character there is less of the document. -/
theorem sub_offset_lt {q : Position} (h : StandsAt src p (c :: r))
    (hq : (p.next c).offset ≤ q.offset) :
    byteLength src - q.offset < byteLength src - p.offset := by
  have hsize := c.utf8Size_pos
  obtain ⟨before, rfl, hp⟩ := h
  rw [Position.offset_next] at hq
  rw [byteLength_append, byteLength]
  omega

end StandsAt

end

/-! ### Loops -/

/-- The cursor behind the next characters of a class. -/
def bumpWhile (P : Char → Bool) (src : Text) (p : Position) : Checked Position :=
  match _h : peek src p with
  | none => none
  | some none => some p
  | some (some c) => if P c then bumpWhile P src (p.next c) else some p
termination_by byteLength src - p.offset
decreasing_by
  obtain ⟨r, hr⟩ := StandsAt.exists_of_peek _h
  exact hr.sub_offset_lt (Nat.le_refl _)

/-- The cursor at the byte `target`, or behind the character that holds it. -/
def advanceTo (src : Text) (target : Nat) (p : Position) : Checked Position :=
  if p.offset < target then
    match _h : peek src p with
    | none => none
    | some none => some p
    | some (some c) => advanceTo src target (p.next c)
  else some p
termination_by byteLength src - p.offset
decreasing_by
  obtain ⟨r, hr⟩ := StandsAt.exists_of_peek _h
  exact hr.sub_offset_lt (Nat.le_refl _)

section

variable {src r s : Text} {p : Position} {c : Char} {n : Nat}

namespace StandsAt

theorem bumpWhile_nil (h : StandsAt src p []) (P : Char → Bool) :
    bumpWhile P src p = some p := by
  have hpeek : peek src p = some none := h.peek_eq
  rw [bumpWhile]
  split <;> simp_all

theorem bumpWhile_cons (h : StandsAt src p (c :: r)) (P : Char → Bool) :
    bumpWhile P src p = if P c then bumpWhile P src (p.next c) else some p := by
  have hpeek : peek src p = some (some c) := h.peek_eq
  rw [bumpWhile]
  split <;> simp_all

theorem advanceTo_cons (h : StandsAt src p (c :: r)) {target : Nat} (hlt : p.offset < target) :
    advanceTo src target p = advanceTo src target (p.next c) := by
  have hpeek : peek src p = some (some c) := h.peek_eq
  rw [advanceTo, if_pos hlt]
  split <;> simp_all

theorem bumpWhile_eq (h : StandsAt src p r) (P : Char → Bool) :
    bumpWhile P src p = some (p.after (r.takeWhile P)) := by
  induction r generalizing p with
  | nil => rw [h.bumpWhile_nil, List.takeWhile_nil, Position.after_nil]
  | cons c r ih =>
    rw [h.bumpWhile_cons]
    split
    · rename_i hc
      rw [ih h.next, List.takeWhile_cons_of_pos hc, Position.after_cons]
    · rename_i hc
      rw [List.takeWhile_cons_of_neg hc, Position.after_nil]

theorem advanceTo_append (h : StandsAt src p (s ++ r)) :
    advanceTo src (p.offset + byteLength s) p = some (p.after s) := by
  induction s generalizing p with
  | nil => rw [byteLength, Nat.add_zero, advanceTo, if_neg (Nat.lt_irrefl _), Position.after_nil]
  | cons c s ih =>
    have hsize := c.utf8Size_pos
    have htarget : p.offset + byteLength (c :: s) = (p.next c).offset + byteLength s := by
      rw [Position.offset_next, byteLength, Nat.add_assoc]
    rw [List.cons_append] at h
    rw [h.advanceTo_cons (by rw [byteLength]; omega), htarget, Position.after_cons]
    exact ih h.next

theorem advanceTo_eq (h : StandsAt src p r) (n : Nat) :
    advanceTo src (p.offset + byteOffset r n) p = some (p.after (r.take n)) :=
  advanceTo_append (by rwa [List.take_append_drop])

theorem slice_eq (h : StandsAt src p (s ++ r)) :
    slice src p.offset (p.after s).offset = some s := by
  obtain ⟨before, rfl, hp⟩ := h
  rw [Position.offset_after, hp, ← byteLength_append, slice_of_append (List.append_assoc ..)]

end StandsAt

end

/-! ## Arguments and literal text -/

/-- The plain group at the cursor and the place behind it. -/
def groupArgument (src : Text) (p : Position) : Checked (Option (Text × Position)) := do
  let r ← rest src p
  let blanks ← sub (byteLength r) (byteLength (trimStartBy isSpaceOrTab r))
  let after ← sliceFrom r blanks
  match strip? ['{'] after with
  | none => some none
  | some body =>
    match body.findIdx? Lexeme.endsGroup with
    | none => some none
    | some i =>
      let close := byteOffset body i
      let closer ← sliceFrom body close
      let content ← sliceTo body close
      if !startsWith ['}'] closer || isBlankText content then some none
      else
        let q ← advanceTo src (p.offset + blanks + 1 + close + 1) p
        some (some (trim content, q))

/-- The place behind the delimited text at the cursor. -/
def delimited (src : Text) (p : Position) : Checked Position := do
  match ← peek src p with
  | none => some p
  | some d =>
    if isBlank d || d.isAlpha then some p
    else
      let body ← bump src p
      let stop ← bumpWhile (fun c => c ≠ d && c ≠ '\n') src body
      let closer ← peek src stop
      if closer = some d then bump src stop else some stop

/-- The place behind the text that belongs to a `\verb` before the cursor. -/
def verb (src : Text) (p : Position) : Checked Position := do
  let star ← peek src p
  if star = some '*' then
    let q ← bump src p
    delimited src q
  else delimited src p

/-- The token of the verbatim environment whose body starts at the cursor. -/
def verbatimToken (src name : Text) (p : Position) : Checked (Token × Position) := do
  let r ← rest src p
  match find? (Lexeme.verbatimEnd name) r with
  | some i =>
    let q ← advanceTo src (p.offset + byteOffset r i + byteLength (Lexeme.verbatimEnd name)) p
    some (.verbatim name true, q)
  | none =>
    let q ← advanceTo src (byteLength src) p
    some (.verbatim name false, q)

/-- What is read of the text `r` at the cursor `p`, with the place behind it. -/
def moved {α : Type} (p : Position) (r : Text) (x : α × Nat) : α × Position :=
  (x.1, p.after (r.take x.2))

section

variable {src r : Text} {p : Position}

theorem findIdx?_eq (P : Char → Bool) (t : Text) :
    t.findIdx? P = if (t.takeWhile (!P ·)).length < t.length then
      some (t.takeWhile (!P ·)).length else none := by
  induction t with
  | nil => rfl
  | cons c t ih =>
    rw [List.findIdx?_cons, ih]
    cases hc : P c with
    | true => simp [hc]
    | false => simp [hc]

/-- A group behind blanks is read from its content on. -/
theorem groupArgument?_of_dropWhile {body : Text} (h : r.dropWhile isSpaceOrTab = '{' :: body) :
    Lexeme.groupArgument? r =
      match body.dropWhile (!Lexeme.endsGroup ·) with
      | '}' :: _ =>
        if isBlankText (body.takeWhile (!Lexeme.endsGroup ·)) then none
        else some (trim (body.takeWhile (!Lexeme.endsGroup ·)),
          (r.takeWhile isSpaceOrTab).length + (body.takeWhile (!Lexeme.endsGroup ·)).length + 2)
      | _ => none := by
  rw [Lexeme.groupArgument?, h, ← drop_length_takeWhile (!Lexeme.endsGroup ·) body]
  rfl

theorem groupArgument?_eq_none (h : (r.dropWhile isSpaceOrTab).head? ≠ some '{') :
    Lexeme.groupArgument? r = none := by
  rw [Lexeme.groupArgument?]
  split
  · rename_i heq
    rw [heq] at h
    exact absurd rfl h
  · rfl

/-- The cursor behind a group. -/
theorem advanceTo_group {blanks content tail : Text}
    (h : StandsAt src p (blanks ++ '{' :: (content ++ '}' :: tail))) :
    advanceTo src (p.offset + byteLength blanks + 1 + byteLength content + 1) p =
      some (p.after ((blanks ++ '{' :: (content ++ '}' :: tail)).take
        (blanks.length + content.length + 2))) := by
  have hgroup : blanks ++ '{' :: (content ++ '}' :: tail) =
      blanks ++ '{' :: (content ++ ['}']) ++ tail := by
    rw [List.append_assoc, List.cons_append, List.append_assoc]
    rfl
  have htarget : p.offset + byteLength blanks + 1 + byteLength content + 1 =
      p.offset + byteLength (blanks ++ '{' :: (content ++ ['}'])) := by
    have hopen : '{'.utf8Size = 1 := rfl
    have hclose : byteLength ['}'] = 1 := rfl
    rw [byteLength_append, byteLength, byteLength_append]
    omega
  rw [hgroup] at h ⊢
  rw [htarget, h.advanceTo_append, List.take_left' (by simp; omega)]

theorem groupArgument_eq (h : StandsAt src p r) :
    groupArgument src p = some ((Lexeme.groupArgument? r).map (moved p r)) := by
  have hr : r.takeWhile isSpaceOrTab ++ r.dropWhile isSpaceOrTab = r :=
    List.takeWhile_append_dropWhile
  have hlength := congrArg byteLength hr
  rw [byteLength_append] at hlength
  have hblanks : sub (byteLength r) (byteLength (trimStartBy isSpaceOrTab r)) =
      some (byteLength (r.takeWhile isSpaceOrTab)) := by
    rw [trimStartBy, sub_of_le (by omega)]
    exact congrArg some (by omega)
  rw [groupArgument, h.rest_eq]
  simp only [Option.bind_eq_bind, Option.bind_some, hblanks, sliceFrom_of_append hr]
  by_cases hhead : (r.dropWhile isSpaceOrTab).head? = some '{'
  · obtain ⟨body, hw⟩ := List.head?_eq_some_iff.1 hhead
    have hbody : body.takeWhile (!Lexeme.endsGroup ·) ++ body.dropWhile (!Lexeme.endsGroup ·) =
        body := List.takeWhile_append_dropWhile
    have hopen : strip? ['{'] ('{' :: body) = some body := strip?_eq_some_iff.2 rfl
    rw [groupArgument?_of_dropWhile hw, hw, hopen]
    dsimp only
    rw [findIdx?_eq]
    generalize r.takeWhile isSpaceOrTab = blanks at hr hw ⊢
    generalize body.takeWhile (!Lexeme.endsGroup ·) = content at hbody ⊢
    generalize body.dropWhile (!Lexeme.endsGroup ·) = tail at hbody ⊢
    subst hbody
    cases tail with
    | nil => simp
    | cons d tail =>
      rw [if_pos (by simp)]
      dsimp only
      rw [byteOffset_of_append rfl, sliceFrom_of_append rfl, sliceTo_of_append rfl]
      simp only [Option.bind_some]
      by_cases hd : d = '}'
      · subst hd
        rw [show startsWith ['}'] ('}' :: tail) = true from rfl, Bool.not_true, Bool.false_or]
        split
        · rfl
        · have hgroup : r = blanks ++ '{' :: (content ++ '}' :: tail) := by rw [← hr, hw]
          rw [hgroup] at h ⊢
          rw [advanceTo_group h, Option.bind_some]
          rfl
      · have hcloser : startsWith ['}'] (d :: tail) = false := by
          rw [Bool.eq_false_iff]
          intro hstart
          obtain ⟨t, ht⟩ := startsWith_iff.1 hstart
          exact hd (List.cons.inj ht).1
        rw [hcloser, Bool.not_false, Bool.true_or, if_pos rfl]
        split
        · rename_i heq
          exact absurd (List.cons.inj heq).1 hd
        · rfl
  · have hstrip : strip? ['{'] (r.dropWhile isSpaceOrTab) = none :=
      Option.eq_none_iff_forall_ne_some.2 fun t ht => hhead (by rw [strip?_eq_some_iff.1 ht]; rfl)
    rw [groupArgument?_eq_none hhead, hstrip]
    rfl

theorem delimited_eq (h : StandsAt src p r) :
    delimited src p = some (p.after (r.take (Lexeme.delimitedLength r))) := by
  rw [delimited, h.peek_eq, Option.bind_eq_bind, Option.bind_some]
  cases r with
  | nil => rfl
  | cons d body =>
    rw [Lexeme.delimitedLength]
    dsimp only [List.head?_cons]
    split
    · rfl
    · have hbody := List.takeWhile_append_dropWhile (l := body)
        (p := fun c => decide (c ≠ d) && decide (c ≠ '\n'))
      rw [h.bump_eq, Option.bind_eq_bind, Option.bind_some, h.next.bumpWhile_eq, Option.bind_some]
      generalize body.takeWhile _ = content at hbody ⊢
      generalize body.dropWhile _ = tail at hbody ⊢
      subst hbody
      have hstop := h.next.after
      rw [hstop.peek_eq, Option.bind_some]
      split
      · rename_i hhead
        obtain ⟨tail, rfl⟩ := List.head?_eq_some_iff.1 hhead
        rw [hstop.bump_eq, Nat.add_right_comm, Nat.add_comm 1, Nat.add_right_comm,
          List.take_succ_cons, List.append_cons,
          List.take_left' (by rw [List.length_append, List.length_singleton, Nat.add_comm]),
          Position.after_cons, Position.after_append]
        rfl
      · rw [Nat.add_zero, Nat.add_comm, List.take_succ_cons, List.take_left, Position.after_cons]

theorem verb_eq (h : StandsAt src p r) :
    verb src p = some (p.after (r.take (Lexeme.verbLength r))) := by
  rw [verb, h.peek_eq, Lexeme.verbLength_eq, Option.bind_eq_bind, Option.bind_some]
  split
  · rename_i hstar
    obtain ⟨r, rfl⟩ := List.head?_eq_some_iff.1 hstar
    rw [h.bump_eq, Option.bind_eq_bind, Option.bind_some, delimited_eq h.next, Nat.add_comm,
      List.take_succ_cons, Position.after_cons]
    rfl
  · rw [delimited_eq h, Nat.zero_add]
    rfl

theorem verbatimToken_eq (h : StandsAt src p r) (name : Text) :
    verbatimToken src name p = some (moved p r (Lexeme.verbatimToken name r)) := by
  rw [verbatimToken, h.rest_eq, Option.bind_eq_bind, Option.bind_some, Lexeme.verbatimToken]
  cases hfind : find? (Lexeme.verbatimEnd name) r with
  | some i =>
    obtain ⟨-, hstart, -⟩ := find?_eq_some_iff.1 hfind
    obtain ⟨s, hs⟩ := startsWith_iff.1 hstart
    have hend : byteOffset r (i + (Lexeme.verbatimEnd name).length) =
        byteOffset r i + byteLength (Lexeme.verbatimEnd name) := by
      rw [byteOffset_add, byteOffset_of_append hs.symm]
    dsimp only
    rw [Nat.add_assoc, ← hend, h.advanceTo_eq]
    rfl
  | none =>
    have hend : byteLength src = p.offset + byteOffset r r.length := by
      obtain ⟨before, rfl, hp⟩ := h
      rw [byteLength_append, hp, byteOffset_length]
    dsimp only
    rw [hend, h.advanceTo_eq]
    rfl

end

/-! ## Control words -/

/-- The token of the control word `name` before the cursor. -/
def controlWordToken (src name : Text) (p : Position) : Checked (Token × Position) := do
  if name = "begin".toList then
    match ← groupArgument src p with
    | some (env, q) =>
      if Catalog.mem env Catalog.verbatimEnvironments then verbatimToken src env q
      else some (.beginEnvironment env, q)
    | none => some (.controlWord name, p)
  else if name = "end".toList then
    match ← groupArgument src p with
    | some (env, q) => some (.endEnvironment env, q)
    | none => some (.controlWord name, p)
  else if name = "documentclass".toList then some (.documentClass, p)
  else if name = "verb".toList then
    let q ← verb src p
    some (.verb, q)
  else
    match IncludeCommand.ofName? name with
    | none => some (.controlWord name, p)
    | some command =>
      match ← groupArgument src p with
      | some (target, q) => some (.inclusion command target, q)
      | none => some (.controlWord name, p)

/-- The token of a backslash before the cursor. -/
def controlToken (src : Text) (p : Position) : Checked (Token × Position) := do
  match ← peek src p with
  | none => some (.plain '\\', p)
  | some c =>
    if isCommandChar c then
      let q ← bumpWhile isCommandChar src p
      let name ← slice src p.offset q.offset
      controlWordToken src name q
    else
      let q ← bump src p
      some (.controlSymbol c, q)

/-- The token at the cursor, which starts with the character `c`. -/
def lexeme (src : Text) (p : Position) (c : Char) : Checked (Token × Position) := do
  if c = '%' then
    let q ← bumpWhile (· ≠ '\n') src p
    some (.comment, q)
  else
    let q ← bump src p
    match c with
    | '\\' => controlToken src q
    | '{' => some (.openBrace, q)
    | '}' => some (.closeBrace, q)
    | '[' => some (.openBracket, q)
    | ']' => some (.closeBracket, q)
    | '$' =>
      let stop ← bumpWhile (· = '$') src q
      let more ← slice src q.offset stop.offset
      some (.dollars (more.length + 1), stop)
    | c => some (.plain c, q)

section

variable {src r : Text} {p : Position}

/-- Reading on is reading from a later place. -/
theorem moved_take {α : Type} (p : Position) (r : Text) (n : Nat) (x : α × Nat) :
    moved (p.after (r.take n)) (r.drop n) x = moved p r (x.1, n + x.2) := by
  rw [moved, moved, List.take_add, Position.after_append]

theorem controlWordToken_eq (h : StandsAt src p r) (name : Text) :
    controlWordToken src name p = some (moved p r (Lexeme.controlWordToken name r)) := by
  have hgroup := groupArgument_eq h
  have hmoved : ∀ token : Token, (token, p) = moved p r (token, 0) := fun _ => rfl
  rw [controlWordToken, Lexeme.controlWordToken]
  split
  · rw [hgroup, Option.bind_eq_bind, Option.bind_some]
    cases Lexeme.groupArgument? r with
    | none => exact congrArg some (hmoved _)
    | some x =>
      dsimp only [Option.map_some, moved]
      split
      · rw [verbatimToken_eq (h.take x.2), moved_take]
        rfl
      · rfl
  · split
    · rw [hgroup, Option.bind_eq_bind, Option.bind_some]
      cases Lexeme.groupArgument? r <;> rfl
    · split
      · rfl
      · split
        · rw [verb_eq h]
          rfl
        · cases IncludeCommand.ofName? name with
          | none => rfl
          | some command =>
            dsimp only
            rw [hgroup, Option.bind_eq_bind, Option.bind_some]
            cases Lexeme.groupArgument? r <;> rfl

theorem controlToken_eq (h : StandsAt src p r) :
    controlToken src p = some (moved p r (Lexeme.controlToken r)) := by
  rw [controlToken, h.peek_eq, Option.bind_eq_bind, Option.bind_some]
  cases r with
  | nil => rfl
  | cons c r =>
    rw [Lexeme.controlToken]
    dsimp only [List.head?_cons]
    split
    · have hname : (c :: r).take ((c :: r).takeWhile isCommandChar).length =
          (c :: r).takeWhile isCommandChar :=
        (List.prefix_iff_eq_take.1 (List.takeWhile_prefix _)).symm
      have hcursor := h.take ((c :: r).takeWhile isCommandChar).length
      have hslice := StandsAt.slice_eq (s := (c :: r).takeWhile isCommandChar)
        (r := (c :: r).dropWhile isCommandChar) (by rwa [List.takeWhile_append_dropWhile])
      rw [h.bumpWhile_eq, Option.bind_eq_bind, Option.bind_some, hslice, Option.bind_eq_bind,
        Option.bind_some]
      rw [hname] at hcursor
      have hmoved := moved_take p (c :: r) ((c :: r).takeWhile isCommandChar).length
        (Lexeme.controlWordToken ((c :: r).takeWhile isCommandChar)
          ((c :: r).drop ((c :: r).takeWhile isCommandChar).length))
      rw [hname] at hmoved
      rw [controlWordToken_eq hcursor, hmoved]
    · rw [h.bump_eq]
      rfl

theorem lexeme_eq {c : Char} (h : StandsAt src p (c :: r)) :
    lexeme src p c = some (moved (p.next c) r (Lexeme.lexeme c r)) := by
  have htake : ∀ P : Char → Bool, r.take (r.takeWhile P).length = r.takeWhile P := fun P =>
    (List.prefix_iff_eq_take.1 (List.takeWhile_prefix _)).symm
  rw [lexeme]
  by_cases hc : c = '%'
  · subst hc
    rw [if_pos rfl, h.bumpWhile_eq, List.takeWhile_cons_of_pos (by decide), Position.after_cons,
      Lexeme.lexeme, moved, htake]
    rfl
  · rw [if_neg hc, h.bump_eq, Option.bind_eq_bind, Option.bind_some]
    split
    · exact controlToken_eq h.next
    · rfl
    · rfl
    · rfl
    · rfl
    · have hslice := StandsAt.slice_eq (s := r.takeWhile (· = '$')) (r := r.dropWhile (· = '$'))
        (by rw [List.takeWhile_append_dropWhile]; exact h.next)
      have hdollars : Lexeme.lexeme '$' r = (.dollars ((r.takeWhile (· = '$')).length + 1),
        (r.takeWhile (· = '$')).length) := rfl
      rw [h.next.bumpWhile_eq, Option.bind_some, hslice, Option.bind_eq_bind, Option.bind_some,
        hdollars, moved, htake]
    · unfold Lexeme.lexeme
      split <;> first | contradiction | rfl

end

/-! ## Documents -/

/-- A lexeme ends behind its first character. -/
theorem offset_next_le_of_lexeme {src : Text} {p : Position} {c : Char} {r : Text}
    {x : Token × Position} (h : StandsAt src p (c :: r)) (hx : lexeme src p c = some x) :
    (p.next c).offset ≤ x.2.offset := by
  rw [lexeme_eq h] at hx
  cases hx
  exact (Position.offset_after ..).symm ▸ Nat.le_add_right _ _

/-- The lexemes from the cursor on. -/
def lexemesFrom (src : Text) (p : Position) : Checked (List Lexeme) :=
  match _hpeek : peek src p with
  | none => none
  | some none => some []
  | some (some c) =>
    match _hlexeme : lexeme src p c with
    | none => none
    | some (token, q) => (lexemesFrom src q).map (⟨token, p, q⟩ :: ·)
termination_by byteLength src - p.offset
decreasing_by
  obtain ⟨r, hr⟩ := StandsAt.exists_of_peek _hpeek
  exact hr.sub_offset_lt (offset_next_le_of_lexeme hr _hlexeme)

/-- The lexemes of a document. -/
def lexemes (t : Text) : Checked (List Lexeme) :=
  lexemesFrom t .start

section

variable {src r : Text} {p : Position}

theorem lexemesFrom_cons {c : Char} (h : StandsAt src p (c :: r)) :
    lexemesFrom src p =
      (lexemesFrom src ((p.next c).after (r.take (Lexeme.lexeme c r).2))).map
        (⟨(Lexeme.lexeme c r).1, p, (p.next c).after (r.take (Lexeme.lexeme c r).2)⟩ :: ·) := by
  have hpeek : peek src p = some (some c) := h.peek_eq
  have hlexeme := lexeme_eq h
  rw [lexemesFrom]
  split
  · rename_i hnone
    rw [hpeek] at hnone
    cases hnone
  · rename_i hnone
    rw [hpeek] at hnone
    cases hnone
  · rename_i d hsome
    rw [hpeek] at hsome
    cases hsome
    split
    · rename_i hnone
      rw [hlexeme] at hnone
      cases hnone
    · rename_i token q hsome
      rw [hlexeme] at hsome
      cases hsome
      rfl

theorem lexemesFrom_eq (p : Position) (r : Text) (h : StandsAt src p r) :
    lexemesFrom src p = some (Lexeme.lexemesFrom p r) := by
  induction p, r using Lexeme.lexemesFrom.induct with
  | case1 p =>
    have hpeek : peek src p = some none := h.peek_eq
    rw [lexemesFrom, Lexeme.lexemesFrom]
    split <;> simp_all
  | case2 p c t token n heq stop ih =>
    rw [lexemesFrom_cons h, Lexeme.lexemesFrom_cons, heq, ih (h.next.take n)]
    rfl

/-- The cursor stands behind each lexeme. -/
theorem exists_standsAt_of_mem {x : Lexeme} (h : StandsAt src p r)
    (hx : x ∈ Lexeme.lexemesFrom p r) : ∃ s, StandsAt src x.stop s := by
  induction p, r using Lexeme.lexemesFrom.induct with
  | case1 p =>
    rw [Lexeme.lexemesFrom] at hx
    cases hx
  | case2 p c t token n heq stop ih =>
    rw [Lexeme.lexemesFrom_cons, heq] at hx
    rcases List.mem_cons.1 hx with rfl | hx
    · exact ⟨_, h.next.take n⟩
    · exact ih (h.next.take n) hx

@[simp]
theorem lexemes_eq (t : Text) : lexemes t = some (Lexeme.lexemes t) :=
  lexemesFrom_eq .start t (standsAt_start t)

end

end Checked

end LatexRepair
