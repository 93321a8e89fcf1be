import LatexRepair.Proofs.CheckedSlices
import LatexRepair.Proofs.Encoding
import LatexRepair.Proofs.LineRules

/-!
# Checked readings of a line

The readings of a line byte by byte: where its comment starts, its code, its indentation and the
intro of a comment, the marker that a comment hides, and its skeleton. Each reading counts bytes,
cuts the line where they tell it to, and stops where the line cannot be cut. None of them stops,
and each finds what the reading by characters finds, at the byte offsets of its places
(`Checked.codePart_eq`, `Checked.skeleton_eq`).

Patterns are matched on characters; a match is a piece of the text, and its places are given by
the offsets of its ends.
-/

namespace LatexRepair

/-! ## Places in bytes -/

/-- A token with its places as byte offsets. -/
def PlacedToken.inBytes (code : Text) (x : PlacedToken) : PlacedToken :=
  ⟨x.token, Text.byteOffset code x.start, Text.byteOffset code x.stop⟩

@[simp]
theorem PlacedToken.token_inBytes (code : Text) (x : PlacedToken) :
    (x.inBytes code).token = x.token :=
  rfl

/-- A marker with its places as byte offsets. -/
def PlacedMarker.inBytes (line : Text) (x : PlacedMarker) : PlacedMarker :=
  ⟨x.marker, Text.byteOffset line x.start, Text.byteOffset line x.stop⟩

/-- A hidden marker with its places as byte offsets. -/
def HiddenMarker.inBytes (line : Text) (x : HiddenMarker) : HiddenMarker :=
  ⟨x.marker, Text.byteOffset line x.start, Text.byteOffset line x.stop⟩

namespace Checked

open Text

/-! ## Comments -/

/-- The byte of the first `%` with an even number of backslashes directly before it, in bytes that
start at number `i` behind the given number of backslashes. -/
def commentStartFrom (backslashes i : Nat) : List UInt8 → Option Nat
  | [] => none
  | b :: bs =>
    if b = '\\'.toUInt8 then commentStartFrom (backslashes + 1) (i + 1) bs
    else if b = '%'.toUInt8 ∧ backslashes % 2 = 0 then some i
    else commentStartFrom 0 (i + 1) bs

/-- The byte where the comment of a line starts. -/
def commentStart (line : Text) : Option Nat :=
  commentStartFrom 0 0 (encode line)

/-- The line up to its comment. -/
def codePart (line : Text) : Checked Text :=
  match commentStart line with
  | some i => sliceTo line i
  | none => some line

/-- The white space in front of a line. -/
def indentation (line : Text) : Checked Text := do
  let n ← sub (byteLength line) (byteLength (trimStart line))
  sliceTo line n

/-- The indentation and the run of `%` in front of a comment line, with the spaces and tabs behind
them. -/
def commentIntro (line : Text) : Checked (Option Text) := do
  let indent ← indentation line
  let rest ← sliceFrom line (byteLength indent)
  match percentRun? rest with
  | some run => (sliceTo line (byteLength indent + byteLength run)).map some
  | none => some none

/-- The marker that the comment of a line starts with. -/
def hiddenMarker (line : Text) : Checked (Option HiddenMarker) :=
  match commentStart line with
  | none => some none
  | some start => do
    let comment ← sliceFrom line start
    match percentRun? comment with
    | none => some none
    | some run => do
      let rest ← sliceFrom comment (byteLength run)
      some ((Marker.at? rest).map fun m => ⟨m.1, start, start + byteLength run⟩)

/-- The line without the bytes from `i` up to `j`. -/
def removeRange (line : Text) (i j : Nat) : Checked Text := do
  let a ← sliceTo line i
  let b ← sliceFrom line j
  some (a ++ b)

theorem commentStartFrom_high {bs : List UInt8} (hne : bs ≠ []) (h : ∀ b ∈ bs, IsHighByte b)
    (backslashes i : Nat) (rest : List UInt8) :
    commentStartFrom backslashes i (bs ++ rest) = commentStartFrom 0 (i + bs.length) rest := by
  induction bs generalizing backslashes i with
  | nil => exact absurd rfl hne
  | cons b bs ih =>
    rw [List.forall_mem_cons] at h
    have hback : b ≠ '\\'.toUInt8 := h.1.ne_toUInt8 (by decide)
    have hpercent : b ≠ '%'.toUInt8 := h.1.ne_toUInt8 (by decide)
    rw [List.cons_append, commentStartFrom, if_neg hback, if_neg fun hb => hpercent hb.1]
    cases bs with
    | nil => rfl
    | cons b' bs' =>
      rw [ih (List.cons_ne_nil _ _) h.2, List.length_cons (a := b), Nat.add_right_comm,
        Nat.add_assoc]

/-- The number of bytes before the comment of a line; `escaped` says that an odd number of
backslashes stands directly before the line. -/
def codeBytes? (escaped : Bool) (t : Text) : Option Nat :=
  if (codePartFrom escaped t).length < t.length then some (byteLength (codePartFrom escaped t))
  else none

theorem codeBytes?_cons_of_keep {escaped escaped' : Bool} {c : Char} {t : Text}
    (h : codePartFrom escaped (c :: t) = c :: codePartFrom escaped' t) :
    codeBytes? escaped (c :: t) = (codeBytes? escaped' t).map (c.utf8Size + ·) := by
  simp only [codeBytes?, h, List.length_cons, Nat.add_lt_add_iff_right, byteLength]
  split <;> rfl

/-- The bytes are read as the characters are. -/
theorem commentStartFrom_encode (t : Text) (backslashes i : Nat) :
    commentStartFrom backslashes i (encode t) =
      (codeBytes? (backslashes % 2 = 1) t).map (i + ·) := by
  induction t generalizing backslashes i with
  | nil => rfl
  | cons c t ih =>
    rcases encodeChar_cases c with ⟨hc, hone⟩ | ⟨hc, hne, hhigh⟩
    · have hstep : ∀ k : Nat, (i + 1 + k) = i + (c.utf8Size + k) := fun k => by
        rw [utf8Size_of_lt hc, Nat.add_assoc]
      rw [encode_cons, hone, List.singleton_append, commentStartFrom]
      simp only [toUInt8_eq_iff hc (d := '\\') (by decide),
        toUInt8_eq_iff hc (d := '%') (by decide)]
      by_cases hback : c = '\\'
      · rw [if_pos hback, ih, codeBytes?_cons_of_keep (by rw [codePartFrom, if_pos hback]),
          Option.map_map]
        have hparity : decide ((backslashes + 1) % 2 = 1) = !decide (backslashes % 2 = 1) := by
          rw [Bool.eq_iff_iff]
          simp
          omega
        rw [hparity]
        congr 1
        exact funext hstep
      · rw [if_neg hback]
        by_cases hpercent : c = '%' ∧ backslashes % 2 = 0
        · have heven : decide (backslashes % 2 = 1) = false := by simp [hpercent.2]
          rw [if_pos hpercent, heven, hpercent.1]
          simp [codeBytes?, codePartFrom, byteLength]
        · have hkeep : codePartFrom (decide (backslashes % 2 = 1)) (c :: t) =
              c :: codePartFrom false t := by
            rw [codePartFrom, if_neg hback, if_neg]
            simpa using fun h => hpercent ∘ .intro h
          rw [if_neg hpercent, ih, codeBytes?_cons_of_keep hkeep, Option.map_map]
          congr 1
          exact funext hstep
    · have hkeep : codePartFrom (decide (backslashes % 2 = 1)) (c :: t) =
          c :: codePartFrom false t := by
        have hback : c ≠ '\\' := by
          rintro rfl
          exact absurd hc (by decide)
        have hpercent : c ≠ '%' := by
          rintro rfl
          exact absurd hc (by decide)
        rw [codePartFrom, if_neg hback, if_neg (by simp [hpercent])]
      rw [encode_cons, commentStartFrom_high hne hhigh, ih, codeBytes?_cons_of_keep hkeep,
        Option.map_map, String.length_utf8EncodeChar]
      congr 1
      exact funext fun k => Nat.add_assoc _ _ _

theorem codePart_isPrefix (line : Text) : LatexRepair.codePart line <+: line :=
  codePartFrom_isPrefix false line

/-- A place in the code of a line is that place in the line. -/
theorem byteOffset_codePart {line : Text} {i : Nat} (h : i ≤ (LatexRepair.codePart line).length) :
    byteOffset (LatexRepair.codePart line) i = byteOffset line i := by
  obtain ⟨r, hr⟩ := codePart_isPrefix line
  conv => rhs; rw [← hr]
  rw [byteOffset_append_of_le r h]

/-- The byte where a comment starts is that of its first character. -/
theorem commentStart_eq (line : Text) :
    commentStart line = (commentStart? line).map (byteOffset line) := by
  rw [commentStart, commentStartFrom_encode, commentStart?, LatexRepair.codePart,
    show decide (0 % 2 = 1) = false from rfl, codeBytes?]
  obtain ⟨r, hr⟩ := codePartFrom_isPrefix false line
  split <;> simp [byteOffset_of_append hr]

@[simp]
theorem codePart_eq (line : Text) : codePart line = some (LatexRepair.codePart line) := by
  rw [codePart, commentStart_eq, commentStart?]
  split
  · rename_i i h
    split at h
    · obtain rfl := Option.some.inj h
      rw [sliceTo_byteOffset, ← List.prefix_iff_eq_take.1 (codePart_isPrefix line)]
    · cases h
  · rename_i h
    split at h
    · cases h
    · rename_i hlength
      rw [(codePart_isPrefix line).eq_of_length_le (Nat.le_of_not_lt hlength)]

@[simp]
theorem indentation_eq (line : Text) : indentation line = some (LatexRepair.indentation line) := by
  have hlength := congrArg byteLength (indentation_append_trimStart line)
  rw [byteLength_append] at hlength
  rw [indentation, sub_of_le (by omega), Option.bind_eq_bind, Option.bind_some,
    show byteLength line - byteLength (trimStart line) =
      byteLength (LatexRepair.indentation line) by omega]
  exact sliceTo_of_append (indentation_append_trimStart line)

@[simp]
theorem commentIntro_eq (line : Text) : commentIntro line = some (commentIntro? line) := by
  have hline := indentation_append_trimStart line
  rw [commentIntro, indentation_eq, Option.bind_eq_bind, Option.bind_some,
    sliceFrom_of_append hline, Option.bind_some, commentIntro?]
  cases hrun : percentRun? (trimStart line) with
  | none => rfl
  | some run =>
    obtain ⟨r, hr, -⟩ := LineRepair.exists_append_of_percentRun? hrun
    rw [hr, ← List.append_assoc] at hline
    dsimp only
    rw [← byteLength_append, sliceTo_of_append hline]
    rfl

@[simp]
theorem hiddenMarker_eq (line : Text) :
    hiddenMarker line = some ((hiddenMarker? line).map (·.inBytes line)) := by
  rw [hiddenMarker, commentStart_eq, hiddenMarker?]
  cases hstart : commentStart? line with
  | none => rfl
  | some start =>
    dsimp only [Option.map_some, Option.bind_eq_bind, Option.bind_some]
    rw [sliceFrom_byteOffset, Option.bind_some]
    cases hrun : percentRun? (line.drop start) with
    | none => rfl
    | some run =>
      obtain ⟨r, hr, -⟩ := LineRepair.exists_append_of_percentRun? hrun
      dsimp only [Option.bind_some]
      rw [sliceFrom_of_append hr.symm, hr, List.drop_left, Option.bind_some]
      cases Marker.at? r with
      | none => rfl
      | some m =>
        have hstop : byteOffset line (start + run.length) =
            byteOffset line start + byteLength run := by
          rw [byteOffset_add, byteOffset_of_append hr.symm]
        simp [HiddenMarker.inBytes, hstop]

theorem removeRange_byteOffset (line : Text) (i j : Nat) :
    removeRange line (byteOffset line i) (byteOffset line j) =
      some ((Edit.delete i j).apply line) := by
  rw [removeRange, sliceTo_byteOffset, sliceFrom_byteOffset, Edit.apply_delete]
  rfl

/-! ## Skeletons -/

/-- The markup that one byte is. -/
def markupOfByte? (b : UInt8) : Option MarkupToken :=
  if b = '{'.toUInt8 then some .openBrace
  else if b = '}'.toUInt8 then some .closeBrace
  else if b = '&'.toUInt8 then some .align
  else none

/-- The markup that the byte with the number `i` starts, before the bytes `bs`, and how many of them
belong to it. Of an escaped character of several bytes none do: they are read for themselves. -/
def readToken (code : Text) (i : Nat) (b : UInt8) (bs : List UInt8) :
    Checked (Option MarkupToken × Nat) :=
  if b = '\\'.toUInt8 then
    match bs.head? with
    | none => some (none, 0)
    | some next =>
      if isCommandByte next then do
        let n := (bs.takeWhile isCommandByte).length
        let name ← slice code (i + 1) (i + 1 + n)
        some (some (.command name), n)
      else if next = '\\'.toUInt8 then some (some .lineBreak, 1)
      else some (none, if next < 128 then 1 else 0)
  else some (markupOfByte? b, 0)

/-- The skeleton of code, read from the given bytes, which start at number `i`. -/
def skeletonFrom (code : Text) (i : Nat) : List UInt8 → Checked (List PlacedToken)
  | [] => some []
  | b :: bs => do
    let (token, n) ← readToken code i b bs
    let rest ← skeletonFrom code (i + 1 + n) (bs.drop n)
    match token with
    | some x => some (⟨x, i, i + 1 + n⟩ :: rest)
    | none => some rest
termination_by bs => bs.length
decreasing_by simp only [List.length_drop, List.length_cons]; omega

/-- The skeleton of a piece of code. -/
def skeleton (code : Text) : Checked (List PlacedToken) :=
  skeletonFrom code 0 (encode code)

theorem markupOfByte?_of_high {b : UInt8} (h : IsHighByte b) : markupOfByte? b = none := by
  rw [markupOfByte?, if_neg (h.ne_toUInt8 (by decide)), if_neg (h.ne_toUInt8 (by decide)),
    if_neg (h.ne_toUInt8 (by decide))]

section

variable {code before s r : Text} {i n : Nat} {b : UInt8} {bs : List UInt8} {x : MarkupToken}

/-- A byte without markup is passed over. -/
theorem skeletonFrom_of_none (h : readToken code i b bs = some (none, n)) :
    skeletonFrom code i (b :: bs) = skeletonFrom code (i + 1 + n) (bs.drop n) := by
  rw [skeletonFrom, h, Option.bind_eq_bind, Option.bind_some]
  exact Option.bind_fun_some _

theorem skeletonFrom_of_some (h : readToken code i b bs = some (some x, n)) :
    skeletonFrom code i (b :: bs) =
      (skeletonFrom code (i + 1 + n) (bs.drop n)).map (⟨x, i, i + 1 + n⟩ :: ·) := by
  rw [skeletonFrom, h, Option.bind_eq_bind, Option.bind_some, Option.map_eq_bind]
  rfl

/-- A piece of text without markup is passed over. -/
theorem skeletonFrom_append_of_none (hbytes : encode (s ++ r) = b :: bs)
    (hread : readToken code (byteLength before) b bs = some (none, n))
    (hlength : byteLength s = n + 1) :
    skeletonFrom code (byteLength before) (encode (s ++ r)) =
      skeletonFrom code (byteLength (before ++ s)) (encode r) := by
  have hdrop := drop_encode_append s r
  rw [hbytes, hlength, List.drop_succ_cons] at hdrop
  rw [hbytes, skeletonFrom_of_none hread, hdrop, byteLength_append, hlength, Nat.add_right_comm,
    Nat.add_assoc]

/-- A piece of text that is a token comes first. -/
theorem skeletonFrom_append_of_some (hcode : before ++ (s ++ r) = code)
    (hbytes : encode (s ++ r) = b :: bs)
    (hread : readToken code (byteLength before) b bs = some (some x, n))
    (hlength : byteLength s = n + 1) {rest : List PlacedToken}
    (hrest : skeletonFrom code (byteLength (before ++ s)) (encode r) =
      some (rest.map (·.inBytes code))) :
    skeletonFrom code (byteLength before) (encode (s ++ r)) =
      some ((⟨x, before.length, before.length + s.length⟩ :: rest).map (·.inBytes code)) := by
  have hdrop := drop_encode_append s r
  rw [hbytes, hlength, List.drop_succ_cons] at hdrop
  have hstop : byteLength before + 1 + n = byteLength (before ++ s) := by
    rw [byteLength_append, hlength]
    omega
  have hbefore : before ++ s ++ r = code := by rw [List.append_assoc, hcode]
  rw [hbytes, skeletonFrom_of_some hread, hdrop, hstop, hrest, Option.map_some, List.map_cons,
    PlacedToken.inBytes, ← List.length_append, byteOffset_of_append hbefore,
    byteOffset_of_append hcode]

/-- The name of a command is read byte by byte. -/
theorem readToken_command {name t : Text} (hcode : before ++ ('\\' :: name ++ t) = code)
    (hne : name ≠ []) (hname : ∀ c ∈ name, isCommandChar c = true)
    (hnext : ∀ c ∈ t.head?, isCommandChar c = false) :
    readToken code (byteLength before) '\\'.toUInt8 (encode (name ++ t)) =
      some (some (.command name), name.length) := by
  have hsize : byteLength name = name.length :=
    byteLength_of_lt fun c hc => toNat_lt_of_isCommandChar (hname c hc)
  have hto : before ++ ['\\'] ++ name ++ t = code := by
    rw [← hcode, List.append_assoc, List.append_assoc]
    rfl
  have hstart : byteLength before + 1 = byteLength (before ++ ['\\']) := by
    rw [byteLength_append]
    rfl
  have hslice : slice code (byteLength before + 1) (byteLength before + 1 + name.length) =
      some name := by
    rw [slice, hstart, ← hsize, ← byteLength_append, sliceTo_of_append hto, Option.bind_eq_bind,
      Option.bind_some, sliceFrom_of_append rfl]
  obtain ⟨c, rest, hcons⟩ := List.exists_cons_of_ne_nil hne
  have hc : isCommandChar c = true := hname c (by rw [hcons]; exact List.mem_cons_self ..)
  have hascii := toNat_lt_of_isCommandChar hc
  have hhead : (encode (name ++ t)).head? = some c.toUInt8 := by
    rw [hcons, List.cons_append, encode_cons_of_lt hascii]
    rfl
  rw [readToken, if_pos rfl, hhead]
  dsimp only
  rw [isCommandByte_toUInt8 hascii, if_pos hc, takeWhile_isCommandByte_encode,
    takeWhile_append_eq hname hnext, length_encode, hsize, hslice]
  rfl

end

theorem skeletonFrom_high {bs : List UInt8} (h : ∀ b ∈ bs, IsHighByte b) (code : Text) (i : Nat)
    (rest : List UInt8) :
    skeletonFrom code i (bs ++ rest) = skeletonFrom code (i + bs.length) rest := by
  induction bs generalizing i with
  | nil => rfl
  | cons b bs ih =>
    rw [List.forall_mem_cons] at h
    have hread : readToken code i b (bs ++ rest) = some (none, 0) := by
      rw [readToken, if_neg (h.1.ne_toUInt8 (by decide)), markupOfByte?_of_high h.1]
    rw [List.cons_append, skeletonFrom_of_none hread, List.drop_zero, Nat.add_zero, ih h.2,
      List.length_cons, Nat.add_right_comm, Nat.add_assoc]

/-- An escaped character is passed over, with all its bytes. -/
theorem skeletonFrom_of_escaped (code before : Text) {c : Char} (t : Text)
    (hc : isCommandChar c = false) (hback : c ≠ '\\') :
    skeletonFrom code (byteLength before) (encode ('\\' :: c :: t)) =
      skeletonFrom code (byteLength (before ++ ['\\', c])) (encode t) := by
  rcases encodeChar_cases c with ⟨hlt, -⟩ | ⟨-, hne, hhigh⟩
  · have hbytes : encode (['\\', c] ++ t) = '\\'.toUInt8 :: c.toUInt8 :: encode t := by
      rw [List.cons_append, encode_cons_of_lt (by decide), List.cons_append,
        encode_cons_of_lt hlt, List.nil_append]
    refine skeletonFrom_append_of_none hbytes (n := 1) ?_ ?_
    · have hnext : c.toUInt8 ≠ '\\'.toUInt8 := by
        rwa [ne_eq, toUInt8_eq_iff hlt (by decide)]
      have hsmall : c.toUInt8 < 128 := by
        rw [UInt8.lt_iff_toNat_lt, toNat_toUInt8 hlt]
        exact hlt
      simp [readToken, isCommandByte_toUInt8 hlt, hc, hnext, hsmall]
    · rw [byteLength, byteLength, utf8Size_of_lt hlt]
      rfl
  · obtain ⟨b, bs, hbs⟩ := List.exists_cons_of_ne_nil hne
    have hb : IsHighByte b := hhigh b (by rw [hbs]; exact List.mem_cons_self ..)
    have hbytes : encode (c :: t) = b :: (bs ++ encode t) := by
      rw [encode_cons, hbs, List.cons_append]
    have hread : readToken code (byteLength before) '\\'.toUInt8 (encode (c :: t)) =
        some (none, 0) := by
      have hnext : b ≠ '\\'.toUInt8 := hb.ne_toUInt8 (by decide)
      have hlarge : ¬b < 128 := by
        rw [UInt8.lt_iff_toNat_lt, Nat.not_lt]
        exact hb
      simp [readToken, hbytes, hb.isCommandByte, hnext, hlarge]
    have hstop : byteLength (before ++ ['\\']) + c.utf8Size =
        byteLength (before ++ ['\\', c]) := by
      rw [byteLength_append, byteLength_append, Nat.add_assoc]
      rfl
    rw [show '\\' :: c :: t = ['\\'] ++ c :: t from rfl,
      skeletonFrom_append_of_none (encode_cons_of_lt (by decide) _) hread rfl, encode_cons,
      skeletonFrom_high hhigh, String.length_utf8EncodeChar, hstop]

/-- A character that is no markup is passed over, with all its bytes. -/
theorem skeletonFrom_of_plain (code before : Text) {c : Char} (t : Text) (h₁ : c ≠ '\\')
    (h₂ : c ≠ '{') (h₃ : c ≠ '}') (h₄ : c ≠ '&') :
    skeletonFrom code (byteLength before) (encode (c :: t)) =
      skeletonFrom code (byteLength (before ++ [c])) (encode t) := by
  rcases encodeChar_cases c with ⟨hlt, -⟩ | ⟨-, -, hhigh⟩
  · refine skeletonFrom_append_of_none (s := [c]) (encode_cons_of_lt hlt t) (n := 0) ?_ ?_
    · have hne : ∀ d : Char, d.toNat < 128 → c ≠ d → c.toUInt8 ≠ d.toUInt8 := fun d hd h => by
        rwa [ne_eq, toUInt8_eq_iff hlt hd]
      rw [readToken, if_neg (hne '\\' (by decide) h₁), markupOfByte?,
        if_neg (hne '{' (by decide) h₂), if_neg (hne '}' (by decide) h₃),
        if_neg (hne '&' (by decide) h₄)]
    · rw [byteLength, utf8Size_of_lt hlt]
      rfl
  · rw [encode_cons, skeletonFrom_high hhigh, String.length_utf8EncodeChar, byteLength_append]
    rfl

/-- The bytes are read as the characters are. -/
theorem skeletonFrom_encode {code : Text} (i : Nat) (t : Text) : ∀ before, before ++ t = code →
    before.length = i → skeletonFrom code (byteLength before) (encode t) =
      some ((LatexRepair.skeletonFrom i t).map (·.inBytes code)) := by
  induction t using code_induction generalizing i with
  | nil =>
    intro before _ _
    rw [LatexRepair.skeletonFrom]
    exact skeletonFrom.eq_1 ..
  | backslash =>
    intro before _ _
    rw [skeletonFrom_backslash]
    exact (skeletonFrom_append_of_none (s := ['\\']) (r := []) rfl rfl rfl).trans
      (skeletonFrom.eq_1 ..)
  | append s t x h ih =>
    rintro before hcode rfl
    have hrest := ih (before.length + s.length) (before ++ s) (by rw [List.append_assoc, hcode])
      List.length_append
    rw [h.skeletonFrom_append]
    cases h with
    | lineBreak => exact skeletonFrom_append_of_some hcode rfl rfl rfl hrest
    | escape hc hback => exact (skeletonFrom_of_escaped code before t hc hback).trans hrest
    | word hne hname hnext =>
      have hsize := byteLength_of_lt fun c hc => toNat_lt_of_isCommandChar (hname c hc)
      exact skeletonFrom_append_of_some hcode (encode_cons_of_lt (by decide) _)
        (readToken_command hcode hne hname hnext)
        (by rw [byteLength, hsize, Nat.add_comm]; rfl) hrest
    | plain hback hopen hclose halign =>
      exact (skeletonFrom_of_plain code before t hback hopen hclose halign).trans hrest
    | _ =>
      exact skeletonFrom_append_of_some hcode (encode_cons_of_lt (by decide) t) rfl rfl hrest

@[simp]
theorem skeleton_eq (code : Text) :
    skeleton code = some ((LatexRepair.skeleton code).map (·.inBytes code)) :=
  skeletonFrom_encode 0 code [] rfl rfl

theorem braceBalance_inBytes (xs : List PlacedToken) (code : Text) :
    braceBalance (xs.map (·.inBytes code)) = braceBalance xs := by
  rw [braceBalance, List.foldr_map]
  rfl

/-- The structure of a text: its markers, then its sectioning commands. -/
def structureTokens (t : Text) : Checked (List Text) := do
  let tokens ← skeleton t
  some ((markers t).map (·.marker.text) ++
    tokens.filterMap fun x => (sectioningCommand? x.token).map ('\\' :: ·))

/-- The kind of a line. -/
def lineClass (line : Text) : Checked LineClass := do
  let trimmed := Text.trim line
  let run := percentRun? trimmed
  let body ← sliceFrom trimmed (byteLength (run.getD []))
  some <|
    if trimmed.isEmpty then .blank
    else
      match commandName? body with
      | some name => .command name
      | none => if run.isSome then .comment else .prose

/-- The signature of a line. -/
def signature (line : Text) : Checked Signature := do
  let kind ← lineClass line
  some ⟨kind, (markers line).map (·.marker)⟩

@[simp]
theorem structureTokens_eq (t : Text) :
    structureTokens t = some (LatexRepair.structureTokens t) := by
  rw [structureTokens, skeleton_eq, Option.bind_eq_bind, Option.bind_some, List.filterMap_map]
  rfl

@[simp]
theorem lineClass_eq (line : Text) : lineClass line = some (LatexRepair.lineClass line) := by
  have hbody : sliceFrom (trim line) (byteLength ((percentRun? (trim line)).getD [])) =
      some ((trim line).drop ((percentRun? (trim line)).getD []).length) := by
    cases hrun : percentRun? (trim line) with
    | none => exact sliceFrom_byteOffset (trim line) 0
    | some run =>
      obtain ⟨r, hr, -⟩ := LineRepair.exists_append_of_percentRun? hrun
      rw [Option.getD_some, sliceFrom_of_append hr.symm, hr, List.drop_left]
  simp only [lineClass, LatexRepair.lineClass]
  rw [hbody]
  rfl

@[simp]
theorem signature_eq (line : Text) : signature line = some (LatexRepair.signature line) := by
  rw [signature, lineClass_eq, Option.bind_eq_bind, Option.bind_some, LatexRepair.signature]

end Checked

end LatexRepair
