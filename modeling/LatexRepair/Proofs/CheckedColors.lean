import LatexRepair.BraceRepair
import LatexRepair.Proofs.CheckedLines
import LatexRepair.Proofs.CheckedStructure
import LatexRepair.Proofs.CodePlaces
import Mathlib.Data.List.Infix

/-!
# Checked colours

Colour shorthands are closed where the row of their table cell ends. Whether one is open is read
off the bytes of the document: the byte behind a backslash is passed over, which may be the first
one of several that make a character, and the reading finds the braces of the text nevertheless
(`Checked.closingBraceFrom_eq`). The row break is looked for up to a number of bytes that may end
in a character and is lowered to a place between two (`Checked.boundary_eq`).

The closing braces are inserted from the last one on, so that the places of the others stay what
they are. That takes places in order, which they are: the row of a colour that is opened later
ends at the same break or a later one (`Checked.colorEnd?_mono`).
-/

namespace LatexRepair

namespace Checked

open Text

variable {t r before : Text} {depth i : Nat} {c : Char}

/-! ## Groups -/

/-- The byte of the brace that closes `depth` open groups, in a document read from the byte with
the number `i` on. The byte behind a backslash is passed over, and so are comments. -/
def closingBraceFrom (t : Text) (depth i : Nat) : Checked (Option Nat) :=
  match _h : (encode t)[i]? with
  | none => some none
  | some b =>
    if b = '\\'.toUInt8 then closingBraceFrom t depth (i + 2)
    else if b = '%'.toUInt8 then
      match sliceFrom t i with
      | none => none
      | some r =>
        match find? ['\n'] r with
        | some n => closingBraceFrom t depth (i + byteOffset r n + 1)
        | none => closingBraceFrom t depth (byteLength t + 1)
    else if b = '{'.toUInt8 then closingBraceFrom t (depth + 1) (i + 1)
    else if b = '}'.toUInt8 then
      match sub depth 1 with
      | none => none
      | some outer => if outer = 0 then some (some i) else closingBraceFrom t outer (i + 1)
    else closingBraceFrom t depth (i + 1)
termination_by byteLength t - i
decreasing_by
  all_goals
    have hlt := (List.getElem?_eq_some_iff.1 _h).1
    rw [length_encode] at hlt
    omega

section

variable {b : UInt8}

/-- What is read at a byte. -/
theorem closingBraceFrom_of_some (h : (encode t)[i]? = some b) :
    closingBraceFrom t depth i =
      if b = '\\'.toUInt8 then closingBraceFrom t depth (i + 2)
      else if b = '%'.toUInt8 then do
        let r ← sliceFrom t i
        match find? ['\n'] r with
        | some n => closingBraceFrom t depth (i + byteOffset r n + 1)
        | none => closingBraceFrom t depth (byteLength t + 1)
      else if b = '{'.toUInt8 then closingBraceFrom t (depth + 1) (i + 1)
      else if b = '}'.toUInt8 then do
        let outer ← sub depth 1
        if outer = 0 then some (some i) else closingBraceFrom t outer (i + 1)
      else closingBraceFrom t depth (i + 1) := by
  rw [closingBraceFrom]
  split
  · rename_i hnone
    rw [h] at hnone
    cases hnone
  · rename_i d hsome
    rw [h] at hsome
    cases hsome
    cases sliceFrom t i <;> cases sub depth 1 <;> rfl

end

/-- Behind the first part of a text stands the first byte of the rest. -/
theorem getElem?_encode (h : before ++ c :: r = t) (hc : c.toNat < 128) :
    (encode t)[byteLength before]? = some c.toUInt8 := by
  rw [← List.head?_drop, ← h, drop_encode_append, encode_cons_of_lt hc, List.head?_cons]

theorem closingBraceFrom_of_ge (h : byteLength t ≤ i) : closingBraceFrom t depth i = some none := by
  have hnone : (encode t)[i]? = none := List.getElem?_eq_none (by rwa [length_encode])
  rw [closingBraceFrom]
  split
  · rfl
  · rename_i hsome
    rw [hnone] at hsome
    cases hsome

theorem toNat_lt_of_mem (h : c ∈ ['\\', '%', '{', '}']) : c.toNat < 128 := by
  simp only [List.mem_cons, List.not_mem_nil, or_false] at h
  rcases h with rfl | rfl | rfl | rfl <;> decide

/-- A byte that is none of the four is passed over. -/
theorem closingBraceFrom_of_ne {b : UInt8} (h : (encode t)[i]? = some b)
    (hb : ∀ c ∈ ['\\', '%', '{', '}'], b ≠ c.toUInt8) :
    closingBraceFrom t depth i = closingBraceFrom t depth (i + 1) := by
  simp only [List.forall_mem_cons, List.not_mem_nil, false_imp_iff, implies_true, and_true] at hb
  rw [closingBraceFrom_of_some h, if_neg hb.1, if_neg hb.2.1, if_neg hb.2.2.1, if_neg hb.2.2.2]

theorem closingBraceFrom_high {bs rest : List UInt8} (h : (encode t).drop i = bs ++ rest)
    (hhigh : ∀ b ∈ bs, IsHighByte b) :
    closingBraceFrom t depth i = closingBraceFrom t depth (i + bs.length) := by
  induction bs generalizing i with
  | nil => rfl
  | cons b bs ih =>
    rw [List.forall_mem_cons] at hhigh
    have hget : (encode t)[i]? = some b := by
      rw [← List.head?_drop, h]
      rfl
    have hdrop : (encode t).drop (i + 1) = bs ++ rest := by
      rw [← List.drop_drop, h]
      rfl
    have hne : ∀ c ∈ ['\\', '%', '{', '}'], b ≠ c.toUInt8 := fun c hc =>
      hhigh.1.ne_toUInt8 (toNat_lt_of_mem hc)
    rw [closingBraceFrom_of_ne hget hne, ih hdrop hhigh.2, List.length_cons, Nat.add_assoc,
      Nat.add_comm 1]

theorem closingBraceFrom_plain (h : before ++ c :: r = t) (hc : c ∉ ['\\', '%', '{', '}']) :
    closingBraceFrom t depth (byteLength before) =
      closingBraceFrom t depth (byteLength before + c.utf8Size) := by
  rcases encodeChar_cases c with ⟨hlt, -⟩ | ⟨-, -, hhigh⟩
  · rw [utf8Size_of_lt hlt]
    refine closingBraceFrom_of_ne (b := c.toUInt8) ?_ fun d hd heq => ?_
    · exact getElem?_encode h hlt
    · rw [toUInt8_eq_iff hlt (toNat_lt_of_mem hd)] at heq
      exact hc (heq ▸ hd)
  · rw [← String.length_utf8EncodeChar]
    exact closingBraceFrom_high (by rw [← h, drop_encode_append, encode_cons]) hhigh

/-- The byte behind a backslash is the first one of a character; the others of this character are
passed over too. -/
theorem closingBraceFrom_escape (h : before ++ '\\' :: c :: r = t) :
    closingBraceFrom t depth (byteLength before) =
      closingBraceFrom t depth (byteLength before + 1 + c.utf8Size) := by
  rw [closingBraceFrom_of_some (getElem?_encode h (by decide)), if_pos rfl]
  rcases encodeChar_cases c with ⟨hlt, -⟩ | ⟨-, hne, hhigh⟩
  · rw [utf8Size_of_lt hlt]
  · obtain ⟨b, bs, hbs⟩ := List.exists_cons_of_ne_nil hne
    have hsize : c.utf8Size = bs.length + 1 := by
      rw [← String.length_utf8EncodeChar, hbs, List.length_cons]
    have hdrop : (encode t).drop (byteLength before + 2) = bs ++ encode r := by
      rw [← List.drop_drop, ← h, drop_encode_append, encode_cons_of_lt (by decide), encode_cons,
        hbs]
      rfl
    rw [closingBraceFrom_high hdrop fun b hb => hhigh b (by rw [hbs]; exact .tail _ hb), hsize]
    congr 1
    omega

/-- A comment is passed over up to its newline. -/
theorem closingBraceFrom_percent (h : before ++ '%' :: r = t) :
    closingBraceFrom t depth (byteLength before) =
      match find? ['\n'] r with
      | some n => closingBraceFrom t depth (byteLength before + byteOffset ('%' :: r) (n + 2))
      | none => some none := by
  have hfind : find? ['\n'] ('%' :: r) = (find? ['\n'] r).map (· + 1) := rfl
  rw [closingBraceFrom_of_some (getElem?_encode h (by decide)), if_neg (by decide), if_pos rfl,
    sliceFrom_of_append h, Option.bind_eq_bind, Option.bind_some, hfind]
  cases hline : find? ['\n'] r with
  | none => exact closingBraceFrom_of_ge (Nat.le_succ _)
  | some n =>
    obtain ⟨-, hstart, -⟩ := find?_eq_some_iff.1 hline
    obtain ⟨behind, hbehind⟩ := startsWith_iff.1 hstart
    have hnewline : byteOffset ('%' :: r) (n + 1 + 1) = byteOffset ('%' :: r) (n + 1) + 1 := by
      rw [byteOffset_add, List.drop_succ_cons, hbehind]
      rfl
    dsimp only [Option.map_some]
    rw [hnewline, Nat.add_assoc]

/-- A comment ends with its line. -/
theorem closingBraceFrom_comment (depth i : Nat) (r : Text) :
    BraceRepair.closingBraceFrom depth i true r =
      match find? ['\n'] r with
      | some n => BraceRepair.closingBraceFrom depth (i + (n + 1)) false (r.drop (n + 1))
      | none => none := by
  induction r generalizing i with
  | nil => rfl
  | cons c r ih =>
    rw [BraceRepair.closingBraceFrom_comment]
    by_cases hc : c = '\n'
    · subst hc
      rfl
    · have hstart : startsWith ['\n'] (c :: r) = false := by
        rw [Bool.eq_false_iff]
        exact fun h => hc (by obtain ⟨_, h⟩ := startsWith_iff.1 h; exact (List.cons.inj h).1)
      rw [find?, if_neg (by simp [hstart]), decide_eq_true hc, ih]
      cases find? ['\n'] r with
      | none => rfl
      | some n =>
        dsimp only [Option.map_some]
        rw [List.drop_succ_cons, Nat.add_assoc i 1, Nat.add_comm 1]

theorem closingBraceFrom_eq (hdepth : 0 < depth) (h : before ++ r = t) :
    closingBraceFrom t depth (byteLength before) =
      some ((BraceRepair.closingBraceFrom depth before.length false r).map (byteOffset t)) := by
  induction hn : r.length using Nat.strong_induction_on generalizing r depth before with
  | _ m ih =>
    cases r with
    | nil =>
      rw [closingBraceFrom_of_ge (by rw [← h, List.append_nil])]
      rfl
    | cons c r =>
      -- Behind `n` more characters the text is read as the induction says.
      have hnext : ∀ {depth : Nat} (n : Nat), 0 < depth → 0 < n → n ≤ r.length + 1 →
          closingBraceFrom t depth (byteLength before + byteOffset (c :: r) n) =
            some ((BraceRepair.closingBraceFrom depth (before.length + n) false
              ((c :: r).drop n)).map (byteOffset t)) := by
        intro depth n hdepth hpos hle
        have hsplit : before ++ (c :: r).take n ++ (c :: r).drop n = t := by
          rw [List.append_assoc, List.take_append_drop, h]
        have hrest := ih ((c :: r).drop n).length
          (by rw [← hn, List.length_drop, List.length_cons]; omega) hdepth hsplit rfl
        rwa [byteLength_append, List.length_append, List.length_take, List.length_cons,
          Nat.min_eq_left hle] at hrest
      obtain rfl | rfl | rfl | rfl | hplain :
          c = '\\' ∨ c = '%' ∨ c = '{' ∨ c = '}' ∨ c ∉ ['\\', '%', '{', '}'] := by
        simp only [List.mem_cons, List.not_mem_nil, or_false]
        tauto
      · cases r with
        | nil =>
          have hend : byteLength t ≤ byteLength before + 2 := by
            rw [← h, byteLength_append]
            exact Nat.add_le_add_left (by decide) _
          rw [closingBraceFrom_of_some (getElem?_encode h (by decide)), if_pos rfl,
            closingBraceFrom_of_ge hend]
          rfl
        | cons d r =>
          rw [closingBraceFrom_escape h, BraceRepair.closingBraceFrom_escape, Nat.add_assoc]
          exact hnext 2 hdepth Nat.two_pos (Nat.le_add_left 2 _)
      · rw [closingBraceFrom_percent h, BraceRepair.closingBraceFrom_percent,
          closingBraceFrom_comment]
        cases hline : find? ['\n'] r with
        | none => rfl
        | some n =>
          have hlt := length_le_of_find? hline
          rw [List.length_singleton] at hlt
          dsimp only
          rw [Nat.add_assoc before.length, Nat.add_comm 1]
          exact hnext (n + 2) hdepth (Nat.succ_pos _) (Nat.succ_le_succ hlt)
      · rw [closingBraceFrom_of_some (getElem?_encode h (by decide)),
          BraceRepair.closingBraceFrom_open]
        exact hnext 1 (Nat.succ_pos _) Nat.one_pos (Nat.le_add_left 1 _)
      · rw [closingBraceFrom_of_some (getElem?_encode h (by decide)), if_neg (by decide),
          if_neg (by decide), if_neg (by decide), if_pos rfl, sub_of_le hdepth,
          Option.bind_eq_bind, Option.bind_some, BraceRepair.closingBraceFrom_close]
        by_cases hone : depth ≤ 1
        · rw [if_pos hone, if_pos (by omega), Option.map_some, byteOffset_of_append h]
        · rw [if_neg hone, if_neg (by omega)]
          exact hnext 1 (by omega) Nat.one_pos (Nat.le_add_left 1 _)
      · rw [closingBraceFrom_plain h hplain, BraceRepair.closingBraceFrom_plain hplain]
        exact hnext 1 hdepth Nat.one_pos (Nat.le_add_left 1 _)

/-! ## The line of a colour -/

/-- The number of bytes up to and with the last newline. -/
def lineStart (t : Text) : Nat :=
  byteLength (t.reverse.dropWhile (· ≠ '\n')).reverse

/-- The byte with the number `i` is in a comment of its line. -/
def isCommented (t : Text) (i : Nat) : Checked Bool := do
  let before ← sliceTo t i
  let rest ← sliceFrom t (lineStart before)
  some ((commentStart rest).any fun n => lineStart before + n < i)

/-- Whether a comment starts in the first part of a line is decided there. -/
theorem length_codePartFrom_append_lt_iff (escaped : Bool) (s r : Text) :
    (codePartFrom escaped (s ++ r)).length < s.length ↔
      (codePartFrom escaped s).length < s.length := by
  induction s generalizing escaped with
  | nil => simp
  | cons c s ih =>
    rw [List.cons_append, codePartFrom_cons, codePartFrom_cons]
    split
    · rfl
    · rw [List.length_cons, List.length_cons, List.length_cons, Nat.add_lt_add_iff_right,
        Nat.add_lt_add_iff_right, ih]

theorem isCommented_eq (t : Text) (i : Nat) :
    isCommented t (byteOffset t i) = some (BraceRepair.isCommented t i) := by
  have hbefore : ((t.take i).reverse.dropWhile (· ≠ '\n')).reverse ++
      BraceRepair.lineBefore t i = t.take i := by
    rw [BraceRepair.lineBefore, ← List.reverse_append, List.takeWhile_append_dropWhile,
      List.reverse_reverse]
  have hrest : ((t.take i).reverse.dropWhile (· ≠ '\n')).reverse ++
      (BraceRepair.lineBefore t i ++ t.drop i) = t := by
    rw [← List.append_assoc, hbefore, List.take_append_drop]
  have hi : byteOffset t i = lineStart (t.take i) + byteLength (BraceRepair.lineBefore t i) := by
    rw [byteOffset, lineStart, ← byteLength_append, hbefore]
  rw [isCommented, sliceTo_byteOffset, Option.bind_eq_bind, Option.bind_some, lineStart,
    sliceFrom_of_append hrest, ← lineStart, Option.bind_some, hi,
    commentStart_eq, BraceRepair.isCommented]
  generalize BraceRepair.lineBefore t i = line
  have hiff := length_codePartFrom_append_lt_iff false line (t.drop i)
  rw [← LatexRepair.codePart, ← LatexRepair.codePart] at hiff
  rw [commentStart?, commentStart?]
  by_cases hlt : (LatexRepair.codePart line).length < line.length
  · have hwhole := hiff.2 hlt
    have hbyte : byteOffset (line ++ t.drop i) (LatexRepair.codePart (line ++ t.drop i)).length <
        byteLength line := by
      rw [byteOffset_append_of_le _ (Nat.le_of_lt hwhole), ← byteOffset_length]
      exact byteOffset_lt hwhole (Nat.le_refl _)
    rw [if_pos hlt, if_pos (by rw [List.length_append]; omega)]
    simp [hbyte]
  · have hwhole := byteOffset_mono (line ++ t.drop i) (Nat.not_lt.1 (mt hiff.1 hlt))
    rw [byteOffset_of_append rfl] at hwhole
    rw [if_neg hlt]
    split
    · simp [hwhole]
    · rfl

/-! ## Row breaks -/

/-- A row break is decided by its own characters, none of them a backslash behind the first two. -/
theorem exists_of_rowEndsHere (h : BraceRepair.rowEndsHere t = true) :
    ∃ p s, t = '\\' :: '\\' :: (p ++ s) ∧ p ≠ [] ∧ '\\' ∉ p ∧
      ∀ s', BraceRepair.rowEndsHere ('\\' :: '\\' :: (p ++ s')) = true := by
  unfold BraceRepair.rowEndsHere at h
  split at h
  · rename_i r
    have hr : r.takeWhile isSpaceOrTab ++ r.dropWhile isSpaceOrTab = r :=
      List.takeWhile_append_dropWhile
    have hback : '\\' ∉ r.takeWhile isSpaceOrTab := fun hmem =>
      absurd (List.mem_takeWhile_imp hmem) (by decide)
    have hdrop : ∀ (c : Char) (s : Text), isSpaceOrTab c = false →
        (r.takeWhile isSpaceOrTab ++ c :: s).dropWhile isSpaceOrTab = c :: s := fun c s hc => by
      rw [List.dropWhile_append_of_pos fun x hx => List.mem_takeWhile_imp hx,
        List.dropWhile_cons_of_neg (by simp [hc])]
    split at h
    · rename_i s hs
      refine ⟨r.takeWhile isSpaceOrTab ++ ['\n'], s, ?_, by simp, by simp [hback], fun s' => ?_⟩
      · rw [List.append_assoc, List.singleton_append, ← hs, hr]
      · rw [List.append_assoc, List.singleton_append, BraceRepair.rowEndsHere,
          hdrop _ _ (by decide)]
        rfl
    · rename_i s hs
      refine ⟨r.takeWhile isSpaceOrTab ++ ['\r', '\n'], s, ?_, by simp, by simp [hback],
        fun s' => ?_⟩
      · rw [List.append_assoc, List.cons_append, List.singleton_append, ← hs, hr]
      · rw [List.append_assoc, List.cons_append, List.singleton_append, BraceRepair.rowEndsHere,
          hdrop _ _ (by decide)]
        rfl
    · cases h
  · cases h

theorem rowEnd?_eq_some {n : Nat} (h : BraceRepair.rowEnd? t = some n) :
    n < t.length ∧ BraceRepair.rowEndsHere (t.drop n) = true ∧
      ∀ k < n, BraceRepair.rowEndsHere (t.drop k) = false := by
  induction t generalizing n with
  | nil => cases h
  | cons c t ih =>
    rw [BraceRepair.rowEnd?] at h
    split at h
    · rename_i hhere
      cases h
      exact ⟨Nat.succ_pos _, hhere, fun k hk => absurd hk (Nat.not_lt_zero k)⟩
    · rename_i hhere
      obtain ⟨n, hn, rfl⟩ := Option.map_eq_some_iff.1 h
      obtain ⟨hlt, hends, hfirst⟩ := ih hn
      refine ⟨Nat.succ_lt_succ hlt, hends, fun k hk => ?_⟩
      cases k with
      | zero => exact Bool.eq_false_iff.2 hhere
      | succ k => exact hfirst k (Nat.lt_of_succ_lt_succ hk)

/-- Behind two backslashes and more characters, none of them a backslash, two backslashes do not
start before all of them are over. -/
theorem le_of_two_backslashes {p : Text} {d : Nat} (hne : p ≠ []) (hback : '\\' ∉ p)
    (hfirst : '\\' :: '\\' :: p <+: t) (hother : ['\\', '\\'] <+: t.drop (d + 1)) :
    p.length + 2 ≤ d + 1 := by
  by_contra hinside
  obtain ⟨w, rfl⟩ := hfirst
  obtain ⟨w', hw'⟩ := hother
  have hget : ∀ j < p.length, ('\\' :: '\\' :: p ++ w)[j + 2]? = p[j]? := fun j hj =>
    List.getElem?_append_left (Nat.add_lt_add_right hj 2)
  have hslash : ∀ j < 2, ('\\' :: '\\' :: p ++ w)[d + 1 + j]? = some '\\' := fun j hj => by
    rw [← List.getElem?_drop, ← hw']
    exact (by decide : ∀ j < 2, ['\\', '\\'][j]? = some '\\') j hj ▸
      List.getElem?_append_left hj
  cases d with
  | zero =>
    have hthird := hget 0 (List.length_pos_iff.2 hne)
    rw [hslash 1 (by decide)] at hthird
    exact hback (List.mem_of_getElem? hthird.symm)
  | succ d =>
    have hlater := hget d (by omega)
    rw [hslash 0 (by decide)] at hlater
    exact hback (List.mem_of_getElem? hlater.symm)

/-- Of two row breaks, each the first in its part of the text, the one that is looked for later
does not come earlier, unless the other one is out of its part. -/
theorem rowEnd?_mono {a b m n : Nat} {u v : Text} (hu : u <+: t.drop a) (hv : v <+: t.drop b)
    (hm : BraceRepair.rowEnd? u = some m) (hn : BraceRepair.rowEnd? v = some n) (hab : a ≤ b)
    (hlt : b < a + m) : a + m ≤ b + n := by
  by_contra hnot
  obtain ⟨hmlength, hmhere, hmfirst⟩ := rowEnd?_eq_some hm
  obtain ⟨-, hnhere, -⟩ := rowEnd?_eq_some hn
  obtain ⟨q, s', hq, -⟩ := exists_of_rowEndsHere hmhere
  obtain ⟨p, s, hp, hne, hback, hends⟩ := exists_of_rowEndsHere hnhere
  obtain ⟨k, hk⟩ : ∃ k, b + n = a + k := ⟨b + n - a, by omega⟩
  obtain ⟨d, rfl⟩ : ∃ d, m = k + (d + 1) := ⟨m - k - 1, by omega⟩
  have hrow : '\\' :: '\\' :: p <+: t.drop (a + k) := by
    rw [← hk, ← List.drop_drop]
    exact (hp ▸ ⟨s, rfl⟩ : '\\' :: '\\' :: p <+: v.drop n).trans (List.IsPrefix.drop hv n)
  have hother : ['\\', '\\'] <+: (t.drop (a + k)).drop (d + 1) := by
    rw [List.drop_drop, Nat.add_assoc, ← List.drop_drop]
    exact (hq ▸ ⟨q ++ s', rfl⟩ : ['\\', '\\'] <+: u.drop (k + (d + 1))).trans
      (List.IsPrefix.drop hu _)
  -- The other row break starts behind this one, since it starts with two backslashes.
  have hbehind := le_of_two_backslashes hne hback hrow hother
  have hhere : '\\' :: '\\' :: p <+: u.drop k := by
    refine List.prefix_of_prefix_length_le hrow ?_ ?_
    · rw [← List.drop_drop]
      exact List.IsPrefix.drop hu k
    · rw [List.length_drop, List.length_cons, List.length_cons]
      omega
  obtain ⟨w, hw⟩ := hhere
  have hfirst := hmfirst k (by omega)
  rw [← hw] at hfirst
  exact absurd (hends w) (by rw [← List.cons_append, ← List.cons_append, hfirst]; decide)

/-! ## Reach -/

/-- The last place to cut a text that is not behind the byte with the number `i`. -/
def boundary (t : Text) (i : Nat) : Checked Nat :=
  if (cut i t).isSome then some i
  else
    match _h : sub i 1 with
    | none => none
    | some j => boundary t j
termination_by i
decreasing_by
  obtain ⟨hle, heq⟩ := Option.ite_none_right_eq_some.1 _h
  cases heq
  omega

theorem takeBytes_byteOffset (t : Text) (i : Nat) : takeBytes (byteOffset t i) t = t.take i := by
  have htake := takeBytes_append (t.take i) (t.drop i) 0
  rwa [List.take_append_drop, Nat.add_zero, takeBytes_zero, List.append_nil] at htake

theorem byteLength_takeBytes_of_isSome_cut {n : Nat} (h : (cut n t).isSome) :
    byteLength (takeBytes n t) = n := by
  obtain ⟨⟨a, b⟩, hcut⟩ := Option.isSome_iff_exists.1 h
  obtain ⟨rfl, rfl⟩ := cut_eq_some_iff.1 hcut
  have htake := takeBytes_append a b 0
  rw [Nat.add_zero, takeBytes_zero, List.append_nil] at htake
  rw [htake]

theorem takeBytes_pred {n : Nat} (h : (cut n t).isSome = false) :
    takeBytes n t = takeBytes (n - 1) t := by
  induction t generalizing n with
  | nil => rfl
  | cons c t ih =>
    cases n with
    | zero => rfl
    | succ n =>
      have hsize := c.utf8Size_pos
      rw [cut] at h
      rw [takeBytes, takeBytes, Nat.add_sub_cancel]
      split at h
      · rename_i hle
        rw [Option.isSome_map] at h
        have hne : n + 1 - c.utf8Size ≠ 0 := by
          intro hzero
          rw [hzero, cut] at h
          cases h
        rw [if_pos hle, if_pos (by omega), ih h]
        congr 2
        omega
      · rename_i hgt
        rw [if_neg hgt, if_neg (by omega)]

/-- The last place to cut is behind as much of the text as fits. -/
theorem boundary_eq (t : Text) (i : Nat) : boundary t i = some (byteLength (takeBytes i t)) := by
  induction i with
  | zero => rw [boundary, if_pos (by rw [cut]; rfl), takeBytes_zero, byteLength]
  | succ i ih =>
    rw [boundary]
    split
    · rename_i h
      rw [byteLength_takeBytes_of_isSome_cut h]
    · rename_i h
      have hsub : sub (i + 1) 1 = some i := sub_of_le (Nat.le_add_left 1 i)
      rw [takeBytes_pred (Bool.eq_false_iff.2 h), Nat.add_sub_cancel, ← ih]
      split
      · rename_i hnone
        rw [hsub] at hnone
        cases hnone
      · rename_i j hsome
        rw [hsub] at hsome
        cases hsome
        rfl

/-! ## Colours -/

/-- The colour shorthands with the bytes where they start and where their arguments do. -/
def colorArguments (t : Text) : List (Nat × Nat) :=
  (BraceRepair.colorArgumentsFrom 0 t).map fun x => (byteOffset t x.1, byteOffset t x.2)

/-- The byte where the brace belongs that closes a colour, if the colour is not closed and its row
is. -/
def colorEnd (t : Text) (x : Nat × Nat) : Checked (Option Nat) := do
  if ← isCommented t x.1 then some none
  else
    let closing ← closingBraceFrom t 1 x.2
    if closing.isSome then some none
    else
      let limit ← boundary t (min (x.2 + BraceRepair.rowReach) (byteLength t))
      let reach ← slice t x.2 limit
      match BraceRepair.rowEnd? reach with
      | none => some none
      | some row =>
        let cell ← sliceTo t (x.2 + byteOffset reach row)
        some (some (max (byteLength (trimEndBy isSpaceOrTab cell)) x.2))

/-- The bytes where closing braces for colours belong. -/
def colorEnds (t : Text) : List (Nat × Nat) → Checked (List Nat)
  | [] => some []
  | x :: xs => do
    let stop ← colorEnd t x
    let more ← colorEnds t xs
    some (stop.toList ++ more)

/-- Insert a closing brace at each of the bytes, the last one first. -/
def insertBraces (t : Text) : List Nat → Checked Text
  | [] => some t
  | i :: is => do
    let u ← insertBraces t is
    insert u i ['}']

/-- Close the colours of a document. -/
def closeColors (t : Text) : Checked Text := do
  let stops ← colorEnds t (colorArguments t)
  insertBraces t stops

theorem trimEndBy_isPrefix (P : Char → Bool) (t : Text) : trimEndBy P t <+: t := by
  have hprefix := List.reverse_prefix.2 (List.dropWhile_suffix P (l := t.reverse))
  rwa [List.reverse_reverse] at hprefix

theorem trimEndBy_append (P : Char → Bool) (s r : Text) :
    trimEndBy P (s ++ r) =
      if (trimEndBy P r).isEmpty then trimEndBy P s else s ++ trimEndBy P r := by
  rw [trimEndBy, List.reverse_append, List.dropWhile_append]
  simp only [trimEndBy, List.isEmpty_reverse]
  split
  · rfl
  · rw [List.reverse_append, List.reverse_reverse]

theorem length_trimEndBy_append_le (P : Char → Bool) (s r : Text) :
    (trimEndBy P (s ++ r)).length ≤ s.length + (trimEndBy P r).length := by
  rw [trimEndBy_append]
  split
  · exact (trimEndBy_isPrefix P s).length_le.trans (Nat.le_add_right _ _)
  · rw [List.length_append]

theorem length_trimEndBy_le_append (P : Char → Bool) (s r : Text) :
    (trimEndBy P s).length ≤ (trimEndBy P (s ++ r)).length := by
  rw [trimEndBy_append]
  split
  · exact Nat.le_refl _
  · rw [List.length_append]
    exact (trimEndBy_isPrefix P s).length_le.trans (Nat.le_add_right _ _)

/-- What is trimmed does not reach before a place, or the place is taken instead. -/
theorem max_byteLength_trimEndBy (P : Char → Bool) (s r : Text) :
    max (byteLength (trimEndBy P (s ++ r))) (byteLength s) =
      byteLength s + byteLength (trimEndBy P r) := by
  rw [trimEndBy_append]
  split
  · rename_i hnil
    obtain ⟨w, hw⟩ := trimEndBy_isPrefix P s
    have hlength := congrArg byteLength hw
    rw [byteLength_append] at hlength
    rw [List.isEmpty_iff.1 hnil, byteLength, Nat.add_zero, Nat.max_eq_right (by omega)]
  · rw [byteLength_append, Nat.max_eq_left (Nat.le_add_right _ _)]

theorem closingBrace_eq (h : i ≤ t.length) :
    closingBraceFrom t 1 (byteOffset t i) =
      some ((BraceRepair.closingBrace? t i).map (byteOffset t)) := by
  have hfrom := closingBraceFrom_eq Nat.one_pos (List.take_append_drop i t)
  rwa [List.length_take, Nat.min_eq_left h] at hfrom

/-- The part of a document in which a row break is looked for. -/
theorem boundary_reach (t : Text) (i n : Nat) :
    boundary t (min (byteOffset t i + n) (byteLength t)) =
      some (byteLength (t.take i ++ takeBytes n (t.drop i))) := by
  have htake := takeBytes_append (t.take i) (t.drop i) n
  rw [List.take_append_drop] at htake
  rw [boundary_eq, ← htake, byteOffset]
  rcases Nat.le_total (byteLength (t.take i) + n) (byteLength t) with hle | hle
  · rw [Nat.min_eq_left hle]
  · rw [Nat.min_eq_right hle, takeBytes_of_le (Nat.le_refl _), takeBytes_of_le hle]

theorem colorEnd_eq {start argument : Nat} (h : argument ≤ t.length) :
    colorEnd t (byteOffset t start, byteOffset t argument) =
      some ((BraceRepair.colorEnd? t (start, argument)).map (byteOffset t)) := by
  obtain ⟨w, hreach⟩ := takeBytes_isPrefix BraceRepair.rowReach (t.drop argument)
  simp only [colorEnd, isCommented_eq, closingBrace_eq h, boundary_reach, BraceRepair.colorEnd?,
    Option.bind_eq_bind, Option.bind_some, Option.isSome_map]
  generalize takeBytes BraceRepair.rowReach (t.drop argument) = reach at hreach ⊢
  have hslice : slice t (byteOffset t argument) (byteLength (t.take argument ++ reach)) =
      some reach := slice_of_append (by rw [List.append_assoc, hreach, List.take_append_drop])
  rw [hslice, Option.bind_some]
  cases BraceRepair.isCommented t start with
  | true => rfl
  | false =>
    cases BraceRepair.closingBrace? t argument with
    | some _ => rfl
    | none =>
      cases BraceRepair.rowEnd? reach with
      | none => rfl
      | some row =>
        obtain ⟨v, hv⟩ := trimEndBy_isPrefix isSpaceOrTab (reach.take row)
        have hcell : sliceTo t (byteLength (t.take argument) + byteLength (reach.take row)) =
            some (t.take argument ++ reach.take row) := by
          rw [← byteLength_append]
          exact sliceTo_of_append (b := reach.drop row ++ w) (by
            rw [List.append_assoc, ← List.append_assoc (reach.take row), List.take_append_drop,
              hreach, List.take_append_drop])
        have hplace : trimEndBy isSpaceOrTab (reach.take row) ++ (v ++ reach.drop row ++ w) =
            t.drop argument := by
          rw [← List.append_assoc, ← List.append_assoc, hv, List.take_append_drop, hreach]
        dsimp only
        rw [byteOffset, byteOffset, hcell, Option.bind_some, max_byteLength_trimEndBy, ← byteOffset,
          ← byteOffset_of_append hplace, ← byteOffset_add]
        rfl

theorem insertBraces_eq {is : List Nat} (hle : ∀ i ∈ is, i ≤ t.length)
    (hpairs : is.Pairwise (· ≤ ·)) :
    insertBraces t (is.map (byteOffset t)) =
      some (Edit.applyAll (is.map fun i => .insert i ['}']) t) := by
  induction is with
  | nil => rfl
  | cons i is ih =>
    rw [List.forall_mem_cons] at hle
    rw [List.pairwise_cons] at hpairs
    have hprefix := Edit.take_applyAll (is.map fun i => .insert i ['}']) hle.1
      (by simpa [Edit.insert] using hpairs.1)
    rw [List.map_cons, insertBraces, ih hle.2 hpairs.2, Option.bind_eq_bind, Option.bind_some,
      ← byteOffset_congr hprefix (Nat.le_refl _), insert_byteOffset]
    rfl

theorem colorEnds_eq {xs : List (Nat × Nat)} (h : ∀ x ∈ xs, x.2 ≤ t.length) :
    colorEnds t (xs.map fun x => (byteOffset t x.1, byteOffset t x.2)) =
      some ((xs.filterMap (BraceRepair.colorEnd? t)).map (byteOffset t)) := by
  induction xs with
  | nil => rfl
  | cons x xs ih =>
    rw [List.forall_mem_cons] at h
    rw [List.map_cons, colorEnds, colorEnd_eq h.1, ih h.2, List.filterMap_cons]
    cases BraceRepair.colorEnd? t (x.1, x.2) <;> rfl

/-! ### The order of the places -/

theorem exists_rowEnd?_of_colorEnd? {x : Nat × Nat} (h : BraceRepair.colorEnd? t x = some i) :
    ∃ u row, u <+: t.drop x.2 ∧ BraceRepair.rowEnd? u = some row ∧
      i = x.2 + (trimEndBy isSpaceOrTab ((t.drop x.2).take row)).length := by
  have hprefix := takeBytes_isPrefix BraceRepair.rowReach (t.drop x.2)
  simp only [BraceRepair.colorEnd?, Option.bind_eq_bind] at h
  obtain ⟨-, h⟩ := Option.ite_none_left_eq_some.1 h
  obtain ⟨row, hrow, h⟩ := Option.bind_eq_some_iff.1 h
  have htake := congrArg (List.take row) (List.prefix_iff_eq_take.1 hprefix)
  rw [List.take_take, Nat.min_eq_left (Nat.le_of_lt (rowEnd?_eq_some hrow).1)] at htake
  exact ⟨_, row, hprefix, hrow, by rw [← htake, ← Option.some.inj h]⟩

/-- A later colour is closed at the same place or later. -/
theorem colorEnd?_mono {x y : Nat × Nat} {j : Nat} (hi : BraceRepair.colorEnd? t x = some i)
    (hj : BraceRepair.colorEnd? t y = some j) (hxy : x.2 ≤ y.2) : i ≤ j := by
  obtain ⟨u, m, hu, hm, rfl⟩ := exists_rowEnd?_of_colorEnd? hi
  obtain ⟨v, n, hv, hn, rfl⟩ := exists_rowEnd?_of_colorEnd? hj
  rcases Nat.lt_or_ge y.2 (x.2 + m) with hbehind | hbefore
  · have hrow := rowEnd?_mono hu hv hm hn hxy hbehind
    obtain ⟨d, hd⟩ := Nat.exists_eq_add_of_le hxy
    obtain ⟨e, rfl⟩ : ∃ e, m = d + e := ⟨m - d, by omega⟩
    obtain ⟨f, rfl⟩ : ∃ f, n = e + f := ⟨n - e, by omega⟩
    have hfirst := length_trimEndBy_append_le isSpaceOrTab ((t.drop x.2).take d)
      ((t.drop (x.2 + d)).take e)
    have hsecond := length_trimEndBy_le_append isSpaceOrTab ((t.drop (x.2 + d)).take e)
      (((t.drop (x.2 + d)).drop e).take f)
    rw [← List.drop_drop, ← List.take_add, List.length_take] at hfirst
    rw [← List.take_add, ← List.drop_drop] at hsecond
    rw [hd, ← List.drop_drop]
    omega
  · have hlength := (trimEndBy_isPrefix isSpaceOrTab ((t.drop x.2).take m)).length_le
    rw [List.length_take] at hlength
    omega

theorem colorEnd?_le {x : Nat × Nat} (h : BraceRepair.colorEnd? t x = some i)
    (hx : x.2 ≤ t.length) : i ≤ t.length := by
  obtain ⟨u, m, -, -, rfl⟩ := exists_rowEnd?_of_colorEnd? h
  have hlength := (trimEndBy_isPrefix isSpaceOrTab ((t.drop x.2).take m)).length_le
  rw [List.length_take, List.length_drop] at hlength
  omega

/-- A colour shorthand has its one backslash in front. -/
theorem backslash_of_mem_colorOpenings : ∀ o ∈ BraceRepair.colorOpenings,
    o.head? = some '\\' ∧ '\\' ∉ o.tail := by
  decide

theorem exists_of_find?_colorOpenings {o : Text}
    (h : BraceRepair.colorOpenings.find? (startsWith · (c :: t)) = some o) :
    ∃ name r, o = '\\' :: name ∧ '\\' ∉ name ∧ c = '\\' ∧ t = name ++ r := by
  obtain ⟨hhead, htail⟩ := backslash_of_mem_colorOpenings o (List.mem_of_find?_eq_some h)
  obtain ⟨name, rfl⟩ := List.head?_eq_some_iff.1 hhead
  have hstart := List.find?_some h
  obtain ⟨r, hr⟩ := startsWith_iff.1 hstart
  obtain ⟨rfl, rfl⟩ := List.cons.inj hr
  exact ⟨name, r, rfl, htail, rfl, rfl⟩

theorem bounds_of_mem_colorArgumentsFrom {x : Nat × Nat}
    (h : x ∈ BraceRepair.colorArgumentsFrom i t) :
    i ≤ x.1 ∧ x.1 < x.2 ∧ x.2 ≤ i + t.length ∧ t[x.1 - i]? = some '\\' := by
  induction t generalizing i with
  | nil => cases h
  | cons c t ih =>
    have hmore : x ∈ BraceRepair.colorArgumentsFrom (i + 1) t → i ≤ x.1 ∧ x.1 < x.2 ∧
        x.2 ≤ i + (t.length + 1) ∧ (c :: t)[x.1 - i]? = some '\\' := fun hx => by
      obtain ⟨hi, hlt, hle, hget⟩ := ih hx
      refine ⟨by omega, hlt, by omega, ?_⟩
      rw [show x.1 - i = x.1 - (i + 1) + 1 by omega, List.getElem?_cons_succ, hget]
    rw [BraceRepair.colorArgumentsFrom] at h
    split at h
    · rename_i o ho
      obtain ⟨name, r, rfl, -, rfl, rfl⟩ := exists_of_find?_colorOpenings ho
      rcases List.mem_cons.1 h with rfl | hx
      · refine ⟨Nat.le_refl _, ?_, ?_, ?_⟩ <;> simp
      · exact hmore hx
    · exact hmore h

/-- Colour shorthands do not overlap. -/
theorem pairwise_colorArgumentsFrom (i : Nat) (t : Text) :
    (BraceRepair.colorArgumentsFrom i t).Pairwise fun x y => x.2 ≤ y.2 := by
  induction t generalizing i with
  | nil => exact .nil
  | cons c t ih =>
    rw [BraceRepair.colorArgumentsFrom]
    split
    · rename_i o ho
      obtain ⟨name, r, rfl, hname, -, rfl⟩ := exists_of_find?_colorOpenings ho
      refine List.pairwise_cons.2 ⟨fun y hy => ?_, ih _⟩
      obtain ⟨hi, hlt, -, hget⟩ := bounds_of_mem_colorArgumentsFrom hy
      dsimp only
      rw [List.length_cons]
      by_contra hinside
      rw [List.getElem?_append_left (by omega)] at hget
      exact hname (List.mem_of_getElem? hget)
    · exact ih _

theorem le_length_of_mem_colorEnds (h : i ∈ BraceRepair.colorEnds t) : i ≤ t.length := by
  obtain ⟨x, hx, hend⟩ := List.mem_filterMap.1 h
  have hbound := (bounds_of_mem_colorArgumentsFrom hx).2.2.1
  rw [Nat.zero_add] at hbound
  exact colorEnd?_le hend hbound

/-- Colours are closed from the first one to the last one. -/
theorem pairwise_colorEnds (t : Text) : (BraceRepair.colorEnds t).Pairwise (· ≤ ·) :=
  List.pairwise_filterMap.2 ((pairwise_colorArgumentsFrom 0 t).imp fun hxy _ hi _ hj =>
    colorEnd?_mono hi hj hxy)

theorem closeColors_eq (t : Text) :
    closeColors t = some (((BraceRepair.closeColors? t).map (·.1)).getD t) := by
  have hbounds : ∀ x ∈ BraceRepair.colorArgumentsFrom 0 t, x.2 ≤ t.length := fun x hx => by
    simpa using (bounds_of_mem_colorArgumentsFrom hx).2.2.1
  rw [closeColors, colorArguments, colorEnds_eq hbounds, Option.bind_eq_bind, Option.bind_some,
    ← BraceRepair.colorEnds, insertBraces_eq (fun _ => le_length_of_mem_colorEnds)
      (pairwise_colorEnds t), BraceRepair.closeColors?]
  cases BraceRepair.colorEnds t <;> rfl

end Checked

end LatexRepair
