import LatexRepair.Catalog
import LatexRepair.Proofs.Reading

/-!
# The bytes of a text

The UTF-8 encoding of a text, as the list of its bytes. A character below 128 is its one byte, and
all bytes of any other character are from 128 on (`Text.encodeChar_cases`), so a reading of the
bytes that looks for characters below 128 finds exactly those of the text.
-/

namespace LatexRepair

/-- The byte belongs to a character of more than one byte. -/
def IsHighByte (b : UInt8) : Prop :=
  128 ≤ b.toNat

namespace Text

/-- The bytes of the UTF-8 encoding of a text. -/
def encode (t : Text) : List UInt8 :=
  t.flatMap String.utf8EncodeChar

@[simp]
theorem encode_nil : encode [] = [] :=
  rfl

theorem encode_cons (c : Char) (t : Text) : encode (c :: t) = String.utf8EncodeChar c ++ encode t :=
  rfl

theorem encode_append (s t : Text) : encode (s ++ t) = encode s ++ encode t :=
  List.flatMap_append

theorem length_encode (t : Text) : (encode t).length = byteLength t := by
  induction t with
  | nil => rfl
  | cons c t ih =>
    rw [encode_cons, List.length_append, String.length_utf8EncodeChar, ih, byteLength]

theorem utf8Size_of_lt {c : Char} (h : c.toNat < 128) : c.utf8Size = 1 :=
  Char.utf8Size_eq_one_iff.2 (UInt32.le_iff_toNat_le.2 (Nat.le_of_lt_succ h))

theorem toNat_toUInt8 {c : Char} (h : c.toNat < 128) : c.toUInt8.toNat = c.toNat := by
  change c.toNat % 256 = c.toNat
  exact Nat.mod_eq_of_lt (by omega)

/-- Different characters below 128 have different bytes. -/
theorem toUInt8_eq_iff {c d : Char} (hc : c.toNat < 128) (hd : d.toNat < 128) :
    c.toUInt8 = d.toUInt8 ↔ c = d := by
  rw [← UInt8.toNat_inj, toNat_toUInt8 hc, toNat_toUInt8 hd, Char.toNat_inj]

/-- A character is encoded as its one byte or by high bytes. -/
theorem encodeChar_cases (c : Char) :
    (c.toNat < 128 ∧ String.utf8EncodeChar c = [c.toUInt8]) ∨
      (128 ≤ c.toNat ∧ String.utf8EncodeChar c ≠ [] ∧
        ∀ b ∈ String.utf8EncodeChar c, IsHighByte b) := by
  rcases Nat.lt_or_ge c.toNat 128 with h | h
  · exact .inl ⟨h, String.utf8EncodeChar_eq_singleton (utf8Size_of_lt h)⟩
  · refine .inr ⟨h, fun hnil => ?_, ?_⟩
    · have hlength := congrArg List.length hnil
      rw [String.length_utf8EncodeChar, List.length_nil] at hlength
      have := c.utf8Size_pos
      omega
    · have hval : ¬c.val.toNat ≤ 127 := by
        change ¬c.toNat ≤ 127
        omega
      have hbyte : ∀ n, 128 ≤ n → n < 256 → IsHighByte (UInt8.ofNat n) := by
        intro n hn hlt
        rwa [IsHighByte, UInt8.toNat_ofNat_of_lt' hlt]
      unfold String.utf8EncodeChar
      dsimp only
      rw [if_neg hval]
      split
      · simp only [List.forall_mem_cons, List.not_mem_nil, false_imp_iff, implies_true, and_true]
        exact ⟨hbyte _ (by omega) (by omega), hbyte _ (by omega) (by omega)⟩
      · split
        · simp only [List.forall_mem_cons, List.not_mem_nil, false_imp_iff, implies_true, and_true]
          exact ⟨hbyte _ (by omega) (by omega), hbyte _ (by omega) (by omega),
            hbyte _ (by omega) (by omega)⟩
        · simp only [List.forall_mem_cons, List.not_mem_nil, false_imp_iff, implies_true, and_true]
          exact ⟨hbyte _ (by omega) (by omega), hbyte _ (by omega) (by omega),
            hbyte _ (by omega) (by omega), hbyte _ (by omega) (by omega)⟩

theorem encode_cons_of_lt {c : Char} (h : c.toNat < 128) (t : Text) :
    encode (c :: t) = c.toUInt8 :: encode t := by
  rw [encode_cons, String.utf8EncodeChar_eq_singleton (utf8Size_of_lt h)]
  rfl

/-- Behind the bytes of the first part of a text stand those of the rest. -/
theorem drop_encode_append (s t : Text) : (encode (s ++ t)).drop (byteLength s) = encode t := by
  rw [encode_append, ← length_encode, List.drop_left]

/-- Characters below 128 have one byte each. -/
theorem byteLength_of_lt {t : Text} (h : ∀ c ∈ t, c.toNat < 128) : byteLength t = t.length := by
  induction t with
  | nil => rfl
  | cons c t ih =>
    rw [List.forall_mem_cons] at h
    rw [byteLength, utf8Size_of_lt h.1, ih h.2, List.length_cons, Nat.add_comm]

end Text

namespace IsHighByte

variable {b : UInt8}

/-- A high byte is no character below 128. -/
theorem ne_toUInt8 (h : IsHighByte b) {c : Char} (hc : c.toNat < 128) : b ≠ c.toUInt8 := by
  rintro rfl
  rw [IsHighByte, Text.toNat_toUInt8 hc] at h
  omega

end IsHighByte

/-! ## Letters -/

/-- The byte belongs to the name of a command. -/
def isCommandByte (b : UInt8) : Bool :=
  'A'.toUInt8 ≤ b && b ≤ 'Z'.toUInt8 || 'a'.toUInt8 ≤ b && b ≤ 'z'.toUInt8 || b = '@'.toUInt8

theorem isCommandByte_iff {b : UInt8} : isCommandByte b = true ↔
    (65 ≤ b.toNat ∧ b.toNat ≤ 90 ∨ 97 ≤ b.toNat ∧ b.toNat ≤ 122) ∨ b.toNat = 64 := by
  simp only [isCommandByte, Bool.or_eq_true, Bool.and_eq_true, decide_eq_true_eq,
    UInt8.le_iff_toNat_le, ← UInt8.toNat_inj]
  rfl

theorem isCommandChar_iff {c : Char} : isCommandChar c = true ↔
    (65 ≤ c.toNat ∧ c.toNat ≤ 90 ∨ 97 ≤ c.toNat ∧ c.toNat ≤ 122) ∨ c.toNat = 64 := by
  delta isCommandChar Char.isAlpha Char.isUpper Char.isLower
  simp only [Bool.or_eq_true, Bool.and_eq_true, decide_eq_true_eq, ge_iff_le,
    UInt32.le_iff_toNat_le, ← Char.toNat_inj]
  rfl

theorem toNat_lt_of_isCommandChar {c : Char} (h : isCommandChar c = true) : c.toNat < 128 := by
  have := isCommandChar_iff.1 h
  omega

theorem isCommandByte_toUInt8 {c : Char} (h : c.toNat < 128) :
    isCommandByte c.toUInt8 = isCommandChar c := by
  rw [Bool.eq_iff_iff, isCommandByte_iff, isCommandChar_iff, Text.toNat_toUInt8 h]

theorem IsHighByte.isCommandByte {b : UInt8} (h : IsHighByte b) : isCommandByte b = false := by
  rw [Bool.eq_false_iff, ne_eq, isCommandByte_iff]
  unfold IsHighByte at h
  omega

/-- The names of commands are read byte by byte. -/
theorem takeWhile_isCommandByte_encode (t : Text) :
    (Text.encode t).takeWhile isCommandByte = Text.encode (t.takeWhile isCommandChar) := by
  induction t with
  | nil => rfl
  | cons c t ih =>
    rcases Text.encodeChar_cases c with ⟨hc, hone⟩ | ⟨hc, hne, hhigh⟩
    · rw [Text.encode_cons, hone, List.singleton_append, List.takeWhile_cons, List.takeWhile_cons,
        isCommandByte_toUInt8 hc]
      split
      · rw [ih, Text.encode_cons, hone, List.singleton_append]
      · rfl
    · obtain ⟨b, bs, hbs⟩ := List.exists_cons_of_ne_nil hne
      have hb : IsHighByte b := hhigh b (by rw [hbs]; exact List.mem_cons_self ..)
      have hchar : isCommandChar c = false := by
        rw [Bool.eq_false_iff]
        exact fun h => absurd (toNat_lt_of_isCommandChar h) (Nat.not_lt.2 hc)
      rw [Text.encode_cons, hbs, List.cons_append,
        List.takeWhile_cons_of_neg (by simp [hb.isCommandByte]),
        List.takeWhile_cons_of_neg (by simp [hchar])]
      rfl

end LatexRepair
