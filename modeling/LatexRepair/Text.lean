import LatexRepair.Unicode.Blank

/-!
# Text

A text is the list of its characters. Offsets that leave the library count the bytes of
the UTF-8 encoding (`Text.byteLength`); inside, places in a text are counted in
characters.

A text has two kinds of lines. `Text.lines` are the pieces between newlines, so a text
that ends in a newline has an empty last piece and `Text.unlines` puts the text together
again. `Text.physicalLines` are the lines a reader counts: a final newline opens no new
line, and the carriage return of a line terminator is no part of the line.
-/

namespace LatexRepair

/-- A text, as the list of its characters. -/
abbrev Text := List Char

namespace Text

/-! ## Size in bytes -/

/-- The number of bytes in the UTF-8 encoding of `t`. -/
def byteLength : Text → Nat
  | [] => 0
  | c :: t => c.utf8Size + byteLength t

/-- The number of bytes before the character with the place `i`. -/
def byteOffset (t : Text) (i : Nat) : Nat :=
  byteLength (t.take i)

/-- The longest leading part of `t` whose encoding has at most `n` bytes. -/
def takeBytes (n : Nat) : Text → Text
  | [] => []
  | c :: t => if c.utf8Size ≤ n then c :: takeBytes (n - c.utf8Size) t else []

/-- The bytes of the UTF-8 encoding of `t`. -/
def toBytes (t : Text) : ByteArray :=
  (String.ofList t).toUTF8

/-- The text whose UTF-8 encoding is `bytes`, if there is one. -/
def ofBytes? (bytes : ByteArray) : Option Text :=
  (String.fromUTF8? bytes).map String.toList

/-! ## Order -/

/-- The order of texts by their first different character. -/
def le : Text → Text → Bool
  | [], _ => true
  | _ :: _, [] => false
  | a :: s, b :: t => a < b || (a = b && le s t)

/-! ## Trimming -/

/-- `t` without its leading characters in the class `p`. -/
def trimStartBy (p : Char → Bool) (t : Text) : Text :=
  t.dropWhile p

/-- `t` without its trailing characters in the class `p`. -/
def trimEndBy (p : Char → Bool) (t : Text) : Text :=
  (t.reverse.dropWhile p).reverse

/-- `t` without leading white space. -/
def trimStart (t : Text) : Text :=
  trimStartBy isBlank t

/-- `t` without trailing white space. -/
def trimEnd (t : Text) : Text :=
  trimEndBy isBlank t

/-- `t` without white space at either end. -/
def trim (t : Text) : Text :=
  trimEnd (trimStart t)

/-- A reversed text without the copies of the reversed text `piece` in front; `n` bounds
their number. -/
def dropCopies (piece : Text) : Nat → Text → Text
  | 0, t => t
  | n + 1, t => if piece.isPrefixOf t then dropCopies piece n (t.drop piece.length) else t

/-- `t` without the copies of `piece` at its end. -/
def dropTrailing (piece t : Text) : Text :=
  (dropCopies piece.reverse t.length t.reverse).reverse

/-- `t` consists of white space. -/
def isBlankText (t : Text) : Bool :=
  t.all isBlank

/-! ## Searching and replacing -/

/-- `needle` stands at the start of `t`. -/
def startsWith (needle t : Text) : Bool :=
  needle.isPrefixOf t

/-- `needle` stands at the end of `t`. -/
def endsWith (needle t : Text) : Bool :=
  needle.isSuffixOf t

/-- What follows `needle` where `t` starts with it. -/
def strip? (needle t : Text) : Option Text :=
  if startsWith needle t then some (t.drop needle.length) else none

theorem strip?_eq_some_iff {needle t r : Text} : strip? needle t = some r ↔ t = needle ++ r := by
  simp only [strip?, startsWith]
  constructor
  · intro h
    obtain ⟨hp, h⟩ := Option.ite_none_right_eq_some.1 h
    obtain ⟨s, rfl⟩ := List.isPrefixOf_iff_prefix.1 hp
    simpa using h
  · rintro rfl
    simp

/-- The place of the first occurrence of `needle`. -/
def find? (needle : Text) : Text → Option Nat
  | [] => if needle.isEmpty then some 0 else none
  | c :: t => if startsWith needle (c :: t) then some 0 else (find? needle t).map (· + 1)

/-- The place of the last occurrence of `needle`. -/
def findLast? (needle : Text) : Text → Option Nat
  | [] => if needle.isEmpty then some 0 else none
  | c :: t =>
    match findLast? needle t with
    | some i => some (i + 1)
    | none => if startsWith needle (c :: t) then some 0 else none

/-- `needle` occurs in `t`. -/
def contains (needle t : Text) : Bool :=
  (find? needle t).isSome

/-- The number of occurrences of `needle` that a reading from left to right meets, each
starting after the end of the one before. -/
def countOccurrences (needle : Text) : Text → Nat
  | [] => 0
  | c :: t =>
    if startsWith needle (c :: t) then countOccurrences needle (t.drop (needle.length - 1)) + 1
    else countOccurrences needle t
termination_by t => t.length
decreasing_by
  all_goals simp only [List.length_drop, List.length_cons]; omega

/-- `t` with the occurrences of `needle` that a reading from left to right meets replaced
by `replacement`. -/
def replaceAll (needle replacement : Text) : Text → Text
  | [] => []
  | c :: t =>
    if startsWith needle (c :: t) then
      replacement ++ replaceAll needle replacement (t.drop (needle.length - 1))
    else c :: replaceAll needle replacement t
termination_by t => t.length
decreasing_by
  all_goals simp only [List.length_drop, List.length_cons]; omega

/-! ## Lines -/

/-- `t` with every carriage return, alone or before a newline, replaced by one newline. -/
def normalizeNewlines : Text → Text
  | [] => []
  | '\r' :: '\n' :: t => '\n' :: normalizeNewlines t
  | '\r' :: t => '\n' :: normalizeNewlines t
  | c :: t => c :: normalizeNewlines t

theorem normalizeNewlines_cons {c : Char} (hc : c ≠ '\r') (t : Text) :
    normalizeNewlines (c :: t) = c :: normalizeNewlines t := by
  rw [normalizeNewlines]
  · exact fun _ h => absurd h hc
  · exact hc

theorem normalizeNewlines_of_not_mem {t : Text} (ht : '\r' ∉ t) : normalizeNewlines t = t := by
  induction t with
  | nil => rw [normalizeNewlines]
  | cons c t ih =>
    rw [List.mem_cons, not_or] at ht
    rw [normalizeNewlines_cons (Ne.symm ht.1), ih ht.2]

theorem return_not_mem_normalizeNewlines (t : Text) : '\r' ∉ normalizeNewlines t := by
  induction t using normalizeNewlines.induct with
  | case1 => simp [normalizeNewlines]
  | case2 t ih | case3 t _ ih => simp [normalizeNewlines, ih]
  | case4 c t _ hc ih =>
    rw [normalizeNewlines_cons hc, List.mem_cons, not_or]
    exact ⟨Ne.symm hc, ih⟩

/-- The pieces of `t` between newlines. -/
def lines (t : Text) : List Text :=
  t.splitOn '\n'

/-- The text with the given pieces between newlines. -/
def unlines (ls : List Text) : Text :=
  ['\n'].intercalate ls

/-- `line` without the carriage return of its terminator. -/
def stripReturn (line : Text) : Text :=
  if line.getLast? = some '\r' then line.dropLast else line

/-- The lines that a reader counts: a final newline opens no line, and a carriage return
before a newline belongs to the line terminator. -/
def physicalLines (t : Text) : List Text :=
  let pieces := lines t
  let closed := pieces.dropLast.map stripReturn
  match pieces.getLast? with
  | none | some [] => closed
  | some last => closed ++ [last]

/-- The number of physical lines. -/
def lineCount (t : Text) : Nat :=
  (physicalLines t).length

end Text

end LatexRepair
