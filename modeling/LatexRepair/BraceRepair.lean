import LatexRepair.LineRepair

/-!
# Repair of braces

Two repairs of a document whose braces do not balance. `balanceBraces?` adds closing braces
before the end of the document, or removes them where they trail. `closeColors?` closes
colour shorthands that were opened in a table cell and never closed: the brace goes behind
the last text before the row break.
-/

namespace LatexRepair

namespace BraceRepair

/-! ## Balance -/

/-- `n` closing braces. -/
def closers (n : Nat) : Text :=
  List.replicate n '}'

/-- `t` with `n` closing braces on a line of their own before the last end of the document,
or at the end of a text without one, but before its final newlines. -/
def addClosers (n : Nat) (t : Text) : Text :=
  match Text.findLast? terminator t with
  | some i =>
    let before := t.take i
    let separator := if before.isEmpty || before.getLast? = some '\n' then [] else ['\n']
    before ++ separator ++ closers n ++ '\n' :: t.drop i
  | none =>
    let body := Text.trimEndBy (· = '\n') t
    body ++ closers n ++ t.drop body.length

/-- A reversed text without its first `n` closing braces, if only white space stands between
them and no backslash before the last of them. -/
def dropClosers? : Nat → Text → Option Text
  | 0, t => if t.head? = some '\\' then none else some t
  | _ + 1, [] => none
  | n + 1, c :: t =>
    if c = '}' then dropClosers? n t
    else if isBlank c then (dropClosers? (n + 1) t).map (c :: ·)
    else none

/-- `t` without the last `n` closing braces before the last end of the document, if nothing
but white space stands between and behind them. -/
def removeClosers? (n : Nat) (t : Text) : Option Text :=
  let stop := (Text.findLast? terminator t).getD t.length
  (dropClosers? n (t.take stop).reverse).map fun u => u.reverse ++ t.drop stop

/-- `t` with its braces balanced, given the number of unclosed braces less the number of
stray closing ones. -/
def balanceBraces? (t : Text) (delta : Int) : Option Text :=
  if delta > 0 then some (addClosers delta.toNat t)
  else if delta < 0 then removeClosers? delta.natAbs t
  else none

/-! ## Groups -/

/-- The place of the brace that closes `depth` open groups, in a text whose first character
has the place `i`. A backslash escapes the next character, and comments do not count. -/
def closingBraceFrom (depth i : Nat) (inComment : Bool) : Text → Option Nat
  | [] => none
  | c :: t =>
    if inComment then closingBraceFrom depth (i + 1) (c ≠ '\n') t
    else if c = '\\' then
      match t with
      | [] => none
      | _ :: t' => closingBraceFrom depth (i + 2) false t'
    else if c = '%' then closingBraceFrom depth (i + 1) true t
    else if c = '{' then closingBraceFrom (depth + 1) (i + 1) false t
    else if c = '}' then
      if depth ≤ 1 then some i else closingBraceFrom (depth - 1) (i + 1) false t
    else closingBraceFrom depth (i + 1) false t

section Characters

variable {depth i : Nat} {c : Char} {t : Text}

theorem closingBraceFrom_escape :
    closingBraceFrom depth i false ('\\' :: c :: t) = closingBraceFrom depth (i + 2) false t := by
  rw [closingBraceFrom.eq_def]
  rfl

theorem closingBraceFrom_percent :
    closingBraceFrom depth i false ('%' :: t) = closingBraceFrom depth (i + 1) true t := by
  rw [closingBraceFrom.eq_def]
  rfl

theorem closingBraceFrom_comment :
    closingBraceFrom depth i true (c :: t) = closingBraceFrom depth (i + 1) (c ≠ '\n') t := by
  rw [closingBraceFrom.eq_def]
  rfl

theorem closingBraceFrom_open :
    closingBraceFrom depth i false ('{' :: t) = closingBraceFrom (depth + 1) (i + 1) false t := by
  rw [closingBraceFrom.eq_def]
  rfl

theorem closingBraceFrom_close :
    closingBraceFrom depth i false ('}' :: t) =
      if depth ≤ 1 then some i else closingBraceFrom (depth - 1) (i + 1) false t := by
  rw [closingBraceFrom.eq_def]
  rfl

theorem closingBraceFrom_plain (hc : c ∉ ['\\', '%', '{', '}']) :
    closingBraceFrom depth i false (c :: t) = closingBraceFrom depth (i + 1) false t := by
  simp only [List.mem_cons, List.not_mem_nil, or_false, not_or] at hc
  rw [closingBraceFrom.eq_def]
  simp [hc]

/-- A comment goes up to the end of its line. -/
theorem closingBraceFrom_comment_line (t : Text) :
    closingBraceFrom depth i true t =
      closingBraceFrom depth (i + (t.takeWhile (· ≠ '\n')).length) false
        (t.dropWhile (· ≠ '\n')) := by
  induction t generalizing i with
  | nil => rfl
  | cons c t ih =>
    rw [closingBraceFrom_comment]
    by_cases hc : c = '\n'
    · subst hc
      exact (closingBraceFrom_plain (by decide)).symm
    · rw [decide_eq_true hc, ih, List.takeWhile_cons_of_pos (by simp [hc]),
        List.dropWhile_cons_of_pos (by simp [hc]), List.length_cons, Nat.add_assoc, Nat.add_comm 1]

end Characters

/-- The place of the brace that closes the group whose content starts at the place `i`. -/
def closingBrace? (t : Text) (i : Nat) : Option Nat :=
  closingBraceFrom 1 i false (t.drop i)

/-! ## Colours -/

/-- The openings of colour shorthands. -/
def colorOpenings : List Text :=
  Catalog.colorShorthands.map fun name => '\\' :: (name.toList ++ ['{'])

/-- The places where the arguments of colour shorthands start, each with the place of its
shorthand, in a text whose first character has the place `i`. -/
def colorArgumentsFrom (i : Nat) : Text → List (Nat × Nat)
  | [] => []
  | c :: t =>
    let more := colorArgumentsFrom (i + 1) t
    match colorOpenings.find? (Text.startsWith · (c :: t)) with
    | some opening => (i, i + opening.length) :: more
    | none => more

/-- The line up to the place `i`. -/
def lineBefore (t : Text) (i : Nat) : Text :=
  ((t.take i).reverse.takeWhile (· ≠ '\n')).reverse

/-- The place `i` is in a comment of its line. -/
def isCommented (t : Text) (i : Nat) : Bool :=
  (commentStart? (lineBefore t i)).isSome

/-- A row break at the end of its line starts the text. -/
def rowEndsHere (t : Text) : Bool :=
  match t with
  | '\\' :: '\\' :: r =>
    match r.dropWhile isSpaceOrTab with
    | '\n' :: _ | '\r' :: '\n' :: _ => true
    | _ => false
  | _ => false

/-- The number of characters before the first row break that ends its line. -/
def rowEnd? : Text → Option Nat
  | [] => none
  | c :: t => if rowEndsHere (c :: t) then some 0 else (rowEnd? t).map (· + 1)

/-- How many bytes behind a colour shorthand its row break is looked for. -/
def rowReach : Nat := 2000

/-- Where the brace belongs that closes the colour whose argument starts at the given
place, if the colour is not closed and its row is. -/
def colorEnd? (t : Text) (opening : Nat × Nat) : Option Nat := do
  let (start, argument) := opening
  if isCommented t start || (closingBrace? t argument).isSome then none
  let reach := Text.takeBytes rowReach (t.drop argument)
  let row ← rowEnd? reach
  some (argument + (Text.trimEndBy isSpaceOrTab (reach.take row)).length)

/-- Where closing braces for colours belong. -/
def colorEnds (t : Text) : List Nat :=
  (colorArgumentsFrom 0 t).filterMap (colorEnd? t)

/-- `t` with its colours closed, and the number of braces inserted. -/
def closeColors? (t : Text) : Option (Text × Nat) :=
  match colorEnds t with
  | [] => none
  | ends => some (Edit.applyAll (ends.map fun i => .insert i ['}']) t, ends.length)

end BraceRepair

end LatexRepair
