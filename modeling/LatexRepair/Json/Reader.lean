import LatexRepair.Json.Basic

/-!
# Reading JSON

`Json.parse?` reads one value, with white space around it, and nothing else. It accepts
exactly the JSON grammar: no comments, no comma before a closing bracket, no leading zeros,
no raw control characters in strings. Reading a value takes at least one character, so the
number of characters bounds the depth of the reading.
-/

namespace LatexRepair.Json

/-! ## White space and literals -/

/-- The white space of the format. -/
def isSpace (c : Char) : Bool :=
  c = ' ' || c = '\t' || c = '\n' || c = '\r'

/-- `t` without white space in front. -/
def skipSpace (t : Text) : Text :=
  t.dropWhile isSpace

/-- The rest of `t` behind `word`. -/
def expect? (word : String) (t : Text) : Option Text :=
  Text.strip? word.toList t

/-! ## Numbers -/

/-- One or more digits in front of `t`. -/
def digits? (t : Text) : Option (Text × Text) :=
  match t.takeWhile Char.isDigit with
  | [] => none
  | ds => some (ds, t.drop ds.length)

/-- The sign in front of `t`, which may be missing. -/
def sign (allowed : List Char) (t : Text) : Text × Text :=
  match t with
  | c :: r => if allowed.contains c then ([c], r) else ([], t)
  | [] => ([], [])

/-- The number literal in front of `t`. -/
def numberLiteral? (t : Text) : Option (Text × Text) := do
  let (minus, t₁) := sign ['-'] t
  let (whole, t₂) ← digits? t₁
  if whole.length > 1 && whole.head? = some '0' then none
  let (fraction, t₃) ←
    match t₂ with
    | '.' :: r => (digits? r).map fun (ds, r') => ('.' :: ds, r')
    | _ => some ([], t₂)
  let (exponent, t₄) ←
    match t₃ with
    | e :: r =>
      if e = 'e' || e = 'E' then
        let (s, r') := sign ['+', '-'] r
        (digits? r').map fun (ds, r'') => (e :: (s ++ ds), r'')
      else some ([], t₃)
    | [] => some ([], [])
  some (minus ++ whole ++ fraction ++ exponent, t₄)

/-! ## Strings -/

/-- A piece of a string: a character, or a code unit given by an escape. -/
inductive StringPiece where
  | char (c : Char)
  | unit (n : Nat)

/-- The value of a hexadecimal digit. -/
def hexValue? (c : Char) : Option Nat :=
  if c.isDigit then some (c.toNat - '0'.toNat)
  else if 'a' ≤ c && c ≤ 'f' then some (c.toNat - 'a'.toNat + 10)
  else if 'A' ≤ c && c ≤ 'F' then some (c.toNat - 'A'.toNat + 10)
  else none

/-- The code unit with the given four hexadecimal digits. -/
def codeUnit? (a b c d : Char) : Option Nat := do
  let a ← hexValue? a
  let b ← hexValue? b
  let c ← hexValue? c
  let d ← hexValue? d
  some (((a * 16 + b) * 16 + c) * 16 + d)

/-- The character that a backslash and one further character stand for. -/
def simpleEscape? : Char → Option Char
  | '"' => some '"'
  | '\\' => some '\\'
  | '/' => some '/'
  | 'b' => some '\x08'
  | 'f' => some '\x0c'
  | 'n' => some '\n'
  | 'r' => some '\r'
  | 't' => some '\t'
  | _ => none

/-- The pieces up to the closing quote, and the rest behind it. -/
def stringPieces? : Text → Option (List StringPiece × Text)
  | [] => none
  | '"' :: t => some ([], t)
  | '\\' :: 'u' :: a :: b :: c :: d :: t => do
    let u ← codeUnit? a b c d
    let (ps, r) ← stringPieces? t
    some (.unit u :: ps, r)
  | '\\' :: e :: t => do
    let c ← simpleEscape? e
    let (ps, r) ← stringPieces? t
    some (.char c :: ps, r)
  | c :: t =>
    if c.toNat < 0x20 || c = '\\' then none
    else do
      let (ps, r) ← stringPieces? t
      some (.char c :: ps, r)

/-- The text of a string; two code units of a surrogate pair make one character. -/
def joinPieces? : List StringPiece → Option Text
  | [] => some []
  | .char c :: ps => (joinPieces? ps).map (c :: ·)
  | .unit u :: .unit v :: ps =>
    if 0xd800 ≤ u && u < 0xdc00 then
      if 0xdc00 ≤ v && v < 0xe000 then
        (joinPieces? ps).map (Char.ofNat (0x10000 + (u - 0xd800) * 0x400 + (v - 0xdc00)) :: ·)
      else none
    else if 0xdc00 ≤ u && u < 0xe000 then none
    else (joinPieces? (.unit v :: ps)).map (Char.ofNat u :: ·)
  | .unit u :: ps =>
    if 0xd800 ≤ u && u < 0xe000 then none else (joinPieces? ps).map (Char.ofNat u :: ·)

/-! ## Values -/

mutual

/-- The value in front of `t`, nested at most `depth` deep. -/
def value? (depth : Nat) (t : Text) : Option (Json × Text) :=
  match depth with
  | 0 => none
  | depth + 1 =>
    match skipSpace t with
    | '{' :: r =>
      match skipSpace r with
      | '}' :: r' => some (object [], r')
      | r' => (members? depth r').map fun (ms, r'') => (object ms, r'')
    | '[' :: r =>
      match skipSpace r with
      | ']' :: r' => some (array [], r')
      | r' => (items? depth r').map fun (vs, r'') => (array vs, r'')
    | '"' :: r =>
      (stringPieces? r).map fun (ps, r') =>
        (match joinPieces? ps with
          | some s => string s
          | none => brokenString, r')
    | 't' :: r => (expect? "rue" r).map (bool true, ·)
    | 'f' :: r => (expect? "alse" r).map (bool false, ·)
    | 'n' :: r => (expect? "ull" r).map (null, ·)
    | r => (numberLiteral? r).map fun (n, r') => (number n, r')

/-- The items in front of `t` and the bracket that closes them. -/
def items? (depth : Nat) (t : Text) : Option (List Json × Text) :=
  match depth with
  | 0 => none
  | depth + 1 => do
    let (v, r) ← value? depth t
    match skipSpace r with
    | ']' :: r' => some ([v], r')
    | ',' :: r' =>
      let (vs, r'') ← items? depth r'
      some (v :: vs, r'')
    | _ => none

/-- The members in front of `t` and the brace that closes them. -/
def members? (depth : Nat) (t : Text) : Option (List (Text × Json) × Text) :=
  match depth with
  | 0 => none
  | depth + 1 =>
    match skipSpace t with
    | '"' :: r => do
      let (ps, r₁) ← stringPieces? r
      let name ← joinPieces? ps
      let r₂ ← expect? ":" (skipSpace r₁)
      let (v, r₃) ← value? depth r₂
      match skipSpace r₃ with
      | '}' :: r₄ => some ([(name, v)], r₄)
      | ',' :: r₄ =>
        let (ms, r₅) ← members? depth r₄
        some ((name, v) :: ms, r₅)
      | _ => none
    | _ => none

end

/-- The value that is written in `t`. -/
def parse? (t : Text) : Option Json := do
  let (v, r) ← value? (t.length + 1) t
  if (skipSpace r).isEmpty then some v else none

end LatexRepair.Json
