import LatexRepair.Decimal.Literal
import LatexRepair.Json.Reader
import LatexRepair.Toml.Basic

/-!
# Reading TOML

`Toml.parse?` reads a document of the TOML format, version 1.0, as the members of its root
table; it answers nothing when the document is not well formed or defines a key twice.
Each reader takes a text and answers with what it has read and the rest of the text.
-/

namespace LatexRepair.Toml

/-! ## Blanks, newlines and comments -/

/-- `t` without spaces and tabs in front. -/
def skipBlanks (t : Text) : Text :=
  t.dropWhile isSpaceOrTab

/-- The rest behind a newline, which a carriage return may stand before. -/
def newline? : Text → Option Text
  | '\n' :: t => some t
  | '\r' :: '\n' :: t => some t
  | _ => none

/-- The characters of a comment: all but control characters, of which a tab is allowed. -/
def isCommentChar (c : Char) : Bool :=
  c = '\t' || (0x20 ≤ c.toNat && c.toNat ≠ 0x7f)

/-- `t` without a comment in front. -/
def skipComment (t : Text) : Text :=
  if t.head? = some '#' then t.dropWhile isCommentChar else t

/-- The rest behind blanks, a comment and the end of the line. -/
def lineEnd? (t : Text) : Option Text :=
  match skipComment (skipBlanks t) with
  | [] => some []
  | r => newline? r

/-- `t` without blanks, comments and newlines in front; `fuel` bounds their number. -/
def skipLines : Nat → Text → Text
  | 0, t => t
  | fuel + 1, t =>
    match newline? (skipComment (skipBlanks t)) with
    | some r => skipLines fuel r
    | none => skipBlanks t

/-! ## Strings -/

/-- The characters that stand for themselves in a string in double quotes. -/
def isBasicChar (c : Char) : Bool :=
  isCommentChar c && c ≠ '"' && c ≠ '\\'

/-- The characters that stand for themselves in a string in single quotes. -/
def isLiteralChar (c : Char) : Bool :=
  isCommentChar c && c ≠ '\''

/-- The character with the given hexadecimal digits. -/
def scalar? (digits : Text) : Option Char := do
  let n ← digits.foldlM (fun n c => (Json.hexValue? c).map (n * 16 + ·)) 0
  if n < 0xd800 || (0xe000 ≤ n && n < 0x110000) then some (Char.ofNat n) else none

/-- The character that stands behind a backslash. -/
def escape? : Text → Option (Char × Text)
  | 'b' :: t => some ('\x08', t)
  | 't' :: t => some ('\t', t)
  | 'n' :: t => some ('\n', t)
  | 'f' :: t => some ('\x0c', t)
  | 'r' :: t => some ('\r', t)
  | '"' :: t => some ('"', t)
  | '\\' :: t => some ('\\', t)
  | 'u' :: t => if t.length < 4 then none else (scalar? (t.take 4)).map (·, t.drop 4)
  | 'U' :: t => if t.length < 8 then none else (scalar? (t.take 8)).map (·, t.drop 8)
  | _ => none

/-- The string behind a double quote. -/
def basicString? : Nat → Text → Option (Text × Text)
  | 0, _ => none
  | _ + 1, [] => none
  | fuel + 1, c :: t =>
    if c = '"' then some ([], t)
    else if c = '\\' then do
      let (e, r) ← escape? t
      let (s, r) ← basicString? fuel r
      some (e :: s, r)
    else if isBasicChar c then do
      let (s, r) ← basicString? fuel t
      some (c :: s, r)
    else none

/-- The string behind a single quote. -/
def literalString? (t : Text) : Option (Text × Text) :=
  let s := t.takeWhile isLiteralChar
  match t.drop s.length with
  | '\'' :: r => some (s, r)
  | _ => none

/-- The number of quotes in front of `t`. -/
def quoteCount (quote : Char) (t : Text) : Nat :=
  (t.takeWhile (· = quote)).length

/-- The quotes that belong to a string over several lines that `t` ends, and the rest: the
last three quotes of a run of three to five close the string. -/
def closeLines? (quote : Char) (t : Text) : Option (Text × Text) :=
  let n := quoteCount quote t
  if n < 3 then none
  else
    let inner := min (n - 3) 2
    some (List.replicate inner quote, t.drop (inner + 3))

/-- A newline that the string goes on behind, with all white space: the rest. -/
def lineContinuation? (t : Text) : Option Text := do
  let r ← newline? (skipBlanks t)
  let isGap := fun c => isSpaceOrTab c || c = '\n' || c = '\r'
  let gap := r.takeWhile isGap
  let clean := Text.replaceAll ['\r', '\n'] ['\n'] gap
  if '\r' ∈ clean then none else some (r.drop gap.length)

/-- The string over several lines behind three quotes; `escapes` says that a backslash is
special in it. -/
def linesString? (quote : Char) (escapes : Bool) : Nat → Text → Option (Text × Text)
  | 0, _ => none
  | _ + 1, [] => none
  | fuel + 1, c :: t =>
    if c = quote then
      match closeLines? quote (c :: t) with
      | some r => some r
      | none => do
        let (s, r) ← linesString? quote escapes fuel t
        some (c :: s, r)
    else if escapes && c = '\\' then
      match lineContinuation? t with
      | some r => linesString? quote escapes fuel r
      | none => do
        let (e, r) ← escape? t
        let (s, r) ← linesString? quote escapes fuel r
        some (e :: s, r)
    else
      match newline? (c :: t) with
      | some r => do
        let (s, r) ← linesString? quote escapes fuel r
        some ('\n' :: s, r)
      | none =>
        if isCommentChar c then do
          let (s, r) ← linesString? quote escapes fuel t
          some (c :: s, r)
        else none

/-- The string over several lines behind three quotes, the first newline left out. -/
def blockString? (quote : Char) (escapes : Bool) (t : Text) : Option (Text × Text) :=
  linesString? quote escapes (t.length + 1) ((newline? t).getD t)

/-- The string in front of `t`. -/
def string? : Text → Option (Text × Text)
  | '"' :: '"' :: '"' :: t => blockString? '"' true t
  | '\'' :: '\'' :: '\'' :: t => blockString? '\'' false t
  | '"' :: t => basicString? (t.length + 1) t
  | '\'' :: t => literalString? t
  | _ => none

/-! ## Keys -/

/-- The characters of a key without quotes. -/
def isBareChar (c : Char) : Bool :=
  c.isAlphanum || c = '_' || c = '-'

/-- The key in front of `t`. -/
def simpleKey? (t : Text) : Option (Text × Text) :=
  match t with
  | '"' :: r => basicString? (r.length + 1) r
  | '\'' :: r => literalString? r
  | _ =>
    match t.takeWhile isBareChar with
    | [] => none
    | key => some (key, t.drop key.length)

/-- Keys with dots between them, and blanks around them: the last one, those before it, and
the rest. -/
def dottedKey? : Nat → Text → Option ((List Text × Text) × Text)
  | 0, _ => none
  | fuel + 1, t => do
    let (key, r) ← simpleKey? (skipBlanks t)
    match skipBlanks r with
    | '.' :: r => do
      let ((path, last), r) ← dottedKey? fuel r
      some ((key :: path, last), r)
    | r => some (([], key), r)

/-! ## Numbers, dates and times -/

/-- Digits in front of `t` with single underscores between them. -/
def digits? (isDigit : Char → Bool) (t : Text) : Option (Text × Text) :=
  let run := t.takeWhile fun c => isDigit c || c = '_'
  let pieces := run.splitOn '_'
  if pieces.any (·.isEmpty) then none else some (pieces.flatten, t.drop run.length)

/-- Digits without a zero in front. -/
def wholeDigits? (t : Text) : Option (Text × Text) := do
  let (ds, r) ← digits? Char.isDigit t
  if ds.length > 1 && ds.head? = some '0' then none else some (ds, r)

/-- An optional sign. -/
def sign : Text → Text × Text
  | '+' :: t => ([], t)
  | '-' :: t => (['-'], t)
  | t => ([], t)

/-- The exponent in front of `t`, without underscores. -/
def exponent? : Text → Option (Text × Text)
  | e :: t =>
    if e = 'e' || e = 'E' then do
      let (s, r) := sign t
      let (ds, r) ← digits? Char.isDigit r
      some ('e' :: (s ++ ds), r)
    else none
  | [] => none

/-- The number in front of `t` that has a fraction or an exponent. -/
def decimalFloat? (t : Text) : Option (Value × Text) := do
  let (s, r) := sign t
  let (whole, r) ← wholeDigits? r
  let (rest, r) ←
    match r with
    | '.' :: r => do
      let (fraction, r) ← digits? Char.isDigit r
      match exponent? r with
      | some (e, r) => some ('.' :: (fraction ++ e), r)
      | none => some ('.' :: fraction, r)
    | r => exponent? r
  let x := Decimal.literalValue (s ++ whole ++ rest)
  if x.isInf && s.isEmpty then none else some (.float x, r)

/-- Infinity and what is no number. -/
def specialFloat? (t : Text) : Option (Value × Text) :=
  let (s, r) := sign t
  let value (x : Float) : Value := .float (if s.isEmpty then x else -x)
  match Text.strip? "inf".toList r, Text.strip? "nan".toList r with
  | some r, _ => some (value (1 / 0), r)
  | none, some r => some (value (0 / 0), r)
  | none, none => none

/-- The value of digits in a base. -/
def baseValue (base : Nat) (ds : Text) : Nat :=
  ds.foldl (fun n c => n * base + (Json.hexValue? c).getD 0) 0

/-- Whether `c` is a digit of the base. -/
def isBaseDigit (base : Nat) (c : Char) : Bool :=
  (Json.hexValue? c).any (· < base)

/-- A whole number of 64 bits. -/
def ofInteger? (n : Int) (r : Text) : Option (Value × Text) :=
  if Int64.minValue.toInt ≤ n && n ≤ Int64.maxValue.toInt then some (.integer n, r) else none

/-- The whole number in front of `t`. -/
def integer? (t : Text) : Option (Value × Text) :=
  let based (base : Nat) (r : Text) : Option (Value × Text) := do
    let (ds, r) ← digits? (isBaseDigit base) r
    ofInteger? (baseValue base ds) r
  match t with
  | '0' :: 'x' :: r => based 16 r
  | '0' :: 'o' :: r => based 8 r
  | '0' :: 'b' :: r => based 2 r
  | _ => do
    let (s, r) := sign t
    let (ds, r) ← wholeDigits? r
    let n : Int := Decimal.digitsValue ds
    ofInteger? (if s.isEmpty then n else -n) r

/-- The number of exactly `count` digits in front of `t`, within bounds. -/
def fixedNumber? (count low high : Nat) (t : Text) : Option (Nat × Text) :=
  let ds := t.take count
  let n := Decimal.digitsValue ds
  if ds.length = count && ds.all Char.isDigit && low ≤ n && n ≤ high then some (n, t.drop count)
  else none

/-- The number of days of a month. -/
def daysInMonth (year month : Nat) : Nat :=
  if month = 2 then
    if year % 4 = 0 && (year % 100 ≠ 0 || year % 400 = 0) then 29 else 28
  else if month = 4 || month = 6 || month = 9 || month = 11 then 30
  else 31

/-- The rest behind a date. -/
def date? (t : Text) : Option Text := do
  let (year, r) ← fixedNumber? 4 0 9999 t
  let r ← Text.strip? ['-'] r
  let (month, r) ← fixedNumber? 2 1 12 r
  let r ← Text.strip? ['-'] r
  let (_, r) ← fixedNumber? 2 1 (daysInMonth year month) r
  some r

/-- The rest behind a time. -/
def time? (t : Text) : Option Text := do
  let (_, r) ← fixedNumber? 2 0 23 t
  let r ← Text.strip? [':'] r
  let (_, r) ← fixedNumber? 2 0 59 r
  let r ← Text.strip? [':'] r
  let (_, r) ← fixedNumber? 2 0 60 r
  match r with
  | '.' :: s =>
    some (if (s.takeWhile Char.isDigit).isEmpty then r else s.dropWhile Char.isDigit)
  | _ => some r

/-- The rest behind an optional offset of a time. -/
def skipOffset (t : Text) : Text :=
  match t with
  | 'Z' :: r | 'z' :: r => r
  | c :: r =>
    if c = '+' || c = '-' then
      let rest? := do
        let (_, s) ← fixedNumber? 2 0 23 r
        let s ← Text.strip? [':'] s
        let (_, s) ← fixedNumber? 2 0 59 s
        some s
      rest?.getD t
    else t
  | [] => []

/-- A date, a time, or both. -/
def dateTime? (t : Text) : Option (Value × Text) :=
  match date? t with
  | none => (time? t).map (.dateTime, ·)
  | some r =>
    match r with
    | c :: s =>
      if c = 'T' || c = 't' || c = ' ' then
        match time? s with
        | some s => some (.dateTime, skipOffset s)
        | none => some (.dateTime, r)
      else some (.dateTime, r)
    | [] => some (.dateTime, [])

/-! ## Values -/

mutual

/-- The value in front of `t`. -/
def value? (fuel : Nat) (t : Text) : Option (Value × Text) :=
  match fuel with
  | 0 => none
  | fuel + 1 =>
    match t with
    | '"' :: _ | '\'' :: _ => (string? t).map fun (s, r) => (.string s, r)
    | '[' :: r => (items? fuel (skipLines r.length r)).map fun (vs, r) => (.array vs, r)
    | '{' :: r =>
      match skipBlanks r with
      | '}' :: r => some (.record [], r)
      | r => (members? fuel [] r).map fun (ms, r) => (.record ms, r)
    | _ =>
      match Text.strip? "true".toList t, Text.strip? "false".toList t with
      | some r, _ => some (.boolean true, r)
      | none, some r => some (.boolean false, r)
      | none, none => dateTime? t <|> decimalFloat? t <|> specialFloat? t <|> integer? t

/-- The items in front of `t`, and the bracket that closes them. -/
def items? (fuel : Nat) (t : Text) : Option (List Value × Text) :=
  match fuel with
  | 0 => none
  | fuel + 1 =>
    match t with
    | ']' :: r => some ([], r)
    | _ => do
      let (v, r) ← value? fuel t
      match skipLines r.length r with
      | ']' :: r => some ([v], r)
      | ',' :: r =>
        let (vs, r) ← items? fuel (skipLines r.length r)
        some (v :: vs, r)
      | _ => none

/-- The members in front of `t` behind the members `ms`, and the brace that closes them. -/
def members? (fuel : Nat) (ms : Members) (t : Text) : Option (Members × Text) :=
  match fuel with
  | 0 => none
  | fuel + 1 => do
    let ((path, key), r) ← dottedKey? (t.length + 1) t
    let r ← Text.strip? ['='] r
    let (v, r) ← value? fuel (skipBlanks r)
    let ms ← define path key v ms
    match skipBlanks r with
    | '}' :: r => some (ms, r)
    | ',' :: r => members? fuel ms r
    | _ => none

end

/-! ## Documents -/

/-- What has been read of a document: its members, and the keys of the last header. -/
structure State where
  members : Members := []
  current : List Text := []
deriving Inhabited

/-- A header in brackets, up to the end of its line. -/
def header? (isItem : Bool) (s : State) (t : Text) : Option (State × Text) := do
  let ((path, key), r) ← dottedKey? (t.length + 1) t
  let r ← Text.strip? (if isItem then [']', ']'] else [']']) r
  let r ← lineEnd? r
  let ms ← if isItem then openItem path key s.members else openTable path key s.members
  some (⟨ms, path ++ [key]⟩, r)

/-- A key with its value, up to the end of the line. -/
def definition? (s : State) (t : Text) : Option (State × Text) := do
  let ((path, key), r) ← dottedKey? (t.length + 1) t
  let r ← Text.strip? ['='] r
  let (v, r) ← value? (t.length + 1) (skipBlanks r)
  let r ← lineEnd? r
  let ms ← inCurrent s.current (define path key v) s.members
  some ({ s with members := ms }, r)

/-- The lines of a document; `fuel` bounds their number. -/
def document? : Nat → State → Text → Option Members
  | 0, _, _ => none
  | fuel + 1, s, t =>
    match skipBlanks t with
    | [] => some s.members
    | '[' :: '[' :: r => do
      let (s, r) ← header? true s r
      document? fuel s r
    | '[' :: r => do
      let (s, r) ← header? false s r
      document? fuel s r
    | r =>
      match lineEnd? r with
      | some r => document? fuel s r
      | none => do
        let (s, r) ← definition? s r
        document? fuel s r

/-- The members of the root table of a document; a byte order mark in front is no part of
it. -/
def parse? (t : Text) : Option Members :=
  document? (t.length + 2) {} (if t.head? = some '\ufeff' then t.drop 1 else t)

end LatexRepair.Toml
