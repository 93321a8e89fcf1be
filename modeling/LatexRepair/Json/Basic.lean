import LatexRepair.Decimal.Shortest
import LatexRepair.Text

/-!
# JSON values

Values of the JSON format and how they are written, compactly or with one member a line.
A number is kept as the literal that stands for it. The members of an object keep their
order, and a name may occur more than once; what that means is for the reader of a value
to say.
-/

namespace LatexRepair

/-- A JSON value. -/
inductive Json where
  | null
  | bool (b : Bool)
  /-- A number, as it is written. -/
  | number (literal : Text)
  | string (s : Text)
  /-- A string with an escape for one half of a surrogate pair; it stands for no text. -/
  | brokenString
  | array (items : List Json)
  | object (members : List (Text × Json))
deriving Inhabited

namespace Json

/-! ## Making values -/

/-- A string value. -/
def ofString (s : String) : Json :=
  string s.toList

/-- A whole number. -/
def ofInt (n : Int) : Json :=
  number (toString n).toList

/-- A natural number. -/
def ofNat (n : Nat) : Json :=
  number (toString n).toList

/-- A double-precision number; what is not finite becomes `null`. -/
def ofFloat (x : Float) : Json :=
  match Binary.ofFloat? x with
  | some b => number (Decimal.shortest .jsonDouble b).toList
  | none => null

/-- A single-precision number; what is not finite becomes `null`. -/
def ofFloat32 (x : Float32) : Json :=
  match Binary.ofFloat32? x with
  | some b => number (Decimal.shortest .jsonSingle b).toList
  | none => null

/-- An optional value; nothing becomes `null`. -/
def ofOption {α : Type} (f : α → Json) : Option α → Json
  | some a => f a
  | none => null

/-- A list of values. -/
def ofList {α : Type} (f : α → Json) (as : List α) : Json :=
  array (as.map f)

/-- An object with the given members. -/
def mkObject (members : List (String × Json)) : Json :=
  object (members.map fun (name, value) => (name.toList, value))

/-! ## Strings -/

/-- The digits of `n` in base sixteen, at least `width` of them. -/
def hexDigits (width n : Nat) : Text :=
  let ds := Nat.toDigits 16 n
  List.replicate (width - ds.length) '0' ++ ds

/-- A character inside a string: quotes, backslashes and control characters are escaped. -/
def escapeChar (c : Char) : Text :=
  match c with
  | '"' => ['\\', '"']
  | '\\' => ['\\', '\\']
  | '\x08' => ['\\', 'b']
  | '\x0c' => ['\\', 'f']
  | '\n' => ['\\', 'n']
  | '\r' => ['\\', 'r']
  | '\t' => ['\\', 't']
  | c => if c.toNat < 0x20 then '\\' :: 'u' :: hexDigits 4 c.toNat else [c]

/-- A string with its quotes. -/
def quote (s : Text) : Text :=
  '"' :: (s.flatMap escapeChar ++ ['"'])

/-! ## Writing -/

mutual

/-- A value without white space. -/
def compact : Json → Text
  | null => "null".toList
  | bool true => "true".toList
  | bool false => "false".toList
  | number literal => literal
  | string s => quote s
  | brokenString => quote ['\ufffd']
  | array items => '[' :: (compactItems items ++ [']'])
  | object members => '{' :: (compactMembers members ++ ['}'])

/-- Items with commas between them. -/
def compactItems : List Json → Text
  | [] => []
  | [v] => compact v
  | v :: vs => compact v ++ ',' :: compactItems vs

/-- Members with commas between them. -/
def compactMembers : List (Text × Json) → Text
  | [] => []
  | [(name, v)] => quote name ++ ':' :: compact v
  | (name, v) :: ms => quote name ++ ':' :: (compact v ++ ',' :: compactMembers ms)

end

/-- The start of a line that is indented `depth` times. -/
def newLine (depth : Nat) : Text :=
  '\n' :: List.replicate (2 * depth) ' '

mutual

/-- A value with each item and member on a line of its own, indented by two spaces. -/
def prettyAt (depth : Nat) : Json → Text
  | array [] => "[]".toList
  | array (v :: vs) => '[' :: (prettyItems (depth + 1) (v :: vs) ++ newLine depth ++ [']'])
  | object [] => "{}".toList
  | object (m :: ms) => '{' :: (prettyMembers (depth + 1) (m :: ms) ++ newLine depth ++ ['}'])
  | v => compact v

/-- Items, each on its line, with commas between them. -/
def prettyItems (depth : Nat) : List Json → Text
  | [] => []
  | [v] => newLine depth ++ prettyAt depth v
  | v :: vs => newLine depth ++ prettyAt depth v ++ ',' :: prettyItems depth vs

/-- Members, each on its line, with commas between them. -/
def prettyMembers (depth : Nat) : List (Text × Json) → Text
  | [] => []
  | [(name, v)] => newLine depth ++ quote name ++ ':' :: ' ' :: prettyAt depth v
  | (name, v) :: ms =>
    newLine depth ++ quote name ++ ':' :: ' ' :: (prettyAt depth v ++ ',' :: prettyMembers depth ms)

end

/-- A value with each item and member on a line of its own. -/
def pretty (v : Json) : Text :=
  prettyAt 0 v

end Json

end LatexRepair
