import LatexRepair.Text
import LatexRepair.Unicode.Latest

/-!
# Quoted text

A text between quotes, as it is shown in messages: quotes, backslashes and characters that
cannot be seen on their own are escaped.
-/

namespace LatexRepair.Quoted

/-- The escape of a character by its code point. -/
def codeEscape (c : Char) : Text :=
  "\\u\x7b".toList ++ Nat.toDigits 16 c.toNat ++ ['}']

/-- The categories of characters that cannot be seen. -/
def hiddenCategories : List Category :=
  Category.others ++ Category.separators

/-- A character that cannot be seen on its own: one that is not shown, or joins the one
before it, or none at all. -/
def isHidden (c : Char) : Bool :=
  c ≠ ' ' &&
    (!Latest.hasCategory Category.all c || Latest.hasCategory hiddenCategories c ||
      Latest.isGraphemeExtend c || isDefaultIgnorable c)

/-- A character between the quotes. -/
def escape (c : Char) : Text :=
  match c with
  | '\x00' => ['\\', '0']
  | '\t' => ['\\', 't']
  | '\n' => ['\\', 'n']
  | '\r' => ['\\', 'r']
  | '"' => ['\\', '"']
  | '\\' => ['\\', '\\']
  | c => if isHidden c then codeEscape c else [c]

/-- A text between quotes. -/
def quote (t : Text) : Text :=
  '"' :: (t.flatMap escape ++ ['"'])

end LatexRepair.Quoted
