import LatexRepair.Text

/-!
# Number literals

The value of a literal with digits, possibly a point and an exponent, as the nearest
double-precision number. A literal beyond all finite numbers has the value infinity.
-/

namespace LatexRepair.Decimal

/-- The number that decimal digits stand for. -/
def digitsValue (ds : Text) : Nat :=
  ds.foldl (fun n c => n * 10 + (c.toNat - '0'.toNat)) 0

/-- The number that an exponent with an optional sign stands for. -/
def exponentValue : Text → Int
  | '-' :: ds => -(digitsValue ds : Int)
  | '+' :: ds => digitsValue ds
  | ds => digitsValue ds

/-- The number nearest to `mantissa · 10 ^ exponent`. Outside the range of the format the
power of ten is not computed. -/
def nearestFloat (mantissa : Nat) (exponent : Int) : Float :=
  let magnitude : Int := (Nat.toDigits 10 mantissa).length + exponent
  if mantissa = 0 || magnitude < -400 then 0
  else if magnitude > 400 then 1 / 0
  else Float.ofScientific mantissa (exponent < 0) exponent.natAbs

/-- The value of a literal of a number. -/
def literalValue (literal : Text) : Float :=
  let (negative, t) : Bool × Text :=
    match literal with
    | '-' :: r => (true, r)
    | '+' :: r => (false, r)
    | r => (false, r)
  let whole := t.takeWhile Char.isDigit
  let rest := t.drop whole.length
  let (fraction, rest) : Text × Text :=
    match rest with
    | '.' :: r => (r.takeWhile Char.isDigit, r.dropWhile Char.isDigit)
    | r => ([], r)
  let exponent := exponentValue (rest.drop 1)
  let value := nearestFloat (digitsValue (whole ++ fraction)) (exponent - fraction.length)
  if negative then -value else value

end LatexRepair.Decimal
