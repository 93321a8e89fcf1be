import LatexRepair.Decimal.Binary

/-!
# Shortest decimals

The shortest decimal that reads back to a floating-point number: of all decimals that
round to the number, those with the fewest digits, and of these the one nearest to it.

The decimals that round to a number fill an interval around it, whose ends belong to it
when the significand is even (`Shortest.Interval`). For one digit, two digits and so on,
the two neighbours of the number on the grid of decimals with that many digits are tried;
where a grid has a point in the interval, one of the two neighbours lies in it. Seventeen
digits are enough for double precision.

Layouts of the digits are values of `Layout`.
-/

namespace LatexRepair.Decimal

/-! ## Digits -/

/-- The decimal `digits · 10 ^ exponent`. -/
structure Digits where
  digits : Nat
  exponent : Int
deriving DecidableEq, Inhabited

namespace Shortest

/-- The decimals that round to a number. -/
structure Interval where
  low : Rat
  high : Rat
  /-- The ends belong to the interval. -/
  closed : Bool

/-- The decimals that round to `b`, without its sign. -/
def Interval.of (b : Binary) : Interval :=
  let half : Rat := (2 : Rat) ^ (b.exponent - 1)
  { low := b.magnitude - (if b.closerBelow then half / 2 else half)
    high := b.magnitude + half
    closed := b.significand % 2 = 0 }

/-- `x` rounds to the number of the interval. -/
def Interval.holds (i : Interval) (x : Rat) : Bool :=
  if i.closed then i.low ≤ x && x ≤ i.high else i.low < x && x < i.high

/-- The number of digits of `n`. -/
def digitCount (n : Nat) : Nat :=
  (Nat.toDigits 10 n).length

/-- The exponent `k` with `10 ^ (k - 1) ≤ x < 10 ^ k`, for positive `x`: the difference of
the numbers of digits of numerator and denominator, or one more. -/
def magnitudeOf (x : Rat) : Int :=
  let k : Int := (digitCount x.num.natAbs : Int) - digitCount x.den
  if (10 : Rat) ^ k ≤ x then k + 1 else k

/-- The decimal with `n` digits that is nearest to `x` among the neighbours of `x` that lie
in the interval; of two equally near the even one. -/
def neighbour? (i : Interval) (x : Rat) (n : Nat) : Option Digits :=
  let exponent := magnitudeOf x - n
  let unit : Rat := (10 : Rat) ^ exponent
  let below := (x / unit).floor.toNat
  let distanceBelow := x - below * unit
  let distanceAbove := (below + 1 : Nat) * unit - x
  let hitsBelow := i.holds (below * unit)
  let hitsAbove := i.holds ((below + 1 : Nat) * unit)
  let takeBelow :=
    distanceBelow < distanceAbove || (distanceBelow = distanceAbove && below % 2 = 0)
  if hitsBelow && (takeBelow || !hitsAbove) then some ⟨below, exponent⟩
  else if hitsAbove then some ⟨below + 1, exponent⟩
  else none

/-- The digits and the exponent without zeros at the end. -/
def stripZeros : Nat → Digits → Digits
  | 0, d => d
  | n + 1, d =>
    if d.digits ≠ 0 && d.digits % 10 = 0 then stripZeros n ⟨d.digits / 10, d.exponent + 1⟩
    else d

/-- The shortest decimal that reads back to `b`, without its sign. -/
def digits (b : Binary) : Digits :=
  if b.significand = 0 then ⟨0, 0⟩
  else
    let i := Interval.of b
    match (List.range 17).findSome? fun n => neighbour? i b.magnitude (n + 1) with
    | some d => stripZeros 17 d
    | none => ⟨b.significand, b.exponent⟩

end Shortest

/-! ## Layouts -/

/-- How the digits of a decimal are laid out. -/
structure Layout where
  /-- Whole numbers end in `.0`. -/
  wholeFraction : Bool
  /-- The largest number of digits before the point that is written without exponent. -/
  maxWhole : Option Nat
  /-- The largest number of zeros between the point and the first digit that is written
  without exponent. -/
  maxZeros : Option Nat
deriving DecidableEq, Inhabited

namespace Layout

/-- No exponent, and no fraction for whole numbers. -/
def plain : Layout :=
  ⟨false, none, none⟩

/-- The layout of double-precision numbers in JSON. -/
def jsonDouble : Layout :=
  ⟨true, some 16, some 4⟩

/-- The layout of single-precision numbers in JSON. -/
def jsonSingle : Layout :=
  ⟨true, some 13, some 5⟩

/-- `n` is within an optional limit. -/
def within (n : Nat) (limit : Option Nat) : Bool :=
  match limit with
  | some m => n ≤ m
  | none => true

/-- The decimal `d` in this layout. -/
def write (l : Layout) (d : Digits) : String :=
  let ds := Nat.toDigits 10 d.digits
  /- The number of digits before the point, which may be negative. -/
  let whole : Int := ds.length + d.exponent
  let zeros (n : Nat) : List Char := List.replicate n '0'
  if d.digits = 0 then if l.wholeFraction then "0.0" else "0"
  else if 0 ≤ d.exponent && within whole.toNat l.maxWhole then
    String.ofList (ds ++ zeros d.exponent.toNat) ++ if l.wholeFraction then ".0" else ""
  else if 0 < whole && within whole.toNat l.maxWhole then
    String.ofList (ds.take whole.toNat ++ '.' :: ds.drop whole.toNat)
  else if whole ≤ 0 && within (-whole).toNat l.maxZeros then
    String.ofList ('0' :: '.' :: (zeros (-whole).toNat ++ ds))
  else
    let fraction := if ds.length = 1 then [] else '.' :: ds.drop 1
    String.ofList (ds.take 1 ++ fraction) ++ s!"e{whole - 1}"

end Layout

/-- The shortest decimal that reads back to `b`. -/
def shortest (l : Layout) (b : Binary) : String :=
  (if b.negative then "-" else "") ++ l.write (Shortest.digits b)

end LatexRepair.Decimal
