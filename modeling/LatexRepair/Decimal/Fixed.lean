/-!
# Decimals with a fixed number of places

A rational number with a fixed number of decimal places: the nearest multiple of the last
place, and of two that are equally near the even one. A negative number keeps its sign
also where it is shown as zero.
-/

namespace LatexRepair.Decimal

/-- The natural number nearest to `num / den`, and of two the even one. -/
def roundHalfEven (num den : Nat) : Nat :=
  let q := num / den
  let r := num % den
  if 2 * r < den then q
  else if 2 * r > den then q + 1
  else if q % 2 = 0 then q else q + 1

/-- `digits` with a point before the last `places` of them. -/
def insertPoint (places : Nat) (digits : List Char) : List Char :=
  if places = 0 then digits
  else
    let padded := List.replicate (places + 1 - digits.length) '0' ++ digits
    padded.take (padded.length - places) ++ '.' :: padded.drop (padded.length - places)

/-- `x` with `places` decimal places. -/
def fixed (places : Nat) (x : Rat) : String :=
  let scaled := roundHalfEven (x.num.natAbs * Nat.pow 10 places) x.den
  let sign := if x < 0 then "-" else ""
  sign ++ String.ofList (insertPoint places (Nat.toDigits 10 scaled))

example : fixed 1 (5 / 4) = "1.2" := by decide +kernel

example : fixed 1 (-1 / 25) = "-0.0" := by decide +kernel

end LatexRepair.Decimal
