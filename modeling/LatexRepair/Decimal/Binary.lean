/-!
# Binary fractions

A finite floating-point number is a sign, a natural number and a power of two.
`Binary.ofFloat?` and `Binary.ofFloat32?` read the fields of the two interchange formats,
and `Binary.toRat` is the exact value, on which all rounding to decimals works.
-/

namespace LatexRepair

/-- The finite number `± significand · 2 ^ exponent`. -/
structure Binary where
  negative : Bool
  significand : Nat
  exponent : Int
  /-- The next smaller number is only half as far away as the next larger one. -/
  closerBelow : Bool
deriving DecidableEq, Inhabited

namespace Binary

/-- The number with the given sign, biased exponent and fraction, in a format with
`fractionBits` bits of fraction and the largest biased exponent `top`, which stands for
infinities and for what is no number. -/
def ofFields? (fractionBits top : Nat) (negative : Bool) (biased fraction : Nat) :
    Option Binary :=
  let bias : Int := (top : Int) / 2 + fractionBits
  if biased = top then none
  else if biased = 0 then some ⟨negative, fraction, 1 - bias, false⟩
  else some ⟨negative, fraction + (1 <<< fractionBits), biased - bias, fraction = 0 && biased > 1⟩

/-- The value of a double-precision number, unless it is infinite or no number. -/
def ofFloat? (x : Float) : Option Binary :=
  let bits := x.toBits
  ofFields? 52 2047 (bits >>> 63 = 1) ((bits >>> 52) &&& 0x7ff).toNat
    (bits &&& 0xfffffffffffff).toNat

/-- The value of a single-precision number, unless it is infinite or no number. -/
def ofFloat32? (x : Float32) : Option Binary :=
  let bits := x.toBits
  ofFields? 23 255 (bits >>> 31 = 1) ((bits >>> 23) &&& 0xff).toNat (bits &&& 0x7fffff).toNat

/-- The value without its sign. -/
def magnitude (b : Binary) : Rat :=
  b.significand * (2 : Rat) ^ b.exponent

/-- The exact value. -/
def toRat (b : Binary) : Rat :=
  if b.negative then -b.magnitude else b.magnitude

end Binary

end LatexRepair
