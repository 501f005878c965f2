/-!
# Binary floating point numbers

The finite non-negative numbers of the 64-bit binary format, as a mantissa and a
power of two. Every operation rounds the exact result to the nearest number, a tie
to the even mantissa, and fails where the result is too large for the format.
-/

namespace ProtoSchema.Decimal

/-- The number `mantissa * 2 ^ exponent`, with a mantissa below `2 ^ 53`. -/
structure Binary64 where
  mantissa : Nat
  exponent : Int
deriving Repr, DecidableEq

namespace Binary64

/-- The least exponent of the format. -/
def minExponent : Int := -1074

/-- The largest exponent of the format. -/
def maxExponent : Int := 971

/-- Zero. -/
def zero : Binary64 := ⟨0, 0⟩

/-- A quotient rounded to the nearest integer, a tie to the even one. -/
def divideToEven (num den : Nat) : Nat :=
  let floor := num / den
  let twice := 2 * (num % den)
  if den < twice || (twice == den && floor % 2 == 1) then floor + 1 else floor

/-- Numerator and denominator of a fraction times a power of two. -/
def scale (num den : Nat) (power : Int) : Nat × Nat :=
  if 0 ≤ power then (num * Nat.pow 2 power.toNat, den)
  else (num, den * Nat.pow 2 (-power).toNat)

/-- The number nearest to a fraction. -/
def ofFraction? (num den : Nat) : Option Binary64 :=
  if num = 0 then some zero
  else
    let guess : Int := (num.log2 : Int) - den.log2 - 52
    let (n, d) := scale num den (-guess)
    let exponent := max minExponent (if n / d < Nat.pow 2 52 then guess - 1 else guess)
    let (n, d) := scale num den (-exponent)
    let mantissa := divideToEven n d
    let (mantissa, exponent) :=
      if mantissa = Nat.pow 2 53 then (Nat.pow 2 52, exponent + 1) else (mantissa, exponent)
    if maxExponent < exponent then none else some ⟨mantissa, exponent⟩

/-- The number as an exact fraction. -/
def toFraction (x : Binary64) : Nat × Nat :=
  scale x.mantissa 1 x.exponent

/-- The number nearest to a natural number. -/
def ofNat? (n : Nat) : Option Binary64 :=
  ofFraction? n 1

/-- The rounded product. -/
def mul? (x y : Binary64) : Option Binary64 :=
  ofFraction? (x.toFraction.1 * y.toFraction.1) (x.toFraction.2 * y.toFraction.2)

/-- The rounded quotient; the divisor must not be zero. -/
def div? (x y : Binary64) : Option Binary64 :=
  ofFraction? (x.toFraction.1 * y.toFraction.2) (x.toFraction.2 * y.toFraction.1)

end Binary64

end ProtoSchema.Decimal
