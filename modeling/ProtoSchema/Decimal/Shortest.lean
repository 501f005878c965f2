import ProtoSchema.Decimal.Binary64

/-!
# Shortest decimals

The decimal with the fewest digits that reads back as a given number, and of those
with equally many digits the nearest. Positional notation is used for numbers from
`10 ^ -5` up to `10 ^ 16`, and scientific notation outside that range.
-/

namespace ProtoSchema.Decimal

/-- The number `digits * 10 ^ exponent`. -/
structure Scaled where
  digits : Nat
  exponent : Int
deriving Repr, DecidableEq

/-- The fractions between which a number of the format stands for every real: the
number itself and half the distance to each neighbour, over a common denominator.
Below the least mantissa of a power of two the neighbour is twice as near. -/
structure Interval where
  low : Nat
  mid : Nat
  high : Nat
  den : Nat
  closed : Bool
deriving Repr, DecidableEq

namespace Interval

/-- The reals that round to a number. -/
def ofBinary64 (x : Binary64) : Interval :=
  let near := x.mantissa = Nat.pow 2 52 && Binary64.minExponent < x.exponent
  let (unit, den) := Binary64.scale 1 4 x.exponent
  { low := (4 * x.mantissa - if near then 1 else 2) * unit
    mid := 4 * x.mantissa * unit
    high := (4 * x.mantissa + 2) * unit
    den
    closed := x.mantissa % 2 == 0 }

/-- Whether `digits * num / unit`, a fraction over another denominator, lies in the
interval. -/
def covers (interval : Interval) (num unit : Nat) : Bool :=
  let value := num * interval.den
  let low := interval.low * unit
  let high := interval.high * unit
  (low < value && value < high) || (interval.closed && (low == value || value == high))

end Interval

/-- A power of ten as a fraction. -/
def powerOfTen (exponent : Int) : Nat × Nat :=
  if 0 ≤ exponent then (Nat.pow 10 exponent.toNat, 1) else (1, Nat.pow 10 (-exponent).toNat)

/-- The exponent of the first digit of a positive fraction, found by lowering a
bound step by step. -/
def leadingExponent (num den : Nat) : Nat → Int → Int
  | 0, exponent => exponent
  | steps + 1, exponent =>
    let (p, q) := powerOfTen exponent
    if p * den ≤ num * q then exponent else leadingExponent num den steps (exponent - 1)

/-- The decimal on the grid of a power of ten that lies in the interval, the nearer
one where both neighbours of the number do. -/
def onGrid? (interval : Interval) (exponent : Int) : Option Scaled :=
  let (p, q) := powerOfTen exponent
  let below := interval.mid * q / (interval.den * p)
  let above := below + 1
  let coversBelow := below != 0 && interval.covers (below * p) q
  let coversAbove := interval.covers (above * p) q
  let aboveIsNearer := 2 * interval.mid * q > (below + above) * p * interval.den
  if coversAbove && (aboveIsNearer || !coversBelow) then some ⟨above, exponent⟩
  else if coversBelow then some ⟨below, exponent⟩
  else none

/-- Try grids of one digit more each time. Seventeen digits always suffice. -/
def search (interval : Interval) : Nat → Int → Scaled
  | 0, exponent => ⟨interval.mid / interval.den, exponent⟩
  | steps + 1, exponent =>
    match onGrid? interval exponent with
    | some decimal => decimal
    | none => search interval steps (exponent - 1)

/-- Move zeros at the end of the digits into the exponent. -/
def dropZeros : Nat → Scaled → Scaled
  | 0, decimal => decimal
  | steps + 1, decimal =>
    if decimal.digits % 10 = 0 then
      dropZeros steps ⟨decimal.digits / 10, decimal.exponent + 1⟩
    else decimal

/-- The shortest decimal of a positive number. -/
def shortest (x : Binary64) : Scaled :=
  let interval := Interval.ofBinary64 x
  let first := leadingExponent interval.mid interval.den 700 310
  dropZeros 17 (search interval 18 first)

/-- A digit text with a point after so many digits. -/
def withPoint (digits : List Char) (places : Nat) : List Char :=
  digits.take places ++ ['.'] ++ digits.drop places

/-- The text of a number without its sign. -/
def text (x : Binary64) : String :=
  if x.mantissa = 0 then "0.0"
  else
    let decimal := shortest x
    let digits := Nat.toDigits 10 decimal.digits
    let point := digits.length + decimal.exponent
    String.ofList <|
      if 0 ≤ decimal.exponent && point ≤ 16 then
        digits ++ List.replicate decimal.exponent.toNat '0' ++ ['.', '0']
      else if 0 < point && point ≤ 16 then withPoint digits point.toNat
      else if -5 < point && point ≤ 0 then
        ['0', '.'] ++ List.replicate (-point).toNat '0' ++ digits
      else
        (if digits.length = 1 then digits else withPoint digits 1)
          ++ ['e'] ++ (toString (point - 1)).toList

end ProtoSchema.Decimal
