import ProtoSchema.Data
import ProtoSchema.Decimal.Shortest

/-!
# Numerals

A JSON numeral as it is written, and the number it denotes. An integer that fits
in 64 bits is exact. Any other numeral is rounded: its leading digits as far as
they fit in 64 bits give a floating point number, which is multiplied or divided by
a power of ten. A numeral too large for that has no value.
-/

namespace ProtoSchema.Json

/-- The parts of a numeral: digit values of the whole and fractional part and the
exponent with its sign. -/
structure Numeral where
  isNegative : Bool
  whole : List Nat
  fraction : Option (List Nat)
  exponent : Option (Bool × List Nat)
deriving Repr, DecidableEq

namespace Numeral

open Decimal

/-- The largest unsigned 64-bit integer. -/
def limit : Nat :=
  Nat.pow 2 64 - 1

/-- The leading digits as far as their value fits in 64 bits, and the digits that
do not. -/
def significant : Nat → List Nat → Nat × List Nat
  | value, [] => (value, [])
  | value, digit :: rest =>
    if limit < value * 10 + digit then (value, digit :: rest)
    else significant (value * 10 + digit) rest

/-- The significant digits and the power of ten by which they are scaled. Whole
digits that do not fit raise the power; digits of the fraction that fit lower it,
and the others are dropped. -/
def scaled (numeral : Numeral) : Nat × Int :=
  let (value, excess) := significant 0 numeral.whole
  let fraction := numeral.fraction.getD []
  let (value, dropped) := significant value fraction
  let power : Int := excess.length - (fraction.length - dropped.length : Nat)
  match numeral.exponent with
  | none => (value, power)
  | some (isNegative, digits) =>
    let size : Nat := digits.foldl (fun n digit => n * 10 + digit) 0
    (value, if isNegative then power - size else power + size)

/-- A floating point number times a power of ten, taken in steps of at most `308`
digits. -/
def shift : Nat → Binary64 → Int → Option Binary64
  | 0, _, _ => some .zero
  | steps + 1, x, power =>
    if x.mantissa = 0 then some .zero
    else if 308 < power then none
    else if 0 ≤ power then do x.mul? (← Binary64.ofNat? (Nat.pow 10 power.toNat))
    else if -308 ≤ power then do x.div? (← Binary64.ofNat? (Nat.pow 10 (-power).toNat))
    else do shift steps (← x.div? (← Binary64.ofNat? (Nat.pow 10 308))) (power + 308)

/-- The floating point number that a numeral is rounded to, without its sign. -/
def magnitude? (numeral : Numeral) : Option Binary64 := do
  let (value, power) := numeral.scaled
  shift 4 (← Binary64.ofNat? value) power

/-- The integer that a numeral denotes exactly. A zero with a minus sign is none. -/
def integer? (numeral : Numeral) : Option Int :=
  if numeral.fraction.isSome || numeral.exponent.isSome then none
  else
    let (value, excess) := significant 0 numeral.whole
    if !excess.isEmpty then none
    else if !numeral.isNegative then some value
    else if value = 0 || Nat.pow 2 63 < value then none
    else some (-value)

/-- The number that a numeral denotes. -/
def toNumber? (numeral : Numeral) : Option Number :=
  match numeral.integer? with
  | some value => some (.integer value)
  | none => numeral.magnitude?.map fun x =>
    .decimal ((if numeral.isNegative then "-" else "") ++ Decimal.text x)

end Numeral

end ProtoSchema.Json
