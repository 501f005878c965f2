/-!
# Spans of code points

A character property is given as an increasing list of spans. A span holds the
code points from `first` to `last` in steps of `step`; a step of two covers the
alphabets in which capital and small letters alternate. `contains` decides
membership and stops at the first span that lies above the code point. A case
mapping is given as an increasing list of shifts, and `Shift.apply?` goes through
it in the same way.
-/

namespace ProtoSchema.Text

/-- The code points `first`, `first + step`, …, `last`. -/
structure Span where
  first : Nat
  last : Nat
  step : Nat
deriving Repr, DecidableEq

namespace Span

/-- Whether a code point is one of the span's. -/
def covers (span : Span) (code : Nat) : Bool :=
  span.first ≤ code && code ≤ span.last && (code - span.first) % span.step == 0

/-- Whether a code point lies in one of the spans, which come in increasing
order. -/
def contains : List Span → Nat → Bool
  | [], _ => false
  | span :: rest, code =>
    if code < span.first then false
    else span.covers code || contains rest code

end Span

/-- A span of code points that all move by the same distance. -/
structure Table.Shift where
  span : Span
  distance : Int
deriving Repr, DecidableEq

/-- The code point that a list of shifts, in increasing order, assigns. -/
def Table.Shift.apply? : List Shift → Nat → Option Nat
  | [], _ => none
  | shift :: rest, code =>
    if code < shift.span.first then none
    else if shift.span.covers code then some (code + shift.distance).toNat
    else Shift.apply? rest code

end ProtoSchema.Text
