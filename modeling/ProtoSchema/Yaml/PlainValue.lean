import ProtoSchema.Data
import ProtoSchema.Text.Basic
import ProtoSchema.Yaml.Character

/-!
# Plain values

What the text of a plain scalar denotes: nothing, a truth value, a number, or the text
itself. Integers are decimal or have a base, floating point numbers are written as
usual or are infinite or no number. Digits after a leading zero are text.
-/

namespace ProtoSchema.Yaml

/-- The texts that denote nothing. -/
def isNull (text : String) : Bool :=
  text == "null" || text == "Null" || text == "NULL" || text == "~"

/-- The truth value that a text denotes. -/
def truth? (text : String) : Option Bool :=
  if text ∈ ["true", "True", "TRUE"] then some true
  else if text ∈ ["false", "False", "FALSE"] then some false
  else none

/-- The number that digits denote, at least one of them. -/
def magnitude? (base : Nat) (digits : List Char) : Option Nat :=
  if digits.isEmpty then none
  else digits.foldlM (fun n c => (Text.digitValue? base c).map (n * base + ·)) 0

/-- A sign and what follows it. -/
def splitSign : List Char → Option Char × List Char
  | '+' :: rest => (some '+', rest)
  | '-' :: rest => (some '-', rest)
  | text => (none, text)

/-- Whether a text is all digits with a zero in front of others, after a sign. -/
def isZeroLed (text : List Char) : Bool :=
  match (splitSign text).2 with
  | '0' :: c :: rest => (c :: rest).all Char.isDigit
  | _ => false

/-- The magnitude of an integer after its sign. -/
def unsigned? (text : List Char) : Option Nat :=
  match text with
  | '0' :: 'x' :: digits => magnitude? 16 digits
  | '0' :: 'o' :: digits => magnitude? 8 digits
  | '0' :: 'b' :: digits => magnitude? 2 digits
  | digits => magnitude? 10 digits

/-- The integer that a text denotes. -/
def integer? (text : List Char) : Option Int :=
  if isZeroLed text then none
  else match splitSign text with
    | (some '-', digits) => (unsigned? digits).map fun n => -(n : Int)
    | (_, digits) => (unsigned? digits).map fun n => (n : Int)

/-- A decimal number without its sign: its digits as a whole and the power of ten by
which they are scaled. -/
structure Decimal where
  digits : Nat
  power : Int
deriving Repr, DecidableEq

namespace Decimal

/-- The number that digits denote. -/
def value (digits : List Char) : Nat :=
  digits.foldl (fun n c => n * 10 + (c.toNat - '0'.toNat)) 0

/-- The exponent that a text denotes; nothing denotes zero. -/
def exponent? : List Char → Option Int
  | [] => some 0
  | c :: rest =>
    if c == 'e' || c == 'E' then
      let (sign, digits) := splitSign rest
      if digits.isEmpty || !digits.all Char.isDigit then none
      else if sign == some '-' then some (-(value digits : Int))
      else some (value digits)
    else none

/-- The number that a text without a sign denotes: digits, of which those before or
after the point may be missing, and an exponent. -/
def parse? (text : List Char) : Option Decimal :=
  let (whole, rest) := text.span Char.isDigit
  let (fraction, rest) := match rest with
    | '.' :: rest => rest.span Char.isDigit
    | rest => ([], rest)
  if whole.isEmpty && fraction.isEmpty then none
  else (exponent? rest).map fun exponent =>
    { digits := value (whole ++ fraction), power := exponent - fraction.length }

/-- The least number that is too large for a floating point number. -/
def overflow : Nat :=
  (Nat.pow 2 54 - 1) * Nat.pow 2 970

/-- Whether a floating point number can hold a number. Only numbers with 309 digits in
front of the point have to be compared in full. -/
def isFinite (decimal : Decimal) : Bool :=
  let wholeDigits : Int := (Nat.toDigits 10 decimal.digits).length + decimal.power
  if decimal.digits = 0 || wholeDigits < 309 then true
  else if 309 < wholeDigits then false
  else if 0 ≤ decimal.power then decimal.digits * Nat.pow 10 decimal.power.toNat < overflow
  else decimal.digits < overflow * Nat.pow 10 (-decimal.power).toNat

end Decimal

/-- The texts that denote infinite numbers or no number. -/
def specialNumbers : List String :=
  [".inf", ".Inf", ".INF", "+.inf", "+.Inf", "+.INF", "-.inf", "-.Inf", "-.INF", ".nan", ".NaN",
    ".NAN"]

/-- Whether a text denotes a floating point number. -/
def isFloat (text : String) : Bool :=
  text ∈ specialNumbers
    || (!isZeroLed text.toList
      && (Decimal.parse? (splitSign text.toList).2).any Decimal.isFinite)

/-- Whether an integer fits in 64 bits, with or without a sign. -/
def isWord (value : Int) : Bool :=
  -(Nat.pow 2 63 : Nat) ≤ value && value < Nat.pow 2 64

/-- Whether an integer fits in 128 bits, with or without a sign. -/
def isDoubleWord (value : Int) : Bool :=
  -(Nat.pow 2 127 : Nat) ≤ value && value < Nat.pow 2 128

/-- The value of a text that is no integer. -/
def otherValue (text : String) : Data :=
  if isFloat text then .number (.decimal text) else .text text

/-- What the text of a plain scalar denotes. An integer beyond 64 bits is refused as
long as it fits in 128. Zero with a minus sign counts as no integer. -/
def plainValue (text : String) : Except Fault Data :=
  if text == "" || isNull text then .ok .null
  else match truth? text with
    | some value => .ok (.bool value)
    | none =>
      match integer? text.toList with
      | none => .ok (otherValue text)
      | some value =>
        if value == 0 && text.startsWith "-" then .ok (.number (.decimal text))
        else if isWord value then .ok (.int value)
        else if isDoubleWord value then .error .number
        else .ok (otherValue text)

end ProtoSchema.Yaml
