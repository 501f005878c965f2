import ProtoSchema.Text.Basic

/-!
# Integer literals

A literal is a signed 64-bit integer with an optional base: `0x`, `0o` and `0b`
name the base, a leading `0` means octal, and anything else is decimal. A single
underscore may stand between two digits. The reader goes from left to right, so
of a bad digit and an overflow the first decides the error.
-/

namespace ProtoSchema.IntLiteral

/-- Why a literal denotes no integer. -/
inductive Error where
  | empty
  | invalidDigit
  | tooLarge
  | tooSmall
deriving Repr, DecidableEq

/-- The wording of an error. -/
def Error.message : Error → String
  | .empty => "cannot parse integer from empty string"
  | .invalidDigit => "invalid digit found in string"
  | .tooLarge => "number too large to fit in target type"
  | .tooSmall => "number too small to fit in target type"

/-- The sign of a literal. -/
inductive Sign where
  | plus
  | minus
deriving Repr, DecidableEq

namespace Sign

/-- The largest magnitude of a 64-bit integer of this sign. -/
def limit : Sign → Nat
  | .plus => 9223372036854775807
  | .minus => 9223372036854775808

/-- The integer of this sign with a given magnitude. -/
def apply : Sign → Nat → Int
  | .plus, magnitude => magnitude
  | .minus, magnitude => -magnitude

/-- The error for a magnitude beyond the limit. -/
def overflow : Sign → Error
  | .plus => .tooLarge
  | .minus => .tooSmall

end Sign

/-- The sign in front of a literal, plus where there is none, and what follows. -/
def splitSign : List Char → Sign × List Char
  | '-' :: rest => (.minus, rest)
  | '+' :: rest => (.plus, rest)
  | text => (.plus, text)

/-- The base that the start of an unsigned literal names, and its digits. The
lone digit `0` is decimal. -/
def splitBase : List Char → Nat × List Char
  | '0' :: 'x' :: digits => (16, digits)
  | '0' :: 'X' :: digits => (16, digits)
  | '0' :: 'o' :: digits => (8, digits)
  | '0' :: 'O' :: digits => (8, digits)
  | '0' :: 'b' :: digits => (2, digits)
  | '0' :: 'B' :: digits => (2, digits)
  | '0' :: c :: digits => (8, c :: digits)
  | text => (10, text)

/-- Whether two underscores stand next to each other. -/
def hasDoubleUnderscore : List Char → Bool
  | '_' :: '_' :: _ => true
  | _ :: rest => hasDoubleUnderscore rest
  | [] => false

/-- Whether every underscore stands between two other characters. -/
def separatorsInside (digits : List Char) : Bool :=
  digits.head? != some '_' && digits.getLast? != some '_' && !hasDoubleUnderscore digits

/-- The digits without their separators. Where a separator is out of place all of
them stay, and the digit reader rejects the first. -/
def dropSeparators (digits : List Char) : List Char :=
  if separatorsInside digits then digits.filter (· != '_') else digits

/-- Read digits onto a magnitude, keeping it within the limit of the sign. -/
def readDigits (sign : Sign) (base : Nat) : Nat → List Char → Except Error Nat
  | magnitude, [] => .ok magnitude
  | magnitude, c :: rest =>
    match Text.digitValue? base c with
    | none => .error .invalidDigit
    | some digit =>
      let next := magnitude * base + digit
      if sign.limit < next then .error sign.overflow else readDigits sign base next rest

/-- The magnitude of a group of digits. A group that is missing after a minus sign
counts as a bad digit. -/
def magnitude (sign : Sign) (base : Nat) : List Char → Except Error Nat
  | [] => .error (match sign with
    | .plus => .empty
    | .minus => .invalidDigit)
  | digits => readDigits sign base 0 digits

/-- The integer that a literal denotes. A second sign is rejected by the digit
reader, since no sign is a digit. -/
def parse (literal : String) : Except Error Int :=
  let (sign, unsigned) := splitSign (Text.trim literal.toList)
  let (base, digits) := splitBase unsigned
  (magnitude sign base (dropSeparators digits)).map sign.apply

end ProtoSchema.IntLiteral
