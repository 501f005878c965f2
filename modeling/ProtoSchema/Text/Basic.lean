import ProtoSchema.Text.Table.Alphanumeric
import ProtoSchema.Text.Table.Case
import ProtoSchema.Text.Table.CaseIgnorable

/-!
# Characters and texts

Each class of characters joins its ASCII members, given by a test that a reader can
check, with a table for the rest of the character set. The tables begin beyond ASCII,
so on ASCII text every class is decided by its test alone. A text is cut in two ways:
white space is taken from its ends, and it falls into pieces at a separator.
-/

namespace ProtoSchema.Text

/-! ## Classes -/

/-- A small letter of some script. -/
def isLowercase (c : Char) : Bool :=
  c.isLower || Span.contains Table.lowercase c.toNat

/-- A capital letter of some script. -/
def isUppercase (c : Char) : Bool :=
  c.isUpper || Span.contains Table.uppercase c.toNat

/-- A letter, or a mark that counts as one. -/
def isAlphabetic (c : Char) : Bool :=
  c.isAlpha || Span.contains Table.alphabetic c.toNat

/-- A decimal digit, a letter-like numeral or another number character. -/
def isNumeric (c : Char) : Bool :=
  c.isDigit || Span.contains Table.numeric c.toNat

/-- A character that has case: a small, capital or title-case letter. -/
def isCased (c : Char) : Bool :=
  c.isAlpha || Span.contains Table.cased c.toNat

/-- A character that is passed over when a cased neighbour is looked for. -/
def isCaseIgnorable (c : Char) : Bool :=
  c == '\x27' || c == '.' || c == ':' || c == '^' || c == '\x60'
    || Span.contains Table.caseIgnorable c.toNat

/-- White space: tabs, line and paragraph separators, and every kind of blank. -/
def isWhiteSpace (c : Char) : Bool :=
  (0x9 ≤ c.toNat && c.toNat ≤ 0xD) || c == ' '
    || Span.contains
      [⟨0x85, 0x85, 1⟩, ⟨0xA0, 0xA0, 1⟩, ⟨0x1680, 0x1680, 1⟩, ⟨0x2000, 0x200A, 1⟩,
        ⟨0x2028, 0x2029, 1⟩, ⟨0x202F, 0x202F, 1⟩, ⟨0x205F, 0x205F, 1⟩, ⟨0x3000, 0x3000, 1⟩]
      c.toNat

/-! ## Digits

The letters from `a` to `f` follow the decimal digits, in either letter case. -/

/-- The value of a digit in a base of at most sixteen. -/
def digitValue? (base : Nat) (c : Char) : Option Nat :=
  let value? :=
    if c.isDigit then some (c.toNat - '0'.toNat)
    else if 'a' ≤ c ∧ c ≤ 'f' then some (c.toNat - 'a'.toNat + 10)
    else if 'A' ≤ c ∧ c ≤ 'F' then some (c.toNat - 'A'.toNat + 10)
    else none
  value?.filter (· < base)

/-! ## Cutting

There is always one piece more than there are separators, so pieces may be empty. -/

/-- The text without white space at either end. -/
def trim (text : List Char) : List Char :=
  ((text.dropWhile isWhiteSpace).reverse.dropWhile isWhiteSpace).reverse

/-- The pieces of a text between its separators. -/
def pieces (separator : Char) : List Char → List (List Char)
  | [] => [[]]
  | c :: rest =>
    if c = separator then [] :: pieces separator rest
    else match pieces separator rest with
      | [] => [[c]]
      | piece :: others => (c :: piece) :: others

end ProtoSchema.Text
