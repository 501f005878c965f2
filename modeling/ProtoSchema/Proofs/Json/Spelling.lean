import Mathlib.Data.List.Forall2
import ProtoSchema.Json.Token
import ProtoSchema.Proofs.Text.Digit

/-!
# Spelling

How the tokens of JSON are spelled, and how a text lays them out with white space in
between. A token may have several spellings: a character of a string may be escaped, and the
exponent of a numeral may be marked in two ways and carry a plus sign. Whichever spelling a
text uses, it is read as the token.
-/

namespace ProtoSchema.Json

open LexState

/-! ## Numerals -/

/-- One or more decimal digits. -/
def AreDigits (digits : List Nat) : Prop :=
  digits ≠ [] ∧ ∀ digit ∈ digits, digit < 10

/-- Decimal digits as characters. -/
def digitChars (digits : List Nat) : List Char :=
  digits.map Nat.digitChar

namespace Numeral

/-- What the spelling of a numeral may choose: the letter in front of the exponent, and
whether an exponent without a minus sign has a plus sign. -/
structure Style where
  isCapital : Bool
  hasPlus : Bool

/-- The letter in front of the exponent. -/
def Style.mark (style : Style) : Char :=
  if style.isCapital then 'E' else 'e'

/-- The sign of a numeral. -/
def signText (isNegative : Bool) : List Char :=
  if isNegative then ['-'] else []

/-- The point and the digits after it. -/
def fractionText : Option (List Nat) → List Char
  | none => []
  | some digits => '.' :: digitChars digits

/-- The sign of an exponent. -/
def Style.exponentSign (style : Style) (isNegative : Bool) : List Char :=
  if isNegative then ['-'] else if style.hasPlus then ['+'] else []

/-- The exponent with its letter. -/
def exponentText (style : Style) : Option (Bool × List Nat) → List Char
  | none => []
  | some (isNegative, digits) =>
    style.mark :: (style.exponentSign isNegative ++ digitChars digits)

/-- The spelling of a numeral. -/
def text (style : Style) (numeral : Numeral) : List Char :=
  signText numeral.isNegative ++ digitChars numeral.whole ++ fractionText numeral.fraction ++
    exponentText style numeral.exponent

/-- The digits of a whole number: a zero stands alone. -/
def IsWhole (digits : List Nat) : Prop :=
  AreDigits digits ∧ (digits.head? = some 0 → digits = [0])

/-- Each part that the numeral has is made of digits. -/
structure IsProper (numeral : Numeral) : Prop where
  whole : IsWhole numeral.whole
  fraction : ∀ digits ∈ numeral.fraction, AreDigits digits
  exponent : ∀ written ∈ numeral.exponent, AreDigits written.2

/-- A character that would go on with a numeral. -/
def IsContinuedBy (c : Char) : Prop :=
  c.isDigit = true ∨ c = '.' ∨ c = 'e' ∨ c = 'E'

end Numeral

/-! ## Strings -/

/-- The letters of escapes and the characters that they stand for. -/
def escapes : List (Char × Char) :=
  [('"', '"'), ('\\', '\\'), ('/', '/'), ('b', '\x08'), ('f', '\x0c'), ('n', '\n'), ('r', '\r'),
    ('t', '\t')]

/-- How a piece of a string may be spelled: a character by itself or by an escape, and a code
unit by its four digits. -/
inductive Piece.Spells : Piece → List Char → Prop
  | plain {c : Char} (noControl : 0x20 ≤ c.toNat) (noQuote : c ≠ '"') (noBackslash : c ≠ '\\') :
      Spells (.char c) [c]
  | escape {letter c : Char} (listed : (letter, c) ∈ escapes) : Spells (.char c) ['\\', letter]
  | code {first second third fourth : Char} {i j k l : Nat} (isFirst : Text.IsDigit 16 first i)
      (isSecond : Text.IsDigit 16 second j) (isThird : Text.IsDigit 16 third k)
      (isFourth : Text.IsDigit 16 fourth l) :
      Spells (.unit (((i * 16 + j) * 16 + k) * 16 + l)) ['\\', 'u', first, second, third, fourth]

/-! ## Tokens -/

/-- How a token may be spelled. -/
inductive Token.Spells : Token → List Char → Prop
  | openList : Spells .openList ['[']
  | closeList : Spells .closeList [']']
  | openRecord : Spells .openRecord ['\x7b']
  | closeRecord : Spells .closeRecord ['\x7d']
  | comma : Spells .comma [',']
  | colon : Spells .colon [':']
  | null : Spells .null ['n', 'u', 'l', 'l']
  | true : Spells (.bool true) ['t', 'r', 'u', 'e']
  | false : Spells (.bool false) ['f', 'a', 'l', 's', 'e']
  | numeral {numeral : Numeral} (style : Numeral.Style) (proper : numeral.IsProper) :
      Spells (.numeral numeral) (numeral.text style)
  | text {pieces : List Piece} {spellings : List (List Char)}
      (spelled : List.Forall₂ Piece.Spells pieces spellings) :
      Spells (.text pieces) ('"' :: (spellings.flatten ++ ['"']))

/-- A token may stand directly before a text: a numeral ends only where nothing goes on
with it. -/
def Token.StandsBefore : Token → List Char → Prop
  | .numeral _, c :: _ => ¬Numeral.IsContinuedBy c
  | _, _ => True

/-- A text consists of tokens in order, with white space around them as it likes. -/
inductive LaidOut : List Token → List Char → Prop
  | nil : LaidOut [] []
  | blank {tokens : List Token} {text : List Char} {c : Char} (blank : isBlank c = true)
      (laidOut : LaidOut tokens text) : LaidOut tokens (c :: text)
  | token {token : Token} {tokens : List Token} {spelling text : List Char}
      (spelled : token.Spells spelling) (apart : token.StandsBefore text)
      (laidOut : LaidOut tokens text) : LaidOut (token :: tokens) (spelling ++ text)

/-! ## Reading strings -/

theorem unescape?_of_listed : ∀ listed ∈ escapes, listed.1 ≠ 'u' ∧
    unescape? listed.1 = some listed.2 := by
  decide

theorem tokensFrom_piece {piece : Piece} {spelling : List Char} (spelled : piece.Spells spelling)
    (before : List Piece) (rest : List Char) :
    tokensFrom (.inText before) (spelling ++ rest) =
      tokensFrom (.inText (piece :: before)) rest := by
  cases spelled with
  | plain noControl noQuote noBackslash =>
      simp [tokensFrom, step, noQuote, noBackslash, Nat.not_lt.mpr noControl]
  | escape listed =>
      obtain ⟨noCode, stands⟩ := unescape?_of_listed _ listed
      simp [tokensFrom, step, noCode, stands]
  | code isFirst isSecond isThird isFourth =>
      rw [← Text.digitValue?_eq_some_iff (Nat.le_refl 16)] at isFirst isSecond isThird isFourth
      simp [tokensFrom, step, isFirst, isSecond, isThird, isFourth]

theorem tokensFrom_pieces {pieces : List Piece} {spellings : List (List Char)}
    (spelled : List.Forall₂ Piece.Spells pieces spellings) (before : List Piece)
    (rest : List Char) :
    tokensFrom (.inText before) (spellings.flatten ++ '"' :: rest) =
      .text (before.reverse ++ pieces) :: tokensFrom .between rest := by
  induction spelled generalizing before with
  | nil => simp [tokensFrom, step]
  | cons first others ih =>
      rw [List.flatten_cons, List.append_assoc, tokensFrom_piece first, ih]
      simp

/-! ## Reading numerals -/

theorem digitChar_spec : ∀ digit < 10,
    digit.digitChar.isDigit = true ∧ digit.digitChar.toNat - 48 = digit := by
  decide

/-- Digits are read one by one where a digit does not change the place. The numeral is given
by the digits that it holds in reverse. -/
theorem tokensFrom_digits (place : NumeralPlace) (holding : List Nat → Numeral)
    (stays : ∀ held, ∀ digit < 10, (inNumeral place (holding held)).step digit.digitChar =
      ([], .inNumeral place (holding (digit :: held))))
    {digits : List Nat} (bounded : ∀ digit ∈ digits, digit < 10) (held : List Nat)
    (rest : List Char) :
    tokensFrom (.inNumeral place (holding held)) (digitChars digits ++ rest) =
      tokensFrom (.inNumeral place (holding (digits.reverse ++ held))) rest := by
  induction digits generalizing held with
  | nil => rfl
  | cons digit digits ih =>
      obtain ⟨first, others⟩ := List.forall_mem_cons.mp bounded
      have later := ih others (digit :: held)
      rw [digitChars, List.map_cons, List.cons_append, tokensFrom, stays held digit first]
      rw [digitChars] at later
      simpa using later

/-- The first digit of a numeral that is no zero. -/
theorem tokensFrom_leading {digit : Nat} (below : digit < 10) (notZero : digit ≠ 0)
    (isNegative : Bool) (rest : List Char) :
    tokensFrom .between (Numeral.signText isNegative ++ digit.digitChar :: rest) =
      tokensFrom (.inNumeral .whole ⟨isNegative, [digit], none, none⟩) rest := by
  have steps : ∀ digit < 10, digit ≠ 0 →
      start digit.digitChar = ([], .inNumeral .whole ⟨false, [digit], none, none⟩) ∧
        (inNumeral .sign (.start true)).step digit.digitChar =
          ([], .inNumeral .whole ⟨true, [digit], none, none⟩) := by
    decide
  obtain ⟨unsigned, signed⟩ := steps digit below notZero
  cases isNegative with
  | false =>
      change tokensFrom .between (digit.digitChar :: rest) = _
      rw [tokensFrom, step, unsigned]
      rfl
  | true =>
      change tokensFrom (.inNumeral .sign (.start true)) (digit.digitChar :: rest) = _
      rw [tokensFrom, signed]
      rfl

/-- The places where a whole number may end. -/
def IsWholePlace (place : NumeralPlace) : Prop :=
  place = .zero ∨ place = .whole

/-- The places where a numeral without an exponent may end. -/
def IsPlainPlace (place : NumeralPlace) : Prop :=
  IsWholePlace place ∨ place = .fraction

/-- The places where a numeral may end. -/
def IsEndPlace (place : NumeralPlace) : Prop :=
  IsPlainPlace place ∨ place = .exponent

theorem tokensFrom_whole {digits : List Nat} (isWhole : Numeral.IsWhole digits)
    (isNegative : Bool) (rest : List Char) :
    ∃ place, IsWholePlace place ∧
      tokensFrom .between (Numeral.signText isNegative ++ (digitChars digits ++ rest)) =
        tokensFrom (.inNumeral place ⟨isNegative, digits.reverse, none, none⟩) rest := by
  obtain ⟨⟨notNil, bounded⟩, alone⟩ := isWhole
  by_cases zero : digits = [0]
  · subst zero
    exact ⟨.zero, .inl rfl, by cases isNegative <;> rfl⟩
  · obtain ⟨digit, others, rfl⟩ := List.exists_cons_of_ne_nil notNil
    obtain ⟨first, later⟩ := List.forall_mem_cons.mp bounded
    have notZero : digit ≠ 0 := by
      rintro rfl
      exact zero (alone rfl)
    have goesOn := tokensFrom_digits .whole (fun held => ⟨isNegative, held, none, none⟩)
      (fun held digit below => by simp [step, numeralStep, digitChar_spec digit below]) later
      [digit] rest
    refine ⟨.whole, .inr rfl, ?_⟩
    rw [List.reverse_cons, ← goesOn]
    exact tokensFrom_leading first notZero isNegative _

theorem tokensFrom_fraction {place : NumeralPlace} (isWhole : IsWholePlace place)
    {fraction : Option (List Nat)} (proper : ∀ digits ∈ fraction, AreDigits digits)
    (isNegative : Bool) (whole : List Nat) (rest : List Char) :
    ∃ next, IsPlainPlace next ∧
      tokensFrom (.inNumeral place ⟨isNegative, whole, none, none⟩)
          (Numeral.fractionText fraction ++ rest) =
        tokensFrom (.inNumeral next ⟨isNegative, whole, fraction.map List.reverse, none⟩)
          rest := by
  cases fraction with
  | none => exact ⟨place, .inl isWhole, rfl⟩
  | some digits =>
      obtain ⟨notNil, bounded⟩ := proper digits rfl
      obtain ⟨digit, others, rfl⟩ := List.exists_cons_of_ne_nil notNil
      obtain ⟨first, later⟩ := List.forall_mem_cons.mp bounded
      have goesOn := tokensFrom_digits .fraction (fun held => ⟨isNegative, whole, held, none⟩)
        (fun held digit below => by
          simp [step, numeralStep, addFraction, digitChar_spec digit below])
        later [digit] rest
      refine ⟨.fraction, .inr rfl, ?_⟩
      rw [Option.map_some, List.reverse_cons, ← goesOn]
      rcases isWhole with rfl | rfl <;>
        simp [Numeral.fractionText, digitChars, tokensFrom, step, numeralStep, addFraction,
          digitChar_spec digit first]

/-- The letter of an exponent, its sign and its first digit. -/
theorem tokensFrom_mark {place : NumeralPlace} (isPlain : IsPlainPlace place)
    (style : Numeral.Style) (sign : Bool) {digit : Nat} (below : digit < 10) (isNegative : Bool)
    (whole : List Nat) (fraction : Option (List Nat)) (rest : List Char) :
    tokensFrom (.inNumeral place ⟨isNegative, whole, fraction, none⟩)
        (style.mark :: (style.exponentSign sign ++ digit.digitChar :: rest)) =
      tokensFrom (.inNumeral .exponent ⟨isNegative, whole, fraction, some (sign, [digit])⟩)
        rest := by
  have noSign : digit.digitChar ≠ '+' ∧ digit.digitChar ≠ '-' := by
    revert digit
    decide
  have mark : (inNumeral place ⟨isNegative, whole, fraction, none⟩).step style.mark =
      ([], .inNumeral .exponentMark ⟨isNegative, whole, fraction, some (false, [])⟩) := by
    rw [Numeral.Style.mark]
    rcases isPlain with (rfl | rfl) | rfl <;> split <;> simp [step, numeralStep]
  rw [tokensFrom, mark, Numeral.Style.exponentSign]
  cases sign with
  | true => simp [tokensFrom, step, numeralStep, addExponent, digitChar_spec digit below]
  | false =>
      cases style.hasPlus <;>
        simp [tokensFrom, step, numeralStep, addExponent, digitChar_spec digit below, noSign]

theorem tokensFrom_exponent {place : NumeralPlace} (isPlain : IsPlainPlace place)
    (style : Numeral.Style) {exponent : Option (Bool × List Nat)}
    (proper : ∀ written ∈ exponent, AreDigits written.2) (isNegative : Bool) (whole : List Nat)
    (fraction : Option (List Nat)) (rest : List Char) :
    ∃ next, IsEndPlace next ∧
      tokensFrom (.inNumeral place ⟨isNegative, whole, fraction, none⟩)
          (Numeral.exponentText style exponent ++ rest) =
        tokensFrom (.inNumeral next ⟨isNegative, whole, fraction,
          exponent.map fun (sign, digits) => (sign, digits.reverse)⟩) rest := by
  cases exponent with
  | none => exact ⟨place, .inl isPlain, rfl⟩
  | some written =>
      obtain ⟨sign, digits⟩ := written
      obtain ⟨notNil, bounded⟩ := proper _ rfl
      obtain ⟨digit, others, rfl⟩ := List.exists_cons_of_ne_nil notNil
      obtain ⟨first, later⟩ := List.forall_mem_cons.mp bounded
      have begins := tokensFrom_mark isPlain style sign first isNegative whole fraction
        (digitChars others ++ rest)
      have goesOn := tokensFrom_digits .exponent
        (fun held => ⟨isNegative, whole, fraction, some (sign, held)⟩)
        (fun held digit below => by
          simp [step, numeralStep, addExponent, digitChar_spec digit below])
        later [digit] rest
      refine ⟨.exponent, .inr rfl, ?_⟩
      simp only [Option.map_some, List.reverse_cons]
      rw [← goesOn, ← begins]
      simp [Numeral.exponentText, digitChars]

/-- A numeral ends before a text that does not go on with it. -/
theorem tokensFrom_numeralEnd {place : NumeralPlace} (isEnd : IsEndPlace place)
    (numeral : Numeral) {rest : List Char}
    (apart : (Token.numeral numeral.finish).StandsBefore rest) :
    tokensFrom (.inNumeral place numeral) rest =
      .numeral numeral.finish :: tokensFrom .between rest := by
  cases rest with
  | nil => rcases isEnd with ((rfl | rfl) | rfl) | rfl <;> rfl
  | cons c rest =>
      simp only [Token.StandsBefore, Numeral.IsContinuedBy, not_or] at apart
      obtain ⟨noDigit, noPoint, noMark, noCapitalMark⟩ := apart
      rcases isEnd with ((rfl | rfl) | rfl) | rfl <;>
        simp [tokensFrom, step, numeralStep, afterNumeral, noDigit, noPoint, noMark, noCapitalMark]

theorem tokensFrom_numeral {numeral : Numeral} (proper : numeral.IsProper)
    (style : Numeral.Style) {rest : List Char} (apart : (Token.numeral numeral).StandsBefore rest) :
    tokensFrom .between (numeral.text style ++ rest) =
      .numeral numeral :: tokensFrom .between rest := by
  obtain ⟨isNegative, whole, fraction, exponent⟩ := numeral
  have finished : Numeral.finish ⟨isNegative, whole.reverse, fraction.map List.reverse,
      exponent.map fun (sign, digits) => (sign, digits.reverse)⟩ =
        ⟨isNegative, whole, fraction, exponent⟩ := by
    cases fraction <;> cases exponent <;> simp [Numeral.finish]
  obtain ⟨place, isWhole, readsWhole⟩ := tokensFrom_whole proper.whole isNegative
    (Numeral.fractionText fraction ++ (Numeral.exponentText style exponent ++ rest))
  obtain ⟨plain, isPlain, readsFraction⟩ := tokensFrom_fraction isWhole proper.fraction isNegative
    whole.reverse (Numeral.exponentText style exponent ++ rest)
  obtain ⟨last, isEnd, readsExponent⟩ := tokensFrom_exponent isPlain style proper.exponent
    isNegative whole.reverse (fraction.map List.reverse) rest
  rw [← finished] at apart
  rw [Numeral.text, List.append_assoc, List.append_assoc, List.append_assoc, readsWhole,
    readsFraction, readsExponent, tokensFrom_numeralEnd isEnd _ apart, finished]

/-! ## Reading tokens -/

/-- A spelled token is read as the token. -/
theorem tokensFrom_spelled {token : Token} {spelling : List Char}
    (spelled : token.Spells spelling) {rest : List Char} (apart : token.StandsBefore rest) :
    tokensFrom .between (spelling ++ rest) = token :: tokensFrom .between rest := by
  cases spelled with
  | openList | closeList | openRecord | closeRecord | comma | colon | null | true | false => rfl
  | numeral style proper => exact tokensFrom_numeral proper style apart
  | text spelled =>
      have read := tokensFrom_pieces spelled [] rest
      rw [List.cons_append, List.append_assoc]
      exact read

/-- A text is read as the tokens that it lays out. -/
theorem tokensFrom_laidOut {tokens : List Token} {text : List Char}
    (laidOut : LaidOut tokens text) : tokensFrom .between text = tokens := by
  induction laidOut with
  | nil => rfl
  | blank blank laidOut ih => simp [tokensFrom, step, start, blank, ih]
  | token spelled apart laidOut ih => rw [tokensFrom_spelled spelled apart, ih]

end ProtoSchema.Json
