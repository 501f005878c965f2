import ProtoSchema.Proofs.IntLiteral.DigitGroup

/-!
# The language of integer literals

A literal is white space, a sign or none, an unsigned number and white space again. The
unsigned number is a digit group behind the mark of its base, an octal group behind a zero, the
zero alone, or a decimal group that does not start with a zero. The reader takes literals
apart in this order and accepts exactly those whose number fits into 64 bits.
-/

namespace ProtoSchema.IntLiteral

open Text

/-! ## Forms -/

/-- The texts that stand for a sign. No text at all stands for plus. -/
def Sign.texts : Sign → List (List Char)
  | .plus => [[], ['+']]
  | .minus => [['-']]

/-- The marks that name a base, with the base that each names. -/
def baseMarks : List (List Char × Nat) :=
  [(['0', 'x'], 16), (['0', 'X'], 16), (['0', 'o'], 8), (['0', 'O'], 8), (['0', 'b'], 2),
    (['0', 'B'], 2)]

/-- The forms of an unsigned number, each with its base and its digits. -/
inductive Unsigned : List Char → Nat → List Nat → Prop where
  | marked {mark text : List Char} {base : Nat} {digits : List Nat}
      (named : (mark, base) ∈ baseMarks) (group : DigitGroup base text digits) :
      Unsigned (mark ++ text) base digits
  | leadingZero {text : List Char} {digits : List Nat} (group : DigitGroup 8 text digits) :
      Unsigned ('0' :: text) 8 digits
  | zero : Unsigned ['0'] 10 [0]
  | decimal {text : List Char} {digits : List Nat} (noZero : text.head? ≠ some '0')
      (group : DigitGroup 10 text digits) : Unsigned text 10 digits

/-- A literal is white space, a text of its sign, what is left without a sign, and white
space. -/
def IsSigned (literal : List Char) (sign : Sign) (unsigned : List Char) : Prop :=
  ∃ before signText after, IsBlank before ∧ signText ∈ sign.texts ∧ IsBlank after ∧
    literal = before ++ signText ++ unsigned ++ after

/-- The literal has one of the forms, and the number that it writes is `value`, within 64
bits. -/
def Denotes (literal : String) (value : Int) : Prop :=
  ∃ sign unsigned base digits, IsSigned literal.toList sign unsigned ∧
    Unsigned unsigned base digits ∧ value = sign.apply (numberOf base digits) ∧
    -2 ^ 63 ≤ value ∧ value ≤ 2 ^ 63 - 1

variable {sign : Sign} {base : Nat} {text mark signText unsigned : List Char}
  {digits : List Nat}

/-! ## Bases -/

theorem base_le_of_mem_baseMarks (named : (mark, base) ∈ baseMarks) : base ≤ 16 := by
  have all : ∀ entry ∈ baseMarks, entry.2 ≤ 16 := by decide
  exact all _ named

theorem exists_zero_of_mem_baseMarks (named : (mark, base) ∈ baseMarks) :
    ∃ rest, mark = '0' :: rest := by
  have all : ∀ entry ∈ baseMarks, ∃ rest, entry.1 = '0' :: rest := by simp [baseMarks]
  exact all _ named

theorem solid_of_mem_baseMarks (named : (mark, base) ∈ baseMarks) : IsSolid mark := by
  have all : ∀ entry ∈ baseMarks, IsSolid entry.1 := by decide
  exact all _ named

theorem splitBase_base_le (text : List Char) : (splitBase text).1 ≤ 16 := by
  unfold splitBase
  split <;> simp

theorem splitBase_mark (named : (mark, base) ∈ baseMarks) (text : List Char) :
    splitBase (mark ++ text) = (base, text) := by
  simp only [baseMarks, List.mem_cons, Prod.mk.injEq, List.not_mem_nil, or_false] at named
  rcases named with ⟨rfl, rfl⟩ | ⟨rfl, rfl⟩ | ⟨rfl, rfl⟩ | ⟨rfl, rfl⟩ | ⟨rfl, rfl⟩ | ⟨rfl, rfl⟩
  all_goals rfl

/-- No mark of a base stands in front. -/
def HasNoMark (text : List Char) : Prop :=
  ∀ entry ∈ baseMarks, ¬entry.1 <+: text

instance (text : List Char) : Decidable (HasNoMark text) :=
  inferInstanceAs (Decidable (∀ entry ∈ baseMarks, ¬entry.1 <+: text))

theorem hasNoMark_zero_digit {c : Char} {digit : Nat} (isDigit : IsDigit 8 c digit)
    (text : List Char) : HasNoMark ('0' :: c :: text) := by
  have octal : ∀ digit < 8, [digit.digitChar, digit.digitChar.toUpper].all
      (· ∉ ['x', 'X', 'o', 'O', 'b', 'B']) = true := by
    decide
  have noLetter := of_decide_eq_true
    (List.all_eq_true.mp (octal digit isDigit.1) c (by simpa using isDigit.2))
  simpa [HasNoMark, baseMarks, List.cons_prefix_cons, eq_comm] using noLetter

theorem hasNoMark_of_head_ne (noZero : text.head? ≠ some '0') : HasNoMark text := by
  rintro ⟨mark, base⟩ named ⟨rest, rfl⟩
  obtain ⟨later, rfl⟩ := exists_zero_of_mem_baseMarks named
  exact noZero rfl

theorem splitBase_of_zero {c : Char} (noMark : HasNoMark ('0' :: c :: text)) :
    splitBase ('0' :: c :: text) = (8, c :: text) := by
  have noLetter : c ∉ ['x', 'X', 'o', 'O', 'b', 'B'] := by
    simpa [HasNoMark, baseMarks, List.cons_prefix_cons, eq_comm] using noMark
  simp only [List.mem_cons, List.not_mem_nil, or_false, not_or] at noLetter
  rw [splitBase] <;> simp [noLetter]

theorem splitBase_of_head_ne (noZero : text.head? ≠ some '0') : splitBase text = (10, text) := by
  unfold splitBase
  split
  case h_8 => rfl
  all_goals simp at noZero

/-- The forms are told apart by what stands in front of the digits. -/
theorem unsigned_of_splitBase (group : DigitGroup (splitBase text).1 (splitBase text).2 digits) :
    Unsigned text (splitBase text).1 digits := by
  by_cases noMark : HasNoMark text
  · cases text with
    | nil => exact absurd rfl group.ne_nil
    | cons c rest =>
        by_cases zero : c = '0'
        · subst zero
          cases rest with
          | nil =>
              cases group with
              | single isDigit =>
                  have same := (digitValue?_eq_some_iff (by decide)).mpr isDigit
                  obtain rfl : 0 = _ := Option.some.inj same
                  exact .zero
              | next _ rest => exact absurd rfl rest.ne_nil
          | cons d later =>
              rw [splitBase_of_zero noMark] at group ⊢
              exact .leadingZero group
        · have noZero : (c :: rest).head? ≠ some '0' := by simpa using zero
          rw [splitBase_of_head_ne noZero] at group ⊢
          exact .decimal noZero group
  · simp only [HasNoMark, not_forall, not_not] at noMark
    obtain ⟨⟨mark, base⟩, named, rest, rfl⟩ := noMark
    rw [splitBase_mark named] at group ⊢
    exact .marked named group

theorem unsigned_iff :
    Unsigned text base digits ↔
      base = (splitBase text).1 ∧ DigitGroup (splitBase text).1 (splitBase text).2 digits := by
  constructor
  · intro form
    cases form with
    | marked named group =>
        rw [splitBase_mark named]
        exact ⟨rfl, group⟩
    | leadingZero group =>
        obtain ⟨c, rest, digit, rfl, isDigit⟩ := group.exists_head
        rw [splitBase_of_zero (hasNoMark_zero_digit isDigit rest)]
        exact ⟨rfl, group⟩
    | zero => exact ⟨rfl, .single ⟨by decide, .inl rfl⟩⟩
    | decimal noZero group =>
        rw [splitBase_of_head_ne noZero]
        exact ⟨rfl, group⟩
  · rintro ⟨rfl, group⟩
    exact unsigned_of_splitBase group

/-! ## Signs and white space -/

theorem Unsigned.base_le (form : Unsigned text base digits) : base ≤ 16 := by
  rw [(unsigned_iff.mp form).1]
  exact splitBase_base_le text

theorem Unsigned.head_no_sign (form : Unsigned text base digits) :
    ∃ c rest, text = c :: rest ∧ c ≠ '+' ∧ c ≠ '-' := by
  cases form with
  | marked named _ =>
      obtain ⟨rest, rfl⟩ := exists_zero_of_mem_baseMarks named
      exact ⟨'0', _, rfl, by decide, by decide⟩
  | leadingZero _ => exact ⟨'0', _, rfl, by decide, by decide⟩
  | zero => exact ⟨'0', [], rfl, by decide, by decide⟩
  | decimal _ group =>
      obtain ⟨c, rest, _, rfl, isDigit⟩ := group.exists_head
      exact ⟨c, rest, rfl, (isDigit.solid (by decide)).2.2⟩

theorem Unsigned.solid (form : Unsigned text base digits) : IsSolid text := by
  have small := form.base_le
  cases form with
  | marked named group =>
      exact List.forall_mem_append.mpr ⟨solid_of_mem_baseMarks named, group.solid small⟩
  | leadingZero group => exact List.forall_mem_cons.mpr ⟨by decide, group.solid small⟩
  | zero => exact List.forall_mem_singleton.mpr (by decide)
  | decimal _ group => exact group.solid small

/-- The reader finds a text of a sign in front, if only the empty one. -/
theorem exists_signText_append (text : List Char) :
    ∃ signText ∈ (splitSign text).1.texts, text = signText ++ (splitSign text).2 := by
  unfold splitSign
  split
  · exact ⟨['-'], by simp [Sign.texts], rfl⟩
  · exact ⟨['+'], by simp [Sign.texts], rfl⟩
  · exact ⟨[], by simp [Sign.texts], rfl⟩

theorem isSigned_splitSign_trim (literal : List Char) :
    IsSigned literal (splitSign (trim literal)).1 (splitSign (trim literal)).2 := by
  obtain ⟨before, after, blankBefore, blankAfter, between⟩ := exists_blank_append_trim literal
  obtain ⟨signText, written, signed⟩ := exists_signText_append (trim literal)
  refine ⟨before, signText, after, blankBefore, written, blankAfter, ?_⟩
  rwa [List.append_assoc before signText, ← signed]

theorem splitSign_append {c : Char} {rest : List Char} (written : signText ∈ sign.texts)
    (noPlus : c ≠ '+') (noMinus : c ≠ '-') :
    splitSign (signText ++ c :: rest) = (sign, c :: rest) := by
  cases sign with
  | plus =>
      simp only [Sign.texts, List.mem_cons, List.not_mem_nil, or_false] at written
      rcases written with rfl | rfl
      · rw [List.nil_append, splitSign] <;> simp [noPlus, noMinus]
      · rfl
  | minus =>
      obtain rfl := List.mem_singleton.mp written
      rfl

/-- A literal is taken apart as it is put together, if what follows the sign has no white
space and no further sign. -/
theorem splitSign_trim {literal : List Char} (signed : IsSigned literal sign unsigned)
    (solid : IsSolid unsigned)
    (unsignedHead : ∃ c rest, unsigned = c :: rest ∧ c ≠ '+' ∧ c ≠ '-') :
    splitSign (trim literal) = (sign, unsigned) := by
  obtain ⟨before, signText, after, blankBefore, written, blankAfter, rfl⟩ := signed
  have solidSign : IsSolid signText := by
    have solidTexts : ∀ sign : Sign, ∀ signText ∈ sign.texts, IsSolid signText := by
      rintro (_ | _) <;> decide
    exact solidTexts sign signText written
  rw [List.append_assoc before, trim_between_blanks blankBefore blankAfter
    (List.forall_mem_append.mpr ⟨solidSign, solid⟩)]
  obtain ⟨c, rest, rfl, noPlus, noMinus⟩ := unsignedHead
  exact splitSign_append written noPlus noMinus

/-! ## The reader -/

theorem le_limit_iff {number : Nat} :
    number ≤ sign.limit ↔ -2 ^ 63 ≤ sign.apply number ∧ sign.apply number ≤ 2 ^ 63 - 1 := by
  cases sign <;> simp only [Sign.limit, Sign.apply] <;> omega

theorem parse_of_isSigned {literal : String} (signed : IsSigned literal.toList sign unsigned)
    (form : Unsigned unsigned base digits) (within : numberOf base digits ≤ sign.limit) :
    parse literal = .ok (sign.apply (numberOf base digits)) := by
  obtain ⟨rfl, group⟩ := unsigned_iff.mp form
  have read := (magnitude_eq_ok_iff (splitBase_base_le unsigned)).mpr ⟨digits, group, rfl, within⟩
  simp only [parse, splitSign_trim signed form.solid form.head_no_sign, read]
  rfl

theorem denotes_of_parse {literal : String} {value : Int} (accepted : parse literal = .ok value) :
    Denotes literal value := by
  have signed := isSigned_splitSign_trim literal.toList
  unfold parse at accepted
  generalize splitSign (trim literal.toList) = parts at signed accepted
  obtain ⟨sign, unsigned⟩ := parts
  dsimp only at signed accepted
  cases read : magnitude sign (splitBase unsigned).1 (dropSeparators (splitBase unsigned).2) with
  | error error =>
      rw [read] at accepted
      contradiction
  | ok number =>
      rw [read] at accepted
      obtain ⟨digits, group, rfl, within⟩ :=
        (magnitude_eq_ok_iff (splitBase_base_le unsigned)).mp read
      obtain rfl := Except.ok.inj accepted
      exact ⟨sign, unsigned, _, digits, signed, unsigned_of_splitBase group, rfl,
        le_limit_iff.mp within⟩

/-- Exact language of integer literals: a literal is read as an integer exactly if it
denotes it, and every other text is an error. -/
theorem parse_eq_ok_iff (literal : String) :
    (∀ value, parse literal = .ok value ↔ Denotes literal value) ∧
      ((∃ error, parse literal = .error error) ↔ ∀ value, ¬Denotes literal value) := by
  have denotes_iff : ∀ value, parse literal = .ok value ↔ Denotes literal value := by
    intro value
    constructor
    · exact denotes_of_parse
    · rintro ⟨sign, unsigned, base, digits, signed, form, rfl, within⟩
      exact parse_of_isSigned signed form (le_limit_iff.mpr within)
  refine ⟨denotes_iff, ?_⟩
  simp only [← denotes_iff]
  cases parse literal with
  | error error => simp
  | ok value => simp

/-- The smallest integer, with separators, and one more than the largest. -/
example : parse "-0x8000_0000_0000_0000" = .ok (-2 ^ 63) ∧
    parse "9223372036854775808" = .error .tooLarge := by
  decide

end ProtoSchema.IntLiteral
