import Mathlib.Data.List.Forall2
import Mathlib.Data.List.Induction
import Mathlib.Data.Nat.Digits.Defs
import ProtoSchema.IntLiteral
import ProtoSchema.Proofs.Text.Digit
import ProtoSchema.Proofs.Text.Trim

/-!
# Digit groups

A digit group is one or more digits of a base, with at most one underscore between two
neighbours. The reader drops separators that are in place, leaves the others to be rejected
as digits, and stops at a magnitude beyond the limit of the sign; together it accepts
exactly the digit groups within the limit, and yields the number that they write.
-/

namespace ProtoSchema.IntLiteral

open Text

variable {sign : Sign} {base : Nat} {c d : Char} {text : List Char} {digits : List Nat}

/-! ## Separators -/

theorem separatorsInside_iff :
    separatorsInside text = true ↔
      text.head? ≠ some '_' ∧ text.getLast? ≠ some '_' ∧ hasDoubleUnderscore text = false := by
  simp [separatorsInside, and_assoc]

theorem hasDoubleUnderscore_cons (plain : c ≠ '_') :
    hasDoubleUnderscore (c :: text) = hasDoubleUnderscore text := by
  simp [hasDoubleUnderscore, plain]

theorem separatorsInside_singleton_iff : separatorsInside [c] = true ↔ c ≠ '_' := by
  simp [separatorsInside_iff, hasDoubleUnderscore]

theorem separatorsInside_cons_cons_iff (plain : c ≠ '_') (plainNext : d ≠ '_') :
    separatorsInside (c :: d :: text) = true ↔ separatorsInside (d :: text) = true := by
  simp [separatorsInside_iff, hasDoubleUnderscore_cons, plain, plainNext]

theorem separatorsInside_cons_separator_iff (plain : c ≠ '_') :
    separatorsInside (c :: '_' :: text) = true ↔ text ≠ [] ∧ separatorsInside text = true := by
  cases text with
  | nil => simp [separatorsInside_iff]
  | cons d rest =>
      by_cases double : d = '_'
      · simp [separatorsInside_iff, hasDoubleUnderscore_cons plain, hasDoubleUnderscore, double]
      · simp [separatorsInside_iff, hasDoubleUnderscore_cons plain, hasDoubleUnderscore, plain,
          double]

theorem separatorsInside_of_not_mem (plain : '_' ∉ text) : separatorsInside text = true := by
  have noDouble : hasDoubleUnderscore text = false := by
    induction text with
    | nil => rfl
    | cons c rest ih =>
        rw [List.mem_cons, not_or] at plain
        rw [hasDoubleUnderscore_cons (Ne.symm plain.1), ih plain.2]
  refine separatorsInside_iff.mpr ⟨?_, ?_, noDouble⟩
  · exact fun first => plain (List.mem_of_mem_head? first)
  · exact fun last => plain (List.mem_of_getLast? last)

/-- The characters of a text that are no separators. -/
def withoutSeparators (text : List Char) : List Char :=
  text.filter (· != '_')

theorem withoutSeparators_cons (plain : c ≠ '_') :
    withoutSeparators (c :: text) = c :: withoutSeparators text := by
  simp [withoutSeparators, plain]

theorem withoutSeparators_separator (text : List Char) :
    withoutSeparators ('_' :: text) = withoutSeparators text := by
  simp [withoutSeparators]

theorem ne_underscore_of_separatorsInside (inside : separatorsInside (c :: text) = true) :
    c ≠ '_' := by
  rintro rfl
  exact (separatorsInside_iff.mp inside).1 rfl

theorem dropSeparators_eq_nil_iff : dropSeparators text = [] ↔ text = [] := by
  unfold dropSeparators
  split
  · rename_i inside
    cases text with
    | nil => rfl
    | cons c rest => simp [ne_underscore_of_separatorsInside inside]
  · rfl

/-! ## Groups -/

/-- One or more digits of a base, with at most one underscore between two neighbours. The
digits are listed as they stand, the most significant one first. -/
inductive DigitGroup (base : Nat) : List Char → List Nat → Prop where
  | single {c : Char} {digit : Nat} (isDigit : IsDigit base c digit) :
      DigitGroup base [c] [digit]
  | next {c : Char} {digit : Nat} {text : List Char} {digits : List Nat}
      (isDigit : IsDigit base c digit) (rest : DigitGroup base text digits) :
      DigitGroup base (c :: text) (digit :: digits)
  | separated {c : Char} {digit : Nat} {text : List Char} {digits : List Nat}
      (isDigit : IsDigit base c digit) (rest : DigitGroup base text digits) :
      DigitGroup base (c :: '_' :: text) (digit :: digits)

namespace DigitGroup

theorem exists_head (group : DigitGroup base text digits) :
    ∃ c rest digit, text = c :: rest ∧ IsDigit base c digit := by
  cases group with
  | single isDigit => exact ⟨_, _, _, rfl, isDigit⟩
  | next isDigit _ => exact ⟨_, _, _, rfl, isDigit⟩
  | separated isDigit _ => exact ⟨_, _, _, rfl, isDigit⟩

theorem ne_nil (group : DigitGroup base text digits) : text ≠ [] := by
  obtain ⟨c, rest, _, rfl, _⟩ := group.exists_head
  exact List.cons_ne_nil c rest

/-- Every character of a group is a digit or a separator, and so none is white space. -/
theorem solid (group : DigitGroup base text digits) (small : base ≤ 16) : IsSolid text := by
  have separator : isWhiteSpace '_' = false := by decide
  induction group with
  | single isDigit => exact List.forall_mem_singleton.mpr (isDigit.solid small).2.1
  | next isDigit _ ih => exact List.forall_mem_cons.mpr ⟨(isDigit.solid small).2.1, ih⟩
  | separated isDigit _ ih =>
      exact List.forall_mem_cons.mpr
        ⟨(isDigit.solid small).2.1, List.forall_mem_cons.mpr ⟨separator, ih⟩⟩

theorem separatorsInside (group : DigitGroup base text digits) (small : base ≤ 16) :
    separatorsInside text = true := by
  induction group with
  | single isDigit => exact separatorsInside_singleton_iff.mpr (isDigit.solid small).1
  | next isDigit rest ih =>
      obtain ⟨d, later, _, rfl, nextDigit⟩ := rest.exists_head
      have noSeparator := (isDigit.solid small).1
      exact (separatorsInside_cons_cons_iff noSeparator (nextDigit.solid small).1).mpr ih
  | separated isDigit rest ih =>
      exact (separatorsInside_cons_separator_iff (isDigit.solid small).1).mpr ⟨rest.ne_nil, ih⟩

theorem forall₂_withoutSeparators (group : DigitGroup base text digits) (small : base ≤ 16) :
    List.Forall₂ (IsDigit base) (withoutSeparators text) digits := by
  induction group with
  | single isDigit =>
      rw [withoutSeparators_cons (isDigit.solid small).1]
      exact .cons isDigit .nil
  | next isDigit _ ih =>
      rw [withoutSeparators_cons (isDigit.solid small).1]
      exact .cons isDigit ih
  | separated isDigit _ ih =>
      rw [withoutSeparators_cons (isDigit.solid small).1, withoutSeparators_separator]
      exact .cons isDigit ih

/-- Separators that are in place, with digits around them, make a group. -/
theorem of_separatorsInside (nonempty : text ≠ [])
    (inside : IntLiteral.separatorsInside text = true)
    (read : List.Forall₂ (IsDigit base) (withoutSeparators text) digits) :
    DigitGroup base text digits := by
  induction text using List.twoStepInduction generalizing digits with
  | nil => contradiction
  | singleton c =>
      rw [withoutSeparators_cons (ne_underscore_of_separatorsInside inside),
        List.forall₂_cons_left_iff] at read
      obtain ⟨digit, _, isDigit, none, rfl⟩ := read
      cases none
      exact .single isDigit
  | cons_cons c d rest afterBoth afterFirst =>
      have plain := ne_underscore_of_separatorsInside inside
      rw [withoutSeparators_cons plain, List.forall₂_cons_left_iff] at read
      obtain ⟨digit, later, isDigit, readLater, rfl⟩ := read
      by_cases separator : d = '_'
      · subst separator
        obtain ⟨more, insideRest⟩ := (separatorsInside_cons_separator_iff plain).mp inside
        rw [withoutSeparators_separator] at readLater
        exact .separated isDigit (afterBoth more insideRest readLater)
      · have insideNext := (separatorsInside_cons_cons_iff plain separator).mp inside
        exact .next isDigit (afterFirst d (List.cons_ne_nil _ _) insideNext readLater)

end DigitGroup

theorem exists_isDigit_of_mem (read : List.Forall₂ (IsDigit base) text digits)
    (member : c ∈ text) : ∃ digit, IsDigit base c digit := by
  induction read with
  | nil => contradiction
  | cons isDigit _ ih =>
      rcases List.mem_cons.mp member with rfl | inRest
      · exact ⟨_, isDigit⟩
      · exact ih inRest

/-- What is left after dropping separators reads as digits exactly if the text is a
group. -/
theorem digitGroup_iff (small : base ≤ 16) :
    DigitGroup base text digits ↔
      text ≠ [] ∧ List.Forall₂ (IsDigit base) (dropSeparators text) digits := by
  constructor
  · intro group
    rw [dropSeparators, if_pos (group.separatorsInside small)]
    exact ⟨group.ne_nil, group.forall₂_withoutSeparators small⟩
  · rintro ⟨nonempty, read⟩
    unfold dropSeparators at read
    split at read
    · rename_i inside
      exact .of_separatorsInside nonempty inside read
    · rename_i outside
      -- A separator out of place is still there, and it is no digit.
      refine absurd (separatorsInside_of_not_mem fun separator => ?_) outside
      obtain ⟨digit, isDigit⟩ := exists_isDigit_of_mem read separator
      exact (isDigit.solid small).1 rfl

/-! ## Magnitudes -/

/-- The number that digits write, the most significant one first. -/
def numberOf (base : Nat) (digits : List Nat) : Nat :=
  Nat.ofDigits base digits.reverse

theorem numberOf_cons (base digit : Nat) (digits : List Nat) :
    numberOf base (digit :: digits) = digit * base ^ digits.length + numberOf base digits := by
  rw [numberOf, Nat.ofDigits_reverse_cons, numberOf, Nat.add_comm, Nat.mul_comm]

/-- A first digit counts as much as the others have places. -/
theorem shift_append (start base digit : Nat) (digits : List Nat) :
    start * base ^ (digit :: digits).length + numberOf base (digit :: digits) =
      (start * base + digit) * base ^ digits.length + numberOf base digits := by
  rw [numberOf_cons, List.length_cons]
  ring

/-- Reading digits onto a magnitude shifts it by as many places. It stays within the limit on
the way, because it never shrinks. -/
theorem readDigits_eq_ok_iff (small : base ≤ 16) {start value : Nat}
    (within : start ≤ sign.limit) :
    readDigits sign base start text = .ok value ↔
      ∃ digits, List.Forall₂ (IsDigit base) text digits ∧
        value = start * base ^ digits.length + numberOf base digits ∧ value ≤ sign.limit := by
  induction text generalizing start with
  | nil =>
      simp only [readDigits, Except.ok.injEq, List.forall₂_nil_left_iff, exists_eq_left,
        List.length_nil, Nat.pow_zero, Nat.mul_one, numberOf, List.reverse_nil,
        Nat.ofDigits_nil, Nat.add_zero]
      constructor
      · rintro rfl
        exact ⟨rfl, within⟩
      · rintro ⟨rfl, _⟩
        rfl
  | cons c rest ih =>
      rw [readDigits]
      cases found : digitValue? base c with
      | none =>
          refine iff_of_false nofun ?_
          rintro ⟨_, read, _⟩
          obtain ⟨digit, isDigit⟩ := exists_isDigit_of_mem read List.mem_cons_self
          rw [(digitValue?_eq_some_iff small).mpr isDigit] at found
          contradiction
      | some digit =>
          have isDigit := (digitValue?_eq_some_iff small).mp found
          have positive : 0 < base := Nat.zero_lt_of_lt isDigit.1
          have asRest : (∃ digits, List.Forall₂ (IsDigit base) (c :: rest) digits ∧
              value = start * base ^ digits.length + numberOf base digits ∧ value ≤ sign.limit) ↔
              ∃ digits, List.Forall₂ (IsDigit base) rest digits ∧
                value = (start * base + digit) * base ^ digits.length + numberOf base digits ∧
                value ≤ sign.limit := by
            constructor
            · rintro ⟨_, read, sum, atMost⟩
              obtain ⟨same, digits, isSame, readRest, rfl⟩ := List.forall₂_cons_left_iff.mp read
              rw [(digitValue?_eq_some_iff small).mpr isSame, Option.some.injEq] at found
              subst found
              exact ⟨digits, readRest, sum.trans (shift_append ..), atMost⟩
            · rintro ⟨digits, readRest, sum, atMost⟩
              exact ⟨digit :: digits, .cons isDigit readRest, sum.trans (shift_append ..).symm,
                atMost⟩
          rw [asRest]
          dsimp only
          split
          · rename_i beyond
            refine iff_of_false nofun ?_
            rintro ⟨digits, _, rfl, atMost⟩
            have grows : start * base + digit ≤ (start * base + digit) * base ^ digits.length :=
              Nat.le_mul_of_pos_right _ (Nat.pow_pos positive)
            omega
          · rename_i inside
            exact ih (Nat.not_lt.mp inside)

/-- Separators and all, the reader accepts the digit groups within the limit. -/
theorem magnitude_eq_ok_iff (small : base ≤ 16) {value : Nat} :
    magnitude sign base (dropSeparators text) = .ok value ↔
      ∃ digits, DigitGroup base text digits ∧ value = numberOf base digits ∧
        value ≤ sign.limit := by
  have nonempty : text ≠ [] ↔ dropSeparators text ≠ [] := dropSeparators_eq_nil_iff.not.symm
  simp only [digitGroup_iff small, nonempty]
  cases dropSeparators text with
  | nil => simp [magnitude]
  | cons c rest =>
      change readDigits sign base 0 (c :: rest) = .ok value ↔ _
      rw [readDigits_eq_ok_iff small (Nat.zero_le _)]
      simp only [ne_eq, reduceCtorEq, not_false_eq_true, true_and, Nat.zero_mul, Nat.zero_add]

end ProtoSchema.IntLiteral
