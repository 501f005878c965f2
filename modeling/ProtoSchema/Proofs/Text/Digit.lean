import ProtoSchema.Proofs.Identifier
import ProtoSchema.Text.Basic

/-!
# The characters of digits

A digit of a base is a decimal digit or a letter in either case. The value of a character
in the base is the digit that it stands for.
-/

namespace ProtoSchema.Text

/-- A character that stands for a digit of a base, in either letter case. -/
def IsDigit (base : Nat) (c : Char) (digit : Nat) : Prop :=
  digit < base ∧ (c = digit.digitChar ∨ c = digit.digitChar.toUpper)

variable {base digit : Nat} {c : Char}

theorem digitValue?_eq_some_iff_of_le (small : base ≤ 16) :
    digitValue? base c = some digit ↔ digitValue? 16 c = some digit ∧ digit < base := by
  simp only [digitValue?, Option.filter_eq_some_iff, decide_eq_true_eq]
  constructor
  · rintro ⟨found, below⟩
    exact ⟨⟨found, Nat.lt_of_lt_of_le below small⟩, below⟩
  · rintro ⟨⟨found, _⟩, below⟩
    exact ⟨found, below⟩

theorem ascii_of_digitValue? (found : digitValue? base c = some digit) : c.toNat < 0x80 := by
  have atMost : ∀ {low high : Char}, low ≤ c ∧ c ≤ high → c.toNat ≤ high.toNat :=
    fun within => within.2
  unfold digitValue? at found
  by_cases decimal : c.isDigit = true
  · exact Nat.lt_of_le_of_lt (Char.isDigit_iff_toNat.mp decimal).2 (by decide)
  · by_cases small : 'a' ≤ c ∧ c ≤ 'f'
    · exact Nat.lt_of_le_of_lt (atMost small) (by decide)
    · by_cases capital : 'A' ≤ c ∧ c ≤ 'F'
      · exact Nat.lt_of_le_of_lt (atMost capital) (by decide)
      · simp [decimal, small, capital] at found

theorem digitValue?_digitChar :
    ∀ digit < 16, digitValue? 16 digit.digitChar = some digit ∧
      digitValue? 16 digit.digitChar.toUpper = some digit := by
  decide

theorem digitChar_of_digitValue? (found : digitValue? 16 c = some digit) :
    c = digit.digitChar ∨ c = digit.digitChar.toUpper := by
  refine forall_ascii (p := fun c => ∀ digit ∈ digitValue? 16 c,
    c = digit.digitChar ∨ c = digit.digitChar.toUpper) ?_ (ascii_of_digitValue? found) digit found
  decide

theorem digitValue?_eq_some_iff (small : base ≤ 16) :
    digitValue? base c = some digit ↔ IsDigit base c digit := by
  rw [digitValue?_eq_some_iff_of_le small]
  constructor
  · rintro ⟨found, below⟩
    exact ⟨below, digitChar_of_digitValue? found⟩
  · rintro ⟨below, written⟩
    obtain ⟨asSmall, asCapital⟩ := digitValue?_digitChar digit (Nat.lt_of_lt_of_le below small)
    exact ⟨by rcases written with rfl | rfl <;> assumption, below⟩

/-- A digit is no separator, no white space and no sign. -/
theorem IsDigit.solid (isDigit : IsDigit base c digit) (small : base ≤ 16) :
    c ≠ '_' ∧ isWhiteSpace c = false ∧ c ≠ '+' ∧ c ≠ '-' := by
  have all : ∀ digit < 16, [digit.digitChar, digit.digitChar.toUpper].all
      (fun c => c != '_' && !isWhiteSpace c && c != '+' && c != '-') = true := by
    decide
  have solid := List.all_eq_true.mp (all digit (Nat.lt_of_lt_of_le isDigit.1 small)) c
    (by simpa using isDigit.2)
  simpa [and_assoc] using solid

end ProtoSchema.Text
