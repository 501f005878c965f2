import ProtoSchema.Proofs.IntLiteral.Grammar

/-!
# Separators between digits

A separator between two neighbouring digits of a literal leaves its value as it is, in
every place but one: behind the zero that makes a literal octal. This zero is taken for a
mark of the base, so the group of the digits begins behind it, and a group cannot begin with
a separator.
-/

namespace ProtoSchema.IntLiteral

open Text

/-- A literal in its parts: white space, a text of the sign, a mark of the base, digits and
white space. -/
structure Parts where
  before : List Char
  signText : List Char
  mark : List Char
  digits : List Char
  after : List Char

namespace Parts

/-- The literal that has these parts. -/
def text (parts : Parts) : String :=
  String.ofList
    (parts.before ++ parts.signText ++ (parts.mark ++ parts.digits) ++ parts.after)

/-- The mark of a base in front of digits; or none, and then the base is ten, or eight by a
zero that counts as a digit. -/
def IsMarkOf (base : Nat) (mark digits : List Char) : Prop :=
  (mark, base) ∈ baseMarks ∨ mark = [] ∧ base ∈ [8, 10] ∧ HasNoMark digits

/-- The parts are what they are called. -/
structure IsProper (parts : Parts) (sign : Sign) (base : Nat) : Prop where
  before_blank : IsBlank parts.before
  after_blank : IsBlank parts.after
  signText_mem : parts.signText ∈ sign.texts
  isMark : IsMarkOf base parts.mark parts.digits
  isDigit : ∀ c ∈ parts.digits, ∃ digit, IsDigit base c digit

theorem IsMarkOf.base_le {base : Nat} {mark digits : List Char}
    (isMark : IsMarkOf base mark digits) : base ≤ 16 := by
  rcases isMark with named | ⟨_, few, _⟩
  · exact base_le_of_mem_baseMarks named
  · have all : ∀ base ∈ [8, 10], base ≤ 16 := by decide
    exact all base few

/-- Other digits in the place of the own ones, with or without separators. -/
theorem IsProper.isSigned {parts : Parts} {sign : Sign} {base : Nat}
    (proper : parts.IsProper sign base) (digits : List Char) :
    IsSigned { parts with digits }.text.toList sign (parts.mark ++ digits) :=
  ⟨parts.before, parts.signText, parts.after, proper.before_blank, proper.signText_mem,
    proper.after_blank, String.toList_ofList⟩

end Parts

variable {sign : Sign} {base : Nat} {text left right mark unsigned : List Char}
  {digits : List Nat}

/-! ## Groups without separators -/

/-- Without separators a group is its digits. -/
theorem DigitGroup.forall_isDigit (group : DigitGroup base text digits) (plain : '_' ∉ text) :
    ∀ c ∈ text, ∃ digit, IsDigit base c digit := by
  induction group with
  | single isDigit => simpa using ⟨_, isDigit⟩
  | next isDigit _ ih =>
      rw [List.mem_cons, not_or] at plain
      exact List.forall_mem_cons.mpr ⟨⟨_, isDigit⟩, ih plain.2⟩
  | separated _ _ _ => simp at plain

/-- A separator may stand between any two digits of a group. -/
theorem DigitGroup.separate (group : DigitGroup base (left ++ right) digits)
    (plain : '_' ∉ left ++ right) (leftSome : left ≠ []) (rightSome : right ≠ []) :
    DigitGroup base (left ++ '_' :: right) digits := by
  induction left generalizing digits with
  | nil => contradiction
  | cons c rest ih =>
      cases rest with
      | nil =>
          rw [List.cons_append, List.nil_append] at group plain
          cases group with
          | single _ => contradiction
          | next isDigit group => exact .separated isDigit group
          | separated _ _ => simp at plain
      | cons d later =>
          rw [List.cons_append, List.mem_cons, not_or] at plain
          cases group with
          | next isDigit group =>
              exact .next isDigit (ih group plain.2 (List.cons_ne_nil _ _))
          | separated _ _ => simp at plain

/-! ## Separated literals -/

/-- An unsigned number without separators is a mark, or none, and digits. -/
theorem Unsigned.exists_mark (form : Unsigned unsigned base digits) (plain : '_' ∉ unsigned) :
    ∃ mark text, unsigned = mark ++ text ∧ Parts.IsMarkOf base mark text ∧
      ∀ c ∈ text, ∃ digit, IsDigit base c digit := by
  cases form with
  | @marked mark text _ _ named group =>
      rw [List.mem_append, not_or] at plain
      exact ⟨mark, text, rfl, .inl named, group.forall_isDigit plain.2⟩
  | @leadingZero text _ group =>
      rw [List.mem_cons, not_or] at plain
      obtain ⟨c, rest, digit, isHead, headDigit⟩ := group.exists_head
      have noMark : HasNoMark ('0' :: text) := isHead ▸ hasNoMark_zero_digit headDigit rest
      exact ⟨[], '0' :: text, rfl, .inr ⟨rfl, by decide, noMark⟩,
        List.forall_mem_cons.mpr ⟨⟨0, by decide, .inl rfl⟩, group.forall_isDigit plain.2⟩⟩
  | zero =>
      exact ⟨[], ['0'], rfl, .inr ⟨rfl, by decide, by decide⟩,
        List.forall_mem_singleton.mpr ⟨0, by decide, .inl rfl⟩⟩
  | decimal noZero group =>
      exact ⟨[], unsigned, rfl, .inr ⟨rfl, by decide, hasNoMark_of_head_ne noZero⟩,
        group.forall_isDigit plain⟩

/-- It keeps its digits with a separator between any two of them, unless the first is the
zero that stands in for a mark. -/
theorem Unsigned.separate (form : Unsigned (mark ++ (left ++ right)) base digits)
    {markBase : Nat} (isMark : Parts.IsMarkOf markBase mark (left ++ right))
    (plain : '_' ∉ left ++ right) (leftSome : left ≠ []) (rightSome : right ≠ [])
    (notAlone : ¬(mark = [] ∧ left = ['0'])) :
    Unsigned (mark ++ (left ++ '_' :: right)) base digits := by
  obtain ⟨rfl, group⟩ := unsigned_iff.mp form
  rcases isMark with named | ⟨rfl, _, noMark⟩
  · rw [splitBase_mark named] at group ⊢
    exact .marked named (group.separate plain leftSome rightSome)
  · obtain ⟨c, rest, rfl⟩ := List.exists_cons_of_ne_nil leftSome
    by_cases zero : c = '0'
    · subst zero
      have restSome : rest ≠ [] := by
        rintro rfl
        exact notAlone ⟨rfl, rfl⟩
      obtain ⟨d, later, rfl⟩ := List.exists_cons_of_ne_nil restSome
      have octal : splitBase ([] ++ (('0' :: d :: later) ++ right)) = (8, (d :: later) ++ right) :=
        splitBase_of_zero noMark
      rw [octal] at group ⊢
      have plainRest : '_' ∉ (d :: later) ++ right := fun member => plain (.tail _ member)
      exact .leadingZero (group.separate plainRest restSome rightSome)
    · have noZero : ((c :: rest) ++ right).head? ≠ some '0' := by simpa using zero
      have decimal : splitBase ([] ++ ((c :: rest) ++ right)) = (10, (c :: rest) ++ right) :=
        splitBase_of_head_ne noZero
      rw [decimal] at group ⊢
      exact .decimal (by simpa using zero) (group.separate plain leftSome rightSome)

/-- A group that starts with a separator is read as digits, and fails at once. -/
theorem parse_separator_behind_zero {literal : String}
    (signed : IsSigned literal.toList sign ('0' :: '_' :: right))
    (solid : IsSolid right) :
    parse literal = .error .invalidDigit := by
  have solidUnsigned : IsSolid ('0' :: '_' :: right) :=
    List.forall_mem_cons.mpr ⟨by decide, List.forall_mem_cons.mpr ⟨by decide, solid⟩⟩
  have split := splitSign_trim signed solidUnsigned ⟨'0', _, rfl, by decide, by decide⟩
  have outside : separatorsInside ('_' :: right) ≠ true :=
    fun inside => ne_underscore_of_separatorsInside inside rfl
  have kept : dropSeparators ('_' :: right) = '_' :: right := if_neg outside
  have base : splitBase ('0' :: '_' :: right) = (8, '_' :: right) := rfl
  simp only [parse, split, base, kept]
  rfl

/-- Proper parts are the ones that the reader finds. -/
theorem Parts.IsProper.splitSign_trim {parts : Parts} (proper : parts.IsProper sign base)
    (nonempty : parts.digits ≠ []) :
    splitSign (trim parts.text.toList) = (sign, parts.mark ++ parts.digits) := by
  have solidDigit : ∀ c ∈ parts.digits, isWhiteSpace c = false ∧ c ≠ '+' ∧ c ≠ '-' := by
    intro c member
    obtain ⟨digit, isDigit⟩ := proper.isDigit c member
    exact (isDigit.solid proper.isMark.base_le).2
  refine IntLiteral.splitSign_trim (proper.isSigned parts.digits) ?_ ?_
  · refine List.forall_mem_append.mpr ⟨?_, fun c member => (solidDigit c member).1⟩
    rcases proper.isMark with named | ⟨none, _⟩
    · exact solid_of_mem_baseMarks named
    · simp [none]
  · rcases proper.isMark with named | ⟨none, _⟩
    · obtain ⟨rest, isMark⟩ := exists_zero_of_mem_baseMarks named
      exact ⟨'0', _, congrArg (· ++ parts.digits) isMark, by decide, by decide⟩
    · obtain ⟨c, rest, isDigits⟩ := List.exists_cons_of_ne_nil nonempty
      exact ⟨c, rest, by rw [none, isDigits]; rfl,
        (solidDigit c (isDigits ▸ List.mem_cons_self)).2⟩

/-- Separators between digits are transparent but for one place. A literal that is read as
an integer and has no separator is white space, a sign, the mark of a base and digits, as far
as it has them; with a separator between two of the digits it is read as the same integer,
or rejected if the first of them stands alone before the separator and is the zero that
makes the literal octal. -/
theorem parse_separated {literal : String} {value : Int} (accepted : parse literal = .ok value)
    (plain : '_' ∉ literal.toList) :
    (∃ (parts : Parts) (sign : Sign) (base : Nat),
        parts.text = literal ∧ parts.IsProper sign base) ∧
      ∀ (parts : Parts) (sign : Sign) (base : Nat),
        parts.text = literal → parts.IsProper sign base →
          ∀ left right, parts.digits = left ++ right → left ≠ [] → right ≠ [] →
            parse { parts with digits := left ++ '_' :: right }.text =
              if parts.mark = [] ∧ left = ['0'] then .error .invalidDigit else .ok value := by
  obtain ⟨sign, unsigned, base, digits, signed, form, rfl, within⟩ := denotes_of_parse accepted
  constructor
  · obtain ⟨before, signText, after, blankBefore, written, blankAfter, shape⟩ := signed
    have plainUnsigned : '_' ∉ unsigned := by
      rw [shape] at plain
      simp only [List.mem_append, not_or] at plain
      exact plain.1.2
    obtain ⟨mark, text, rfl, isMark, areDigits⟩ := form.exists_mark plainUnsigned
    refine ⟨{ before, signText, mark, digits := text, after }, sign, base, ?_,
      ⟨blankBefore, blankAfter, written, isMark, areDigits⟩⟩
    exact String.ext (by rw [shape]; exact String.toList_ofList)
  · rintro parts partsSign partsBase rfl proper left right split leftSome rightSome
    have same := proper.splitSign_trim (by simp [split, leftSome])
    rw [splitSign_trim signed form.solid form.head_no_sign, Prod.mk.injEq] at same
    obtain ⟨rfl, rfl⟩ := same
    have separated := proper.isSigned (left ++ '_' :: right)
    have isMark := proper.isMark
    have plainDigits : '_' ∉ parts.digits := by
      rw [Parts.text, String.toList_ofList] at plain
      simp only [List.mem_append, not_or] at plain
      exact plain.1.2.2
    rw [split] at isMark form plainDigits
    split
    · rename_i alone
      have behindZero : parts.mark ++ (left ++ '_' :: right) = '0' :: '_' :: right := by
        rw [alone.1, alone.2]
        rfl
      rw [behindZero] at separated
      refine parse_separator_behind_zero separated fun c member => ?_
      obtain ⟨digit, isDigit⟩ := proper.isDigit c (split ▸ List.mem_append_right _ member)
      exact (isDigit.solid proper.isMark.base_le).2.1
    · rename_i notAlone
      exact parse_of_isSigned separated
        (form.separate isMark plainDigits leftSome rightSome notAlone) (le_limit_iff.mpr within)

/-- A separator in a hexadecimal literal with a sign and white space. -/
theorem parse_separated_hexadecimal :
    let parts : Parts :=
      { before := [' '], signText := ['-'], mark := ['0', 'x'], digits := ['1', 'F'], after := [] }
    parse parts.text = .ok (-31) ∧ '_' ∉ parts.text.toList ∧ parts.IsProper .minus 16 ∧
      parse " -0x1_F" = .ok (-31) := by
  intro parts
  have accepted : parse parts.text = .ok (-31) := by decide
  have plain : '_' ∉ parts.text.toList := by decide
  have proper : parts.IsProper .minus 16 :=
    { before_blank := by decide
      after_blank := by decide
      signText_mem := by decide
      isMark := .inl (by decide)
      isDigit := by
        simpa [parts] using ⟨⟨1, by decide, .inl rfl⟩, ⟨15, by decide, .inr rfl⟩⟩ }
  have separated := (parse_separated accepted plain).2 parts .minus 16 rfl proper ['1'] ['F'] rfl
    (by decide) (by decide)
  exact ⟨accepted, plain, proper, separated⟩

/-- Behind the zero of an octal literal a separator stands between two digits, and the
literal is rejected. -/
theorem separator_behind_octal_zero :
    parse "017" = .ok 15 ∧ parse "0_17" = .error .invalidDigit ∧ parse "01_7" = .ok 15 := by
  decide

end ProtoSchema.IntLiteral
