import ProtoSchema.Proofs.Json.Spelling

/-!
# Scanning

What a text is read as without being cut off is spelled in it. Between two tokens the reader
holds the part of a spelling that it has seen; a step completes the spelling, adds to it, or
comes to a place from which every way leads to a cut.
-/

namespace ProtoSchema.Json

open LexState

/-! ## Cut tokens -/

/-- A token at which a text breaks off or departs from the grammar. -/
def Token.IsCut : Token → Prop
  | .cutText _ | .cut _ => True
  | _ => False

/-- The tokens end in a cut, whatever follows in the text. -/
def IsDoomed (result : List Token × LexState) : Prop :=
  ∀ rest, ∃ token ∈ result.1 ++ tokensFrom result.2 rest, token.IsCut

theorem isDoomed_of_mem {result : List Token × LexState} (token : Token)
    (listed : token ∈ result.1) (isCut : token.IsCut) : IsDoomed result :=
  fun _ => ⟨token, List.mem_append_left _ listed, isCut⟩

theorem isDoomed_cut (fault : Fault) : IsDoomed (stopAt (.cut fault)) :=
  isDoomed_of_mem _ (List.mem_singleton_self _) trivial

theorem isDoomed_cutText (fault : Fault) : IsDoomed (stopAt (.cutText fault)) :=
  isDoomed_of_mem _ (List.mem_singleton_self _) trivial

/-- Four bytes that are no code are a cut, and so is the end of the text before them. -/
theorem isDoomed_badCode (pieces : List Piece) (bytes : Nat) :
    IsDoomed ([], .inBadCode pieces bytes) := by
  intro rest
  induction rest generalizing bytes with
  | nil => exact ⟨_, List.mem_singleton_self _, trivial⟩
  | cons c rest ih =>
      by_cases full : 4 ≤ bytes + c.utf8Size
      · have stops := isDoomed_cutText .malformed rest
        simpa only [List.nil_append, tokensFrom, step, if_pos full] using stops
      · have goesOn := ih (bytes + c.utf8Size)
        simpa only [List.nil_append, tokensFrom, step, if_neg full] using goesOn

/-! ## Spellings in part -/

/-- The numerals, with digits held in reverse, that the reader may hold at a place, and the
styles in which they may be spelled so far. -/
inductive Numeral.IsHeldAt : NumeralPlace → Numeral → Numeral.Style → Prop
  | sign {style : Style} : IsHeldAt .sign ⟨true, [], none, none⟩ style
  | zero {isNegative : Bool} {style : Style} : IsHeldAt .zero ⟨isNegative, [0], none, none⟩ style
  | whole {isNegative : Bool} {whole : List Nat} {style : Style}
      (isWhole : IsWhole whole.reverse) (notZero : whole ≠ [0]) :
      IsHeldAt .whole ⟨isNegative, whole, none, none⟩ style
  | point {isNegative : Bool} {whole : List Nat} {style : Style}
      (isWhole : IsWhole whole.reverse) :
      IsHeldAt .point ⟨isNegative, whole, some [], none⟩ style
  | fraction {isNegative : Bool} {whole digits : List Nat} {style : Style}
      (isWhole : IsWhole whole.reverse) (areDigits : AreDigits digits) :
      IsHeldAt .fraction ⟨isNegative, whole, some digits, none⟩ style
  | exponentMark {isNegative : Bool} {whole : List Nat} {fraction : Option (List Nat)}
      {style : Style} (isWhole : IsWhole whole.reverse)
      (areDigits : ∀ digits ∈ fraction, AreDigits digits) (noPlus : style.hasPlus = false) :
      IsHeldAt .exponentMark ⟨isNegative, whole, fraction, some (false, [])⟩ style
  | exponentSign {isNegative sign : Bool} {whole : List Nat} {fraction : Option (List Nat)}
      {style : Style} (isWhole : IsWhole whole.reverse)
      (areDigits : ∀ digits ∈ fraction, AreDigits digits) :
      IsHeldAt .exponentSign ⟨isNegative, whole, fraction, some (sign, [])⟩ style
  | exponent {isNegative sign : Bool} {whole digits : List Nat} {fraction : Option (List Nat)}
      {style : Style} (isWhole : IsWhole whole.reverse)
      (areDigits : ∀ digits ∈ fraction, AreDigits digits) (exponentDigits : AreDigits digits) :
      IsHeldAt .exponent ⟨isNegative, whole, fraction, some (sign, digits)⟩ style

/-- The part of a token's spelling that has been read where the reader is in a state. -/
inductive Pending : LexState → List Char → Prop
  | between : Pending .between []
  | word {token : Token} {c : Char} {before rest : List Char}
      (spelled : token.Spells (before ++ c :: rest))
      (solid : ∀ text, token.StandsBefore text) : Pending (.inWord (c :: rest) token) before
  | numeral {place : NumeralPlace} {numeral : Numeral} {before : List Char}
      (style : Numeral.Style) (isHeld : numeral.IsHeldAt place style)
      (shown : before = numeral.finish.text style) : Pending (.inNumeral place numeral) before
  | text {pieces : List Piece} {spellings : List (List Char)} {before : List Char}
      (spelled : List.Forall₂ Piece.Spells pieces.reverse spellings)
      (shown : before = '"' :: spellings.flatten) : Pending (.inText pieces) before
  | backslash {pieces : List Piece} {spellings : List (List Char)} {before : List Char}
      (spelled : List.Forall₂ Piece.Spells pieces.reverse spellings)
      (shown : before = '"' :: (spellings.flatten ++ ['\\'])) :
      Pending (.afterBackslash pieces) before
  | code {pieces : List Piece} {spellings : List (List Char)} {digits : List Nat}
      {before written : List Char} (spelled : List.Forall₂ Piece.Spells pieces.reverse spellings)
      (few : digits.length < 4) (isCode : List.Forall₂ (Text.IsDigit 16) written digits.reverse)
      (shown : before = '"' :: (spellings.flatten ++ '\\' :: 'u' :: written)) :
      Pending (.inCode pieces digits) before

/-- What a step at a character can come to, after a part of a spelling. -/
inductive Advances (before : List Char) (c : Char) : List Token × LexState → Prop
  | blank (nothing : before = []) (isBlank : isBlank c = true) : Advances before c ([], .between)
  | waits {next : LexState} (pending : Pending next (before ++ [c])) : Advances before c ([], next)
  | ends {token : Token} (spelled : token.Spells (before ++ [c]))
      (solid : ∀ text, token.StandsBefore text) :
      Advances before c ([token], .between)
  | doomed {result : List Token × LexState} (isDoomed : IsDoomed result) :
      Advances before c result

/-- The step completes a numeral and begins anew. -/
def Restarts (before : List Char) (c : Char) (result : List Token × LexState) : Prop :=
  ∃ numeral, (Token.numeral numeral).Spells before ∧ ¬Numeral.IsContinuedBy c ∧
    result = (.numeral numeral :: (start c).1, (start c).2)

/-! ## Steps -/

/-- A decimal digit as the character of its value. -/
theorem exists_digitChar {c : Char} (isDigit : c.isDigit = true) :
    ∃ digit < 10, c.toNat - '0'.toNat = digit ∧ c = digit.digitChar := by
  rw [Char.isDigit_iff_toNat] at isDigit
  obtain ⟨least, most⟩ := isDigit
  change 48 ≤ c.toNat at least
  change c.toNat ≤ 57 at most
  have written : ∀ digit < 10, Char.ofNat (digit + 48) = digit.digitChar := by decide
  have same := written (c.toNat - 48) (by omega)
  rw [Nat.sub_add_cancel least, Char.ofNat_toNat] at same
  exact ⟨c.toNat - 48, by omega, rfl, same⟩

theorem isWhole_singleton {digit : Nat} (below : digit < 10) (notZero : digit ≠ 0) :
    Numeral.IsWhole [digit] := by
  refine ⟨⟨List.cons_ne_nil digit [], by simpa using below⟩, fun leads => ?_⟩
  exact absurd (Option.some.inj leads) notZero

/-- A digit may follow a whole number that is no zero. -/
theorem isWhole_append {digits : List Nat} {digit : Nat} (isWhole : Numeral.IsWhole digits)
    (notZero : digits ≠ [0]) (below : digit < 10) : Numeral.IsWhole (digits ++ [digit]) := by
  obtain ⟨⟨notNil, bounded⟩, alone⟩ := isWhole
  obtain ⟨first, others, rfl⟩ := List.exists_cons_of_ne_nil notNil
  refine ⟨⟨List.append_ne_nil_of_left_ne_nil notNil _, ?_⟩,
    fun leads => absurd (alone leads) notZero⟩
  intro listed inDigits
  rcases List.mem_append.mp inDigits with before | last
  · exact bounded listed before
  · rwa [List.mem_singleton.mp last]

theorem areDigits_cons {digits : List Nat} {digit : Nat} (below : digit < 10)
    (bounded : ∀ listed ∈ digits, listed < 10) : AreDigits (digit :: digits) :=
  ⟨List.cons_ne_nil digit digits, List.forall_mem_cons.mpr ⟨below, bounded⟩⟩

/-- The step at a character that begins a token. -/
theorem advances_start (c : Char) : Advances [] c (start c) := by
  unfold start
  split
  · rename_i blank
    exact .blank rfl blank
  · split
    · exact .ends .openList fun _ => trivial
    · exact .ends .closeList fun _ => trivial
    · exact .ends .openRecord fun _ => trivial
    · exact .ends .closeRecord fun _ => trivial
    · exact .ends .comma fun _ => trivial
    · exact .ends .colon fun _ => trivial
    · exact .waits (.text .nil rfl)
    · exact .waits (.word .null fun _ => trivial)
    · exact .waits (.word .true fun _ => trivial)
    · exact .waits (.word .false fun _ => trivial)
    · exact .waits (.numeral ⟨false, false⟩ .sign rfl)
    · split
      · rename_i zero
        subst zero
        exact .waits (.numeral ⟨false, false⟩ .zero rfl)
      · split
        · split
          · rename_i notZero _ digit value isDigit
            obtain ⟨other, below, _, rfl⟩ := exists_digitChar isDigit
            have valued := (Text.digitValue?_digitChar other (Nat.lt_trans below (by decide))).1
            obtain rfl : other = digit := Option.some.inj (valued.symm.trans value)
            have leads : other ≠ 0 := by
              rintro rfl
              exact notZero rfl
            refine .waits (.numeral ⟨false, false⟩ (.whole (isWhole_singleton below leads) ?_) rfl)
            simpa using leads
          · exact .doomed (isDoomed_cut _)
        · exact .doomed (isDoomed_cut _)

section Numeral

variable {isNegative : Bool} {whole : List Nat} {style : Numeral.Style} {before : List Char}

theorem advances_afterNumeral {numeral : Numeral} {c : Char}
    (spelled : (Token.numeral numeral.finish).Spells before) (noDigit : c.isDigit ≠ true) :
    Advances before c (afterNumeral numeral c) ∨ Restarts before c (afterNumeral numeral c) := by
  by_cases continued : Numeral.IsContinuedBy c
  · have fails : (start c).1 = [.cut .malformed] := by
      rcases continued with isDigit | rfl | rfl | rfl
      · exact absurd isDigit noDigit
      · rfl
      · rfl
      · rfl
    refine .inl (.doomed (isDoomed_of_mem (.cut .malformed) ?_ trivial))
    simp [afterNumeral, fails]
  · exact .inr ⟨numeral.finish, spelled, continued, rfl⟩

theorem areDigits_reverse {digits : List Nat} (areDigits : AreDigits digits) :
    AreDigits digits.reverse := by
  simpa [AreDigits] using areDigits

theorem digitChars_reverse_cons (digit : Nat) (digits : List Nat) :
    digitChars (digit :: digits).reverse = digitChars digits.reverse ++ [digit.digitChar] := by
  simp [digitChars]

/-- The spelling of a numeral whose digits are held in reverse. -/
theorem text_finish (fraction : Option (List Nat)) (exponent : Option (Bool × List Nat)) :
    Numeral.text style (Numeral.finish ⟨isNegative, whole, fraction, exponent⟩) =
      Numeral.signText isNegative ++ digitChars whole.reverse ++
        Numeral.fractionText (fraction.map List.reverse) ++
          Numeral.exponentText style
            (exponent.map fun (isNegative, digits) => (isNegative, digits.reverse)) :=
  rfl

theorem spells_numeral {fraction : Option (List Nat)} {exponent : Option (Bool × List Nat)}
    (isWhole : Numeral.IsWhole whole.reverse) (areDigits : ∀ digits ∈ fraction, AreDigits digits)
    (exponentDigits : ∀ written ∈ exponent, AreDigits written.2)
    (shown : before = (Numeral.finish ⟨isNegative, whole, fraction, exponent⟩).text style) :
    (Token.numeral (Numeral.finish ⟨isNegative, whole, fraction, exponent⟩)).Spells before := by
  subst shown
  refine .numeral style ⟨isWhole, ?_, ?_⟩
  · cases fraction with
    | none => exact nofun
    | some digits =>
        rintro _ ⟨⟩
        exact areDigits_reverse (areDigits digits rfl)
  · cases exponent with
    | none => exact nofun
    | some written =>
        rintro _ ⟨⟩
        exact areDigits_reverse (exponentDigits written rfl)

/-- A digit goes on with a whole number that is no zero. -/
theorem pending_whole {digit : Nat} (isWhole : Numeral.IsWhole whole.reverse)
    (notZero : whole ≠ [0]) (below : digit < 10)
    (shown : before = (Numeral.finish ⟨isNegative, whole, none, none⟩).text style) :
    Pending (.inNumeral .whole ⟨isNegative, digit :: whole, none, none⟩)
      (before ++ [digit.digitChar]) := by
  have longer := isWhole_append isWhole (by simpa using notZero) below
  rw [← List.reverse_cons] at longer
  have notNil : whole ≠ [] := by simpa using isWhole.1.1
  refine .numeral style (.whole longer (by simp [notNil])) ?_
  rw [shown, text_finish, text_finish, digitChars_reverse_cons]
  simp [Numeral.fractionText, Numeral.exponentText]

/-- A point goes on with a whole number. -/
theorem pending_point (isWhole : Numeral.IsWhole whole.reverse)
    (shown : before = (Numeral.finish ⟨isNegative, whole, none, none⟩).text style) :
    Pending (.inNumeral .point ⟨isNegative, whole, some [], none⟩) (before ++ ['.']) := by
  refine .numeral style (.point isWhole) ?_
  rw [shown, text_finish, text_finish]
  simp [Numeral.fractionText, Numeral.exponentText, digitChars]

/-- A letter goes on with a numeral that has no exponent. -/
theorem pending_mark {fraction : Option (List Nat)} {c : Char}
    (isWhole : Numeral.IsWhole whole.reverse)
    (areDigits : ∀ digits ∈ fraction, AreDigits digits)
    (shown : before = (Numeral.finish ⟨isNegative, whole, fraction, none⟩).text style)
    (isMark : (c == 'e' || c == 'E') = true) :
    Pending (.inNumeral .exponentMark ⟨isNegative, whole, fraction, some (false, [])⟩)
      (before ++ [c]) := by
  rw [Bool.or_eq_true, beq_iff_eq, beq_iff_eq] at isMark
  refine .numeral ⟨c == 'E', false⟩ (.exponentMark isWhole areDigits rfl) ?_
  rw [shown, text_finish, text_finish]
  rcases isMark with rfl | rfl <;>
    simp [Numeral.exponentText, Numeral.Style.mark, Numeral.Style.exponentSign, digitChars]

theorem pending_fraction {digits : List Nat} {digit : Nat}
    (isWhole : Numeral.IsWhole whole.reverse) (bounded : ∀ listed ∈ digits, listed < 10)
    (below : digit < 10)
    (shown : before = (Numeral.finish ⟨isNegative, whole, some digits, none⟩).text style) :
    Pending (.inNumeral .fraction ⟨isNegative, whole, some (digit :: digits), none⟩)
      (before ++ [digit.digitChar]) := by
  refine .numeral style (.fraction isWhole (areDigits_cons below bounded)) ?_
  rw [shown, text_finish, text_finish]
  simp [Numeral.fractionText, Numeral.exponentText, digitChars]

/-- A sign goes on with an exponent that has none. -/
theorem pending_exponentSign {fraction : Option (List Nat)} {c : Char} {sign : Bool}
    (isWhole : Numeral.IsWhole whole.reverse)
    (areDigits : ∀ digits ∈ fraction, AreDigits digits) (noPlus : style.hasPlus = false)
    (isSign : c = if sign then '-' else '+')
    (shown : before = (Numeral.finish ⟨isNegative, whole, fraction, some (false, [])⟩).text style) :
    Pending (.inNumeral .exponentSign ⟨isNegative, whole, fraction, some (sign, [])⟩)
      (before ++ [c]) := by
  refine .numeral ⟨style.isCapital, true⟩ (.exponentSign isWhole areDigits) ?_
  rw [shown, text_finish, text_finish, isSign]
  cases sign <;>
    simp [Numeral.exponentText, Numeral.Style.mark, Numeral.Style.exponentSign, digitChars, noPlus]

theorem pending_exponent {sign : Bool} {fraction : Option (List Nat)} {digits : List Nat}
    {digit : Nat} (isWhole : Numeral.IsWhole whole.reverse)
    (areDigits : ∀ digits ∈ fraction, AreDigits digits)
    (bounded : ∀ listed ∈ digits, listed < 10) (below : digit < 10)
    (shown : before = (Numeral.finish ⟨isNegative, whole, fraction, some (sign, digits)⟩).text
      style) :
    Pending (.inNumeral .exponent ⟨isNegative, whole, fraction, some (sign, digit :: digits)⟩)
      (before ++ [digit.digitChar]) := by
  refine .numeral style (.exponent isWhole areDigits (areDigits_cons below bounded)) ?_
  rw [shown, text_finish, text_finish]
  simp [Numeral.exponentText, digitChars]

theorem forall_mem_none {α : Type} (p : α → Prop) : ∀ a ∈ (none : Option α), p a :=
  fun a member => absurd member (Option.not_mem_none a)

/-- The step within a numeral. -/
theorem advances_numeral {place : NumeralPlace} {numeral : Numeral}
    (isHeld : numeral.IsHeldAt place style) (shown : before = numeral.finish.text style)
    (c : Char) :
    Advances before c (numeralStep place numeral c) ∨
      Restarts before c (numeralStep place numeral c) := by
  cases isHeld with
  | sign =>
      left
      simp only [numeralStep]
      split_ifs with zero isDigit
      · rw [beq_iff_eq] at zero
        subst zero shown
        exact .waits (.numeral style .zero rfl)
      · obtain ⟨digit, below, value, rfl⟩ := exists_digitChar isDigit
        have leads : digit ≠ 0 := by
          rintro rfl
          exact zero rfl
        rw [value, shown]
        have isWhole := isWhole_singleton below leads
        exact .waits (.numeral style (.whole isWhole (by simpa using leads)) rfl)
      · exact .doomed (isDoomed_cut _)
  | zero =>
      have isWhole : Numeral.IsWhole [0] := ⟨by simp [AreDigits], fun _ => rfl⟩
      simp only [numeralStep]
      split_ifs with isDigit isPoint isMark
      · exact .inl (.doomed (isDoomed_cut _))
      · rw [beq_iff_eq.mp isPoint]
        exact .inl (.waits (pending_point isWhole shown))
      · exact .inl (.waits (pending_mark isWhole (forall_mem_none _) shown isMark))
      · exact advances_afterNumeral
          (spells_numeral isWhole (forall_mem_none _) (forall_mem_none _) shown) isDigit
  | whole isWhole notZero =>
      simp only [numeralStep]
      split_ifs with isDigit isPoint isMark
      · obtain ⟨digit, below, value, rfl⟩ := exists_digitChar isDigit
        rw [value]
        exact .inl (.waits (pending_whole isWhole notZero below shown))
      · rw [beq_iff_eq.mp isPoint]
        exact .inl (.waits (pending_point isWhole shown))
      · exact .inl (.waits (pending_mark isWhole (forall_mem_none _) shown isMark))
      · exact advances_afterNumeral
          (spells_numeral isWhole (forall_mem_none _) (forall_mem_none _) shown) isDigit
  | point isWhole =>
      left
      simp only [numeralStep]
      split_ifs with isDigit
      · obtain ⟨digit, below, value, rfl⟩ := exists_digitChar isDigit
        rw [value]
        exact .waits (pending_fraction isWhole (List.forall_mem_nil _) below shown)
      · exact .doomed (isDoomed_cut _)
  | fraction isWhole areDigits =>
      simp only [numeralStep]
      split_ifs with isDigit isMark
      · obtain ⟨digit, below, value, rfl⟩ := exists_digitChar isDigit
        rw [value]
        exact .inl (.waits (pending_fraction isWhole areDigits.2 below shown))
      · refine .inl (.waits (pending_mark isWhole ?_ shown isMark))
        rintro _ ⟨⟩
        exact areDigits
      · refine advances_afterNumeral (spells_numeral isWhole ?_ (forall_mem_none _) shown) isDigit
        rintro _ ⟨⟩
        exact areDigits
  | exponentMark isWhole areDigits noPlus =>
      left
      simp only [numeralStep]
      split_ifs with isPlus isMinus isDigit
      · have isSign : c = if false then '-' else '+' := beq_iff_eq.mp isPlus
        exact .waits (pending_exponentSign isWhole areDigits noPlus isSign shown)
      · have isSign : c = if true then '-' else '+' := beq_iff_eq.mp isMinus
        exact .waits (pending_exponentSign isWhole areDigits noPlus isSign shown)
      · obtain ⟨digit, below, value, rfl⟩ := exists_digitChar isDigit
        rw [value]
        exact .waits (pending_exponent isWhole areDigits (List.forall_mem_nil _) below shown)
      · exact .doomed (isDoomed_cut _)
  | exponentSign isWhole areDigits =>
      left
      simp only [numeralStep]
      split_ifs with isDigit
      · obtain ⟨digit, below, value, rfl⟩ := exists_digitChar isDigit
        rw [value]
        exact .waits (pending_exponent isWhole areDigits (List.forall_mem_nil _) below shown)
      · exact .doomed (isDoomed_cut _)
  | exponent isWhole areDigits exponentDigits =>
      simp only [numeralStep]
      split_ifs with isDigit
      · obtain ⟨digit, below, value, rfl⟩ := exists_digitChar isDigit
        rw [value]
        exact .inl (.waits (pending_exponent isWhole areDigits exponentDigits.2 below shown))
      · refine advances_afterNumeral (spells_numeral isWhole areDigits ?_ shown) isDigit
        rintro _ ⟨⟩
        exact exponentDigits

end Numeral

/-! ## Runs -/

theorem forall₂_concat {pieces : List Piece} {spellings : List (List Char)} {piece : Piece}
    {spelling : List Char} (spelled : List.Forall₂ Piece.Spells pieces.reverse spellings)
    (last : piece.Spells spelling) :
    List.Forall₂ Piece.Spells (piece :: pieces).reverse (spellings ++ [spelling]) := by
  rw [List.reverse_cons]
  exact List.rel_append spelled (.cons last .nil)

theorem mem_escapes_of_unescape? {letter c : Char} (stands : unescape? letter = some c) :
    (letter, c) ∈ escapes := by
  rw [unescape?] at stands
  split_ifs at stands with itself
  · obtain rfl := Option.some.inj stands
    simp only [Bool.or_eq_true, decide_eq_true_eq] at itself
    rcases itself with (rfl | rfl) | rfl <;> decide
  all_goals
    obtain rfl := Option.some.inj stands
    subst letter
    decide

/-- Four digits are a code. -/
theorem spells_code {written : List Char} {digits : List Nat} {c : Char} {digit : Nat}
    (isCode : List.Forall₂ (Text.IsDigit 16) written digits.reverse) (full : digits.length = 3)
    (isDigit : Text.IsDigit 16 c digit) :
    (Piece.unit ((digits.reverse ++ [digit]).foldl (fun n digit => n * 16 + digit) 0)).Spells
      ('\\' :: 'u' :: (written ++ [c])) := by
  obtain ⟨i, j, k, inOrder⟩ := List.length_eq_three.mp (List.length_reverse.trans full)
  rw [inOrder] at isCode ⊢
  match isCode with
  | .cons isFirst (.cons isSecond (.cons isThird .nil)) =>
    have code := Piece.Spells.code isFirst isSecond isThird isDigit
    simpa using code

/-- The step after a part of a spelling. -/
theorem advances_step {state : LexState} {before : List Char} (pending : Pending state before)
    (c : Char) : Advances before c (state.step c) ∨ Restarts before c (state.step c) := by
  cases pending with
  | between => exact .inl (advances_start c)
  | @word token expected before rest spelled solid =>
      left
      rw [step]
      split_ifs with differs isLast
      · exact .doomed (isDoomed_cut _)
      · rw [List.isEmpty_iff] at isLast
        rw [not_not] at differs
        subst differs isLast
        exact .ends spelled solid
      · rw [not_not] at differs
        subst differs
        obtain ⟨next, others, rfl⟩ := List.exists_cons_of_ne_nil (by simpa using isLast)
        exact .waits (.word (by simpa using spelled) solid)
  | numeral style isHeld shown => exact advances_numeral isHeld shown c
  | @text pieces spellings _ spelled shown =>
      left
      subst shown
      rw [step]
      split_ifs with quote backslash control
      · subst quote
        exact .ends (.text spelled) fun _ => trivial
      · subst backslash
        exact .waits (.backslash spelled rfl)
      · exact .doomed (isDoomed_cutText _)
      · have plain := Piece.Spells.plain (Nat.le_of_not_lt control) quote backslash
        exact .waits (.text (forall₂_concat spelled plain) (by simp))
  | @backslash pieces spellings _ spelled shown =>
      left
      subst shown
      rw [step]
      split_ifs with code
      · subst code
        exact .waits (.code spelled (by simp) .nil (by simp))
      · split
        · rename_i stands escaped
          have escape := Piece.Spells.escape (mem_escapes_of_unescape? escaped)
          exact .waits (.text (forall₂_concat spelled escape) (by simp))
        · exact .doomed (isDoomed_cutText _)
  | @code pieces spellings digits _ written spelled few isCode shown =>
      left
      subst shown
      rw [step]
      split
      · rename_i digit valued
        have isDigit := (Text.digitValue?_eq_some_iff (Nat.le_refl 16)).mp valued
        split_ifs with full
        · have code := spells_code isCode full isDigit
          exact .waits (.text (forall₂_concat spelled code) (by simp))
        · have longer :
              List.Forall₂ (Text.IsDigit 16) (written ++ [c]) (digit :: digits).reverse := by
            rw [List.reverse_cons]
            exact List.rel_append isCode (.cons isDigit .nil)
          have stillFew : (digit :: digits).length < 4 := by
            rw [List.length_cons]
            omega
          exact .waits (.code spelled stillFew longer (by simp))
      · dsimp only
        split_ifs
        · exact .doomed (isDoomed_cutText _)
        · exact .doomed (isDoomed_badCode _ _)

/-- What the end of a text completes is spelled in what is pending. -/
theorem laidOut_finish {state : LexState} {before : List Char} (pending : Pending state before)
    (uncut : ∀ token ∈ state.finish, ¬token.IsCut) : LaidOut state.finish before := by
  have lone : ∀ {token spelling}, Token.Spells token spelling → LaidOut [token] spelling := by
    intro token spelling spelled
    have apart : token.StandsBefore [] := by cases token <;> trivial
    have laidOut := LaidOut.token spelled apart .nil
    rwa [List.append_nil] at laidOut
  cases pending with
  | between => exact .nil
  | word | text | backslash | code => exact absurd trivial (uncut _ (List.mem_singleton_self _))
  | numeral style isHeld shown =>
      cases isHeld with
      | sign | point | exponentMark | exponentSign =>
          exact absurd trivial (uncut _ (List.mem_singleton_self _))
      | zero =>
          have isWhole : Numeral.IsWhole [0] := ⟨by simp [AreDigits], fun _ => rfl⟩
          exact lone (spells_numeral isWhole nofun nofun shown)
      | whole isWhole => exact lone (spells_numeral isWhole nofun nofun shown)
      | fraction isWhole areDigits =>
          refine lone (spells_numeral isWhole ?_ nofun shown)
          rintro _ ⟨⟩
          exact areDigits
      | exponent isWhole areDigits exponentDigits =>
          refine lone (spells_numeral isWhole areDigits ?_ shown)
          rintro _ ⟨⟩
          exact exponentDigits

section Runs

variable {c : Char} {rest : List Char}
  (later : ∀ {state before}, Pending state before →
    (∀ token ∈ tokensFrom state rest, ¬token.IsCut) →
      LaidOut (tokensFrom state rest) (before ++ rest))

include later

theorem laidOut_of_advances {before : List Char} {result : List Token × LexState}
    (advances : Advances before c result)
    (uncut : ∀ token ∈ result.1 ++ tokensFrom result.2 rest, ¬token.IsCut) :
    LaidOut (result.1 ++ tokensFrom result.2 rest) (before ++ c :: rest) := by
  rw [List.forall_mem_append] at uncut
  cases advances with
  | blank nothing isBlank =>
      subst nothing
      exact .blank isBlank (later .between uncut.2)
  | waits pending =>
      have laidOut := later pending uncut.2
      rwa [List.append_assoc] at laidOut
  | ends spelled solid =>
      have laidOut := LaidOut.token spelled (solid rest) (later .between uncut.2)
      rwa [List.append_assoc] at laidOut
  | doomed isDoomed =>
      obtain ⟨token, listed, isCut⟩ := isDoomed rest
      rcases List.mem_append.mp listed with inStep | inRest
      · exact absurd isCut (uncut.1 token inStep)
      · exact absurd isCut (uncut.2 token inRest)

theorem laidOut_of_restarts {before : List Char} {result : List Token × LexState}
    (restarts : Restarts before c result)
    (uncut : ∀ token ∈ result.1 ++ tokensFrom result.2 rest, ¬token.IsCut) :
    LaidOut (result.1 ++ tokensFrom result.2 rest) (before ++ c :: rest) := by
  obtain ⟨numeral, spelled, apart, rfl⟩ := restarts
  obtain ⟨_, uncutLater⟩ := List.forall_mem_cons.mp uncut
  exact .token spelled apart (laidOut_of_advances later (advances_start c) uncutLater)

end Runs

/-- From what is pending on, a text without a cut lays out the tokens that it is read as. -/
theorem laidOut_tokensFrom {state : LexState} {before : List Char} (pending : Pending state before)
    (rest : List Char) (uncut : ∀ token ∈ tokensFrom state rest, ¬token.IsCut) :
    LaidOut (tokensFrom state rest) (before ++ rest) := by
  -- A character that ends a numeral is read a second time, as the start of what follows.
  induction rest generalizing state before with
  | nil =>
      rw [List.append_nil]
      exact laidOut_finish pending uncut
  | cons c rest ih =>
      rcases advances_step pending c with advances | restarts
      · exact laidOut_of_advances ih advances uncut
      · exact laidOut_of_restarts ih restarts uncut

/-- A text lays out tokens without a cut exactly if it is read as these. -/
theorem tokensFrom_eq_iff_laidOut {tokens : List Token} (uncut : ∀ token ∈ tokens, ¬token.IsCut)
    {text : List Char} : tokensFrom .between text = tokens ↔ LaidOut tokens text := by
  constructor
  · rintro rfl
    exact laidOut_tokensFrom .between text uncut
  · exact tokensFrom_laidOut

end ProtoSchema.Json
