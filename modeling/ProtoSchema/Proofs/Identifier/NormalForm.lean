import ProtoSchema.Proofs.Identifier.Words
import ProtoSchema.Proofs.Text.Trim

/-!
# Normal forms of names

On ASCII text the two case mappings change each character by itself and leave it a letter,
a digit, a separator or white space as it was. A word in one case is therefore a single
word still, and the words of a joined name are the words that it was joined from, in the
case of the style. So a name in either style is a normal form: joining it again in the same
style changes nothing, and the style of a name shows nothing of the one it had before.
-/

namespace ProtoSchema

namespace Text

/-! ## ASCII text -/

/-- A text of ASCII characters. -/
def IsAscii (text : List Char) : Prop :=
  ∀ c ∈ text, c.toNat < 0x80

/-- A text of blanks and visible ASCII characters. -/
def IsPrintable (text : List Char) : Prop :=
  ∀ c ∈ text, 0x20 ≤ c.toNat ∧ c.toNat ≤ 0x7E

instance (text : List Char) : Decidable (IsPrintable text) :=
  List.decidableBAll (fun c : Char => 0x20 ≤ c.toNat ∧ c.toNat ≤ 0x7E) text

theorem IsPrintable.isAscii {text : List Char} (printable : IsPrintable text) : IsAscii text :=
  fun c member => Nat.lt_of_le_of_lt (printable c member).2 (by decide)

theorem lowercaseAfter_eq_map {text : List Char} (ascii : IsAscii text) (before : List Char) :
    lowercaseAfter before text = text.map Char.toLower := by
  induction text generalizing before with
  | nil => rfl
  | cons c rest ih =>
      have heads := List.forall_mem_cons.mp ascii
      have noSigma : c ≠ 'Σ' := by
        rintro rfl
        exact absurd heads.1 (by decide)
      rw [lowercaseAfter, if_neg noSigma, lowercaseChar, if_pos heads.1, ih heads.2]
      rfl

theorem lowercase_eq_map {text : List Char} (ascii : IsAscii text) :
    lowercase text = text.map Char.toLower :=
  lowercaseAfter_eq_map ascii []

theorem uppercase_eq_map {text : List Char} (ascii : IsAscii text) :
    uppercase text = text.map Char.toUpper := by
  have single : ∀ c ∈ text, uppercaseChar c = [c.toUpper] := by
    intro c member
    rw [uppercaseChar, if_pos (ascii c member)]
  rw [uppercase, ← List.flatMap_pure_eq_map]
  exact List.flatMap_congr single

theorem mem_of_mem_trim {text : List Char} {c : Char} (member : c ∈ trim text) : c ∈ text := by
  obtain ⟨before, after, _, _, parts⟩ := exists_blank_append_trim text
  rw [parts]
  exact List.mem_append_left _ (List.mem_append_right _ member)

theorem isAscii_trim {text : List Char} (ascii : IsAscii text) : IsAscii (trim text) :=
  fun c member => ascii c (mem_of_mem_trim member)

theorem trim_of_isSolid {text : List Char} (solid : IsSolid text) : trim text = text := by
  have blank : IsBlank [] := fun _ member => absurd member List.not_mem_nil
  simpa using trim_between_blanks blank blank solid

end Text

namespace Identifier

open Text

theorem isAscii_of_mem_words {text word : List Char} (ascii : IsAscii text)
    (isWord : word ∈ words text) : IsAscii word :=
  fun c member => ascii c (mem_of_mem_words isWord member)

/-! ## Case mappings -/

/-- Characters that word splitting and trimming treat alike, letter case apart. -/
def SameKind (a b : Char) : Prop :=
  isSeparator a = isSeparator b ∧ isAlphabetic a = isAlphabetic b ∧
    isNumeric a = isNumeric b ∧ isWhiteSpace a = isWhiteSpace b

instance (a b : Char) : Decidable (SameKind a b) :=
  inferInstanceAs (Decidable (_ ∧ _))

/-- A case mapping that changes ASCII characters one by one, within their kinds, and leaves
letters of one case only. -/
structure MapsAscii (mapCase : List Char → List Char) (change : Char → Char) : Prop where
  map_eq : ∀ {text}, IsAscii text → mapCase text = text.map change
  ascii : ∀ {c : Char}, c.toNat < 0x80 → (change c).toNat < 0x80
  sameKind : ∀ {c : Char}, c.toNat < 0x80 → SameKind (change c) c
  oneCase : (∀ {c : Char}, c.toNat < 0x80 → isUppercase (change c) = false) ∨
    ∀ {c : Char}, c.toNat < 0x80 → isLowercase (change c) = false

theorem mapsAscii_lowercase : MapsAscii lowercase Char.toLower where
  map_eq := lowercase_eq_map
  ascii := forall_ascii (p := fun c => c.toLower.toNat < 0x80) (by decide)
  sameKind := forall_ascii (p := fun c => SameKind c.toLower c) (by decide)
  oneCase := .inl (forall_ascii (p := fun c => isUppercase c.toLower = false) (by decide))

theorem mapsAscii_uppercase : MapsAscii uppercase Char.toUpper where
  map_eq := uppercase_eq_map
  ascii := forall_ascii (p := fun c => c.toUpper.toNat < 0x80) (by decide)
  sameKind := forall_ascii (p := fun c => SameKind c.toUpper c) (by decide)
  oneCase := .inr (forall_ascii (p := fun c => isLowercase c.toUpper = false) (by decide))

theorem not_isWhiteSpace_of_printable {c : Char} (printable : 0x20 ≤ c.toNat ∧ c.toNat ≤ 0x7E)
    (noSeparator : isSeparator c = false) : isWhiteSpace c = false := by
  have ascii : c.toNat < 0x80 := Nat.lt_of_le_of_lt printable.2 (by decide)
  exact forall_ascii (p := fun c => 0x20 ≤ c.toNat → isSeparator c = false →
    isWhiteSpace c = false) (by decide) ascii printable.1 noSeparator

theorem mem_of_mem_intercalate {list : List (List Char)} {c : Char}
    (member : c ∈ ['_'].intercalate list) : c = '_' ∨ ∃ word ∈ list, c ∈ word := by
  induction list with
  | nil => exact absurd member List.not_mem_nil
  | cons word rest ih =>
      cases rest with
      | nil => exact .inr ⟨word, List.mem_cons_self, by simpa using member⟩
      | cons next others =>
          rw [List.intercalate_cons_cons, List.mem_append, List.mem_append,
            List.mem_singleton] at member
          rcases member with (inWord | same) | inRest
          · exact .inr ⟨word, List.mem_cons_self, inWord⟩
          · exact .inl same
          · refine (ih inRest).imp_right ?_
            rintro ⟨later, listed, inLater⟩
            exact ⟨later, List.mem_cons_of_mem _ listed, inLater⟩

namespace MapsAscii

variable {mapCase : List Char → List Char} {change : Char → Char}
  (maps : MapsAscii mapCase change) {word text : List Char}
include maps

theorem isAscii_map (ascii : IsAscii text) : IsAscii (text.map change) := by
  rw [IsAscii, List.forall_mem_map]
  exact fun c member => maps.ascii (ascii c member)

theorem isWord_map (ascii : IsAscii word) (isWord : IsWord word) : IsWord (word.map change) := by
  refine ⟨by simpa using isWord.1, ?_⟩
  rw [List.forall_mem_map]
  exact fun c member => (maps.sameKind (ascii c member)).1.trans (isWord.2 c member)

theorem isOfOneKind_map (ascii : IsAscii word) (oneKind : IsOfOneKind word) :
    IsOfOneKind (word.map change) := by
  rw [IsOfOneKind, List.isChain_map]
  refine oneKind.imp_of_mem_imp fun a b memberA memberB kept => ?_
  obtain ⟨_, alphabeticA, numericA, _⟩ := maps.sameKind (ascii a memberA)
  obtain ⟨_, alphabeticB, numericB, _⟩ := maps.sameKind (ascii b memberB)
  rw [changesKind, alphabeticA, numericA, alphabeticB, numericB]
  exact kept

theorem isOfOneCase_map (ascii : IsAscii word) : IsOfOneCase (word.map change) := by
  rw [IsOfOneCase, List.forall_mem_map, List.forall_mem_map]
  exact maps.oneCase.imp (fun none c member => none (ascii c member))
    fun none c member => none (ascii c member)

/-- A word in the letters of one case is a single word. -/
theorem words_of_mem_words (ascii : IsAscii text) (isWord : word ∈ words text) :
    words (mapCase word) = [mapCase word] := by
  have asciiWord := isAscii_of_mem_words ascii isWord
  rw [maps.map_eq asciiWord]
  exact words_eq_singleton (maps.isWord_map asciiWord (isWord_of_mem_words isWord))
    (maps.isOfOneKind_map asciiWord (isOfOneKind_of_mem_words isWord))
    (maps.isOfOneCase_map asciiWord)

/-- A joined name is made of underscores and changed characters of the text. -/
theorem mem_joinWords (ascii : IsAscii text) {c : Char}
    (member : c ∈ joinWords mapCase text) :
    c = '_' ∨ ∃ d ∈ text, isSeparator d = false ∧ c = change d := by
  refine (mem_of_mem_intercalate member).imp_right ?_
  rintro ⟨_, listed, inMapped⟩
  obtain ⟨word, isWord, rfl⟩ := List.mem_map.mp listed
  rw [maps.map_eq (isAscii_of_mem_words (isAscii_trim ascii) isWord)] at inMapped
  obtain ⟨d, inWord, rfl⟩ := List.mem_map.mp inMapped
  have inText : d ∈ text := mem_of_mem_trim (mem_of_mem_words isWord inWord)
  exact ⟨d, inText, (isWord_of_mem_words isWord).2 d inWord, rfl⟩

/-- A joined name holds no white space, since a blank separates words. -/
theorem isSolid_joinWords (printable : IsPrintable text) : IsSolid (joinWords mapCase text) := by
  intro c member
  rcases maps.mem_joinWords printable.isAscii member with rfl | ⟨d, inText, noSeparator, rfl⟩
  · decide
  · rw [(maps.sameKind (printable.isAscii d inText)).2.2.2]
    exact not_isWhiteSpace_of_printable (printable d inText) noSeparator

variable {name : String}

/-- The words of a joined name are the ones that it was joined from. -/
theorem words_joinWords (printable : IsPrintable name.toList) :
    words (trim (String.ofList (joinWords mapCase name.toList)).toList) =
      (words (trim name.toList)).map mapCase := by
  rw [String.toList_ofList, trim_of_isSolid (maps.isSolid_joinWords printable)]
  refine words_intercalate (List.forall_mem_map.mpr fun word isWord => ?_)
  exact maps.words_of_mem_words (isAscii_trim printable.isAscii) isWord

/-- Joining again hides the earlier case where the later mapping does. -/
theorem joinWords_joinWords {mapAgain : List Char → List Char} {changeAgain : Char → Char}
    (again : MapsAscii mapAgain changeAgain)
    (absorbs : ∀ {c : Char}, c.toNat < 0x80 → changeAgain (change c) = changeAgain c)
    (printable : IsPrintable name.toList) :
    String.ofList (joinWords mapAgain (String.ofList (joinWords mapCase name.toList)).toList) =
      String.ofList (joinWords mapAgain name.toList) := by
  rw [joinWords, maps.words_joinWords printable, List.map_map, joinWords]
  congr 2
  refine List.map_congr_left fun word isWord => ?_
  have ascii := isAscii_of_mem_words (isAscii_trim printable.isAscii) isWord
  rw [Function.comp_apply, maps.map_eq ascii, again.map_eq (maps.isAscii_map ascii),
    again.map_eq ascii, List.map_map]
  exact List.map_congr_left fun c member => absorbs (ascii c member)

end MapsAscii

/-! ## Styles -/

variable {name : String}

theorem toLower_toLower : ∀ {c : Char}, c.toNat < 0x80 → c.toLower.toLower = c.toLower :=
  forall_ascii (p := fun c => c.toLower.toLower = c.toLower) (by decide)

theorem toLower_toUpper : ∀ {c : Char}, c.toNat < 0x80 → c.toUpper.toLower = c.toLower :=
  forall_ascii (p := fun c => c.toUpper.toLower = c.toLower) (by decide)

theorem toUpper_toLower : ∀ {c : Char}, c.toNat < 0x80 → c.toLower.toUpper = c.toUpper :=
  forall_ascii (p := fun c => c.toLower.toUpper = c.toUpper) (by decide)

theorem toUpper_toUpper : ∀ {c : Char}, c.toNat < 0x80 → c.toUpper.toUpper = c.toUpper :=
  forall_ascii (p := fun c => c.toUpper.toUpper = c.toUpper) (by decide)

section Printable

variable (printable : IsPrintable name.toList)
include printable

theorem snakeCase_snakeCase : snakeCase (snakeCase name) = snakeCase name :=
  mapsAscii_lowercase.joinWords_joinWords mapsAscii_lowercase toLower_toLower printable

/-- A name in snake case is in small letters already. -/
theorem lowercase_snakeCase : lowercase (snakeCase name).toList = (snakeCase name).toList := by
  rw [snakeCase, String.toList_ofList]
  have small : ∀ c ∈ joinWords lowercase name.toList, c.toNat < 0x80 ∧ c.toLower = c := by
    intro c member
    rcases mapsAscii_lowercase.mem_joinWords printable.isAscii member with
      rfl | ⟨d, inName, _, rfl⟩
    · decide
    · have ascii := printable.isAscii d inName
      exact ⟨mapsAscii_lowercase.ascii ascii, toLower_toLower ascii⟩
  rw [lowercase_eq_map fun c member => (small c member).1]
  exact (List.map_congr_left fun c member => (small c member).2).trans (List.map_id' _)

theorem fieldName_fieldName : fieldName (fieldName name) = fieldName name := by
  by_cases two : name.length = 2
  · have short : fieldName name = String.ofList (name.toList.map Char.toLower) := by
      rw [fieldName, if_pos two, lowercase_eq_map printable.isAscii]
    have again : (fieldName name).length = 2 := by
      rw [short, String.length_ofList, List.length_map]
      exact two
    rw [fieldName, if_pos again, short, String.toList_ofList,
      lowercase_eq_map (mapsAscii_lowercase.isAscii_map printable.isAscii), List.map_map]
    exact congrArg String.ofList
      (List.map_congr_left fun c member => toLower_toLower (printable.isAscii c member))
  · have long : fieldName name = snakeCase name := by rw [fieldName, if_neg two]
    rw [long, fieldName]
    split
    · rw [lowercase_snakeCase printable, String.ofList_toList]
    · exact snakeCase_snakeCase printable

end Printable

/-- The styles are normal forms of printable names: their words are the words of the name
in the case of the style, so that each style takes in itself and the other, and a field
name stays as it is, also one of two characters. -/
theorem normal_forms (name : String) (printable : IsPrintable name.toList) :
    let split := fun (name : String) => words (trim name.toList)
    split (snakeCase name) = (split name).map lowercase ∧
      split (screamingSnakeCase name) = (split name).map uppercase ∧
      snakeCase (snakeCase name) = snakeCase name ∧
      screamingSnakeCase (screamingSnakeCase name) = screamingSnakeCase name ∧
      snakeCase (screamingSnakeCase name) = snakeCase name ∧
      screamingSnakeCase (snakeCase name) = screamingSnakeCase name ∧
      fieldName (fieldName name) = fieldName name :=
  ⟨mapsAscii_lowercase.words_joinWords printable, mapsAscii_uppercase.words_joinWords printable,
    snakeCase_snakeCase printable,
    mapsAscii_uppercase.joinWords_joinWords mapsAscii_uppercase toUpper_toUpper printable,
    mapsAscii_uppercase.joinWords_joinWords mapsAscii_lowercase toLower_toUpper printable,
    mapsAscii_lowercase.joinWords_joinWords mapsAscii_uppercase toUpper_toLower printable,
    fieldName_fieldName printable⟩

/-- An acronym before a word, a letter before a digit, separators in a row and a mark that
is none, between blanks; and a name whose snake case has two characters. -/
theorem normal_forms_mixed :
    let name := " HTTPServer2__x-IDs!.v "
    IsPrintable name.toList ∧ IsPrintable ".Ab".toList ∧
      words (trim (snakeCase name).toList) =
        ["http", "server", "2", "x", "i", "ds!", "v"].map String.toList ∧
      snakeCase (screamingSnakeCase name) = "http_server_2_x_i_ds!_v" ∧
      fieldName (fieldName ".Ab") = "ab" := by
  intro name
  have printable : IsPrintable name.toList := by decide
  have printableShort : IsPrintable ".Ab".toList := by decide
  obtain ⟨small, _, _, _, smallOfCapital, _⟩ := normal_forms name printable
  obtain ⟨_, _, _, _, _, _, field⟩ := normal_forms ".Ab" printableShort
  exact ⟨printable, printableShort, small.trans (by decide), smallOfCapital.trans (by decide),
    field.trans (by decide)⟩

end Identifier

end ProtoSchema
