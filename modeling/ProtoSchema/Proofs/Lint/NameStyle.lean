import ProtoSchema.Lint.Rule
import ProtoSchema.Proofs.Catalog.MemberNames
import ProtoSchema.Proofs.Catalog.MessageNames
import ProtoSchema.Proofs.Identifier.NormalForm

/-!
# The style of standard names

An identifier of ASCII letters, digits and underscores that starts with a letter is in snake
case as a field name and in screaming snake case as the name of an enum value: its first
word starts with its first letter, and nothing but changed letters, digits and underscores
comes into a joined name. The names of messages, enumerations and maps are those of the
declarations, and so they are all that the naming convention can object to.
-/

namespace ProtoSchema

namespace Identifier

open Text

/-- A letter, and then letters, digits and underscores, all of them ASCII. -/
def IsIdentifier (name : String) : Prop :=
  (∃ first ∈ name.toList.head?, first.isAlpha = true) ∧
    ∀ c ∈ name.toList.tail, c.isAlphanum = true ∨ c = '_'

instance (name : String) : Decidable (IsIdentifier name) :=
  decidable_of_iff
    (name.toList.head?.any Char.isAlpha = true ∧
      name.toList.tail.all fun c => c.isAlphanum || c == '_')
    (by simp [IsIdentifier, Option.any_eq_true])

/-- Starts with a letter of a case and goes on in such letters, digits and underscores. -/
def IsStyled (isLetter : Char → Bool) (text : List Char) : Prop :=
  text.head?.any isLetter = true ∧
    ∀ c ∈ text, isLetter c = true ∨ c.isDigit = true ∨ c = '_'

/-- A change of ASCII characters that turns letters into letters of a case and keeps digits
and underscores. -/
structure Styles (change : Char → Char) (isLetter : Char → Bool) : Prop where
  letter : ∀ {c : Char}, c.toNat < 0x80 → c.isAlpha = true → isLetter (change c) = true
  other : ∀ {c : Char}, c.toNat < 0x80 → c.isAlphanum = true ∨ c = '_' →
    isLetter (change c) = true ∨ (change c).isDigit = true ∨ change c = '_'

theorem styles_toLower : Styles Char.toLower Char.isLower where
  letter := forall_ascii (p := fun c => c.isAlpha = true → c.toLower.isLower = true) (by decide)
  other := forall_ascii (p := fun c => c.isAlphanum = true ∨ c = '_' →
    c.toLower.isLower = true ∨ c.toLower.isDigit = true ∨ c.toLower = '_') (by decide)

theorem styles_toUpper : Styles Char.toUpper Char.isUpper where
  letter := forall_ascii (p := fun c => c.isAlpha = true → c.toUpper.isUpper = true) (by decide)
  other := forall_ascii (p := fun c => c.isAlphanum = true ∨ c = '_' →
    c.toUpper.isUpper = true ∨ c.toUpper.isDigit = true ∨ c.toUpper = '_') (by decide)

/-! ## Identifiers -/

section Letters

variable {c : Char}

theorem ascii_of_isAlphanum (alphanumeric : c.isAlphanum = true) : c.toNat < 0x80 := by
  simp only [Char.isAlphanum, Char.isAlpha, Char.isUpper, Char.isLower, Char.isDigit,
    Bool.or_eq_true, Bool.and_eq_true, decide_eq_true_eq, UInt32.le_iff_toNat_le] at alphanumeric
  change ((65 ≤ c.toNat ∧ c.toNat ≤ 90) ∨ 97 ≤ c.toNat ∧ c.toNat ≤ 122) ∨
    48 ≤ c.toNat ∧ c.toNat ≤ 57 at alphanumeric
  omega

theorem isAlphanum_of_isAlpha (letter : c.isAlpha = true) : c.isAlphanum = true := by
  simp [Char.isAlphanum, letter]

theorem not_isSeparator_of_isAlpha (letter : c.isAlpha = true) : isSeparator c = false :=
  forall_ascii (p := fun c => c.isAlpha = true → isSeparator c = false) (by decide)
    (ascii_of_isAlphanum (isAlphanum_of_isAlpha letter)) letter

end Letters

variable {name : String}

theorem IsIdentifier.exists_cons (identifier : IsIdentifier name) :
    ∃ first rest, name.toList = first :: rest ∧ first.isAlpha = true ∧
      ∀ c ∈ rest, c.isAlphanum = true ∨ c = '_' := by
  obtain ⟨⟨first, isFirst, letter⟩, others⟩ := identifier
  obtain ⟨rest, parts⟩ := List.head?_eq_some_iff.mp isFirst
  rw [parts] at others
  exact ⟨first, rest, parts, letter, others⟩

theorem IsIdentifier.of_mem (identifier : IsIdentifier name) {c : Char}
    (member : c ∈ name.toList) : c.isAlphanum = true ∨ c = '_' := by
  obtain ⟨first, rest, parts, letter, others⟩ := identifier.exists_cons
  rw [parts] at member
  rcases List.mem_cons.mp member with rfl | inRest
  · exact .inl (isAlphanum_of_isAlpha letter)
  · exact others c inRest

theorem IsIdentifier.isAscii (identifier : IsIdentifier name) : IsAscii name.toList := by
  intro c member
  rcases identifier.of_mem member with alphanumeric | rfl
  · exact ascii_of_isAlphanum alphanumeric
  · decide

theorem IsIdentifier.isSolid (identifier : IsIdentifier name) : IsSolid name.toList :=
  fun c member => forall_ascii
    (p := fun c => c.isAlphanum = true ∨ c = '_' → isWhiteSpace c = false) (by decide)
    (identifier.isAscii c member) (identifier.of_mem member)

section Styled

variable {change : Char → Char} {isLetter : Char → Bool} (styles : Styles change isLetter)
include styles

/-- An identifier is styled character by character. -/
theorem Styles.isStyled_map (identifier : IsIdentifier name) :
    IsStyled isLetter (name.toList.map change) := by
  constructor
  · obtain ⟨first, rest, parts, letter, _⟩ := identifier.exists_cons
    rw [parts]
    exact styles.letter (ascii_of_isAlphanum (isAlphanum_of_isAlpha letter)) letter
  · rw [List.forall_mem_map]
    exact fun c member => styles.other (identifier.isAscii c member) (identifier.of_mem member)

/-- The first word of an identifier starts with its first letter, so the joined name does. -/
theorem Styles.isStyled_joinWords {mapCase : List Char → List Char}
    (maps : MapsAscii mapCase change) (identifier : IsIdentifier name) :
    IsStyled isLetter (joinWords mapCase name.toList) := by
  have ascii := identifier.isAscii
  constructor
  · rw [joinWords, trim_of_isSolid identifier.isSolid]
    obtain ⟨first, rest, parts, letter, _⟩ := identifier.exists_cons
    obtain ⟨word, others, found⟩ := exists_words_cons (not_isSeparator_of_isAlpha letter) rest
    have inName : first :: word ∈ words name.toList := by simp [parts, found]
    have asciiWord := isAscii_of_mem_words ascii inName
    have starts := styles.letter (asciiWord first List.mem_cons_self) letter
    rw [parts, found, List.map_cons, maps.map_eq asciiWord]
    cases others with
    | nil => simpa using starts
    | cons next later => simpa [List.intercalate_cons_cons] using starts
  · intro c member
    rcases maps.mem_joinWords ascii member with rfl | ⟨d, inName, _, rfl⟩
    · exact .inr (.inr rfl)
    · exact styles.other (ascii d inName) (identifier.of_mem inName)

end Styled

/-! ## The styles of the naming convention -/

theorem isSnakeCase_iff {name : String} :
    Lint.Style.isSnakeCase name = true ↔ IsStyled Char.isLower name.toList := by
  simp [Lint.Style.isSnakeCase, IsStyled, or_assoc]

theorem isScreamingSnakeCase_iff {name : String} :
    Lint.Style.isScreamingSnakeCase name = true ↔ IsStyled Char.isUpper name.toList := by
  simp [Lint.Style.isScreamingSnakeCase, IsStyled, or_assoc]

theorem isSnakeCase_fieldName (identifier : IsIdentifier name) :
    Lint.Style.isSnakeCase (fieldName name) = true := by
  rw [isSnakeCase_iff, fieldName]
  split
  · rw [String.toList_ofList, lowercase_eq_map identifier.isAscii]
    exact styles_toLower.isStyled_map identifier
  · rw [snakeCase, String.toList_ofList]
    exact styles_toLower.isStyled_joinWords mapsAscii_lowercase identifier

theorem isScreamingSnakeCase_enumValueName (identifier : IsIdentifier name) :
    Lint.Style.isScreamingSnakeCase (enumValueName name) = true := by
  rw [isScreamingSnakeCase_iff, enumValueName, screamingSnakeCase, String.toList_ofList]
  exact styles_toUpper.isStyled_joinWords mapsAscii_uppercase identifier

end Identifier

namespace Lint

/-- Does not start with an ASCII capital letter, or has an underscore. -/
def IsOutOfStyle (name : String) : Prop :=
  (¬∃ first ∈ name.toList.head?, 'A' ≤ first ∧ first ≤ 'Z') ∨ '_' ∈ name.toList

theorem isPascalCase_eq_false_iff {name : String} :
    Style.isPascalCase name = false ↔ IsOutOfStyle name := by
  have isCapital : ∀ c : Char, c.isUpper = true ↔ 'A' ≤ c ∧ c ≤ 'Z' := by
    intro c
    simp [Char.isUpper, Char.le_def]
  rw [← Bool.not_eq_true, Style.isPascalCase, Bool.and_eq_true, not_and_or, IsOutOfStyle]
  simp [Option.any_eq_true, isCapital]

instance (name : String) : Decidable (IsOutOfStyle name) :=
  decidable_of_iff _ isPascalCase_eq_false_iff

namespace Concern

/-- One concern for each name that is out of style. -/
def ofNames (concern : String → Concern) (names : List String) : List Concern :=
  (names.filter (IsOutOfStyle ·)).map concern

theorem ofNames_eq_flatMap (concern : String → Concern) (names : List String) :
    ofNames concern names =
      names.flatMap fun name => if Style.isPascalCase name then [] else [concern name] := by
  induction names with
  | nil => rfl
  | cons name rest ih =>
      rw [List.flatMap_cons, ← ih, ofNames, ofNames, List.filter_cons]
      by_cases outOfStyle : IsOutOfStyle name
      · simp [outOfStyle, isPascalCase_eq_false_iff.mpr outOfStyle]
      · have inStyle : Style.isPascalCase name = true := by
          simpa using mt isPascalCase_eq_false_iff.mp outOfStyle
        simp [outOfStyle, inStyle]

/-- If fields and enum values are in style, the names of messages, enumerations and maps are
all that is left to object to. -/
theorem names_eq {catalog : Catalog}
    (fields : ∀ message ∈ catalog.messages, ∀ field ∈ message.fields,
      Style.isSnakeCase field.name = true)
    (values : ∀ enumeration ∈ catalog.enums.values, ∀ value ∈ enumeration.values,
      Style.isScreamingSnakeCase value.name = true) :
    names catalog =
      ofNames .messageName (catalog.messages.map Message.name) ++
        ofNames .enumName (catalog.enums.values.map Enumeration.name) ++
        ofNames .mapName (catalog.maps.values.map MapType.name) := by
  rw [names, ofNames_eq_flatMap, ofNames_eq_flatMap, ofNames_eq_flatMap, List.flatMap_map,
    List.flatMap_map, List.flatMap_map]
  congr 1
  congr 1
  · refine List.flatMap_congr fun message stored => ?_
    have inStyle : message.fields.filter (!Style.isSnakeCase ·.name) = [] := by
      simpa using fields message stored
    rw [ofMessageNames, inStyle, List.map_nil, List.append_nil]
  · refine List.flatMap_congr fun enumeration stored => ?_
    have inStyle : enumeration.values.filter (!Style.isScreamingSnakeCase ·.name) = [] := by
      simpa using values enumeration stored
    rw [ofEnumNames, inStyle, List.map_nil, List.append_nil]

end Concern

end Lint

/-! ## Manifests -/

namespace Catalog

open Declaration Identifier Lint

theorem ofManifest_path (naming : Naming) (manifest : Manifest) :
    (ofManifest naming manifest).path = manifest.path :=
  ofDeclarations_path manifest.name manifest.path naming manifest.declarations

variable {manifest : Manifest}

/-- A field of the schema is named after an exported member of a struct. -/
theorem exists_member_of_mem_fields {message : Message} {field : Field}
    (stored : message ∈ (ofManifest .standard manifest).messages)
    (inMessage : field ∈ message.fields) :
    ∃ declaration ∈ manifest.declarations, ∃ member ∈ declaration.structMembers,
      member.isExported = true ∧ field.name = fieldName member.name := by
  have built := (messages_ofManifest_perm manifest).mem_iff.mp stored
  obtain ⟨declaration, isStruct, rfl⟩ := List.mem_map.mp built
  obtain ⟨index, below, rfl⟩ := List.mem_mapIdx.mp inMessage
  obtain ⟨inMembers, exported⟩ := List.mem_filter.mp (List.getElem_mem below)
  exact ⟨declaration, (of_mem_messageStructs isStruct).1, _, inMembers, exported, rfl⟩

/-- An enum value of the schema is named after a constant. -/
theorem exists_const_of_mem_values {enumeration : Enumeration} {value : EnumValue}
    (stored : enumeration ∈ (ofManifest .standard manifest).enums.values)
    (inEnum : value ∈ enumeration.values) :
    ∃ declaration ∈ manifest.declarations, declaration.isConst = true ∧
      value.name = enumValueName declaration.name := by
  obtain ⟨enumName, _, rfl⟩ := mem_enums_ofManifest.mp stored
  have collectedValue := List.mem_mergeSort.mp inEnum
  obtain ⟨declaration, admitted, read⟩ := List.mem_filterMap.mp collectedValue
  rw [enumValue?_eq, Option.map_eq_some_iff] at read
  obtain ⟨_, _, rfl⟩ := read
  obtain ⟨listed, isAdmitted⟩ := List.mem_filter.mp admitted
  simp only [isEnumConstant, isExportedConst, Bool.and_eq_true] at isAdmitted
  exact ⟨declaration, listed, isAdmitted.1.1.1.1.2, rfl⟩

/-- What the naming convention reports of a name. -/
def nameFinding (home part name : String) : Finding where
  rule := "naming-convention"
  severity := .warning
  package := home
  target := name
  message := part ++ " name " ++ Concern.quote name ++ " should be PascalCase"

/-- One finding for each name that is out of style. -/
def nameFindings (home part : String) (names : List String) : List Finding :=
  (names.filter (IsOutOfStyle ·)).map (nameFinding home part)

/-- If the exported struct members and the constants are named by ASCII identifiers, the
naming convention has nothing to say about fields and enum values; it reports each message,
enumeration and map whose name is out of style, once, and nothing else. -/
theorem namingConvention_ofManifest (manifest : Manifest)
    (members : ∀ declaration ∈ manifest.declarations, ∀ member ∈ declaration.structMembers,
      member.isExported = true → IsIdentifier member.name)
    (constants : ∀ declaration ∈ manifest.declarations, declaration.isConst = true →
      IsIdentifier declaration.name) :
    let catalog := ofManifest .standard manifest
    (∀ concern ∈ Rule.namingConvention.concerns catalog,
        (∀ message field, concern ≠ .fieldName message field) ∧
          ∀ enumeration value, concern ≠ .enumValueName enumeration value) ∧
      Rule.namingConvention.check catalog =
        nameFindings manifest.path "Message" (catalog.messages.map Message.name) ++
          nameFindings manifest.path "Enum" (catalog.enums.values.map Enumeration.name) ++
          nameFindings manifest.path "Map" (catalog.maps.values.map MapType.name) := by
  intro catalog
  have fields : ∀ message ∈ catalog.messages, ∀ field ∈ message.fields,
      Style.isSnakeCase field.name = true := by
    intro message stored field inMessage
    obtain ⟨declaration, listed, member, inStruct, exported, named⟩ :=
      exists_member_of_mem_fields stored inMessage
    rw [named]
    exact isSnakeCase_fieldName (members declaration listed member inStruct exported)
  have values : ∀ enumeration ∈ catalog.enums.values, ∀ value ∈ enumeration.values,
      Style.isScreamingSnakeCase value.name = true := by
    intro enumeration stored value inEnum
    obtain ⟨declaration, listed, const, named⟩ := exists_const_of_mem_values stored inEnum
    rw [named]
    exact isScreamingSnakeCase_enumValueName (constants declaration listed const)
  have concerns : Rule.namingConvention.concerns catalog = _ := Concern.names_eq fields values
  constructor
  · rw [concerns]
    simp only [Concern.ofNames, List.mem_append, List.mem_map]
    rintro _ ((⟨_, _, rfl⟩ | ⟨_, _, rfl⟩) | ⟨_, _, rfl⟩) <;> simp
  · have path : catalog.path = manifest.path := ofManifest_path .standard manifest
    rw [Rule.check, concerns, List.map_append, List.map_append, nameFindings, nameFindings,
      nameFindings, ← path]
    simp only [Concern.ofNames, List.map_map]
    rfl

/-- Fields of two characters, with underscores in a row and with digits, beside a member
that is not exported; an enum value; and a message and a map whose names are out of style. -/
theorem namingConvention_ofManifest_mixed :
    let integer := TypeExpr.basic "int"
    let declaration := fun (name : String) (declared : Declared) =>
      ({ name, package := "shop", exported := none, declared } : Declaration)
    let manifest : Manifest :=
      { name := "shop"
        path := "shop"
        declarations :=
          [declaration "order_item" (.type (.struct
              [.mk "ID" none "" integer, .mk "A__b9" none "" integer, .mk "4é" none "" integer])),
            declaration "levelLow" (.const (.named "shop" "Level" integer) "1"),
            declaration "index" (.type (.map integer integer))] }
    (∀ declaration ∈ manifest.declarations, ∀ member ∈ declaration.structMembers,
        member.isExported = true → IsIdentifier member.name) ∧
      (∀ declaration ∈ manifest.declarations, declaration.isConst = true →
        IsIdentifier declaration.name) ∧
      Rule.namingConvention.check (ofManifest .standard manifest) =
        [nameFinding "shop" "Message" "order_item", nameFinding "shop" "Map" "index"] := by
  intro integer declaration manifest
  have members : ∀ declaration ∈ manifest.declarations, ∀ member ∈ declaration.structMembers,
      member.isExported = true → IsIdentifier member.name := by
    decide
  have constants : ∀ declaration ∈ manifest.declarations, declaration.isConst = true →
      IsIdentifier declaration.name := by
    decide
  obtain ⟨_, reported⟩ := namingConvention_ofManifest manifest members constants
  have messages : (ofManifest .standard manifest).messages.map Message.name = ["order_item"] :=
    List.perm_singleton.mp ((map_name_ofManifest_perm manifest).trans (.of_eq (by decide)))
  have enums : (ofManifest .standard manifest).enums.values.map Enumeration.name = ["Level"] := by
    decide
  have maps : (ofManifest .standard manifest).maps.values.map MapType.name = ["index"] := by
    decide
  refine ⟨members, constants, reported.trans ?_⟩
  have outOfStyle : ["order_item"].filter (IsOutOfStyle ·) = ["order_item"] ∧
      ["Level"].filter (IsOutOfStyle ·) = [] ∧ ["index"].filter (IsOutOfStyle ·) = ["index"] := by
    decide
  rw [messages, enums, maps, nameFindings, nameFindings, nameFindings, outOfStyle.1,
    outOfStyle.2.1, outOfStyle.2.2]
  rfl

end Catalog

end ProtoSchema
