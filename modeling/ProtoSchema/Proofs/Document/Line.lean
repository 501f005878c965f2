import ProtoSchema.Document
import ProtoSchema.Proofs.Text.Cutting

/-!
# The lines of a document

Each kind of line can be read back. An enum member and a field are assignments, and the
right side of an assignment has no blank up to its end, so the last ` = ` parts the name
from the number; a wire name behind a field's number starts at the last blank of its
line. What is read back of a field is its content: a repeated field shows no wire name.
-/

namespace ProtoSchema.Document

/-- The line of an import. -/
def importLine (package : String) : String :=
  "import \"" ++ package ++ ".proto\";"

/-- The lines of a document above its imports. -/
def opening (options : Options) (name path : String) : List String :=
  ["syntax = \"proto3\";", "package " ++ name ++ ";", "",
    "option go_package = \"" ++ options.packageOptionStart ++ path ++ "\";"]

theorem lines_eq (options : Options) (catalog : Catalog) :
    lines options catalog =
      opening options catalog.name catalog.path ++ catalog.imports.map importLine ++
        (blocks catalog).flatMap ("" :: ·) :=
  rfl

theorem infix_lines_of_mem_blocks (options : Options) {catalog : Catalog}
    {block : List String} (member : block ∈ blocks catalog) :
    block <:+: lines options catalog := by
  obtain ⟨before, after, split⟩ := List.append_of_mem member
  refine ⟨head options catalog ++ before.flatMap ("" :: ·) ++ [""], after.flatMap ("" :: ·), ?_⟩
  simp [lines, split]

/-- Texts between the same front and the same end are equal if the wholes are. -/
theorem between_inj {front back first second : String}
    (same : front ++ first ++ back = front ++ second ++ back) : first = second := by
  have chars := congrArg String.toList same
  simp only [String.toList_append, List.append_assoc] at chars
  exact String.toList_inj.mp (List.append_cancel_right (List.append_cancel_left chars))

theorem importLine_injective : Function.Injective importLine :=
  fun _ _ same => between_inj same

/-- The two sides of an assignment whose right side has no blank. -/
theorem assignment_inj {left left' right right' : List Char} (noBlank : ' ' ∉ right)
    (noBlank' : ' ' ∉ right')
    (same : left ++ " = ".toList ++ right = left' ++ " = ".toList ++ right') :
    left = left' ∧ right = right' := by
  have cut : (left ++ " =".toList) ++ ' ' :: right = (left' ++ " =".toList) ++ ' ' :: right' := by
    simpa using same
  obtain ⟨leftEq, rightEq⟩ := append_cons_inj_of_not_mem_right noBlank noBlank' cut
  exact ⟨List.append_cancel_right leftEq, rightEq⟩

/-! ## Enum members -/

/-- The line that lets the members of an enum share numbers. -/
def aliasLine : String :=
  "  option allow_alias = true;"

theorem toList_enumMemberLine (member : String × Int) :
    (enumMemberLine member).toList =
      ("  ".toList ++ member.1.toList) ++ " = ".toList ++ (member.2.repr.toList ++ [';']) := by
  simp [enumMemberLine, String.toList_append]

theorem blank_not_mem_repr_end (number : Int) : ' ' ∉ number.repr.toList ++ [';'] := by
  simpa using not_mem_repr_int (by decide) (by decide)

theorem enumMemberLine_injective : Function.Injective enumMemberLine := by
  rintro ⟨firstName, first⟩ ⟨secondName, second⟩ same
  have chars := congrArg String.toList same
  rw [toList_enumMemberLine, toList_enumMemberLine] at chars
  obtain ⟨names, numbers⟩ :=
    assignment_inj (blank_not_mem_repr_end first) (blank_not_mem_repr_end second) chars
  have nameEq := String.toList_inj.mp (List.append_cancel_left names)
  have numberEq := Int.repr_inj.mp (String.toList_inj.mp (List.append_cancel_right numbers))
  exact Prod.ext nameEq numberEq

/-- No member is written like the option: its right side would be `true`, not a number. -/
theorem enumMemberLine_ne_aliasLine (member : String × Int) :
    enumMemberLine member ≠ aliasLine := by
  intro same
  have chars := congrArg String.toList same
  have aliasChars : aliasLine.toList =
      "  option allow_alias".toList ++ " = ".toList ++ "true;".toList := by decide
  rw [toList_enumMemberLine, aliasChars] at chars
  obtain ⟨_, values⟩ := assignment_inj (blank_not_mem_repr_end member.2) (by decide) chars
  have letter : 't' ∈ member.2.repr.toList ++ [';'] := values ▸ by decide
  rcases List.mem_append.mp letter with inNumeral | inEnd
  · exact not_mem_repr_int (by decide) (by decide) inNumeral
  · contradiction

/-! ## Fields -/

/-- What a document shows of a field. -/
structure FieldContent where
  isRepeated : Bool
  typeName : String
  name : String
  order : Nat
  jsonName : Option String
deriving Repr, DecidableEq

namespace FieldContent

/-- The content of a field. A repeated field has no wire name of its own. -/
def ofField (field : Field) : FieldContent where
  isRepeated := field.isRepeated
  typeName := field.typeName
  name := field.name
  order := field.order
  jsonName := if field.isRepeated then none else field.jsonName

/-- The content can be told from its line: there are no blanks in the names, and the type
cannot be taken for a repeated one. -/
structure IsReadable (content : FieldContent) : Prop where
  name : ' ' ∉ content.name.toList
  jsonName : ∀ jsonName ∈ content.jsonName, ' ' ∉ jsonName.toList
  typeName : ¬"repeated ".toList <+: content.typeName.toList

instance (content : FieldContent) : Decidable content.IsReadable :=
  decidable_of_iff
    (' ' ∉ content.name.toList ∧ (∀ jsonName ∈ content.jsonName, ' ' ∉ jsonName.toList) ∧
      ¬"repeated ".toList <+: content.typeName.toList)
    ⟨fun ⟨name, jsonName, typeName⟩ => ⟨name, jsonName, typeName⟩,
      fun readable => ⟨readable.name, readable.jsonName, readable.typeName⟩⟩

/-- The type with its label. -/
def labelled (content : FieldContent) : List Char :=
  (if content.isRepeated then "repeated ".toList else []) ++ content.typeName.toList

/-- A field's line up to its number. -/
def stem (content : FieldContent) : List Char :=
  (content.labelled ++ ' ' :: content.name.toList) ++ " = ".toList ++ content.order.repr.toList

/-- A field's line behind its number. -/
def ending (content : FieldContent) : List Char :=
  match content.jsonName with
  | some jsonName => ' ' :: ("[json_name=\"".toList ++ jsonName.toList ++ "\"];".toList)
  | none => [';']

variable {first second : FieldContent}

theorem labelled_inj (firstReadable : first.IsReadable) (secondReadable : second.IsReadable)
    (same : first.labelled = second.labelled) :
    first.isRepeated = second.isRepeated ∧ first.typeName = second.typeName := by
  unfold labelled at same
  cases firstRepeated : first.isRepeated with
  | true =>
      cases secondRepeated : second.isRepeated with
      | true =>
          rw [firstRepeated, secondRepeated] at same
          exact ⟨rfl, String.toList_inj.mp (List.append_cancel_left same)⟩
      | false =>
          rw [firstRepeated, secondRepeated] at same
          exact absurd ⟨_, same⟩ secondReadable.typeName
  | false =>
      cases secondRepeated : second.isRepeated with
      | true =>
          rw [firstRepeated, secondRepeated] at same
          exact absurd ⟨_, same.symm⟩ firstReadable.typeName
      | false =>
          rw [firstRepeated, secondRepeated] at same
          exact ⟨rfl, String.toList_inj.mp same⟩

theorem stem_inj (firstReadable : first.IsReadable) (secondReadable : second.IsReadable)
    (same : first.stem = second.stem) :
    first.isRepeated = second.isRepeated ∧ first.typeName = second.typeName ∧
      first.name = second.name ∧ first.order = second.order := by
  obtain ⟨fronts, orders⟩ :=
    assignment_inj (not_mem_repr (by decide)) (not_mem_repr (by decide)) same
  obtain ⟨types, names⟩ :=
    append_cons_inj_of_not_mem_right firstReadable.name secondReadable.name fronts
  obtain ⟨repeatedEq, typeEq⟩ := labelled_inj firstReadable secondReadable types
  exact ⟨repeatedEq, typeEq, String.toList_inj.mp names,
    Nat.repr_inj.mp (String.toList_inj.mp orders)⟩

/-- In front of the last character a number ends in a digit, and a wire name in a bracket. -/
theorem stem_end_ne (front text : List Char) (content : FieldContent) :
    content.stem ++ [';'] ≠ front ++ ' ' :: (text ++ "\"];".toList) := by
  intro same
  obtain ⟨digits, digit, split, isDigit⟩ := exists_repr_eq_concat content.order
  have reversed := congrArg List.reverse same
  rw [stem, split] at reversed
  have bracket : digit = ']' := by
    simp at reversed
    exact reversed.1
  rw [bracket] at isDigit
  contradiction

theorem stem_append_ending_inj (firstReadable : first.IsReadable)
    (secondReadable : second.IsReadable)
    (same : first.stem ++ first.ending = second.stem ++ second.ending) :
    first.stem = second.stem ∧ first.jsonName = second.jsonName := by
  have noBlank : ∀ {jsonName : String}, ' ' ∉ jsonName.toList →
      ' ' ∉ "[json_name=\"".toList ++ jsonName.toList ++ "\"];".toList := by
    intro jsonName readable
    simpa using readable
  unfold ending at same
  cases firstName : first.jsonName with
  | some jsonName =>
      cases secondName : second.jsonName with
      | some jsonName' =>
          rw [firstName, secondName] at same
          obtain ⟨stems, names⟩ := append_cons_inj_of_not_mem_right
            (noBlank (firstReadable.jsonName jsonName firstName))
            (noBlank (secondReadable.jsonName jsonName' secondName)) same
          have nameEq := List.append_cancel_left (List.append_cancel_right names)
          exact ⟨stems, congrArg some (String.toList_inj.mp nameEq)⟩
      | none =>
          rw [firstName, secondName] at same
          exact absurd same.symm (stem_end_ne _ _ second)
  | none =>
      cases secondName : second.jsonName with
      | some jsonName =>
          rw [firstName, secondName] at same
          exact absurd same (stem_end_ne _ _ first)
      | none =>
          rw [firstName, secondName] at same
          exact ⟨List.append_cancel_right same, rfl⟩

end FieldContent

theorem toList_fieldLine (field : Field) :
    (fieldLine field).toList =
      "  ".toList ++
        ((FieldContent.ofField field).stem ++ (FieldContent.ofField field).ending) := by
  obtain ⟨name, typeName, order, isRepeated, jsonName, _, _, _⟩ := field
  unfold fieldLine FieldContent.ofField FieldContent.ending FieldContent.stem FieldContent.labelled
  cases isRepeated with
  | true => simp [String.toList_append]
  | false =>
      cases jsonName with
      | none => simp [String.toList_append]
      | some jsonName => simp [String.toList_append]

/-- A field's line tells its content. -/
theorem fieldLine_eq_iff {first second : Field}
    (firstReadable : (FieldContent.ofField first).IsReadable)
    (secondReadable : (FieldContent.ofField second).IsReadable) :
    fieldLine first = fieldLine second ↔
      FieldContent.ofField first = FieldContent.ofField second := by
  rw [← String.toList_inj, toList_fieldLine, toList_fieldLine, List.append_cancel_left_eq]
  constructor
  · intro same
    obtain ⟨stems, jsonNameEq⟩ :=
      FieldContent.stem_append_ending_inj firstReadable secondReadable same
    obtain ⟨repeatedEq, typeEq, nameEq, orderEq⟩ :=
      FieldContent.stem_inj firstReadable secondReadable stems
    rw [FieldContent.mk.injEq]
    exact ⟨repeatedEq, typeEq, nameEq, orderEq, jsonNameEq⟩
  · intro same
    rw [same]

end ProtoSchema.Document
