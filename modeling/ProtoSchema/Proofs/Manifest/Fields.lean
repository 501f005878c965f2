import ProtoSchema.Manifest.Form
import ProtoSchema.Manifest.Writing

/-!
# Written forms

What a manifest is written as is a record of a form's fields, with a tag in front where the
form is one of several. Read back, such a record gives each field its value, and the parts
read make up what was written. So one fact about records of fields serves every type
expression, every struct member and every declaration; it is carried through types within
types by induction on the type.
-/

namespace ProtoSchema

namespace Manifest

/-- The value of a form's field. -/
inductive FieldValue where
  | text (value : String)
  | flag (value : Bool)
  | type (value : TypeExpr)
  | members (value : List Member)

namespace FieldValue

/-- What a field with this value holds. -/
def kind : FieldValue → FieldKind
  | .text _ => .text
  | .flag _ => .flag
  | .type _ => .type
  | .members _ => .members

/-- The data that the value is written as. -/
def toData : FieldValue → Data
  | .text value => .text value
  | .flag value => .bool value
  | .type value => value.toData
  | .members value => .list (Member.listToData value)

/-- The value is read back from its data. -/
def ReadsBack : FieldValue → Prop
  | .text _ | .flag _ => True
  | .type value => typeOfData value.toData = .ok value
  | .members value => membersOfData (Member.listToData value) = .ok value

end FieldValue

/-- Fields as the members of a record. -/
def writtenFields (fields : List (String × FieldValue)) : List (Key × Data) :=
  fields.map fun (name, value) => (.name name, value.toData)

/-- Fields as the members of a record behind its tag. -/
def taggedFields (tag variant : String) (fields : List (String × FieldValue)) :
    List (Key × Data) :=
  (.name tag, .text variant) :: writtenFields fields

namespace Parts

/-- One field more that has been read. -/
def add (parts : Parts) (name : String) : FieldValue → Parts
  | .text value => { parts with texts := (name, value) :: parts.texts }
  | .flag value => { parts with flags := (name, some value) :: parts.flags }
  | .type value => { parts with types := (name, value) :: parts.types }
  | .members value => { parts with memberLists := (name, value) :: parts.memberLists }

/-- Several fields more, in the order of the text. -/
def addAll (parts : Parts) (fields : List (String × FieldValue)) : Parts :=
  fields.foldl (fun parts (name, value) => parts.add name value) parts

@[simp]
theorem names_empty : empty.names = [] :=
  rfl

theorem mem_names_add {parts : Parts} {name asked : String} {value : FieldValue} :
    asked ∈ (parts.add name value).names ↔ asked = name ∨ asked ∈ parts.names := by
  cases value <;> simp [add, names, or_left_comm]

end Parts

/-- The form has the fields, each of them at most once among them. -/
structure Form.Fits (form : Form) (fields : List (String × FieldValue)) : Prop where
  known : ∀ field ∈ fields,
    form.fields.find? (·.1 == field.1) = some (field.1, field.2.kind)
  distinct : (fields.map Prod.fst).Nodup

section Reading

variable {form : Form} {tag : Option String} {fields : List (String × FieldValue)}

theorem readMembers_field {parts : Parts} {name : String} {value : FieldValue}
    (known : form.fields.find? (·.1 == name) = some (name, value.kind))
    (notTag : tag ≠ some name) (fresh : name ∉ parts.names) (readsBack : value.ReadsBack)
    (rest : List (Key × Data)) :
    readMembers form tag parts ((.name name, value.toData) :: rest) =
      readMembers form tag (parts.add name value) rest := by
  have otherKey : tag.map Key.name ≠ some (.name name) := by
    cases tag with
    | none => simp
    | some tag => simpa using notTag
  rw [readMembers.eq_def]
  simp only [if_neg otherKey, Form.field?, known]
  change (if name ∈ parts.names then _ else _) = _
  rw [if_neg fresh]
  cases value with
  | text | flag => rfl
  | type | members =>
      rw [FieldValue.ReadsBack] at readsBack
      simp only [FieldValue.kind, FieldValue.toData, Parts.read, readsBack]
      rfl

/-- A record of fields is read back field by field. -/
theorem readMembers_writtenFields {parts : Parts} (fits : form.Fits fields)
    (notTag : ∀ field ∈ fields, tag ≠ some field.1)
    (fresh : ∀ field ∈ fields, field.1 ∉ parts.names)
    (readsBack : ∀ field ∈ fields, field.2.ReadsBack) :
    readMembers form tag parts (writtenFields fields) = .ok (parts.addAll fields) := by
  induction fields generalizing parts with
  | nil =>
      rw [writtenFields, List.map_nil, readMembers]
      rfl
  | cons field fields ih =>
      obtain ⟨name, value⟩ := field
      obtain ⟨known, distinct⟩ := fits
      rw [List.map_cons, List.nodup_cons] at distinct
      rw [List.forall_mem_cons] at known notTag fresh readsBack
      have stillFresh : ∀ field ∈ fields, field.1 ∉ (parts.add name value).names := by
        intro field member taken
        rcases Parts.mem_names_add.mp taken with same | before
        · exact distinct.1 (List.mem_map.mpr ⟨field, member, same⟩)
        · exact fresh.2 field member before
      have first := readMembers_field known.1 notTag.1 fresh.1 readsBack.1 (writtenFields fields)
      exact first.trans (ih ⟨known.2, distinct.2⟩ notTag.2 stillFresh readsBack.2)

/-- A record without a tag. -/
theorem readMembers_untagged (fits : form.Fits fields)
    (readsBack : ∀ field ∈ fields, field.2.ReadsBack) :
    readMembers form none .empty (writtenFields fields) = .ok (Parts.empty.addAll fields) :=
  readMembers_writtenFields fits (by simp) (by simp) readsBack

end Reading

section Tagged

variable {α : Type} {tag name : String} {variants : List (String × α)} {variant : α}
  {form : Form} {fields : List (String × FieldValue)}

/-- A tag that has been found counts if it does not come again. -/
theorem tagOf_some {members : List (Key × Data)}
    (single : ∀ member ∈ members, member.1 ≠ .name tag) :
    tagOf tag variants (some variant) members = .ok variant := by
  induction members with
  | nil => rfl
  | cons member members ih =>
      rw [List.forall_mem_cons] at single
      rw [tagOf, if_neg single.1]
      exact ih single.2

theorem tagOf_taggedFields (known : variants.lookup name = some variant)
    (single : ∀ field ∈ fields, field.1 ≠ tag) :
    tagOf tag variants none (taggedFields tag name fields) = .ok variant := by
  have otherKeys : ∀ member ∈ writtenFields fields, member.1 ≠ .name tag := by
    intro member listed
    obtain ⟨field, isField, rfl⟩ := List.mem_map.mp listed
    simpa using single field isField
  rw [taggedFields, tagOf, if_pos rfl, variantOf]
  simp only [known]
  exact tagOf_some otherKeys

theorem readMembers_taggedFields (fits : form.Fits fields)
    (single : ∀ field ∈ fields, field.1 ≠ tag)
    (readsBack : ∀ field ∈ fields, field.2.ReadsBack) :
    readMembers form (some tag) .empty (taggedFields tag name fields) =
      .ok (Parts.empty.addAll fields) := by
  have isTag : (some tag).map Key.name = some (.name tag) := rfl
  rw [taggedFields, readMembers, if_pos isTag]
  · exact readMembers_writtenFields fits
      (fun field member same => single field member (Option.some.inj same).symm)
      (by simp) readsBack
  · simp

end Tagged

end Manifest

open Manifest

/-! ## Types and struct members -/

namespace TypeExpr

/-- The kind of a type expression, with its name. -/
def variant : TypeExpr → String × TypeVariant
  | .basic _ => ("basic", .basic)
  | .named .. => ("named", .named)
  | .pointer _ => ("pointer", .pointer)
  | .slice _ => ("slice", .slice)
  | .map .. => ("map", .map)
  | .struct _ => ("struct", .struct)
  | .other _ => ("other", .other)

/-- The fields of a type expression. -/
def fields : TypeExpr → List (String × FieldValue)
  | .basic name => [("name", .text name)]
  | .named package name underlying =>
    [("package", .text package), ("name", .text name), ("underlying", .type underlying)]
  | .pointer elem => [("elem", .type elem)]
  | .slice elem => [("elem", .type elem)]
  | .map key elem => [("key", .type key), ("elem", .type elem)]
  | .struct members => [("fields", .members members)]
  | .other text => [("repr", .text text)]

theorem toData_eq (type : TypeExpr) :
    type.toData = .record (taggedFields TypeVariant.tag type.variant.1 type.fields) := by
  cases type <;> rw [toData] <;> rfl

/-- A type expression is read back if what it holds is. -/
theorem typeOfData_toData_of_fields {type : TypeExpr}
    (readsBack : ∀ field ∈ type.fields, field.2.ReadsBack) :
    typeOfData type.toData = .ok type := by
  have known : TypeVariant.all.lookup type.variant.1 = some type.variant.2 := by
    cases type <;> rfl
  have single : ∀ field ∈ type.fields, field.1 ≠ TypeVariant.tag := by
    cases type <;> simp [fields, TypeVariant.tag]
  have fits : type.variant.2.form.Fits type.fields := by
    cases type <;> constructor <;> simp [fields, variant, TypeVariant.form, FieldValue.kind]
  rw [toData_eq, typeOfData, tagOf_taggedFields known single]
  change (readMembers _ _ _ _ >>= _) = _
  rw [readMembers_taggedFields fits single readsBack]
  cases type <;> rfl

end TypeExpr

namespace Member

/-- The fields of a struct member: an export flag that is not given and an empty tag are
left out. -/
def fields (member : Member) : List (String × FieldValue) :=
  [("name", .text member.name)] ++
    (member.exported.map fun exported => ("exported", .flag exported)).toList ++
    (if member.tag = "" then [] else [("tag", .text member.tag)]) ++ [("type", .type member.type)]

theorem listToData_cons (member : Member) (rest : List Member) :
    listToData (member :: rest) = .record (writtenFields member.fields) :: listToData rest := by
  obtain ⟨name, exported, tag, type⟩ := member
  rw [listToData]
  cases exported <;> by_cases untagged : tag = "" <;>
    simp [Data.ofMembers, writtenFields, fields, exportedMember, untagged, FieldValue.toData]

/-- A struct member is read back if its fields are. -/
theorem memberOfData_writtenFields {member : Member}
    (readsBack : ∀ field ∈ member.fields, field.2.ReadsBack) :
    memberOfData (.record (writtenFields member.fields)) = .ok member := by
  have fits : memberForm.Fits member.fields := by
    obtain ⟨name, exported, tag, type⟩ := member
    cases exported <;> by_cases untagged : tag = "" <;> constructor <;>
      simp [fields, memberForm, FieldValue.kind, untagged]
  rw [memberOfData, readMembers_untagged fits readsBack]
  obtain ⟨name, exported, tag, type⟩ := member
  cases exported <;> by_cases untagged : tag = "" <;> simp [fields, untagged] <;> rfl

end Member

/-! ## Induction -/

/-- A property that texts and flags have, and that types and struct members have if their
fields do. -/
structure Manifest.FieldValue.IsHereditary (holds : FieldValue → Prop) : Prop where
  text : ∀ value, holds (.text value)
  flag : ∀ value, holds (.flag value)
  type : ∀ type : TypeExpr, (∀ field ∈ type.fields, holds field.2) → holds (.type type)
  members : ∀ members : List Member,
    (∀ member ∈ members, ∀ field ∈ member.fields, holds field.2) → holds (.members members)

section Induction

variable {holds : FieldValue → Prop} (hereditary : FieldValue.IsHereditary holds)

include hereditary

mutual

theorem TypeExpr.holds_of_hereditary : ∀ type : TypeExpr, holds (.type type)
  | .basic _ | .other _ => hereditary.type _ (by simp [TypeExpr.fields, hereditary.text])
  | .named _ _ inner | .pointer inner | .slice inner =>
    hereditary.type _ (by
      simp [TypeExpr.fields, hereditary.text, inner.holds_of_hereditary])
  | .map key elem =>
    hereditary.type _ (by
      simp [TypeExpr.fields, key.holds_of_hereditary, elem.holds_of_hereditary])
  | .struct members =>
    hereditary.type _ (by
      simp [TypeExpr.fields, hereditary.members members (Member.holds_of_hereditary members)])

theorem Member.holds_of_hereditary : ∀ members : List Member,
    ∀ member ∈ members, ∀ field ∈ member.fields, holds field.2
  | [] => List.forall_mem_nil _
  | ⟨name, exported, tag, type⟩ :: rest => by
    intro member inList
    rcases List.mem_cons.mp inList with rfl | inRest
    · cases exported <;> by_cases untagged : tag = "" <;>
        simp [Member.fields, hereditary.text, hereditary.flag, untagged,
          type.holds_of_hereditary]
    · exact Member.holds_of_hereditary rest member inRest

end

/-- A hereditary property holds of every value, however types nest in it. -/
theorem Manifest.FieldValue.holds_of_hereditary : ∀ value : FieldValue, holds value
  | .text value => hereditary.text value
  | .flag value => hereditary.flag value
  | .type inner => inner.holds_of_hereditary hereditary
  | .members list => hereditary.members list (Member.holds_of_hereditary hereditary list)

end Induction

/-! ## Reading back -/

theorem Member.membersOfData_listToData {members : List Member}
    (readsBack : ∀ member ∈ members, ∀ field ∈ member.fields, field.2.ReadsBack) :
    membersOfData (listToData members) = .ok members := by
  induction members with
  | nil => rw [listToData, membersOfData]
  | cons member rest ih =>
      rw [List.forall_mem_cons] at readsBack
      rw [listToData_cons, membersOfData, memberOfData_writtenFields readsBack.1, ih readsBack.2]
      rfl

/-- Every value is read back. -/
theorem Manifest.FieldValue.readsBack (value : FieldValue) : value.ReadsBack :=
  holds_of_hereditary
    { text := fun _ => trivial
      flag := fun _ => trivial
      type := fun _ => TypeExpr.typeOfData_toData_of_fields
      members := fun _ => Member.membersOfData_listToData }
    value

end ProtoSchema
