import ProtoSchema.Data.Mismatch
import ProtoSchema.Declaration

/-!
# Forms

The types and declarations of a manifest have a written form: a record with a fixed
set of fields, or a list of the fields' values in order. `Form` gives the fields,
`Parts` collects what has been read of them, and the readers go through a record or
a list in the order of the text, so that the first fault is the one reported.
-/

namespace ProtoSchema.Manifest

/-- What a field of a form holds. -/
inductive FieldKind where
  | text
  | flag
  | type
  | members
deriving Repr, DecidableEq

/-- A form: what it is called in messages and its fields in order. -/
structure Form where
  wanted : String
  fields : List (String × FieldKind)
deriving Repr, DecidableEq

/-- The fields of a form that have been read, by name. -/
structure Parts where
  texts : List (String × String)
  flags : List (String × Option Bool)
  types : List (String × TypeExpr)
  memberLists : List (String × List Member)

namespace Parts

/-- No field has been read. -/
def empty : Parts := ⟨[], [], [], []⟩

/-- The names of the fields that have been read. -/
def names (parts : Parts) : List String :=
  parts.texts.map (·.1) ++ parts.flags.map (·.1) ++ parts.types.map (·.1)
    ++ parts.memberLists.map (·.1)

/-- Ask for a text. -/
def textOf : Data → Except Mismatch String
  | .text value => .ok value
  | data => .error (.ofData data "a string")

/-- Ask for a truth value or null. -/
def flagOf : Data → Except Mismatch (Option Bool)
  | .null => .ok none
  | .bool value => .ok (some value)
  | data => .error (.ofData data "a boolean")

/-- Read a field. What types and members are is left to their readers. -/
def read (parts : Parts) (name : String) (kind : FieldKind) (data : Data)
    (type : Unit → Except Mismatch TypeExpr) (members : Unit → Except Mismatch (List Member)) :
    Except Mismatch Parts :=
  match kind with
  | .text => do
    let value ← textOf data
    return { parts with texts := (name, value) :: parts.texts }
  | .flag => do
    let value ← flagOf data
    return { parts with flags := (name, value) :: parts.flags }
  | .type => do
    let value ← type ()
    return { parts with types := (name, value) :: parts.types }
  | .members => do
    let value ← members ()
    return { parts with memberLists := (name, value) :: parts.memberLists }

end Parts

namespace Form

/-- The field that a key names, if the form has it. -/
def field? (form : Form) : Key → Except Mismatch (Option (String × FieldKind))
  | .name text => .ok (form.fields.find? (·.1 == text))
  | .position index => .ok form.fields[index]?
  | .unusable => .error (.wrongKind .null "field identifier")

/-- The complaint about a field that a record lacks. -/
def missingMember (name : String) : Mismatch :=
  .missingField name

/-- The complaint about a field that a list is too short for. -/
def missingItem (form : Form) (name : String) : Mismatch :=
  .wrongLength (form.fields.findIdx (·.1 == name))
    (form.wanted ++ " with " ++ Mismatch.countOf form.fields.length)

/-- A list may have no item beyond the fields of its form. -/
def checkLength (form : Form) (items : List Data) : Except Mismatch Unit :=
  if items.length ≤ form.fields.length then .ok ()
  else .error (.wrongLength items.length
    (Mismatch.countOf form.fields.length ++ " in sequence"))

end Form

/-- The variant that a tag names by its name or its index. -/
def variantOf {α : Type} (variants : List (String × α)) : Data → Except Mismatch α
  | .text name =>
    match variants.lookup name with
    | some variant => .ok variant
    | none => .error (.unknownVariant name (variants.map (·.1)))
  | .number (.integer (.ofNat index)) =>
    match variants[index]? with
    | some variant => .ok variant.2
    | none => .error (.wrongIndex index variants.length)
  | data => .error (.ofData data "variant identifier")

/-- The variant that the tag among a record's members names. The tag may stand
anywhere, once. -/
def tagOf {α : Type} (tag : String) (variants : List (String × α)) :
    Option α → List (Key × Data) → Except Mismatch α
  | none, [] => .error (.missingField tag)
  | some variant, [] => .ok variant
  | found?, (key, data) :: rest =>
    if key = .name tag then
      match found? with
      | some _ => .error (.duplicateField tag)
      | none => do tagOf tag variants (some (← variantOf variants data)) rest
    else tagOf tag variants found? rest

/-- The kinds of type expression, as a manifest names them. -/
inductive TypeVariant where
  | basic
  | named
  | pointer
  | slice
  | map
  | struct
  | other
deriving Repr, DecidableEq

namespace TypeVariant

/-- The member that names the kind of a type. -/
def tag : String := "kind"

/-- The kinds by name, in the order that their indices follow. -/
def all : List (String × TypeVariant) :=
  [("basic", .basic), ("named", .named), ("pointer", .pointer), ("slice", .slice),
    ("map", .map), ("struct", .struct), ("other", .other)]

/-- The fields of a kind. -/
def form : TypeVariant → Form
  | .basic => ⟨"struct variant TypeRef::Basic", [("name", .text)]⟩
  | .named => ⟨"struct variant TypeRef::Named",
      [("package", .text), ("name", .text), ("underlying", .type)]⟩
  | .pointer => ⟨"struct variant TypeRef::Pointer", [("elem", .type)]⟩
  | .slice => ⟨"struct variant TypeRef::Slice", [("elem", .type)]⟩
  | .map => ⟨"struct variant TypeRef::Map", [("key", .type), ("elem", .type)]⟩
  | .struct => ⟨"struct variant TypeRef::Struct", [("fields", .members)]⟩
  | .other => ⟨"struct variant TypeRef::Other", [("repr", .text)]⟩

end TypeVariant

namespace Parts

/-- A text that must be there. -/
def text (parts : Parts) (missing : String → Mismatch) (name : String) :
    Except Mismatch String :=
  match parts.texts.lookup name with
  | some value => .ok value
  | none => .error (missing name)

/-- A type that must be there. -/
def type (parts : Parts) (missing : String → Mismatch) (name : String) :
    Except Mismatch TypeExpr :=
  match parts.types.lookup name with
  | some value => .ok value
  | none => .error (missing name)

/-- The type expression of a kind whose fields have been read. A struct without its
field list has no members. -/
def toType (parts : Parts) (missing : String → Mismatch) :
    TypeVariant → Except Mismatch TypeExpr
  | .basic => do return .basic (← parts.text missing "name")
  | .named => do
    let package ← parts.text missing "package"
    let name ← parts.text missing "name"
    let underlying ← parts.type missing "underlying"
    return .named package name underlying
  | .pointer => do return .pointer (← parts.type missing "elem")
  | .slice => do return .slice (← parts.type missing "elem")
  | .map => do
    let key ← parts.type missing "key"
    let elem ← parts.type missing "elem"
    return .map key elem
  | .struct => .ok (.struct ((parts.memberLists.lookup "fields").getD []))
  | .other => do return .other (← parts.text missing "repr")

/-- The struct member whose fields have been read. Its export flag and its tag may be
left out. -/
def toMember (parts : Parts) (missing : String → Mismatch) : Except Mismatch Member := do
  let name ← parts.text missing "name"
  let type ← parts.type missing "type"
  return {
    name
    exported := (parts.flags.lookup "exported").getD none
    tag := (parts.texts.lookup "tag").getD ""
    type }

end Parts

/-- The fields of a struct member. -/
def memberForm : Form where
  wanted := "struct StructField"
  fields := [("name", .text), ("exported", .flag), ("tag", .text), ("type", .type)]

mutual

/-- The type expression that data describes. -/
def typeOfData : Data → Except Mismatch TypeExpr
  | .record members => do
    let variant ← tagOf TypeVariant.tag TypeVariant.all none members
    let parts ← readMembers variant.form (some TypeVariant.tag) .empty members
    parts.toType Form.missingMember variant
  | .list [] => .error (.missingField TypeVariant.tag)
  | .list (tag :: items) => do
    let variant ← variantOf TypeVariant.all tag
    let parts ← readItems variant.form.fields .empty items
    let type ← parts.toType variant.form.missingItem variant
    variant.form.checkLength items
    return type
  | data => .error (.ofData data "internally tagged enum TypeRef")

/-- The struct member that data describes. -/
def memberOfData : Data → Except Mismatch Member
  | .record members => do
    let parts ← readMembers memberForm none .empty members
    parts.toMember Form.missingMember
  | .list items => do
    let parts ← readItems memberForm.fields .empty items
    let member ← parts.toMember memberForm.missingItem
    memberForm.checkLength items
    return member
  | data => .error (.ofData data memberForm.wanted)

/-- The struct members that a list describes. -/
def membersOfData : List Data → Except Mismatch (List Member)
  | [] => .ok []
  | data :: rest => do
    let member ← memberOfData data
    let rest ← membersOfData rest
    return member :: rest

/-- Read the members of a record that belong to a form. A tag and members that the
form does not have are passed over, and no field may occur twice. -/
def readMembers (form : Form) (tag : Option String) (parts : Parts) :
    List (Key × Data) → Except Mismatch Parts
  | [] => .ok parts
  | (key, data) :: rest =>
    if tag.map Key.name = some key then readMembers form tag parts rest
    else do
      match ← form.field? key with
      | none => readMembers form tag parts rest
      | some (name, kind) =>
        if name ∈ parts.names then .error (.duplicateField name)
        else
          let parts ← parts.read name kind data (fun _ => typeOfData data) fun _ =>
            match data with
            | .list items => membersOfData items
            | data => .error (.ofData data "a sequence")
          readMembers form tag parts rest

/-- Read the items of a list into the fields of a form, as far as both go. -/
def readItems : List (String × FieldKind) → Parts → List Data → Except Mismatch Parts
  | _, parts, [] => .ok parts
  | [], parts, _ => .ok parts
  | (name, kind) :: fields, parts, data :: rest => do
    let parts ← parts.read name kind data (fun _ => typeOfData data) fun _ =>
      match data with
      | .list items => membersOfData items
      | data => .error (.ofData data "a sequence")
    readItems fields parts rest

end

/-- The kinds of declaration, as a manifest names them. -/
inductive DeclaredVariant where
  | type
  | const
deriving Repr, DecidableEq

namespace DeclaredVariant

/-- The member that names the kind of a declaration. -/
def tag : String := "decl"

/-- The kinds by name, in the order that their indices follow. -/
def all : List (String × DeclaredVariant) :=
  [("type", .type), ("const", .const)]

/-- The fields of a kind. -/
def form : DeclaredVariant → Form
  | .type => ⟨"a type declaration", [("type", .type)]⟩
  | .const => ⟨"a constant declaration", [("type", .type), ("value", .text)]⟩

end DeclaredVariant

/-- What a declaration with these members declares. -/
def declaredOfMembers (members : List (Key × Data)) : Except Mismatch Declared := do
  let variant ← tagOf DeclaredVariant.tag DeclaredVariant.all none members
  let parts ← readMembers variant.form (some DeclaredVariant.tag) .empty members
  match variant with
  | .type => return .type (← parts.type Form.missingMember "type")
  | .const => do
    let type ← parts.type Form.missingMember "type"
    let value ← parts.text Form.missingMember "value"
    return .const type value

end ProtoSchema.Manifest
