import ProtoSchema.FieldType
import ProtoSchema.Identifier
import ProtoSchema.Tag

/-!
# Messages

A struct declaration becomes a message with one field for each exported member,
in declared order. The position among the exported members is the field's number
on the wire, so an unexported member takes none.
-/

namespace ProtoSchema

/-- A message field. `name` and `typeName` are for display and may be rewritten by a
naming; the rest records where the field comes from. -/
structure Field where
  name : String
  typeName : String
  order : Nat
  isRepeated : Bool
  jsonName : Option String
  sourceName : String
  type : TypeExpr
  references : List String

/-- A message with its fields in wire order. -/
structure Message where
  name : String
  fields : List Field

/-- The field of a struct member, with its wire number. -/
def Field.ofMember (home : String) (order : Nat) (member : Member) : Field :=
  let fieldType := FieldType.ofType home member.type
  { name := Identifier.fieldName member.name
    typeName := fieldType.typeName
    order
    isRepeated := fieldType.isRepeated
    jsonName := Tag.jsonName? member.tag
    sourceName := member.name
    type := member.type
    references := fieldType.imports }

/-- The message of a struct's members, in declared order. -/
def Message.ofMembers (home name : String) (members : List Member) : Message where
  name
  fields := (members.filter Member.isExported).mapIdx fun index member =>
    Field.ofMember home (index + 1) member

end ProtoSchema
