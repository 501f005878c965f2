import ProtoSchema.Catalog
import ProtoSchema.Data

/-!
# Written catalogs

The data that a catalog is written as, with the members of every record in
alphabetical order. The record of seen signatures and the origin of the parts are
not written.
-/

namespace ProtoSchema

/-- A field as data. The wire name is left out where there is none. -/
def Field.toData (field : Field) : Data :=
  .ofMembers ([("is_repeated", .bool field.isRepeated)]
    ++ (match field.jsonName with
      | some jsonName => [("json_name", .text jsonName)]
      | none => [])
    ++ [("name", .text field.name), ("order", .int field.order),
      ("type_name", .text field.typeName)])

/-- A message as data. -/
def Message.toData (message : Message) : Data :=
  .ofMembers [("fields", .list (message.fields.map Field.toData)), ("name", .text message.name)]

/-- An enum value as data. -/
def EnumValue.toData (value : EnumValue) : Data :=
  .ofMembers [("name", .text value.name), ("value", .int value.value)]

/-- An enumeration as data. -/
def Enumeration.toData (enumeration : Enumeration) : Data :=
  .ofMembers [("allow_alias", .bool enumeration.allowAlias),
    ("has_gaps", .bool enumeration.hasGaps),
    ("missing_default", .bool enumeration.missingDefault), ("name", .text enumeration.name),
    ("values", .list (enumeration.values.map EnumValue.toData))]

/-- A map as data. -/
def MapType.toData (map : MapType) : Data :=
  .ofMembers [("elem_type", .text map.elemType), ("key_type", .text map.keyType),
    ("name", .text map.name), ("underlying_elem_type", .text map.underlyingElemType),
    ("underlying_key_type", .text map.underlyingKeyType)]

/-- A diagnostic as data. -/
def Diagnostic.toData (diagnostic : Diagnostic) : Data :=
  .ofMembers [("code", .text diagnostic.code), ("declaration", .text diagnostic.declaration),
    ("message", .text diagnostic.message), ("severity", .text diagnostic.severity.label)]

/-- A table as data, given how its values are written. -/
def NameTable.toData {α : Type} (table : NameTable α) (write : α → Data) : Data :=
  .ofMembers (table.entries.map fun (name, value) => (name, write value))

/-- A catalog as data. -/
def Catalog.toData (catalog : Catalog) : Data :=
  .ofMembers [("diagnostics", .list (catalog.diagnostics.map Diagnostic.toData)),
    ("enums", catalog.enums.toData Enumeration.toData),
    ("imports", .list (catalog.imports.map Data.text)),
    ("maps", catalog.maps.toData MapType.toData),
    ("messages", .list (catalog.messages.map Message.toData)),
    ("name", .text catalog.name), ("path", .text catalog.path)]

end ProtoSchema
