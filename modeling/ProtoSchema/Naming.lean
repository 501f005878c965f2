import ProtoSchema.Catalog

/-!
# Namings

A naming decides how the parts of a schema are displayed. It is asked once for
each part, after the part is built and before it is stored, and may look at the
catalog as it is then. It answers with display names only, so it cannot touch wire
numbers, values, wire names or where a part comes from.
-/

namespace ProtoSchema

/-- How a field is displayed. -/
structure FieldDisplay where
  name : String
  typeName : String
deriving Repr, DecidableEq

/-- How a map is displayed. -/
structure MapDisplay where
  name : String
  keyType : String
  elemType : String
deriving Repr, DecidableEq

/-- The display names of the parts of a schema. -/
structure Naming where
  message : Catalog → Message → String
  field : Catalog → Field → FieldDisplay
  enumValue : Catalog → EnumValue → String
  map : Catalog → MapType → MapDisplay

namespace Naming

/-- Every part keeps the names that it was built with. -/
def unchanged : Naming where
  message _ message := message.name
  field _ field := { name := field.name, typeName := field.typeName }
  enumValue _ value := value.name
  map _ map := { name := map.name, keyType := map.keyType, elemType := map.elemType }

/-- The usual style of a schema, derived from the source names: snake case for
fields, screaming snake case for enum values, and types relative to the catalog's
package. -/
def standard : Naming :=
  { unchanged with
    field := fun catalog field =>
      { name := Identifier.fieldName field.sourceName
        typeName := (FieldType.ofType catalog.path field.type).typeName }
    enumValue := fun _ value => Identifier.enumValueName value.sourceName }

/-- Display a field. -/
def applyField (naming : Naming) (catalog : Catalog) (field : Field) : Field :=
  let display := naming.field catalog field
  { field with name := display.name, typeName := display.typeName }

/-- Display a message and its fields. -/
def applyMessage (naming : Naming) (catalog : Catalog) (message : Message) : Message where
  name := naming.message catalog message
  fields := message.fields.map (naming.applyField catalog)

/-- Display an enum value. -/
def applyEnumValue (naming : Naming) (catalog : Catalog) (value : EnumValue) : EnumValue :=
  { value with name := naming.enumValue catalog value }

/-- Display a map. -/
def applyMap (naming : Naming) (catalog : Catalog) (map : MapType) : MapType :=
  let display := naming.map catalog map
  { map with name := display.name, keyType := display.keyType, elemType := display.elemType }

end Naming

end ProtoSchema
