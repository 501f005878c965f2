import ProtoSchema.Declaration
import ProtoSchema.Naming

/-!
# Taking in declarations

A declaration goes to the builder of its class: structs become messages, typed
constants become enum values, maps are kept as they are, and anything else is
skipped. Each step yields what it did, or why it failed, together with the next
catalog; a failure is recorded as a diagnostic and the catalog stays usable.
-/

namespace ProtoSchema

/-- What taking in a declaration did. -/
inductive Outcome where
  | message (name : String)
  | enumValue (enumeration value : String)
  | map (name : String)
  | imported (package : String)
  | duplicate
  | skipped
deriving Repr, DecidableEq

namespace Catalog

/-- The message of a struct declaration, with the imports that its fields need. A
signature counts once, whatever becomes of its declaration; a struct that another
package owns contributes an import of that package and no message. -/
def addMessage (naming : Naming) (catalog : Catalog) (declaration : Declaration) :
    Outcome × Catalog :=
  let type := declaration.type
  if type.signature ∈ catalog.seen then (.duplicate, catalog)
  else
    let catalog := { catalog with seen := type.signature :: catalog.seen }
    if FieldType.isForeign catalog.path declaration.owner then
      (.imported declaration.owner, catalog.addImport declaration.owner)
    else
      match type.underlying with
      | .struct members =>
        let message := Message.ofMembers catalog.path declaration.name members
        let catalog := catalog.addImports (message.fields.flatMap Field.references)
        let message := naming.applyMessage catalog message
        (.message message.name, { catalog with messages := catalog.messages ++ [message] })
      | _ => (.skipped, catalog)

/-- Whether a constant's type makes it an enum value: a named type over `int`,
`int32` or `int64` that the catalog's package owns. -/
def admits (catalog : Catalog) (declaration : Declaration) : Bool :=
  match declaration.type with
  | .named .. =>
    (match declaration.type.underlying with
      | .basic name => name ∈ TypeExpr.enumBaseNames
      | _ => false)
    && declaration.owner == catalog.path
  | _ => false

/-- The enum value of a constant. Its enumeration exists afterwards even where the
literal is invalid. -/
def addEnumValue (naming : Naming) (catalog : Catalog) (declaration : Declaration) :
    Except IngestError Outcome × Catalog :=
  match declaration.declared with
  | .type _ => (.ok .skipped, catalog)
  | .const type literal =>
    if catalog.admits declaration then
      let enumName := type.simpleName
      let catalog := catalog.ensureEnum enumName
      match EnumValue.ofLiteral declaration.name literal with
      | .error error => (.error error, catalog)
      | .ok value =>
        let value := naming.applyEnumValue catalog value
        (.ok (.enumValue enumName value.name),
          catalog.putEnum enumName ((catalog.enumOrEmpty enumName).push value))
    else (.ok .skipped, catalog)

/-- The map of a map declaration, once for each declared name. -/
def addMap (naming : Naming) (catalog : Catalog) (declaration : Declaration) :
    Except IngestError Outcome × Catalog :=
  if catalog.maps.contains declaration.name then (.ok .duplicate, catalog)
  else
    match MapType.ofType declaration.name declaration.type with
    | .error error => (.error error, catalog)
    | .ok map =>
      let map := naming.applyMap catalog map
      (.ok (.map declaration.name),
        { catalog with maps := catalog.maps.insert declaration.name map })

/-- Hand a declaration to the builder of its class. -/
def build (naming : Naming) (catalog : Catalog) (declaration : Declaration) :
    Except IngestError Outcome × Catalog :=
  match declaration.classify with
  | .struct =>
    let (outcome, catalog) := catalog.addMessage naming declaration
    (.ok outcome, catalog)
  | .constant => catalog.addEnumValue naming declaration
  | .map => catalog.addMap naming declaration
  | .other => (.ok .skipped, catalog)

/-- Take in a declaration. One that is not exported is skipped, and a failure is
reported. -/
def ingest (naming : Naming) (catalog : Catalog) (declaration : Declaration) :
    Except IngestError Outcome × Catalog :=
  if declaration.isExported then
    match catalog.build naming declaration with
    | (.ok outcome, catalog) => (.ok outcome, catalog)
    | (.error error, catalog) => (.error error, catalog.report declaration.name error)
  else (.ok .skipped, catalog)

/-- Take in declarations in order, and count the failures. -/
def ingestAll (naming : Naming) (catalog : Catalog) : List Declaration → Nat × Catalog
  | [] => (0, catalog)
  | declaration :: rest =>
    match catalog.ingest naming declaration with
    | (.ok _, catalog) => catalog.ingestAll naming rest
    | (.error _, catalog) =>
      let (failures, catalog) := catalog.ingestAll naming rest
      (failures + 1, catalog)

/-- Make sure that an enumeration exists and append a constant's value to it, as it
is, without a naming and without a diagnostic. -/
def addConstant (catalog : Catalog) (enumName sourceName literal : String) :
    Except IngestError EnumValue × Catalog :=
  let catalog := catalog.ensureEnum enumName
  match (catalog.enumOrEmpty enumName).addConstant sourceName literal with
  | .error error => (.error error, catalog)
  | .ok (value, enumeration) => (.ok value, catalog.putEnum enumName enumeration)

/-- The canonical catalog of a manifest. -/
def ofManifest (naming : Naming) (manifest : Manifest) : Catalog :=
  ((empty manifest.name manifest.path).ingestAll naming manifest.declarations).2.canonicalize

end Catalog

end ProtoSchema
