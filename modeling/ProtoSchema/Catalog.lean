import ProtoSchema.Diagnostic
import ProtoSchema.Enumeration
import ProtoSchema.Message
import ProtoSchema.NameTable

/-!
# Catalogs

The schema model of one source package: its messages, enumerations and maps, the
packages it imports and the diagnostics of the declarations that failed. A
catalog starts empty, takes in declarations one at a time (`Catalog.Ingest`) and
is brought into canonical order at the end. A type declaration of map shape is kept
with the types of its keys and elements, as they are written and as they resolve.
-/

namespace ProtoSchema

/-! ## Maps -/

/-- A named map. `name`, `keyType` and `elemType` are for display and may be
rewritten by a naming. -/
structure MapType where
  name : String
  keyType : String
  elemType : String
  underlyingKeyType : String
  underlyingElemType : String
deriving Repr, DecidableEq

/-- The map that a type describes. A type of another shape is an error, which a
declaration of map class never meets. -/
def MapType.ofType (name : String) (type : TypeExpr) : Except IngestError MapType :=
  match type.underlying with
  | .map key elem => .ok
    { name
      keyType := key.signature
      elemType := elem.signature
      underlyingKeyType := key.underlying.signature
      underlyingElemType := elem.underlying.signature }
  | found => .error (.notAMap name found.signature)

/-! ## Catalogs -/

/-- The schema model of the package `name` with import path `path`. `seen` holds the
signatures of the struct declarations taken in so far. -/
structure Catalog where
  name : String
  path : String
  messages : List Message
  enums : NameTable Enumeration
  maps : NameTable MapType
  imports : List String
  diagnostics : List Diagnostic
  seen : List String

namespace Catalog

/-- The catalog of a package before any declaration. -/
def empty (name path : String) : Catalog where
  name
  path
  messages := []
  enums := .empty
  maps := .empty
  imports := []
  diagnostics := []
  seen := []

/-- Record an import once. -/
def addImport (catalog : Catalog) (package : String) : Catalog :=
  if package ∈ catalog.imports then catalog
  else { catalog with imports := catalog.imports ++ [package] }

/-- Record several imports in order. -/
def addImports (catalog : Catalog) (packages : List String) : Catalog :=
  packages.foldl addImport catalog

/-- The enumeration of a name, empty if the catalog has none. -/
def enumOrEmpty (catalog : Catalog) (name : String) : Enumeration :=
  (catalog.enums.find? name).getD (.empty name)

/-- Store an enumeration under a name. -/
def putEnum (catalog : Catalog) (name : String) (enumeration : Enumeration) : Catalog :=
  { catalog with enums := catalog.enums.insert name enumeration }

/-- Make sure that an enumeration exists, and leave one that does as it is. -/
def ensureEnum (catalog : Catalog) (name : String) : Catalog :=
  catalog.putEnum name (catalog.enumOrEmpty name)

/-- The first message of a name. -/
def message? (catalog : Catalog) (name : String) : Option Message :=
  catalog.messages.find? (·.name == name)

/-- Report the error that a declaration met. -/
def report (catalog : Catalog) (declaration : String) (error : IngestError) : Catalog :=
  { catalog with
    diagnostics := catalog.diagnostics ++ [Diagnostic.ofError declaration error] }

/-- Bring every enumeration into canonical form and sort the messages by name. -/
def canonicalize (catalog : Catalog) : Catalog :=
  { catalog with
    enums := catalog.enums.mapValues Enumeration.canonicalize
    messages := catalog.messages.mergeSort fun a b => a.name ≤ b.name }

end Catalog

end ProtoSchema
