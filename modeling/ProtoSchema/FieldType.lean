import ProtoSchema.TypeExpr

/-!
# Field types

The type of a message field, resolved relative to the package that the schema is
for, its home. Sequences become repeated fields, maps become `map<K,V>`, pointers
and nested sequences are looked through, and a named type of another package is
written with its package, which the schema then has to import.
-/

namespace ProtoSchema

/-- How a struct member's type appears in a message. -/
structure FieldType where
  typeName : String
  isRepeated : Bool
  imports : List String
deriving Repr, DecidableEq

namespace FieldType

/-- The schema's scalar type for a predeclared type; a name that has none stays as
it is. -/
def scalarName (name : String) : String :=
  if name ∈ ["int", "int32", "int64"] then "int64"
  else if name = "float32" then "float"
  else if name = "float64" then "double"
  else name

/-- Whether a package is another one than the home. A type without a package is at
home everywhere. -/
def isForeign (home package : String) : Bool :=
  package != "" && package != home

/-- How a named type is referred to: by its bare name at home, with its package
elsewhere. -/
def reference (home package name : String) : String :=
  if isForeign home package then package ++ "." ++ name else name

/-- The name of a type in a place that holds a single value. -/
def valueName (home : String) : TypeExpr → String
  | .basic name => scalarName name
  | .named package name _ => reference home package name
  | .pointer elem => valueName home elem
  | .slice elem => valueName home elem
  | .map key elem => "map<" ++ valueName home key ++ "," ++ valueName home elem ++ ">"
  | type => type.signature

/-- The foreign packages that the name of a type mentions, in order of occurrence. -/
def mentions (home : String) : TypeExpr → List String
  | .named package _ _ => if isForeign home package then [package] else []
  | .pointer elem => mentions home elem
  | .slice elem => mentions home elem
  | .map key elem => mentions home key ++ mentions home elem
  | _ => []

/-- A field that is written like a single value of a type. -/
def ofValue (home : String) (type : TypeExpr) (isRepeated : Bool) : FieldType where
  typeName := valueName home type
  isRepeated
  imports := (mentions home type).eraseDups

/-- The field type of a struct member. What a type resolves to decides the form;
a type that resolves to no describable structure is written by its signature. -/
def ofType (home : String) (type : TypeExpr) : FieldType :=
  match type.underlying with
  | .slice elem => ofValue home elem true
  | .map key elem => ofValue home (.map key elem) false
  | .named .. | .other _ => { typeName := type.signature, isRepeated := false, imports := [] }
  | _ => ofValue home type false

end FieldType

end ProtoSchema
