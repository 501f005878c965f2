import ProtoSchema.TypeExpr

/-!
# Declarations and manifests

A manifest is everything that the provider reports about one source package: its
name, its import path and its declarations. Every declaration falls into exactly
one class, which decides what the schema makes of it.
-/

namespace ProtoSchema

/-- What a declaration declares: a type, or a constant of a type with the text of
its value. -/
inductive Declared where
  | type (type : TypeExpr)
  | const (type : TypeExpr) (value : String)

/-- A declaration of a source package. `exported` is none where the provider does
not say, and then the declaration counts as exported. -/
structure Declaration where
  name : String
  package : String
  exported : Option Bool
  declared : Declared

/-- The declarations of one source package. -/
structure Manifest where
  name : String
  path : String
  declarations : List Declaration

namespace Declaration

/-- What the schema makes of a declaration. -/
inductive Class where
  | struct
  | constant
  | map
  | other
deriving Repr, DecidableEq

/-- The declared type, or the type of the constant. -/
def type (declaration : Declaration) : TypeExpr :=
  match declaration.declared with
  | .type type => type
  | .const type _ => type

/-- A declaration is exported unless its flag says otherwise. -/
def isExported (declaration : Declaration) : Bool :=
  declaration.exported.getD true

/-- The package that owns the declared type: the one that the type names, or else
the declaration's own. -/
def owner (declaration : Declaration) : String :=
  declaration.type.package?.getD declaration.package

/-- A constant. -/
def isConst (declaration : Declaration) : Bool :=
  match declaration.declared with
  | .type _ => false
  | .const _ _ => true

/-- A type declaration of struct shape. -/
def isStruct (declaration : Declaration) : Bool :=
  !declaration.isConst && declaration.type.shape == .struct

/-- A type declaration of map shape. -/
def isMap (declaration : Declaration) : Bool :=
  !declaration.isConst && declaration.type.shape == .map

/-- The class of a declaration. -/
def classify (declaration : Declaration) : Class :=
  if declaration.isStruct then .struct
  else if declaration.isConst then .constant
  else if declaration.isMap then .map
  else .other

end Declaration

end ProtoSchema
