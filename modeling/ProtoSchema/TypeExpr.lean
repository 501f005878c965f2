import ProtoSchema.Text.Basic

/-!
# Type expressions

The type of a declaration or of a struct member, as the type information
provider reports it. A named type carries what it is declared as, and
`underlying` looks through such names. `signature` is the textual form under
which struct declarations are told apart.
-/

namespace ProtoSchema

mutual

/-- A member of a struct type. `exported` is none where the provider leaves the
export rule to the name. -/
structure Member where
  name : String
  exported : Option Bool
  tag : String
  type : TypeExpr

/-- A type expression. `other` holds the text of a type that the provider cannot
describe by its structure. -/
inductive TypeExpr where
  | basic (name : String)
  | named (package name : String) (underlying : TypeExpr)
  | pointer (elem : TypeExpr)
  | slice (elem : TypeExpr)
  | map (key elem : TypeExpr)
  | struct (members : List Member)
  | other (text : String)

end

instance : Inhabited TypeExpr := ⟨.basic ""⟩

/-- What kind of type an expression is once its names are looked through. -/
inductive Shape where
  | struct
  | integer
  | float
  | basic
  | sequence
  | map
  | pointer
  | other
deriving Repr, DecidableEq

/-- A member is exported as its flag says, and without a flag if its name starts
with a capital letter. -/
def Member.isExported (member : Member) : Bool :=
  member.exported.getD (member.name.toList.head?.any Text.isUppercase)

namespace TypeExpr

/-- The type with the names in front of it looked through. -/
def underlying : TypeExpr → TypeExpr
  | .named _ _ type => type.underlying
  | type => type

/-- The predeclared integer types. -/
def integerNames : List String :=
  ["int", "int8", "int16", "int32", "int64", "uint", "uint8", "uint16", "uint32", "uint64",
    "uintptr", "byte", "rune"]

/-- The predeclared floating point types. -/
def floatNames : List String :=
  ["float32", "float64"]

/-- The predeclared types that an enum may be based on. -/
def enumBaseNames : List String :=
  ["int", "int32", "int64"]

/-- The shape of a type. -/
def shape (type : TypeExpr) : Shape :=
  match type.underlying with
  | .basic name =>
    if name ∈ integerNames then .integer
    else if name ∈ floatNames then .float
    else .basic
  | .struct _ => .struct
  | .slice _ => .sequence
  | .map _ _ => .map
  | .pointer _ => .pointer
  | .named .. | .other _ => .other

/-- The package that a named type belongs to, looking through pointers. -/
def package? : TypeExpr → Option String
  | .named package _ _ => if package = "" then none else some package
  | .pointer elem => elem.package?
  | _ => none

/-- A name with its package in front of it, where it has one. -/
def qualify (package name : String) : String :=
  if package = "" then name else package ++ "." ++ name

mutual

/-- The qualified textual form, such as `[]*example.com/shop.Item`. -/
def signature : TypeExpr → String
  | .basic name => name
  | .named package name _ => qualify package name
  | .pointer elem => "*" ++ elem.signature
  | .slice elem => "[]" ++ elem.signature
  | .map key elem => "map[" ++ key.signature ++ "]" ++ elem.signature
  | .struct members => "struct\x7b" ++ "; ".intercalate (memberSignatures members) ++ "\x7d"
  | .other text => text

/-- The textual form of each member: its name and its type. -/
def memberSignatures : List Member → List String
  | [] => []
  | ⟨name, _, _, type⟩ :: rest => (name ++ " " ++ type.signature) :: memberSignatures rest

end

/-- The name without its package, looking through pointers; the signature of a
type that has no name. -/
def simpleName : TypeExpr → String
  | .named _ name _ => name
  | .pointer elem => elem.simpleName
  | type => type.signature

end TypeExpr

end ProtoSchema
