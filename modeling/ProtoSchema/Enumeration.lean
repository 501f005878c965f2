import ProtoSchema.Diagnostic
import ProtoSchema.Identifier

/-!
# Enumerations

The constants of one integer type form an enumeration. Its values are collected in
any order; the canonical form sorts them by value and name and notes whether two
values share a number and whether none is zero, in which case the schema adds a
zero value of its own.
-/

namespace ProtoSchema

/-- A value of an enumeration. `name` is for display and may be rewritten by a
naming; `sourceName` is the constant's identifier. -/
structure EnumValue where
  name : String
  value : Int
  sourceName : String
deriving Repr, DecidableEq

namespace EnumValue

/-- The value of a constant, read from its literal. -/
def ofLiteral (sourceName literal : String) : Except IngestError EnumValue :=
  match IntLiteral.parse literal with
  | .ok value => .ok { name := Identifier.enumValueName sourceName, value, sourceName }
  | .error cause => .error (.invalidLiteral sourceName literal cause)

/-- The canonical order: by value, and by name where the values agree. -/
def precedes (a b : EnumValue) : Bool :=
  a.value < b.value || (a.value == b.value && a.name ≤ b.name)

end EnumValue

/-- An enumeration with the flags of its canonical form. -/
structure Enumeration where
  name : String
  values : List EnumValue
  allowAlias : Bool
  missingDefault : Bool
  hasGaps : Bool
deriving Repr, DecidableEq

namespace Enumeration

/-- An enumeration without values. -/
def empty (name : String) : Enumeration where
  name
  values := []
  allowAlias := false
  missingDefault := true
  hasGaps := false

/-- Append a value. The flags describe the last canonical form and stay. -/
def push (enumeration : Enumeration) (value : EnumValue) : Enumeration :=
  { enumeration with values := enumeration.values ++ [value] }

/-- Append the value of a constant, unless its literal is invalid. -/
def addConstant (enumeration : Enumeration) (sourceName literal : String) :
    Except IngestError (EnumValue × Enumeration) :=
  (EnumValue.ofLiteral sourceName literal).map fun value => (value, enumeration.push value)

/-- Whether two neighbours in a list of values share a number. -/
def hasNeighbourAlias : List EnumValue → Bool
  | a :: b :: rest => a.value == b.value || hasNeighbourAlias (b :: rest)
  | _ => false

/-- The canonical form. Equal numbers are neighbours once the values are sorted. A
gap between numbers is not recorded here: the schema allows it, and the flag stays
down. -/
def canonicalize (enumeration : Enumeration) : Enumeration :=
  let values := enumeration.values.mergeSort EnumValue.precedes
  { name := enumeration.name
    values
    allowAlias := hasNeighbourAlias values
    missingDefault := values.all (·.value != 0)
    hasGaps := false }

end Enumeration

end ProtoSchema
