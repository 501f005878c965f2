import ProtoSchema.Data
import ProtoSchema.Text.Quoted

/-!
# Mismatches

How data can fail to fit the form that is expected of it, and how each failure is
worded.
-/

namespace ProtoSchema

/-- What was found where something else was wanted. Lists and records are named
without their content. -/
inductive Found where
  | null
  | bool (value : Bool)
  | number (value : Number)
  | text (value : String)
  | list
  | record
deriving Repr, DecidableEq

namespace Found

/-- The description of a value. -/
def ofData : Data → Found
  | .null => .null
  | .bool value => .bool value
  | .number value => .number value
  | .text value => .text value
  | .list _ => .list
  | .record _ => .record

/-- The wording of what was found. -/
def message : Found → String
  | .null => "null"
  | .bool value => "boolean \x60" ++ toString value ++ "\x60"
  | .number (.integer value) => "integer \x60" ++ toString value ++ "\x60"
  | .number (.decimal digits) => "floating point \x60" ++ digits ++ "\x60"
  | .text value => "string " ++ Text.quoted value
  | .list => "sequence"
  | .record => "map"

end Found

/-- Why data does not fit the form that is expected of it. -/
inductive Mismatch where
  | missingField (name : String)
  | duplicateField (name : String)
  | wrongKind (found : Found) (wanted : String)
  | wrongLength (length : Nat) (wanted : String)
  | wrongIndex (found : Int) (count : Nat)
  | unknownVariant (name : String) (variants : List String)
deriving Repr, DecidableEq

namespace Mismatch

/-- A list of alternatives, at least one of them. -/
def alternatives : List String → String
  | [] => "there are no variants"
  | [name] => "expected \x60" ++ name ++ "\x60"
  | [first, second] => "expected \x60" ++ first ++ "\x60 or \x60" ++ second ++ "\x60"
  | names =>
    "expected one of " ++ ", ".intercalate (names.map fun name => "\x60" ++ name ++ "\x60")

/-- The wording of a mismatch. -/
def message : Mismatch → String
  | .missingField name => "missing field \x60" ++ name ++ "\x60"
  | .duplicateField name => "duplicate field \x60" ++ name ++ "\x60"
  | .wrongKind found wanted => "invalid type: " ++ found.message ++ ", expected " ++ wanted
  | .wrongLength length wanted =>
    "invalid length " ++ toString length ++ ", expected " ++ wanted
  | .wrongIndex found count =>
    "invalid value: integer \x60" ++ toString found ++ "\x60, expected variant index 0 <= i < "
      ++ toString count
  | .unknownVariant name variants =>
    "unknown variant \x60" ++ name ++ "\x60, " ++ alternatives variants

/-- A number of things, in words. -/
def countOf (count : Nat) : String :=
  toString count ++ (if count = 1 then " element" else " elements")

/-- Refuse a field that has been read before. -/
def refuseTwice {α : Type} (field : String) : Option α → Except Mismatch Unit
  | none => .ok ()
  | some _ => .error (.duplicateField field)

/-- A field that must be there. -/
def require {α : Type} (field : String) : Option α → Except Mismatch α
  | none => .error (.missingField field)
  | some value => .ok value

/-- The complaint about a value of the wrong kind. -/
def ofData (data : Data) (wanted : String) : Mismatch :=
  .wrongKind (.ofData data) wanted

end Mismatch

end ProtoSchema
