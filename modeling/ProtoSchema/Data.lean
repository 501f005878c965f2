/-!
# Data

The values that a JSON or YAML text denotes, without regard to how they are
written. Records keep their members in the order of the text, repeated names
included, since a reader may have to report the first fault in that order.
-/

namespace ProtoSchema

/-- A number: an integer, or the decimal text of any other number. -/
inductive Number where
  | integer (value : Int)
  | decimal (text : String)
deriving Repr, DecidableEq

/-- The name of a record member. A format that allows other keys than texts has two
further cases: a member given by its position in the record's form, and a key
that can name no member. -/
inductive Key where
  | name (text : String)
  | position (index : Nat)
  | unusable
deriving Repr, DecidableEq

/-- A value. -/
inductive Data where
  | null
  | bool (value : Bool)
  | number (value : Number)
  | text (value : String)
  | list (items : List Data)
  | record (members : List (Key × Data))
deriving Repr

namespace Data

instance : Inhabited Data := ⟨.null⟩

/-- An integer as a value. -/
def int (value : Int) : Data :=
  .number (.integer value)

/-- A record given by the names and values of its members. -/
def ofMembers (members : List (String × Data)) : Data :=
  .record (members.map fun (name, value) => (.name name, value))

end Data

end ProtoSchema
