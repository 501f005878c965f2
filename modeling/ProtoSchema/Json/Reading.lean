import ProtoSchema.Data.Mismatch
import ProtoSchema.Json.Outline

/-!
# Reading JSON

A value is taken from an outline in one of three ways: it is read in full into data,
it is passed over, or a value of one kind is asked for and anything else is a
mismatch. Each meets the faults in the order of the text.

Lists and records that are read may nest 127 deep, counted from the start of the
text. What is passed over may nest to any depth.
-/

namespace ProtoSchema.Json

/-- Why a text does not yield the value that is asked for: it cannot be read, or it
does not fit. -/
inductive ReadError where
  | unreadable (stop : Stop)
  | unfit (mismatch : Mismatch)
deriving Repr, DecidableEq

namespace ReadError

/-- The text is not JSON. -/
def malformed : ReadError :=
  .unreadable .malformed

/-- The wording of an error. -/
def message : ReadError → String
  | .unreadable .endOfInput => "unexpected end of input"
  | .unreadable .malformed => "malformed JSON"
  | .unfit mismatch => mismatch.message

end ReadError

/-- The result of taking something from a text. -/
abbrev Result (α : Type) :=
  Except ReadError α

/-- Go on with a result that may be a mismatch. -/
def orUnfit {α : Type} : Except Mismatch α → Result α
  | .ok value => .ok value
  | .error mismatch => .error (.unfit mismatch)

/-- The number of lists and records that may be open at once. -/
def nestingLimit : Nat := 127

/-- A complete string that is wanted. -/
def textOf (pieces : List Piece) : Result String :=
  match Piece.decode? pieces with
  | some text => .ok (String.ofList text)
  | none => .error .malformed

/-- A complete numeral that is wanted. -/
def numberOf (numeral : Numeral) : Result Number :=
  match numeral.toNumber? with
  | some number => .ok number
  | none => .error .malformed

namespace Ending

/-- Pass the end of a list or record whose content was wanted. -/
def wanted : Ending → Result Unit
  | .closed => .ok ()
  | .stopped fault => .error (.unreadable fault.wanted)
  | .afterComma => .error (.unreadable .endOfInput)

/-- Pass the end of a list or record that was passed over. -/
def passedOver : Ending → Result Unit
  | .closed => .ok ()
  | .stopped fault => .error (.unreadable fault.passedOver)
  | .afterComma => .error (.unreadable .endOfInput)

/-- Pass the end of a list whose items have all been taken, given what is beyond
them: that must be nothing, not even a comma. -/
def afterLastItem {α : Type} : Ending → List α → Result Unit
  | .closed, [] => .ok ()
  | .stopped fault, [] => .error (.unreadable fault.wanted)
  | _, _ => .error .malformed

end Ending

namespace OutlineKey

/-- The name of a member that is wanted. -/
def wanted : OutlineKey → Result String
  | .text pieces => textOf pieces
  | .cut fault => .error (.unreadable fault.wanted)
  | .stray _ => .error .malformed

/-- Pass over the key of a member. -/
def passedOver : OutlineKey → Result Unit
  | .text _ => .ok ()
  | .cut fault => .error (.unreadable fault.passedOver)
  | .stray _ => .error .malformed

end OutlineKey

namespace Outline

mutual

/-- Pass over a value. -/
def skip : Outline → Result Unit
  | .list items ending => do
    skipItems items
    ending.passedOver
  | .record members ending => do
    skipMembers members
    ending.passedOver
  | .broken fault => .error (.unreadable fault.passedOver)
  | _ => .ok ()

/-- Pass over items. -/
def skipItems : List Outline → Result Unit
  | [] => .ok ()
  | item :: rest => do
    skip item
    skipItems rest

/-- Pass over members. -/
def skipMembers : List OutlineMember → Result Unit
  | [] => .ok ()
  | .mk key value :: rest => do
    key.passedOver
    skip value
    skipMembers rest

end

mutual

/-- Read a value in full, with a number of levels of nesting left. -/
def toData (levels : Nat) : Outline → Result Data
  | .null => .ok .null
  | .bool value => .ok (.bool value)
  | .numeral written => do return .number (← numberOf written)
  | .text pieces => do return .text (← textOf pieces)
  | .list items ending =>
    if levels = 0 then .error .malformed
    else do
      let items ← itemsToData (levels - 1) items
      ending.wanted
      return .list items
  | .record members ending =>
    if levels = 0 then .error .malformed
    else do
      let members ← membersToData (levels - 1) members
      ending.wanted
      return .record members
  | .broken fault => .error (.unreadable fault.wanted)

/-- Read items in full. -/
def itemsToData (levels : Nat) : List Outline → Result (List Data)
  | [] => .ok []
  | item :: rest => do
    let item ← toData levels item
    let rest ← itemsToData levels rest
    return item :: rest

/-- Read members in full. -/
def membersToData (levels : Nat) : List OutlineMember → Result (List (Key × Data))
  | [] => .ok []
  | .mk key value :: rest => do
    let name ← key.wanted
    let value ← toData levels value
    let rest ← membersToData levels rest
    return (.name name, value) :: rest

end

/-- What a value is, for a message. A list or record is recognised by its bracket. -/
def found : Outline → Result Found
  | .null => .ok .null
  | .bool value => .ok (.bool value)
  | .numeral written => do return .number (← numberOf written)
  | .text pieces => do return .text (← textOf pieces)
  | .list _ _ => .ok .list
  | .record _ _ => .ok .record
  | .broken fault => .error (.unreadable fault.wanted)

/-- The complaint about a value of the wrong kind. -/
def mismatch {α : Type} (outline : Outline) (wanted : String) : Result α := do
  let found ← outline.found
  .error (.unfit (.wrongKind found wanted))

/-- Ask for a text. -/
def asText : Outline → Result String
  | .text pieces => textOf pieces
  | outline => outline.mismatch "a string"

/-- Ask for a truth value or null. -/
def asFlag : Outline → Result (Option Bool)
  | .null => .ok none
  | .bool value => .ok (some value)
  | outline => outline.mismatch "a boolean"

end Outline

/-- Read a whole text by a reader of outlines. Nothing but white space may follow. -/
def readText {α : Type} (read : Outline → Result α) (text : String) : Result α := do
  let (outline, hasMore) := Outline.ofText text
  let value ← read outline
  if hasMore then .error .malformed else return value

end ProtoSchema.Json
