import ProtoSchema.Data.Mismatch
import ProtoSchema.Yaml.Document
import ProtoSchema.Yaml.PlainValue

/-!
# Reading YAML

A value is taken from a node in one of two ways: it is read in full into data, or a
value of one kind is asked for. Where a text is asked for, the text of any scalar will
do; in data a plain scalar denotes what it looks like. Nodes that nobody asks for are
not looked at.

Aliases are followed as they are met. The number of aliases that may be followed is
bounded by the size of the document, and collections may nest 128 deep.
-/

namespace ProtoSchema.Yaml

/-- Why a text does not yield the value that is asked for. -/
inductive ReadError where
  | unreadable (fault : Fault)
  | unfit (mismatch : Mismatch)
deriving Repr, DecidableEq

/-- The wording of an error. -/
def ReadError.message : ReadError → String
  | .unreadable fault => fault.message
  | .unfit mismatch => mismatch.message

/-- A reader of a document. The state is the number of aliases followed so far. -/
abbrev Reader (α : Type) :=
  ReaderT Document (StateT Nat (Except ReadError)) α

namespace Reader

/-- The number of collections that may be open at once. -/
def nestingLimit : Nat := 128

/-- The number of aliases that may be followed for each unit of a document's size. -/
def aliasesPerUnit : Nat := 100

/-- Fail for a fault of the text. -/
def fail {α : Type} (fault : Fault) : Reader α :=
  throw (.unreadable fault)

/-- Go on with a result that may be a mismatch. -/
def orUnfit {α : Type} : Except Mismatch α → Reader α
  | .ok value => return value
  | .error mismatch => throw (.unfit mismatch)

/-- The node that is meant: an alias stands for its target. -/
def follow (node : Node Nat) : Reader (Node Nat) :=
  match node with
  | .alias number => do
    let document ← read
    let followed ← get
    if aliasesPerUnit * document.size ≤ followed then fail .repetition
    else
      set (followed + 1)
      match document.target? number with
      | some node => return node
      | none => fail .unknownAlias
  | node => return node

/-- The value of a scalar. -/
def scalarValue (isPlain : Bool) (text : String) : Reader Data :=
  if isPlain then
    match plainValue text with
    | .ok data => return data
    | .error fault => fail fault
  else return .text text

/-- What a node is, for a message. -/
def foundOf : Node Nat → Reader Found
  | .scalar _ isPlain text => do return .ofData (← scalarValue isPlain text)
  | .list .. => return .list
  | .record .. => return .record
  | .alias _ => return .null

/-- The complaint about a node of the wrong kind. -/
def mismatch {α : Type} (node : Node Nat) (wanted : String) : Reader α := do
  throw (.unfit (.wrongKind (← foundOf node) wanted))

/-- Ask for a text. -/
def asText (node : Node Nat) : Reader String := do
  match ← follow node with
  | .scalar _ _ text => return text
  | node => mismatch node "a string"

/-- Whether a node stands for nothing. -/
def isNothing : Node Nat → Bool
  | .scalar _ true text => text == "" || isNull text
  | _ => false

/-- Ask for something that may be nothing. -/
def asOptional {α : Type} (read : Node Nat → Reader α) (node : Node Nat) :
    Reader (Option α) := do
  let node ← follow node
  if isNothing node then return none else return some (← read node)

/-- Ask for a truth value. -/
def asBool (node : Node Nat) : Reader Bool := do
  match ← follow node with
  | .scalar anchor true text =>
    match truth? text with
    | some value => return value
    | none => mismatch (.scalar anchor true text) "a boolean"
  | node => mismatch node "a boolean"

/-- Whether a node is left empty. It then counts as a list or record without content. -/
def isLeftEmpty : Node Nat → Bool
  | .scalar _ true text => text == ""
  | _ => false

/-- Ask for a list, and read its items with one level less. -/
def asList {α : Type} (levels : Nat) (read : Nat → Node Nat → Reader α) (node : Node Nat) :
    Reader (List α) := do
  match ← follow node with
  | .list _ items => if levels = 0 then fail .nesting else items.mapM (read (levels - 1))
  | node => if isLeftEmpty node then return [] else mismatch node "a sequence"

/-- Ask for a record. The values of its members have one level less. -/
def asRecord (levels : Nat) (wanted : String) (node : Node Nat) :
    Reader (List (Node Nat × Node Nat)) := do
  match ← follow node with
  | .record _ members => if levels = 0 then fail .nesting else return members
  | node => if isLeftEmpty node then return [] else mismatch node wanted

/-- The key that a value denotes in data. -/
def keyOf : Data → Key
  | .text name => .name name
  | .number (.integer (.ofNat index)) => .position index
  | _ => .unusable

/-- Read a node in full, with a number of levels of nesting left. -/
def toData (levels : Nat) (node : Node Nat) : Reader Data := do
  match ← follow node with
  | .scalar _ isPlain text => scalarValue isPlain text
  | .list _ items =>
    match levels with
    | 0 => fail .nesting
    | levels + 1 => return .list (← items.mapM (toData levels))
  | .record _ members =>
    match levels with
    | 0 => fail .nesting
    | levels + 1 => do
      let members ← members.mapM fun (key, value) => do
        let key ← toData levels key
        let value ← toData levels value
        return (keyOf key, value)
      return .record members
  | .alias _ => fail .misplaced

end Reader

/-- Read a whole text by a reader of its root. -/
def readText {α : Type} (read : Node Nat → Reader α) (text : String) : Except ReadError α :=
  match Document.ofText text with
  | .error fault => .error (.unreadable fault)
  | .ok document => ((read document.root).run document).run' 0

end ProtoSchema.Yaml
