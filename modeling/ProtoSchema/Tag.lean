import ProtoSchema.Text.Basic

/-!
# Member tags

A struct member may carry a tag such as `json:"name,omitempty" xml:"n"`: a run of
entries, each a key and a quoted value, with white space allowed around them. In
a value a backslash takes the next character literally, and commas separate the
name from the options. A tag that departs from this form anywhere has no entries
at all.
-/

namespace ProtoSchema.Tag

/-- One `key:"name,option,…"` of a tag. -/
structure Entry where
  key : String
  name : String
  options : List String
deriving Repr, DecidableEq

/-- The characters that cannot be part of a key. -/
def endsKey (c : Char) : Bool :=
  Text.isWhiteSpace c || c == ':' || c == '"'

/-- The entry of a key and an unquoted value. -/
def Entry.ofValue (key value : List Char) : Entry :=
  let pieces := (Text.pieces ',' value).map String.ofList
  { key := String.ofList key, name := pieces.headD "", options := pieces.tail }

/-- How far the reader is: between entries, within a key, after the colon, within
a value, or after a backslash in a value. Texts are held in reverse. -/
inductive Place where
  | between
  | inKey (key : List Char)
  | afterColon (key : List Char)
  | inValue (key value : List Char)
  | afterBackslash (key value : List Char)
deriving Repr, DecidableEq

/-- Read the rest of a tag from a place in it. -/
def readFrom : Place → List Char → Option (List Entry)
  | .between, [] => some []
  | _, [] => none
  | .between, c :: rest =>
    if Text.isWhiteSpace c then readFrom .between rest
    else if endsKey c then none
    else readFrom (.inKey [c]) rest
  | .inKey key, c :: rest =>
    if c = ':' then readFrom (.afterColon key) rest
    else if endsKey c then none
    else readFrom (.inKey (c :: key)) rest
  | .afterColon key, c :: rest =>
    if c = '"' then readFrom (.inValue key []) rest else none
  | .inValue key value, c :: rest =>
    if c = '"' then
      (readFrom .between rest).map (Entry.ofValue key.reverse value.reverse :: ·)
    else if c = '\\' then readFrom (.afterBackslash key value) rest
    else readFrom (.inValue key (c :: value)) rest
  | .afterBackslash key value, c :: rest =>
    if c = '\n' then none else readFrom (.inValue key (c :: value)) rest

/-- The entries of a well-formed tag. -/
def parse? (tag : String) : Option (List Entry) :=
  readFrom .between tag.toList

/-- The explicit wire name: the name under the first `json` key, unless it is
empty or the mark `-` for a member that is left out. -/
def jsonName? (tag : String) : Option String := do
  let entries ← parse? tag
  let entry ← entries.find? (·.key == "json")
  if entry.name == "" || entry.name == "-" then none else some entry.name

end ProtoSchema.Tag
