import ProtoSchema.Data
import ProtoSchema.Text.Quoted

/-!
# Written JSON

Data written as JSON text, either on one line or laid out with one member or item
to a line and two spaces for each level. Empty lists and records stay on the line
where they begin.
-/

namespace ProtoSchema.Json

/-- A character within a JSON string. Quotes, backslashes and controls are escaped;
everything else stands for itself. -/
def escapeChar (c : Char) : List Char :=
  if c = '"' then ['\\', '"']
  else if c = '\\' then ['\\', '\\']
  else if c = '\n' then ['\\', 'n']
  else if c = '\r' then ['\\', 'r']
  else if c = '\t' then ['\\', 't']
  else if c = '\x08' then ['\\', 'b']
  else if c = '\x0c' then ['\\', 'f']
  else if c.toNat < 0x10 then ['\\', 'u', '0', '0', '0'] ++ Text.hexDigits c.toNat
  else if c.toNat < 0x20 then ['\\', 'u', '0', '0'] ++ Text.hexDigits c.toNat
  else [c]

/-- A text as a JSON string. -/
def string (text : String) : String :=
  String.ofList (['"'] ++ text.toList.flatMap escapeChar ++ ['"'])

/-- A number as JSON. -/
def number : Number → String
  | .integer value => toString value
  | .decimal text => text

/-- A member's name as JSON. -/
def key : Key → String
  | .name text => string text
  | .position index => string (toString index)
  | .unusable => string ""

mutual

/-- Data on one line, without white space. -/
def compact : Data → String
  | .null => "null"
  | .bool value => toString value
  | .number value => number value
  | .text value => string value
  | .list [] => "[]"
  | .list (item :: items) => "[" ++ compact item ++ compactItems items ++ "]"
  | .record [] => "\x7b\x7d"
  | .record ((name, value) :: members) =>
    "\x7b" ++ key name ++ ":" ++ compact value ++ compactMembers members ++ "\x7d"

/-- The items after the first. -/
def compactItems : List Data → String
  | [] => ""
  | item :: items => "," ++ compact item ++ compactItems items

/-- The members after the first. -/
def compactMembers : List (Key × Data) → String
  | [] => ""
  | (name, value) :: members =>
    "," ++ key name ++ ":" ++ compact value ++ compactMembers members

end

/-- A new line at a level of nesting. -/
def newLine (level : Nat) : String :=
  "\n" ++ String.ofList (List.replicate (2 * level) ' ')

mutual

/-- Data laid out over lines, from a level of nesting. -/
def prettyAt (level : Nat) : Data → String
  | .null => "null"
  | .bool value => toString value
  | .number value => number value
  | .text value => string value
  | .list [] => "[]"
  | .list (item :: items) =>
    "[" ++ newLine (level + 1) ++ prettyAt (level + 1) item ++ prettyItems (level + 1) items
      ++ newLine level ++ "]"
  | .record [] => "\x7b\x7d"
  | .record ((name, value) :: members) =>
    "\x7b" ++ newLine (level + 1) ++ key name ++ ": " ++ prettyAt (level + 1) value
      ++ prettyMembers (level + 1) members ++ newLine level ++ "\x7d"

/-- The items after the first, each on its line. -/
def prettyItems (level : Nat) : List Data → String
  | [] => ""
  | item :: items => "," ++ newLine level ++ prettyAt level item ++ prettyItems level items

/-- The members after the first, each on its line. -/
def prettyMembers (level : Nat) : List (Key × Data) → String
  | [] => ""
  | (name, value) :: members =>
    "," ++ newLine level ++ key name ++ ": " ++ prettyAt level value
      ++ prettyMembers level members

end

/-- Data laid out over lines. -/
def pretty (data : Data) : String :=
  prettyAt 0 data

end ProtoSchema.Json
