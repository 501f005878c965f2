import ProtoSchema.Catalog
import ProtoSchema.Document

/-!
# Concerns

What a lint rule may object to in a canonical catalog. A concern names the part of
the schema that it is about; how it is worded follows from the concern. One
function for each rule lists the rule's concerns about a catalog. Names are checked
against three styles, which speak of ASCII letters only, as the schema language does.
-/

namespace ProtoSchema.Lint

/-! ## Name styles -/

namespace Style

/-- Starts with a capital letter and has no underscore. -/
def isPascalCase (name : String) : Bool :=
  name.toList.head?.any Char.isUpper && !name.toList.contains '_'

/-- Starts with a small letter and goes on in small letters, digits and
underscores. -/
def isSnakeCase (name : String) : Bool :=
  name.toList.head?.any Char.isLower
    && name.toList.all fun c => c.isLower || c.isDigit || c == '_'

/-- Starts with a capital letter and goes on in capital letters, digits and
underscores. -/
def isScreamingSnakeCase (name : String) : Bool :=
  name.toList.head?.any Char.isUpper
    && name.toList.all fun c => c.isUpper || c.isDigit || c == '_'

end Style

/-! ## Concerns -/

/-- An objection to a part of the schema. -/
inductive Concern where
  | messageName (message : String)
  | fieldName (message field : String)
  | enumName (enumeration : String)
  | enumValueName (enumeration value : String)
  | mapName (map : String)
  | noDefault (enumeration : String)
  | gap (enumeration : String) (after next : Int)
  | noFields (message : String)
  | manyFields (message : String) (count limit : Nat)
deriving Repr, DecidableEq

namespace Concern

/-- A name in double quotes. -/
def quote (name : String) : String :=
  "\"" ++ name ++ "\""

/-- The part of the schema that a concern is about. -/
def target : Concern → String
  | .messageName message => message
  | .fieldName message field => message ++ "." ++ field
  | .enumName enumeration => enumeration
  | .enumValueName enumeration value => enumeration ++ "." ++ value
  | .mapName map => map
  | .noDefault enumeration => enumeration
  | .gap enumeration _ _ => enumeration
  | .noFields message => message
  | .manyFields message _ _ => message

/-- The wording of a concern. -/
def message : Concern → String
  | .messageName message => "Message name " ++ quote message ++ " should be PascalCase"
  | .fieldName _ field => "Field name " ++ quote field ++ " should be snake_case"
  | .enumName enumeration => "Enum name " ++ quote enumeration ++ " should be PascalCase"
  | .enumValueName _ value =>
    "Enum value " ++ quote value ++ " should be SCREAMING_SNAKE_CASE"
  | .mapName map => "Map name " ++ quote map ++ " should be PascalCase"
  | .noDefault enumeration =>
    "Enum " ++ quote enumeration ++ " has no zero value; "
      ++ quote (Document.defaultValueName ++ " = 0") ++ " will be synthesized"
  | .gap enumeration after next =>
    "Enum " ++ quote enumeration ++ " skips from " ++ toString after ++ " to " ++ toString next
  | .noFields message => "Message " ++ quote message ++ " has no exported fields"
  | .manyFields message count limit =>
    "Message " ++ quote message ++ " has " ++ toString count ++ " fields (max "
      ++ toString limit ++ "). Consider splitting the struct"

/-- The names of a message and of its fields that are out of style. -/
def ofMessageNames (message : Message) : List Concern :=
  (if Style.isPascalCase message.name then [] else [.messageName message.name])
    ++ (message.fields.filter (!Style.isSnakeCase ·.name)).map
      fun field => .fieldName message.name field.name

/-- The names of an enumeration and of its values that are out of style. -/
def ofEnumNames (enumeration : Enumeration) : List Concern :=
  (if Style.isPascalCase enumeration.name then [] else [.enumName enumeration.name])
    ++ (enumeration.values.filter (!Style.isScreamingSnakeCase ·.name)).map
      fun value => .enumValueName enumeration.name value.name

/-- The name of a map, if it is out of style. -/
def ofMapName (map : MapType) : List Concern :=
  if Style.isPascalCase map.name then [] else [.mapName map.name]

/-- All names of a catalog that are out of style. -/
def names (catalog : Catalog) : List Concern :=
  catalog.messages.flatMap ofMessageNames
    ++ catalog.enums.values.flatMap ofEnumNames
    ++ catalog.maps.values.flatMap ofMapName

/-- Enumerations without a zero value. -/
def missingDefaults (catalog : Catalog) : List Concern :=
  (catalog.enums.values.filter (·.missingDefault)).map (.noDefault ·.name)

/-- The first two neighbours in a sorted list of values that lie more than one
apart. -/
def firstGap? : List EnumValue → Option (Int × Int)
  | a :: b :: rest =>
    if a.value + 1 < b.value then some (a.value, b.value) else firstGap? (b :: rest)
  | _ => none

/-- Enumerations whose values do not form one run. -/
def gaps (catalog : Catalog) : List Concern :=
  catalog.enums.values.filterMap fun enumeration =>
    (firstGap? enumeration.values).map fun (after, next) => .gap enumeration.name after next

/-- Messages without a field. -/
def emptyMessages (catalog : Catalog) : List Concern :=
  (catalog.messages.filter (·.fields.isEmpty)).map (.noFields ·.name)

/-- Messages with more fields than a limit. -/
def largeMessages (limit : Nat) (catalog : Catalog) : List Concern :=
  (catalog.messages.filter (limit < ·.fields.length)).map fun message =>
    .manyFields message.name message.fields.length limit

end Concern

end ProtoSchema.Lint
