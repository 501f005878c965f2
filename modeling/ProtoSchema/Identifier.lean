import ProtoSchema.Text.Case

/-!
# Identifiers

An identifier is cut into words, and the words are joined again in the style of
the place where the name goes: `snake_case` for fields, `SCREAMING_SNAKE_CASE`
for enum values. A word ends at a separator and before a character that starts a
new word, which depends on that character and its two neighbours alone.
-/

namespace ProtoSchema.Identifier

open Text

/-- The characters that separate words and belong to none. -/
def isSeparator (c : Char) : Bool :=
  c == ' ' || c == '_' || c == '-' || c == '.'

/-- Whether `c`, standing between `before` and `after?`, starts a new word: a
capital after a small letter, a digit after a letter or the reverse, or the last
capital of an acronym that a small letter follows. -/
def startsWord (before c : Char) (after? : Option Char) : Bool :=
  (isLowercase before && isUppercase c)
    || (isAlphabetic before && isNumeric c)
    || (isNumeric before && isAlphabetic c)
    || (isUppercase before && isUppercase c && after?.any isLowercase)

/-- Whether the word that `c` belongs to goes on into the text after it. -/
def goesOn (c : Char) : List Char → Bool
  | [] => false
  | next :: rest => !isSeparator next && !startsWord c next rest.head?

/-- Put a character in front of the first word. -/
def extendFirst (c : Char) : List (List Char) → List (List Char)
  | [] => [[c]]
  | word :: rest => (c :: word) :: rest

/-- The words of a text. -/
def words : List Char → List (List Char)
  | [] => []
  | c :: rest =>
    if isSeparator c then words rest
    else if goesOn c rest then extendFirst c (words rest)
    else [c] :: words rest

/-- The words of a text without the white space around it, each put through a
case mapping, joined by underscores. -/
def joinWords (mapCase : List Char → List Char) (name : List Char) : List Char :=
  ['_'].intercalate ((words (trim name)).map mapCase)

/-- The name in small letters, its words joined by underscores. -/
def snakeCase (name : String) : String :=
  String.ofList (joinWords lowercase name.toList)

/-- The name in capital letters, its words joined by underscores. -/
def screamingSnakeCase (name : String) : String :=
  String.ofList (joinWords uppercase name.toList)

/-- The name of a message field. A name of two characters is lower-cased as it
stands, so that a short acronym such as `ID` is not cut. -/
def fieldName (name : String) : String :=
  if name.length = 2 then String.ofList (lowercase name.toList) else snakeCase name

/-- The name of an enum value. -/
def enumValueName (name : String) : String :=
  screamingSnakeCase name

end ProtoSchema.Identifier
