import ProtoSchema.Text.Basic
import ProtoSchema.Text.Table.CaseMapping

/-!
# Small and capital letters

Case mapping may change the length of a text: `ß` becomes `SS`. It depends on
the surroundings in one place only: a capital sigma that ends a word becomes `ς`
instead of `σ`.
-/

namespace ProtoSchema.Text

/-- The mapping of a single character that has an entry in the tables, or the
character itself. -/
def mapWith (sequences : List (Nat × List Nat)) (shifts : List Table.Shift) (c : Char) :
    List Char :=
  match sequences.lookup c.toNat with
  | some codes => codes.map Char.ofNat
  | none =>
    match Table.Shift.apply? shifts c.toNat with
    | some code => [Char.ofNat code]
    | none => [c]

/-- The small form of a character, regardless of what surrounds it. -/
def lowercaseChar (c : Char) : List Char :=
  if c.toNat < 0x80 then [c.toLower]
  else mapWith Table.toLowercaseSequence Table.toLowercase c

/-- The capital form of a character. -/
def uppercaseChar (c : Char) : List Char :=
  if c.toNat < 0x80 then [c.toUpper]
  else mapWith Table.toUppercaseSequence Table.toUppercase c

/-- Whether the first character that is not case-ignorable is cased. -/
def startsCased (text : List Char) : Bool :=
  match text.dropWhile isCaseIgnorable with
  | [] => false
  | c :: _ => isCased c

/-- The small form of a text that follows the characters `before`, the nearest
first. -/
def lowercaseAfter (before : List Char) : List Char → List Char
  | [] => []
  | c :: rest =>
    (if c = 'Σ' then [if startsCased before && !startsCased rest then 'ς' else 'σ']
      else lowercaseChar c)
    ++ lowercaseAfter (c :: before) rest

/-- The small form of a text. -/
def lowercase (text : List Char) : List Char :=
  lowercaseAfter [] text

/-- The capital form of a text. -/
def uppercase (text : List Char) : List Char :=
  text.flatMap uppercaseChar

end ProtoSchema.Text
