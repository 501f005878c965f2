/-!
# YAML characters

The characters that a YAML text may hold, the classes that its layout depends on,
and a text as a list of characters with their places. Line breaks are made uniform
first, except for the two separators that are kept where a text is folded.
-/

namespace ProtoSchema.Yaml

/-- Why a YAML text cannot be read. -/
inductive Fault where
  | character
  | token
  | key
  | indentation
  | name
  | quotation
  | header
  | directive
  | misplaced
  | unknownAlias
  | anotherDocument
  | nesting
  | number
  | repetition
deriving Repr, DecidableEq

/-- The wording of a fault. -/
def Fault.message : Fault → String
  | .character => "control characters are not allowed"
  | .token => "found character that cannot start any token"
  | .key => "could not find expected ':'"
  | .indentation => "found a tab character where indentation is expected"
  | .name => "did not find expected name of an anchor"
  | .quotation => "found a quoted scalar that is not well formed"
  | .header => "found a block scalar header that is not well formed"
  | .directive => "found a directive that is not supported"
  | .misplaced => "did not find expected node content"
  | .unknownAlias => "unknown anchor"
  | .anotherDocument => "expected a single document"
  | .nesting => "recursion limit exceeded"
  | .number => "integer out of range"
  | .repetition => "repetition limit exceeded"

/-- The characters that may occur at all. -/
def isAllowed (c : Char) : Bool :=
  let code := c.toNat
  c == '\t' || c == '\n' || c == '\r' || (0x20 ≤ code && code ≤ 0x7E) || code == 0x85
    || (0xA0 ≤ code && code ≤ 0xFFFD) || 0x10000 ≤ code

/-- Space and tab. -/
def isBlank (c : Char) : Bool :=
  c == ' ' || c == '\t'

/-- The line breaks of a text whose breaks are uniform. -/
def isBreak (c : Char) : Bool :=
  c == '\n' || c == '\u2028' || c == '\u2029'

/-- The characters that end a word. -/
def isGap (c : Char) : Bool :=
  isBlank c || isBreak c

/-- The characters that may form the name of an anchor. -/
def isNameChar (c : Char) : Bool :=
  c.isAlphanum || c == '_' || c == '-'

/-- The mark that may stand in front of a text. -/
def byteOrderMark : Char := '\ufeff'

/-- Write every line break as a line feed, except for the two separators. -/
def uniform : List Char → List Char
  | [] => []
  | '\r' :: '\n' :: rest => '\n' :: uniform rest
  | c :: rest => (if c = '\r' ∨ c = '\u0085' then '\n' else c) :: uniform rest

/-- A character with its place: its line, its column and its index in the text. -/
structure Placed where
  char : Char
  line : Nat
  column : Nat
  index : Nat
deriving Repr, DecidableEq

/-- The characters of a text with their places, from a place on. -/
def placedFrom (line column index : Nat) : List Char → List Placed
  | [] => []
  | c :: rest =>
    { char := c, line, column, index } ::
      if isBreak c then placedFrom (line + 1) 0 (index + 1) rest
      else placedFrom line (column + 1) (index + 1) rest

/-- The characters of a text with their places. One mark in front of the text counts
for nothing. -/
def placed (text : List Char) : List Placed :=
  placedFrom 0 0 0 (uniform (if text.head? = some byteOrderMark then text.tail else text))

/-- Whether the first character exists and passes a test. -/
def startsWith (test : Char → Bool) (text : List Placed) : Bool :=
  text.head?.any (test ·.char)

/-- Whether a word ends here: at a blank, a break or the end of the text. -/
def endsWord (text : List Placed) : Bool :=
  text.head?.all (isGap ·.char)

/-- Whether three equal characters stand at the start of a line and make up a word. -/
def isMarkOf (c : Char) : List Placed → Bool
  | first :: second :: third :: rest =>
    first.column == 0 && first.char == c && second.char == c && third.char == c && endsWord rest
  | _ => false

/-- Whether a mark between documents stands here. -/
def isDocumentMark (text : List Placed) : Bool :=
  isMarkOf '-' text || isMarkOf '.' text

end ProtoSchema.Yaml
