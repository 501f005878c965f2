import ProtoSchema.Yaml.Scalar.Folding

/-!
# Plain scalars

A scalar without quotes goes on until something in the text shows that it is over: a
colon before a gap, a comment, less indentation, a document mark, or within a flow
collection one of its brackets or commas.
-/

namespace ProtoSchema.Yaml

/-- A plain scalar that is being read: its text so far, in reverse, and the gap after
it. -/
structure PlainScalar where
  text : List Char
  gap : Gap
deriving Repr, DecidableEq

/-- Where a plain scalar stands: within a flow collection, and the column that its
further lines have to reach. -/
structure PlainContext where
  inFlow : Bool
  indent : Nat
deriving Repr, DecidableEq

/-- The characters that end a plain scalar within a flow collection. -/
def isFlowIndicator (c : Char) : Bool :=
  c == ',' || c == '[' || c == ']' || c == '\x7b' || c == '\x7d'

namespace PlainScalar

/-- A plain scalar of one character. -/
def start (c : Char) : PlainScalar := ⟨[c], .empty⟩

/-- The content of a plain scalar. -/
def content (scalar : PlainScalar) : String :=
  String.ofList scalar.text.reverse

/-- Whether a gap precedes the next character. -/
def isBetweenWords (scalar : PlainScalar) : Bool :=
  !scalar.gap.chars.isEmpty

/-- Whether what follows the gap after a plain scalar is not part of it: a comment, a
document mark, or a line that is not indented far enough. -/
def isCutOff (scalar : PlainScalar) (context : PlainContext) (here : Placed)
    (rest : List Placed) : Bool :=
  (scalar.gap.hasBreak && !context.inFlow && here.column < context.indent)
    || (scalar.isBetweenWords && (here.char == '#' || isDocumentMark (here :: rest)))

/-- Whether a character ends a plain scalar by what it is. -/
def isEndedBy (context : PlainContext) (here : Placed) (rest : List Placed) : Bool :=
  (here.char == ':' && endsWord rest) || (context.inFlow && isFlowIndicator here.char)

/-- Whether a colon stands in a flow collection where it could be meant either way. -/
def isAmbiguous (context : PlainContext) (here : Placed) (rest : List Placed) : Bool :=
  context.inFlow && here.char == ':' && startsWith (fun c => isFlowIndicator c || c == '?') rest

/-- Append a character, with the gap before it. -/
def push (scalar : PlainScalar) (c : Char) : PlainScalar :=
  ⟨c :: (scalar.gap.fold.reverse ++ scalar.text), .empty⟩

/-- The step at a character: the scalar goes on, or is over and the character is not
part of it. -/
def step (scalar : PlainScalar) (context : PlainContext) (here : Placed)
    (rest : List Placed) : Except Fault (Option PlainScalar) :=
  if isGap here.char then
    if here.char == '\t' && scalar.gap.hasBreak && here.column < context.indent then
      .error .indentation
    else .ok (some { scalar with gap := scalar.gap.push here.char })
  else if scalar.isCutOff context here rest then .ok none
  else if isAmbiguous context here rest then .error .token
  else if isEndedBy context here rest then .ok none
  else .ok (some (scalar.push here.char))

end PlainScalar

end ProtoSchema.Yaml
