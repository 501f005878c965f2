import ProtoSchema.Yaml.Character

/-!
# Layout

The tokens of a YAML text include marks that are not written: the start and end of
block collections follow from indentation, and a mapping key is recognised only by
the colon after it. A layout holds the tokens so far together with the open
indentations and the places at which a key may have begun.
-/

namespace ProtoSchema.Yaml

/-- A token. -/
inductive Token where
  | documentStart
  | documentEnd
  | directive
  | blockListStart
  | blockRecordStart
  | blockEnd
  | blockEntry
  | flowListStart
  | flowListEnd
  | flowRecordStart
  | flowRecordEnd
  | flowEntry
  | key
  | value
  | alias (name : String)
  | anchor (name : String)
  | scalar (isPlain : Bool) (text : String)
deriving Repr, DecidableEq

/-- A place at which a key may have begun: the number of tokens before it, and whether
the layout leaves no other choice than a key. -/
structure KeyStart where
  tokenCount : Nat
  isRequired : Bool
  place : Placed
deriving Repr, DecidableEq

/-- The state of a layout. Tokens are held in reverse. `indents` are the columns of the
open block collections, the innermost first. `key` is the possible key at the
innermost level and `outer` are those of the levels around it, one for each open flow
collection and one for the block level. -/
structure Layout where
  tokens : List Token
  count : Nat
  indents : List Nat
  key : Option KeyStart
  outer : List (Option KeyStart)
  allowsKey : Bool
deriving Repr, DecidableEq

namespace Layout

/-- The layout before any token. -/
def start : Layout where
  tokens := []
  count := 0
  indents := []
  key := none
  outer := []
  allowsKey := true

/-- Whether a flow collection is open. -/
def inFlow (layout : Layout) : Bool :=
  !layout.outer.isEmpty

/-- Append a token. -/
def emit (layout : Layout) (token : Token) : Layout :=
  { layout with tokens := token :: layout.tokens, count := layout.count + 1 }

/-- Insert a token after the first `position` tokens. -/
def emitAt (layout : Layout) (position : Nat) (token : Token) : Layout :=
  let later := layout.count - position
  { layout with
    tokens := layout.tokens.take later ++ token :: layout.tokens.drop later
    count := layout.count + 1 }

/-- Whether the innermost block collection ends before a column. -/
def isInside (layout : Layout) (column : Nat) : Bool :=
  layout.indents.head?.all (· < column)

/-- The column that the further lines of a scalar have to reach. -/
def nextIndent (layout : Layout) : Nat :=
  layout.indents.head?.elim 0 (· + 1)

/-- The tokens and indentations that are left once the block collections beyond a
column are closed. -/
def closeBeyond (column : Nat) : List Nat → List Token → List Nat × List Token
  | [], tokens => ([], tokens)
  | indent :: rest, tokens =>
    if column < indent then closeBeyond column rest (.blockEnd :: tokens)
    else (indent :: rest, tokens)

/-- Close the block collections beyond a column. Indentation has no meaning within a
flow collection. -/
def unroll (layout : Layout) (column : Nat) : Layout :=
  if layout.inFlow then layout
  else
    let (indents, tokens) := closeBeyond column layout.indents layout.tokens
    { layout with
      indents, tokens, count := layout.count + (layout.indents.length - indents.length) }

/-- Close all block collections. -/
def unrollAll (layout : Layout) : Layout :=
  if layout.inFlow then layout
  else
    { layout with
      indents := []
      tokens := layout.indents.map (fun _ => .blockEnd) ++ layout.tokens
      count := layout.count + layout.indents.length }

/-- Open a block collection at a column if it is deeper than those that are open. The
token is inserted after the first `position` tokens. -/
def roll (layout : Layout) (column position : Nat) (token : Token) : Layout :=
  if layout.inFlow || !layout.isInside column then layout
  else { layout.emitAt position token with indents := column :: layout.indents }

/-- Give up a possible key. One that is required may not be given up. -/
def dropKey (layout : Layout) : Except Fault Layout :=
  match layout.key with
  | some key => if key.isRequired then .error .key else .ok { layout with key := none }
  | none => .ok layout

/-- Note that a key may begin here. -/
def noteKey (layout : Layout) (here : Placed) : Except Fault Layout :=
  if layout.allowsKey then do
    let isRequired := !layout.inFlow && layout.indents.head? == some here.column
    return { ← layout.dropKey with key := some ⟨layout.count, isRequired, here⟩ }
  else .ok layout

/-- The length that a key cannot exceed. -/
def keyLimit : Nat := 1024

/-- Whether a key that may have begun at a place can no longer end here. -/
def isStale (key : KeyStart) (here : Placed) : Bool :=
  key.place.line < here.line || key.place.index + keyLimit < here.index

/-- A possible key, unless it is too late for its colon. -/
def refresh (here : Placed) : Option KeyStart → Except Fault (Option KeyStart)
  | none => .ok none
  | some key =>
    if isStale key here then if key.isRequired then .error .key else .ok none
    else .ok (some key)

/-- Give up the possible keys for whose colon it is too late. -/
def dropStale (layout : Layout) (here : Placed) : Except Fault Layout := do
  let key ← refresh here layout.key
  let outer ← layout.outer.mapM (refresh here)
  return { layout with key, outer }

/-- Enter a flow collection. -/
def enterFlow (layout : Layout) : Layout :=
  { layout with key := none, outer := layout.key :: layout.outer }

/-- Leave a flow collection. -/
def leaveFlow (layout : Layout) : Layout :=
  match layout.outer with
  | [] => layout
  | key :: outer => { layout with key, outer }

/-- Allow or forbid a key to begin. -/
def allow (layout : Layout) (allowsKey : Bool) : Layout :=
  { layout with allowsKey }

end Layout

end ProtoSchema.Yaml
