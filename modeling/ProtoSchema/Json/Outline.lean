import ProtoSchema.Json.Token

/-!
# JSON outlines

The structure of a JSON text as far as it can be read. A text that breaks off still
has an outline: the values before the fault are there, and the fault stands where
the next value would. A reader who walks an outline in order therefore meets the
faults of the text and the faults of its content in the order in which they occur.
-/

namespace ProtoSchema.Json

/-- How the items or members of an outline end: properly, at a fault, or with a comma
and then the end of the text. -/
inductive Ending where
  | closed
  | stopped (fault : Fault)
  | afterComma
deriving Repr, DecidableEq

mutual

/-- The outline of a value. -/
inductive Outline where
  | null
  | bool (value : Bool)
  | numeral (numeral : Numeral)
  | text (pieces : List Piece)
  | list (items : List Outline) (ending : Ending)
  | record (members : List OutlineMember) (ending : Ending)
  | broken (fault : Fault)

/-- The outline of a record member. -/
inductive OutlineMember where
  | mk (key : OutlineKey) (value : Outline)

/-- The outline of a member's key: a string, a string that breaks off, or something
else that stands where a key should. -/
inductive OutlineKey where
  | text (pieces : List Piece)
  | cut (fault : Fault)
  | stray (found : Outline)

end

namespace Outline

instance : Inhabited Outline := ⟨.null⟩

/-- What is being read around a value: a list with the items before it, or a record
with the members before it and the key of the value. Both are held in reverse. -/
inductive Frame where
  | item (before : List Outline)
  | member (before : List OutlineMember) (key : OutlineKey)

/-- What the reader expects next. In a list and in a record, `isFirst` tells the place
after the opening bracket from the place after a comma. -/
inductive Expected where
  | value
  | item (isFirst : Bool) (before : List Outline)
  | afterItem (before : List Outline)
  | key (isFirst : Bool) (before : List OutlineMember)
  | colon (before : List OutlineMember) (key : List Piece)
  | afterMember (before : List OutlineMember)

/-- The state of the reader: in the middle of a text, or past its value, with a mark
if more follows. -/
inductive State where
  | reading (expected : Expected) (around : List Frame)
  | finished (outline : Outline) (hasMore : Bool)

/-- The outline of a list that is held in reverse. -/
def closeList (before : List Outline) (ending : Ending) : Outline :=
  .list before.reverse ending

/-- The outline of a record that is held in reverse. -/
def closeRecord (before : List OutlineMember) (ending : Ending) : Outline :=
  .record before.reverse ending

/-- The whole outline once reading stops within a value. -/
def enclose (fault : Fault) (outline : Outline) : List Frame → Outline
  | [] => outline
  | .item before :: around =>
    enclose fault (closeList (outline :: before) (.stopped fault)) around
  | .member before key :: around =>
    enclose fault (closeRecord (.mk key outline :: before) (.stopped fault)) around

/-- Stop at a fault within a value that has been read as far as the outline shows. -/
def stop (fault : Fault) (outline : Outline) (around : List Frame) : State :=
  .finished (enclose fault outline around) false

/-- Go on after a complete value. -/
def deliver (outline : Outline) : List Frame → State
  | [] => .finished outline false
  | .item before :: around => .reading (.afterItem (outline :: before)) around
  | .member before key :: around => .reading (.afterMember (.mk key outline :: before)) around

/-- Go on at a token where a value is expected. -/
def beginValue (around : List Frame) : Token → State
  | .null => deliver .null around
  | .bool value => deliver (.bool value) around
  | .numeral written => deliver (.numeral written) around
  | .text pieces => deliver (.text pieces) around
  | .openList => .reading (.item true []) around
  | .openRecord => .reading (.key true []) around
  | .cutText fault | .cut fault => stop fault (.broken fault) around
  | .closeList | .closeRecord | .comma | .colon => stop .malformed (.broken .malformed) around

/-- What stands where a key should. -/
def strayKey : Token → OutlineKey
  | .text pieces => .text pieces
  | .cutText fault => .cut fault
  | .null => .stray .null
  | .bool value => .stray (.bool value)
  | .numeral written => .stray (.numeral written)
  | .openList => .stray (.list [] (.stopped .malformed))
  | .openRecord => .stray (.record [] (.stopped .malformed))
  | .cut fault => .stray (.broken fault)
  | .closeList | .closeRecord | .comma | .colon => .stray (.broken .malformed)

/-- The step at a token within a text. -/
def readingStep (around : List Frame) : Expected → Token → State
  | .value, token => beginValue around token
  | .item isFirst before, token =>
    if isFirst && token == .closeList then deliver (closeList before .closed) around
    else beginValue (.item before :: around) token
  | .afterItem before, token =>
    match token with
    | .comma => .reading (.item false before) around
    | .closeList => deliver (closeList before .closed) around
    | _ => stop .malformed (closeList before (.stopped .malformed)) around
  | .key isFirst before, token =>
    match token with
    | .text pieces => .reading (.colon before pieces) around
    | .closeRecord =>
      if isFirst then deliver (closeRecord before .closed) around
      else stop .malformed (closeRecord before (.stopped .malformed)) around
    | token =>
      stop .malformed
        (closeRecord (.mk (strayKey token) (.broken .malformed) :: before)
          (.stopped .malformed))
        around
  | .colon before key, token =>
    match token with
    | .colon => .reading .value (.member before (.text key) :: around)
    | _ =>
      stop .malformed
        (closeRecord (.mk (.text key) (.broken .malformed) :: before) (.stopped .malformed))
        around
  | .afterMember before, token =>
    match token with
    | .comma => .reading (.key false before) around
    | .closeRecord => deliver (closeRecord before .closed) around
    | _ => stop .malformed (closeRecord before (.stopped .malformed)) around

/-- How items or members end where the text does. -/
def endingAt (isFirst : Bool) : Ending :=
  if isFirst then .stopped .endOfInput else .afterComma

/-- The outline of what is being read where the text ends. -/
def unfinished : Expected → Outline
  | .value => .broken .endOfInput
  | .item isFirst before => closeList before (endingAt isFirst)
  | .afterItem before => closeList before (.stopped .endOfInput)
  | .key isFirst before => closeRecord before (endingAt isFirst)
  | .colon before key =>
    closeRecord (.mk (.text key) (.broken .endOfInput) :: before) (.stopped .endOfInput)
  | .afterMember before => closeRecord before (.stopped .endOfInput)

/-- Read tokens from a state. The result is the outline and whether more follows it
in the text. Once reading stops, the tokens that are left have no part in the
outline. -/
def readFrom : State → List Token → Outline × Bool
  | .reading expected around, [] => (enclose .endOfInput (unfinished expected) around, false)
  | .reading expected around, token :: rest => readFrom (readingStep around expected token) rest
  | .finished outline hasMore, [] => (outline, hasMore)
  | .finished outline _, _ :: _ => (outline, true)

/-- The outline of a text, and whether anything but white space follows its value. -/
def ofText (text : String) : Outline × Bool :=
  readFrom (.reading .value []) (tokens text)

end Outline

end ProtoSchema.Json
