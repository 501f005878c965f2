import ProtoSchema.Yaml.Layout

/-!
# YAML nodes

The tree that the tokens of a YAML text describe. The reader steps through the tokens
once and keeps the collections around it. Some tokens end what is being read without
being part of it: a missing item or value is an empty scalar, and a list of entries
at the level of its key ends where something else stands. Each such step leads to a
place that takes more kinds of token, so that every token is handled in at most four
steps.
-/

namespace ProtoSchema.Yaml

/-- A node. Anchors and aliases are given by labels of type `ρ`. A plain scalar is one
without quotes, whose text decides what it denotes. -/
inductive Node (ρ : Type) where
  | scalar (anchor : Option ρ) (isPlain : Bool) (text : String)
  | list (anchor : Option ρ) (items : List (Node ρ))
  | record (anchor : Option ρ) (members : List (Node ρ × Node ρ))
  | alias (label : ρ)
deriving Repr

namespace Node

/-- The scalar that stands for nothing. -/
def empty {ρ : Type} (anchor : Option ρ) : Node ρ :=
  .scalar anchor true ""

/-- A collection that is being read, with its content so far in reverse. A list or
record is in block form, in flow form, or a list whose entries stand at the level of
the key before it. A flow list may hold a pair without brackets. -/
inductive Frame where
  | document
  | blockList (anchor : Option String) (items : List (Node String))
  | levelList (anchor : Option String) (items : List (Node String))
  | blockKey (anchor : Option String) (members : List (Node String × Node String))
  | blockValue (anchor : Option String) (members : List (Node String × Node String))
      (key : Node String)
  | flowList (anchor : Option String) (items : List (Node String))
  | flowKey (anchor : Option String) (members : List (Node String × Node String))
  | flowLoneKey (anchor : Option String) (members : List (Node String × Node String))
  | flowValue (anchor : Option String) (members : List (Node String × Node String))
      (key : Node String)
  | pairKey
  | pairValue (key : Node String)

/-- What is due: the start of the text, the mark after directives, a node with the
anchor before it, what separates the parts of the innermost collection, or the end.
The separator of a flow collection is not due after its bracket or after a comma. -/
inductive Due where
  | start
  | mark
  | node (anchor : Option String)
  | separator (isFirst : Bool)
  | nothing (root : Node String)

/-- The state of the reader: what is due, and the collections around it. -/
structure State where
  due : Due
  around : List Frame

/-- Expect a node within a frame. -/
def expect (frame : Frame) (around : List Frame) : Except Fault State :=
  .ok ⟨.node none, frame :: around⟩

/-- Go on after a complete node. -/
def deliver (node : Node String) : List Frame → Except Fault State
  | .document :: around => .ok ⟨.nothing node, around⟩
  | .blockList anchor items :: around =>
    .ok ⟨.separator false, .blockList anchor (node :: items) :: around⟩
  | .levelList anchor items :: around =>
    .ok ⟨.separator false, .levelList anchor (node :: items) :: around⟩
  | .blockKey anchor members :: around =>
    .ok ⟨.separator false, .blockValue anchor members node :: around⟩
  | .blockValue anchor members key :: around =>
    .ok ⟨.separator false, .blockKey anchor ((key, node) :: members) :: around⟩
  | .flowList anchor items :: around =>
    .ok ⟨.separator false, .flowList anchor (node :: items) :: around⟩
  | .flowKey anchor members :: around =>
    .ok ⟨.separator false, .flowValue anchor members node :: around⟩
  | .flowLoneKey anchor members :: around =>
    .ok ⟨.separator false, .flowKey anchor ((node, empty none) :: members) :: around⟩
  | .flowValue anchor members key :: around =>
    .ok ⟨.separator false, .flowKey anchor ((key, node) :: members) :: around⟩
  | .pairKey :: around => .ok ⟨.separator false, .pairValue node :: around⟩
  | .pairValue key :: .flowList anchor items :: around =>
    .ok ⟨.separator false, .flowList anchor (.record none [(key, node)] :: items) :: around⟩
  | _ => .error .misplaced

/-- Whether a token shows that the node due in a frame is missing. -/
def isMissing : Frame → Token → Bool
  | .document, token =>
    token == .directive || token == .documentStart || token == .documentEnd
  | .blockList .., token => token == .blockEntry || token == .blockEnd
  | .levelList .., token =>
    token == .blockEntry || token == .key || token == .value || token == .blockEnd
  | .blockKey .., token | .blockValue .., token =>
    token == .key || token == .value || token == .blockEnd
  | .flowKey .., token => token == .value || token == .flowEntry || token == .flowRecordEnd
  | .flowValue .., token => token == .flowEntry || token == .flowRecordEnd
  | .pairValue .., token => token == .flowEntry || token == .flowListEnd
  | .flowList .., _ | .flowLoneKey .., _ | .pairKey, _ => false

/-- Whether a frame is in block form. -/
def isBlock : Frame → Bool
  | .document | .blockList .. | .levelList .. | .blockKey .. | .blockValue .. => true
  | _ => false

/-- Whether the entries of a list may stand at the level of a frame. -/
def allowsLevelList : Frame → Bool
  | .blockKey .. | .blockValue .. => true
  | _ => false

/-- The state at a token that begins the node due in a frame. -/
def begin? (anchor : Option String) (frame : Frame) (around : List Frame) (token : Token) :
    Option (Except Fault State) :=
  let inside := frame :: around
  match token with
  | .scalar isPlain text => some (deliver (.scalar anchor isPlain text) inside)
  | .flowListStart => some (.ok ⟨.separator true, .flowList anchor [] :: inside⟩)
  | .flowRecordStart => some (.ok ⟨.separator true, .flowKey anchor [] :: inside⟩)
  | .blockListStart =>
    if isBlock frame then some (.ok ⟨.separator true, .blockList anchor [] :: inside⟩) else none
  | .blockRecordStart =>
    if isBlock frame then some (.ok ⟨.separator true, .blockKey anchor [] :: inside⟩) else none
  | .blockEntry =>
    if allowsLevelList frame then some (expect (.levelList anchor []) inside) else none
  | _ => none

/-- Take a token as the node that is due, or as its anchor. -/
def beginNode (frame : Frame) (around : List Frame) (token : Token) : Except Fault State :=
  match token with
  | .alias name => deliver (.alias name) (frame :: around)
  | .anchor name => .ok ⟨.node (some name), frame :: around⟩
  | token => (begin? none frame around token).getD (.error .misplaced)

/-- Take a token at the separator of a collection whose separators are all written. -/
def takeSeparator (isFirst : Bool) : List Frame → Token → Except Fault State
  | .blockList anchor items :: around, token =>
    match token with
    | .blockEntry => expect (.blockList anchor items) around
    | .blockEnd => deliver (.list anchor items.reverse) around
    | _ => .error .misplaced
  | .blockKey anchor members :: around, token =>
    match token with
    | .key => expect (.blockKey anchor members) around
    | .blockEnd => deliver (.record anchor members.reverse) around
    | _ => .error .misplaced
  | .flowList anchor items :: around, token =>
    match token with
    | .flowListEnd => deliver (.list anchor items.reverse) around
    | .flowEntry =>
      if isFirst then .error .misplaced else .ok ⟨.separator true, .flowList anchor items :: around⟩
    | .key => if isFirst then expect .pairKey (.flowList anchor items :: around)
      else .error .misplaced
    | token => if isFirst then beginNode (.flowList anchor items) around token
      else .error .misplaced
  | .flowKey anchor members :: around, token =>
    match token with
    | .flowRecordEnd => deliver (.record anchor members.reverse) around
    | .flowEntry =>
      if isFirst then .error .misplaced
      else .ok ⟨.separator true, .flowKey anchor members :: around⟩
    | .key => if isFirst then expect (.flowKey anchor members) around else .error .misplaced
    | token => if isFirst then beginNode (.flowLoneKey anchor members) around token
      else .error .misplaced
  | _, _ => .error .misplaced

/-- Take a token after the document. Only end marks may follow. -/
def takeEnd (state : State) (token : Token) : Except Fault State :=
  if token == .documentEnd then .ok state else .error .anotherDocument

/-- Take a token at a separator. A key without the colon of a value has an empty one. -/
def takeValueMark (state : State) (token : Token) : Except Fault State :=
  let deliverEmpty := fun (_ : Unit) => do
    let state ← deliver (empty none) state.around
    takeSeparator false state.around token
  match state.due, state.around with
  | .separator _, .blockValue .. :: _ | .separator _, .flowValue .. :: _
  | .separator _, .pairValue _ :: _ =>
    if token == .value then .ok { state with due := .node none } else deliverEmpty ()
  | .separator isFirst, around => takeSeparator isFirst around token
  | .nothing _, _ => takeEnd state token
  | _, _ => .error .misplaced

/-- Take a token at a separator. The entries at the level of a key end at any other
token. -/
def takeEntry (state : State) (token : Token) : Except Fault State :=
  match state.due, state.around with
  | .separator _, .levelList anchor items :: around =>
    if token == .blockEntry then expect (.levelList anchor items) around
    else do takeValueMark (← deliver (.list anchor items.reverse) around) token
  | _, _ => takeValueMark state token

/-- Take a token where a node is due. Where it is missing, an empty scalar takes its
place; the empty key of a pair also takes the token. -/
def takeNode (anchor : Option String) (frame : Frame) (around : List Frame) (token : Token) :
    Except Fault State :=
  match anchor with
  | none =>
    if isMissing frame token then do
      takeEntry (← deliver (empty none) (frame :: around)) token
    else match frame, token with
      | .pairKey, .value | .pairKey, .flowEntry | .pairKey, .flowListEnd =>
        deliver (empty none) (frame :: around)
      | _, _ => beginNode frame around token
  | some name =>
    match begin? (some name) frame around token with
    | some next => next
    | none => do takeEntry (← deliver (empty (some name)) (frame :: around)) token

/-- The step at a token. -/
def step (state : State) (token : Token) : Except Fault State :=
  match state.due, state.around with
  | .start, _ =>
    match token with
    | .directive => .ok ⟨.mark, []⟩
    | .documentStart => expect .document []
    | token => beginNode .document [] token
  | .mark, _ => if token == .documentStart then expect .document [] else .error .misplaced
  | .nothing _, _ => takeEnd state token
  | .node anchor, frame :: around => takeNode anchor frame around token
  | .node _, [] => .error .misplaced
  | .separator _, _ => takeEntry state token

/-- The root node at the end of the tokens. A text without a document holds nothing. -/
def finish (state : State) : Except Fault (Node String) :=
  match state.due, state.around with
  | .start, _ => .ok (empty none)
  | .nothing root, _ => .ok root
  | .node anchor, [.document] => .ok (empty anchor)
  | _, _ => .error .misplaced

/-- The root node of the rest of the tokens. -/
def readFrom (state : State) : List Token → Except Fault (Node String)
  | [] => finish state
  | token :: rest => do readFrom (← step state token) rest

/-- The root node of a list of tokens. -/
def ofTokens (tokens : List Token) : Except Fault (Node String) :=
  readFrom ⟨.start, []⟩ tokens

end Node

end ProtoSchema.Yaml
