import ProtoSchema.Yaml.Layout
import ProtoSchema.Yaml.Scalar.Block
import ProtoSchema.Yaml.Scalar.Plain
import ProtoSchema.Yaml.Scalar.Quoted

/-!
# YAML tokens

The tokens of a YAML text. The reader goes through the characters once; at each it
looks at most three characters ahead. Between tokens it skips blanks, breaks and
comments, and keeps the layout up to date.
-/

namespace ProtoSchema.Yaml

/-- What the reader is in the middle of. -/
inductive Pending where
  | between
  | comment
  | documentMark (left : Nat)
  | directive (line : List Char)
  | name (isAlias : Bool) (chars : List Char)
  | plain (context : PlainContext) (scalar : PlainScalar)
  | quoted (scalar : QuotedScalar)
  | block (scalar : BlockScalar)
deriving Repr, DecidableEq

/-- The state of the reader. -/
structure TokenReader where
  pending : Pending
  layout : Layout
deriving Repr, DecidableEq

/-- Whether a directive line, without its first character, states a supported version. -/
def isVersionLine (line : String) : Bool :=
  match line.toList.span isNameChar with
  | (name, rest) =>
    name == ['Y', 'A', 'M', 'L'] && startsBlank rest &&
      match (rest.dropWhile isBlank).span (fun c => c.isDigit || c == '.') with
      | (version, rest) =>
        isVersion version && (match rest.dropWhile isBlank with
          | [] => true
          | c :: _ => c == '#')
where
  /-- Whether a text goes on with a blank. -/
  startsBlank (text : List Char) : Bool := text.head?.any isBlank
  /-- Whether a text is one of the supported versions. -/
  isVersion (text : List Char) : Bool := text == ['1', '.', '1'] || text == ['1', '.', '2']

/-- Whether a character may stand after the name of an anchor or alias. -/
def endsName (c : Char) : Bool :=
  isGap c || c == '?' || c == ':' || c == ',' || c == ']' || c == '\x7d' || c == '%' || c == '@'
    || c == '\x60'

/-- Whether a character cannot begin a plain scalar by itself. -/
def isIndicator (c : Char) : Bool :=
  isGap c || "-?:,[]\x7b\x7d#&*!|>'\"%@\x60".toList.contains c

/-- Whether a plain scalar begins here. -/
def beginsPlain (inFlow : Bool) (here : Placed) (rest : List Placed) : Bool :=
  !isIndicator here.char
    || (here.char == '-' && !startsWith isBlank rest)
    || (!inFlow && (here.char == '?' || here.char == ':') && !endsWord rest)

namespace TokenReader

/-- Go on between tokens. -/
def proceed (layout : Layout) : Except Fault TokenReader :=
  .ok ⟨.between, layout⟩

/-- Begin a flow collection. -/
def openFlow (layout : Layout) (here : Placed) (token : Token) : Except Fault TokenReader := do
  let layout ← layout.noteKey here
  proceed ((layout.enterFlow.allow true).emit token)

/-- End a flow collection. -/
def closeFlow (layout : Layout) (token : Token) : Except Fault TokenReader := do
  let layout ← layout.dropKey
  proceed ((layout.leaveFlow.allow false).emit token)

/-- Step over the comma of a flow collection. -/
def flowEntry (layout : Layout) : Except Fault TokenReader := do
  let layout ← layout.dropKey
  proceed ((layout.allow true).emit .flowEntry)

/-- Open a block collection where one may begin. -/
def rollHere (layout : Layout) (here : Placed) (token : Token) : Except Fault Layout :=
  if layout.inFlow then .ok layout
  else if layout.allowsKey then .ok (layout.roll here.column layout.count token)
  else .error .misplaced

/-- Step over the dash of a block list. -/
def blockEntry (layout : Layout) (here : Placed) : Except Fault TokenReader := do
  let layout ← rollHere layout here .blockListStart
  let layout ← layout.dropKey
  proceed ((layout.allow true).emit .blockEntry)

/-- Step over the mark of an explicit key. -/
def explicitKey (layout : Layout) (here : Placed) : Except Fault TokenReader := do
  let layout ← rollHere layout here .blockRecordStart
  let layout ← layout.dropKey
  proceed ((layout.allow !layout.inFlow).emit .key)

/-- Step over the colon before a value. If a key may have begun, this is where it ends,
and the tokens that mark it are inserted before it. -/
def valueMark (layout : Layout) (here : Placed) : Except Fault TokenReader :=
  match layout.key with
  | some key =>
    let layout := layout.emitAt key.tokenCount .key
    let layout := layout.roll key.place.column key.tokenCount .blockRecordStart
    proceed (({ layout with key := none }.allow false).emit .value)
  | none => do
    let layout ← rollHere layout here .blockRecordStart
    proceed ((layout.allow !layout.inFlow).emit .value)

/-- Begin a node that may be a key. -/
def beginNode (layout : Layout) (here : Placed) (pending : Pending) :
    Except Fault TokenReader := do
  let layout ← layout.noteKey here
  return ⟨pending, layout.allow false⟩

/-- Begin a block scalar. -/
def beginBlock (layout : Layout) (isFolded : Bool) : Except Fault TokenReader := do
  let layout ← layout.dropKey
  return ⟨.block (.start isFolded layout.indents.head?), layout.allow true⟩

/-- Begin a mark between documents, of which two characters are left. -/
def beginMark (layout : Layout) (token : Token) : Except Fault TokenReader := do
  let layout ← layout.unrollAll.dropKey
  return ⟨.documentMark 2, (layout.allow false).emit token⟩

/-- Begin a directive. -/
def beginDirective (layout : Layout) : Except Fault TokenReader := do
  let layout ← layout.unrollAll.dropKey
  return ⟨.directive [], layout.allow false⟩

/-- Begin the token at a character that is not skipped. -/
def beginToken (layout : Layout) (here : Placed) (rest : List Placed) :
    Except Fault TokenReader := do
  let layout := (← layout.dropStale here).unroll here.column
  let c := here.char
  let inFlow := layout.inFlow
  if here.column == 0 && c == '%' then beginDirective layout
  else if isMarkOf '-' (here :: rest) then beginMark layout .documentStart
  else if isMarkOf '.' (here :: rest) then beginMark layout .documentEnd
  else if c == '[' then openFlow layout here .flowListStart
  else if c == '\x7b' then openFlow layout here .flowRecordStart
  else if c == ']' then closeFlow layout .flowListEnd
  else if c == '\x7d' then closeFlow layout .flowRecordEnd
  else if c == ',' then flowEntry layout
  else if c == '-' && endsWord rest then blockEntry layout here
  else if c == '?' && (inFlow || endsWord rest) then explicitKey layout here
  else if c == ':' && (inFlow || endsWord rest) then valueMark layout here
  else if c == '*' then beginNode layout here (.name true [])
  else if c == '&' then beginNode layout here (.name false [])
  else if c == '|' && !inFlow then beginBlock layout false
  else if c == '>' && !inFlow then beginBlock layout true
  else if c == '\'' || c == '"' then beginNode layout here (.quoted (.start c))
  else if beginsPlain inFlow here rest then
    beginNode layout here (.plain ⟨inFlow, layout.nextIndent⟩ (.start c))
  else .error .token

/-- The step between tokens. A tab is skipped where no key may begin. -/
def betweenStep (layout : Layout) (here : Placed) (rest : List Placed) :
    Except Fault TokenReader :=
  let c := here.char
  if c == ' ' || (c == byteOrderMark && here.index == 0) then proceed layout
  else if c == '\t' && (layout.inFlow || !layout.allowsKey) then proceed layout
  else if c == '#' then .ok ⟨.comment, layout⟩
  else if isBreak c then proceed (if layout.inFlow then layout else layout.allow true)
  else beginToken layout here rest

/-- The token of a complete name. -/
def nameToken (isAlias : Bool) (chars : List Char) : Token :=
  let name := String.ofList chars.reverse
  if isAlias then .alias name else .anchor name

/-- The layout after a complete plain scalar. After one that ends with a line a key may
begin. -/
def afterPlain (layout : Layout) (scalar : PlainScalar) : Layout :=
  let layout := layout.emit (.scalar true scalar.content)
  if scalar.gap.hasBreak then layout.allow true else layout

/-- The layout after a complete directive, if it is supported. -/
def afterDirective (layout : Layout) (line : List Char) : Except Fault Layout :=
  if isVersionLine (String.ofList line.reverse) then .ok (layout.emit .directive)
  else .error .directive

/-- The step at a character. -/
def step (reader : TokenReader) (here : Placed) (rest : List Placed) :
    Except Fault TokenReader :=
  let layout := reader.layout
  match reader.pending with
  | .between => betweenStep layout here rest
  | .comment =>
    if isBreak here.char then betweenStep layout here rest else .ok reader
  | .documentMark left =>
    .ok ⟨if left ≤ 1 then .between else .documentMark (left - 1), layout⟩
  | .directive line =>
    if isBreak here.char then do
      betweenStep (← afterDirective layout line) here rest
    else .ok ⟨.directive (here.char :: line), layout⟩
  | .name isAlias chars =>
    if isNameChar here.char then .ok ⟨.name isAlias (here.char :: chars), layout⟩
    else if chars.isEmpty || !endsName here.char then .error .name
    else betweenStep (layout.emit (nameToken isAlias chars)) here rest
  | .plain context scalar => do
    match ← scalar.step context here rest with
    | some scalar => return ⟨.plain context scalar, layout⟩
    | none => betweenStep (afterPlain layout scalar) here rest
  | .quoted scalar => do
    match ← scalar.step here rest with
    | .more scalar => return ⟨.quoted scalar, layout⟩
    | .overHere content => proceed (layout.emit (.scalar false content))
    | .overBefore content => betweenStep (layout.emit (.scalar false content)) here rest
  | .block scalar => do
    match ← scalar.step here with
    | some scalar => return ⟨.block scalar, layout⟩
    | none => betweenStep (layout.emit (.scalar false scalar.content)) here rest

/-- The layout at the end of the text, with what was being read. -/
def settle (reader : TokenReader) : Except Fault Layout :=
  let layout := reader.layout
  match reader.pending with
  | .between | .comment | .documentMark _ => .ok layout
  | .directive line => afterDirective layout line
  | .name isAlias chars =>
    if chars.isEmpty then .error .name else .ok (layout.emit (nameToken isAlias chars))
  | .plain _ scalar => .ok (afterPlain layout scalar)
  | .quoted scalar =>
    match scalar.finish? with
    | some content => .ok (layout.emit (.scalar false content))
    | none => .error .quotation
  | .block scalar => .ok (layout.emit (.scalar false scalar.content))

/-- The tokens at the end of the text. -/
def finish (reader : TokenReader) : Except Fault (List Token) := do
  let layout ← (← reader.settle).unrollAll.dropKey
  return layout.tokens.reverse

/-- The tokens of the rest of a text. -/
def readFrom (reader : TokenReader) : List Placed → Except Fault (List Token)
  | [] => reader.finish
  | here :: rest => do readFrom (← reader.step here rest) rest

end TokenReader

/-- The tokens of a text. -/
def tokens (text : String) : Except Fault (List Token) :=
  if text.toList.all isAllowed then
    TokenReader.readFrom ⟨.between, .start⟩ (placed text.toList)
  else .error .character

end ProtoSchema.Yaml
