import ProtoSchema.Yaml.Character

/-!
# Block scalars

A scalar that starts with `|` or `>` consists of the indented lines below. Its head
may give the indentation and say what becomes of the breaks at the end: one is kept,
or none, or all. Without a number in the head the indentation is found from the
first line that is not empty. After `>` lines are folded, unless they start with a
blank.
-/

namespace ProtoSchema.Yaml

/-- What becomes of the breaks at the end. -/
inductive Chomping where
  | clip
  | strip
  | keep
deriving Repr, DecidableEq

/-- The head of a block scalar as far as it has been read. -/
structure BlockHead where
  isFolded : Bool
  chomping : Option Chomping
  increment : Option Nat
deriving Repr, DecidableEq

/-- How far the reader of a block scalar is: in its head, in the blanks or the comment
after the head, in the indentation of the first lines, in the indentation of a
further line, or within a line. -/
inductive BlockPlace where
  | inHead
  | afterHead
  | inComment
  | search (deepest : Nat)
  | lineStart (indent : Nat)
  | inLine (indent : Nat)
deriving Repr, DecidableEq

/-- A block scalar that is being read. Texts and breaks are held in reverse. `lineBreak`
is the break after the last line and `emptyBreaks` are the breaks of the empty lines
after it; `wasBlank` says whether the last line starts with a blank. -/
structure BlockScalar where
  head : BlockHead
  parent : Option Nat
  place : BlockPlace
  text : List Char
  lineBreak : Option Char
  emptyBreaks : List Char
  wasBlank : Bool
deriving Repr, DecidableEq

namespace BlockScalar

/-- A block scalar after its first character, within a parent of some indentation. -/
def start (isFolded : Bool) (parent : Option Nat) : BlockScalar where
  head := ⟨isFolded, none, none⟩
  parent
  place := .inHead
  text := []
  lineBreak := none
  emptyBreaks := []
  wasBlank := false

/-- The content of a block scalar whose lines have been read. -/
def content (scalar : BlockScalar) : String :=
  let last := scalar.lineBreak.toList
  let tail := match scalar.head.chomping with
    | none | some .clip => last
    | some .strip => []
    | some .keep => last ++ scalar.emptyBreaks.reverse
  String.ofList (scalar.text.reverse ++ tail)

/-- The least indentation of a block scalar. -/
def leastIndent (scalar : BlockScalar) : Nat :=
  match scalar.parent with
  | none => 1
  | some indent => indent + 1

/-- The place after the line of the head. -/
def firstPlace (scalar : BlockScalar) : BlockPlace :=
  match scalar.head.increment with
  | none => .search 0
  | some increment => .lineStart (scalar.parent.getD 0 + increment)

/-- What joins a line to the text before it. -/
def joint (scalar : BlockScalar) (isBlankLine : Bool) : List Char :=
  let breaks := scalar.emptyBreaks.reverse
  if scalar.head.isFolded && scalar.lineBreak == some '\n' && !scalar.wasBlank && !isBlankLine then
    if breaks.isEmpty then [' '] else breaks
  else scalar.lineBreak.toList ++ breaks

/-- Begin a line with its first character. -/
def beginLine (scalar : BlockScalar) (indent : Nat) (c : Char) : BlockScalar :=
  let isBlankLine := isBlank c
  { scalar with
    place := .inLine indent
    text := c :: ((scalar.joint isBlankLine).reverse ++ scalar.text)
    lineBreak := none
    emptyBreaks := []
    wasBlank := isBlankLine }

/-- Step over the break of an empty line. -/
def passEmptyLine (scalar : BlockScalar) (c : Char) : BlockScalar :=
  { scalar with emptyBreaks := c :: scalar.emptyBreaks }

/-- The step within the head. -/
def headStep (scalar : BlockScalar) (c : Char) : Except Fault BlockScalar :=
  let head := scalar.head
  let chomp := fun (chomping : Chomping) => match head.chomping with
    | none => .ok { scalar with head := { head with chomping := some chomping } }
    | some _ => .error .header
  if c == '+' then chomp .keep
  else if c == '-' then chomp .strip
  else if c.isDigit then
    match head.increment with
    | none =>
      if c == '0' then .error .header
      else .ok { scalar with head := { head with increment := some (c.toNat - '0'.toNat) } }
    | some _ => .error .header
  else if isBlank c then .ok { scalar with place := .afterHead }
  else if c == '#' then .ok { scalar with place := .inComment }
  else if isBreak c then .ok { scalar with place := scalar.firstPlace }
  else .error .header

/-- The step at the start of a line of known indentation. Something else than a
space before the indentation is reached ends the scalar. -/
def lineStartStep (scalar : BlockScalar) (indent : Nat) (here : Placed) :
    Except Fault (Option BlockScalar) :=
  if isBreak here.char then
    .ok (some { scalar.passEmptyLine here.char with place := .lineStart indent })
  else if here.column < indent then
    if here.char == ' ' then .ok (some { scalar with place := .lineStart indent })
    else if here.char == '\t' then .error .indentation
    else .ok none
  else if here.column == indent then .ok (some (scalar.beginLine indent here.char))
  else .ok none

/-- The step at a character: the scalar goes on, or is over and the character is not
part of it. -/
def step (scalar : BlockScalar) (here : Placed) : Except Fault (Option BlockScalar) :=
  let c := here.char
  match scalar.place with
  | .inHead => do return some (← scalar.headStep c)
  | .afterHead =>
    if isBlank c then .ok (some scalar)
    else if c == '#' then .ok (some { scalar with place := .inComment })
    else if isBreak c then .ok (some { scalar with place := scalar.firstPlace })
    else .error .header
  | .inComment =>
    .ok (some (if isBreak c then { scalar with place := scalar.firstPlace } else scalar))
  | .search deepest =>
    if c == ' ' then .ok (some scalar)
    else if c == '\t' then .error .indentation
    else if isBreak c then
      .ok (some { scalar.passEmptyLine c with place := .search (max deepest here.column) })
    else scalar.lineStartStep (max (max deepest here.column) scalar.leastIndent) here
  | .lineStart indent => scalar.lineStartStep indent here
  | .inLine indent =>
    if isBreak c then
      .ok (some { scalar with place := .lineStart indent, lineBreak := some c })
    else .ok (some { scalar with text := c :: scalar.text })

end BlockScalar

end ProtoSchema.Yaml
