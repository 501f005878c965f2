import ProtoSchema.Text.Basic
import ProtoSchema.Yaml.Scalar.Folding

/-!
# Quoted scalars

A scalar in quotes may run over several lines, which are folded. Within single quotes
a doubled quote stands for one. Within double quotes a backslash starts an escape or
takes the line break after it away.
-/

namespace ProtoSchema.Yaml

/-- How far the reader of a quoted scalar is: within the text, after a backslash,
within a code with some digits to come, or after a quote that may be doubled. -/
inductive QuotedPlace where
  | inText
  | afterBackslash
  | inCode (left value : Nat)
  | afterQuote
deriving Repr, DecidableEq

/-- A quoted scalar that is being read: its text so far, in reverse, and the gap after
it. -/
structure QuotedScalar where
  quote : Char
  place : QuotedPlace
  text : List Char
  gap : Gap
deriving Repr, DecidableEq

/-- The result of a step: the scalar goes on, or it is over, with or without the
character at hand. -/
inductive QuotedStep where
  | more (scalar : QuotedScalar)
  | overHere (content : String)
  | overBefore (content : String)
deriving Repr, DecidableEq

/-- The character that a backslash and a character stand for. -/
def unescape? (c : Char) : Option Char :=
  match c with
  | '0' => some '\x00'
  | 'a' => some '\x07'
  | 'b' => some '\x08'
  | 't' | '\t' => some '\t'
  | 'n' => some '\n'
  | 'v' => some '\x0b'
  | 'f' => some '\x0c'
  | 'r' => some '\r'
  | 'e' => some '\x1b'
  | ' ' | '"' | '/' | '\\' => some c
  | 'N' => some '\u0085'
  | '_' => some '\u00a0'
  | 'L' => some '\u2028'
  | 'P' => some '\u2029'
  | _ => none

/-- The number of digits in the code that a letter introduces. -/
def codeLength? (c : Char) : Option Nat :=
  match c with
  | 'x' => some 2
  | 'u' => some 4
  | 'U' => some 8
  | _ => none

namespace QuotedScalar

/-- A quoted scalar after its opening quote. -/
def start (quote : Char) : QuotedScalar :=
  ⟨quote, .inText, [], .empty⟩

/-- Settle the gap before something else. -/
def settle (scalar : QuotedScalar) : QuotedScalar :=
  { scalar with text := scalar.gap.fold.reverse ++ scalar.text, gap := .empty }

/-- Append a character, with the gap before it. -/
def push (scalar : QuotedScalar) (c : Char) : QuotedScalar :=
  let settled := scalar.settle
  { settled with place := .inText, text := c :: settled.text }

/-- The content of a quoted scalar. -/
def content (scalar : QuotedScalar) : String :=
  String.ofList scalar.settle.text.reverse

/-- The step within the text. -/
def textStep (scalar : QuotedScalar) (here : Placed) (rest : List Placed) :
    Except Fault QuotedStep :=
  if isGap here.char then .ok (.more { scalar with gap := scalar.gap.push here.char })
  else if isDocumentMark (here :: rest) then .error .quotation
  else if here.char == scalar.quote then
    if scalar.quote == '\'' then .ok (.more { scalar with place := .afterQuote })
    else .ok (.overHere scalar.content)
  else if here.char == '\\' && scalar.quote == '"' then
    .ok (.more { scalar.settle with place := .afterBackslash })
  else .ok (.more (scalar.push here.char))

/-- The step after a backslash. -/
def escapeStep (scalar : QuotedScalar) (c : Char) : Except Fault QuotedStep :=
  if isBreak c then .ok (.more { scalar with place := .inText, gap := ⟨true, []⟩ })
  else match unescape? c with
    | some c => .ok (.more (scalar.push c))
    | none =>
      match codeLength? c with
      | some length => .ok (.more { scalar with place := .inCode length 0 })
      | none => .error .quotation

/-- The step within a code. -/
def codeStep (scalar : QuotedScalar) (left value : Nat) (c : Char) : Except Fault QuotedStep :=
  match Text.digitValue? 16 c with
  | none => .error .quotation
  | some digit =>
    let value := 16 * value + digit
    if left ≤ 1 then
      if value.isValidChar then .ok (.more (scalar.push (Char.ofNat value)))
      else .error .quotation
    else .ok (.more { scalar with place := .inCode (left - 1) value })

/-- The step at a character. -/
def step (scalar : QuotedScalar) (here : Placed) (rest : List Placed) :
    Except Fault QuotedStep :=
  match scalar.place with
  | .inText => scalar.textStep here rest
  | .afterBackslash => scalar.escapeStep here.char
  | .inCode left value => scalar.codeStep left value here.char
  | .afterQuote =>
    if here.char == '\'' then .ok (.more (scalar.push '\''))
    else .ok (.overBefore scalar.content)

/-- The content of a quoted scalar at the end of the text, if it is over there. -/
def finish? (scalar : QuotedScalar) : Option String :=
  match scalar.place with
  | .afterQuote => some scalar.content
  | _ => none

end QuotedScalar

end ProtoSchema.Yaml
