import ProtoSchema.Json.Numeral
import ProtoSchema.Text.Basic

/-!
# JSON tokens

A JSON text as a list of tokens. The reader steps through the characters once; where
the text breaks off or departs from the grammar, the last token says so and the
rest of the text is not looked at.

A fault is seen differently by the two ways in which a value can be taken. A value
that is wanted is read in full, and a value that is passed over is only scanned, so
that the same cut can count as a premature end for one and as bad grammar for the
other.
-/

namespace ProtoSchema.Json

/-- Why a text cannot be read further: it ends too early, or it is not JSON. -/
inductive Stop where
  | endOfInput
  | malformed
deriving Repr, DecidableEq

/-- A fault as it appears to a value that is wanted, and to one that is passed
over. -/
structure Fault where
  wanted : Stop
  passedOver : Stop
deriving Repr, DecidableEq

namespace Fault

/-- The text ends too early. -/
def endOfInput : Fault := ⟨.endOfInput, .endOfInput⟩

/-- The text departs from the grammar. -/
def malformed : Fault := ⟨.malformed, .malformed⟩

end Fault

/-- A piece of a JSON string: a character, or a code unit that is written by its
number and may be one half of a pair. -/
inductive Piece where
  | char (c : Char)
  | unit (code : Nat)
deriving Repr, DecidableEq

namespace Piece

/-- Whether a code unit is the first half of a pair. -/
def isHigh (code : Nat) : Bool :=
  0xD800 ≤ code && code ≤ 0xDBFF

/-- Whether a code unit is the second half of a pair. -/
def isLow (code : Nat) : Bool :=
  0xDC00 ≤ code && code ≤ 0xDFFF

/-- The character of a pair of code units. -/
def pair (high low : Nat) : Char :=
  Char.ofNat (0x10000 + (high - 0xD800) * 0x400 + (low - 0xDC00))

/-- The text that pieces stand for. A half without its partner stands for nothing. -/
def decode? : List Piece → Option (List Char)
  | [] => some []
  | .char c :: rest => (decode? rest).map (c :: ·)
  | .unit code :: rest =>
    if isLow code then none
    else if isHigh code then
      match rest with
      | .unit low :: rest =>
        if isLow low then (decode? rest).map (pair code low :: ·) else none
      | _ => none
    else (decode? rest).map (Char.ofNat code :: ·)

/-- Whether pieces could be the start of a text. A first half at the very end may
still find its partner. -/
def canBegin : List Piece → Bool
  | [] => true
  | .char _ :: rest => canBegin rest
  | .unit code :: rest =>
    if isLow code then false
    else if isHigh code then
      match rest with
      | [] => true
      | .unit low :: rest => isLow low && canBegin rest
      | .char _ :: _ => false
    else canBegin rest

end Piece

/-- A token. `cutText` is a string that breaks off, and `cut` is anything else that is
no token. -/
inductive Token where
  | openList
  | closeList
  | openRecord
  | closeRecord
  | comma
  | colon
  | null
  | bool (value : Bool)
  | numeral (numeral : Numeral)
  | text (pieces : List Piece)
  | cutText (fault : Fault)
  | cut (fault : Fault)
deriving Repr, DecidableEq

/-- How far a numeral has been read. The digits of each part are held in reverse. -/
inductive NumeralPlace where
  | sign
  | zero
  | whole
  | point
  | fraction
  | exponentMark
  | exponentSign
  | exponent
deriving Repr, DecidableEq

/-- Where the reader is. -/
inductive LexState where
  | between
  | inWord (rest : List Char) (token : Token)
  | inNumeral (place : NumeralPlace) (numeral : Numeral)
  | inText (pieces : List Piece)
  | afterBackslash (pieces : List Piece)
  | inCode (pieces : List Piece) (digits : List Nat)
  | inBadCode (pieces : List Piece) (bytes : Nat)
  | stopped
deriving Repr, DecidableEq

/-- The white space of JSON. -/
def isBlank (c : Char) : Bool :=
  c == ' ' || c == '\n' || c == '\t' || c == '\r'

/-- A numeral before its first digit. -/
def Numeral.start (isNegative : Bool) : Numeral where
  isNegative
  whole := []
  fraction := none
  exponent := none

/-- The numeral whose digits were held in reverse. -/
def Numeral.finish (numeral : Numeral) : Numeral :=
  { numeral with
    whole := numeral.whole.reverse
    fraction := numeral.fraction.map List.reverse
    exponent := numeral.exponent.map fun (isNegative, digits) => (isNegative, digits.reverse) }

namespace LexState

/-- The fault of a string that breaks off after some pieces, held in reverse. A half
without its partner is noticed first by a reader who wants the string. -/
def textFault (pieces : List Piece) (stop : Stop) : Fault :=
  ⟨if Piece.canBegin pieces.reverse then stop else .malformed, stop⟩

/-- Stop at a token that says why. -/
def stopAt (token : Token) : List Token × LexState :=
  ([token], .stopped)

/-- The step at a character that begins a token. -/
def start (c : Char) : List Token × LexState :=
  if isBlank c then ([], .between)
  else match c with
    | '[' => ([.openList], .between)
    | ']' => ([.closeList], .between)
    | '\x7b' => ([.openRecord], .between)
    | '\x7d' => ([.closeRecord], .between)
    | ',' => ([.comma], .between)
    | ':' => ([.colon], .between)
    | '"' => ([], .inText [])
    | 'n' => ([], .inWord ['u', 'l', 'l'] .null)
    | 't' => ([], .inWord ['r', 'u', 'e'] (.bool true))
    | 'f' => ([], .inWord ['a', 'l', 's', 'e'] (.bool false))
    | '-' => ([], .inNumeral .sign (.start true))
    | c =>
      if c = '0' then ([], .inNumeral .zero { Numeral.start false with whole := [0] })
      else match Text.digitValue? 16 c with
        | some digit =>
          if c.isDigit then
            ([], .inNumeral .whole { Numeral.start false with whole := [digit] })
          else stopAt (.cut .malformed)
        | none => stopAt (.cut .malformed)

/-- The step after a complete numeral, at a character that is not part of it. -/
def afterNumeral (numeral : Numeral) (c : Char) : List Token × LexState :=
  let (tokens, state) := start c
  (.numeral numeral.finish :: tokens, state)

/-- Append a digit to the fraction. -/
def addFraction (numeral : Numeral) (digit : Nat) : Numeral :=
  { numeral with fraction := some (digit :: numeral.fraction.getD []) }

/-- Append a digit to the exponent. -/
def addExponent (numeral : Numeral) (digit : Nat) : Numeral :=
  { numeral with exponent := numeral.exponent.map fun (sign, digits) => (sign, digit :: digits) }

/-- The step within a numeral. A place where the numeral may not end wants a
particular character. -/
def numeralStep (place : NumeralPlace) (numeral : Numeral) (c : Char) :
    List Token × LexState :=
  let digit := c.toNat - '0'.toNat
  let isPoint := c == '.'
  let isMark := c == 'e' || c == 'E'
  let toPoint := ([], inNumeral .point { numeral with fraction := some [] })
  let toMark := ([], inNumeral .exponentMark { numeral with exponent := some (false, []) })
  match place with
  | .sign =>
    if c == '0' then ([], .inNumeral .zero { numeral with whole := [0] })
    else if c.isDigit then ([], .inNumeral .whole { numeral with whole := [digit] })
    else stopAt (.cut .malformed)
  | .zero =>
    if c.isDigit then stopAt (.cut .malformed)
    else if isPoint then toPoint
    else if isMark then toMark
    else afterNumeral numeral c
  | .whole =>
    if c.isDigit then ([], .inNumeral .whole { numeral with whole := digit :: numeral.whole })
    else if isPoint then toPoint
    else if isMark then toMark
    else afterNumeral numeral c
  | .point =>
    if c.isDigit then ([], .inNumeral .fraction (addFraction numeral digit))
    else stopAt (.cut .malformed)
  | .fraction =>
    if c.isDigit then ([], .inNumeral .fraction (addFraction numeral digit))
    else if isMark then toMark
    else afterNumeral numeral c
  | .exponentMark =>
    if c == '+' then ([], .inNumeral .exponentSign numeral)
    else if c == '-' then
      ([], .inNumeral .exponentSign { numeral with exponent := some (true, []) })
    else if c.isDigit then ([], .inNumeral .exponent (addExponent numeral digit))
    else stopAt (.cut .malformed)
  | .exponentSign =>
    if c.isDigit then ([], .inNumeral .exponent (addExponent numeral digit))
    else stopAt (.cut .malformed)
  | .exponent =>
    if c.isDigit then ([], .inNumeral .exponent (addExponent numeral digit))
    else afterNumeral numeral c

/-- The character that a backslash and a letter stand for. -/
def unescape? (c : Char) : Option Char :=
  if c = '"' || c = '\\' || c = '/' then some c
  else if c = 'b' then some '\x08'
  else if c = 'f' then some '\x0c'
  else if c = 'n' then some '\n'
  else if c = 'r' then some '\r'
  else if c = 't' then some '\t'
  else none

/-- The step at a character. A code takes four bytes whatever they are, so that one
with a bad digit is only found to be bad if four bytes are there. -/
def step : LexState → Char → List Token × LexState
  | .between, c => start c
  | .inWord [] token, c =>
    let (tokens, state) := start c
    (token :: tokens, state)
  | .inWord (expected :: rest) token, c =>
    if c ≠ expected then stopAt (.cut .malformed)
    else if rest.isEmpty then ([token], .between)
    else ([], .inWord rest token)
  | .inNumeral place numeral, c => numeralStep place numeral c
  | .inText pieces, c =>
    if c = '"' then ([.text pieces.reverse], .between)
    else if c = '\\' then ([], .afterBackslash pieces)
    else if c.toNat < 0x20 then stopAt (.cutText .malformed)
    else ([], .inText (.char c :: pieces))
  | .afterBackslash pieces, c =>
    if c = 'u' then ([], .inCode pieces [])
    else match unescape? c with
      | some c => ([], .inText (.char c :: pieces))
      | none => stopAt (.cutText .malformed)
  | .inCode pieces digits, c =>
    match Text.digitValue? 16 c with
    | some digit =>
      if digits.length = 3 then
        let code := (digits.reverse ++ [digit]).foldl (fun n digit => n * 16 + digit) 0
        ([], .inText (.unit code :: pieces))
      else ([], .inCode pieces (digit :: digits))
    | none =>
      let bytes := digits.length + c.utf8Size
      if 4 ≤ bytes then stopAt (.cutText .malformed) else ([], .inBadCode pieces bytes)
  | .inBadCode pieces bytes, c =>
    if 4 ≤ bytes + c.utf8Size then stopAt (.cutText .malformed)
    else ([], .inBadCode pieces (bytes + c.utf8Size))
  | .stopped, _ => ([], .stopped)

/-- The token that the end of the text completes or cuts off. A numeral that lacks
digits is cut off for a reader who wants it and bad grammar for one who passes
over it. -/
def finish : LexState → List Token
  | .between => []
  | .inWord _ _ => [.cut .endOfInput]
  | .inNumeral place numeral =>
    match place with
    | .zero | .whole | .fraction | .exponent => [.numeral numeral.finish]
    | .sign | .point | .exponentMark | .exponentSign => [.cut ⟨.endOfInput, .malformed⟩]
  | .inText pieces | .afterBackslash pieces | .inCode pieces _ | .inBadCode pieces _ =>
    [.cutText (textFault pieces .endOfInput)]
  | .stopped => []

end LexState

/-- The tokens of the rest of a text, from a state of the reader. -/
def tokensFrom (state : LexState) : List Char → List Token
  | [] => state.finish
  | c :: rest =>
    let (tokens, next) := state.step c
    tokens ++ tokensFrom next rest

/-- The tokens of a text. -/
def tokens (text : String) : List Token :=
  tokensFrom .between text.toList

end ProtoSchema.Json
