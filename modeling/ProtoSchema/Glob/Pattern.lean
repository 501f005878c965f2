/-!
# Name patterns

A pattern for names: a question mark stands for any character, a star for any run of
characters, and brackets for one character of a set or, after an exclamation mark, one
outside it. Two stars alone stand for directories at any depth.
-/

namespace ProtoSchema.Glob

/-- A member of a set of characters. -/
inductive CharSet where
  | single (c : Char)
  | range (first last : Char)
deriving Repr, DecidableEq

/-- A piece of a pattern. -/
inductive Piece where
  | char (c : Char)
  | anyChar
  | anyRun
  | anyDepth
  | within (sets : List CharSet)
  | outside (sets : List CharSet)
deriving Repr, DecidableEq

/-- Why a text is no pattern. -/
inductive PatternFault where
  | tooManyStars
  | depthWithinName
  | badSet
deriving Repr, DecidableEq

/-- A fault of a pattern and where it is, counted in characters. -/
structure PatternError where
  fault : PatternFault
  position : Nat
deriving Repr, DecidableEq

/-- The wording of a fault. -/
def PatternFault.message : PatternFault → String
  | .tooManyStars => "wildcards are either regular `*` or recursive `**`"
  | .depthWithinName => "recursive wildcards must form a single path component"
  | .badSet => "invalid range pattern"

/-- The wording of an error. -/
def PatternError.message (error : PatternError) : String :=
  "Pattern syntax error near position " ++ toString error.position ++ ": "
    ++ error.fault.message

/-- A pattern as a list of pieces. -/
abbrev Pattern := List Piece

namespace Pattern

/-- The sets that the text between brackets describes. -/
def setsOf : List Char → List CharSet
  | first :: '-' :: last :: rest => .range first last :: setsOf rest
  | c :: rest => .single c :: setsOf rest
  | [] => []

/-- Split the text after an opening bracket at the closing one. The first character
always belongs to the set. -/
def splitSet : List Char → Option (List Char × List Char)
  | first :: rest =>
    match rest.span (· != ']') with
    | (members, _ :: after) => some (first :: members, after)
    | (_, []) => none
  | [] => none

/-- The piece that an opening bracket begins, and the text after it. -/
def parseSet : List Char → Option (Piece × List Char)
  | '!' :: rest => (splitSet rest).map fun (members, after) => (.outside (setsOf members), after)
  | rest => (splitSet rest).map fun (members, after) => (.within (setsOf members), after)

/-- The step at stars: their number decides. Two stars must stand between slashes or
ends, and take the slash after them along. -/
def parseStars (position stars : Nat) (afterSlash : Bool) (rest : List Char) :
    Except PatternError (Piece × List Char) :=
  if 2 < stars then .error ⟨.tooManyStars, position + 2⟩
  else if stars < 2 then .ok (.anyRun, rest)
  else if !afterSlash then .error ⟨.depthWithinName, position - 1⟩
  else match rest with
    | [] => .ok (.anyDepth, [])
    | '/' :: after => .ok (.anyDepth, after)
    | _ => .error ⟨.depthWithinName, position + 2⟩

/-- The piece at the start of a text that is not empty, and the text after it. -/
def parsePiece (position : Nat) (afterSlash : Bool) (c : Char) (rest : List Char) :
    Except PatternError (Piece × List Char) :=
  if c = '?' then .ok (.anyChar, rest)
  else if c = '*' then
    parseStars position (1 + (rest.takeWhile (· == '*')).length) afterSlash
      (rest.dropWhile (· == '*'))
  else if c = '[' then
    match parseSet rest with
    | some result => .ok result
    | none => .error ⟨.badSet, position⟩
  else .ok (.char c, rest)

/-- The pieces of the rest of a text of some length. The number of steps is bounded by
the text. -/
def parseFrom (length : Nat) : Nat → Bool → List Char → Except PatternError Pattern
  | _, _, [] => .ok []
  | 0, _, _ :: _ => .ok []
  | steps + 1, afterSlash, c :: rest => do
    let position := length - (rest.length + 1)
    let (piece, after) ← parsePiece position afterSlash c rest
    let endsInSlash := piece == .char '/' || (piece == .anyDepth && !after.isEmpty)
    return piece :: (← parseFrom length steps endsInSlash after)

/-- The pattern of a text. -/
def parse (text : String) : Except PatternError Pattern :=
  parseFrom text.length text.length true text.toList

/-- Whether a character belongs to a set. -/
def inSets (sets : List CharSet) (c : Char) : Bool :=
  sets.any fun set => match set with
    | .single member => c == member
    | .range first last => first ≤ c && c ≤ last

/-- Whether a pattern stands for directories at any depth. -/
def isAnyDepth (pattern : Pattern) : Bool :=
  pattern.contains .anyDepth

/-- The name that a pattern without signs stands for. -/
def literal? : Pattern → Option (List Char)
  | [] => some []
  | .char c :: rest => (literal? rest).map (c :: ·)
  | _ :: _ => none

/-- Whether some end of a list, the whole list included, passes a test. -/
def someTail (test : List Char → Bool) : List Char → Bool
  | [] => test []
  | c :: rest => test (c :: rest) || someTail test rest

/-- Whether a pattern fits a name. -/
def fits : Pattern → List Char → Bool
  | [], name => name.isEmpty
  | .anyRun :: rest, name | .anyDepth :: rest, name => someTail (fits rest) name
  | .char _ :: _, [] | .anyChar :: _, [] | .within _ :: _, [] | .outside _ :: _, [] => false
  | .char expected :: rest, c :: name => c == expected && fits rest name
  | .anyChar :: rest, _ :: name => fits rest name
  | .within sets :: rest, c :: name => inSets sets c && fits rest name
  | .outside sets :: rest, c :: name => !inSets sets c && fits rest name

end Pattern

end ProtoSchema.Glob
