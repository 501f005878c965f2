import ProtoSchema.Yaml.Character

/-!
# Folding

Between the words of a scalar that may run over several lines stands a gap of blanks
and breaks. A gap without a break is kept as it is. Of a gap with breaks only the
breaks count: a single line feed becomes a space, and of several the first is
dropped. A separator in front is kept.
-/

namespace ProtoSchema.Yaml

/-- What stands between two words. A gap may begin at a line break that is taken away by
a backslash. -/
structure Gap where
  isEscaped : Bool
  chars : List Char
deriving Repr, DecidableEq

namespace Gap

/-- No gap. -/
def empty : Gap := ⟨false, []⟩

/-- Extend a gap, which is held in reverse. -/
def push (gap : Gap) (c : Char) : Gap :=
  { gap with chars := c :: gap.chars }

/-- Whether a gap goes on to another line. -/
def hasBreak (gap : Gap) : Bool :=
  gap.isEscaped || gap.chars.any isBreak

/-- What a gap stands for. -/
def fold (gap : Gap) : List Char :=
  let chars := gap.chars.reverse
  let breaks := chars.filter isBreak
  if gap.isEscaped then breaks
  else match breaks with
    | [] => chars
    | ['\n'] => [' ']
    | '\n' :: others => others
    | _ => breaks

end Gap

end ProtoSchema.Yaml
