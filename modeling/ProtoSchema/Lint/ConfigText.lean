import ProtoSchema.Json.Reading
import ProtoSchema.Lint.Config

/-!
# Lint configurations in JSON

A configuration is a record, or a list of one item, that holds the levels of rules.
A level is a name, or a record whose one member has the level as its name and null
as its value. Of two levels for a rule the later one holds.
-/

namespace ProtoSchema.Lint

open Json

/-- The level of a name. -/
def Level.ofName (name : String) : Except Mismatch Level :=
  match Level.all.find? (·.name == name) with
  | some level => .ok level
  | none => .error (.unknownVariant name (Level.all.map Level.name))

namespace Level

/-- The level of a name in a text. -/
def ofText (name : String) : Result Level :=
  orUnfit (ofName name)

/-- The level that the key of a record gives. -/
def ofKey : OutlineKey → Result Level
  | .text pieces => do ofText (← textOf pieces)
  | .cut fault => .error (.unreadable fault.wanted)
  | .stray outline => outline.mismatch "variant identifier"

/-- Take the null beside a level. -/
def takeNull : Outline → Result Unit
  | .null => .ok ()
  | outline => outline.mismatch "unit"

/-- Read a level. -/
def ofOutline : Outline → Result Level
  | .text pieces => do ofText (← textOf pieces)
  | .record [] (.stopped fault) => .error (.unreadable fault.wanted)
  | .record (.mk key value :: beyond) ending => do
    let level ← ofKey key
    takeNull value
    ending.afterLastItem beyond
    return level
  | .broken fault => .error (.unreadable fault.wanted)
  | _ => .error .malformed

end Level

namespace Config

/-- Read the levels of rules. -/
def readLevels : NameTable Level → List OutlineMember → Result (NameTable Level)
  | levels, [] => .ok levels
  | levels, .mk key value :: rest => do
    let id ← key.wanted
    let level ← Level.ofOutline value
    readLevels (levels.insert id level) rest

/-- Read the record of levels. -/
def levelsOfOutline : Outline → Result (NameTable Level)
  | .record members ending => do
    let levels ← readLevels .empty members
    ending.wanted
    return levels
  | outline => outline.mismatch "a map"

/-- Read the members of a configuration. Members of other names are passed over. -/
def readMembers : Option (NameTable Level) → List OutlineMember →
    Result (Option (NameTable Level))
  | levels, [] => .ok levels
  | levels, .mk key value :: rest => do
    match ← key.wanted with
    | "rules" => do
      orUnfit (Mismatch.refuseTwice "rules" levels)
      readMembers (some (← levelsOfOutline value)) rest
    | _ => do
      value.skip
      readMembers levels rest

/-- Read a configuration. -/
def ofOutline : Outline → Result Config
  | .record members ending => do
    let levels ← readMembers none members
    ending.wanted
    return { levels := levels.getD .empty }
  | .list [] ending => do
    ending.wanted
    return standard
  | .list (rules :: beyond) ending => do
    let levels ← levelsOfOutline rules
    ending.afterLastItem beyond
    return { levels }
  | outline => outline.mismatch "struct LintConfig"

/-- Read a configuration from JSON text. -/
def ofJson (text : String) : Result Config :=
  readText ofOutline text

end Config

end ProtoSchema.Lint
