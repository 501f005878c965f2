import ProtoSchema.Failure
import ProtoSchema.Lint.ConfigText
import ProtoSchema.Yaml.Reading

/-!
# Project settings

A project may have a settings file in YAML with the inputs, the output directory, the
start of package options, a filter and the levels of lint rules. Its paths are relative
to the directory that holds it. Without a file every setting is left out.
-/

namespace ProtoSchema

/-- The settings of a project. -/
structure Settings where
  packages : List Path
  output : Option Path
  packageOptionStart : Option String
  filter : Option String
  lint : Lint.Config

namespace Settings

open Yaml Yaml.Reader

/-- No settings. -/
def empty : Settings where
  packages := []
  output := none
  packageOptionStart := none
  filter := none
  lint := .standard

/-- The settings that have been read so far. -/
structure Draft where
  packages : Option (List String)
  output : Option (Option String)
  packageOptionStart : Option (Option String)
  filter : Option (Option String)
  lint : Option Lint.Config

/-- Read the level of a rule. -/
def levelOfNode (node : Node Nat) : Reader Lint.Level := do
  orUnfit (Lint.Level.ofName (← asText node))

/-- Read the levels of rules. Of two levels for a rule the later one holds. -/
def readLevels : NameTable Lint.Level → List (Node Nat × Node Nat) →
    Reader (NameTable Lint.Level)
  | levels, [] => return levels
  | levels, (key, value) :: rest => do
    let id ← asText key
    let level ← levelOfNode value
    readLevels (levels.insert id level) rest

/-- Read the members of a lint configuration, with the levels of nesting that their
values have left. -/
def readLint (depth : Nat) : Option (NameTable Lint.Level) → List (Node Nat × Node Nat) →
    Reader (Option (NameTable Lint.Level))
  | levels, [] => return levels
  | levels, (key, value) :: rest => do
    match ← asText key with
    | "rules" => do
      orUnfit (Mismatch.refuseTwice "rules" levels)
      let members ← asRecord depth "a map" value
      readLint depth (some (← readLevels .empty members)) rest
    | _ => readLint depth levels rest

/-- Read a lint configuration. -/
def lintOfNode (depth : Nat) (node : Node Nat) : Reader Lint.Config := do
  let members ← asRecord depth "struct LintConfig" node
  let levels ← readLint (depth - 1) none members
  return { levels := levels.getD .empty }

namespace Draft

/-- Nothing has been read. -/
def empty : Draft := ⟨none, none, none, none, none⟩

/-- Read the members of settings, with the levels of nesting that their values have
left. Members of other names are not looked at. -/
def readMembers (depth : Nat) : Draft → List (Node Nat × Node Nat) → Reader Draft
  | draft, [] => return draft
  | draft, (key, value) :: rest => do
    match ← asText key with
    | "packages" => do
      orUnfit (Mismatch.refuseTwice "packages" draft.packages)
      let packages ← asList depth (fun _ => asText) value
      readMembers depth { draft with packages := some packages } rest
    | "output" => do
      orUnfit (Mismatch.refuseTwice "output" draft.output)
      let output ← asOptional asText value
      readMembers depth { draft with output := some output } rest
    | "go_package_prefix" => do
      orUnfit (Mismatch.refuseTwice "go_package_prefix" draft.packageOptionStart)
      let start ← asOptional asText value
      readMembers depth { draft with packageOptionStart := some start } rest
    | "filter" => do
      orUnfit (Mismatch.refuseTwice "filter" draft.filter)
      let filter ← asOptional asText value
      readMembers depth { draft with filter := some filter } rest
    | "lint" => do
      orUnfit (Mismatch.refuseTwice "lint" draft.lint)
      let lint ← lintOfNode depth value
      readMembers depth { draft with lint := some lint } rest
    | _ => readMembers depth draft rest

/-- The settings that have been read, with paths relative to a directory. -/
def finish (draft : Draft) (base : Path) : Settings where
  packages := (draft.packages.getD []).map fun path => base.join ⟨path⟩
  output := (draft.output.getD none).map fun path => base.join ⟨path⟩
  packageOptionStart := draft.packageOptionStart.getD none
  filter := draft.filter.getD none
  lint := draft.lint.getD .standard

end Draft

/-- Read settings. -/
def ofNode (base : Path) (node : Node Nat) : Reader Settings := do
  let members ← asRecord nestingLimit "struct ProtoformConfig" node
  let draft ← Draft.empty.readMembers (nestingLimit - 1) members
  return draft.finish base

/-- Read settings from YAML text, with paths relative to a directory. -/
def ofYaml (base : Path) (text : String) : Except Yaml.ReadError Settings :=
  Yaml.readText (ofNode base) text

/-- The name of the settings file. -/
def fileName : String := "protoform.config.yaml"

/-- Load the settings in a file. -/
def loadFrom (files : Files) (path : Path) : Except Failure Settings :=
  match files.readText path with
  | .error error => .error (.unreadableSettings path error)
  | .ok text =>
    match ofYaml path.directory text with
    | .error error => .error (.invalidSettings path error.message)
    | .ok settings => .ok settings

/-- Load the settings in the file that is asked for, or in the one of the usual name in
the working directory if it is there. -/
def load (files : Files) : Option Path → Except Failure Settings
  | some path => if files.isFile path then loadFrom files path else .error (.noSuchSettings path)
  | none => if files.isFile ⟨fileName⟩ then loadFrom files ⟨fileName⟩ else .ok empty

end Settings

end ProtoSchema
