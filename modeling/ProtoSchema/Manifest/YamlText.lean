import ProtoSchema.Manifest.Draft
import ProtoSchema.Yaml.Reading

/-!
# Manifests in YAML

A manifest and its declarations are records. The fields of a manifest and the names,
packages and export flags of declarations are asked for, while what a declaration
declares is read in full first and checked after the declaration's last member.
-/

namespace ProtoSchema.Manifest

open Yaml Yaml.Reader

namespace DeclarationDraft

/-- Read the members of a declaration, with the levels that their values have left. -/
def readYaml (levels : Nat) :
    DeclarationDraft → List (Node Nat × Node Nat) → Reader DeclarationDraft
  | draft, [] => return draft
  | draft, (key, value) :: rest => do
    match ← asText key with
    | "name" => do
      orUnfit (Mismatch.refuseTwice "name" draft.name)
      let name ← asText value
      readYaml levels { draft with name := some name } rest
    | "package" => do
      orUnfit (Mismatch.refuseTwice "package" draft.package)
      let package ← asText value
      readYaml levels { draft with package := some package } rest
    | "exported" => do
      orUnfit (Mismatch.refuseTwice "exported" draft.exported)
      let exported ← asOptional asBool value
      readYaml levels { draft with exported := some exported } rest
    | other => do
      let data ← Reader.toData levels value
      readYaml levels (draft.keep (.name other) data) rest

end DeclarationDraft

/-- Read a declaration. -/
def declarationOfYaml (levels : Nat) (node : Node Nat) : Reader Declaration := do
  let members ← asRecord levels "struct Declaration" node
  let draft ← DeclarationDraft.empty.readYaml (levels - 1) members
  orUnfit draft.finish

namespace Draft

/-- Read the members of a manifest, with the levels that their values have left.
Members of other names are not looked at. -/
def readYaml (levels : Nat) : Draft → List (Node Nat × Node Nat) → Reader Draft
  | draft, [] => return draft
  | draft, (key, value) :: rest => do
    match ← asText key with
    | "name" => do
      orUnfit (Mismatch.refuseTwice "name" draft.name)
      let name ← asText value
      readYaml levels { draft with name := some name } rest
    | "path" => do
      orUnfit (Mismatch.refuseTwice "path" draft.path)
      let path ← asText value
      readYaml levels { draft with path := some path } rest
    | "declarations" => do
      orUnfit (Mismatch.refuseTwice "declarations" draft.declarations)
      let declarations ← asList levels declarationOfYaml value
      readYaml levels { draft with declarations := some declarations } rest
    | _ => readYaml levels draft rest

end Draft

/-- Read a manifest. -/
def ofNode (node : Node Nat) : Reader Manifest := do
  let members ← asRecord nestingLimit Draft.wanted node
  let draft ← Draft.empty.readYaml (nestingLimit - 1) members
  orUnfit draft.finish

/-- Read a manifest from YAML text. -/
def ofYaml (text : String) : Except Yaml.ReadError Manifest :=
  Yaml.readText ofNode text

end ProtoSchema.Manifest
