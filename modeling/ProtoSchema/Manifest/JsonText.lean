import ProtoSchema.Json.Reading
import ProtoSchema.Manifest.Draft

/-!
# Manifests in JSON

A manifest is a record of its fields or a list of them in order; a declaration is a
record. Members are taken in the order of the text. Names, packages and export
flags are checked where they stand, while what a declaration declares is read in
full first and checked after the declaration's last member.
-/

namespace ProtoSchema.Manifest

open Json

/-- The levels of nesting that are left within a declaration: the manifest, the list of
declarations and the declaration itself take one each. -/
def declarationLevels : Nat := nestingLimit - 3

namespace DeclarationDraft

/-- Read the members of a declaration. -/
def readJson : DeclarationDraft → List OutlineMember → Result DeclarationDraft
  | draft, [] => .ok draft
  | draft, .mk key value :: rest => do
    match ← key.wanted with
    | "name" => do
      orUnfit (Mismatch.refuseTwice "name" draft.name)
      let name ← value.asText
      readJson { draft with name := some name } rest
    | "package" => do
      orUnfit (Mismatch.refuseTwice "package" draft.package)
      let package ← value.asText
      readJson { draft with package := some package } rest
    | "exported" => do
      orUnfit (Mismatch.refuseTwice "exported" draft.exported)
      let exported ← value.asFlag
      readJson { draft with exported := some exported } rest
    | other => do
      let data ← value.toData declarationLevels
      readJson (draft.keep (.name other) data) rest

end DeclarationDraft

/-- Read a declaration. -/
def declarationOfJson : Outline → Result Declaration
  | .record members ending => do
    let draft ← DeclarationDraft.empty.readJson members
    ending.wanted
    orUnfit draft.finish
  | outline => outline.mismatch "struct Declaration"

/-- Read declarations in order. -/
def declarationsOfItems : List Outline → Result (List Declaration)
  | [] => .ok []
  | outline :: rest => do
    let declaration ← declarationOfJson outline
    let rest ← declarationsOfItems rest
    return declaration :: rest

/-- Read the list of declarations. -/
def declarationsOfJson : Outline → Result (List Declaration)
  | .list items ending => do
    let declarations ← declarationsOfItems items
    ending.wanted
    return declarations
  | outline => outline.mismatch "a sequence"

namespace Draft

/-- Read the members of a manifest. Members of other names are passed over. -/
def readJson : Draft → List OutlineMember → Result Draft
  | draft, [] => .ok draft
  | draft, .mk key value :: rest => do
    match ← key.wanted with
    | "name" => do
      orUnfit (Mismatch.refuseTwice "name" draft.name)
      let name ← value.asText
      readJson { draft with name := some name } rest
    | "path" => do
      orUnfit (Mismatch.refuseTwice "path" draft.path)
      let path ← value.asText
      readJson { draft with path := some path } rest
    | "declarations" => do
      orUnfit (Mismatch.refuseTwice "declarations" draft.declarations)
      let declarations ← declarationsOfJson value
      readJson { draft with declarations := some declarations } rest
    | _ => do
      value.skip
      readJson draft rest

end Draft

/-- Read the items of a manifest that is given as a list. -/
def ofItems (items : List Outline) (ending : Ending) : Result Manifest := do
  match items with
  | [] => do
    ending.wanted
    .error (.unfit (Draft.tooShort 0))
  | [name] => do
    let _ ← name.asText
    ending.wanted
    .error (.unfit (Draft.tooShort 1))
  | [name, path] => do
    let name ← name.asText
    let path ← path.asText
    ending.wanted
    return { name, path, declarations := [] }
  | name :: path :: declarations :: beyond => do
    let name ← name.asText
    let path ← path.asText
    let declarations ← declarationsOfJson declarations
    ending.afterLastItem beyond
    return { name, path, declarations }

/-- Read a manifest. -/
def ofOutline : Outline → Result Manifest
  | .record members ending => do
    let draft ← Draft.empty.readJson members
    ending.wanted
    orUnfit draft.finish
  | .list items ending => ofItems items ending
  | outline => outline.mismatch Draft.wanted

/-- Read a manifest from JSON text. -/
def ofJson (text : String) : Result Manifest :=
  readText ofOutline text

end ProtoSchema.Manifest
