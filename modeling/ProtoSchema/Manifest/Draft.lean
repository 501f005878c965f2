import ProtoSchema.Manifest.Form

/-!
# Drafts

A manifest and each of its declarations are read member by member. A draft holds what
has been read so far; it refuses a field that it already has, and when all members
have been read it yields the finished value or the first field that is missing.
-/

namespace ProtoSchema.Manifest

/-- The fields of a declaration that have been read. The members that say what is
declared are kept, in reverse, until all of them are there. -/
structure DeclarationDraft where
  name : Option String
  package : Option String
  exported : Option (Option Bool)
  others : List (Key × Data)

/-- The fields of a manifest that have been read. -/
structure Draft where
  name : Option String
  path : Option String
  declarations : Option (List Declaration)

namespace DeclarationDraft

/-- No field has been read. -/
def empty : DeclarationDraft := ⟨none, none, none, []⟩

/-- Keep a member for later. -/
def keep (draft : DeclarationDraft) (key : Key) (data : Data) : DeclarationDraft :=
  { draft with others := (key, data) :: draft.others }

/-- The finished declaration. -/
def finish (draft : DeclarationDraft) : Except Mismatch Declaration := do
  let name ← Mismatch.require "name" draft.name
  let package ← Mismatch.require "package" draft.package
  let declared ← declaredOfMembers draft.others.reverse
  return { name, package, exported := draft.exported.getD none, declared }

end DeclarationDraft

namespace Draft

/-- No field has been read. -/
def empty : Draft := ⟨none, none, none⟩

/-- The finished manifest. Its declarations may be left out. -/
def finish (draft : Draft) : Except Mismatch Manifest := do
  let name ← Mismatch.require "name" draft.name
  let path ← Mismatch.require "path" draft.path
  return { name, path, declarations := draft.declarations.getD [] }

/-- The wording of what a manifest is. -/
def wanted : String := "struct PackageManifest"

/-- The fields that a manifest may give by position. -/
def fieldCount : Nat := 3

/-- The complaint about a list that is too short for a field without which there is no
manifest. -/
def tooShort (length : Nat) : Mismatch :=
  .wrongLength length (wanted ++ " with " ++ Mismatch.countOf fieldCount)

end Draft

end ProtoSchema.Manifest
