import ProtoSchema.Data
import ProtoSchema.Declaration

/-!
# Written manifests

The data that a manifest is written as. Members stand in a fixed order; an export
flag that is not given and an empty tag are left out.
-/

namespace ProtoSchema

/-- The member of an export flag, if it is given. -/
def exportedMember : Option Bool → List (String × Data)
  | none => []
  | some exported => [("exported", .bool exported)]

mutual

/-- A type as data. -/
def TypeExpr.toData : TypeExpr → Data
  | .basic name => .ofMembers [("kind", .text "basic"), ("name", .text name)]
  | .named package name underlying =>
    .ofMembers [("kind", .text "named"), ("package", .text package), ("name", .text name),
      ("underlying", underlying.toData)]
  | .pointer elem => .ofMembers [("kind", .text "pointer"), ("elem", elem.toData)]
  | .slice elem => .ofMembers [("kind", .text "slice"), ("elem", elem.toData)]
  | .map key elem =>
    .ofMembers [("kind", .text "map"), ("key", key.toData), ("elem", elem.toData)]
  | .struct members =>
    .ofMembers [("kind", .text "struct"), ("fields", .list (Member.listToData members))]
  | .other text => .ofMembers [("kind", .text "other"), ("repr", .text text)]

/-- The members of a struct as data. -/
def Member.listToData : List Member → List Data
  | [] => []
  | ⟨name, exported, tag, type⟩ :: rest =>
    .ofMembers ([("name", .text name)] ++ exportedMember exported
        ++ (if tag = "" then [] else [("tag", .text tag)]) ++ [("type", type.toData)])
      :: Member.listToData rest

end

/-- What is declared, as members of the declaration. -/
def Declared.members : Declared → List (String × Data)
  | .type declared => [("decl", .text "type"), ("type", declared.toData)]
  | .const constType value =>
    [("decl", .text "const"), ("type", constType.toData), ("value", .text value)]

/-- A declaration as data. -/
def Declaration.toData (declaration : Declaration) : Data :=
  .ofMembers ([("name", .text declaration.name), ("package", .text declaration.package)]
    ++ exportedMember declaration.exported ++ declaration.declared.members)

/-- A manifest as data. -/
def Manifest.toData (manifest : Manifest) : Data :=
  .ofMembers [("name", .text manifest.name), ("path", .text manifest.path),
    ("declarations", .list (manifest.declarations.map Declaration.toData))]

end ProtoSchema
