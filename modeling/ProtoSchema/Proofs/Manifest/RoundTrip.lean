import ProtoSchema.Manifest.JsonText
import ProtoSchema.Proofs.Json.RoundTrip
import ProtoSchema.Proofs.Manifest.Fields

/-!
# Manifests written and read

A manifest that is written as JSON and read again is the same manifest, if its text nests
no deeper than a reader follows. Names, packages and export flags are taken from the outline
of a declaration directly; what is declared is read in full, and that is the only part whose
depth is not fixed.
-/

namespace ProtoSchema

open Manifest Json

/-! ## Written data is plain -/

/-- Members with names for keys and plain data for values. -/
def Data.ArePlain (members : List (Key × Data)) : Prop :=
  ∀ member ∈ members, (∃ name, member.1 = .name name) ∧ member.2.IsPlain

theorem Data.ArePlain.isPlain_record {members : List (Key × Data)} (plain : ArePlain members) :
    (Data.record members).IsPlain :=
  .record (fun member listed => (plain member listed).1)
    fun member listed => (plain member listed).2

theorem Data.ArePlain.append {first second : List (Key × Data)} (firstPlain : ArePlain first)
    (secondPlain : ArePlain second) : ArePlain (first ++ second) := by
  intro member listed
  exact (List.mem_append.mp listed).elim (firstPlain member) (secondPlain member)

section Fields

variable {fields : List (String × FieldValue)}

theorem arePlain_writtenFields (plain : ∀ field ∈ fields, field.2.toData.IsPlain) :
    Data.ArePlain (writtenFields fields) := by
  intro member listed
  obtain ⟨field, isField, rfl⟩ := List.mem_map.mp listed
  exact ⟨⟨field.1, rfl⟩, plain field isField⟩

theorem arePlain_taggedFields (tag variant : String)
    (plain : ∀ field ∈ fields, field.2.toData.IsPlain) :
    Data.ArePlain (taggedFields tag variant fields) := by
  intro member listed
  rcases List.mem_cons.mp listed with rfl | inFields
  · exact ⟨⟨tag, rfl⟩, .text variant⟩
  · exact arePlain_writtenFields plain member inFields

end Fields

theorem Member.isPlain_listToData {members : List Member}
    (plain : ∀ member ∈ members, ∀ field ∈ member.fields, field.2.toData.IsPlain) :
    ∀ item ∈ listToData members, item.IsPlain := by
  induction members with
  | nil =>
      rw [listToData]
      exact List.forall_mem_nil _
  | cons member rest ih =>
      rw [List.forall_mem_cons] at plain
      rw [listToData_cons, List.forall_mem_cons]
      exact ⟨(arePlain_writtenFields plain.1).isPlain_record, ih plain.2⟩

theorem Manifest.FieldValue.isPlain_toData (value : FieldValue) : value.toData.IsPlain := by
  have hereditary : IsHereditary fun value => value.toData.IsPlain :=
    { text := .text
      flag := .bool
      type := by
        intro type plain
        rw [FieldValue.toData, TypeExpr.toData_eq]
        exact (arePlain_taggedFields _ _ plain).isPlain_record
      members := fun _ plain => .list (Member.isPlain_listToData plain) }
  exact holds_of_hereditary hereditary value

/-! ## Declarations -/

namespace Declared

/-- The kind of what is declared, with its name. -/
def variant : Declared → String × DeclaredVariant
  | .type _ => ("type", .type)
  | .const _ _ => ("const", .const)

/-- The fields of what is declared. -/
def fields : Declared → List (String × FieldValue)
  | .type declared => [("type", .type declared)]
  | .const constType value => [("type", .type constType), ("value", .text value)]

theorem members_eq (declared : Declared) :
    (declared.members.map fun (name, value) => (Key.name name, value)) =
      taggedFields DeclaredVariant.tag declared.variant.1 declared.fields := by
  cases declared <;> rfl

theorem declaredOfMembers_taggedFields (declared : Declared) :
    declaredOfMembers (taggedFields DeclaredVariant.tag declared.variant.1 declared.fields) =
      .ok declared := by
  have known : DeclaredVariant.all.lookup declared.variant.1 = some declared.variant.2 := by
    cases declared <;> rfl
  have single : ∀ field ∈ declared.fields, field.1 ≠ DeclaredVariant.tag := by
    cases declared <;> simp [fields, DeclaredVariant.tag]
  have fits : declared.variant.2.form.Fits declared.fields := by
    cases declared <;> constructor <;>
      simp [fields, variant, DeclaredVariant.form, FieldValue.kind]
  rw [declaredOfMembers, tagOf_taggedFields known single]
  change (readMembers _ _ _ _ >>= _) = _
  rw [readMembers_taggedFields fits single fun field _ => field.2.readsBack]
  cases declared <;> rfl

end Declared

namespace Manifest

/-- The members of a declaration that are checked where they stand. -/
def checkedNames : List String :=
  ["name", "package", "exported"]

theorem readJson_kept {members : List (Key × Data)}
    (kept : ∀ member ∈ members, ∃ name, member.1 = .name name ∧ name ∉ checkedNames)
    (readsBack : ∀ member ∈ members, Json.ReadsBack member.2) (draft : DeclarationDraft) :
    draft.readJson (memberOutlines members) =
      within (membersDepth members) declarationLevels
        { draft with others := members.reverse ++ draft.others } := by
  induction members generalizing draft with
  | nil =>
      rw [memberOutlines, DeclarationDraft.readJson]
      rfl
  | cons member members ih =>
      obtain ⟨key, value⟩ := member
      obtain ⟨⟨name, rfl, notChecked⟩, othersKept⟩ := List.forall_mem_cons.mp kept
      obtain ⟨first, others⟩ := List.forall_mem_cons.mp readsBack
      have passed : draft.readJson (memberOutlines ((.name name, value) :: members)) =
          (outlineOf value).toData declarationLevels >>= fun data =>
            (draft.keep (.name name) data).readJson (memberOutlines members) := by
        rw [memberOutlines, DeclarationDraft.readJson, OutlineKey.wanted, keyText, textOf_piecesOf]
        simp only [bind, Except.bind]
        split
        · simp [checkedNames] at notChecked
        · simp [checkedNames] at notChecked
        · simp [checkedNames] at notChecked
        · rfl
      rw [passed, first, membersDepth]
      simp only [ih othersKept others, within_bind]
      simp [DeclarationDraft.keep]

/-- The members of a declaration that are checked where they stand. -/
def checkedMembers (declaration : Declaration) : List (Key × Data) :=
  writtenFields ([("name", .text declaration.name), ("package", .text declaration.package)] ++
    (declaration.exported.map fun exported => ("exported", .flag exported)).toList)

/-- The members of a declaration that are checked after its last one. -/
def keptMembers (declaration : Declaration) : List (Key × Data) :=
  taggedFields DeclaredVariant.tag declaration.declared.variant.1 declaration.declared.fields

theorem toData_declaration (declaration : Declaration) :
    declaration.toData = .record (checkedMembers declaration ++ keptMembers declaration) := by
  obtain ⟨name, package, exported, declared⟩ := declaration
  rw [keptMembers, ← Declared.members_eq]
  cases exported <;>
    simp [Declaration.toData, Data.ofMembers, checkedMembers, writtenFields, exportedMember,
      FieldValue.toData]

theorem readJson_checkedMembers (declaration : Declaration) (rest : List (Key × Data)) :
    DeclarationDraft.empty.readJson (memberOutlines (checkedMembers declaration ++ rest)) =
      ({ name := some declaration.name
         package := some declaration.package
         exported := declaration.exported.map some
         others := [] } : DeclarationDraft).readJson (memberOutlines rest) := by
  obtain ⟨name, package, exported, declared⟩ := declaration
  cases exported <;>
    simp [checkedMembers, writtenFields, FieldValue.toData, memberOutlines, outlineOf,
      DeclarationDraft.readJson, OutlineKey.wanted, keyText, Outline.asText, Outline.asFlag,
      DeclarationDraft.empty, Mismatch.refuseTwice, orUnfit] <;>
    rfl

theorem membersDepth_checkedMembers (declaration : Declaration) (rest : List (Key × Data)) :
    membersDepth (checkedMembers declaration ++ rest) = membersDepth rest := by
  obtain ⟨name, package, exported, declared⟩ := declaration
  cases exported <;> simp [checkedMembers, writtenFields, FieldValue.toData, membersDepth, depthOf]

theorem arePlain_keptMembers (declaration : Declaration) :
    Data.ArePlain (keptMembers declaration) :=
  arePlain_taggedFields _ _ fun field _ => field.2.isPlain_toData

theorem finish_draft (declaration : Declaration) :
    ({ name := some declaration.name
       package := some declaration.package
       exported := declaration.exported.map some
       others := (keptMembers declaration).reverse } : DeclarationDraft).finish =
      .ok declaration := by
  obtain ⟨name, package, exported, declared⟩ := declaration
  have read : declaredOfMembers (keptMembers ⟨name, package, exported, declared⟩) = .ok declared :=
    declared.declaredOfMembers_taggedFields
  rw [DeclarationDraft.finish, List.reverse_reverse, read]
  cases exported <;> rfl

/-- A declaration is read back from its outline if there are enough levels for it. -/
theorem declarationOfJson_outlineOf (declaration : Declaration) :
    declarationOfJson (outlineOf declaration.toData) =
      within (depthOf declaration.toData) (declarationLevels + 1) declaration := by
  have kept : ∀ member ∈ keptMembers declaration,
      ∃ name, member.1 = .name name ∧ name ∉ checkedNames := by
    obtain ⟨name, package, exported, declared⟩ := declaration
    cases declared <;>
      simp [keptMembers, taggedFields, writtenFields, Declared.fields, checkedNames,
        DeclaredVariant.tag]
  have readsBack : ∀ member ∈ keptMembers declaration, Json.ReadsBack member.2 :=
    fun member listed => readsBack_of_isPlain (arePlain_keptMembers declaration member listed).2
  rw [toData_declaration, outlineOf, declarationOfJson, readJson_checkedMembers,
    readJson_kept kept readsBack, depthOf, membersDepth_checkedMembers, within_succ,
    List.append_nil]
  unfold within
  split
  · exact congrArg orUnfit (finish_draft declaration)
  · rfl

theorem declarationsOfItems_itemOutlines (declarations : List Declaration) :
    declarationsOfItems (itemOutlines (declarations.map Declaration.toData)) =
      within (itemsDepth (declarations.map Declaration.toData)) (declarationLevels + 1)
        declarations := by
  induction declarations with
  | nil =>
      rw [List.map_nil, itemOutlines, declarationsOfItems, itemsDepth]
      rfl
  | cons declaration rest ih =>
      rw [List.map_cons, itemOutlines, declarationsOfItems, itemsDepth,
        declarationOfJson_outlineOf, ih]
      simp only [within_map, within_bind]

/-! ## Manifests -/

theorem isPlain_declaration (declaration : Declaration) : declaration.toData.IsPlain := by
  have checked : Data.ArePlain (checkedMembers declaration) :=
    arePlain_writtenFields fun field _ => field.2.isPlain_toData
  rw [toData_declaration]
  exact (checked.append (arePlain_keptMembers declaration)).isPlain_record

theorem isPlain_toData (manifest : Manifest) : manifest.toData.IsPlain := by
  have declarations : ∀ item ∈ manifest.declarations.map Declaration.toData, item.IsPlain := by
    intro item listed
    obtain ⟨declaration, _, rfl⟩ := List.mem_map.mp listed
    exact isPlain_declaration declaration
  apply Data.ArePlain.isPlain_record
  simp only [Data.ArePlain, List.map_cons, List.map_nil, List.forall_mem_cons]
  exact ⟨⟨⟨_, rfl⟩, .text _⟩, ⟨⟨_, rfl⟩, .text _⟩, ⟨⟨_, rfl⟩, .list declarations⟩,
    List.forall_mem_nil _⟩

theorem declarationsOfJson_outlineOf (declarations : List Declaration) :
    declarationsOfJson (outlineOf (.list (declarations.map Declaration.toData))) =
      within (itemsDepth (declarations.map Declaration.toData)) (declarationLevels + 1)
        declarations := by
  rw [outlineOf, declarationsOfJson, declarationsOfItems_itemOutlines]
  unfold within
  split <;> rfl

theorem depthOf_toData (manifest : Manifest) :
    depthOf manifest.toData = itemsDepth (manifest.declarations.map Declaration.toData) + 2 := by
  simp [Manifest.toData, Data.ofMembers, depthOf, membersDepth]

theorem readJson_texts (name path : String) (rest : List (Key × Data)) :
    Draft.empty.readJson (memberOutlines
        ((.name "name", .text name) :: (.name "path", .text path) :: rest)) =
      ({ name := some name, path := some path, declarations := none } : Draft).readJson
        (memberOutlines rest) := by
  simp [memberOutlines, outlineOf, Draft.readJson, OutlineKey.wanted, keyText, Outline.asText,
    Draft.empty, Mismatch.refuseTwice, orUnfit]
  rfl

theorem readJson_declarations (name path : String) (declarations : List Declaration) :
    ({ name := some name, path := some path, declarations := none } : Draft).readJson
        (memberOutlines
          [(.name "declarations", .list (declarations.map Declaration.toData))]) =
      within (itemsDepth (declarations.map Declaration.toData)) (declarationLevels + 1)
        { name := some name, path := some path, declarations := some declarations } := by
  have passed : ({ name := some name, path := some path, declarations := none } : Draft).readJson
        (memberOutlines [(.name "declarations", .list (declarations.map Declaration.toData))]) =
      (do
        let read ← declarationsOfJson (outlineOf (.list (declarations.map Declaration.toData)))
        return { name := some name, path := some path, declarations := some read }) := by
    rw [memberOutlines, memberOutlines, Draft.readJson, OutlineKey.wanted, keyText,
      textOf_piecesOf]
    rfl
  rw [passed, declarationsOfJson_outlineOf, within_map]

theorem ofOutline_outlineOf (manifest : Manifest) :
    ofOutline (outlineOf manifest.toData) =
      within (depthOf manifest.toData) nestingLimit manifest := by
  have limit : nestingLimit = declarationLevels + 1 + 1 + 1 := rfl
  rw [depthOf_toData, limit, within_succ, within_succ, Manifest.toData, Data.ofMembers, outlineOf,
    ofOutline, List.map_cons, List.map_cons, readJson_texts, List.map_cons, List.map_nil,
    readJson_declarations]
  unfold within
  split <;> rfl

/-- A manifest that is written as JSON and read again is the same manifest, unless its text
has more brackets and braces open at once than a reader follows. -/
theorem ofJson_pretty (manifest : Manifest) :
    ofJson (Json.pretty manifest.toData) =
      if Json.nesting (Json.pretty manifest.toData) ≤ Json.nestingLimit then .ok manifest
      else .error .malformed := by
  have plain := isPlain_toData manifest
  rw [nesting_pretty plain, ofJson, readText, ofText_pretty plain]
  change (ofOutline _ >>= _) = _
  rw [ofOutline_outlineOf]
  unfold within
  split <;> rfl

end Manifest

end ProtoSchema
