import ProtoSchema.Proofs.Catalog.Operation
import ProtoSchema.Proofs.FieldType

/-!
# Consistent catalogs

Whatever a client does, and however the parts of a schema are displayed, the imports of
a catalog stay free of repetitions, of the empty package and of the catalog's own; they
cover every package that a field refers to; fields are numbered from one without a gap;
and an enumeration is stored under its name. Imports and diagnostics are only ever added
at the end. Every operation is a chain of a few kinds of change, so there is one lemma
for each kind, and `Continues` carries over from link to link.

Fields are counted here by natural numbers. A counter of 32 bits gives the same numbers to
every struct of fewer than `UInt32.size` members, by `Message.fields_ofMembers_eq_numberFields`.
-/

namespace ProtoSchema

namespace Message

/-- Fields are numbered from one without a gap. -/
def IsNumbered (message : Message) : Prop :=
  message.fields.map Field.order = List.range' 1 message.fields.length

/-- The packages that the fields of a message refer to. -/
def references (message : Message) : List String :=
  message.fields.flatMap Field.references

theorem isNumbered_ofMembers (home name : String) (members : List Member) :
    (ofMembers home name members).IsNumbered := by
  refine List.ext_getElem (by simp) fun index _ _ => ?_
  simp [ofMembers, Field.ofMember, Nat.add_comm]

theorem isForeign_of_mem_references {home name package : String} {members : List Member}
    (member : package ∈ (ofMembers home name members).references) :
    FieldType.isForeign home package = true := by
  obtain ⟨field, inFields, inReferences⟩ := List.mem_flatMap.mp member
  obtain ⟨index, _, rfl⟩ := List.mem_mapIdx.mp inFields
  exact FieldType.isForeign_of_mem_imports inReferences

/-- A naming cannot touch the numbers of the fields. -/
theorem isNumbered_applyMessage (naming : Naming) (catalog : Catalog) {message : Message}
    (numbered : message.IsNumbered) : (naming.applyMessage catalog message).IsNumbered := by
  have sameOrders : (naming.applyMessage catalog message).fields.map Field.order =
      message.fields.map Field.order := by
    rw [Naming.applyMessage, List.map_map]
    rfl
  rw [IsNumbered, sameOrders, numbered, Naming.applyMessage, List.length_map]

/-- A naming cannot touch where the fields come from. -/
theorem references_applyMessage (naming : Naming) (catalog : Catalog) (message : Message) :
    (naming.applyMessage catalog message).references = message.references := by
  rw [references, references, Naming.applyMessage, List.flatMap_map]
  rfl

end Message

namespace Catalog

variable {naming : Naming} {catalog : Catalog}

/-! ## Imports -/

/-- Recording packages puts the new ones, each once, after the imports. -/
theorem exists_importsWith_eq (imports packages : List String) :
    ∃ added : List String, importsWith imports packages = imports ++ added ∧ added.Nodup ∧
      ∀ package, package ∈ added ↔ package ∈ packages ∧ package ∉ imports := by
  induction packages generalizing imports with
  | nil => exact ⟨[], by simp [importsWith]⟩
  | cons first rest ih =>
      by_cases known : first ∈ imports
      · obtain ⟨added, equal, distinct, mem_iff⟩ := ih imports
        refine ⟨added, ?_, distinct, fun package => ?_⟩
        · simpa [importsWith, known] using equal
        · rw [mem_iff, List.mem_cons]
          constructor
          · rintro ⟨inRest, new⟩
            exact ⟨.inr inRest, new⟩
          · rintro ⟨rfl | inRest, new⟩
            · contradiction
            · exact ⟨inRest, new⟩
      · obtain ⟨added, equal, distinct, mem_iff⟩ := ih (imports ++ [first])
        refine ⟨first :: added, ?_, List.nodup_cons.mpr ⟨?_, distinct⟩, fun package => ?_⟩
        · simpa [importsWith, known] using equal
        · simp [mem_iff]
        · rw [List.mem_cons, mem_iff, List.mem_cons]
          by_cases same : package = first
          · simp [same, known]
          · simp [same]

theorem subset_imports_addImports (catalog : Catalog) (packages : List String) :
    packages ⊆ (catalog.addImports packages).imports := by
  intro package member
  obtain ⟨added, equal, _, mem_iff⟩ := exists_importsWith_eq catalog.imports packages
  rw [addImports_eq, equal, List.mem_append, mem_iff]
  by_cases known : package ∈ catalog.imports
  · exact .inl known
  · exact .inr ⟨member, known⟩

/-! ## Changes -/

/-- What holds of a catalog after any operations. -/
structure IsConsistent (catalog : Catalog) : Prop where
  imports_nodup : catalog.imports.Nodup
  imports_foreign : ∀ package ∈ catalog.imports, package ≠ "" ∧ package ≠ catalog.path
  references_imported : ∀ message ∈ catalog.messages, message.references ⊆ catalog.imports
  fields_numbered : ∀ message ∈ catalog.messages, message.IsNumbered
  enums_named : ∀ name enumeration, catalog.enums.find? name = some enumeration →
    enumeration.name = name

/-- A consistent catalog that goes on from an earlier one. -/
structure Continues (before after : Catalog) : Prop where
  consistent : after.IsConsistent
  imports : before.imports <+: after.imports
  diagnostics : before.diagnostics <+: after.diagnostics

theorem Continues.refl (consistent : catalog.IsConsistent) : catalog.Continues catalog :=
  ⟨consistent, List.prefix_refl _, List.prefix_refl _⟩

theorem Continues.trans {first second third : Catalog} (early : first.Continues second)
    (late : second.Continues third) : first.Continues third :=
  ⟨late.consistent, early.imports.trans late.imports, early.diagnostics.trans late.diagnostics⟩

theorem isConsistent_empty (name path : String) : (empty name path).IsConsistent where
  imports_nodup := List.nodup_nil
  imports_foreign := by simp [empty]
  references_imported := by simp [empty]
  fields_numbered := by simp [empty]
  enums_named := by simp [empty]

theorem IsConsistent.markSeen (consistent : catalog.IsConsistent) (signature : String) :
    catalog.Continues (catalog.markSeen signature) :=
  ⟨{ consistent with }, List.prefix_refl _, List.prefix_refl _⟩

theorem IsConsistent.addImports (consistent : catalog.IsConsistent) {packages : List String}
    (foreign : ∀ package ∈ packages, FieldType.isForeign catalog.path package = true) :
    catalog.Continues (catalog.addImports packages) := by
  obtain ⟨added, equal, distinct, mem_iff⟩ := exists_importsWith_eq catalog.imports packages
  rw [addImports_eq, equal]
  refine ⟨{ consistent with
      imports_nodup := ?_, imports_foreign := ?_, references_imported := ?_ },
    List.prefix_append _ _, List.prefix_refl _⟩
  · refine List.nodup_append.mpr ⟨consistent.imports_nodup, distinct, ?_⟩
    rintro package known _ new rfl
    exact ((mem_iff package).mp new).2 known
  · intro package member
    rcases List.mem_append.mp member with known | new
    · exact consistent.imports_foreign package known
    · exact FieldType.isForeign_iff.mp (foreign package ((mem_iff package).mp new).1)
  · intro message stored package member
    exact List.mem_append_left _ (consistent.references_imported message stored member)

theorem IsConsistent.storeMessage (consistent : catalog.IsConsistent) {message : Message}
    (imported : message.references ⊆ catalog.imports) (numbered : message.IsNumbered) :
    catalog.Continues { catalog with messages := catalog.messages ++ [message] } := by
  refine ⟨{ consistent with references_imported := ?_, fields_numbered := ?_ },
    List.prefix_refl _, List.prefix_refl _⟩
  · simpa [or_imp, forall_and] using ⟨consistent.references_imported, imported⟩
  · simpa [or_imp, forall_and] using ⟨consistent.fields_numbered, numbered⟩

theorem IsConsistent.putEnum (consistent : catalog.IsConsistent) {name : String}
    {enumeration : Enumeration} (named : enumeration.name = name) :
    catalog.Continues (catalog.putEnum name enumeration) := by
  refine ⟨{ consistent with enums_named := ?_ }, List.prefix_refl _, List.prefix_refl _⟩
  intro asked stored found
  rw [Catalog.putEnum, NameTable.find?_insert] at found
  split at found
  · rename_i same
    rw [← Option.some.inj found, named, same]
  · exact consistent.enums_named asked stored found

theorem IsConsistent.putMaps (consistent : catalog.IsConsistent) (maps : NameTable MapType) :
    catalog.Continues { catalog with maps } :=
  ⟨{ consistent with }, List.prefix_refl _, List.prefix_refl _⟩

theorem IsConsistent.report (consistent : catalog.IsConsistent) (declaration : String)
    (error : IngestError) : catalog.Continues (catalog.report declaration error) :=
  ⟨{ consistent with }, List.prefix_refl _, List.prefix_append _ _⟩

/-- Canonical order moves messages about and renames no enumeration. -/
theorem IsConsistent.canonicalize (consistent : catalog.IsConsistent) :
    catalog.Continues catalog.canonicalize := by
  refine ⟨{ consistent with
      references_imported := ?_, fields_numbered := ?_, enums_named := ?_ },
    List.prefix_refl _, List.prefix_refl _⟩
  · intro message stored
    exact consistent.references_imported message (List.mem_mergeSort.mp stored)
  · intro message stored
    exact consistent.fields_numbered message (List.mem_mergeSort.mp stored)
  · intro name enumeration found
    rw [Catalog.canonicalize, NameTable.find?_mapValues, Option.map_eq_some_iff] at found
    obtain ⟨stored, inTable, rfl⟩ := found
    exact consistent.enums_named name stored inTable

/-! ## Operations -/

variable {declaration : Declaration}

theorem IsConsistent.enumOrEmpty_name (consistent : catalog.IsConsistent) (name : String) :
    (catalog.enumOrEmpty name).name = name := by
  rw [enumOrEmpty]
  cases found : catalog.enums.find? name with
  | none => rfl
  | some enumeration => exact consistent.enums_named name enumeration found

theorem IsConsistent.ensureEnum (consistent : catalog.IsConsistent) (name : String) :
    catalog.Continues (catalog.ensureEnum name) :=
  consistent.putEnum (consistent.enumOrEmpty_name name)

theorem IsConsistent.pushEnumValue (consistent : catalog.IsConsistent) (name : String)
    (value : EnumValue) :
    catalog.Continues (catalog.putEnum name ((catalog.enumOrEmpty name).push value)) :=
  consistent.putEnum (consistent.enumOrEmpty_name name)

theorem IsConsistent.addMessage (consistent : catalog.IsConsistent) (naming : Naming)
    (declaration : Declaration) :
    catalog.Continues (catalog.addMessage naming declaration).2 := by
  have noted := consistent.markSeen declaration.type.signature
  rcases addMessage_guards catalog declaration with
    seen | ⟨fresh, foreign | ⟨home, under | shape⟩⟩
  · rw [addMessage_of_seen naming seen]
    exact .refl consistent
  · rw [addMessage_of_foreign naming fresh foreign]
    have owner : ∀ package ∈ [declaration.owner],
        FieldType.isForeign catalog.path package = true := by
      simpa using foreign
    exact noted.trans (noted.consistent.addImports owner)
  · rw [addMessage_of_members naming fresh home under]
    have references : ∀ package ∈ (builtMessage catalog.path declaration).references,
        FieldType.isForeign catalog.path package = true :=
      fun _ => Message.isForeign_of_mem_references
    have required := noted.consistent.addImports references
    refine (noted.trans required).trans (required.consistent.storeMessage ?_ ?_)
    · rw [Message.references_applyMessage]
      exact subset_imports_addImports _ _
    · exact Message.isNumbered_applyMessage naming _ (Message.isNumbered_ofMembers _ _ _)
  · rw [addMessage_of_no_members naming fresh home shape]
    exact noted

theorem IsConsistent.addEnumValue (consistent : catalog.IsConsistent) (naming : Naming)
    (declaration : Declaration) :
    catalog.Continues (catalog.addEnumValue naming declaration).2 := by
  unfold Catalog.addEnumValue
  split
  · exact .refl consistent
  · split
    · rename_i type literal _ _
      have ensured := consistent.ensureEnum type.simpleName
      dsimp only
      split
      · exact ensured
      · exact ensured.trans (ensured.consistent.pushEnumValue _ _)
    · exact .refl consistent

theorem IsConsistent.addMap (consistent : catalog.IsConsistent) (naming : Naming)
    (declaration : Declaration) : catalog.Continues (catalog.addMap naming declaration).2 := by
  rw [addMap_frame]
  exact consistent.putMaps _

theorem IsConsistent.build (consistent : catalog.IsConsistent) (naming : Naming)
    (declaration : Declaration) : catalog.Continues (catalog.build naming declaration).2 := by
  unfold Catalog.build
  split
  · exact consistent.addMessage naming declaration
  · exact consistent.addEnumValue naming declaration
  · exact consistent.addMap naming declaration
  · exact .refl consistent

theorem IsConsistent.ingest (consistent : catalog.IsConsistent) (naming : Naming)
    (declaration : Declaration) : catalog.Continues (catalog.ingest naming declaration).2 := by
  have built := consistent.build naming declaration
  unfold Catalog.ingest
  split
  · split <;> rename_i result <;> rw [result] at built
    · exact built
    · exact built.trans (built.consistent.report _ _)
  · exact .refl consistent

theorem IsConsistent.ingestAll (consistent : catalog.IsConsistent) (naming : Naming)
    (declarations : List Declaration) :
    catalog.Continues (catalog.ingestAll naming declarations).2 := by
  rw [ingestAll_eq_foldl]
  induction declarations generalizing catalog with
  | nil => exact .refl consistent
  | cons declaration rest ih =>
      have next := consistent.ingest naming declaration
      exact next.trans (ih next.consistent)

theorem IsConsistent.addConstant (consistent : catalog.IsConsistent)
    (enumName sourceName literal : String) :
    catalog.Continues (catalog.addConstant enumName sourceName literal).2 := by
  have ensured := consistent.ensureEnum enumName
  unfold Catalog.addConstant Enumeration.addConstant
  cases EnumValue.ofLiteral sourceName literal with
  | error error => exact ensured
  | ok value => exact ensured.trans (ensured.consistent.pushEnumValue enumName value)

theorem IsConsistent.perform (consistent : catalog.IsConsistent) (naming : Naming)
    (operation : Operation) : catalog.Continues (catalog.perform naming operation).2 := by
  cases operation with
  | ingest declaration => exact consistent.ingest naming declaration
  | ingestAll declarations => exact consistent.ingestAll naming declarations
  | addMessage declaration => exact consistent.addMessage naming declaration
  | addEnumValue declaration => exact consistent.addEnumValue naming declaration
  | addMap declaration => exact consistent.addMap naming declaration
  | ensureEnum name => exact consistent.ensureEnum name
  | addConstant enumName sourceName literal =>
      exact consistent.addConstant enumName sourceName literal
  | canonicalize => exact consistent.canonicalize

/-- What an operation keeps, a run keeps. -/
theorem IsConsistent.run (consistent : catalog.IsConsistent) (naming : Naming)
    (operations : List Operation) : catalog.Continues (catalog.run naming operations).2 := by
  induction operations generalizing catalog with
  | nil => exact .refl consistent
  | cons operation rest ih =>
      have next := consistent.perform naming operation
      exact next.trans (ih next.consistent)

/-- Every catalog that a client can reach is consistent, and every further operation goes
on from it. The numbers of fields are those of a 32-bit counter as long as no struct has
`UInt32.size` members or more (`Message.fields_ofMembers_eq_numberFields`). -/
theorem continues_perform_of_run (naming : Naming) (name path : String)
    (operations : List Operation) (operation : Operation) :
    let catalog := ((empty name path).run naming operations).2
    catalog.IsConsistent ∧ catalog.Continues (catalog.perform naming operation).2 := by
  have reached := (isConsistent_empty name path).run naming operations
  exact ⟨reached.consistent, reached.consistent.perform naming operation⟩

end Catalog

end ProtoSchema
