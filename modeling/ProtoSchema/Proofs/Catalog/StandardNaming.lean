import ProtoSchema.Proofs.Catalog.CanonicalOrder

/-!
# Namings that display parts as they are built

The builders give every part its usual names, and the usual naming works them out again
from the sources that the part records. Both ways come to the same names, so the usual
naming changes no part between its building and its storing, just as the naming that
leaves every part alone. Two namings of this kind cannot be told apart by any operation.
-/

namespace ProtoSchema

namespace Naming

/-- Every part is displayed with the names that its builder gave it. -/
structure KeepsBuilt (naming : Naming) : Prop where
  message : ∀ {catalog : Catalog} {home : String}, catalog.path = home →
    ∀ (name : String) (members : List Member),
      naming.applyMessage catalog (Message.ofMembers home name members) =
        Message.ofMembers home name members
  enumValue : ∀ (catalog : Catalog) {sourceName literal : String} {value : EnumValue},
    EnumValue.ofLiteral sourceName literal = .ok value →
      naming.applyEnumValue catalog value = value
  map : ∀ (catalog : Catalog) (map : MapType), naming.applyMap catalog map = map

theorem keepsBuilt_unchanged : unchanged.KeepsBuilt where
  message _ name _ := congrArg (Message.mk name) (List.map_id' _)
  enumValue _ _ _ _ _ := rfl
  map _ _ := rfl

theorem keepsBuilt_standard : standard.KeepsBuilt where
  message := standard_applyMessage
  enumValue := standard_applyEnumValue
  map _ _ := rfl

end Naming

namespace Catalog

section Steps

variable {first second : Naming} (firstKeeps : first.KeepsBuilt) (secondKeeps : second.KeepsBuilt)
  (catalog : Catalog)

include firstKeeps secondKeeps

theorem addMessage_eq_of_keepsBuilt (declaration : Declaration) :
    catalog.addMessage first declaration = catalog.addMessage second declaration := by
  rcases addMessage_guards catalog declaration with
    seen | ⟨fresh, foreign | ⟨home, under | shape⟩⟩
  · rw [addMessage_of_seen first seen, addMessage_of_seen second seen]
  · rw [addMessage_of_foreign first fresh foreign, addMessage_of_foreign second fresh foreign]
  · -- The message is displayed after its imports are recorded, which keeps the path.
    have samePath : ∀ packages,
        ((catalog.markSeen declaration.type.signature).addImports packages).path =
          catalog.path := by
      intro packages
      rw [addImports_eq]
      rfl
    rw [addMessage_of_members first fresh home under, addMessage_of_members second fresh home under]
    simp only [builtMessage, firstKeeps.message (samePath _), secondKeeps.message (samePath _)]
  · rw [addMessage_of_no_members first fresh home shape,
      addMessage_of_no_members second fresh home shape]

theorem addEnumValue_eq_of_keepsBuilt (declaration : Declaration) :
    catalog.addEnumValue first declaration = catalog.addEnumValue second declaration := by
  cases admitted : catalog.admits declaration with
  | false =>
      rw [addEnumValue_of_not_admitted first admitted,
        addEnumValue_of_not_admitted second admitted]
  | true =>
      cases const : declaration.declared with
      | type type => rw [addEnumValue, addEnumValue, const]
      | const type literal =>
          cases read : EnumValue.ofLiteral declaration.name literal with
          | error error =>
              rw [addEnumValue_of_invalid first const admitted read,
                addEnumValue_of_invalid second const admitted read]
          | ok value =>
              rw [addEnumValue_of_valid first const admitted read,
                addEnumValue_of_valid second const admitted read]
              simp only [firstKeeps.enumValue _ read, secondKeeps.enumValue _ read]

theorem addMap_eq_of_keepsBuilt (declaration : Declaration) :
    catalog.addMap first declaration = catalog.addMap second declaration := by
  simp only [addMap, firstKeeps.map, secondKeeps.map]

theorem build_eq_of_keepsBuilt (declaration : Declaration) :
    catalog.build first declaration = catalog.build second declaration := by
  simp only [build, addMessage_eq_of_keepsBuilt firstKeeps secondKeeps,
    addEnumValue_eq_of_keepsBuilt firstKeeps secondKeeps,
    addMap_eq_of_keepsBuilt firstKeeps secondKeeps]

theorem ingest_eq_of_keepsBuilt (declaration : Declaration) :
    catalog.ingest first declaration = catalog.ingest second declaration := by
  simp only [ingest, build_eq_of_keepsBuilt firstKeeps secondKeeps]

theorem ingestAll_eq_of_keepsBuilt (declarations : List Declaration) :
    catalog.ingestAll first declarations = catalog.ingestAll second declarations := by
  induction declarations generalizing catalog with
  | nil => rfl
  | cons declaration rest ih =>
      simp only [ingestAll, ingest_eq_of_keepsBuilt firstKeeps secondKeeps, ih]

theorem perform_eq_of_keepsBuilt (operation : Operation) :
    catalog.perform first operation = catalog.perform second operation := by
  cases operation with
  | ingest declaration => simp only [perform, ingest_eq_of_keepsBuilt firstKeeps secondKeeps]
  | ingestAll declarations =>
      simp only [perform, ingestAll_eq_of_keepsBuilt firstKeeps secondKeeps]
  | addMessage declaration =>
      simp only [perform, addMessage_eq_of_keepsBuilt firstKeeps secondKeeps]
  | addEnumValue declaration =>
      simp only [perform, addEnumValue_eq_of_keepsBuilt firstKeeps secondKeeps]
  | addMap declaration => simp only [perform, addMap_eq_of_keepsBuilt firstKeeps secondKeeps]
  | ensureEnum | addConstant | canonicalize => rfl

/-- Namings that display parts as they are built answer every run of operations alike. -/
theorem run_eq_of_keepsBuilt (operations : List Operation) :
    catalog.run first operations = catalog.run second operations := by
  induction operations generalizing catalog with
  | nil => rfl
  | cons operation rest ih =>
      simp only [run_cons, perform_eq_of_keepsBuilt firstKeeps secondKeeps, ih]

end Steps

/-- The usual naming and the one that leaves every part alone give the same answers to
the same operations, one by one, and the same catalog after any number of them, whether
canonical order is asked for on the way or not; and so for a whole manifest. -/
theorem run_standard_eq_run_unchanged (catalog : Catalog) (operations : List Operation) :
    catalog.run .standard operations = catalog.run .unchanged operations ∧
      ∀ manifest, ofManifest .standard manifest = ofManifest .unchanged manifest := by
  refine ⟨run_eq_of_keepsBuilt Naming.keepsBuilt_standard Naming.keepsBuilt_unchanged _ _, ?_⟩
  intro manifest
  rw [ofManifest, ofManifest,
    ingestAll_eq_of_keepsBuilt Naming.keepsBuilt_standard Naming.keepsBuilt_unchanged]

end Catalog

end ProtoSchema
