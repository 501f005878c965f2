import ProtoSchema.Proofs.Catalog.Step

/-!
# What a class promises

The class of a declaration is read off the shape of its type, and the builder of the class
looks at the type again. Both look through the names in front of a type, so a builder finds
what the class promised: its arms for types of another shape are never taken, and the only
failure that is left is a literal that denotes no integer.
-/

namespace ProtoSchema

/-- An error of an enum value is about its literal. -/
theorem EnumValue.exists_cause_of_ofLiteral {sourceName literal : String} {error : IngestError}
    (invalid : EnumValue.ofLiteral sourceName literal = .error error) :
    ∃ cause, error = .invalidLiteral sourceName literal cause := by
  unfold EnumValue.ofLiteral at invalid
  split at invalid
  · contradiction
  · rename_i cause _
    exact ⟨cause, (Except.error.inj invalid).symm⟩

/-- A type describes a map exactly if its shape is that of a map. -/
theorem MapType.exists_ofType_iff {name : String} {type : TypeExpr} :
    (∃ map, MapType.ofType name type = .ok map) ↔ type.shape = .map := by
  rw [TypeExpr.shape_eq_map_iff, MapType.ofType]
  split
  · rename_i key elem under
    exact iff_of_true ⟨_, rfl⟩ ⟨key, elem, under⟩
  · rename_i noMap
    refine iff_of_false (by simp) ?_
    rintro ⟨key, elem, under⟩
    exact noMap key elem under

namespace Declaration

/-- A type declaration is of map class exactly if its type is of map shape. -/
theorem classify_eq_map_iff {declaration : Declaration} {type : TypeExpr}
    (declared : declaration.declared = .type type) :
    declaration.classify = .map ↔ type.shape = .map := by
  have noConst : declaration.isConst = false := by rw [isConst, declared]
  have sameType : declaration.type = type := by rw [Declaration.type, declared]
  rw [classify, isStruct, isMap, noConst, sameType]
  cases type.shape <;> simp

end Declaration

namespace Catalog

/-- What taking in an exported declaration of each class can come to: what is answered,
and the next catalog. -/
inductive Yields (catalog : Catalog) (declaration : Declaration) :
    Declaration.Class → Except IngestError Outcome × Catalog → Prop where
  | message (name : String) (next : Catalog) :
      Yields catalog declaration .struct (.ok (.message name), next)
  | imported (next : Catalog) :
      Yields catalog declaration .struct (.ok (.imported declaration.owner), next)
  | repeatedStruct : Yields catalog declaration .struct (.ok .duplicate, catalog)
  | enumValue (value : String) (next : Catalog) :
      Yields catalog declaration .constant
        (.ok (.enumValue declaration.type.simpleName value), next)
  | refused : Yields catalog declaration .constant (.ok .skipped, catalog)
  | invalid {type : TypeExpr} {literal : String}
      (const : declaration.declared = .const type literal) (cause : IntLiteral.Error)
      (next : Catalog) :
      Yields catalog declaration .constant
        (.error (.invalidLiteral declaration.name literal cause), next)
  | map (next : Catalog) : Yields catalog declaration .map (.ok (.map declaration.name), next)
  | repeatedMap : Yields catalog declaration .map (.ok .duplicate, catalog)
  | other : Yields catalog declaration .other (.ok .skipped, catalog)

variable (naming : Naming) (catalog : Catalog) {declaration : Declaration}

/-! ## Builders -/

theorem yields_addMessage (struct : declaration.isStruct = true) :
    catalog.Yields declaration .struct
      (.ok (catalog.addMessage naming declaration).1,
        (catalog.addMessage naming declaration).2) := by
  have under := Declaration.underlying_of_isStruct struct
  rcases addMessage_guards catalog declaration with
    seen | ⟨fresh, foreign | ⟨home, _ | noMembers⟩⟩
  · rw [addMessage_of_seen naming seen]
    exact .repeatedStruct
  · rw [addMessage_of_foreign naming fresh foreign]
    exact .imported _
  · rw [addMessage_of_members naming fresh home under]
    exact .message _ _
  · exact absurd under (noMembers _)

theorem yields_addEnumValue (const : declaration.isConst = true) :
    catalog.Yields declaration .constant (catalog.addEnumValue naming declaration) := by
  cases admitted : catalog.admits declaration with
  | false =>
      rw [addEnumValue_of_not_admitted naming admitted]
      exact .refused
  | true =>
      cases declared : declaration.declared with
      | type type => simp [Declaration.isConst, declared] at const
      | const type literal =>
          have sameType : declaration.type = type := by rw [Declaration.type, declared]
          cases read : EnumValue.ofLiteral declaration.name literal with
          | error error =>
              obtain ⟨cause, rfl⟩ := EnumValue.exists_cause_of_ofLiteral read
              rw [addEnumValue_of_invalid naming declared admitted read]
              exact .invalid declared cause _
          | ok value =>
              rw [addEnumValue_of_valid naming declared admitted read, ← sameType]
              exact .enumValue _ _

theorem yields_addMap (map : declaration.isMap = true) :
    catalog.Yields declaration .map (catalog.addMap naming declaration) := by
  obtain ⟨described, ofType⟩ := exists_mapType_of_isMap map
  cases known : catalog.maps.contains declaration.name with
  | true =>
      rw [addMap_of_known naming known]
      exact .repeatedMap
  | false =>
      rw [addMap_of_new naming known ofType]
      exact .map _

theorem yields_build (declaration : Declaration) :
    catalog.Yields declaration declaration.classify (catalog.build naming declaration) := by
  cases struct : declaration.isStruct with
  | true =>
      rw [build, Declaration.classify_of_isStruct struct]
      exact yields_addMessage naming catalog struct
  | false =>
      cases const : declaration.isConst with
      | true =>
          rw [build, Declaration.classify_of_isConst const]
          exact yields_addEnumValue naming catalog const
      | false =>
          cases map : declaration.isMap with
          | true =>
              rw [build, Declaration.classify_of_isMap map]
              exact yields_addMap naming catalog map
          | false =>
              have noClass : declaration.classify = .other := by
                simp [Declaration.classify, struct, const, map]
              rw [build, noClass]
              exact .other

/-- No builder reports anything. -/
theorem diagnostics_build (declaration : Declaration) :
    (catalog.build naming declaration).2.diagnostics = catalog.diagnostics := by
  rw [build]
  split
  · change (catalog.addMessage naming declaration).2.diagnostics = _
    rw [addMessage_frame]
  · rw [addEnumValue_frame]
  · rw [addMap_frame]
  · rfl

/-! ## Any declaration -/

/-- The reports that an answer leaves behind. -/
def reports (declaration : Declaration) : Except IngestError Outcome → List Diagnostic
  | .ok _ => []
  | .error error => [Diagnostic.ofError declaration.name error]

/-- A step reports what it answers. -/
theorem diagnostics_ingest (declaration : Declaration) :
    (catalog.ingest naming declaration).2.diagnostics =
      catalog.diagnostics ++ reports declaration (catalog.ingest naming declaration).1 := by
  have unreported := diagnostics_build naming catalog declaration
  rw [ingest]
  split
  · generalize catalog.build naming declaration = step at unreported ⊢
    rcases step with ⟨error | outcome, next⟩
    · exact congrArg (· ++ [Diagnostic.ofError declaration.name error]) unreported
    · exact unreported.trans (List.append_nil _).symm
  · exact (List.append_nil _).symm

theorem yields_ingest (exported : declaration.isExported = true) :
    catalog.Yields declaration declaration.classify (catalog.ingest naming declaration) := by
  have yields := yields_build naming catalog declaration
  rw [ingest, if_pos exported]
  generalize declaration.classify = kind at yields ⊢
  generalize catalog.build naming declaration = step at yields ⊢
  cases yields with
  | message => exact .message _ _
  | imported => exact .imported _
  | repeatedStruct => exact .repeatedStruct
  | enumValue => exact .enumValue _ _
  | refused => exact .refused
  | invalid declared => exact .invalid declared _ _
  | map => exact .map _
  | repeatedMap => exact .repeatedMap
  | other => exact .other

/-- A builder never finds a type of another shape than its class promises. -/
theorem ingest_ne_notAMap (declaration : Declaration) (name found : String) :
    (catalog.ingest naming declaration).1 ≠ .error (.notAMap name found) := by
  intro failed
  cases exported : declaration.isExported with
  | false => simp [ingest, exported] at failed
  | true =>
      have yields := yields_ingest naming catalog exported
      generalize declaration.classify = kind at yields
      generalize catalog.ingest naming declaration = step at yields failed
      cases yields <;> simp at failed

/-- What taking in a declaration comes to follows from its class: what is not exported or
of no class is skipped and changes nothing, structs and maps never fail, and a constant
fails at its literal only. A type that a map was expected of is never found to be none, so
no step fails or reports in this way, and a type describes a map exactly if declarations
of it are of map class. -/
theorem ingest_agrees_with_class (declaration : Declaration) :
    (if declaration.isExported then
        catalog.Yields declaration declaration.classify (catalog.ingest naming declaration)
      else catalog.ingest naming declaration = (.ok .skipped, catalog)) ∧
      (∀ name found, (catalog.ingest naming declaration).1 ≠ .error (.notAMap name found)) ∧
      (∃ reported,
        (catalog.ingest naming declaration).2.diagnostics = catalog.diagnostics ++ reported ∧
          "PF-E001" ∉ reported.map Diagnostic.code) ∧
      ∀ (name declaredName package : String) (exported : Option Bool) (type : TypeExpr),
        (∃ map, MapType.ofType name type = .ok map) ↔
          ({ name := declaredName, package, exported, declared := .type type } :
            Declaration).classify = .map := by
  refine ⟨?_, ingest_ne_notAMap naming catalog declaration,
    ⟨_, diagnostics_ingest naming catalog declaration, ?_⟩, ?_⟩
  · split
    · rename_i exported
      exact yields_ingest naming catalog exported
    · rename_i notExported
      simp [ingest, notExported]
  · have noShape := ingest_ne_notAMap naming catalog declaration
    cases answer : (catalog.ingest naming declaration).1 with
    | ok outcome => simp [reports]
    | error error =>
        cases error with
        | invalidLiteral => simp [reports, Diagnostic.ofError, IngestError.code]
        | notAMap name found => exact absurd answer (noShape name found)
  · intro name declaredName package exported type
    exact MapType.exists_ofType_iff.trans (Declaration.classify_eq_map_iff rfl).symm

end Catalog

end ProtoSchema
