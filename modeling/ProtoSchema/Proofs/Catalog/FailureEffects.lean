import ProtoSchema.Proofs.Catalog.CanonicalOrder
import ProtoSchema.Proofs.Catalog.Failures

/-!
# What a failure leaves behind

A map is described before it is stored, so one that cannot be described leaves no trace. A
constant makes sure of its enumeration before its literal is read, so an invalid literal
leaves an enumeration, which may be empty, and a declaration that is taken in leaves a
diagnostic as well. Under the usual naming nothing else that a catalog does depends on
these two. A run may therefore leave out the constants without an integer literal: it ends
in the same catalog but for the diagnostics and for enumerations without values.
-/

namespace ProtoSchema

/-- A constant whose literal denotes no integer, whether the schema would have it or not. -/
def Declaration.isUnreadable (declaration : Declaration) : Bool :=
  declaration.isConst && !declaration.hasIntegerLiteral

namespace Catalog

open Declaration

variable {naming : Naming} {catalog : Catalog} {declaration : Declaration}

/-! ## Traces of a failure -/

/-- The next catalog has an enumeration of `name`, empty if there was none before, and
nothing else is new. -/
structure OnlyEnsures (catalog : Catalog) (name : String) (next : Catalog) : Prop where
  frame : next = { catalog with enums := next.enums }
  ensured : next.enums.find? name = some ((catalog.enums.find? name).getD (.empty name))
  others : ∀ other, other ≠ name → next.enums.find? other = catalog.enums.find? other

theorem onlyEnsures_ensureEnum (catalog : Catalog) (name : String) :
    catalog.OnlyEnsures name (catalog.ensureEnum name) where
  frame := rfl
  ensured := by simp [ensureEnum, putEnum, enumOrEmpty]
  others other differs := by simp [ensureEnum, putEnum, differs]

variable {error : IngestError} {next : Catalog}

theorem addMap_of_error (failed : catalog.addMap naming declaration = (.error error, next)) :
    next = catalog := by
  unfold addMap at failed
  split at failed
  · cases failed
  · split at failed
    · cases failed
      rfl
    · cases failed

theorem addEnumValue_of_error
    (failed : catalog.addEnumValue naming declaration = (.error error, next)) :
    next = catalog.ensureEnum declaration.type.simpleName := by
  cases admitted : catalog.admits declaration with
  | false =>
      rw [addEnumValue_of_not_admitted naming admitted] at failed
      cases failed
  | true =>
      cases declared : declaration.declared with
      | type type =>
          rw [addEnumValue, declared] at failed
          cases failed
      | const type literal =>
          have sameType : declaration.type = type := by rw [Declaration.type, declared]
          cases read : EnumValue.ofLiteral declaration.name literal with
          | ok value =>
              rw [addEnumValue_of_valid naming declared admitted read] at failed
              cases failed
          | error cause =>
              rw [addEnumValue_of_invalid naming declared admitted read] at failed
              cases failed
              rw [sameType]

/-- Only a constant can fail, so what fails has made sure of an enumeration. -/
theorem ingest_of_error (failed : catalog.ingest naming declaration = (.error error, next)) :
    next = (catalog.ensureEnum declaration.type.simpleName).report declaration.name error := by
  cases const : declaration.isExportedConst with
  | false =>
      have succeeds := isOk_ingest_of_not_const naming catalog const
      rw [failed] at succeeds
      contradiction
  | true =>
      rw [ingest_of_const naming catalog const] at failed
      rcases built : catalog.addEnumValue naming declaration with ⟨cause | outcome, between⟩
      · rw [built] at failed
        cases failed
        rw [addEnumValue_of_error built]
      · rw [built] at failed
        cases failed

theorem addConstant_of_error {enumName sourceName literal : String}
    (failed : catalog.addConstant enumName sourceName literal = (.error error, next)) :
    next = catalog.ensureEnum enumName := by
  unfold addConstant at failed
  dsimp only at failed
  split at failed
  · cases failed
    rfl
  · cases failed

/-! ## Runs without the unreadable constants -/

/-- A catalog without its enumerations and diagnostics, which are all that constants give
it. -/
def withoutConstants (catalog : Catalog) : Catalog :=
  { catalog with enums := .empty, diagnostics := [] }

theorem withoutConstants_ingest_of_const (naming : Naming) (catalog : Catalog)
    (const : declaration.isExportedConst = true) :
    (catalog.ingest naming declaration).2.withoutConstants = catalog.withoutConstants := by
  have frame := addEnumValue_frame naming catalog declaration
  rw [ingest_of_const naming catalog const]
  generalize catalog.addEnumValue naming declaration = result at frame ⊢
  rcases result with ⟨error | outcome, next⟩
  all_goals
    change next = _ at frame
    rw [frame]
    rfl

theorem withoutConstants_addMessage (catalog : Catalog) (declaration : Declaration) :
    (catalog.addMessage .standard declaration).2.withoutConstants =
      (catalog.withoutConstants.addMessage .standard declaration).2 := by
  rcases addMessage_guards catalog declaration with seen | ⟨fresh, guards⟩
  · have seenWithout : declaration.type.signature ∈ catalog.withoutConstants.seen := seen
    rw [addMessage_of_seen _ seen, addMessage_of_seen _ seenWithout]
  · have freshWithout : declaration.type.signature ∉ catalog.withoutConstants.seen := fresh
    rcases guards with foreign | ⟨home, under | shape⟩
    · rw [addMessage_of_foreign _ fresh foreign, addMessage_of_foreign _ freshWithout foreign,
        addImport_eq, addImport_eq]
      rfl
    · rw [addMessage_standard_of_members fresh home under,
        addMessage_standard_of_members freshWithout home under]
      simp only [addImports_eq]
      rfl
    · rw [addMessage_of_no_members _ fresh home shape,
        addMessage_of_no_members _ freshWithout home shape]
      rfl

theorem withoutConstants_addMap (catalog : Catalog) (declaration : Declaration) :
    (catalog.addMap .standard declaration).2.withoutConstants =
      (catalog.withoutConstants.addMap .standard declaration).2 := by
  have sameMaps : catalog.withoutConstants.maps = catalog.maps := rfl
  unfold addMap
  rw [sameMaps]
  split
  · rfl
  · split <;> rfl

/-- Under the usual naming a struct or a map is taken in without a look at the constants. -/
theorem withoutConstants_ingest_of_not_const (catalog : Catalog)
    (noConst : declaration.isExportedConst = false) :
    (catalog.ingest .standard declaration).2.withoutConstants =
      (catalog.withoutConstants.ingest .standard declaration).2 := by
  cases struct : declaration.isExportedStruct with
  | true =>
      rw [ingest_of_struct _ _ struct, ingest_of_struct _ _ struct]
      exact withoutConstants_addMessage catalog declaration
  | false =>
      cases map : declaration.isExportedMap with
      | true =>
          rw [ingest_of_map _ _ map, ingest_of_map _ _ map]
          exact withoutConstants_addMap catalog declaration
      | false =>
          rw [ingest_of_other _ _ struct noConst map, ingest_of_other _ _ struct noConst map]

/-- The first catalog is the second one but for diagnostics and for enumerations without
values that it does not have. -/
structure Sifted (kept full : Catalog) : Prop where
  frame : kept.withoutConstants = full.withoutConstants
  enums : ∀ name, kept.enums.find? name = full.enums.find? name ∨
    kept.enums.find? name = none ∧ full.enums.find? name = some (.empty name)

variable {kept full : Catalog}

theorem Sifted.refl (catalog : Catalog) : Sifted catalog catalog :=
  ⟨rfl, fun _ => .inl rfl⟩

theorem Sifted.path_eq (sifted : Sifted kept full) : kept.path = full.path := by
  simpa [withoutConstants] using congrArg path sifted.frame

/-- An enumeration that is missing counts as one without values. -/
theorem Sifted.enumOrEmpty_eq (sifted : Sifted kept full) (name : String) :
    kept.enumOrEmpty name = full.enumOrEmpty name := by
  rcases sifted.enums name with same | ⟨missing, empty⟩
  · rw [enumOrEmpty, enumOrEmpty, same]
  · rw [enumOrEmpty, enumOrEmpty, missing, empty]
    rfl

/-- A declaration that is kept is taken in by both catalogs alike. -/
theorem Sifted.ingest (sifted : Sifted kept full) (declaration : Declaration) :
    Sifted (kept.ingest .standard declaration).2 (full.ingest .standard declaration).2 := by
  cases const : declaration.isExportedConst with
  | false =>
      refine ⟨?_, fun name => ?_⟩
      · rw [withoutConstants_ingest_of_not_const _ const,
          withoutConstants_ingest_of_not_const _ const, sifted.frame]
      · rw [(ingest_of_not_const _ kept const).1, (ingest_of_not_const _ full const).1]
        exact sifted.enums name
  | true =>
      refine ⟨?_, fun name => ?_⟩
      · rw [withoutConstants_ingest_of_const _ _ const,
          withoutConstants_ingest_of_const _ _ const, sifted.frame]
      · cases admitted : declaration.isEnumConstant full.path with
        | false =>
            rw [(ingest_of_not_enumConstant _ kept (sifted.path_eq ▸ admitted)).1,
              (ingest_of_not_enumConstant _ full admitted).1]
            exact sifted.enums name
        | true =>
            rw [(ingest_standard_of_enumConstant (sifted.path_eq ▸ admitted)).1,
              (ingest_standard_of_enumConstant admitted).1, sifted.enumOrEmpty_eq]
            split
            · exact .inl rfl
            · exact sifted.enums name

/-- An enumeration that only the second catalog makes sure of is one that the first has as
well, or one without values. -/
theorem Sifted.ensureEnum (sifted : Sifted kept full) (name : String) :
    Sifted kept (full.ensureEnum name) where
  frame := sifted.frame
  enums asked := by
    have ensured := onlyEnsures_ensureEnum full name
    by_cases own : asked = name
    · subst own
      rw [ensured.ensured]
      rcases sifted.enums asked with same | ⟨missing, empty⟩
      · rw [same]
        cases full.enums.find? asked with
        | none => exact .inr ⟨rfl, rfl⟩
        | some enumeration => exact .inl rfl
      · rw [empty]
        exact .inr ⟨missing, rfl⟩
    · rw [ensured.others asked own]
      exact sifted.enums asked

/-- An unreadable constant that only the second catalog meets leaves a diagnostic and an
enumeration without values at most. -/
theorem Sifted.ingest_of_isUnreadable (sifted : Sifted kept full)
    (unreadable : declaration.isUnreadable = true) :
    Sifted kept (full.ingest .standard declaration).2 := by
  simp only [isUnreadable, Bool.and_eq_true, Bool.not_eq_true'] at unreadable
  obtain ⟨isConst, noInteger⟩ := unreadable
  cases exported : declaration.isExported with
  | false =>
      rw [Catalog.ingest, exported]
      exact sifted
  | true =>
      have const : declaration.isExportedConst = true := by
        rw [isExportedConst, exported, isConst]
        rfl
      cases admitted : declaration.isEnumConstant full.path with
      | false =>
          rw [ingest_of_refused_const _ const admitted]
          exact sifted
      | true =>
          obtain ⟨cause, _, invalid⟩ := ofLiteral_of_not_hasIntegerLiteral noInteger
          have ensured := sifted.ensureEnum declaration.type.simpleName
          rw [ingest_of_invalid_const _ admitted invalid]
          exact ⟨ensured.frame, ensured.enums⟩

theorem Sifted.ingestAll (sifted : Sifted kept full) (declarations : List Declaration) :
    Sifted (kept.ingestAll .standard (declarations.filter (!·.isUnreadable))).2
      (full.ingestAll .standard declarations).2 := by
  simp only [ingestAll_eq_foldl]
  induction declarations generalizing kept full with
  | nil => exact sifted
  | cons declaration rest ih =>
      cases unreadable : declaration.isUnreadable with
      | false =>
          rw [List.filter_cons_of_pos (by simp [unreadable])]
          exact ih (sifted.ingest declaration)
      | true =>
          rw [List.filter_cons_of_neg (by simp [unreadable])]
          exact ih (sifted.ingest_of_isUnreadable unreadable)

/-! ## Failures are local -/

/-- Failures are local, whatever the catalog and the naming. A map that fails changes
nothing, and a constant that fails, added by a client or from a declaration, makes sure of
its enumeration at most. A declaration that fails adds one diagnostic to that, which says
what the error says. Leaving the unreadable constants out of a run under the usual naming
therefore spares its diagnostics and enumerations without values, and changes nothing
else. -/
theorem failures_are_local (naming : Naming) (catalog : Catalog) (declaration : Declaration) :
    (∀ error next, catalog.addMap naming declaration = (.error error, next) →
        next = catalog) ∧
      (∀ error next, catalog.addEnumValue naming declaration = (.error error, next) →
        catalog.OnlyEnsures declaration.type.simpleName next) ∧
      (∀ error next, catalog.ingest naming declaration = (.error error, next) →
        ∃ built, catalog.OnlyEnsures declaration.type.simpleName built ∧
          next = { built with
            diagnostics := catalog.diagnostics ++
              [{ code := error.code
                 severity := error.severity
                 declaration := declaration.name
                 message := error.message }] }) ∧
      (∀ enumName sourceName literal error next,
        catalog.addConstant enumName sourceName literal = (.error error, next) →
          catalog.OnlyEnsures enumName next) ∧
      ∀ declarations,
        Sifted (catalog.ingestAll .standard (declarations.filter (!·.isUnreadable))).2
          (catalog.ingestAll .standard declarations).2 := by
  refine ⟨fun error next => addMap_of_error, fun error next failed => ?_,
    fun error next failed => ?_, fun enumName sourceName literal error next failed => ?_,
    (Sifted.refl catalog).ingestAll⟩
  · rw [addEnumValue_of_error failed]
    exact onlyEnsures_ensureEnum catalog declaration.type.simpleName
  · rw [ingest_of_error failed]
    exact ⟨_, onlyEnsures_ensureEnum catalog declaration.type.simpleName, rfl⟩
  · rw [addConstant_of_error failed]
    exact onlyEnsures_ensureEnum catalog enumName

/-- A constant without an integer literal fails everywhere: as a map, as an enum value, as a
declaration, and when a client adds it by hand. -/
theorem failures_are_local_broken_constant :
    let shop := empty "shop" "shop"
    let broken : Declaration :=
      { name := "StatusBroken"
        package := "shop"
        exported := none
        declared := .const (.named "shop" "Status" (.basic "int")) "1e3" }
    (shop.addMap .standard broken).2 = shop ∧
      shop.OnlyEnsures "Status" (shop.addEnumValue .standard broken).2 ∧
      (∃ built, shop.OnlyEnsures "Status" built ∧
        (shop.ingest .standard broken).2 = { built with
          diagnostics :=
            [{ code := "PF-W001"
               severity := .warning
               declaration := "StatusBroken"
               message := "unable to add enum value 'StatusBroken' to enum: " ++
                "invalid literal '1e3': invalid digit found in string" }] }) ∧
      shop.OnlyEnsures "Status" (shop.addConstant "Status" "StatusBroken" "1e3").2 ∧
      Sifted shop (shop.ingestAll .standard [broken]).2 := by
  intro shop broken
  obtain ⟨map, enumValue, declaration, constant, run⟩ := failures_are_local .standard shop broken
  have sifted := run [broken]
  rw [List.filter_cons_of_neg (by decide)] at sifted
  refine ⟨map (.notAMap "StatusBroken" "int") _ rfl,
    enumValue (.invalidLiteral "StatusBroken" "1e3" .invalidDigit) _ rfl,
    declaration (.invalidLiteral "StatusBroken" "1e3" .invalidDigit) _ rfl,
    constant "Status" "StatusBroken" "1e3" (.invalidLiteral "StatusBroken" "1e3" .invalidDigit) _
      rfl, sifted⟩

end Catalog

end ProtoSchema
