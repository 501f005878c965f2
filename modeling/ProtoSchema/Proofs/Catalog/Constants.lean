import ProtoSchema.Proofs.Catalog.Run

/-!
# The constants of a run

A run admits the exported constants of a named type over `int`, `int32` or `int64`
that the package owns. They alone make the enumerations, one for each type name,
with the values in the order in which they come; the ones whose literal denotes no
integer leave a diagnostic in place of a value.
-/

namespace ProtoSchema

namespace TypeExpr

/-- A named type. -/
def isNamed : TypeExpr → Bool
  | .named .. => true
  | _ => false

/-- A predeclared type that an enum may be based on. -/
def isEnumBase : TypeExpr → Bool
  | .basic name => name ∈ enumBaseNames
  | _ => false

end TypeExpr

namespace Declaration

/-- A constant that the schema of `home` has as an enum value, if its literal is
valid. -/
def isEnumConstant (home : String) (declaration : Declaration) : Bool :=
  declaration.isExportedConst && declaration.type.isNamed &&
    declaration.type.underlying.isEnumBase && declaration.owner == home

/-- The text of a constant's value. -/
def literal (declaration : Declaration) : String :=
  match declaration.declared with
  | .type _ => ""
  | .const _ literal => literal

/-- The enum value of a constant whose literal is valid. -/
def enumValue? (declaration : Declaration) : Option EnumValue :=
  (EnumValue.ofLiteral declaration.name declaration.literal).toOption

/-- The diagnostic of a constant whose literal is invalid. -/
def literalDiagnostic? (declaration : Declaration) : Option Diagnostic :=
  match EnumValue.ofLiteral declaration.name declaration.literal with
  | .ok _ => none
  | .error error => some (Diagnostic.ofError declaration.name error)

/-- The admitted constants of the type name `name`. -/
def constantsOf (home name : String) (declarations : List Declaration) : List Declaration :=
  declarations.filter fun declaration =>
    declaration.isEnumConstant home && declaration.type.simpleName == name

variable {declaration : Declaration}

theorem declared_of_isConst (const : declaration.isConst = true) :
    declaration.declared = .const declaration.type declaration.literal := by
  unfold isConst at const
  unfold type literal
  split at const
  · contradiction
  · rename_i found
    rw [found]

section Literal

variable {value : EnumValue} {error : IngestError}

theorem enumValue?_of_valid
    (valid : EnumValue.ofLiteral declaration.name declaration.literal = .ok value) :
    declaration.enumValue? = some value := by
  rw [enumValue?, valid]
  rfl

theorem enumValue?_of_invalid
    (invalid : EnumValue.ofLiteral declaration.name declaration.literal = .error error) :
    declaration.enumValue? = none := by
  rw [enumValue?, invalid]
  rfl

theorem literalDiagnostic?_of_valid
    (valid : EnumValue.ofLiteral declaration.name declaration.literal = .ok value) :
    declaration.literalDiagnostic? = none := by
  unfold literalDiagnostic?
  rw [valid]

theorem literalDiagnostic?_of_invalid
    (invalid : EnumValue.ofLiteral declaration.name declaration.literal = .error error) :
    declaration.literalDiagnostic? = some (Diagnostic.ofError declaration.name error) := by
  unfold literalDiagnostic?
  rw [invalid]

end Literal

end Declaration

/-- The usual naming displays an enum value as it is read. -/
theorem Naming.standard_applyEnumValue (catalog : Catalog) {sourceName literal : String}
    {value : EnumValue} (valid : EnumValue.ofLiteral sourceName literal = .ok value) :
    Naming.standard.applyEnumValue catalog value = value := by
  unfold EnumValue.ofLiteral at valid
  split at valid
  · rw [Except.ok.injEq] at valid
    subst valid
    rfl
  · contradiction

namespace Catalog

open Declaration

variable {naming : Naming} {catalog : Catalog} {declaration : Declaration}

theorem admits_eq (catalog : Catalog) (declaration : Declaration) :
    catalog.admits declaration =
      (declaration.type.isNamed && declaration.type.underlying.isEnumBase &&
        declaration.owner == catalog.path) := by
  unfold admits
  cases declaration.type <;> rfl

theorem isEnumConstant_eq (catalog : Catalog) (declaration : Declaration) :
    declaration.isEnumConstant catalog.path =
      (declaration.isExportedConst && catalog.admits declaration) := by
  simp [isEnumConstant, admits_eq, Bool.and_assoc]

/-! ## Steps -/

theorem ingest_of_refused_const (naming : Naming)
    (const : declaration.isExportedConst = true)
    (refused : declaration.isEnumConstant catalog.path = false) :
    catalog.ingest naming declaration = (.ok .skipped, catalog) := by
  rw [isEnumConstant_eq, const, Bool.true_and] at refused
  rw [ingest_of_const naming catalog const, addEnumValue_of_not_admitted naming refused]

theorem ingest_of_invalid_const (naming : Naming) {error : IngestError}
    (admitted : declaration.isEnumConstant catalog.path = true)
    (invalid : EnumValue.ofLiteral declaration.name declaration.literal = .error error) :
    catalog.ingest naming declaration =
      (.error error,
        (catalog.ensureEnum declaration.type.simpleName).report declaration.name error) := by
  rw [isEnumConstant_eq, Bool.and_eq_true] at admitted
  have declared := declared_of_isConst (Bool.and_eq_true_iff.mp admitted.1).2
  rw [ingest_of_const naming catalog admitted.1,
    addEnumValue_of_invalid naming declared admitted.2 invalid]

theorem ingest_of_valid_const (naming : Naming) {value : EnumValue}
    (admitted : declaration.isEnumConstant catalog.path = true)
    (valid : EnumValue.ofLiteral declaration.name declaration.literal = .ok value) :
    catalog.ingest naming declaration =
      let enumName := declaration.type.simpleName
      let next := catalog.ensureEnum enumName
      let shown := naming.applyEnumValue next value
      (.ok (.enumValue enumName shown.name),
        next.putEnum enumName ((catalog.enumOrEmpty enumName).push shown)) := by
  rw [isEnumConstant_eq, Bool.and_eq_true] at admitted
  have declared := declared_of_isConst (Bool.and_eq_true_iff.mp admitted.1).2
  rw [ingest_of_const naming catalog admitted.1,
    addEnumValue_of_valid naming declared admitted.2 valid]

/-- Enumerations and diagnostics belong to the admitted constants. -/
theorem ingest_of_not_enumConstant (naming : Naming) (catalog : Catalog)
    (refused : declaration.isEnumConstant catalog.path = false) :
    (catalog.ingest naming declaration).2.enums = catalog.enums ∧
      (catalog.ingest naming declaration).2.diagnostics = catalog.diagnostics := by
  cases const : declaration.isExportedConst with
  | false => exact ingest_of_not_const naming catalog const
  | true =>
      rw [ingest_of_refused_const naming const refused]
      exact ⟨rfl, rfl⟩

/-- What an admitted constant adds under the usual naming: its value, if it has one, to
the enumeration of its type, and otherwise a diagnostic. -/
theorem ingest_standard_of_enumConstant
    (admitted : declaration.isEnumConstant catalog.path = true) :
    (∀ asked, (catalog.ingest .standard declaration).2.enums.find? asked =
        if asked = declaration.type.simpleName then
          let enumeration := catalog.enumOrEmpty declaration.type.simpleName
          some { enumeration with
            values := enumeration.values ++ declaration.enumValue?.toList }
        else catalog.enums.find? asked) ∧
      (catalog.ingest .standard declaration).2.diagnostics =
        catalog.diagnostics ++ declaration.literalDiagnostic?.toList := by
  cases read : EnumValue.ofLiteral declaration.name declaration.literal with
  | error error =>
      rw [ingest_of_invalid_const .standard admitted read, enumValue?_of_invalid read,
        literalDiagnostic?_of_invalid read]
      constructor
      · intro asked
        simp only [report, ensureEnum, putEnum, NameTable.find?_insert, Option.toList_none,
          List.append_nil]
      · rfl
  | ok value =>
      rw [ingest_of_valid_const .standard admitted read, enumValue?_of_valid read,
        literalDiagnostic?_of_valid read]
      constructor
      · intro asked
        simp only [ensureEnum, putEnum, NameTable.find?_insert,
          Naming.standard_applyEnumValue _ read]
        split <;> rfl
      · exact (List.append_nil _).symm

/-! ## Runs -/

theorem constantsOf_concat (home enumName : String) (declarations : List Declaration)
    (last : Declaration) :
    constantsOf home enumName (declarations ++ [last]) =
      constantsOf home enumName declarations ++
        if last.isEnumConstant home && last.type.simpleName == enumName then [last] else [] := by
  simp only [constantsOf, List.filter_append, List.filter_singleton, Bool.cond_eq_ite]

theorem filterMap_singleton {α β : Type} (read : α → Option β) (element : α) :
    [element].filterMap read = (read element).toList := by
  cases found : read element <;> simp [found]

variable (name path : String)

/-- The enumeration of a type name after a run: there is one as soon as a constant of
that type is admitted, even if its literal is invalid. -/
theorem find?_enums_ofDeclarations (declarations : List Declaration) (enumName : String) :
    (ofDeclarations .standard name path declarations).enums.find? enumName =
      if constantsOf path enumName declarations = [] then none
      else some
        { Enumeration.empty enumName with
          values := (constantsOf path enumName declarations).filterMap enumValue? } := by
  induction declarations using List.reverseRecOn generalizing enumName with
  | nil => rfl
  | append_singleton declarations last ih =>
      rw [ofDeclarations_concat, constantsOf_concat]
      have samePath := ofDeclarations_path name path .standard declarations
      generalize ofDeclarations .standard name path declarations = catalog at ih samePath ⊢
      subst samePath
      have collected : ∀ asked, catalog.enumOrEmpty asked =
          { Enumeration.empty asked with
            values := (constantsOf catalog.path asked declarations).filterMap enumValue? } := by
        intro asked
        rw [enumOrEmpty, ih]
        split <;> rename_i none
        · rw [none]
          rfl
        · rfl
      cases admitted : last.isEnumConstant catalog.path with
      | false =>
          rw [(ingest_of_not_enumConstant .standard catalog admitted).1, ih]
          simp
      | true =>
          rw [(ingest_standard_of_enumConstant admitted).1, collected, ih]
          by_cases same : enumName = last.type.simpleName
          · subst same
            simp [Enumeration.empty, List.filterMap_append, filterMap_singleton]
          · simp [same, Ne.symm same]

/-- The diagnostics of a run are those of its admitted constants. -/
theorem diagnostics_ofDeclarations (declarations : List Declaration) :
    (ofDeclarations .standard name path declarations).diagnostics =
      (declarations.filter (isEnumConstant path)).filterMap literalDiagnostic? := by
  induction declarations using List.reverseRecOn with
  | nil => rfl
  | append_singleton declarations last ih =>
      rw [ofDeclarations_concat, List.filter_append, List.filterMap_append, ← ih]
      have samePath := ofDeclarations_path name path .standard declarations
      generalize ofDeclarations .standard name path declarations = catalog at samePath ⊢
      subst samePath
      cases admitted : last.isEnumConstant catalog.path with
      | false =>
          rw [(ingest_of_not_enumConstant .standard catalog admitted).2]
          simp [admitted]
      | true =>
          rw [(ingest_standard_of_enumConstant admitted).2]
          simp [admitted, filterMap_singleton]

end Catalog

end ProtoSchema
