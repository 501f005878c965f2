import ProtoSchema.Proofs.Catalog.Constants

/-!
# The failures of a run

Of all declarations only an admitted constant can fail, and it fails exactly if its
literal denotes no integer: a map reaches its builder only with keys and elements, and
a struct has nothing to fail at. A run therefore counts and reports these constants,
one diagnostic each, while the others of the same type name become the values of its
enumeration.
-/

namespace ProtoSchema

namespace Declaration

/-- Whether the literal of a constant denotes an integer. -/
def hasIntegerLiteral (declaration : Declaration) : Bool :=
  (IntLiteral.parse declaration.literal).isOk

/-- A constant that the schema of `home` would have as an enum value, were its literal
valid. -/
def isInvalidConstant (home : String) (declaration : Declaration) : Bool :=
  declaration.isEnumConstant home && !declaration.hasIntegerLiteral

/-- What a diagnostic says of the constant that left it. -/
def ReportedBy (declaration : Declaration) (diagnostic : Diagnostic) : Prop :=
  ∃ cause, IntLiteral.parse declaration.literal = .error cause ∧
    diagnostic =
      { code := "PF-W001"
        severity := .warning
        declaration := declaration.name
        message :=
          (IngestError.invalidLiteral declaration.name declaration.literal cause).message }

variable {declaration : Declaration}

theorem ofLiteral_of_hasIntegerLiteral (integer : declaration.hasIntegerLiteral = true) :
    ∃ value, EnumValue.ofLiteral declaration.name declaration.literal = .ok value := by
  cases read : IntLiteral.parse declaration.literal with
  | error cause =>
      rw [hasIntegerLiteral, read] at integer
      contradiction
  | ok value => exact ⟨_, by rw [EnumValue.ofLiteral, read]⟩

theorem ofLiteral_of_not_hasIntegerLiteral (none : declaration.hasIntegerLiteral = false) :
    ∃ cause, IntLiteral.parse declaration.literal = .error cause ∧
      EnumValue.ofLiteral declaration.name declaration.literal =
        .error (.invalidLiteral declaration.name declaration.literal cause) := by
  cases read : IntLiteral.parse declaration.literal with
  | error cause => exact ⟨cause, rfl, by rw [EnumValue.ofLiteral, read]⟩
  | ok value =>
      rw [hasIntegerLiteral, read] at none
      contradiction

/-- A valid constant is displayed in screaming snake case and keeps its own name. -/
theorem enumValue?_eq (declaration : Declaration) :
    declaration.enumValue? =
      (IntLiteral.parse declaration.literal).toOption.map fun value =>
        { name := Identifier.enumValueName declaration.name
          value
          sourceName := declaration.name } := by
  rw [enumValue?, EnumValue.ofLiteral]
  cases IntLiteral.parse declaration.literal <;> rfl

theorem isEnumConstant_of_not_exportedConst (home : String)
    (noConst : declaration.isExportedConst = false) :
    declaration.isEnumConstant home = false := by
  simp [isEnumConstant, noConst]

/-- The diagnostics of a list of constants are one for each bad literal, in order. -/
theorem forall₂_reportedBy (declarations : List Declaration) :
    List.Forall₂ ReportedBy (declarations.filter (!·.hasIntegerLiteral))
      (declarations.filterMap literalDiagnostic?) := by
  induction declarations with
  | nil => exact .nil
  | cons declaration rest ih =>
      cases integer : declaration.hasIntegerLiteral with
      | true =>
          obtain ⟨value, valid⟩ := ofLiteral_of_hasIntegerLiteral integer
          rw [List.filter_cons_of_neg (by simp [integer]),
            List.filterMap_cons_none (literalDiagnostic?_of_valid valid)]
          exact ih
      | false =>
          obtain ⟨cause, parse, invalid⟩ := ofLiteral_of_not_hasIntegerLiteral integer
          rw [List.filter_cons_of_pos (by simp [integer]),
            List.filterMap_cons_some (literalDiagnostic?_of_invalid invalid)]
          exact .cons ⟨cause, parse, rfl⟩ ih

end Declaration

namespace Catalog

open Declaration

variable {catalog : Catalog} {declaration : Declaration}

/-! ## Steps -/

/-- What is no constant never fails. -/
theorem isOk_ingest_of_not_const (naming : Naming) (catalog : Catalog)
    (noConst : declaration.isExportedConst = false) :
    (catalog.ingest naming declaration).1.isOk = true := by
  cases struct : declaration.isExportedStruct with
  | true =>
      rw [ingest_of_struct naming catalog struct]
      rfl
  | false =>
      cases map : declaration.isExportedMap with
      | false =>
          rw [ingest_of_other naming catalog struct noConst map]
          rfl
      | true =>
          obtain ⟨described, ofType⟩ := exists_mapType_of_isMap (Bool.and_eq_true_iff.mp map).2
          rw [ingest_of_map naming catalog map]
          cases known : catalog.maps.contains declaration.name with
          | true =>
              rw [addMap_of_known naming known]
              rfl
          | false =>
              rw [addMap_of_new naming known ofType]
              rfl

/-- Only an admitted constant whose literal denotes no integer fails. -/
theorem isOk_ingest (naming : Naming) (catalog : Catalog) (declaration : Declaration) :
    (catalog.ingest naming declaration).1.isOk =
      !declaration.isInvalidConstant catalog.path := by
  cases const : declaration.isExportedConst with
  | false =>
      rw [isOk_ingest_of_not_const naming catalog const, isInvalidConstant,
        isEnumConstant_of_not_exportedConst catalog.path const]
      rfl
  | true =>
      cases admitted : declaration.isEnumConstant catalog.path with
      | false =>
          rw [ingest_of_refused_const naming const admitted, isInvalidConstant, admitted]
          rfl
      | true =>
          cases integer : declaration.hasIntegerLiteral with
          | true =>
              obtain ⟨value, valid⟩ := ofLiteral_of_hasIntegerLiteral integer
              rw [ingest_of_valid_const naming admitted valid, isInvalidConstant, admitted,
                integer]
              rfl
          | false =>
              obtain ⟨cause, _, invalid⟩ := ofLiteral_of_not_hasIntegerLiteral integer
              rw [ingest_of_invalid_const naming admitted invalid, isInvalidConstant, admitted,
                integer]
              rfl

/-! ## Runs -/

/-- A run fails once for each admitted constant whose literal denotes no integer. -/
theorem failures_ingestAll (naming : Naming) (catalog : Catalog)
    (declarations : List Declaration) :
    (catalog.ingestAll naming declarations).1 =
      (declarations.filter (isInvalidConstant catalog.path)).length := by
  induction declarations generalizing catalog with
  | nil => rfl
  | cons declaration rest ih =>
      have isOk := isOk_ingest naming catalog declaration
      have samePath := ingest_path naming catalog declaration
      rw [ingestAll]
      generalize catalog.ingest naming declaration = result at isOk samePath ⊢
      rcases result with ⟨error | outcome, next⟩ <;> change next.path = catalog.path at samePath
      · have invalid : declaration.isInvalidConstant catalog.path = true := by
          simpa [Except.isOk, Except.toBool] using isOk
        rw [List.filter_cons_of_pos invalid, List.length_cons, ← samePath]
        exact congrArg (· + 1) (ih next)
      · have valid : declaration.isInvalidConstant catalog.path = false := by
          simpa [Except.isOk, Except.toBool] using isOk
        rw [List.filter_cons_of_neg (by simp [valid]), ← samePath]
        exact ih next

variable (name path : String)

/-- Exact content of a run: its enumerations with their values in the order in which the
constants come, the number of its failures, and its diagnostics, one for each failure. -/
theorem constants_of_run (declarations : List Declaration) :
    let run := (empty name path).ingestAll .standard declarations
    let admitted := declarations.filter (isEnumConstant path)
    let invalid := admitted.filter (!·.hasIntegerLiteral)
    (∀ enumName, (∃ enumeration, run.2.enums.find? enumName = some enumeration) ↔
        ∃ constant ∈ admitted, constant.type.simpleName = enumName) ∧
      (∀ enumName enumeration, run.2.enums.find? enumName = some enumeration →
        enumeration.values =
          (admitted.filter (·.type.simpleName == enumName)).filterMap fun constant =>
            (IntLiteral.parse constant.literal).toOption.map fun value =>
              { name := Identifier.enumValueName constant.name
                value
                sourceName := constant.name }) ∧
      run.1 = invalid.length ∧
      List.Forall₂ ReportedBy invalid run.2.diagnostics ∧
      ∀ (catalog : Catalog) (other : Declaration), catalog.path = path →
        other.isEnumConstant path = false →
          (catalog.ingest .standard other).2.enums = catalog.enums ∧
            (catalog.ingest .standard other).2.diagnostics = catalog.diagnostics := by
  intro run admitted invalid
  have constants : ∀ enumName, constantsOf path enumName declarations =
      admitted.filter (·.type.simpleName == enumName) := by
    intro enumName
    simp [admitted, constantsOf, List.filter_filter, Bool.and_comm]
  have found : ∀ enumName, run.2.enums.find? enumName = _ :=
    find?_enums_ofDeclarations name path declarations
  refine ⟨fun enumName => ?_, fun enumName enumeration stored => ?_, ?_, ?_, ?_⟩
  · rw [found, constants]
    split
    · rename_i none
      simpa using none
    · rename_i some
      simpa [List.filter_eq_nil_iff] using some
  · rw [found, constants] at stored
    split at stored
    · contradiction
    · rw [Option.some.injEq] at stored
      subst stored
      exact List.filterMap_congr fun constant _ => enumValue?_eq constant
  · have counted := failures_ingestAll .standard (empty name path) declarations
    simp only [run, invalid, admitted, counted, List.filter_filter]
    congr 2
    funext constant
    exact Bool.and_comm _ _
  · have reported : run.2.diagnostics = admitted.filterMap literalDiagnostic? :=
      diagnostics_ofDeclarations name path declarations
    rw [reported]
    exact forall₂_reportedBy admitted
  · rintro catalog other rfl refused
    exact ingest_of_not_enumConstant .standard catalog refused

/-- Constants of one type name: through a chain of names, with a literal that denotes no
integer, of a foreign type, and of a type without a package. -/
theorem constants_of_run_mixed :
    let status := TypeExpr.named "shop" "Status" (.named "shop" "Code" (.basic "int32"))
    let constant := fun (name literal : String) (type : TypeExpr) =>
      ({ name, package := "shop", exported := none, declared := .const type literal } :
        Declaration)
    let foreign := constant "StatusLost" "4" (.named "billing" "Status" (.basic "int"))
    let run := (empty "shop" "shop").ingestAll .standard
      [constant "StatusOpen" "0x1F" status, constant "StatusBroken" "1e3" status, foreign,
        constant "StatusShut" "-2" (.named "" "Status" (.basic "int"))]
    (∃ enumeration, run.2.enums.find? "Status" = some enumeration ∧
        enumeration.values =
          [{ name := "STATUS_OPEN", value := 31, sourceName := "StatusOpen" },
            { name := "STATUS_SHUT", value := -2, sourceName := "StatusShut" }]) ∧
      run.1 = 1 ∧
      foreign.isEnumConstant "shop" = false ∧
      (run.2.ingest .standard foreign).2.enums = run.2.enums := by
  intro status constant foreign run
  obtain ⟨exists_iff, values, failures, _, frame⟩ := constants_of_run "shop" "shop"
    [constant "StatusOpen" "0x1F" status, constant "StatusBroken" "1e3" status, foreign,
      constant "StatusShut" "-2" (.named "" "Status" (.basic "int"))]
  obtain ⟨enumeration, found⟩ := (exists_iff "Status").mpr
    ⟨constant "StatusOpen" "0x1F" status, List.mem_cons_self, rfl⟩
  have samePath : run.2.path = "shop" := ofDeclarations_path "shop" "shop" .standard _
  refine ⟨⟨enumeration, found, (values "Status" enumeration found).trans ?_⟩,
    failures.trans ?_, ?_, ?_⟩
  · decide
  · decide
  · decide
  · exact (frame run.2 foreign samePath (by decide)).1

end Catalog

end ProtoSchema
