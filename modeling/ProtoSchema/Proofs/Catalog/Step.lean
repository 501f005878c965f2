import ProtoSchema.Catalog.Ingest
import ProtoSchema.Proofs.NameTable

/-!
# What one declaration changes

The content of a catalog falls into three parts. Exported structs alone change
the messages, the imports and the signatures seen; exported constants alone
change the enumerations and the diagnostics; exported maps alone change the maps.
For each builder an equation under each of its guards says what it yields, and
the frame laws say what the other builders leave alone.
-/

namespace ProtoSchema

/-! ## Classes of declarations -/

namespace TypeExpr

/-- A basic type has a shape of its own, whichever of the three it is. -/
theorem shape_of_underlying_basic {type : TypeExpr} {name : String}
    (under : type.underlying = .basic name) :
    type.shape = .integer ∨ type.shape = .float ∨ type.shape = .basic := by
  simp only [shape, under]
  split
  · exact .inl rfl
  · split
    · exact .inr (.inl rfl)
    · exact .inr (.inr rfl)

theorem shape_eq_struct_iff {type : TypeExpr} :
    type.shape = .struct ↔ ∃ members, type.underlying = .struct members := by
  cases under : type.underlying with
  | basic name => rcases shape_of_underlying_basic under with same | same | same <;> simp [same]
  | _ => simp [shape, under]

theorem shape_eq_map_iff {type : TypeExpr} :
    type.shape = .map ↔ ∃ key elem, type.underlying = .map key elem := by
  cases under : type.underlying with
  | basic name => rcases shape_of_underlying_basic under with same | same | same <;> simp [same]
  | _ => simp [shape, under]

end TypeExpr

namespace Declaration

/-- A type declaration of struct shape that is exported. -/
def isExportedStruct (declaration : Declaration) : Bool :=
  declaration.isExported && declaration.isStruct

/-- A constant that is exported. -/
def isExportedConst (declaration : Declaration) : Bool :=
  declaration.isExported && declaration.isConst

/-- A type declaration of map shape that is exported. -/
def isExportedMap (declaration : Declaration) : Bool :=
  declaration.isExported && declaration.isMap

/-- The members of the struct that a declaration declares. -/
def structMembers (declaration : Declaration) : List Member :=
  match declaration.type.underlying with
  | .struct members => members
  | _ => []

variable {declaration : Declaration}

theorem underlying_of_isStruct (struct : declaration.isStruct = true) :
    declaration.type.underlying = .struct declaration.structMembers := by
  simp only [isStruct, Bool.and_eq_true, beq_iff_eq, TypeExpr.shape_eq_struct_iff] at struct
  obtain ⟨_, members, under⟩ := struct
  simp [structMembers, under]

theorem underlying_of_isMap (map : declaration.isMap = true) :
    ∃ key elem, declaration.type.underlying = .map key elem := by
  simp only [isMap, Bool.and_eq_true, beq_iff_eq, TypeExpr.shape_eq_map_iff] at map
  exact map.2

theorem classify_of_isStruct (struct : declaration.isStruct = true) :
    declaration.classify = .struct := by
  simp [classify, struct]

theorem classify_of_isConst (const : declaration.isConst = true) :
    declaration.classify = .constant := by
  simp [classify, isStruct, const]

theorem classify_of_isMap (map : declaration.isMap = true) : declaration.classify = .map := by
  simp only [isMap, Bool.and_eq_true, Bool.not_eq_true', beq_iff_eq] at map
  simp [classify, isStruct, isMap, map]

end Declaration

namespace Catalog

variable {naming : Naming} {catalog : Catalog} {declaration : Declaration}

/-! ## Imports -/

/-- Imports with further packages recorded after them, each package once. -/
def importsWith (imports packages : List String) : List String :=
  packages.foldl
    (fun imports package => if package ∈ imports then imports else imports ++ [package]) imports

theorem addImport_eq (catalog : Catalog) (package : String) :
    catalog.addImport package =
      { catalog with imports := importsWith catalog.imports [package] } := by
  by_cases known : package ∈ catalog.imports <;> simp [addImport, importsWith, known]

/-- Recording imports changes the imports and nothing else. -/
theorem addImports_eq (catalog : Catalog) (packages : List String) :
    catalog.addImports packages =
      { catalog with imports := importsWith catalog.imports packages } := by
  induction packages generalizing catalog with
  | nil => rfl
  | cons package rest ih =>
      change (catalog.addImport package).addImports rest = _
      rw [addImport_eq, ih]
      rfl

/-! ## Structs -/

/-- The message of a struct declaration as it is built, before it is displayed. -/
def builtMessage (home : String) (declaration : Declaration) : Message :=
  Message.ofMembers home declaration.name declaration.structMembers

/-- A catalog that has seen a signature. -/
def markSeen (catalog : Catalog) (signature : String) : Catalog :=
  { catalog with seen := signature :: catalog.seen }

theorem addMessage_of_seen (naming : Naming)
    (seen : declaration.type.signature ∈ catalog.seen) :
    catalog.addMessage naming declaration = (.duplicate, catalog) := by
  simp [addMessage, seen]

theorem addMessage_of_foreign (naming : Naming)
    (fresh : declaration.type.signature ∉ catalog.seen)
    (foreign : FieldType.isForeign catalog.path declaration.owner = true) :
    catalog.addMessage naming declaration =
      (.imported declaration.owner,
        (catalog.markSeen declaration.type.signature).addImport declaration.owner) := by
  simp [addMessage, markSeen, fresh, foreign]

theorem addMessage_of_members (naming : Naming)
    (fresh : declaration.type.signature ∉ catalog.seen)
    (home : FieldType.isForeign catalog.path declaration.owner = false)
    (under : declaration.type.underlying = .struct declaration.structMembers) :
    catalog.addMessage naming declaration =
      let built := builtMessage catalog.path declaration
      let next := (catalog.markSeen declaration.type.signature).addImports
        (built.fields.flatMap Field.references)
      let shown := naming.applyMessage next built
      (.message shown.name, { next with messages := next.messages ++ [shown] }) := by
  simp [addMessage, markSeen, builtMessage, fresh, home, under]

/-- A declaration of another shape, which its class keeps away from here, is noted and
gives no message. -/
theorem addMessage_of_no_members (naming : Naming)
    (fresh : declaration.type.signature ∉ catalog.seen)
    (home : FieldType.isForeign catalog.path declaration.owner = false)
    (shape : ∀ members, declaration.type.underlying ≠ .struct members) :
    catalog.addMessage naming declaration =
      (.skipped, catalog.markSeen declaration.type.signature) := by
  simp [addMessage, markSeen, fresh, home]

/-- The guards under which the equations above stand leave nothing out. -/
theorem addMessage_guards (catalog : Catalog) (declaration : Declaration) :
    declaration.type.signature ∈ catalog.seen ∨
      declaration.type.signature ∉ catalog.seen ∧
        (FieldType.isForeign catalog.path declaration.owner = true ∨
          FieldType.isForeign catalog.path declaration.owner = false ∧
            (declaration.type.underlying = .struct declaration.structMembers ∨
              ∀ members, declaration.type.underlying ≠ .struct members)) := by
  by_cases seen : declaration.type.signature ∈ catalog.seen
  · exact .inl seen
  · refine .inr ⟨seen, ?_⟩
    cases foreign : FieldType.isForeign catalog.path declaration.owner with
    | true => exact .inl rfl
    | false =>
        refine .inr ⟨rfl, ?_⟩
        cases under : declaration.type.underlying with
        | struct members => exact .inl (by rw [Declaration.structMembers, under])
        | _ => exact .inr (by simp)

/-- Taking in a struct leaves enumerations, maps and diagnostics alone. -/
theorem addMessage_frame (naming : Naming) (catalog : Catalog) (declaration : Declaration) :
    (catalog.addMessage naming declaration).2 =
      { catalog with
        messages := (catalog.addMessage naming declaration).2.messages
        imports := (catalog.addMessage naming declaration).2.imports
        seen := (catalog.addMessage naming declaration).2.seen } := by
  unfold addMessage
  dsimp only
  split
  · rfl
  · split
    · rw [addImport_eq]
    · split
      · rw [addImports_eq]
      · rfl

/-! ## Constants -/

theorem enumOrEmpty_ensureEnum (catalog : Catalog) (name : String) :
    (catalog.ensureEnum name).enumOrEmpty name = catalog.enumOrEmpty name := by
  simp [ensureEnum, putEnum, enumOrEmpty]

theorem addEnumValue_of_not_admitted (naming : Naming)
    (refused : catalog.admits declaration = false) :
    catalog.addEnumValue naming declaration = (.ok .skipped, catalog) := by
  unfold addEnumValue
  split <;> simp [refused]

theorem addEnumValue_of_invalid (naming : Naming) {type : TypeExpr} {literal : String}
    {error : IngestError} (const : declaration.declared = .const type literal)
    (admitted : catalog.admits declaration = true)
    (invalid : EnumValue.ofLiteral declaration.name literal = .error error) :
    catalog.addEnumValue naming declaration =
      (.error error, catalog.ensureEnum type.simpleName) := by
  simp [addEnumValue, const, admitted, invalid]

theorem addEnumValue_of_valid (naming : Naming) {type : TypeExpr} {literal : String}
    {value : EnumValue} (const : declaration.declared = .const type literal)
    (admitted : catalog.admits declaration = true)
    (valid : EnumValue.ofLiteral declaration.name literal = .ok value) :
    catalog.addEnumValue naming declaration =
      let next := catalog.ensureEnum type.simpleName
      let shown := naming.applyEnumValue next value
      (.ok (.enumValue type.simpleName shown.name),
        next.putEnum type.simpleName ((catalog.enumOrEmpty type.simpleName).push shown)) := by
  simp [addEnumValue, const, admitted, valid, enumOrEmpty_ensureEnum]

/-- Taking in a constant changes the enumerations and nothing else. -/
theorem addEnumValue_frame (naming : Naming) (catalog : Catalog) (declaration : Declaration) :
    (catalog.addEnumValue naming declaration).2 =
      { catalog with enums := (catalog.addEnumValue naming declaration).2.enums } := by
  unfold addEnumValue
  split
  · rfl
  · split
    · dsimp only
      split <;> rfl
    · rfl

/-! ## Maps -/

theorem addMap_of_known (naming : Naming)
    (known : catalog.maps.contains declaration.name = true) :
    catalog.addMap naming declaration = (.ok .duplicate, catalog) := by
  simp [addMap, known]

theorem addMap_of_new (naming : Naming) {map : MapType}
    (new : catalog.maps.contains declaration.name = false)
    (described : MapType.ofType declaration.name declaration.type = .ok map) :
    catalog.addMap naming declaration =
      (.ok (.map declaration.name),
        { catalog with
          maps := catalog.maps.insert declaration.name (naming.applyMap catalog map) }) := by
  simp [addMap, new, described]

theorem exists_mapType_of_isMap (map : declaration.isMap = true) :
    ∃ described, MapType.ofType declaration.name declaration.type = .ok described := by
  obtain ⟨key, elem, under⟩ := Declaration.underlying_of_isMap map
  simp [MapType.ofType, under]

/-- Taking in a map changes the maps and nothing else. -/
theorem addMap_frame (naming : Naming) (catalog : Catalog) (declaration : Declaration) :
    (catalog.addMap naming declaration).2 =
      { catalog with maps := (catalog.addMap naming declaration).2.maps } := by
  unfold addMap
  split
  · rfl
  · split <;> rfl

/-! ## Canonical order -/

/-- The order of messages by name. -/
def byName (first second : Message) : Bool :=
  first.name ≤ second.name

theorem byName_trans (a b c : Message) (first : byName a b = true) (second : byName b c = true) :
    byName a c = true := by
  simp only [byName, decide_eq_true_eq] at first second ⊢
  exact String.le_trans first second

theorem byName_total (a b : Message) : (byName a b || byName b a) = true := by
  simp only [byName, Bool.or_eq_true, decide_eq_true_eq]
  exact String.le_total a.name b.name

/-! ## Any declaration -/

theorem ingest_of_struct (naming : Naming) (catalog : Catalog)
    (struct : declaration.isExportedStruct = true) :
    catalog.ingest naming declaration =
      (.ok (catalog.addMessage naming declaration).1,
        (catalog.addMessage naming declaration).2) := by
  simp only [Declaration.isExportedStruct, Bool.and_eq_true] at struct
  simp [ingest, build, struct.1, Declaration.classify_of_isStruct struct.2]

theorem ingest_of_const (naming : Naming) (catalog : Catalog)
    (const : declaration.isExportedConst = true) :
    catalog.ingest naming declaration =
      match catalog.addEnumValue naming declaration with
      | (.ok outcome, next) => (.ok outcome, next)
      | (.error error, next) => (.error error, next.report declaration.name error) := by
  simp only [Declaration.isExportedConst, Bool.and_eq_true] at const
  rcases result : catalog.addEnumValue naming declaration with ⟨error | outcome, next⟩
  · simp [ingest, build, const.1, Declaration.classify_of_isConst const.2, result]
  · simp [ingest, build, const.1, Declaration.classify_of_isConst const.2, result]

/-- A map never fails, since its class rules out the types that have no keys. -/
theorem ingest_of_map (naming : Naming) (catalog : Catalog)
    (map : declaration.isExportedMap = true) :
    catalog.ingest naming declaration = catalog.addMap naming declaration := by
  simp only [Declaration.isExportedMap, Bool.and_eq_true] at map
  obtain ⟨described, ofType⟩ := exists_mapType_of_isMap map.2
  cases known : catalog.maps.contains declaration.name with
  | true =>
      simp [ingest, build, map.1, Declaration.classify_of_isMap map.2, addMap_of_known _ known]
  | false =>
      simp [ingest, build, map.1, Declaration.classify_of_isMap map.2,
        addMap_of_new _ known ofType]

theorem ingest_of_other (naming : Naming) (catalog : Catalog)
    (noStruct : declaration.isExportedStruct = false)
    (noConst : declaration.isExportedConst = false)
    (noMap : declaration.isExportedMap = false) :
    catalog.ingest naming declaration = (.ok .skipped, catalog) := by
  cases exported : declaration.isExported with
  | false => simp [ingest, exported]
  | true =>
      simp only [Declaration.isExportedStruct, Declaration.isExportedConst,
        Declaration.isExportedMap, exported, Bool.true_and] at noStruct noConst noMap
      simp [ingest, build, exported, Declaration.classify, noStruct, noConst, noMap]

/-- A declaration changes at most the part of the catalog that belongs to its class. -/
theorem ingest_frame (naming : Naming) (catalog : Catalog) (declaration : Declaration) :
    let next := (catalog.ingest naming declaration).2
    (declaration.isExportedStruct = true ∧
        next = { catalog with
          messages := next.messages, imports := next.imports, seen := next.seen }) ∨
      (declaration.isExportedConst = true ∧
        next = { catalog with enums := next.enums, diagnostics := next.diagnostics }) ∨
      (declaration.isExportedMap = true ∧ next = { catalog with maps := next.maps }) ∨
      next = catalog := by
  cases struct : declaration.isExportedStruct with
  | true =>
      rw [ingest_of_struct naming catalog struct]
      exact .inl ⟨rfl, addMessage_frame naming catalog declaration⟩
  | false =>
      cases const : declaration.isExportedConst with
      | true =>
          rw [ingest_of_const naming catalog const]
          have frame := addEnumValue_frame naming catalog declaration
          generalize catalog.addEnumValue naming declaration = result at frame ⊢
          rcases result with ⟨error | outcome, next⟩
          all_goals
            change next = _ at frame
            rw [frame]
            exact .inr (.inl ⟨rfl, rfl⟩)
      | false =>
          cases map : declaration.isExportedMap with
          | true =>
              rw [ingest_of_map naming catalog map]
              exact .inr (.inr (.inl ⟨rfl, addMap_frame naming catalog declaration⟩))
          | false =>
              rw [ingest_of_other naming catalog struct const map]
              exact .inr (.inr (.inr rfl))

@[simp]
theorem ingest_name (naming : Naming) (catalog : Catalog) (declaration : Declaration) :
    (catalog.ingest naming declaration).2.name = catalog.name := by
  rcases ingest_frame naming catalog declaration with
    ⟨_, frame⟩ | ⟨_, frame⟩ | ⟨_, frame⟩ | frame <;> rw [frame]

@[simp]
theorem ingest_path (naming : Naming) (catalog : Catalog) (declaration : Declaration) :
    (catalog.ingest naming declaration).2.path = catalog.path := by
  rcases ingest_frame naming catalog declaration with
    ⟨_, frame⟩ | ⟨_, frame⟩ | ⟨_, frame⟩ | frame <;> rw [frame]

/-- Messages, imports and signatures belong to the exported structs. -/
theorem ingest_of_not_struct (naming : Naming) (catalog : Catalog)
    (noStruct : declaration.isExportedStruct = false) :
    (catalog.ingest naming declaration).2.messages = catalog.messages ∧
      (catalog.ingest naming declaration).2.imports = catalog.imports ∧
      (catalog.ingest naming declaration).2.seen = catalog.seen := by
  rcases ingest_frame naming catalog declaration with
    ⟨struct, _⟩ | ⟨_, frame⟩ | ⟨_, frame⟩ | frame
  · rw [struct] at noStruct
    contradiction
  all_goals rw [frame]; exact ⟨rfl, rfl, rfl⟩

/-- Enumerations and diagnostics belong to the exported constants. -/
theorem ingest_of_not_const (naming : Naming) (catalog : Catalog)
    (noConst : declaration.isExportedConst = false) :
    (catalog.ingest naming declaration).2.enums = catalog.enums ∧
      (catalog.ingest naming declaration).2.diagnostics = catalog.diagnostics := by
  rcases ingest_frame naming catalog declaration with
    ⟨_, frame⟩ | ⟨const, _⟩ | ⟨_, frame⟩ | frame
  case inr.inl =>
    rw [const] at noConst
    contradiction
  all_goals rw [frame]; exact ⟨rfl, rfl⟩

/-- Maps belong to the exported maps. -/
theorem ingest_of_not_map (naming : Naming) (catalog : Catalog)
    (noMap : declaration.isExportedMap = false) :
    (catalog.ingest naming declaration).2.maps = catalog.maps := by
  rcases ingest_frame naming catalog declaration with
    ⟨_, frame⟩ | ⟨_, frame⟩ | ⟨map, _⟩ | frame
  case inr.inr.inl =>
    rw [map] at noMap
    contradiction
  all_goals rw [frame]

end Catalog

end ProtoSchema
