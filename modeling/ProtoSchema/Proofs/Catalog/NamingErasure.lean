import ProtoSchema.Proofs.Catalog.DisplayedEnums
import ProtoSchema.Proofs.Catalog.Operation

/-!
# Structure is independent of the naming

A naming sees the catalog as it is being built, and its answers are stored next to the
names by which messages, enumerations and maps are found again. Blanking the display
names, in a catalog and in its answers, turns a step under any naming into a step under
the naming that answers with blanks. So nothing that a catalog looks up was chosen by a
naming, and runs under two namings differ in display names alone.
-/

namespace ProtoSchema

/-! ## Without display names -/

/-- A field without its display names. -/
def Field.unnamed (field : Field) : Field :=
  { field with name := "", typeName := "" }

/-- A message without its display name and those of its fields. -/
def Message.unnamed (message : Message) : Message where
  name := ""
  fields := message.fields.map Field.unnamed

/-- An enum value without its display name. -/
def EnumValue.unnamed (value : EnumValue) : EnumValue :=
  { value with name := "" }

/-- An enumeration without the display names of its values. It keeps its own, which no
naming decides. -/
def Enumeration.unnamed (enumeration : Enumeration) : Enumeration :=
  { enumeration with values := enumeration.values.map EnumValue.unnamed }

/-- A map without its display names. -/
def MapType.unnamed (map : MapType) : MapType :=
  { map with name := "", keyType := "", elemType := "" }

/-- What became of a declaration, without display names. A map is told of by the name of
its declaration, and an enumeration by the name of its type. -/
def Outcome.unnamed : Outcome → Outcome
  | .message _ => .message ""
  | .enumValue enumeration _ => .enumValue enumeration ""
  | outcome => outcome

/-- A catalog without display names. -/
def Catalog.unnamed (catalog : Catalog) : Catalog :=
  { catalog with
    messages := catalog.messages.map Message.unnamed
    enums := catalog.enums.mapValues Enumeration.unnamed
    maps := catalog.maps.mapValues MapType.unnamed }

/-- The naming that displays every part without a name. -/
def Naming.nameless : Naming where
  message _ _ := ""
  field _ _ := { name := "", typeName := "" }
  enumValue _ _ := ""
  map _ _ := { name := "", keyType := "", elemType := "" }

/-! ## Parts -/

section Parts

variable (naming : Naming) (catalog : Catalog)

@[simp]
theorem Message.unnamed_applyMessage (message : Message) :
    (naming.applyMessage catalog message).unnamed = message.unnamed := by
  simp only [unnamed, Naming.applyMessage, List.map_map]
  rfl

@[simp]
theorem Naming.nameless_applyMessage (message : Message) :
    nameless.applyMessage catalog message = message.unnamed :=
  rfl

@[simp]
theorem EnumValue.unnamed_applyEnumValue (value : EnumValue) :
    (naming.applyEnumValue catalog value).unnamed = value.unnamed :=
  rfl

@[simp]
theorem Naming.nameless_applyEnumValue (value : EnumValue) :
    nameless.applyEnumValue catalog value = value.unnamed :=
  rfl

@[simp]
theorem Enumeration.unnamed_push (enumeration : Enumeration) (value : EnumValue) :
    (enumeration.push value).unnamed = enumeration.unnamed.push value.unnamed := by
  simp [unnamed, push]

end Parts

namespace Catalog

variable (naming : Naming) (catalog : Catalog) (declaration : Declaration)

/-! ## Changes -/

@[simp]
theorem unnamed_markSeen (signature : String) :
    (catalog.markSeen signature).unnamed = catalog.unnamed.markSeen signature :=
  rfl

@[simp]
theorem unnamed_addImports (packages : List String) :
    (catalog.addImports packages).unnamed = catalog.unnamed.addImports packages := by
  rw [addImports_eq, addImports_eq]
  rfl

@[simp]
theorem unnamed_storeMessage (message : Message) :
    ({ catalog with messages := catalog.messages ++ [message] } : Catalog).unnamed =
      { catalog.unnamed with messages := catalog.unnamed.messages ++ [message.unnamed] } := by
  simp [unnamed]

@[simp]
theorem unnamed_putEnum (name : String) (enumeration : Enumeration) :
    (catalog.putEnum name enumeration).unnamed =
      catalog.unnamed.putEnum name enumeration.unnamed := by
  simp [unnamed, putEnum]

@[simp]
theorem unnamed_storeMap (name : String) (map : MapType) :
    ({ catalog with maps := catalog.maps.insert name map } : Catalog).unnamed =
      { catalog.unnamed with maps := catalog.unnamed.maps.insert name map.unnamed } := by
  simp [unnamed]

/-- An enumeration is found under the name of its type. -/
@[simp]
theorem enumOrEmpty_unnamed (name : String) :
    catalog.unnamed.enumOrEmpty name = (catalog.enumOrEmpty name).unnamed := by
  simp only [enumOrEmpty, unnamed, NameTable.find?_mapValues]
  exact Option.getD_map Enumeration.unnamed (.empty name) _

@[simp]
theorem unnamed_ensureEnum (name : String) :
    (catalog.ensureEnum name).unnamed = catalog.unnamed.ensureEnum name := by
  simp [ensureEnum]

/-- A map is found under the name of its declaration. -/
@[simp]
theorem contains_maps_unnamed (name : String) :
    catalog.unnamed.maps.contains name = catalog.maps.contains name := by
  simp [unnamed, NameTable.contains]

@[simp]
theorem admits_unnamed : catalog.unnamed.admits declaration = catalog.admits declaration := by
  rw [admits_eq, admits_eq]
  rfl

/-! ## Steps -/

theorem unnamed_addMessage :
    (catalog.addMessage naming declaration).map Outcome.unnamed unnamed =
      catalog.unnamed.addMessage .nameless declaration := by
  rcases addMessage_guards catalog declaration with seen | ⟨fresh, guards⟩
  · have seenBlank : declaration.type.signature ∈ catalog.unnamed.seen := seen
    rw [addMessage_of_seen _ seen, addMessage_of_seen _ seenBlank]
    rfl
  · have freshBlank : declaration.type.signature ∉ catalog.unnamed.seen := fresh
    rcases guards with foreign | ⟨home, under | shape⟩
    · rw [addMessage_of_foreign _ fresh foreign, addMessage_of_foreign _ freshBlank foreign]
      exact Prod.ext rfl (unnamed_addImports _ [declaration.owner])
    · rw [addMessage_of_members _ fresh home under, addMessage_of_members _ freshBlank home under]
      simp only [Prod.map_apply, unnamed_storeMessage, unnamed_addImports, unnamed_markSeen,
        Message.unnamed_applyMessage, Naming.nameless_applyMessage]
      rfl
    · rw [addMessage_of_no_members _ fresh home shape,
        addMessage_of_no_members _ freshBlank home shape]
      rfl

theorem unnamed_addEnumValue :
    (catalog.addEnumValue naming declaration).map (·.map Outcome.unnamed) unnamed =
      catalog.unnamed.addEnumValue .nameless declaration := by
  unfold addEnumValue
  rw [admits_unnamed]
  split
  · rfl
  · split
    · rename_i type literal _ _
      dsimp only
      cases EnumValue.ofLiteral declaration.name literal with
      | error error => exact Prod.ext rfl (unnamed_ensureEnum _ type.simpleName)
      | ok value =>
          refine Prod.ext rfl ?_
          simp [← unnamed_ensureEnum]
    · rfl

theorem unnamed_addMap :
    (catalog.addMap naming declaration).map (·.map Outcome.unnamed) unnamed =
      catalog.unnamed.addMap .nameless declaration := by
  unfold addMap
  rw [contains_maps_unnamed]
  split
  · rfl
  · cases MapType.ofType declaration.name declaration.type with
    | error error => rfl
    | ok map => exact Prod.ext rfl (unnamed_storeMap ..)

theorem unnamed_build :
    (catalog.build naming declaration).map (·.map Outcome.unnamed) unnamed =
      catalog.unnamed.build .nameless declaration := by
  unfold build
  split
  · rw [← unnamed_addMessage naming]
    rfl
  · exact unnamed_addEnumValue naming catalog declaration
  · exact unnamed_addMap naming catalog declaration
  · rfl

/-- A declaration is taken in under any naming as it is under the naming without names. -/
theorem unnamed_ingest :
    (catalog.ingest naming declaration).map (·.map Outcome.unnamed) unnamed =
      catalog.unnamed.ingest .nameless declaration := by
  unfold ingest
  rw [← unnamed_build naming]
  split
  · rcases catalog.build naming declaration with ⟨error | outcome, next⟩ <;> rfl
  · rfl

/-! ## Runs -/

/-- An answer without display names. -/
def Answer.unnamed : Answer → Answer
  | .outcome result => .outcome (result.map Outcome.unnamed)
  | .failures count => .failures count
  | .enumeration shown => .enumeration shown.unnamed
  | .value result => .value (result.map EnumValue.unnamed)

/-- A run over declarations goes under any naming as under the naming without names. -/
theorem unnamed_run (declarations : List Declaration) :
    (catalog.run naming (declarations.map .ingest)).map (·.map Answer.unnamed) unnamed =
      catalog.unnamed.run .nameless (declarations.map .ingest) := by
  induction declarations generalizing catalog with
  | nil => rfl
  | cons declaration rest ih =>
      have step := unnamed_ingest naming catalog declaration
      rw [List.map_cons, run_cons, run_cons]
      simp only [perform, ← step, ← ih, Prod.map]
      rfl

/-- What a view does not see may be blanked before values are compared. -/
theorem map_view_eq {α β : Type} {blank : α → α} {view : α → β}
    (blind : ∀ value, view (blank value) = view value) {first second : Option α}
    (same : first.map blank = second.map blank) : first.map view = second.map view := by
  have viewed := congrArg (Option.map view) same
  simpa only [Option.map_map, Function.comp_def, blind] using viewed

end Catalog

namespace Enumeration

/-- The values of an enumeration, each told by its source and its number. -/
def sources (enumeration : Enumeration) : List (String × Int) :=
  enumeration.values.map fun value => (value.sourceName, value.value)

/-- The three flags of an enumeration: alias, missing default and gaps. -/
def flags (enumeration : Enumeration) : Bool × Bool × Bool :=
  (enumeration.allowAlias, enumeration.missingDefault, enumeration.hasGaps)

theorem sources_unnamed (enumeration : Enumeration) :
    enumeration.unnamed.sources = enumeration.sources := by
  simp only [sources, unnamed, List.map_map]
  rfl

theorem numbers_unnamed (enumeration : Enumeration) :
    enumeration.unnamed.numbers = enumeration.numbers := by
  simp only [numbers, unnamed, List.map_map]
  rfl

/-- The flags of the canonical form follow from the numbers, although display names decide
where values of one number stand. -/
theorem flags_canonicalize_eq {first second : Enumeration}
    (same : first.numbers = second.numbers) :
    first.canonicalize.flags = second.canonicalize.flags := by
  have sameAlias : first.canonicalize.allowAlias = second.canonicalize.allowAlias := by
    rw [Bool.eq_iff_iff, allowAlias_canonicalize_iff, allowAlias_canonicalize_iff, same]
  have sameMissing : first.canonicalize.missingDefault = second.canonicalize.missingDefault := by
    rw [Bool.eq_iff_iff, missingDefault_canonicalize_iff, missingDefault_canonicalize_iff, same]
  have sameGaps : first.canonicalize.hasGaps = second.canonicalize.hasGaps := rfl
  simp only [flags, sameAlias, sameMissing, sameGaps]

end Enumeration

/-- The resolved types of a map's keys and elements. -/
def MapType.underlying (map : MapType) : String × String :=
  (map.underlyingKeyType, map.underlyingElemType)

theorem MapType.underlying_unnamed (map : MapType) : map.unnamed.underlying = map.underlying :=
  rfl

namespace Catalog

/-- Namings cannot influence structure. Under any two namings the declarations of a package
have the same outcomes but for display names, and they leave the same messages with the
same fields, the same enumerations with the same sources and numbers, the same maps, imports
and diagnostics; and canonical order finds the same flags. -/
theorem run_structure_eq (name path : String) (first second : Naming)
    (declarations : List Declaration) :
    let left := (empty name path).run first (declarations.map .ingest)
    let right := (empty name path).run second (declarations.map .ingest)
    left.1.map Answer.unnamed = right.1.map Answer.unnamed ∧
      left.2.messages.map Message.unnamed = right.2.messages.map Message.unnamed ∧
      (∀ enumName, (left.2.enums.find? enumName).map Enumeration.sources =
        (right.2.enums.find? enumName).map Enumeration.sources) ∧
      (∀ mapName, (left.2.maps.find? mapName).map MapType.underlying =
        (right.2.maps.find? mapName).map MapType.underlying) ∧
      left.2.imports = right.2.imports ∧
      left.2.diagnostics = right.2.diagnostics ∧
      ∀ enumName, (left.2.canonicalize.enums.find? enumName).map Enumeration.flags =
        (right.2.canonicalize.enums.find? enumName).map Enumeration.flags := by
  intro left right
  have erased : left.map (·.map Answer.unnamed) unnamed =
      right.map (·.map Answer.unnamed) unnamed :=
    (unnamed_run first (empty name path) declarations).trans
      (unnamed_run second (empty name path) declarations).symm
  have sameCatalog : left.2.unnamed = right.2.unnamed := congrArg Prod.snd erased
  have sameEnums : ∀ enumName, (left.2.enums.find? enumName).map Enumeration.unnamed =
      (right.2.enums.find? enumName).map Enumeration.unnamed := by
    intro enumName
    simpa [unnamed] using congrArg (·.enums.find? enumName) sameCatalog
  have sameMaps : ∀ mapName, (left.2.maps.find? mapName).map MapType.unnamed =
      (right.2.maps.find? mapName).map MapType.unnamed := by
    intro mapName
    simpa [unnamed] using congrArg (·.maps.find? mapName) sameCatalog
  refine ⟨congrArg Prod.fst erased, congrArg messages sameCatalog, fun enumName => ?_,
    fun mapName => ?_, ?_, ?_, fun enumName => ?_⟩
  · exact map_view_eq Enumeration.sources_unnamed (sameEnums enumName)
  · exact map_view_eq MapType.underlying_unnamed (sameMaps mapName)
  · simpa [unnamed] using congrArg imports sameCatalog
  · simpa [unnamed] using congrArg diagnostics sameCatalog
  · simp only [canonicalize, NameTable.find?_mapValues, Option.map_map]
    refine map_view_eq (fun enumeration => ?_) (sameEnums enumName)
    exact Enumeration.flags_canonicalize_eq enumeration.numbers_unnamed

end Catalog

end ProtoSchema
