import ProtoSchema.Document
import ProtoSchema.Proofs.Catalog.Constants
import ProtoSchema.Proofs.Catalog.Operation
import ProtoSchema.Proofs.Catalog.Structs
import ProtoSchema.Proofs.Enumeration

/-!
# Canonical order in the middle of a run

Bringing a catalog into canonical order early changes nothing in the end. Two catalogs
are alike if canonical order makes them equal; they differ at most in the order of their
messages and of the values in an enumeration, and in flags that describe an earlier
order. Under the usual naming no operation looks at any of these, so alike catalogs give
the same answers and stay alike; and sorting is stable, so messages of one name and
values of one name and number come out in the order in which they were added.
-/

namespace ProtoSchema.Catalog

/-! ## Alike catalogs -/

/-- Catalogs that canonical order makes equal. -/
def Alike (first second : Catalog) : Prop :=
  first.canonicalize = second.canonicalize

variable {first second : Catalog}

/-- Alike catalogs differ in messages and enumerations at most, and these not once they
are in canonical order. -/
theorem alike_iff :
    first.Alike second ↔
      ∃ messages enums, second = { first with messages, enums } ∧
        first.messages.mergeSort byName = messages.mergeSort byName ∧
        first.enums.mapValues Enumeration.canonicalize =
          enums.mapValues Enumeration.canonicalize := by
  constructor
  · intro same
    rcases first with ⟨name, path, messages, enums, maps, imports, diagnostics, seen⟩
    rcases second with ⟨name', path', messages', enums', maps', imports', diagnostics', seen'⟩
    simp only [Alike, canonicalize, mk.injEq] at same
    obtain ⟨rfl, rfl, sameMessages, sameEnums, rfl, rfl, rfl, rfl⟩ := same
    exact ⟨messages', enums', rfl, sameMessages, sameEnums⟩
  · rintro ⟨messages, enums, rfl, sameMessages, sameEnums⟩
    change first.canonicalize = { first.canonicalize with
      messages := messages.mergeSort byName, enums := enums.mapValues Enumeration.canonicalize }
    rw [← sameMessages, ← sameEnums]
    rfl

theorem Alike.refl (catalog : Catalog) : catalog.Alike catalog :=
  rfl

theorem Alike.path_eq (alike : first.Alike second) : first.path = second.path := by
  obtain ⟨_, _, rfl, _, _⟩ := alike_iff.mp alike
  rfl

theorem Alike.seen_eq (alike : first.Alike second) : first.seen = second.seen := by
  obtain ⟨_, _, rfl, _, _⟩ := alike_iff.mp alike
  rfl

theorem Alike.maps_eq (alike : first.Alike second) : first.maps = second.maps := by
  obtain ⟨_, _, rfl, _, _⟩ := alike_iff.mp alike
  rfl

theorem alike_canonicalize (catalog : Catalog) : catalog.canonicalize.Alike catalog := by
  refine alike_iff.mpr ⟨_, _, rfl, ?_, ?_⟩
  · exact mergeSort_mergeSort byName_trans byName_total catalog.messages
  · exact NameTable.mapValues_mapValues Enumeration.canonicalize_canonicalize catalog.enums

/-! ## Changes -/

theorem Alike.find?_enums (alike : first.Alike second) (name : String) :
    (first.enums.find? name).map Enumeration.canonicalize =
      (second.enums.find? name).map Enumeration.canonicalize := by
  have sameEnums := congrArg (·.enums.find? name) alike
  simpa [canonicalize] using sameEnums

theorem Alike.enumOrEmpty (alike : first.Alike second) (name : String) :
    (first.enumOrEmpty name).canonicalize = (second.enumOrEmpty name).canonicalize := by
  have same := alike.find?_enums name
  have displayed : ∀ catalog : Catalog, (catalog.enumOrEmpty name).canonicalize =
      ((catalog.enums.find? name).map Enumeration.canonicalize).getD
        (Enumeration.empty name).canonicalize := by
    intro catalog
    rw [Option.getD_map]
    rfl
  rw [displayed, displayed, same]

theorem Alike.putEnum (alike : first.Alike second) (name : String) {a b : Enumeration}
    (same : a.canonicalize = b.canonicalize) :
    (first.putEnum name a).Alike (second.putEnum name b) := by
  obtain ⟨messages, enums, rfl, sameMessages, sameEnums⟩ := alike_iff.mp alike
  exact alike_iff.mpr
    ⟨messages, _, rfl, sameMessages, NameTable.mapValues_insert_eq sameEnums name same⟩

theorem Alike.ensureEnum (alike : first.Alike second) (name : String) :
    (first.ensureEnum name).Alike (second.ensureEnum name) :=
  alike.putEnum name (alike.enumOrEmpty name)

theorem Alike.pushEnumValue (alike : first.Alike second) (name : String) (value : EnumValue) :
    (first.putEnum name ((first.enumOrEmpty name).push value)).Alike
      (second.putEnum name ((second.enumOrEmpty name).push value)) :=
  alike.putEnum name (Enumeration.canonicalize_push_eq (alike.enumOrEmpty name) value)

theorem Alike.storeMessage (alike : first.Alike second) (message : Message) :
    Alike { first with messages := first.messages ++ [message] }
      { second with messages := second.messages ++ [message] } := by
  obtain ⟨messages, enums, rfl, sameMessages, sameEnums⟩ := alike_iff.mp alike
  exact alike_iff.mpr
    ⟨_, enums, rfl, mergeSort_append_eq byName_trans byName_total sameMessages [message], sameEnums⟩

theorem Alike.markSeen (alike : first.Alike second) (signature : String) :
    (first.markSeen signature).Alike (second.markSeen signature) := by
  obtain ⟨messages, enums, rfl, sameMessages, sameEnums⟩ := alike_iff.mp alike
  exact alike_iff.mpr ⟨messages, enums, rfl, sameMessages, sameEnums⟩

theorem Alike.addImports (alike : first.Alike second) (packages : List String) :
    (first.addImports packages).Alike (second.addImports packages) := by
  obtain ⟨messages, enums, rfl, sameMessages, sameEnums⟩ := alike_iff.mp alike
  rw [addImports_eq, addImports_eq]
  exact alike_iff.mpr ⟨messages, enums, rfl, sameMessages, sameEnums⟩

theorem Alike.putMaps (alike : first.Alike second) (maps : NameTable MapType) :
    Alike { first with maps } { second with maps } := by
  obtain ⟨messages, enums, rfl, sameMessages, sameEnums⟩ := alike_iff.mp alike
  exact alike_iff.mpr ⟨messages, enums, rfl, sameMessages, sameEnums⟩

theorem Alike.report (alike : first.Alike second) (declaration : String) (error : IngestError) :
    (first.report declaration error).Alike (second.report declaration error) := by
  obtain ⟨messages, enums, rfl, sameMessages, sameEnums⟩ := alike_iff.mp alike
  exact alike_iff.mpr ⟨messages, enums, rfl, sameMessages, sameEnums⟩

/-! ## Operations -/

/-- The same answer, and alike catalogs. -/
def Agree {α : Type} (first second : α × Catalog) : Prop :=
  first.1 = second.1 ∧ first.2.Alike second.2

theorem addMessage_standard_of_members {catalog : Catalog} {declaration : Declaration}
    (fresh : declaration.type.signature ∉ catalog.seen)
    (home : FieldType.isForeign catalog.path declaration.owner = false)
    (under : declaration.type.underlying = .struct declaration.structMembers) :
    catalog.addMessage .standard declaration =
      let built := builtMessage catalog.path declaration
      let next := (catalog.markSeen declaration.type.signature).addImports
        (built.fields.flatMap Field.references)
      (.message built.name, { next with messages := next.messages ++ [built] }) := by
  have asBuilt : ∀ packages, Naming.standard.applyMessage
      ((catalog.markSeen declaration.type.signature).addImports packages)
      (builtMessage catalog.path declaration) = builtMessage catalog.path declaration := by
    intro packages
    rw [addImports_eq]
    exact Naming.standard_applyMessage rfl _ _
  rw [addMessage_of_members .standard fresh home under]
  simp only [asBuilt]

theorem Alike.addMessage (alike : first.Alike second) (declaration : Declaration) :
    Agree (first.addMessage .standard declaration) (second.addMessage .standard declaration) := by
  have noted := alike.markSeen declaration.type.signature
  rcases addMessage_guards first declaration with
    seen | ⟨fresh, foreign | ⟨home, under | shape⟩⟩
  · rw [addMessage_of_seen .standard seen, addMessage_of_seen .standard (alike.seen_eq ▸ seen)]
    exact ⟨rfl, alike⟩
  · rw [addMessage_of_foreign .standard fresh foreign,
      addMessage_of_foreign .standard (alike.seen_eq ▸ fresh) (alike.path_eq ▸ foreign)]
    exact ⟨rfl, noted.addImports [declaration.owner]⟩
  · rw [addMessage_standard_of_members fresh home under,
      addMessage_standard_of_members (alike.seen_eq ▸ fresh) (alike.path_eq ▸ home) under,
      ← alike.path_eq]
    exact ⟨rfl, (noted.addImports _).storeMessage _⟩
  · rw [addMessage_of_no_members .standard fresh home shape,
      addMessage_of_no_members .standard (alike.seen_eq ▸ fresh) (alike.path_eq ▸ home) shape]
    exact ⟨rfl, noted⟩

theorem Alike.addEnumValue (alike : first.Alike second) (declaration : Declaration) :
    Agree (first.addEnumValue .standard declaration)
      (second.addEnumValue .standard declaration) := by
  have sameAdmits : first.admits declaration = second.admits declaration := by
    rw [admits_eq, admits_eq, alike.path_eq]
  cases admitted : first.admits declaration with
  | false =>
      rw [addEnumValue_of_not_admitted .standard admitted,
        addEnumValue_of_not_admitted .standard (sameAdmits ▸ admitted)]
      exact ⟨rfl, alike⟩
  | true =>
      cases const : declaration.declared with
      | type type =>
          rw [Catalog.addEnumValue, Catalog.addEnumValue, const]
          exact ⟨rfl, alike⟩
      | const type literal =>
          have ensured := alike.ensureEnum type.simpleName
          cases read : EnumValue.ofLiteral declaration.name literal with
          | error error =>
              rw [addEnumValue_of_invalid .standard const admitted read,
                addEnumValue_of_invalid .standard const (sameAdmits ▸ admitted) read]
              exact ⟨rfl, ensured⟩
          | ok value =>
              rw [addEnumValue_of_valid .standard const admitted read,
                addEnumValue_of_valid .standard const (sameAdmits ▸ admitted) read]
              simp only [Naming.standard_applyEnumValue _ read]
              exact ⟨rfl, ensured.putEnum _
                (Enumeration.canonicalize_push_eq (alike.enumOrEmpty _) value)⟩

theorem Alike.addMap (alike : first.Alike second) (declaration : Declaration) :
    Agree (first.addMap .standard declaration) (second.addMap .standard declaration) := by
  unfold Catalog.addMap
  rw [← alike.maps_eq]
  split
  · exact ⟨rfl, alike⟩
  · split
    · exact ⟨rfl, alike⟩
    · exact ⟨rfl, alike.putMaps _⟩

theorem Alike.build (alike : first.Alike second) (declaration : Declaration) :
    Agree (first.build .standard declaration) (second.build .standard declaration) := by
  unfold Catalog.build
  split
  · obtain ⟨sameOutcome, next⟩ := alike.addMessage declaration
    exact ⟨congrArg Except.ok sameOutcome, next⟩
  · exact alike.addEnumValue declaration
  · exact alike.addMap declaration
  · exact ⟨rfl, alike⟩

theorem Alike.ingest (alike : first.Alike second) (declaration : Declaration) :
    Agree (first.ingest .standard declaration) (second.ingest .standard declaration) := by
  obtain ⟨sameResult, built⟩ := alike.build declaration
  unfold Catalog.ingest
  split
  · generalize first.build .standard declaration = left at sameResult built ⊢
    generalize second.build .standard declaration = right at sameResult built ⊢
    rcases left with ⟨error | outcome, left⟩ <;> rcases right with ⟨_, right⟩ <;>
      cases sameResult
    · exact ⟨rfl, built.report declaration.name error⟩
    · exact ⟨rfl, built⟩
  · exact ⟨rfl, alike⟩

theorem Alike.ingestAll (alike : first.Alike second) (declarations : List Declaration) :
    Agree (first.ingestAll .standard declarations) (second.ingestAll .standard declarations) := by
  induction declarations generalizing first second with
  | nil => exact ⟨rfl, alike⟩
  | cons declaration rest ih =>
      obtain ⟨sameResult, next⟩ := alike.ingest declaration
      rw [Catalog.ingestAll, Catalog.ingestAll]
      generalize first.ingest .standard declaration = left at sameResult next ⊢
      generalize second.ingest .standard declaration = right at sameResult next ⊢
      rcases left with ⟨error | outcome, left⟩ <;> rcases right with ⟨_, right⟩ <;>
        cases sameResult
      · obtain ⟨sameCount, last⟩ := ih next
        exact ⟨congrArg (· + 1) sameCount, last⟩
      · exact ih next

theorem Alike.addConstant (alike : first.Alike second) (enumName sourceName literal : String) :
    Agree (first.addConstant enumName sourceName literal)
      (second.addConstant enumName sourceName literal) := by
  have ensured := alike.ensureEnum enumName
  unfold Catalog.addConstant Enumeration.addConstant
  cases EnumValue.ofLiteral sourceName literal with
  | error error => exact ⟨rfl, ensured⟩
  | ok value => exact ⟨rfl, ensured.pushEnumValue enumName value⟩

/-- An answer with the enumeration that it shows, if any, in canonical form. -/
def Answer.canonicalize : Answer → Answer
  | .outcome result => .outcome result
  | .failures count => .failures count
  | .enumeration shown => .enumeration shown.canonicalize
  | .value result => .value result

theorem Alike.perform (alike : first.Alike second) (operation : Operation) :
    ((first.perform .standard operation).1.map Answer.canonicalize =
        (second.perform .standard operation).1.map Answer.canonicalize) ∧
      (first.perform .standard operation).2.Alike (second.perform .standard operation).2 := by
  cases operation with
  | ingest declaration =>
      obtain ⟨sameResult, next⟩ := alike.ingest declaration
      exact ⟨by simp only [Catalog.perform, sameResult], next⟩
  | ingestAll declarations =>
      obtain ⟨sameCount, next⟩ := alike.ingestAll declarations
      exact ⟨by simp only [Catalog.perform, sameCount], next⟩
  | addMessage declaration =>
      obtain ⟨sameOutcome, next⟩ := alike.addMessage declaration
      exact ⟨by simp only [Catalog.perform, sameOutcome], next⟩
  | addEnumValue declaration =>
      obtain ⟨sameResult, next⟩ := alike.addEnumValue declaration
      exact ⟨by simp only [Catalog.perform, sameResult], next⟩
  | addMap declaration =>
      obtain ⟨sameResult, next⟩ := alike.addMap declaration
      exact ⟨by simp only [Catalog.perform, sameResult], next⟩
  | ensureEnum name =>
      refine ⟨?_, alike.ensureEnum name⟩
      exact congrArg (some ∘ Answer.enumeration) (alike.enumOrEmpty name)
  | addConstant enumName sourceName literal =>
      obtain ⟨sameResult, next⟩ := alike.addConstant enumName sourceName literal
      exact ⟨by simp only [Catalog.perform, sameResult], next⟩
  | canonicalize => exact ⟨rfl, congrArg Catalog.canonicalize alike⟩

/-! ## Runs -/

/-- Against a run from an alike catalog that leaves every `canonicalize` out. -/
theorem Alike.run_filter (alike : first.Alike second) (operations : List Operation) :
    let full := first.run .standard operations
    let plain := second.run .standard (operations.filter (!·.isCanonicalize))
    full.1.map Answer.canonicalize = plain.1.map Answer.canonicalize ∧ full.2.Alike plain.2 := by
  induction operations generalizing first second with
  | nil => exact ⟨rfl, alike⟩
  | cons operation rest ih =>
      cases isCanonicalize : operation.isCanonicalize with
      | true =>
          obtain rfl : operation = .canonicalize := by
            cases operation <;> first | rfl | contradiction
          have next : first.canonicalize.Alike second :=
            Eq.trans first.alike_canonicalize alike
          exact ih next
      | false =>
          obtain ⟨sameAnswer, next⟩ := alike.perform operation
          obtain ⟨sameAnswers, last⟩ := ih next
          rw [List.filter_cons_of_pos (by simp [isCanonicalize]), run_cons, run_cons]
          refine ⟨?_, last⟩
          simp only [List.map_append, ← Option.toList_map, sameAnswer, sameAnswers]

theorem ofManifest_append (name path : String) (early late : List Declaration) :
    ofManifest .standard { name, path, declarations := early ++ late } =
      ((ofManifest .standard { name, path, declarations := early }).ingestAll .standard
        late).2.canonicalize := by
  have resumed := ((ofDeclarations .standard name path early).alike_canonicalize.ingestAll late).2
  rw [Alike] at resumed
  simp only [ofManifest, ofDeclarations] at resumed ⊢
  rw [resumed]
  simp only [ingestAll_eq_foldl, List.foldl_append]

/-- Canonical order in between is without effect. Whatever a client asks of a catalog,
the answers are the same if every `canonicalize` on the way is left out, where an
enumeration that is shown counts up to its canonical form; and so is the catalog in
canonical order at the end. Once is enough, and a document written after late additions
is the one that the whole manifest gives at once. -/
theorem canonicalize_run (catalog : Catalog) (operations : List Operation) :
    let full := catalog.run .standard operations
    let plain := catalog.run .standard (operations.filter (!·.isCanonicalize))
    full.1.map Answer.canonicalize = plain.1.map Answer.canonicalize ∧
      full.2.canonicalize = plain.2.canonicalize ∧
      catalog.canonicalize.canonicalize = catalog.canonicalize ∧
      ∀ options name path early late,
        Document.render options
            ((ofManifest .standard { name, path, declarations := early }).ingestAll .standard
              late).2.canonicalize =
          Document.render options
            (ofManifest .standard { name, path, declarations := early ++ late }) := by
  obtain ⟨sameAnswers, alike⟩ := (Alike.refl catalog).run_filter operations
  refine ⟨sameAnswers, alike, catalog.alike_canonicalize, ?_⟩
  intro options name path early late
  rw [ofManifest_append]

end ProtoSchema.Catalog
