import ProtoSchema.Proofs.Catalog.Constants
import ProtoSchema.Proofs.Catalog.Maps
import ProtoSchema.Proofs.Catalog.Structs
import ProtoSchema.Proofs.Document.Line
import ProtoSchema.Proofs.Enumeration

/-!
# Independence of the order of declarations

The provider lists declarations in no particular order. Each part of a run's content
is a filtered view of its declarations, so a rearrangement rearranges it, and
canonical order undoes that: entirely for messages, enumerations and maps, and up to
order for imports and diagnostics.
-/

namespace ProtoSchema

/-! ## Blocks of enumerations -/

namespace Document

/-- The block of an enumeration, as its schema determines it. -/
def schemaBlock (schema : Enumeration.Schema) : List String :=
  ["enum " ++ schema.name ++ " \x7b"]
    ++ (if schema.allowAlias then ["  option allow_alias = true;"] else [])
    ++ ((if schema.missingDefault then [(defaultValueName, 0)] else []) ++ schema.members).map
      enumMemberLine
    ++ ["\x7d"]

theorem enumBlock_eq (enumeration : Enumeration) :
    enumBlock enumeration = schemaBlock enumeration.schema :=
  rfl

theorem blocks_eq_of_schemas {first second : Catalog}
    (messages : first.messages = second.messages)
    (schemas : first.enums.entries.map (fun entry => (entry.1, entry.2.schema)) =
      second.enums.entries.map fun entry => (entry.1, entry.2.schema)) :
    blocks first = blocks second := by
  have enumBlocks : ∀ catalog : Catalog, catalog.enums.values.map enumBlock =
      (catalog.enums.entries.map fun entry => (entry.1, entry.2.schema)).map
        (schemaBlock ·.2) := by
    intro catalog
    rw [NameTable.values, List.map_map, List.map_map]
    exact List.map_congr_left fun entry _ => enumBlock_eq entry.2
  rw [blocks, blocks, enumBlocks, enumBlocks, schemas, messages]

end Document

/-! ## Rearranged lists -/

/-- Messages of different names are sorted in only one way. -/
theorem mergeSort_name_eq_of_perm {first second : List Message} (perm : first.Perm second)
    (distinct : (first.map Message.name).Nodup) :
    (first.mergeSort fun a b => a.name ≤ b.name) =
      second.mergeSort fun a b => a.name ≤ b.name := by
  have sorted : ∀ list : List Message,
      (list.mergeSort fun a b => a.name ≤ b.name).Pairwise fun a b => a.name ≤ b.name :=
    fun list =>
      (List.pairwise_mergeSort Catalog.byName_trans Catalog.byName_total list).imp
        of_decide_eq_true
  have sortedPerm : (first.mergeSort fun a b => a.name ≤ b.name).Perm
      (second.mergeSort fun a b => a.name ≤ b.name) :=
    (List.mergeSort_perm first _).trans (perm.trans (List.mergeSort_perm second _).symm)
  refine sortedPerm.eq_of_pairwise (fun a b inFirst inSecond le ge => ?_) (sorted first)
    (sorted second)
  have memberA : a ∈ first := List.mem_mergeSort.mp inFirst
  have memberB : b ∈ first := perm.mem_iff.mpr (List.mem_mergeSort.mp inSecond)
  exact List.inj_on_of_nodup_map distinct memberA memberB (String.le_antisymm le ge)

/-- Among declarations of different names a look-up does not depend on the order. -/
theorem find?_name_eq_of_perm {first second : List Declaration} (perm : first.Perm second)
    (distinct : first.Pairwise fun a b => a.name ≠ b.name) (asked : String) :
    first.find? (·.name == asked) = second.find? (·.name == asked) := by
  have single : ∀ {list : List Declaration}, list.Pairwise (fun a b => a.name ≠ b.name) →
      (list.filter (·.name == asked)).Pairwise fun _ _ => False := by
    intro list differ
    refine (differ.filter _).imp_of_mem fun memberA memberB names => ?_
    have nameA := beq_iff_eq.mp (List.mem_filter.mp memberA).2
    have nameB := beq_iff_eq.mp (List.mem_filter.mp memberB).2
    exact names (nameA.trans nameB.symm)
  have secondDistinct := (perm.pairwise_iff Ne.symm).mp distinct
  have filtered := (perm.filter (·.name == asked)).eq_of_pairwise
    (fun _ _ _ _ impossible => impossible.elim) (single distinct) (single secondDistinct)
  rw [← List.head?_filter, ← List.head?_filter, filtered]

namespace Catalog

open Declaration

/-! ## Rearranged runs -/

variable {name path : String} {first second : List Declaration}

/-- No two exported structs of a list share a signature or a name. -/
def StructsDiffer (declarations : List Declaration) : Prop :=
  (declarations.filter isExportedStruct).Pairwise fun a b =>
    a.type.signature ≠ b.type.signature ∧ a.name ≠ b.name

instance (declarations : List Declaration) : Decidable (StructsDiffer declarations) :=
  inferInstanceAs (Decidable (List.Pairwise _ (declarations.filter isExportedStruct)))

/-- No two exported maps of a list share a name. -/
def MapsDiffer (declarations : List Declaration) : Prop :=
  (declarations.filter isExportedMap).Pairwise fun a b => a.name ≠ b.name

instance (declarations : List Declaration) : Decidable (MapsDiffer declarations) :=
  inferInstanceAs (Decidable (List.Pairwise _ (declarations.filter isExportedMap)))

theorem StructsDiffer.of_perm (perm : first.Perm second) (differ : StructsDiffer first) :
    StructsDiffer second :=
  ((perm.filter _).pairwise_iff fun both => ⟨both.1.symm, both.2.symm⟩).mp differ

/-- Where all signatures differ, every exported struct counts. -/
theorem StructsDiffer.firstStructs_eq (differ : StructsDiffer first) :
    firstStructs first = first.filter isExportedStruct := by
  apply firstOf_eq_self
  rw [List.Nodup, List.pairwise_map]
  exact List.Pairwise.imp And.left differ

theorem firstStructs_perm (perm : first.Perm second) (differ : StructsDiffer first) :
    (firstStructs first).Perm (firstStructs second) := by
  rw [differ.firstStructs_eq, (differ.of_perm perm).firstStructs_eq]
  exact perm.filter _

theorem messages_eq_of_perm (perm : first.Perm second) (differ : StructsDiffer first) :
    (ofDeclarations .standard name path first).canonicalize.messages =
      (ofDeclarations .standard name path second).canonicalize.messages := by
  have messagesPerm : (ofDeclarations .standard name path first).messages.Perm
      (ofDeclarations .standard name path second).messages := by
    rw [messages_ofDeclarations, messages_ofDeclarations]
    exact ((firstStructs_perm perm differ).filter _).map _
  refine mergeSort_name_eq_of_perm messagesPerm ?_
  rw [messages_ofDeclarations, List.map_map, differ.firstStructs_eq]
  have names : ((first.filter isExportedStruct).map Declaration.name).Nodup := by
    rw [List.Nodup, List.pairwise_map]
    exact List.Pairwise.imp And.right differ
  exact names.sublist (List.filter_sublist.map Declaration.name)

theorem imports_perm_of_perm (perm : first.Perm second) (differ : StructsDiffer first) :
    (ofDeclarations .standard name path first).imports.Perm
      (ofDeclarations .standard name path second).imports := by
  rw [imports_ofDeclarations, imports_ofDeclarations,
    List.perm_ext_iff_of_nodup (nodup_eraseDups _) (nodup_eraseDups _)]
  intro package
  rw [List.mem_eraseDups, List.mem_eraseDups]
  exact ((firstStructs_perm perm differ).flatMap_right _).mem_iff

theorem schemas_eq_of_perm (name path : String) (perm : first.Perm second) :
    (ofDeclarations .standard name path first).canonicalize.enums.entries.map
        (fun entry => (entry.1, entry.2.schema)) =
      (ofDeclarations .standard name path second).canonicalize.enums.entries.map
        fun entry => (entry.1, entry.2.schema) := by
  apply NameTable.map_entries_eq_of_find?
  intro enumName
  have constants : (constantsOf path enumName first).Perm (constantsOf path enumName second) :=
    perm.filter _
  simp only [canonicalize, NameTable.find?_mapValues, find?_enums_ofDeclarations,
    ← List.length_eq_zero_iff, constants.length_eq]
  split
  · rfl
  · exact congrArg some (Enumeration.schema_canonicalize_eq rfl
      ((constants.filterMap enumValue?).map EnumValue.shown))

theorem diagnostics_perm_of_perm (perm : first.Perm second) :
    (ofDeclarations .standard name path first).diagnostics.Perm
      (ofDeclarations .standard name path second).diagnostics := by
  rw [diagnostics_ofDeclarations, diagnostics_ofDeclarations]
  exact (perm.filter _).filterMap _

theorem maps_eq_of_perm (perm : first.Perm second) (differ : MapsDiffer first) :
    (ofDeclarations .standard name path first).maps =
      (ofDeclarations .standard name path second).maps := by
  apply NameTable.ext_find?
  intro asked
  rw [find?_maps_ofDeclarations, find?_maps_ofDeclarations,
    find?_name_eq_of_perm (perm.filter _) differ]

/-- Rearranged declarations give the same schema: messages, enumerations and maps are
equal, imports and diagnostics are rearranged, and so the documents differ at most in
the order of their import lines. -/
theorem ofManifest_of_perm (name path : String) (perm : first.Perm second)
    (structs : StructsDiffer first) (maps : MapsDiffer first) :
    let left := ofManifest .standard { name, path, declarations := first }
    let right := ofManifest .standard { name, path, declarations := second }
    left.messages = right.messages ∧
      left.enums.entries.map (fun entry => (entry.1, entry.2.schema)) =
        right.enums.entries.map (fun entry => (entry.1, entry.2.schema)) ∧
      left.maps = right.maps ∧
      left.imports.Perm right.imports ∧
      left.diagnostics.Perm right.diagnostics ∧
      ∀ options, ∃ above below : List String,
        Document.render options left =
            String.join ((above ++ left.imports.map Document.importLine ++ below).map (· ++ "\n")) ∧
          Document.render options right =
            String.join ((above ++ right.imports.map Document.importLine ++ below).map
              (· ++ "\n")) := by
  intro left right
  have messages : left.messages = right.messages := messages_eq_of_perm perm structs
  have schemas := schemas_eq_of_perm name path perm
  refine ⟨messages, schemas, maps_eq_of_perm perm maps, imports_perm_of_perm perm structs,
    diagnostics_perm_of_perm perm, fun options => ?_⟩
  refine ⟨Document.opening options name path, (Document.blocks left).flatMap ("" :: ·), ?_, ?_⟩
  · have names : left.name = name := ofDeclarations_name name path .standard first
    have paths : left.path = path := ofDeclarations_path name path .standard first
    rw [Document.render, Document.lines_eq, names, paths]
  · have names : right.name = name := ofDeclarations_name name path .standard second
    have paths : right.path = path := ofDeclarations_path name path .standard second
    rw [Document.render, Document.lines_eq, names, paths,
      Document.blocks_eq_of_schemas messages schemas]

/-- Two constants of one displayed name and number, a bad literal, a foreign struct and a
struct of the package, in both orders. -/
theorem ofManifest_of_perm_reversed :
    let status := TypeExpr.named "shop" "Status" (.basic "int")
    let declarations : List Declaration :=
      [{ name := "StatusOpen", package := "shop", exported := none, declared := .const status "1" },
        { name := "Status_Open", package := "shop", exported := none,
          declared := .const status "0x1" },
        { name := "StatusBroken", package := "shop", exported := none,
          declared := .const status "1e3" },
        inPlace "billing" "Invoice" [⟨"Total", none, "", .basic "int"⟩],
        inPlace "shop" "Order" []]
    let forward := ofManifest .standard { name := "shop", path := "shop", declarations }
    let backward :=
      ofManifest .standard { name := "shop", path := "shop", declarations := declarations.reverse }
    StructsDiffer declarations ∧ MapsDiffer declarations ∧
      forward.messages = backward.messages ∧
      forward.enums.entries.map (fun entry => (entry.1, entry.2.schema)) =
        backward.enums.entries.map (fun entry => (entry.1, entry.2.schema)) ∧
      forward.diagnostics.Perm backward.diagnostics := by
  intro status declarations forward backward
  have structs : StructsDiffer declarations := by decide
  have maps : MapsDiffer declarations := by decide
  obtain ⟨messages, schemas, _, _, diagnostics, _⟩ :=
    ofManifest_of_perm "shop" "shop" (List.reverse_perm declarations).symm structs maps
  exact ⟨structs, maps, messages, schemas, diagnostics⟩

end Catalog

end ProtoSchema
