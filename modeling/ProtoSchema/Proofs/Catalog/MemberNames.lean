import ProtoSchema.Proofs.Catalog.DisplayedEnums
import ProtoSchema.Proofs.Catalog.Failures
import ProtoSchema.Proofs.Identifier

/-!
# The names in an enum block

The values of an enumeration are listed by constant and not by name: a constant is never
left out because another one has its name. Two constants are called alike if their
identifiers have the same words in capital letters, however these are separated and cased,
and a constant is called like the added zero if `UNKOWN` is its only word.
-/

namespace ProtoSchema

namespace Enumeration

theorem map_fst_enumMembers (enumeration : Enumeration) :
    (Document.enumMembers enumeration.canonicalize).map Prod.fst =
      (if 0 ∈ enumeration.numbers then [] else ["UNKOWN"]) ++
        enumeration.canonicalize.values.map EnumValue.name := by
  rw [enumMembers_canonicalize, List.map_append, List.map_map]
  split <;> rfl

/-- The names in a block differ if those of the values do and the added zero brings in
no second one. -/
theorem nodup_names_iff {enumeration : Enumeration} :
    ((Document.enumMembers enumeration.canonicalize).map Prod.fst).Nodup ↔
      (enumeration.values.map EnumValue.name).Nodup ∧
        (0 ∉ enumeration.numbers → "UNKOWN" ∉ enumeration.values.map EnumValue.name) := by
  have perm : (enumeration.canonicalize.values.map EnumValue.name).Perm
      (enumeration.values.map EnumValue.name) :=
    (List.mergeSort_perm enumeration.values EnumValue.precedes).map EnumValue.name
  rw [map_fst_enumMembers, ← perm.nodup_iff, ← perm.mem_iff]
  split
  · rename_i own
    simp [own]
  · rename_i missing
    rw [List.singleton_append, List.nodup_cons, and_comm]
    simp [missing]

end Enumeration

namespace Catalog

open Declaration Identifier

variable {home enumName : String} {declarations : List Declaration}

theorem name_of_mem_collected {value : EnumValue}
    (member : value ∈ (collected home enumName declarations).values) :
    value.name = screamingSnakeCase value.sourceName := by
  obtain ⟨declaration, _, read⟩ := List.mem_filterMap.mp member
  rw [enumValue?_eq, Option.map_eq_some_iff] at read
  obtain ⟨_, _, rfl⟩ := read
  rfl

theorem screamingSnakeCase_eq_unkown {name : String} :
    screamingSnakeCase name = "UNKOWN" ↔ capitalWords name = ["UNKOWN".toList] := by
  have joined : screamingSnakeCase "UNKOWN" = "UNKOWN" := by decide
  have single : capitalWords "UNKOWN" = ["UNKOWN".toList] := by decide
  rw [← single, ← screamingSnakeCase_eq_iff, joined]

/-- The names in an enum block are distinct exactly if no two valid constants of the type
name have the same words in capital letters, and none of them has the word of the added
zero where that is added. -/
theorem member_names_nodup_iff (manifest : Manifest) (enumeration : Enumeration)
    (stored : enumeration ∈ (ofManifest .standard manifest).enums.values) :
    let constants := collected manifest.path enumeration.name manifest.declarations
    ((Document.enumMembers enumeration).map Prod.fst).Nodup ↔
      (constants.values.Pairwise fun a b =>
          capitalWords a.sourceName ≠ capitalWords b.sourceName) ∧
        (0 ∉ constants.numbers →
          ∀ value ∈ constants.values, capitalWords value.sourceName ≠ ["UNKOWN".toList]) := by
  obtain ⟨enumName, _, rfl⟩ := mem_enums_ofManifest.mp stored
  intro constants
  rw [Enumeration.nodup_names_iff, List.Nodup, List.pairwise_map]
  refine and_congr ?_ (imp_congr_right fun _ => ?_)
  · refine List.Pairwise.iff_of_mem fun {a b} memberA memberB => ?_
    rw [name_of_mem_collected memberA, name_of_mem_collected memberB, ne_eq,
      screamingSnakeCase_eq_iff]
  · rw [List.mem_map, not_exists]
    refine forall_congr' fun value => ?_
    rw [not_and]
    refine imp_congr_right fun member => ?_
    rw [name_of_mem_collected member, screamingSnakeCase_eq_unkown]

/-- Constants of different words in capital letters, one of them zero and one called like
the zero that is added elsewhere. -/
theorem member_names_nodup_iff_distinct :
    let level := TypeExpr.named "shop" "Level" (.basic "int")
    let constant := fun (name literal : String) =>
      ({ name, package := "shop", exported := none, declared := .const level literal } :
        Declaration)
    let manifest : Manifest :=
      { name := "shop"
        path := "shop"
        declarations :=
          [constant "Unkown" "2", constant "LevelNone" "0", constant "Level_Low" "2"] }
    ∃ enumeration ∈ (ofManifest .standard manifest).enums.values,
      ((Document.enumMembers enumeration).map Prod.fst).Nodup := by
  intro level constant manifest
  have stored := mem_enums_ofManifest.mpr
    ⟨"Level", (by decide : constantsOf manifest.path "Level" manifest.declarations ≠ []), rfl⟩
  exact ⟨_, stored, (member_names_nodup_iff manifest _ stored).mpr (by decide)⟩

/-- Two spellings of one name make two members of that name. -/
theorem member_name_repeated :
    let status := TypeExpr.named "shop" "Status" (.basic "int")
    let manifest : Manifest :=
      { name := "shop"
        path := "shop"
        declarations :=
          [{ name := "StatusOpen", package := "shop", exported := none,
              declared := .const status "1" },
            { name := "STATUS_OPEN", package := "shop", exported := none,
              declared := .const status "2" }] }
    (manifest.declarations.map Declaration.name).Nodup ∧
      ["enum Status \x7b", "  UNKOWN = 0;", "  STATUS_OPEN = 1;", "  STATUS_OPEN = 2;", "\x7d"] ∈
        Document.blocks (ofManifest .standard manifest) ∧
      ¬∀ enumeration ∈ (ofManifest .standard manifest).enums.values,
        ((Document.enumMembers enumeration).map Prod.fst).Nodup := by
  intro status manifest
  have collectedEq : collected manifest.path "Status" manifest.declarations =
      { Enumeration.empty "Status" with
        values :=
          [{ name := "STATUS_OPEN", value := 1, sourceName := "StatusOpen" },
            { name := "STATUS_OPEN", value := 2, sourceName := "STATUS_OPEN" }] } := by
    decide
  have stored := mem_enums_ofManifest.mpr
    ⟨"Status", (by decide : constantsOf manifest.path "Status" manifest.declarations ≠ []), rfl⟩
  rw [collectedEq] at stored
  refine ⟨by decide, ?_, ?_⟩
  · refine List.mem_append_left _ (List.mem_map.mpr ⟨_, stored, ?_⟩)
    rw [Enumeration.canonicalize, List.mergeSort_of_pairwise (by decide)]
    decide
  · intro all
    have names := Enumeration.nodup_names_iff.mp (all _ stored)
    exact absurd names.1 (by decide)

end Catalog

end ProtoSchema
