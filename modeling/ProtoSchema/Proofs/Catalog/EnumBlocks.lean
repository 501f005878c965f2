import ProtoSchema.Document
import ProtoSchema.Proofs.Catalog.Constants
import ProtoSchema.Proofs.Enumeration

/-!
# The enum blocks of a manifest

A document has one enum block for each type name under which constants were admitted.
Its member lines are the valid constants in canonical order, after an added zero if none
of them is zero. The added zero comes before all values; a zero of the constants' own
comes where the order puts it, and that is behind the negative ones.
-/

namespace ProtoSchema

namespace Enumeration

open EnumValue

/-- The first member line of an enum block is a zero, as proto3 demands of a default. -/
def StartsAtZero (enumeration : Enumeration) : Prop :=
  ∃ name, (Document.enumMembers enumeration).head? = some (name, 0)

variable {enumeration : Enumeration}

theorem mem_numbers_iff {number : Int} :
    number ∈ enumeration.numbers ↔
      ∃ value ∈ enumeration.canonicalize.values, value.value = number := by
  simp [numbers, canonicalize]

/-- The first value of the canonical form has the least number. -/
theorem head_le_of_mem_numbers {head : EnumValue} {rest : List EnumValue}
    (first : enumeration.canonicalize.values = head :: rest) {number : Int}
    (member : number ∈ enumeration.numbers) : head.value ≤ number := by
  have sorted : enumeration.canonicalize.values.Pairwise fun a b => a.precedes b = true :=
    List.pairwise_mergeSort precedes_trans precedes_total enumeration.values
  obtain ⟨value, stored, rfl⟩ := mem_numbers_iff.mp member
  rw [first] at sorted stored
  rcases precedes_iff.mp (head_le_of_mem precedes_total sorted stored) with below | ⟨same, _⟩
  · exact Int.le_of_lt below
  · exact Int.le_of_eq same

/-- Without a zero of its own an enumeration starts with the added one. -/
theorem startsAtZero_of_missing (missing : 0 ∉ enumeration.numbers) :
    enumeration.canonicalize.StartsAtZero := by
  refine ⟨Document.defaultValueName, ?_⟩
  rw [Document.enumMembers, if_pos (missingDefault_canonicalize_iff.mpr missing)]
  rfl

/-- With a zero of its own an enumeration starts with its least number. -/
theorem startsAtZero_iff_of_mem (zero : 0 ∈ enumeration.numbers) :
    enumeration.canonicalize.StartsAtZero ↔ ∀ number ∈ enumeration.numbers, 0 ≤ number := by
  have present : enumeration.canonicalize.missingDefault ≠ true :=
    fun missing => missingDefault_canonicalize_iff.mp missing zero
  rw [StartsAtZero, Document.enumMembers, if_neg present, List.nil_append]
  cases first : enumeration.canonicalize.values with
  | nil =>
      obtain ⟨own, stored, _⟩ := mem_numbers_iff.mp zero
      simp [first] at stored
  | cons head rest =>
      have headMember : head.value ∈ enumeration.numbers :=
        mem_numbers_iff.mpr ⟨head, by simp [first], rfl⟩
      simp only [List.map_cons, List.head?_cons, Option.some.injEq, Prod.mk.injEq, exists_eq_left']
      constructor
      · intro headZero number member
        exact headZero ▸ head_le_of_mem_numbers first member
      · intro nonnegative
        exact Int.le_antisymm (head_le_of_mem_numbers first zero) (nonnegative _ headMember)

theorem startsAtZero_canonicalize_iff :
    enumeration.canonicalize.StartsAtZero ↔
      (0 ∈ enumeration.numbers → ∀ number ∈ enumeration.numbers, 0 ≤ number) := by
  by_cases zero : 0 ∈ enumeration.numbers
  · rw [startsAtZero_iff_of_mem zero]
    exact ⟨fun nonnegative _ => nonnegative, fun nonnegative => nonnegative zero⟩
  · exact iff_of_true (startsAtZero_of_missing zero) fun own => absurd own zero

end Enumeration

namespace Catalog

open Declaration

/-- The enumeration that the constants of a type name make, in the order in which they
come. -/
def collected (home enumName : String) (declarations : List Declaration) : Enumeration :=
  { Enumeration.empty enumName with
    values := (constantsOf home enumName declarations).filterMap enumValue? }

/-- The enumerations of a manifest, one for each type name with an admitted constant. -/
theorem mem_enums_ofManifest {manifest : Manifest} {enumeration : Enumeration} :
    enumeration ∈ (ofManifest .standard manifest).enums.values ↔
      ∃ enumName, constantsOf manifest.path enumName manifest.declarations ≠ [] ∧
        enumeration =
          (collected manifest.path enumName manifest.declarations).canonicalize := by
  have found : ∀ enumName, (ofManifest .standard manifest).enums.find? enumName = _ :=
    fun enumName => (NameTable.find?_mapValues _ Enumeration.canonicalize enumName).trans
      (congrArg _ (find?_enums_ofDeclarations manifest.name manifest.path manifest.declarations
        enumName))
  rw [NameTable.mem_values_iff]
  refine exists_congr fun enumName => ?_
  rw [found]
  split
  · rename_i none
    simp [none]
  · rename_i some
    simp [some, collected, eq_comm]

/-- Every enum block starts at zero exactly if no type name has both a zero and a negative
number among its valid constants. -/
theorem enums_start_at_zero_iff (manifest : Manifest) :
    (∀ enumeration ∈ (ofManifest .standard manifest).enums.values, enumeration.StartsAtZero) ↔
      ∀ enumName,
        let numbers := (collected manifest.path enumName manifest.declarations).numbers
        0 ∈ numbers → ∀ number ∈ numbers, 0 ≤ number := by
  constructor
  · intro all enumName
    rw [← Enumeration.startsAtZero_canonicalize_iff]
    by_cases none : constantsOf manifest.path enumName manifest.declarations = []
    · refine Enumeration.startsAtZero_of_missing ?_
      simp [Enumeration.numbers, collected, none]
    · exact all _ (mem_enums_ofManifest.mpr ⟨enumName, none, rfl⟩)
  · intro condition enumeration member
    obtain ⟨enumName, _, rfl⟩ := mem_enums_ofManifest.mp member
    exact Enumeration.startsAtZero_canonicalize_iff.mpr (condition enumName)

/-- A negative constant beside a zero comes first in its block. -/
theorem enum_starts_below_zero :
    let status := TypeExpr.named "shop" "Status" (.basic "int")
    let manifest : Manifest :=
      { name := "shop"
        path := "shop"
        declarations :=
          [{ name := "StatusLost", package := "shop", exported := none,
              declared := .const status "-1" },
            { name := "StatusNone", package := "shop", exported := none,
              declared := .const status "0" }] }
    ["enum Status \x7b", "  STATUS_LOST = -1;", "  STATUS_NONE = 0;", "\x7d"] ∈
        Document.blocks (ofManifest .standard manifest) ∧
      ¬∀ enumeration ∈ (ofManifest .standard manifest).enums.values, enumeration.StartsAtZero := by
  intro status manifest
  have collectedEq : collected manifest.path "Status" manifest.declarations =
      { Enumeration.empty "Status" with
        values :=
          [{ name := "STATUS_LOST", value := -1, sourceName := "StatusLost" },
            { name := "STATUS_NONE", value := 0, sourceName := "StatusNone" }] } := by
    decide
  have stored := mem_enums_ofManifest.mpr
    ⟨"Status", (by decide : constantsOf manifest.path "Status" manifest.declarations ≠ []), rfl⟩
  rw [collectedEq] at stored
  constructor
  · refine List.mem_append_left _ (List.mem_map.mpr ⟨_, stored, ?_⟩)
    rw [Enumeration.canonicalize, List.mergeSort_of_pairwise (by decide)]
    decide
  · intro all
    have startsAtZero := Enumeration.startsAtZero_canonicalize_iff.mp (all _ stored)
    exact absurd startsAtZero (by decide)

end Catalog

end ProtoSchema
