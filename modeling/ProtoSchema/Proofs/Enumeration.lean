import Mathlib.Data.List.Perm.Basic
import ProtoSchema.Enumeration
import ProtoSchema.Proofs.StableSort

/-!
# Canonical enumerations

The canonical order of the values is total, and it tells values apart by number and
name alone. What the canonical form shows is therefore a function of the multiset of
numbered names: neither the order in which the values came nor their sources matter.
The sources of equal numbered names stay in the order in which they came, also where
values come after an earlier canonical form.
-/

namespace ProtoSchema

namespace EnumValue

/-- What a document shows of a value: its name and its number. -/
def shown (value : EnumValue) : String × Int :=
  (value.name, value.value)

/-- The canonical order on what is shown. -/
def ShownBefore (a b : String × Int) : Prop :=
  a.2 < b.2 ∨ a.2 = b.2 ∧ a.1 ≤ b.1

theorem precedes_iff {a b : EnumValue} :
    a.precedes b = true ↔ ShownBefore a.shown b.shown := by
  simp [precedes, ShownBefore, shown]

theorem precedes_trans (a b c : EnumValue) (first : a.precedes b = true)
    (second : b.precedes c = true) : a.precedes c = true := by
  rw [precedes_iff] at first second ⊢
  rcases first with below | ⟨same, nameLe⟩ <;> rcases second with below' | ⟨same', nameLe'⟩
  · exact .inl (Int.lt_trans below below')
  · exact .inl (same' ▸ below)
  · exact .inl (same ▸ below')
  · exact .inr ⟨same.trans same', String.le_trans nameLe nameLe'⟩

theorem precedes_total (a b : EnumValue) : (a.precedes b || b.precedes a) = true := by
  rw [Bool.or_eq_true, precedes_iff, precedes_iff]
  rcases Int.lt_trichotomy a.value b.value with below | same | above
  · exact .inl (.inl below)
  · exact (String.le_total a.name b.name).imp (.inr ⟨same, ·⟩) (.inr ⟨same.symm, ·⟩)
  · exact .inr (.inl above)

theorem shownBefore_antisymm {a b : String × Int} (first : ShownBefore a b)
    (second : ShownBefore b a) : a = b := by
  rcases first with below | ⟨same, nameLe⟩
  · rcases second with above | ⟨same, _⟩ <;> omega
  · rcases second with above | ⟨_, nameGe⟩
    · omega
    · exact Prod.ext (String.le_antisymm nameLe nameGe) same

end EnumValue

namespace Enumeration

open EnumValue

/-- An enumeration as a schema has it: everything but the sources of its values. -/
structure Schema where
  name : String
  members : List (String × Int)
  allowAlias : Bool
  missingDefault : Bool
  hasGaps : Bool
deriving DecidableEq

/-- The schema of an enumeration. -/
def schema (enumeration : Enumeration) : Schema where
  name := enumeration.name
  members := enumeration.values.map shown
  allowAlias := enumeration.allowAlias
  missingDefault := enumeration.missingDefault
  hasGaps := enumeration.hasGaps

theorem pairwise_map_shown_mergeSort (values : List EnumValue) :
    ((values.mergeSort precedes).map shown).Pairwise ShownBefore := by
  rw [List.pairwise_map]
  exact (List.pairwise_mergeSort precedes_trans precedes_total values).imp precedes_iff.mp

/-- Sorting forgets the order in which the values came. -/
theorem map_shown_mergeSort_eq {first second : List EnumValue}
    (same : (first.map shown).Perm (second.map shown)) :
    (first.mergeSort precedes).map shown = (second.mergeSort precedes).map shown := by
  have sorted : ∀ values : List EnumValue,
      ((values.mergeSort precedes).map shown).Perm (values.map shown) :=
    fun values => (List.mergeSort_perm values precedes).map shown
  have perm := (sorted first).trans (same.trans (sorted second).symm)
  exact perm.eq_of_pairwise (fun _ _ _ _ => shownBefore_antisymm)
    (pairwise_map_shown_mergeSort first) (pairwise_map_shown_mergeSort second)

theorem hasNeighbourAlias_congr {first second : List EnumValue}
    (same : first.map shown = second.map shown) :
    hasNeighbourAlias first = hasNeighbourAlias second := by
  induction first generalizing second with
  | nil =>
      rw [List.map_nil, eq_comm, List.map_eq_nil_iff] at same
      rw [same]
  | cons a rest ih =>
      cases second with
      | nil => simp at same
      | cons a' rest' =>
          rw [List.map_cons, List.map_cons, List.cons.injEq] at same
          obtain ⟨headEq, restEq⟩ := same
          have tailEq := ih restEq
          cases rest with
          | nil =>
              rw [List.map_nil, eq_comm, List.map_eq_nil_iff] at restEq
              rw [restEq]
              rfl
          | cons b later =>
              cases rest' with
              | nil => simp at restEq
              | cons b' later' =>
                  have nextEq := (List.cons.inj restEq).1
                  simp only [shown, Prod.mk.injEq] at headEq nextEq
                  rw [hasNeighbourAlias, hasNeighbourAlias, tailEq, headEq.2, nextEq.2]

/-- Enumerations of one name with the same numbered names have the same canonical
schema. -/
theorem schema_canonicalize_eq {first second : Enumeration} (sameName : first.name = second.name)
    (same : (first.values.map shown).Perm (second.values.map shown)) :
    first.canonicalize.schema = second.canonicalize.schema := by
  have sorted := map_shown_mergeSort_eq same
  have noZero : ∀ values : List EnumValue,
      values.all (·.value != 0) = (values.map shown).all (·.2 != 0) := by
    intro values
    rw [List.all_map]
    rfl
  simp only [schema, canonicalize, Schema.mk.injEq, sameName, sorted, true_and, and_true]
  exact ⟨hasNeighbourAlias_congr sorted, by rw [noZero, noZero, sorted]⟩

/-! ## Aliases -/

/-- Among sorted values it is enough to compare neighbours. -/
theorem hasNeighbourAlias_iff {values : List EnumValue}
    (sorted : values.Pairwise fun a b => a.value ≤ b.value) :
    hasNeighbourAlias values = true ↔ ¬(values.map EnumValue.value).Nodup := by
  induction values with
  | nil => simp [hasNeighbourAlias]
  | cons a rest ih =>
      cases rest with
      | nil => simp [hasNeighbourAlias]
      | cons b later =>
          have aBelow : ∀ value ∈ b :: later, a.value ≤ value.value :=
            fun _ member => List.rel_of_pairwise_cons sorted member
          have bBelow : ∀ value ∈ later, b.value ≤ value.value :=
            fun _ member => List.rel_of_pairwise_cons sorted.of_cons member
          -- A number that comes again comes again at once, since nothing lies between.
          have again : a.value ∈ (b :: later).map EnumValue.value ↔ a.value = b.value := by
            constructor
            · intro member
              obtain ⟨value, inRest, same⟩ := List.mem_map.mp member
              rcases List.mem_cons.mp inRest with rfl | inLater
              · exact same.symm
              · exact Int.le_antisymm (aBelow b List.mem_cons_self)
                  (same ▸ bBelow value inLater)
            · intro same
              exact same ▸ List.mem_map_of_mem List.mem_cons_self
          rw [hasNeighbourAlias, Bool.or_eq_true, beq_iff_eq, ih sorted.of_cons]
          change _ ↔ ¬(a.value :: (b :: later).map EnumValue.value).Nodup
          rw [List.nodup_cons, again, not_and_or, not_not]

/-! ## Flags -/

section Flags

variable {enumeration : Enumeration}

/-- The numbers of an enumeration's values. -/
def numbers (enumeration : Enumeration) : List Int :=
  enumeration.values.map EnumValue.value

theorem missingDefault_canonicalize_iff :
    enumeration.canonicalize.missingDefault = true ↔ 0 ∉ enumeration.numbers := by
  simp [numbers, canonicalize]

theorem pairwise_shownBefore_canonicalize (enumeration : Enumeration) :
    (enumeration.canonicalize.values.map shown).Pairwise ShownBefore :=
  pairwise_map_shown_mergeSort enumeration.values

theorem numbers_canonicalize_perm (enumeration : Enumeration) :
    enumeration.canonicalize.numbers.Perm enumeration.numbers :=
  (List.mergeSort_perm enumeration.values precedes).map EnumValue.value

theorem sorted_numbers_canonicalize (enumeration : Enumeration) :
    enumeration.canonicalize.numbers.Pairwise (· ≤ ·) := by
  have byShown := List.pairwise_map.mp (pairwise_shownBefore_canonicalize enumeration)
  refine List.pairwise_map.mpr (byShown.imp ?_)
  rintro a b (below | ⟨same, _⟩)
  · exact Int.le_of_lt below
  · exact Int.le_of_eq same

/-- The alias flag of the canonical form, found by comparing neighbours, is up exactly if
any two values share a number. -/
theorem allowAlias_canonicalize_iff :
    enumeration.canonicalize.allowAlias = true ↔ ¬enumeration.numbers.Nodup := by
  rw [← (numbers_canonicalize_perm enumeration).nodup_iff]
  exact hasNeighbourAlias_iff (List.pairwise_map.mp (sorted_numbers_canonicalize enumeration))

end Flags

/-! ## Late values -/

/-- The canonical form depends on the name and the sorted values; the flags are found
anew. -/
theorem canonicalize_eq_iff {first second : Enumeration} :
    first.canonicalize = second.canonicalize ↔
      first.name = second.name ∧
        first.values.mergeSort precedes = second.values.mergeSort precedes := by
  constructor
  · intro same
    have sameName := congrArg name same
    have sorted := congrArg values same
    exact ⟨sameName, sorted⟩
  · rintro ⟨sameName, sorted⟩
    simp only [canonicalize, sameName, sorted]

@[simp]
theorem canonicalize_canonicalize (enumeration : Enumeration) :
    enumeration.canonicalize.canonicalize = enumeration.canonicalize :=
  canonicalize_eq_iff.mpr ⟨rfl, mergeSort_mergeSort precedes_trans precedes_total _⟩

/-- Enumerations of one canonical form keep one after a further value. -/
theorem canonicalize_push_eq {first second : Enumeration}
    (same : first.canonicalize = second.canonicalize) (value : EnumValue) :
    (first.push value).canonicalize = (second.push value).canonicalize := by
  rw [canonicalize_eq_iff] at same ⊢
  exact ⟨same.1, mergeSort_append_eq precedes_trans precedes_total same.2 [value]⟩

end Enumeration

end ProtoSchema
