import Mathlib.Data.Finset.Max
import ProtoSchema.Lint.Rule
import ProtoSchema.Proofs.Catalog.Consistency
import ProtoSchema.Proofs.Enumeration.CanonicalForm

/-!
# Gaps between the values of an enumeration

An enumeration has a gap if an integer between its least and its greatest number is missing.
Every gap starts at a number that is not the greatest and has no successor among the numbers.
In canonical order the number after the first such start is its neighbour, so comparing
neighbours finds the first gap. Aliases lie no distance apart, and a difference that is cut
off at the end of the 64-bit range is still more than one.
-/

namespace ProtoSchema

namespace Enumeration

/-! ## Gaps in numbers -/

/-- An integer strictly between the least and the greatest number is not one of the
numbers. -/
def HasGap (numbers : List Int) : Prop :=
  ∃ least greatest, IsLeast {n | n ∈ numbers} least ∧ IsGreatest {n | n ∈ numbers} greatest ∧
    ∃ missing, least < missing ∧ missing < greatest ∧ missing ∉ numbers

/-- A number that is not the greatest and whose successor is not a number. -/
def IsGapStart (numbers : List Int) (number : Int) : Prop :=
  number ∈ numbers ∧ (∃ greater ∈ numbers, number < greater) ∧ number + 1 ∉ numbers

/-- The least number at which a gap starts and the least number above it. -/
structure IsFirstGap (numbers : List Int) (after next : Int) : Prop where
  after_isLeast : IsLeast {n | IsGapStart numbers n} after
  next_isLeast : IsLeast {n | n ∈ numbers ∧ after < n} next

variable {numbers : List Int}

/-- The greatest number below a missing integer starts a gap. -/
theorem exists_isGapStart_of_missing {missing least greatest : Int}
    (isMissing : missing ∉ numbers) (leastMember : least ∈ numbers)
    (leastBelow : least < missing) (greatestMember : greatest ∈ numbers)
    (greatestAbove : missing < greatest) : ∃ start, IsGapStart numbers start := by
  let below := numbers.toFinset.filter (· < missing)
  have mem_below : ∀ n, n ∈ below ↔ n ∈ numbers ∧ n < missing := by simp [below]
  have nonempty : below.Nonempty := ⟨least, (mem_below least).mpr ⟨leastMember, leastBelow⟩⟩
  obtain ⟨start, isGreatest⟩ : ∃ start, IsGreatest (below : Set Int) start :=
    ⟨_, below.isGreatest_max' nonempty⟩
  obtain ⟨member, startBelow⟩ := (mem_below start).mp isGreatest.1
  refine ⟨start, member, ⟨greatest, greatestMember, by omega⟩, fun successor => ?_⟩
  have notMissing : start + 1 ≠ missing := fun same => isMissing (same ▸ successor)
  have notGreater := isGreatest.2 ((mem_below (start + 1)).mpr ⟨successor, by omega⟩)
  omega

/-- There is a gap exactly if one starts somewhere. -/
theorem hasGap_iff_exists_isGapStart : HasGap numbers ↔ ∃ start, IsGapStart numbers start := by
  constructor
  · rintro ⟨least, greatest, isLeast, isGreatest, missing, above, below, isMissing⟩
    exact exists_isGapStart_of_missing isMissing isLeast.1 above isGreatest.1 below
  · rintro ⟨start, member, ⟨greater, greaterMember, startBelow⟩, noSuccessor⟩
    have nonempty : numbers.toFinset.Nonempty := ⟨start, List.mem_toFinset.mpr member⟩
    have isLeast := numbers.toFinset.isLeast_min' nonempty
    have isGreatest := numbers.toFinset.isGreatest_max' nonempty
    rw [List.coe_toFinset] at isLeast isGreatest
    have startAbove := isLeast.2 member
    have greaterBelow := isGreatest.2 greaterMember
    have notGreater : start + 1 ≠ greater := fun same => noSuccessor (same ▸ greaterMember)
    exact ⟨_, _, isLeast, isGreatest, start + 1, by omega, by omega, noSuccessor⟩

/-- Only the numbers matter, not their order. -/
theorem hasGap_of_perm {first second : List Int} (perm : first.Perm second) :
    HasGap first ↔ HasGap second := by
  simp only [HasGap, perm.mem_iff]

instance (numbers : List Int) : Decidable (HasGap numbers) :=
  decidable_of_iff
    (∃ start ∈ numbers, (∃ greater ∈ numbers, start < greater) ∧ start + 1 ∉ numbers)
    hasGap_iff_exists_isGapStart.symm

/-! ## Neighbours -/

section Sorted

variable {a b : Int} {rest : List Int} (sorted : (a :: b :: rest).Pairwise (· ≤ ·))
include sorted

/-- The first two numbers, if they are more than one apart, are the first gap. -/
theorem isFirstGap_of_apart (apart : a + 1 < b) : IsFirstGap (a :: b :: rest) a b := by
  have bBelow : ∀ n ∈ rest, b ≤ n :=
    fun _ member => List.rel_of_pairwise_cons sorted.of_cons member
  have isFirstOrAbove : ∀ n ∈ a :: b :: rest, n = a ∨ b ≤ n := by
    simpa [or_imp, forall_and] using fun n member => .inr (bBelow n member)
  have starts : IsGapStart (a :: b :: rest) a := by
    refine ⟨by simp, ⟨b, by simp, by omega⟩, fun successor => ?_⟩
    have position := isFirstOrAbove (a + 1) successor
    omega
  constructor
  · refine ⟨starts, fun n start => ?_⟩
    have position := isFirstOrAbove n start.1
    omega
  · refine ⟨⟨by simp, by omega⟩, ?_⟩
    rintro n ⟨member, above⟩
    exact (isFirstOrAbove n member).resolve_left (by omega)

/-- Without a gap between the first two numbers, the first starts one only if the second is
its alias and starts it as well. -/
theorem isGapStart_cons_iff (near : b ≤ a + 1) {number : Int} :
    IsGapStart (a :: b :: rest) number ↔ IsGapStart (b :: rest) number := by
  have aBelow : ∀ n ∈ b :: rest, a ≤ n := fun _ member => List.rel_of_pairwise_cons sorted member
  constructor
  · rintro ⟨member, ⟨greater, greaterMember, below⟩, noSuccessor⟩
    rw [List.mem_cons, not_or] at noSuccessor
    have inRest : number ∈ b :: rest := by
      rcases List.mem_cons.mp member with rfl | inRest
      · have bAbove := aBelow b List.mem_cons_self
        have different : number + 1 ≠ b := fun same => noSuccessor.2 (same ▸ List.mem_cons_self)
        have same : number = b := by omega
        exact same ▸ List.mem_cons_self
      · exact inRest
    have numberAbove := aBelow number inRest
    have greaterInRest := (List.mem_cons.mp greaterMember).resolve_left (by omega)
    exact ⟨inRest, ⟨greater, greaterInRest, below⟩, noSuccessor.2⟩
  · rintro ⟨member, ⟨greater, greaterMember, below⟩, noSuccessor⟩
    have numberAbove := aBelow number member
    refine ⟨List.mem_cons_of_mem _ member, ⟨greater, List.mem_cons_of_mem _ greaterMember, below⟩,
      fun successor => ?_⟩
    rcases List.mem_cons.mp successor with isFirst | inRest
    · omega
    · exact noSuccessor inRest

theorem IsFirstGap.cons (near : b ≤ a + 1) {after next : Int}
    (first : IsFirstGap (b :: rest) after next) : IsFirstGap (a :: b :: rest) after next := by
  have afterAbove : a ≤ after := List.rel_of_pairwise_cons sorted first.after_isLeast.1.1
  constructor
  · simpa only [isGapStart_cons_iff sorted near] using first.after_isLeast
  · refine ⟨⟨List.mem_cons_of_mem _ first.next_isLeast.1.1, first.next_isLeast.1.2⟩, ?_⟩
    rintro n ⟨member, above⟩
    have inRest := (List.mem_cons.mp member).resolve_left (by omega)
    exact first.next_isLeast.2 ⟨inRest, above⟩

end Sorted

open Lint.Concern (firstGap?)

/-- What comparing neighbours finds among sorted values is the first gap. -/
theorem isFirstGap_of_firstGap? {values : List EnumValue} {after next : Int}
    (sorted : (values.map EnumValue.value).Pairwise (· ≤ ·))
    (found : firstGap? values = some (after, next)) :
    IsFirstGap (values.map EnumValue.value) after next := by
  fun_induction firstGap? values with
  | case1 a b rest apart =>
      obtain ⟨rfl, rfl⟩ := Prod.mk.inj (Option.some.inj found)
      exact isFirstGap_of_apart sorted apart
  | case2 a b rest near ih =>
      exact (ih sorted.of_cons found).cons sorted (Int.not_lt.mp near)
  | case3 => simp at found

/-- Where comparing neighbours finds nothing, no gap starts. -/
theorem not_isGapStart_of_firstGap? {values : List EnumValue}
    (sorted : (values.map EnumValue.value).Pairwise (· ≤ ·)) (found : firstGap? values = none)
    (number : Int) : ¬IsGapStart (values.map EnumValue.value) number := by
  fun_induction firstGap? values with
  | case1 a b rest apart => simp at found
  | case2 a b rest near ih =>
      rw [List.map_cons, List.map_cons, isGapStart_cons_iff sorted (Int.not_lt.mp near)]
      exact ih sorted.of_cons found
  | case3 values short =>
      rcases values with _ | ⟨a, _ | ⟨b, rest⟩⟩
      · simp [IsGapStart]
      · simp +contextual [IsGapStart]
      · exact absurd rfl (short a b rest)

/-! ## Differences beyond the range -/

/-- The least number of a value. -/
def smallest : Int :=
  -IntLiteral.Sign.minus.limit

/-- A difference of numbers, cut off at both ends of their range. -/
def cappedDifference (minuend subtrahend : Int) : Int :=
  max smallest (min (minuend - subtrahend) largest)

/-- A difference that is cut off is on the same side of one as before. -/
theorem one_lt_cappedDifference_iff {a b : Int} : 1 < cappedDifference b a ↔ a + 1 < b := by
  have range : smallest ≤ 1 ∧ 1 < largest := by decide
  simp only [cappedDifference]
  omega

/-- Looking for the first gap is looking for two neighbours whose difference is more than
one after it has been cut off. -/
theorem firstGap?_eq_find? (values : List EnumValue) :
    firstGap? values =
      ((values.zip values.tail).map fun (a, b) => (a.value, b.value)).find?
        fun (a, b) => 1 < cappedDifference b a := by
  fun_induction firstGap? values with
  | case1 a b rest apart =>
      simp [one_lt_cappedDifference_iff, apart]
  | case2 a b rest near ih =>
      simpa [one_lt_cappedDifference_iff, near] using ih
  | case3 values short =>
      rcases values with _ | ⟨a, _ | ⟨b, rest⟩⟩
      · rfl
      · rfl
      · exact absurd rfl (short a b rest)

end Enumeration

/-! ## Reports -/

namespace Lint

open Enumeration

/-- What the rule on gaps reports of an enumeration. -/
def gapFinding (home enumName : String) (after next : Int) : Finding where
  rule := "enum-value-gaps"
  severity := .info
  package := home
  target := enumName
  message := "Enum " ++ Concern.quote enumName ++ " skips from " ++ toString after ++ " to "
    ++ toString next

/-- A finding reports the first gap of an enumeration. -/
def ReportsFirstGap (home : String) (enumeration : Enumeration) (finding : Finding) : Prop :=
  ∃ after next, IsFirstGap enumeration.numbers after next ∧
    finding = gapFinding home enumeration.name after next

end Lint

namespace Catalog

open Enumeration Lint

variable {catalog : Catalog}

/-- In a catalog whose enumerations are sorted by number, those with a gap are reported, one
by one. -/
theorem forall₂_reportsFirstGap
    (sorted : ∀ enumeration ∈ catalog.enums.values, enumeration.numbers.Pairwise (· ≤ ·)) :
    List.Forall₂ (ReportsFirstGap catalog.path)
      (catalog.enums.values.filter (HasGap ·.numbers)) (Rule.enumValueGaps.check catalog) := by
  change List.Forall₂ _ _ ((Concern.gaps catalog).map _)
  rw [Concern.gaps]
  generalize catalog.enums.values = enumerations at sorted ⊢
  induction enumerations with
  | nil => exact .nil
  | cons enumeration rest ih =>
      rw [List.forall_mem_cons] at sorted
      rw [List.filter_cons, List.filterMap_cons]
      cases found : Concern.firstGap? enumeration.values with
      | none =>
          have noGap : ¬HasGap enumeration.numbers := by
            rw [hasGap_iff_exists_isGapStart, not_exists]
            exact not_isGapStart_of_firstGap? sorted.1 found
          simpa [noGap] using ih sorted.2
      | some pair =>
          obtain ⟨after, next⟩ := pair
          have first := isFirstGap_of_firstGap? sorted.1 found
          have gap : HasGap enumeration.numbers :=
            hasGap_iff_exists_isGapStart.mpr ⟨after, first.after_isLeast.1⟩
          rw [if_pos (decide_eq_true gap)]
          exact .cons ⟨after, next, first, rfl⟩ (ih sorted.2)

theorem values_enums_canonicalize (catalog : Catalog) :
    catalog.canonicalize.enums.values = catalog.enums.values.map Enumeration.canonicalize :=
  NameTable.values_mapValues catalog.enums Enumeration.canonicalize

/-- If every enumeration goes by the name under which it is stored, their names increase. -/
theorem pairwise_map_name_enums
    (named : ∀ name enumeration, catalog.enums.find? name = some enumeration →
      enumeration.name = name) :
    (catalog.enums.values.map Enumeration.name).Pairwise (· < ·) := by
  have sameName : ∀ entry ∈ catalog.enums.entries, entry.2.name = entry.1 :=
    fun entry stored => named entry.1 entry.2
      ((NameTable.lookup_eq_some_iff_mem catalog.enums.increasing).mpr stored)
  have names : catalog.enums.values.map Enumeration.name = catalog.enums.entries.map (·.1) := by
    rw [NameTable.values, List.map_map]
    exact List.map_congr_left sameName
  rw [names, List.pairwise_map]
  exact catalog.enums.increasing

/-- In canonical order each enumeration with a gap is reported once, with the first of its
gaps, and no other is; enumerations that go by the names under which they are stored are
reported in order of their names. This is what looking for two neighbours finds whose
difference is more than one, also where differences are cut off at the ends of the range. -/
theorem enumValueGaps_canonicalize (catalog : Catalog) :
    let canonical := catalog.canonicalize
    List.Forall₂ (ReportsFirstGap catalog.path)
        (canonical.enums.values.filter (HasGap ·.numbers)) (Rule.enumValueGaps.check canonical) ∧
      ((∀ name enumeration, catalog.enums.find? name = some enumeration →
          enumeration.name = name) →
        ((Rule.enumValueGaps.check canonical).map Finding.target).Pairwise (· < ·)) ∧
      ∀ values : List EnumValue, Concern.firstGap? values =
        ((values.zip values.tail).map fun (a, b) => (a.value, b.value)).find?
          fun (a, b) => 1 < cappedDifference b a := by
  intro canonical
  have sorted : ∀ enumeration ∈ canonical.enums.values,
      enumeration.numbers.Pairwise (· ≤ ·) := by
    rw [values_enums_canonicalize, List.forall_mem_map]
    exact fun collected _ => sorted_numbers_canonicalize collected
  have reported := forall₂_reportsFirstGap sorted
  refine ⟨reported, fun named => ?_, firstGap?_eq_find?⟩
  have targets : (Rule.enumValueGaps.check canonical).map Finding.target =
      (canonical.enums.values.filter (HasGap ·.numbers)).map Enumeration.name := by
    symm
    rw [← List.forall₂_eq_eq_eq, List.forall₂_map_left_iff, List.forall₂_map_right_iff]
    refine reported.imp ?_
    rintro enumeration _ ⟨after, next, _, rfl⟩
    rfl
  have names : canonical.enums.values.map Enumeration.name =
      catalog.enums.values.map Enumeration.name := by
    rw [values_enums_canonicalize, List.map_map]
    rfl
  have increasing := pairwise_map_name_enums named
  rw [← names] at increasing
  rw [targets]
  exact increasing.sublist (List.filter_sublist.map _)

/-- An alias in front of a difference that does not fit in 64 bits, and an alias where there
is no gap, both out of order. -/
theorem enumValueGaps_canonicalize_extremes :
    let wide : Enumeration :=
      { Enumeration.empty "Wide" with
        values := [.mk "LAST" 9223372036854775807 "Last",
          .mk "FIRST" (-9223372036854775808) "First", .mk "START" (-9223372036854775808) "Start"] }
    let level : Enumeration :=
      { Enumeration.empty "Level" with
        values := [.mk "LOW" 1 "Low", .mk "NONE" 0 "None", .mk "FLOOR" 0 "Floor"] }
    let catalog := ((empty "shop" "shop").putEnum "Wide" wide).putEnum "Level" level
    (∀ name enumeration, catalog.enums.find? name = some enumeration →
        enumeration.name = name) ∧
      Rule.enumValueGaps.check catalog.canonicalize =
        [gapFinding "shop" "Wide" (-9223372036854775808) 9223372036854775807] := by
  intro wide level catalog
  have stored := ((isConsistent_empty "shop" "shop").putEnum (rfl : wide.name = "Wide")).consistent
  have named := (stored.putEnum (rfl : level.name = "Level")).consistent.enums_named
  have reported : List.Forall₂ (ReportsFirstGap "shop") [wide.canonicalize]
      (Rule.enumValueGaps.check catalog.canonicalize) := by
    have collected : catalog.enums.values = [level, wide] := by decide
    have values : catalog.canonicalize.enums.values = [level.canonicalize, wide.canonicalize] :=
      (values_enums_canonicalize catalog).trans (congrArg _ collected)
    have noGap : ¬HasGap level.canonicalize.numbers := by
      rw [hasGap_of_perm (numbers_canonicalize_perm level)]
      decide
    have gap : HasGap wide.canonicalize.numbers := by
      rw [hasGap_of_perm (numbers_canonicalize_perm wide)]
      decide
    have all := (enumValueGaps_canonicalize catalog).1
    rw [values, List.filter_cons_of_neg (by simpa using noGap),
      List.filter_cons_of_pos (by simpa using gap), List.filter_nil] at all
    exact all
  have onlyGap : ∀ after next, IsFirstGap wide.canonicalize.numbers after next →
      after = -9223372036854775808 ∧ next = 9223372036854775807 := by
    intro after next first
    have extremes : ∀ n ∈ wide.canonicalize.numbers,
        n = -9223372036854775808 ∨ n = 9223372036854775807 := by
      intro n member
      have collected := (numbers_canonicalize_perm wide).mem_iff.mp member
      simp only [wide, numbers, List.map_cons, List.map_nil, List.mem_cons] at collected
      tauto
    have afterExtreme := extremes after first.after_isLeast.1.1
    have nextExtreme := extremes next first.next_isLeast.1.1
    have above := first.next_isLeast.1.2
    omega
  obtain ⟨_, rest, ⟨after, next, first, rfl⟩, nothing, equal⟩ :=
    List.forall₂_cons_left_iff.mp reported
  obtain ⟨rfl, rfl⟩ := onlyGap after next first
  rw [List.forall₂_nil_left_iff] at nothing
  exact ⟨named, equal.trans (congrArg _ nothing)⟩

end Catalog

end ProtoSchema
