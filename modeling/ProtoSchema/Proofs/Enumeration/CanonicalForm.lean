import ProtoSchema.Proofs.Enumeration

/-!
# The canonical form of an enumeration

The canonical form lists the values by number and name and leaves values that agree in both
in the order in which they came. Its flags speak of all values and of all pairs of them,
yet one pass that looks at each value and the one before it finds them: equal numbers are
neighbours, and between equal numbers there is no gap.
-/

namespace ProtoSchema.Enumeration

open EnumValue

/-! ## One pass -/

/-- The flags of an enumeration. -/
structure Flags where
  allowAlias : Bool
  missingDefault : Bool
  hasGaps : Bool
deriving DecidableEq

/-- The largest number of a value. -/
def largest : Int :=
  IntLiteral.Sign.plus.limit

/-- The number after a number. The largest is its own. -/
def successor (number : Int) : Int :=
  min (number + 1) largest

namespace Flags

/-- The flags that an enumeration has. -/
def ofEnumeration (enumeration : Enumeration) : Flags where
  allowAlias := enumeration.allowAlias
  missingDefault := enumeration.missingDefault
  hasGaps := enumeration.hasGaps

/-- The flags before the first value. -/
def start : Flags := ⟨false, true, false⟩

/-- Take note of a value and the one before it. A gap is looked for only where the two
share a number. -/
def note (flags : Flags) (before? : Option EnumValue) (value : EnumValue) : Flags :=
  let isAlias := before?.any (value.value == ·.value)
  { allowAlias := flags.allowAlias || isAlias
    missingDefault := flags.missingDefault && value.value != 0
    hasGaps := flags.hasGaps ||
      isAlias && before?.any fun before => successor before.value < value.value }

/-- Take note of values in order, each with the one before it. -/
def scan (flags : Flags) (before? : Option EnumValue) : List EnumValue → Flags
  | [] => flags
  | value :: rest => scan (flags.note before? value) (some value) rest

/-- A value shows no gap to one of the same number, not even at the largest. -/
theorem hasGaps_note {flags : Flags} {before? : Option EnumValue} {value : EnumValue}
    (inRange : value.value ≤ largest) : (flags.note before? value).hasGaps = flags.hasGaps := by
  cases before? with
  | none => simp [note]
  | some before =>
      have noGap : value.value = before.value → ¬successor before.value < value.value := by
        intro same
        simp only [successor]
        omega
      simp only [note, Option.any_some, Bool.or_eq_left_iff_imp, Bool.and_eq_true, beq_iff_eq,
        decide_eq_true_eq]
      exact fun gap => absurd gap.2 (noGap gap.1)

/-- What a pass over values finds, after flags and a value before them. -/
theorem scan_eq {values : List EnumValue} (inRange : ∀ value ∈ values, value.value ≤ largest)
    (flags : Flags) (before? : Option EnumValue) :
    scan flags before? values =
      { allowAlias := flags.allowAlias || hasNeighbourAlias (before?.toList ++ values)
        missingDefault := flags.missingDefault && values.all (·.value != 0)
        hasGaps := flags.hasGaps } := by
  induction values generalizing flags before? with
  | nil => cases before? <;> simp [scan, hasNeighbourAlias]
  | cons value rest ih =>
      rw [List.forall_mem_cons] at inRange
      rw [scan, ih inRange.2, hasGaps_note inRange.1]
      cases before? with
      | none => simp [note, Bool.and_assoc]
      | some before =>
          have symmetric : (value.value == before.value) = (before.value == value.value) :=
            BEq.comm
          simp [note, hasNeighbourAlias, symmetric, Bool.or_assoc, Bool.and_assoc]

end Flags

/-- One pass over the canonical values finds the canonical flags. -/
theorem scan_canonicalize {enumeration : Enumeration}
    (inRange : ∀ value ∈ enumeration.values, value.value ≤ largest) :
    Flags.scan .start none enumeration.canonicalize.values =
      .ofEnumeration enumeration.canonicalize := by
  have sortedInRange : ∀ value ∈ enumeration.canonicalize.values, value.value ≤ largest :=
    fun value stored => inRange value (List.mem_mergeSort.mp stored)
  rw [Flags.scan_eq sortedInRange]
  simp [Flags.start, Flags.ofEnumeration, canonicalize]

/-! ## The canonical form -/

/-- Values that are shown alike stay in the order in which they came. -/
theorem filter_shown_canonicalize (enumeration : Enumeration) (pair : String × Int) :
    enumeration.canonicalize.values.filter (·.shown == pair) =
      enumeration.values.filter (·.shown == pair) := by
  obtain ⟨name, number⟩ := pair
  have isTie : ∀ value : EnumValue,
      (value.shown == (name, number)) =
        tied precedes { name, value := number, sourceName := "" } value := by
    intro value
    rw [Bool.eq_iff_iff, beq_iff_eq, tied, Bool.and_eq_true, precedes_iff, precedes_iff]
    constructor
    · intro same
      rw [same]
      exact ⟨.inr ⟨rfl, String.le_refl name⟩, .inr ⟨rfl, String.le_refl name⟩⟩
    · rintro ⟨notAfter, notBefore⟩
      exact shownBefore_antisymm notBefore notAfter
  simp only [isTie]
  exact filter_tied_mergeSort precedes_trans precedes_total enumeration.values _

/-- The numbers repeat exactly if two different places hold one number. -/
theorem not_nodup_numbers_iff {enumeration : Enumeration} :
    ¬enumeration.numbers.Nodup ↔
      ∃ first second : Fin enumeration.values.length, first ≠ second ∧
        enumeration.values[first].value = enumeration.values[second].value := by
  rw [numbers, List.Nodup, List.pairwise_map, List.pairwise_iff_getElem]
  constructor
  · intro repeated
    push Not at repeated
    obtain ⟨i, j, iBound, jBound, below, same⟩ := repeated
    exact ⟨⟨i, iBound⟩, ⟨j, jBound⟩, by simpa using Nat.ne_of_lt below, same⟩
  · rintro ⟨first, second, different, same⟩ distinct
    rcases Nat.lt_or_gt_of_ne (Fin.val_ne_of_ne different) with below | above
    · exact distinct _ _ first.isLt second.isLt below same
    · exact distinct _ _ second.isLt first.isLt above same.symm

/-- What is shown of the canonical form, and its flags, follow from what is shown of the
values, in whatever order they come. -/
theorem shown_canonicalize_eq {first second : Enumeration}
    (same : (first.values.map shown).Perm (second.values.map shown)) :
    first.canonicalize.values.map shown = second.canonicalize.values.map shown ∧
      Flags.ofEnumeration first.canonicalize = .ofEnumeration second.canonicalize := by
  let renamed : Enumeration := { second with name := first.name }
  have sameName : first.name = renamed.name := rfl
  have schemas := schema_canonicalize_eq sameName same
  simp only [schema, Schema.mk.injEq] at schemas
  obtain ⟨_, sameMembers, sameAlias, sameDefault, sameGaps⟩ := schemas
  refine ⟨sameMembers, ?_⟩
  rw [Flags.ofEnumeration, Flags.ofEnumeration, Flags.mk.injEq]
  exact ⟨sameAlias, sameDefault, sameGaps⟩

/-- The canonical form is the values sorted by number and name, stably, with flags that
speak of all of them: whether none is zero, and whether two share a number. A gap is never
noted. One pass over the sorted values finds these flags; a second canonical form changes
nothing; and values that are shown alike have canonical forms that are shown alike, with
the same flags. -/
theorem canonicalize_exact (enumeration : Enumeration) :
    let canonical := enumeration.canonicalize
    canonical.values.Perm enumeration.values ∧
      (canonical.values.Pairwise fun a b =>
        a.value < b.value ∨ a.value = b.value ∧ a.name ≤ b.name) ∧
      (∀ pair, canonical.values.filter (·.shown == pair) =
        enumeration.values.filter (·.shown == pair)) ∧
      (canonical.missingDefault = true ↔ ∀ value ∈ enumeration.values, value.value ≠ 0) ∧
      (canonical.allowAlias = true ↔
        ∃ first second : Fin enumeration.values.length, first ≠ second ∧
          enumeration.values[first].value = enumeration.values[second].value) ∧
      canonical.hasGaps = false ∧
      ((∀ value ∈ enumeration.values, value.value ≤ largest) →
        Flags.scan .start none canonical.values = .ofEnumeration canonical) ∧
      canonical.canonicalize = canonical ∧
      ∀ other : Enumeration, (other.values.map shown).Perm (enumeration.values.map shown) →
        other.canonicalize.values.map shown = canonical.values.map shown ∧
          Flags.ofEnumeration other.canonicalize = .ofEnumeration canonical := by
  intro canonical
  have sorted := List.pairwise_map.mp (pairwise_shownBefore_canonicalize enumeration)
  have missing : canonical.missingDefault = true ↔
      ∀ value ∈ enumeration.values, value.value ≠ 0 := by
    simp [canonical, canonicalize]
  exact ⟨List.mergeSort_perm _ _, sorted, filter_shown_canonicalize enumeration, missing,
    allowAlias_canonicalize_iff.trans not_nodup_numbers_iff, rfl, scan_canonicalize,
    canonicalize_canonicalize enumeration, fun _ => shown_canonicalize_eq⟩

/-- Values at both ends of the range, two of which are shown alike, under flags that say
the opposite; and the same values in another order. -/
theorem canonicalize_exact_extremes :
    let values := [EnumValue.mk "LAST" 9223372036854775807 "Last",
      .mk "FIRST" (-9223372036854775808) "First", .mk "LAST" 9223372036854775807 "LAST"]
    let enumeration : Enumeration := ⟨"Level", values, false, false, true⟩
    let other : Enumeration := ⟨"Grade", values.reverse, true, true, false⟩
    (∀ value ∈ values, value.value ≤ largest) ∧
      (other.values.map shown).Perm (enumeration.values.map shown) ∧
      Flags.ofEnumeration enumeration.canonicalize = ⟨true, true, false⟩ ∧
      Flags.scan .start none enumeration.canonicalize.values = ⟨true, true, false⟩ ∧
      enumeration.canonicalize.values.filter (·.shown == ("LAST", 9223372036854775807)) =
        [.mk "LAST" 9223372036854775807 "Last", .mk "LAST" 9223372036854775807 "LAST"] ∧
      other.canonicalize.values.map shown = enumeration.canonicalize.values.map shown := by
  intro values enumeration other
  obtain ⟨_, _, stable, missing, repeated, gaps, scan, _, alike⟩ :=
    canonicalize_exact enumeration
  have inRange : ∀ value ∈ values, value.value ≤ largest := by decide
  have shuffled : (other.values.map shown).Perm (enumeration.values.map shown) := by decide
  have flagsEq : Flags.ofEnumeration enumeration.canonicalize = ⟨true, true, false⟩ := by
    have sharedLast := repeated.mpr ⟨⟨0, by decide⟩, ⟨2, by decide⟩, by decide⟩
    rw [Flags.ofEnumeration, sharedLast, missing.mpr (by decide), gaps]
  exact ⟨inRange, shuffled, flagsEq, (scan inRange).trans flagsEq, (stable _).trans (by decide),
    (alike other shuffled).1⟩

end ProtoSchema.Enumeration
