import Mathlib.Data.List.Perm.Basic

/-!
# Stable sorting

A stable sort leaves the elements that its order does not tell apart in the order in
which they came. What it makes of a list is therefore determined by these classes of
ties, each with its own order, and it does not matter whether a part in front of the
list was sorted before.
-/

namespace ProtoSchema

universe u

variable {α : Type u} {le : α → α → Bool}

/-- Whether an order does not tell two elements apart. -/
def tied (le : α → α → Bool) (a b : α) : Bool :=
  le a b && le b a

section

variable (trans : ∀ a b c, le a b = true → le b c = true → le a c = true)
  (total : ∀ a b, (le a b || le b a) = true)
include total

theorem le_self_of_total (element : α) : le element element = true := by
  simpa using total element element

theorem tied_self (element : α) : tied le element element = true := by
  simp [tied, le_self_of_total total element]

/-- The head of a sorted list precedes every element. -/
theorem head_le_of_mem {head element : α} {rest : List α}
    (sorted : (head :: rest).Pairwise fun a b => le a b = true)
    (member : element ∈ head :: rest) : le head element = true := by
  rcases List.mem_cons.mp member with rfl | inRest
  · exact le_self_of_total total element
  · exact List.rel_of_pairwise_cons sorted inRest

/-- Lists with the same classes of ties have the same elements. -/
theorem mem_iff_of_filter_tied_eq {first second : List α}
    (same : ∀ element, first.filter (tied le element) = second.filter (tied le element))
    (element : α) : element ∈ first ↔ element ∈ second := by
  have inClass : ∀ list : List α, element ∈ list ↔ element ∈ list.filter (tied le element) := by
    simp [tied_self total element]
  rw [inClass first, inClass second, same]

/-- A sorted list is determined by its classes of ties. -/
theorem eq_of_filter_tied_eq {first second : List α}
    (firstSorted : first.Pairwise fun a b => le a b = true)
    (secondSorted : second.Pairwise fun a b => le a b = true)
    (same : ∀ element, first.filter (tied le element) = second.filter (tied le element)) :
    first = second := by
  have mem_iff := mem_iff_of_filter_tied_eq total same
  induction first generalizing second with
  | nil =>
      rw [eq_comm, List.eq_nil_iff_forall_not_mem]
      exact fun element member => List.not_mem_nil ((mem_iff element).mpr member)
  | cons a rest ih =>
      cases second with
      | nil => exact absurd ((mem_iff a).mp List.mem_cons_self) List.not_mem_nil
      | cons b rest' =>
          -- Each head precedes the other, so both head the same class of ties.
          have aFirst := head_le_of_mem total firstSorted ((mem_iff b).mpr List.mem_cons_self)
          have bFirst := head_le_of_mem total secondSorted ((mem_iff a).mp List.mem_cons_self)
          have tiedHeads : tied le a b = true := by simp [tied, aFirst, bFirst]
          have heads := same a
          rw [List.filter_cons_of_pos (tied_self total a), List.filter_cons_of_pos tiedHeads,
            List.cons.injEq] at heads
          obtain ⟨rfl, -⟩ := heads
          have rests : ∀ element,
              rest.filter (tied le element) = rest'.filter (tied le element) := by
            intro element
            have whole := same element
            rw [List.filter_cons, List.filter_cons] at whole
            split at whole
            · exact (List.cons.inj whole).2
            · exact whole
          rw [ih firstSorted.of_cons secondSorted.of_cons rests
            (mem_iff_of_filter_tied_eq total rests)]

include trans

/-- Sorting leaves every class of ties as it is. -/
theorem filter_tied_mergeSort (list : List α) (element : α) :
    (list.mergeSort le).filter (tied le element) = list.filter (tied le element) := by
  have ordered : (list.filter (tied le element)).Pairwise fun a b => le a b = true := by
    refine List.pairwise_of_forall_mem_list fun a memberA b memberB => ?_
    have tiedA := Bool.and_eq_true_iff.mp (List.mem_filter.mp memberA).2
    have tiedB := Bool.and_eq_true_iff.mp (List.mem_filter.mp memberB).2
    exact trans a element b tiedA.2 tiedB.1
  have kept : (list.filter (tied le element)).Sublist
      ((list.mergeSort le).filter (tied le element)) := by
    have inSorted := List.sublist_mergeSort trans total ordered List.filter_sublist
    simpa using inSorted.filter (tied le element)
  have sameLength := ((List.mergeSort_perm list le).filter (tied le element)).length_eq
  exact (kept.eq_of_length sameLength.symm).symm

/-- Two lists are sorted into the same list exactly if they have the same classes of
ties. -/
theorem mergeSort_eq_iff_filter_tied_eq (first second : List α) :
    first.mergeSort le = second.mergeSort le ↔
      ∀ element, first.filter (tied le element) = second.filter (tied le element) := by
  constructor
  · intro same element
    rw [← filter_tied_mergeSort trans total first, same, filter_tied_mergeSort trans total]
  · intro same
    refine eq_of_filter_tied_eq total (List.pairwise_mergeSort trans total first)
      (List.pairwise_mergeSort trans total second) fun element => ?_
    rw [filter_tied_mergeSort trans total, filter_tied_mergeSort trans total, same]

/-- Lists that are sorted into the same list still are with the same elements after
them. -/
theorem mergeSort_append_eq {first second : List α}
    (same : first.mergeSort le = second.mergeSort le) (late : List α) :
    (first ++ late).mergeSort le = (second ++ late).mergeSort le := by
  rw [mergeSort_eq_iff_filter_tied_eq trans total] at same ⊢
  intro element
  rw [List.filter_append, List.filter_append, same]

/-- A sorted list is sorted already. -/
theorem mergeSort_mergeSort (list : List α) :
    (list.mergeSort le).mergeSort le = list.mergeSort le :=
  List.mergeSort_of_pairwise (List.pairwise_mergeSort trans total list)

end

end ProtoSchema
