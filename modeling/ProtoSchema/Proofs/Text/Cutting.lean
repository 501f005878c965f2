import Mathlib

/-!
# Cutting texts apart

Two equal texts made of parts have equal parts if the place where a part ends can be
seen: because a property of its characters stops there, because a mark stands there for
the first time, or because it stands there for the last time. Numerals are parts of
this kind, since they hold digits and a sign and nothing else.
-/

namespace ProtoSchema

section Cutting

variable {α : Type} {first second firstRest secondRest : List α}

/-- Where a property stops for the first time, equal texts are cut alike. -/
theorem append_inj_of_stops {p : α → Prop} (inFirst : ∀ a ∈ first, p a)
    (inSecond : ∀ a ∈ second, p a) (afterFirst : ∀ a ∈ firstRest.head?, ¬p a)
    (afterSecond : ∀ a ∈ secondRest.head?, ¬p a)
    (same : first ++ firstRest = second ++ secondRest) :
    first = second ∧ firstRest = secondRest := by
  induction first generalizing second with
  | nil =>
      cases second with
      | nil => exact ⟨rfl, same⟩
      | cons head tail =>
          rw [List.nil_append] at same
          exact absurd (inSecond head List.mem_cons_self) (afterFirst head (by simp [same]))
  | cons head tail ih =>
      cases second with
      | nil =>
          rw [List.nil_append] at same
          exact absurd (inFirst head List.mem_cons_self) (afterSecond head (by simp [← same]))
      | cons head' tail' =>
          rw [List.cons_append, List.cons_append, List.cons.injEq] at same
          rw [List.forall_mem_cons] at inFirst inSecond
          obtain ⟨rfl, tails⟩ := same
          obtain ⟨rfl, rests⟩ := ih inFirst.2 inSecond.2 tails
          exact ⟨rfl, rests⟩

/-- At their first mark equal texts are cut alike. -/
theorem append_cons_inj_of_not_mem {mark : α} (notFirst : mark ∉ first)
    (notSecond : mark ∉ second)
    (same : first ++ mark :: firstRest = second ++ mark :: secondRest) :
    first = second ∧ firstRest = secondRest := by
  obtain ⟨firstEq, restEq⟩ := append_inj_of_stops (p := (· ≠ mark))
    (fun _ member => ne_of_mem_of_not_mem member notFirst)
    (fun _ member => ne_of_mem_of_not_mem member notSecond) (by simp) (by simp) same
  exact ⟨firstEq, List.tail_eq_of_cons_eq restEq⟩

/-- At their last mark equal texts are cut alike. -/
theorem append_cons_inj_of_not_mem_right {mark : α} (notFirst : mark ∉ firstRest)
    (notSecond : mark ∉ secondRest)
    (same : first ++ mark :: firstRest = second ++ mark :: secondRest) :
    first = second ∧ firstRest = secondRest := by
  have reversed := congrArg List.reverse same
  simp only [List.reverse_append, List.reverse_cons, List.append_assoc,
    List.singleton_append] at reversed
  obtain ⟨restEq, firstEq⟩ := append_cons_inj_of_not_mem (by simpa using notFirst)
    (by simpa using notSecond) reversed
  exact ⟨List.reverse_injective firstEq, List.reverse_injective restEq⟩

end Cutting

/-! ## Numerals -/

variable {c : Char}

theorem isDigit_of_mem_repr {n : Nat} (member : c ∈ n.repr.toList) : c.isDigit = true := by
  rw [Nat.repr_eq_ofList_toDigits, String.toList_ofList] at member
  exact Nat.isDigit_of_mem_toDigits (by decide) (by decide) member

theorem not_mem_repr {n : Nat} (noDigit : c.isDigit = false) : c ∉ n.repr.toList := by
  intro member
  rw [isDigit_of_mem_repr member] at noDigit
  contradiction

/-- A numeral ends in a digit. -/
theorem exists_repr_eq_concat (n : Nat) :
    ∃ front digit, n.repr.toList = front ++ [digit] ∧ digit.isDigit = true := by
  have nonempty : n.repr.toList ≠ [] := by
    rw [Nat.repr_eq_ofList_toDigits, String.toList_ofList]
    exact Nat.toDigits_ne_nil
  obtain ⟨front, digit, split⟩ := (List.eq_nil_or_concat' n.repr.toList).resolve_left nonempty
  exact ⟨front, digit, split, isDigit_of_mem_repr (n := n) (split ▸ List.mem_concat_self)⟩

/-- The numeral of an integer has a sign if the integer is negative, and digits. -/
theorem toList_repr_int (number : Int) :
    number.repr.toList = (if number < 0 then ['-'] else []) ++ number.natAbs.repr.toList := by
  cases number with
  | ofNat n => rfl
  | negSucc n =>
      rw [if_pos (Int.negSucc_lt_zero n)]
      exact String.toList_append

theorem not_mem_repr_int {number : Int} (noDigit : c.isDigit = false) (noSign : c ≠ '-') :
    c ∉ number.repr.toList := by
  rw [toList_repr_int, List.mem_append, not_or]
  constructor
  · split <;> simp [noSign]
  · exact not_mem_repr noDigit

end ProtoSchema
