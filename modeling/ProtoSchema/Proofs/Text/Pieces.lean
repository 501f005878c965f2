import Mathlib.Data.List.Infix
import ProtoSchema.Text.Basic

/-!
# Cutting at a separator

The pieces of a text are those that the list library cuts it into, so they put together with
separators between them give the text back. A separator is never inside a piece.
-/

namespace ProtoSchema.Text

theorem pieces_eq_splitOn (separator : Char) (text : List Char) :
    pieces separator text = text.splitOn separator := by
  induction text with
  | nil => rfl
  | cons c rest ih =>
      rw [pieces, List.splitOn_cons_eq_if_modifyHead, ih]
      by_cases same : c = separator
      · rw [if_pos same, if_pos (beq_iff_eq.mpr same)]
      · rw [if_neg same, if_neg (mt beq_iff_eq.mp same)]
        cases split : rest.splitOn separator with
        | nil => exact absurd split (List.splitOn_ne_nil _ _)
        | cons piece others => rfl

theorem pieces_ne_nil (separator : Char) (text : List Char) : pieces separator text ≠ [] :=
  pieces_eq_splitOn separator text ▸ List.splitOn_ne_nil separator text

/-- The pieces around a separator are those in front of it and those behind it. -/
theorem pieces_append_separator (separator : Char) (first second : List Char) :
    pieces separator (first ++ separator :: second) =
      pieces separator first ++ pieces separator second := by
  simp only [pieces_eq_splitOn, List.splitOn_append_cons_self]

/-- A text without a separator is its only piece. -/
theorem pieces_of_not_mem {separator : Char} {text : List Char} (absent : separator ∉ text) :
    pieces separator text = [text] := by
  rw [pieces_eq_splitOn, List.splitOn_eq_singleton absent]

theorem intercalate_pieces (separator : Char) (text : List Char) :
    [separator].intercalate (pieces separator text) = text := by
  rw [pieces_eq_splitOn, List.intercalate_splitOn]

theorem intercalate_append (separator : Char) {front back : List (List Char)}
    (front_ne : front ≠ []) (back_ne : back ≠ []) :
    [separator].intercalate (front ++ back) =
      [separator].intercalate front ++ separator :: [separator].intercalate back := by
  induction front with
  | nil => exact absurd rfl front_ne
  | cons first rest ih =>
      by_cases last : rest = []
      · subst last
        rw [List.cons_append, List.nil_append, List.intercalate_cons_of_ne_nil back_ne,
          List.intercalate_singleton, List.append_assoc, List.singleton_append]
      · rw [List.cons_append,
          List.intercalate_cons_of_ne_nil (List.append_ne_nil_of_left_ne_nil last back), ih last,
          List.intercalate_cons_of_ne_nil last]
        simp only [List.append_assoc]

/-- The first pieces of a text make up a text that starts it. -/
theorem intercalate_front (separator : Char) (front back : List (List Char)) :
    [separator].intercalate front <+: [separator].intercalate (front ++ back) := by
  by_cases front_ne : front = []
  · rw [front_ne, List.intercalate_nil]
    exact List.nil_prefix
  · by_cases back_ne : back = []
    · rw [back_ne, List.append_nil]
    · rw [intercalate_append separator front_ne back_ne]
      exact List.prefix_append _ _

/-- A piece is a part of the text without a separator in it. -/
theorem of_mem_pieces {separator : Char} {text piece : List Char}
    (member : piece ∈ pieces separator text) : separator ∉ piece ∧ piece ⊆ text := by
  induction text generalizing piece with
  | nil =>
      obtain rfl := List.mem_singleton.mp member
      exact ⟨List.not_mem_nil, List.nil_subset _⟩
  | cons c rest ih =>
      rw [pieces] at member
      split at member
      · rcases List.mem_cons.mp member with rfl | later
        · exact ⟨List.not_mem_nil, List.nil_subset _⟩
        · exact (ih later).imp_right (List.subset_cons_of_subset c)
      · rename_i different
        cases found : pieces separator rest with
        | nil => exact absurd found (pieces_ne_nil separator rest)
        | cons first others =>
            rw [found] at ih member
            rcases List.mem_cons.mp member with rfl | later
            · obtain ⟨absent, inside⟩ := ih List.mem_cons_self
              refine ⟨?_, List.cons_subset_cons c inside⟩
              rw [List.mem_cons, not_or]
              exact ⟨Ne.symm different, absent⟩
            · exact (ih (List.mem_cons_of_mem _ later)).imp_right (List.subset_cons_of_subset c)

end ProtoSchema.Text
