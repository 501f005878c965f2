import Mathlib.Data.List.DropRight
import ProtoSchema.Text.Basic

/-!
# Trimmed texts

Trimming cuts white space off both ends and nothing else, so a text is its trimmed form
between two blank texts. A form that holds no white space is found again wherever it stands
between blanks.
-/

namespace ProtoSchema.Text

/-- A text of white space, possibly empty. -/
def IsBlank (text : List Char) : Prop :=
  ∀ c ∈ text, isWhiteSpace c = true

/-- A text without white space. -/
def IsSolid (text : List Char) : Prop :=
  ∀ c ∈ text, isWhiteSpace c = false

-- Both go through the text. Left to be found, the instance might go through all characters.
instance (text : List Char) : Decidable (IsBlank text) :=
  List.decidableBAll (fun c => isWhiteSpace c = true) text

instance (text : List Char) : Decidable (IsSolid text) :=
  List.decidableBAll (fun c => isWhiteSpace c = false) text

theorem trim_eq_rdropWhile (text : List Char) :
    trim text = (text.dropWhile isWhiteSpace).rdropWhile isWhiteSpace :=
  rfl

/-- A text is its trimmed form between blanks. -/
theorem exists_blank_append_trim (text : List Char) :
    ∃ before after, IsBlank before ∧ IsBlank after ∧ text = before ++ trim text ++ after := by
  refine ⟨text.takeWhile isWhiteSpace, (text.dropWhile isWhiteSpace).rtakeWhile isWhiteSpace,
    fun _ => List.mem_takeWhile_imp, fun _ => List.mem_rtakeWhile_imp, ?_⟩
  rw [trim_eq_rdropWhile, List.append_assoc, List.rdropWhile_append_rtakeWhile,
    List.takeWhile_append_dropWhile]

theorem rdropWhile_append_blank {text after : List Char} (blank : IsBlank after) :
    (text ++ after).rdropWhile isWhiteSpace = text.rdropWhile isWhiteSpace := by
  have blankReversed : ∀ c ∈ after.reverse, isWhiteSpace c = true :=
    fun c member => blank c (List.mem_reverse.mp member)
  simp only [List.rdropWhile, List.reverse_append, List.dropWhile_append_of_pos blankReversed]

/-- A text without white space is what remains of itself between blanks. -/
theorem trim_between_blanks {before text after : List Char} (blankBefore : IsBlank before)
    (blankAfter : IsBlank after) (solid : IsSolid text) :
    trim (before ++ text ++ after) = text := by
  have notBlank : ∀ {c}, c ∈ text → ¬isWhiteSpace c = true :=
    fun member => Bool.eq_false_iff.mp (solid _ member)
  rw [trim_eq_rdropWhile, List.append_assoc, List.dropWhile_append_of_pos blankBefore]
  cases text with
  | nil =>
      have all : after.dropWhile isWhiteSpace = [] := List.dropWhile_eq_nil_iff.mpr blankAfter
      rw [List.nil_append, all, List.rdropWhile_nil]
  | cons head rest =>
      rw [List.cons_append, List.dropWhile_cons_of_neg (notBlank List.mem_cons_self),
        ← List.cons_append, rdropWhile_append_blank blankAfter]
      exact List.rdropWhile_eq_self_iff.mpr fun nonempty => notBlank (List.getLast_mem nonempty)

end ProtoSchema.Text
