import Mathlib.Data.List.Basic
import ProtoSchema.Identifier

/-!
# Names and their words

The words of a name are not empty and hold no separator, and neither do their capital
forms: no character but the underscore has an underscore in its capital form. So the words
in capital letters can be read back from a joined name, and two names are joined alike
exactly if they have the same words in capital letters.
-/

namespace ProtoSchema

namespace Text

/-! ## Capital letters -/

theorem toNat_of_ofNat_eq {code : Nat} {c : Char} (same : Char.ofNat code = c)
    (notNull : c.toNat ≠ 0) : code = c.toNat := by
  by_cases valid : code.isValidChar
  · rw [← same, Char.ofNat, dif_pos valid]
    rfl
  · rw [← same, Char.ofNat, dif_neg valid] at notNull
    contradiction

/-- On ASCII a check of all characters decides. -/
theorem forall_ascii {p : Char → Prop} (all : ∀ code < 0x80, p (Char.ofNat code)) {c : Char}
    (ascii : c.toNat < 0x80) : p c := by
  have checked := all c.toNat ascii
  rwa [Char.ofNat_toNat] at checked

theorem toUpper_eq_underscore {c : Char} (ascii : c.toNat < 0x80) :
    c.toUpper = '_' → c = '_' :=
  forall_ascii (p := fun c => c.toUpper = '_' → c = '_') (by decide) ascii

theorem uppercaseSequence_spec :
    ∀ entry ∈ Table.toUppercaseSequence, entry.2 ≠ [] ∧ '_'.toNat ∉ entry.2 := by
  decide

/-- Every span of small letters moves to one side of the underscore. -/
theorem uppercaseShift_spec :
    ∀ shift ∈ Table.toUppercase, ('_'.toNat : Int) < shift.span.first + shift.distance ∨
      shift.span.last + shift.distance < '_'.toNat := by
  decide +kernel

theorem mem_of_lookup_eq_some {entries : List (Nat × List Nat)} {code : Nat} {codes : List Nat}
    (found : entries.lookup code = some codes) : (code, codes) ∈ entries := by
  obtain ⟨_, _, split, _⟩ := List.lookup_eq_some_iff.mp found
  simp [split]

theorem exists_shift_of_apply? {shifts : List Table.Shift} {code moved : Nat}
    (found : Table.Shift.apply? shifts code = some moved) :
    ∃ shift ∈ shifts, shift.span.first ≤ code ∧ code ≤ shift.span.last ∧
      moved = (code + shift.distance).toNat := by
  induction shifts with
  | nil => contradiction
  | cons shift rest ih =>
      unfold Table.Shift.apply? at found
      split at found
      · contradiction
      · split at found
        · rename_i covers
          simp only [Span.covers, Bool.and_eq_true, decide_eq_true_eq] at covers
          exact ⟨shift, List.mem_cons_self, covers.1.1, covers.1.2, (Option.some.inj found).symm⟩
        · obtain ⟨later, inRest, moves⟩ := ih found
          exact ⟨later, List.mem_cons_of_mem _ inRest, moves⟩

theorem uppercaseChar_ne_nil (c : Char) : uppercaseChar c ≠ [] := by
  unfold uppercaseChar mapWith
  split
  · simp
  · split
    · rename_i codes found
      simpa using (uppercaseSequence_spec _ (mem_of_lookup_eq_some found)).1
    · split <;> simp

theorem underscore_not_mem_uppercaseChar {c : Char} (different : c ≠ '_') :
    '_' ∉ uppercaseChar c := by
  intro member
  unfold uppercaseChar mapWith at member
  split at member
  · rename_i ascii
    exact different (toUpper_eq_underscore ascii (List.mem_singleton.mp member).symm)
  · split at member
    · rename_i codes found
      obtain ⟨code, listed, isUnderscore⟩ := List.mem_map.mp member
      have noUnderscore := (uppercaseSequence_spec _ (mem_of_lookup_eq_some found)).2
      rw [toNat_of_ofNat_eq isUnderscore (by decide)] at listed
      exact noUnderscore listed
    · split at member
      · rename_i moved found
        obtain ⟨shift, listed, above, below, moves⟩ := exists_shift_of_apply? found
        have isUnderscore : moved = '_'.toNat :=
          toNat_of_ofNat_eq (List.mem_singleton.mp member).symm (by decide)
        have aside := uppercaseShift_spec shift listed
        have underscore : '_'.toNat = 0x5F := rfl
        rw [underscore] at isUnderscore aside
        omega
      · exact different (List.mem_singleton.mp member).symm

end Text

namespace Identifier

open Text

/-! ## Words -/

/-- A word: one or more characters, none of them a separator. -/
def IsWord (word : List Char) : Prop :=
  word ≠ [] ∧ ∀ c ∈ word, isSeparator c = false

theorem IsWord.cons {c : Char} {word : List Char} (noSeparator : isSeparator c = false)
    (isWord : IsWord word) : IsWord (c :: word) := by
  refine ⟨List.cons_ne_nil _ _, ?_⟩
  rintro d member
  rcases List.mem_cons.mp member with rfl | inWord
  · exact noSeparator
  · exact isWord.2 d inWord

theorem isWord_of_mem_words {text word : List Char} (member : word ∈ words text) :
    IsWord word := by
  induction text generalizing word with
  | nil => simp [words] at member
  | cons c rest ih =>
      rw [words] at member
      split at member
      · exact ih member
      · rename_i separates
        have noSeparator : isSeparator c = false := Bool.eq_false_iff.mpr separates
        have single : IsWord [c] := by simpa [IsWord] using noSeparator
        split at member
        · cases found : words rest with
          | nil =>
              rw [found, extendFirst, List.mem_singleton] at member
              exact member ▸ single
          | cons first others =>
              rw [found] at ih member
              rcases List.mem_cons.mp member with rfl | inOthers
              · exact (ih List.mem_cons_self).cons noSeparator
              · exact ih (List.mem_cons_of_mem _ inOthers)
        · rcases List.mem_cons.mp member with rfl | inRest
          · exact single
          · exact ih inRest

/-- The words of a name in capital letters. -/
def capitalWords (name : String) : List (List Char) :=
  (words (trim name.toList)).map uppercase

theorem capitalWord_spec {name : String} {word : List Char} (member : word ∈ capitalWords name) :
    word ≠ [] ∧ '_' ∉ word := by
  obtain ⟨small, isSmall, rfl⟩ := List.mem_map.mp member
  obtain ⟨nonempty, noSeparator⟩ := isWord_of_mem_words isSmall
  constructor
  · obtain ⟨c, rest, rfl⟩ := List.exists_cons_of_ne_nil nonempty
    rw [uppercase, List.flatMap_cons]
    exact List.append_ne_nil_of_left_ne_nil (uppercaseChar_ne_nil c) _
  · intro inCapitals
    obtain ⟨c, inSmall, inCapital⟩ := List.mem_flatMap.mp inCapitals
    refine underscore_not_mem_uppercaseChar ?_ inCapital
    rintro rfl
    exact absurd (noSeparator _ inSmall) (by decide)

/-- Words joined by underscores can be told apart if none is empty and none has an
underscore. -/
theorem intercalate_inj {first second : List (List Char)}
    (firstWords : ∀ word ∈ first, word ≠ [] ∧ '_' ∉ word)
    (secondWords : ∀ word ∈ second, word ≠ [] ∧ '_' ∉ word)
    (same : ['_'].intercalate first = ['_'].intercalate second) : first = second := by
  have joined_ne_nil : ∀ {list : List (List Char)}, (∀ word ∈ list, word ≠ [] ∧ '_' ∉ word) →
      list ≠ [] → ['_'].intercalate list ≠ [] := by
    intro list listWords nonempty empty
    have split := List.splitOn_intercalate '_' (fun word member => (listWords word member).2)
      nonempty
    rw [empty, List.splitOn_nil] at split
    exact (listWords [] (split ▸ List.mem_cons_self)).1 rfl
  by_cases firstEmpty : first = []
  · by_cases secondEmpty : second = []
    · rw [firstEmpty, secondEmpty]
    · rw [firstEmpty] at same
      exact absurd same.symm (joined_ne_nil secondWords secondEmpty)
  · by_cases secondEmpty : second = []
    · rw [secondEmpty] at same
      exact absurd same (joined_ne_nil firstWords firstEmpty)
    · rw [← List.splitOn_intercalate '_' (fun word member => (firstWords word member).2)
        firstEmpty, same, List.splitOn_intercalate '_'
          (fun word member => (secondWords word member).2) secondEmpty]

/-- Names are alike in capital letters exactly if their words are. -/
theorem screamingSnakeCase_eq_iff {first second : String} :
    screamingSnakeCase first = screamingSnakeCase second ↔
      capitalWords first = capitalWords second := by
  constructor
  · intro same
    exact intercalate_inj (fun _ => capitalWord_spec) (fun _ => capitalWord_spec)
      (String.ofList_injective same)
  · intro same
    exact congrArg (fun capitals => String.ofList (['_'].intercalate capitals)) same

example : capitalWords " HTTPServer-v2" = ["HTTP".toList, "SERVER".toList, ['V'], ['2']] := by
  decide

end Identifier

end ProtoSchema
