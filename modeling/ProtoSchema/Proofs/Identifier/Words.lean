import Mathlib.Data.List.Chain
import ProtoSchema.Proofs.Identifier

/-!
# Cutting texts into words

The words of a text hold all its characters but the separators, in order. No letter stands
beside a digit inside a word, and this is all that a text in letters of one case has to
avoid to be a single word, since the other places to cut need letters of both cases. Words
joined by a separator are found again if each of them is a single word of its own.
-/

namespace ProtoSchema.Identifier

open Text

/-! ## Words of a text -/

theorem flatten_extendFirst (c : Char) (found : List (List Char)) :
    (extendFirst c found).flatten = c :: found.flatten := by
  cases found <;> rfl

/-- The words hold the characters of the text that are no separators. -/
theorem flatten_words (text : List Char) :
    (words text).flatten = text.filter fun c => !isSeparator c := by
  induction text with
  | nil => rfl
  | cons c rest ih =>
      rw [words]
      split
      · rename_i separates
        rw [ih, List.filter_cons_of_neg (by simp [separates])]
      · rename_i noSeparator
        rw [List.filter_cons_of_pos (by simp [noSeparator]), ← ih]
        split
        · exact flatten_extendFirst c _
        · rfl

theorem mem_of_mem_words {text word : List Char} {c : Char} (isWord : word ∈ words text)
    (member : c ∈ word) : c ∈ text := by
  have inWords : c ∈ (words text).flatten := List.mem_flatten_of_mem isWord member
  rw [flatten_words] at inWords
  exact (List.mem_filter.mp inWords).1

/-- A text that starts with no separator starts its first word with the same character. -/
theorem exists_words_cons {c : Char} (noSeparator : isSeparator c = false) (rest : List Char) :
    ∃ word others, words (c :: rest) = (c :: word) :: others := by
  rw [words, if_neg (Bool.eq_false_iff.mp noSeparator)]
  split
  · cases words rest with
    | nil => exact ⟨[], [], rfl⟩
    | cons first others => exact ⟨first, others, rfl⟩
  · exact ⟨[], words rest, rfl⟩

theorem goesOn_cons_iff {c next : Char} {rest : List Char} :
    goesOn c (next :: rest) = true ↔
      isSeparator next = false ∧ startsWord c next rest.head? = false := by
  simp [goesOn]

/-! ## Letters and digits -/

/-- A letter stands before a digit, or a digit before a letter. -/
def changesKind (before after : Char) : Bool :=
  (isAlphabetic before && isNumeric after) || (isNumeric before && isAlphabetic after)

/-- Letters and digits do not stand side by side. -/
def IsOfOneKind (text : List Char) : Prop :=
  text.IsChain fun before after => changesKind before after = false

theorem changesKind_of_goesOn {c next : Char} {rest : List Char}
    (goes : goesOn c (next :: rest) = true) : changesKind c next = false := by
  have noStart := (goesOn_cons_iff.mp goes).2
  simp only [startsWord, Bool.or_eq_false_iff] at noStart
  rw [changesKind, noStart.1.1.2, noStart.1.2, Bool.or_false]

theorem isOfOneKind_of_mem_words {text word : List Char} (isWord : word ∈ words text) :
    IsOfOneKind word := by
  induction text generalizing word with
  | nil => simp [words] at isWord
  | cons c rest ih =>
      rw [words] at isWord
      split at isWord
      · exact ih isWord
      · split at isWord
        · rename_i goes
          cases rest with
          | nil => simp [goesOn] at goes
          | cons next later =>
              obtain ⟨first, others, found⟩ :=
                exists_words_cons (goesOn_cons_iff.mp goes).1 later
              rw [found] at ih isWord
              rcases List.mem_cons.mp isWord with rfl | inOthers
              · exact .cons_cons (changesKind_of_goesOn goes) (ih List.mem_cons_self)
              · exact ih (List.mem_cons_of_mem _ inOthers)
        · rcases List.mem_cons.mp isWord with rfl | inRest
          · exact .singleton c
          · exact ih inRest

/-! ## Single words -/

/-- A text without capital letters, or without small ones. -/
def IsOfOneCase (text : List Char) : Prop :=
  (∀ c ∈ text, isUppercase c = false) ∨ ∀ c ∈ text, isLowercase c = false

theorem IsOfOneCase.tail {c : Char} {rest : List Char} (oneCase : IsOfOneCase (c :: rest)) :
    IsOfOneCase rest :=
  oneCase.imp (fun none d member => none d (List.mem_cons_of_mem _ member))
    fun none d member => none d (List.mem_cons_of_mem _ member)

/-- Among letters of one case a word starts only where a letter and a digit meet. -/
theorem startsWord_of_oneCase {c next : Char} {rest : List Char}
    (oneCase : IsOfOneCase (c :: next :: rest)) :
    startsWord c next rest.head? = changesKind c next := by
  rcases oneCase with noCapital | noSmall
  · have nextSmall : isUppercase next = false := noCapital next (by simp)
    simp [startsWord, changesKind, nextSmall]
  · have capital : isLowercase c = false := noSmall c (by simp)
    have afterCapital : rest.head?.any isLowercase = false := by
      cases rest with
      | nil => rfl
      | cons after later => exact noSmall after (by simp)
    simp [startsWord, changesKind, capital, afterCapital]

/-- A word in letters of one case, with no letter beside a digit, is not cut. -/
theorem words_eq_singleton {word : List Char} (isWord : IsWord word)
    (oneKind : IsOfOneKind word) (oneCase : IsOfOneCase word) : words word = [word] := by
  induction word with
  | nil => exact absurd rfl isWord.1
  | cons c rest ih =>
      have noSeparator : ∀ d ∈ c :: rest, isSeparator d = false := isWord.2
      rw [List.forall_mem_cons] at noSeparator
      rw [words, if_neg (Bool.eq_false_iff.mp noSeparator.1)]
      cases rest with
      | nil => rfl
      | cons next later =>
          have kinds := List.isChain_cons_cons.mp oneKind
          have goes : goesOn c (next :: later) = true := by
            rw [goesOn_cons_iff, startsWord_of_oneCase oneCase]
            exact ⟨noSeparator.2 next List.mem_cons_self, kinds.1⟩
          rw [if_pos goes, ih ⟨List.cons_ne_nil _ _, noSeparator.2⟩ kinds.2 oneCase.tail]
          rfl

/-! ## Joined words -/

theorem isLowercase_of_isSeparator {c : Char} (separates : isSeparator c = true) :
    isLowercase c = false := by
  simp only [isSeparator, Bool.or_eq_true, beq_iff_eq] at separates
  rcases separates with ((rfl | rfl) | rfl) | rfl <;> decide

/-- What stands behind a separator does not matter to a word in front of it. -/
theorem goesOn_append_separator {separator : Char} (separates : isSeparator separator = true)
    (c : Char) (text rest : List Char) :
    goesOn c (text ++ separator :: rest) = goesOn c text := by
  cases text with
  | nil => simp [goesOn, separates]
  | cons next later =>
      cases later with
      | nil => simp [goesOn, startsWord, isLowercase_of_isSeparator separates]
      | cons after more => rfl

/-- The words around a separator are those in front of it and those behind it. -/
theorem words_append_separator {separator : Char} (separates : isSeparator separator = true)
    (text rest : List Char) :
    words (text ++ separator :: rest) = words text ++ words rest := by
  induction text with
  | nil => simp [words, separates]
  | cons c later ih =>
      rw [List.cons_append, words, words, goesOn_append_separator separates, ih]
      split
      · rfl
      · split
        · rename_i goes
          cases later with
          | nil => simp [goesOn] at goes
          | cons next more =>
              obtain ⟨word, others, found⟩ := exists_words_cons (goesOn_cons_iff.mp goes).1 more
              rw [found]
              rfl
        · rfl

/-- Single words joined by underscores are found again. -/
theorem words_intercalate {list : List (List Char)}
    (single : ∀ word ∈ list, words word = [word]) : words (['_'].intercalate list) = list := by
  induction list with
  | nil => rfl
  | cons word rest ih =>
      rw [List.forall_mem_cons] at single
      cases rest with
      | nil => simpa using single.1
      | cons next others =>
          rw [List.intercalate_cons_cons, List.append_assoc, List.singleton_append,
            words_append_separator rfl, single.1, ih single.2]
          rfl

end ProtoSchema.Identifier
