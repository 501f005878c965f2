import ProtoSchema.Proofs.Identifier.Words

/-!
# Where texts are cut into words

A text is cut at its separators, which are lost, and between two neighbours that belong to
words if the second starts a word; nothing else of the text matters. Reading the text from
left to right with the current word in hand comes to the same: the last character of that
word is the neighbour in front, since a word that has been closed leaves nothing in hand.
-/

namespace ProtoSchema.Identifier

open Text

/-! ## Reading from left to right -/

/-- The word in hand, unless there is none. -/
def closeWord : List Char → List (List Char)
  | [] => []
  | current => [current]

/-- The words of a text, read with a word in hand. A separator closes it, and so does a
character that starts a word after its last character. -/
def readWords (current : List Char) : List Char → List (List Char)
  | [] => closeWord current
  | c :: rest =>
    if isSeparator c then closeWord current ++ readWords [] rest
    else if current.getLast?.any (startsWord · c rest.head?) then
      closeWord current ++ readWords [c] rest
    else readWords (current ++ [c]) rest

/-- Put characters in front of the first word. -/
def extendFirstWith (front : List Char) : List (List Char) → List (List Char)
  | [] => [front]
  | word :: rest => (front ++ word) :: rest

theorem closeWord_concat (front : List Char) (last : Char) :
    closeWord (front ++ [last]) = [front ++ [last]] := by
  cases front <;> rfl

theorem extendFirstWith_nil {found : List (List Char)} (nonempty : found ≠ []) :
    extendFirstWith [] found = found := by
  cases found with
  | nil => contradiction
  | cons word rest => rfl

theorem words_cons_ne_nil {c : Char} (noSeparator : isSeparator c = false) (rest : List Char) :
    words (c :: rest) ≠ [] := by
  obtain ⟨word, others, found⟩ := exists_words_cons noSeparator rest
  rw [found]
  exact List.cons_ne_nil _ _

theorem extendFirstWith_extendFirst (front : List Char) (last : Char)
    (found : List (List Char)) :
    extendFirstWith front (extendFirst last found) = extendFirstWith (front ++ [last]) found := by
  cases found <;> simp [extendFirst, extendFirstWith]

/-- Without a word in hand the words of the text are read; a word in hand is put in front of
the word that its last character begins. -/
theorem readWords_spec (text : List Char) :
    readWords [] text = words text ∧
      ∀ front last, isSeparator last = false →
        readWords (front ++ [last]) text = extendFirstWith front (words (last :: text)) := by
  induction text with
  | nil =>
      refine ⟨rfl, fun front last noSeparator => ?_⟩
      rw [readWords, closeWord_concat, words, if_neg (Bool.eq_false_iff.mp noSeparator)]
      rfl
  | cons c rest ih =>
      obtain ⟨ihNone, ihHand⟩ := ih
      by_cases separates : isSeparator c = true
      · refine ⟨by rw [readWords, if_pos separates, words, if_pos separates, ihNone]; rfl,
          fun front last noSeparator => ?_⟩
        have stops : goesOn last (c :: rest) = false := by simp [goesOn, separates]
        rw [readWords, if_pos separates, closeWord_concat, ihNone, words,
          if_neg (Bool.eq_false_iff.mp noSeparator), if_neg (Bool.eq_false_iff.mp stops), words,
          if_pos separates]
        rfl
      · have solid : isSeparator c = false := Bool.eq_false_iff.mpr separates
        have afresh : readWords [c] rest = words (c :: rest) :=
          (ihHand [] c solid).trans (extendFirstWith_nil (words_cons_ne_nil solid rest))
        refine ⟨by rw [readWords, if_neg separates]; exact afresh,
          fun front last noSeparator => ?_⟩
        rw [readWords, if_neg separates, List.getLast?_concat, Option.any_some,
          words, if_neg (Bool.eq_false_iff.mp noSeparator)]
        by_cases starts : startsWord last c rest.head? = true
        · have stops : goesOn last (c :: rest) = false := by simp [goesOn, starts]
          rw [if_pos starts, closeWord_concat, afresh, if_neg (Bool.eq_false_iff.mp stops)]
          rfl
        · have goes : goesOn last (c :: rest) = true :=
            goesOn_cons_iff.mpr ⟨solid, Bool.eq_false_iff.mpr starts⟩
          rw [if_neg starts, if_pos goes, ihHand (front ++ [last]) c solid,
            extendFirstWith_extendFirst]

/-- Reading from left to right finds the words. -/
theorem readWords_eq_words (text : List Char) : readWords [] text = words text :=
  (readWords_spec text).1

/-! ## The word of a character -/

/-- The number of the word in which a character stands, by the number of characters that
stand in front of it in this word and in the words before. -/
def wordNumber : List (List Char) → Nat → Nat
  | [], _ => 0
  | word :: rest, position =>
    if position < word.length then 0 else wordNumber rest (position - word.length) + 1

theorem wordNumber_extend (c : Char) (word : List Char) (others : List (List Char))
    (position : Nat) :
    wordNumber ((c :: word) :: others) (position + 1) =
      wordNumber (word :: others) position := by
  simp [wordNumber]

theorem wordNumber_singleton_cons (c : Char) (others : List (List Char)) (position : Nat) :
    wordNumber ([c] :: others) (position + 1) = wordNumber others position + 1 := by
  simp [wordNumber]

/-- A character in front moves all words on by the same number, or none. -/
theorem exists_wordNumber_cons {c : Char} (noSeparator : isSeparator c = false)
    (rest : List Char) :
    ∃ shift, ∀ position, wordNumber (words (c :: rest)) (position + 1) =
      wordNumber (words rest) position + shift := by
  rw [words, if_neg (Bool.eq_false_iff.mp noSeparator)]
  split
  · rename_i goes
    cases rest with
    | nil => simp [goesOn] at goes
    | cons next later =>
        obtain ⟨word, others, found⟩ := exists_words_cons (goesOn_cons_iff.mp goes).1 later
        rw [found]
        exact ⟨0, wordNumber_extend c _ others⟩
  · exact ⟨1, wordNumber_singleton_cons c (words rest)⟩

/-- How many characters of a text are no separators. -/
def solidCount (text : List Char) : Nat :=
  (text.filter fun c => !isSeparator c).length

section Neighbours

variable {a b : Char} (solidFirst : isSeparator a = false) (solidSecond : isSeparator b = false)
  (front back : List Char)
include solidFirst solidSecond

/-- Two neighbours stand in different words exactly if the second starts a word. -/
theorem wordNumber_ne_iff :
    wordNumber (words (front ++ a :: b :: back)) (solidCount front) ≠
        wordNumber (words (front ++ a :: b :: back)) (solidCount front + 1) ↔
      startsWord a b back.head? = true := by
  induction front with
  | nil =>
      obtain ⟨word, others, found⟩ := exists_words_cons solidSecond back
      rw [List.nil_append, words, if_neg (Bool.eq_false_iff.mp solidFirst), found]
      by_cases starts : startsWord a b back.head? = true
      · have stops : goesOn a (b :: back) = false := by simp [goesOn, starts]
        rw [if_neg (Bool.eq_false_iff.mp stops)]
        simp [starts, solidCount, wordNumber]
      · have goes : goesOn a (b :: back) = true :=
          goesOn_cons_iff.mpr ⟨solidSecond, Bool.eq_false_iff.mpr starts⟩
        rw [if_pos goes]
        simp [starts, solidCount, wordNumber, extendFirst]
  | cons c later ih =>
      by_cases separates : isSeparator c = true
      · have uncounted : solidCount (c :: later) = solidCount later := by
          simp [solidCount, separates]
        rw [List.cons_append, words, if_pos separates, uncounted]
        exact ih
      · have solid : isSeparator c = false := Bool.eq_false_iff.mpr separates
        have counted : solidCount (c :: later) = solidCount later + 1 := by
          simp [solidCount, solid]
        obtain ⟨shift, shifted⟩ := exists_wordNumber_cons solid (later ++ a :: b :: back)
        rw [List.cons_append, counted, shifted, shifted, ← ih]
        simp

/-- Two neighbours that are no separators stand side by side in the words as well. -/
theorem getElem?_flatten_words :
    (words (front ++ a :: b :: back)).flatten[solidCount front]? = some a ∧
      (words (front ++ a :: b :: back)).flatten[solidCount front + 1]? = some b := by
  have kept : (words (front ++ a :: b :: back)).flatten =
      (front.filter fun c => !isSeparator c) ++ a :: b :: back.filter fun c => !isSeparator c := by
    rw [flatten_words, List.filter_append, List.filter_cons_of_pos (by simp [solidFirst]),
      List.filter_cons_of_pos (by simp [solidSecond])]
  rw [kept, solidCount]
  simp

end Neighbours

theorem startsWord_iff {before c : Char} {after? : Option Char} :
    startsWord before c after? = true ↔
      (isLowercase before = true ∧ isUppercase c = true) ∨
        (isAlphabetic before = true ∧ isNumeric c = true) ∨
        (isNumeric before = true ∧ isAlphabetic c = true) ∨
        isUppercase before = true ∧ isUppercase c = true ∧
          ∃ after, after? = some after ∧ isLowercase after = true := by
  simp only [startsWord, Bool.or_eq_true, Bool.and_eq_true, Option.any_eq_true]
  tauto

theorem isSeparator_eq_false_iff {c : Char} :
    isSeparator c = false ↔ c ≠ ' ' ∧ c ≠ '_' ∧ c ≠ '-' ∧ c ≠ '.' := by
  simp [isSeparator, and_assoc]

/-- The words of a text are not empty and hold all of it but the separators, in order. Two
neighbours that are no separators, the characters at a position of the words and at the next,
are parted exactly where a word starts, which they and the character after them decide.
Reading from left to right finds these words. -/
theorem words_cut_at_boundaries (name : String) :
    let text := trim name.toList
    let found := words text
    (∀ word ∈ found, word ≠ [] ∧ ∀ c ∈ word, c ≠ ' ' ∧ c ≠ '_' ∧ c ≠ '-' ∧ c ≠ '.') ∧
      found.flatten = (text.filter fun c => !isSeparator c) ∧
      (∀ front a b back, text = front ++ a :: b :: back →
        isSeparator a = false → isSeparator b = false →
        let position := solidCount front
        found.flatten[position]? = some a ∧ found.flatten[position + 1]? = some b ∧
          (wordNumber found position ≠ wordNumber found (position + 1) ↔
            (isLowercase a = true ∧ isUppercase b = true) ∨
              (isAlphabetic a = true ∧ isNumeric b = true) ∨
              (isNumeric a = true ∧ isAlphabetic b = true) ∨
              isUppercase a = true ∧ isUppercase b = true ∧
                ∃ next, back.head? = some next ∧ isLowercase next = true)) ∧
      readWords [] text = found := by
  intro text found
  refine ⟨fun word member => ?_, flatten_words text, ?_, readWords_eq_words text⟩
  · obtain ⟨nonempty, solid⟩ := isWord_of_mem_words member
    exact ⟨nonempty, fun c inWord => isSeparator_eq_false_iff.mp (solid c inWord)⟩
  · intro front a b back split solidFirst solidSecond position
    obtain ⟨first, second⟩ := getElem?_flatten_words solidFirst solidSecond front back
    have parted := wordNumber_ne_iff solidFirst solidSecond front back
    rw [← split] at first second parted
    exact ⟨first, second, parted.trans startsWord_iff⟩

/-- White space around the text, two separators in a row, an acronym that ends within a word,
letters beyond ASCII and a numeral that is a letter as well. -/
theorem words_cut_at_boundaries_mixed :
    let name := "\u00a0ABcÄ -Ⅷx\t"
    let found := words (trim name.toList)
    trim name.toList = ['A'] ++ 'B' :: 'c' :: "Ä -Ⅷx".toList ∧
      found = [['A'], ['B', 'c'], ['Ä'], ['Ⅷ'], ['x']] ∧
      wordNumber found 1 = wordNumber found 2 ∧ wordNumber found 0 ≠ wordNumber found 1 := by
  intro name found
  have inside : trim name.toList = ['A'] ++ 'B' :: 'c' :: "Ä -Ⅷx".toList := by decide
  have start : trim name.toList = [] ++ 'A' :: 'B' :: "cÄ -Ⅷx".toList := by decide
  obtain ⟨_, _, parted, _⟩ := words_cut_at_boundaries name
  refine ⟨inside, by decide +kernel, ?_, ?_⟩
  · have joined := (parted _ _ _ _ inside (by decide) (by decide)).2.2
    exact not_not.mp fun differ => absurd (joined.mp differ) (by decide)
  · exact (parted _ _ _ _ start (by decide) (by decide)).2.2.mpr
      (.inr (.inr (.inr ⟨by decide, by decide, 'c', rfl, by decide⟩)))

end ProtoSchema.Identifier
