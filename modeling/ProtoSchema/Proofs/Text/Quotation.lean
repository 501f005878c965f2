import Mathlib.Data.List.Basic

/-!
# Quoted texts

Between double quotes a text is written in items: a character that stands for itself, or a
backslash in front of a character that is taken literally. The first quote that no item
holds ends the text, so quoted texts are read in one way only. A text is its own writing
exactly if it needs no backslash.
-/

namespace ProtoSchema.Quotation

/-- What is written for one character between quotes. A backslash takes any character of
its line. -/
inductive Item where
  | plain (c : Char) (unmarked : c ≠ '"' ∧ c ≠ '\\')
  | escaped (c : Char) (sameLine : c ≠ '\n')

/-- What is written for the character. -/
def Item.text : Item → List Char
  | .plain c _ => [c]
  | .escaped c _ => ['\\', c]

/-- The character itself. -/
def Item.content : Item → Char
  | .plain c _ => c
  | .escaped c _ => c

/-- What stands between the quotes. -/
def text (items : List Item) : List Char :=
  items.flatMap Item.text

/-- The quoted characters. -/
def content (items : List Item) : List Char :=
  items.map Item.content

@[simp]
theorem text_nil : text [] = [] :=
  rfl

@[simp]
theorem text_cons (item : Item) (items : List Item) :
    text (item :: items) = item.text ++ text items :=
  rfl

@[simp]
theorem content_nil : content [] = [] :=
  rfl

@[simp]
theorem content_cons (item : Item) (items : List Item) :
    content (item :: items) = item.content :: content items :=
  rfl

variable {first second : List Item} {firstRest secondRest chars : List Char}

/-- No item is written with a quote in front. -/
theorem Item.text_append_ne (item : Item) (rest : List Char) :
    item.text ++ rest ≠ '"' :: firstRest := by
  intro same
  cases item with
  | plain c unmarked => exact unmarked.1 (List.head_eq_of_cons_eq same)
  | escaped c _ => exact absurd (List.head_eq_of_cons_eq same) (by decide)

/-- A backslash in front tells an escaped character from a plain one. -/
theorem Item.text_append_inj {item item' : Item}
    (same : item.text ++ firstRest = item'.text ++ secondRest) :
    item = item' ∧ firstRest = secondRest := by
  cases item with
  | plain c unmarked =>
      cases item' with
      | plain c' _ =>
          obtain ⟨rfl, rests⟩ := List.cons.inj same
          exact ⟨rfl, rests⟩
      | escaped c' _ => exact absurd (List.head_eq_of_cons_eq same) unmarked.2
  | escaped c _ =>
      cases item' with
      | plain c' unmarked => exact absurd (List.head_eq_of_cons_eq same).symm unmarked.2
      | escaped c' _ =>
          obtain ⟨rfl, rests⟩ := List.cons.inj (List.tail_eq_of_cons_eq same)
          exact ⟨rfl, rests⟩

/-- At the quote that ends them, equal quoted texts are cut alike. -/
theorem text_append_quote_inj
    (same : text first ++ '"' :: firstRest = text second ++ '"' :: secondRest) :
    first = second ∧ firstRest = secondRest := by
  induction first generalizing second with
  | nil =>
      cases second with
      | nil => exact ⟨rfl, List.tail_eq_of_cons_eq same⟩
      | cons item items =>
          rw [text_cons, List.append_assoc] at same
          exact absurd same.symm (item.text_append_ne _)
  | cons item items ih =>
      rw [text_cons, List.append_assoc] at same
      cases second with
      | nil => exact absurd same (item.text_append_ne _)
      | cons item' items' =>
          rw [text_cons, List.append_assoc] at same
          obtain ⟨rfl, rests⟩ := Item.text_append_inj same
          obtain ⟨rfl, restEq⟩ := ih rests
          exact ⟨rfl, restEq⟩

/-- A character that is quoted is written. -/
theorem mem_text_of_mem_content {items : List Item} {c : Char} (member : c ∈ content items) :
    c ∈ text items := by
  obtain ⟨item, listed, rfl⟩ := List.mem_map.mp member
  refine List.mem_flatMap.mpr ⟨item, listed, ?_⟩
  cases item <;> simp [Item.text, Item.content]

/-! ## Writing -/

/-- The item that a character is written as, with a backslash only where one is needed. -/
def Item.ofChar (c : Char) : Item :=
  if special : c = '"' ∨ c = '\\' then
    .escaped c (by rcases special with rfl | rfl <;> decide)
  else .plain c (not_or.mp special)

/-- A text with its quotes and backslashes escaped. -/
def escape (chars : List Char) : List Char :=
  chars.flatMap fun c => if c = '"' ∨ c = '\\' then ['\\', c] else [c]

@[simp]
theorem Item.content_ofChar (c : Char) : (ofChar c).content = c := by
  unfold ofChar
  split <;> rfl

theorem Item.text_ofChar (c : Char) :
    (ofChar c).text = if c = '"' ∨ c = '\\' then ['\\', c] else [c] := by
  unfold ofChar
  split <;> rfl

theorem text_map_ofChar (chars : List Char) : text (chars.map Item.ofChar) = escape chars := by
  simp only [text, escape, List.flatMap_map, Item.text_ofChar]

theorem content_map_ofChar (chars : List Char) : content (chars.map Item.ofChar) = chars := by
  simp [content, Function.comp_def]

theorem escape_eq_self (noQuote : '"' ∉ chars) (noBackslash : '\\' ∉ chars) :
    escape chars = chars := by
  have plain : ∀ c ∈ chars, (if c = '"' ∨ c = '\\' then ['\\', c] else [c]) = [c] := by
    intro c member
    refine if_neg (not_or.mpr ⟨?_, ?_⟩)
    · exact ne_of_mem_of_not_mem member noQuote
    · exact ne_of_mem_of_not_mem member noBackslash
  rw [escape, List.flatMap_congr plain, List.flatMap_singleton']

/-- Writing makes no text shorter. -/
theorem length_content_le (items : List Item) :
    (content items).length ≤ (text items).length := by
  induction items with
  | nil => exact Nat.le_refl 0
  | cons item items ih =>
      rw [content_cons, text_cons, List.length_cons, List.length_append]
      cases item <;> simp only [Item.text, List.length_cons, List.length_nil] <;> omega

/-- A backslash makes a text longer, so a text that is its own writing has none, and no
quote either. -/
theorem not_mem_of_text_eq_content {items : List Item} (same : text items = content items) :
    '"' ∉ content items ∧ '\\' ∉ content items := by
  induction items with
  | nil => simp
  | cons item items ih =>
      cases item with
      | plain c unmarked =>
          have rest := ih (List.tail_eq_of_cons_eq same)
          simp only [content_cons, Item.content, List.mem_cons, not_or]
          exact ⟨⟨unmarked.1.symm, rest.1⟩, ⟨unmarked.2.symm, rest.2⟩⟩
      | escaped c _ =>
          have lengths := congrArg List.length same
          have longer := length_content_le items
          simp only [text_cons, content_cons, Item.text, List.length_cons, List.length_append,
            List.length_nil] at lengths
          omega

/-- A text can stand between quotes as it is exactly if it has no quote and no backslash. -/
theorem exists_text_eq_content_iff :
    (∃ items, text items = chars ∧ content items = chars) ↔ '"' ∉ chars ∧ '\\' ∉ chars := by
  constructor
  · rintro ⟨items, written, rfl⟩
    exact not_mem_of_text_eq_content written
  · rintro ⟨noQuote, noBackslash⟩
    exact ⟨chars.map Item.ofChar,
      (text_map_ofChar chars).trans (escape_eq_self noQuote noBackslash),
      content_map_ofChar chars⟩

end ProtoSchema.Quotation
