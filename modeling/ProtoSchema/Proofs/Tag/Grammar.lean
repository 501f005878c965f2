import ProtoSchema.Proofs.Text.Cutting
import ProtoSchema.Proofs.Text.Pieces
import ProtoSchema.Proofs.Text.Quotation
import ProtoSchema.Proofs.Text.Trim
import ProtoSchema.Tag

/-!
# The grammar of member tags

A tag is a sequence of pairs, each a key, a colon and a quoted value, with white space
around them but not inside. Gaps, keys and values each end where their characters do, so a
tag is taken apart in one way only. The reader goes through a tag once and accepts exactly
the tags of this form, with one entry for each pair.
-/

namespace ProtoSchema.Tag

open Text

/-! ## Layouts -/

/-- A key is not empty, and none of its characters is white space, a colon or a quote. -/
def IsKey (text : List Char) : Prop :=
  text ≠ [] ∧ ∀ c ∈ text, isWhiteSpace c = false ∧ c ≠ ':' ∧ c ≠ '"'

-- The second part goes through the text. Left to be found, the instance might go through all
-- characters.
instance (text : List Char) : Decidable (IsKey text) :=
  @instDecidableAnd _ _ inferInstance
    (List.decidableBAll (fun c => isWhiteSpace c = false ∧ c ≠ ':' ∧ c ≠ '"') text)

/-- A pair of a tag, with the white space behind it. -/
@[ext]
structure Pair where
  key : List Char
  value : List Quotation.Item
  gap : List Char
  isKey : IsKey key
  isBlank : IsBlank gap

/-- The text of a pair. -/
def Pair.text (pair : Pair) : List Char :=
  pair.key ++ ':' :: '"' :: (Quotation.text pair.value ++ '"' :: pair.gap)

/-- The entry has the pair's key, and its name and options are the pieces of the value
between commas. -/
def Pair.Gives (pair : Pair) (entry : Entry) : Prop :=
  entry.key = String.ofList pair.key ∧
    entry.name :: entry.options =
      ((Quotation.content pair.value).splitOn ',').map String.ofList

/-- The parts of a tag, with the white space in front of them. -/
@[ext]
structure Layout where
  gap : List Char
  pairs : List Pair
  isBlank : IsBlank gap

/-- The text of a tag. -/
def Layout.text (layout : Layout) : List Char :=
  layout.gap ++ layout.pairs.flatMap Pair.text

/-! ## Written entries -/

/-- The key is one, and no comma is in the name or in an option. -/
def Entry.IsWritable (entry : Entry) : Prop :=
  IsKey entry.key.toList ∧ ∀ text ∈ entry.name :: entry.options, ',' ∉ text.toList

instance (entry : Entry) : Decidable entry.IsWritable :=
  inferInstanceAs (Decidable (_ ∧ ∀ text ∈ entry.name :: entry.options, ',' ∉ text.toList))

/-- The name and the options of an entry, joined by commas. -/
def Entry.value (entry : Entry) : List Char :=
  [','].intercalate ((entry.name :: entry.options).map String.toList)

/-- An entry as a key and a quoted value. -/
def Entry.text (entry : Entry) : List Char :=
  entry.key.toList ++ ':' :: '"' :: (Quotation.escape entry.value ++ ['"'])

/-- The tag of some entries, with the same gap between any two of them. -/
def render (gap : List Char) (entries : List Entry) : String :=
  String.ofList (gap.intercalate (entries.map Entry.text))

/-! ## Entries -/

/-- The entry that the reader makes of a pair. -/
def Pair.entry (pair : Pair) : Entry :=
  Entry.ofValue pair.key (Quotation.content pair.value)

theorem name_cons_options_ofValue (key value : List Char) :
    (Entry.ofValue key value).name :: (Entry.ofValue key value).options =
      (value.splitOn ',').map String.ofList := by
  unfold Entry.ofValue
  rw [pieces_eq_splitOn]
  cases split : value.splitOn ',' with
  | nil => exact absurd split (List.splitOn_ne_nil _ _)
  | cons name options => rfl

/-- An entry is its key and its texts. -/
theorem Entry.eq_iff {first second : Entry} :
    first = second ↔
      first.key = second.key ∧ first.name :: first.options = second.name :: second.options := by
  obtain ⟨key, name, options⟩ := first
  obtain ⟨key', name', options'⟩ := second
  simp

theorem Pair.gives_iff {pair : Pair} {entry : Entry} :
    pair.Gives entry ↔ pair.entry = entry := by
  rw [Entry.eq_iff, Pair.entry, name_cons_options_ofValue]
  exact and_congr eq_comm eq_comm

theorem forall₂_gives_iff {pairs : List Pair} {entries : List Entry} :
    List.Forall₂ Pair.Gives pairs entries ↔ pairs.map Pair.entry = entries := by
  have givesEq : Pair.Gives = fun pair entry => pair.entry = entry :=
    funext₂ fun _ _ => propext Pair.gives_iff
  rw [givesEq, ← List.forall₂_map_left_iff, List.forall₂_eq_eq_eq]

/-! ## Pairs -/

variable {key key' before text rest rest' gap : List Char} {value value' : List Quotation.Item}
  {entries : List Entry}

/-- A key, a colon and a quoted value, in front of the rest of a text. -/
def pairBefore (key : List Char) (value : List Quotation.Item) (rest : List Char) : List Char :=
  key ++ ':' :: '"' :: (Quotation.text value ++ '"' :: rest)

theorem Pair.text_append (pair : Pair) (rest : List Char) :
    pair.text ++ rest = pairBefore pair.key pair.value (pair.gap ++ rest) := by
  simp [text, pairBefore]

theorem length_lt_length_pairBefore (key : List Char) (value : List Quotation.Item)
    (rest : List Char) : rest.length < (pairBefore key value rest).length := by
  simp only [pairBefore, List.length_append, List.length_cons]
  omega

/-- A key ends at its colon and a value at its quote. -/
theorem pairBefore_inj (isKey : IsKey key) (isKey' : IsKey key')
    (same : pairBefore key value rest = pairBefore key' value' rest') :
    key = key' ∧ value = value' ∧ rest = rest' := by
  have noColon : ':' ∉ key := fun member => (isKey.2 _ member).2.1 rfl
  have noColon' : ':' ∉ key' := fun member => (isKey'.2 _ member).2.1 rfl
  obtain ⟨keyEq, afterKey⟩ := append_cons_inj_of_not_mem noColon noColon' same
  obtain ⟨valueEq, restEq⟩ :=
    Quotation.text_append_quote_inj (List.tail_eq_of_cons_eq afterKey)
  exact ⟨keyEq, valueEq, restEq⟩

/-! ## Reading the parts -/

theorem endsKey_eq_false_iff {c : Char} :
    endsKey c = false ↔ isWhiteSpace c = false ∧ c ≠ ':' ∧ c ≠ '"' := by
  simp [endsKey, and_assoc]

theorem readFrom_gap (blank : IsBlank gap) (rest : List Char) :
    readFrom .between (gap ++ rest) = readFrom .between rest := by
  induction gap with
  | nil => rfl
  | cons c gap ih =>
      rw [IsBlank, List.forall_mem_cons] at blank
      rw [List.cons_append, readFrom, if_pos blank.1, ih blank.2]

theorem readFrom_inKey (inside : ∀ c ∈ key, endsKey c = false) (before rest : List Char) :
    readFrom (.inKey before) (key ++ ':' :: rest) =
      readFrom (.afterColon (key.reverse ++ before)) rest := by
  induction key generalizing before with
  | nil => rw [List.nil_append, readFrom, if_pos rfl, List.reverse_nil, List.nil_append]
  | cons c key ih =>
      rw [List.forall_mem_cons] at inside
      have noColon := (endsKey_eq_false_iff.mp inside.1).2.1
      rw [List.cons_append, readFrom, if_neg noColon, inside.1, if_neg Bool.false_ne_true,
        ih inside.2, List.reverse_cons, List.append_assoc, List.singleton_append]

theorem readFrom_value (key before : List Char) (value : List Quotation.Item)
    (rest : List Char) :
    readFrom (.inValue key before) (Quotation.text value ++ '"' :: rest) =
      (readFrom .between rest).map
        (Entry.ofValue key.reverse (before.reverse ++ Quotation.content value) :: ·) := by
  induction value generalizing before with
  | nil =>
      rw [Quotation.text_nil, List.nil_append, readFrom, if_pos rfl, Quotation.content_nil,
        List.append_nil]
  | cons item value ih =>
      have next : readFrom (.inValue key before)
          (Quotation.text (item :: value) ++ '"' :: rest) =
            readFrom (.inValue key (item.content :: before))
              (Quotation.text value ++ '"' :: rest) := by
        rw [Quotation.text_cons, List.append_assoc]
        cases item with
        | plain c unmarked =>
            exact (readFrom.eq_def _ _).trans
              ((if_neg unmarked.1).trans (if_neg unmarked.2))
        | escaped c sameLine =>
            rw [Quotation.Item.text, List.cons_append, List.singleton_append, readFrom,
              if_neg (by decide), if_pos rfl, readFrom, if_neg sameLine]
            rfl
      rw [next, ih, List.reverse_cons, List.append_assoc, List.singleton_append,
        Quotation.content_cons]

theorem readFrom_pair (isKey : IsKey key) (value : List Quotation.Item) (rest : List Char) :
    readFrom .between (pairBefore key value rest) =
      (readFrom .between rest).map (Entry.ofValue key (Quotation.content value) :: ·) := by
  obtain ⟨nonempty, characters⟩ := isKey
  obtain ⟨c, key, rfl⟩ := List.exists_cons_of_ne_nil nonempty
  rw [List.forall_mem_cons] at characters
  have inside : ∀ c ∈ key, endsKey c = false :=
    fun c member => endsKey_eq_false_iff.mpr (characters.2 c member)
  have opened : readFrom .between (pairBefore (c :: key) value rest) =
      readFrom (.inKey [c]) (pairBefore key value rest) := by
    rw [pairBefore, List.cons_append, readFrom, characters.1.1, if_neg Bool.false_ne_true,
      endsKey_eq_false_iff.mpr characters.1, if_neg Bool.false_ne_true, pairBefore]
  rw [opened, pairBefore, readFrom_inKey inside, readFrom, if_pos rfl, readFrom_value,
    List.reverse_append, List.reverse_reverse, List.reverse_nil, List.nil_append,
    List.reverse_singleton, List.singleton_append]

theorem readFrom_layout (layout : Layout) :
    readFrom .between layout.text = some (layout.pairs.map Pair.entry) := by
  obtain ⟨gap, pairs, blank⟩ := layout
  rw [Layout.text, readFrom_gap blank]
  induction pairs with
  | nil => rfl
  | cons pair pairs ih =>
      rw [List.flatMap_cons, Pair.text_append, readFrom_pair pair.isKey,
        readFrom_gap pair.isBlank, ih, List.map_cons, Option.map_some]
      rfl

/-! ## Finding the parts -/

theorem exists_value {key : List Char} : ∀ {text before : List Char},
    readFrom (.inValue key before) text = some entries →
      ∃ value rest, text = Quotation.text value ++ '"' :: rest
  | [], _, accepted => by contradiction
  | c :: rest, before, accepted => by
    rw [readFrom] at accepted
    split at accepted
    · rename_i quote
      exact ⟨[], rest, by rw [quote, Quotation.text_nil, List.nil_append]⟩
    · rename_i noQuote
      split at accepted
      · rename_i backslash
        cases rest with
        | nil => contradiction
        | cons d rest =>
            rw [readFrom] at accepted
            split at accepted
            · contradiction
            · rename_i sameLine
              obtain ⟨value, later, split⟩ := exists_value accepted
              exact ⟨.escaped d sameLine :: value, later, by rw [backslash, split]; rfl⟩
      · rename_i noBackslash
        obtain ⟨value, later, split⟩ := exists_value accepted
        exact ⟨.plain c ⟨noQuote, noBackslash⟩ :: value, later, by rw [split]; rfl⟩

theorem exists_key (accepted : readFrom (.inKey before) text = some entries) :
    ∃ key rest, text = key ++ ':' :: '"' :: rest ∧ ∀ c ∈ key, endsKey c = false := by
  induction text generalizing before with
  | nil => contradiction
  | cons c rest ih =>
      rw [readFrom] at accepted
      split at accepted
      · rename_i colon
        cases rest with
        | nil => contradiction
        | cons d rest =>
            rw [readFrom] at accepted
            split at accepted
            · rename_i quote
              exact ⟨[], rest, by rw [colon, quote, List.nil_append], List.forall_mem_nil _⟩
            · contradiction
      · split at accepted
        · contradiction
        · rename_i inside
          obtain ⟨key, later, split, insideKey⟩ := ih accepted
          exact ⟨c :: key, later, by rw [split, List.cons_append],
            List.forall_mem_cons.mpr ⟨Bool.eq_false_iff.mpr inside, insideKey⟩⟩

/-- A text that is read to its end begins with a pair, unless it is blank. -/
theorem exists_pair (accepted : readFrom .between text = some entries) :
    IsBlank text ∨ ∃ gap key value rest later, IsBlank gap ∧ IsKey key ∧
      text = gap ++ pairBefore key value rest ∧
        readFrom .between rest = some later := by
  induction text with
  | nil => exact .inl (List.forall_mem_nil _)
  | cons c rest ih =>
      rw [readFrom] at accepted
      split at accepted
      · rename_i white
        rcases ih accepted with blank | ⟨gap, key, value, later, others, blank, isKey, split, read⟩
        · exact .inl (List.forall_mem_cons.mpr ⟨white, blank⟩)
        · exact .inr ⟨c :: gap, key, value, later, others,
            List.forall_mem_cons.mpr ⟨white, blank⟩, isKey, by rw [split, List.cons_append], read⟩
      · split at accepted
        · contradiction
        · rename_i inside
          obtain ⟨key, later, rfl, insideKey⟩ := exists_key accepted
          rw [readFrom_inKey insideKey, readFrom, if_pos rfl] at accepted
          obtain ⟨value, later, rfl⟩ := exists_value accepted
          rw [readFrom_value, Option.map_eq_some_iff] at accepted
          obtain ⟨others, read, _⟩ := accepted
          have isKey : IsKey (c :: key) :=
            ⟨List.cons_ne_nil _ _, List.forall_mem_cons.mpr
              ⟨endsKey_eq_false_iff.mp (Bool.eq_false_iff.mpr inside),
                fun c member => endsKey_eq_false_iff.mp (insideKey c member)⟩⟩
          exact .inr ⟨[], c :: key, value, later, others, List.forall_mem_nil _, isKey, rfl, read⟩

/-- A text that is read to its end has a layout. -/
theorem exists_layout (accepted : readFrom .between text = some entries) :
    ∃ layout : Layout, layout.text = text := by
  -- What follows a pair is read to its end too, so the induction is on the length.
  induction size : text.length using Nat.strongRecOn generalizing text entries with
  | ind length ih =>
      rcases exists_pair accepted with
        blank | ⟨gap, key, value, rest, later, blank, isKey, rfl, read⟩
      · exact ⟨⟨text, [], blank⟩, List.append_nil text⟩
      · have shorter : rest.length < length := by
          rw [← size, List.length_append]
          exact Nat.lt_add_left _ (length_lt_length_pairBefore key value rest)
        obtain ⟨⟨restGap, pairs, restBlank⟩, rfl⟩ := ih rest.length shorter read rfl
        refine ⟨⟨gap, ⟨key, value, restGap, isKey, restBlank⟩ :: pairs, blank⟩, ?_⟩
        simp [Layout.text, Pair.text, pairBefore]

/-! ## One layout -/

theorem Pair.exists_text_eq_cons (pair : Pair) :
    ∃ c rest, pair.text = c :: rest ∧ isWhiteSpace c = false := by
  obtain ⟨c, key, isCons⟩ := List.exists_cons_of_ne_nil pair.isKey.1
  exact ⟨c, _, by rw [text, isCons, List.cons_append],
    (pair.isKey.2 c (isCons ▸ List.mem_cons_self)).1⟩

/-- White space ends where the pairs begin. -/
theorem not_isWhiteSpace_of_mem_head? {pairs : List Pair} :
    ∀ c ∈ (pairs.flatMap Pair.text).head?, ¬isWhiteSpace c = true := by
  cases pairs with
  | nil => simp
  | cons pair pairs =>
      obtain ⟨c, rest, isCons, solid⟩ := pair.exists_text_eq_cons
      simp [isCons, solid]

variable {pair pair' : Pair}

/-- White space ends where it stops. -/
theorem Pair.text_append_inj (stops : ∀ c ∈ rest.head?, ¬isWhiteSpace c = true)
    (stops' : ∀ c ∈ rest'.head?, ¬isWhiteSpace c = true)
    (same : pair.text ++ rest = pair'.text ++ rest') : pair = pair' ∧ rest = rest' := by
  rw [text_append, text_append] at same
  obtain ⟨keyEq, valueEq, afterValue⟩ := pairBefore_inj pair.isKey pair'.isKey same
  obtain ⟨gapEq, restEq⟩ :=
    append_inj_of_stops pair.isBlank pair'.isBlank stops stops' afterValue
  exact ⟨Pair.ext keyEq valueEq gapEq, restEq⟩

theorem flatMap_text_inj {first second : List Pair}
    (same : first.flatMap Pair.text = second.flatMap Pair.text) : first = second := by
  induction first generalizing second with
  | nil =>
      cases second with
      | nil => rfl
      | cons pair pairs =>
          obtain ⟨c, rest, isCons, _⟩ := pair.exists_text_eq_cons
          simp [isCons] at same
  | cons pair pairs ih =>
      cases second with
      | nil =>
          obtain ⟨c, rest, isCons, _⟩ := pair.exists_text_eq_cons
          simp [isCons] at same
      | cons pair' pairs' =>
          obtain ⟨rfl, rests⟩ := Pair.text_append_inj not_isWhiteSpace_of_mem_head?
            not_isWhiteSpace_of_mem_head? same
          rw [ih rests]

/-- A tag has one layout only. -/
theorem Layout.text_injective : Function.Injective Layout.text := by
  intro first second same
  obtain ⟨gapEq, pairTexts⟩ := append_inj_of_stops first.isBlank second.isBlank
    not_isWhiteSpace_of_mem_head? not_isWhiteSpace_of_mem_head? same
  exact Layout.ext gapEq (flatMap_text_inj pairTexts)

/-- A tag is read exactly if it has a layout, with one entry for each of its pairs. -/
theorem parse?_eq_some_iff_exists_layout {tag : String} :
    parse? tag = some entries ↔
      ∃ layout : Layout, layout.text = tag.toList ∧ layout.pairs.map Pair.entry = entries := by
  constructor
  · intro accepted
    obtain ⟨layout, isText⟩ := exists_layout accepted
    have read := readFrom_layout layout
    rw [isText] at read
    exact ⟨layout, isText, Option.some.inj (read.symm.trans accepted)⟩
  · rintro ⟨layout, isText, rfl⟩
    rw [parse?, ← isText, readFrom_layout]

/-! ## Reading written entries -/

theorem Entry.ofValue_value {entry : Entry} (writable : entry.IsWritable) :
    ofValue entry.key.toList entry.value = entry := by
  have noComma : ∀ piece ∈ (entry.name :: entry.options).map String.toList, ',' ∉ piece := by
    intro piece member
    obtain ⟨text, listed, rfl⟩ := List.mem_map.mp member
    exact writable.2 text listed
  rw [Entry.eq_iff, name_cons_options_ofValue, value,
    List.splitOn_intercalate ',' noComma (by simp), List.map_map]
  refine ⟨String.ofList_toList, ?_⟩
  simp only [Function.comp_def, String.ofList_toList, List.map_id']

theorem readFrom_entry {entry : Entry} (writable : entry.IsWritable) (rest : List Char) :
    readFrom .between (entry.text ++ rest) = (readFrom .between rest).map (entry :: ·) := by
  have read := readFrom_pair writable.1 (entry.value.map .ofChar) rest
  rw [pairBefore, Quotation.text_map_ofChar, Quotation.content_map_ofChar,
    Entry.ofValue_value writable] at read
  simpa [Entry.text] using read

theorem parse?_render (blank : IsBlank gap) (writable : ∀ entry ∈ entries, entry.IsWritable) :
    parse? (render gap entries) = some entries := by
  rw [parse?, render, String.toList_ofList]
  induction entries with
  | nil => rfl
  | cons entry entries ih =>
      rw [List.forall_mem_cons] at writable
      have read := ih writable.2
      cases entries with
      | nil =>
          rw [List.map_singleton, List.intercalate_singleton, ← List.append_nil entry.text,
            readFrom_entry writable.1]
          rfl
      | cons next entries =>
          rw [List.map_cons, List.map_cons, List.intercalate_cons_cons, List.append_assoc,
            readFrom_entry writable.1, readFrom_gap blank, ← List.map_cons, read]
          rfl

/-! ## Wire names -/

theorem jsonName?_eq_some_iff {tag name : String} :
    jsonName? tag = some name ↔
      ∃ before entry after, parse? tag = some (before ++ entry :: after) ∧
        (∀ earlier ∈ before, earlier.key ≠ "json") ∧ entry.key = "json" ∧ entry.name = name ∧
          name ≠ "" ∧ name ≠ "-" := by
  constructor
  · intro found
    obtain ⟨entries, parsed, found⟩ := Option.bind_eq_some_iff.mp found
    obtain ⟨entry, chosen, named⟩ := Option.bind_eq_some_iff.mp found
    obtain ⟨isJson, before, after, rfl, earlier⟩ := List.find?_eq_some_iff_append.mp chosen
    split at named
    · contradiction
    · rename_i proper
      obtain rfl := Option.some.inj named
      simp only [Bool.or_eq_true, beq_iff_eq, not_or] at proper
      exact ⟨before, entry, after, parsed, fun other member => by simpa using earlier other member,
        by simpa using isJson, rfl, proper⟩
  · rintro ⟨before, entry, after, parsed, earlier, isJson, rfl, nonempty, notDash⟩
    have chosen : (before ++ entry :: after).find? (·.key == "json") = some entry :=
      List.find?_eq_some_iff_append.mpr
        ⟨by simpa using isJson, before, after, rfl, by simpa using earlier⟩
    simp [jsonName?, parsed, chosen, nonempty, notDash]

end ProtoSchema.Tag
