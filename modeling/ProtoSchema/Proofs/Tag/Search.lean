import ProtoSchema.Proofs.Tag.Grammar

/-!
# Searching a tag for pairs

The entries of a tag can also be found in two passes: one tells whether the tag has the form
at all, and one goes through it from the left, takes each pair where it begins and passes
over every other character. In a tag of the right form the second pass passes over white
space alone, so both ways give the same entries. The main result says what the language of
tags is, read in either way.
-/

namespace ProtoSchema.Tag

open Text

variable {key key' text rest rest' gap : List Char} {value value' : List Quotation.Item}
  {entries entries' : List Entry} {c : Char}

/-- The entries of the pairs that a search from the left finds. -/
inductive Finds : List Char → List Entry → Prop where
  | nil : Finds [] []
  | pair {key rest : List Char} {entries : List Entry} (value : List Quotation.Item)
      (isKey : IsKey key) (later : Finds rest entries) :
      Finds (pairBefore key value rest) (Entry.ofValue key (Quotation.content value) :: entries)
  | skip {c : Char} {rest : List Char} {entries : List Entry}
      (noPair : ∀ key value behind, IsKey key → c :: rest ≠ pairBefore key value behind)
      (later : Finds rest entries) : Finds (c :: rest) entries

/-! ## One result -/

theorem pairBefore_ne_nil (key : List Char) (value : List Quotation.Item) (rest : List Char) :
    pairBefore key value rest ≠ [] :=
  List.append_ne_nil_of_right_ne_nil _ (List.cons_ne_nil _ _)

/-- A search finds nothing else in the same text. -/
theorem Finds.unique (finds : Finds text entries) (finds' : Finds text entries') :
    entries = entries' := by
  induction finds generalizing entries' with
  | nil =>
      generalize isText : [] = text at finds'
      cases finds' with
      | nil => rfl
      | pair => exact absurd isText.symm (pairBefore_ne_nil _ _ _)
      | skip => exact absurd isText nofun
  | pair value isKey _ ih =>
      generalize isText : pairBefore _ value _ = text at finds'
      cases finds' with
      | nil => exact absurd isText (pairBefore_ne_nil _ _ _)
      | pair value' isKey' later' =>
          obtain ⟨rfl, rfl, rfl⟩ := pairBefore_inj isKey isKey' isText
          rw [ih later']
      | skip noPair => exact absurd isText.symm (noPair _ _ _ isKey)
  | skip noPair _ ih =>
      generalize isText : _ :: _ = text at finds'
      cases finds' with
      | nil => exact absurd isText nofun
      | pair _ isKey' => exact absurd isText (noPair _ _ _ isKey')
      | skip _ later' =>
          obtain ⟨rfl, rfl⟩ := List.cons.inj isText
          exact ih later'

/-- A search finds something in every text. -/
theorem exists_finds (text : List Char) : ∃ entries, Finds text entries := by
  -- The search goes on behind a pair, so the induction is on the length.
  induction size : text.length using Nat.strongRecOn generalizing text with
  | ind length ih =>
      by_cases begins : ∃ key value rest, IsKey key ∧ text = pairBefore key value rest
      · obtain ⟨key, value, rest, isKey, rfl⟩ := begins
        have shorter : rest.length < length := size ▸ length_lt_length_pairBefore key value rest
        obtain ⟨entries, later⟩ := ih rest.length shorter rest rfl
        exact ⟨_, .pair value isKey later⟩
      · cases text with
        | nil => exact ⟨[], .nil⟩
        | cons c rest =>
            have shorter : rest.length < length := size ▸ Nat.lt_succ_self rest.length
            obtain ⟨entries, later⟩ := ih rest.length shorter rest rfl
            refine ⟨entries, .skip ?_ later⟩
            intro key value behind isKey same
            exact begins ⟨key, value, behind, isKey, same⟩

theorem existsUnique_finds (text : List Char) : ∃! entries, Finds text entries := by
  obtain ⟨entries, finds⟩ := exists_finds text
  exact ⟨entries, finds, fun _ finds' => finds'.unique finds⟩

/-! ## Searching a layout -/

theorem ne_pairBefore_of_isWhiteSpace (white : isWhiteSpace c = true) (isKey : IsKey key) :
    c :: rest ≠ pairBefore key value rest' := by
  intro same
  obtain ⟨d, others, rfl⟩ := List.exists_cons_of_ne_nil isKey.1
  have solid := (isKey.2 d List.mem_cons_self).1
  rw [← List.head_eq_of_cons_eq same, white] at solid
  contradiction

theorem finds_gap (blank : IsBlank gap) (later : Finds rest entries) :
    Finds (gap ++ rest) entries := by
  induction gap with
  | nil => exact later
  | cons c gap ih =>
      rw [IsBlank, List.forall_mem_cons] at blank
      exact .skip (fun _ _ _ => ne_pairBefore_of_isWhiteSpace blank.1) (ih blank.2)

theorem finds_layout (layout : Layout) : Finds layout.text (layout.pairs.map Pair.entry) := by
  obtain ⟨gap, pairs, blank⟩ := layout
  refine finds_gap blank ?_
  induction pairs with
  | nil => exact .nil
  | cons pair pairs ih =>
      rw [List.flatMap_cons, Pair.text_append]
      exact .pair pair.value pair.isKey (finds_gap pair.isBlank ih)

/-- A tag is read as the two passes read it. -/
theorem parse?_eq_some_iff_finds {tag : String} :
    parse? tag = some entries ↔
      (∃ layout : Layout, layout.text = tag.toList) ∧ Finds tag.toList entries := by
  rw [parse?_eq_some_iff_exists_layout]
  constructor
  · rintro ⟨layout, isText, rfl⟩
    rw [← isText]
    exact ⟨⟨layout, rfl⟩, finds_layout layout⟩
  · rintro ⟨⟨layout, isText⟩, finds⟩
    rw [← isText] at finds
    exact ⟨layout, isText, (finds_layout layout).unique finds⟩

/-! ## The language of tags -/

/-- A tag is read exactly if it has a layout, and then it has no other one and each pair of
it gives the entry in its place. A search for pairs finds one list of entries in every
text, and those of a tag if the text is that of a tag. The wire name is that of the first
entry with the key `json`, unless it is empty or a dash; and written entries are read
back. -/
theorem parse?_eq_some_iff :
    (∀ tag entries, parse? tag = some entries ↔
        ∃ layout : Layout, layout.text = tag.toList ∧
          List.Forall₂ Pair.Gives layout.pairs entries) ∧
      (∀ first second : Layout, first.text = second.text → first = second) ∧
      (∀ tag entries, parse? tag = some entries ↔
        (∃ layout : Layout, layout.text = tag.toList) ∧ Finds tag.toList entries) ∧
      (∀ text, ∃! entries, Finds text entries) ∧
      (∀ tag name, jsonName? tag = some name ↔
        ∃ before entry after, parse? tag = some (before ++ entry :: after) ∧
          (∀ earlier ∈ before, earlier.key ≠ "json") ∧ entry.key = "json" ∧
            entry.name = name ∧ name ≠ "" ∧ name ≠ "-") ∧
      ∀ gap entries, IsBlank gap → (∀ entry ∈ entries, entry.IsWritable) →
        parse? (render gap entries) = some entries := by
  refine ⟨?_, Layout.text_injective, fun _ _ => parse?_eq_some_iff_finds,
    existsUnique_finds, fun _ _ => jsonName?_eq_some_iff, fun _ _ => parse?_render⟩
  intro tag entries
  simp only [forall₂_gives_iff]
  exact parse?_eq_some_iff_exists_layout

/-- Adjacent pairs, white space at both ends, an escaped quote, a line break and a comma that
an escape produces. -/
theorem parse?_eq_some_iff_adjacent :
    let layout : Layout :=
      { gap := ['\t']
        pairs :=
          [{ key := "json".toList
             value := [.plain 'a' (by decide), .escaped '"' (by decide), .escaped ',' (by decide)]
             gap := []
             isKey := by decide
             isBlank := by decide },
            { key := ['x']
              value := [.plain '\n' (by decide)]
              gap := [' ']
              isKey := by decide
              isBlank := by decide }]
        isBlank := by decide }
    let entries : List Entry := [⟨"json", "a\"", [""]⟩, ⟨"x", "\n", []⟩]
    layout.text = "\tjson:\"a\\\"\\,\"x:\"\n\" ".toList ∧
      List.Forall₂ Pair.Gives layout.pairs entries ∧
      parse? "\tjson:\"a\\\"\\,\"x:\"\n\" " = some entries ∧
      Finds "\tjson:\"a\\\"\\,\"x:\"\n\" ".toList entries ∧
      jsonName? "\tjson:\"a\\\"\\,\"x:\"\n\" " = some "a\"" ∧
      IsBlank [] ∧ (∀ entry ∈ entries, entry.IsWritable) ∧
      parse? (render [] entries) = some entries := by
  intro layout entries
  have isText : layout.text = "\tjson:\"a\\\"\\,\"x:\"\n\" ".toList := by decide
  have gives : List.Forall₂ Pair.Gives layout.pairs entries :=
    forall₂_gives_iff.mpr (by decide)
  have blank : IsBlank [] := by decide
  have writable : ∀ entry ∈ entries, entry.IsWritable := by decide
  obtain ⟨read, _, searched, _, named, readsBack⟩ := parse?_eq_some_iff
  have accepted := (read _ entries).mpr ⟨layout, isText, gives⟩
  have finds := ((searched _ entries).mp accepted).2
  have wireName := (named _ "a\"").mpr
    ⟨[], entries[0], entries.tail, accepted, List.forall_mem_nil _, rfl, rfl, by decide, by decide⟩
  exact ⟨isText, gives, accepted, finds, wireName, blank, writable,
    readsBack [] entries blank writable⟩

end ProtoSchema.Tag
