import Mathlib.Data.List.Perm.Basic
import Mathlib.Data.List.Nodup
import ProtoSchema.NameTable

/-!
# Laws of name tables

A table is its look-up function: `find?` determines the entries, because their
names are strictly increasing. The laws say what each operation does to
`find?`, so that a proof about the content of a table never opens its entries.
-/

namespace ProtoSchema.NameTable

universe u v

variable {α : Type u} {β : Type v}

theorem lookup_cons_eq_ite (name : String) (value : α) (rest : List (String × α))
    (asked : String) :
    ((name, value) :: rest).lookup asked =
      if asked = name then some value else rest.lookup asked := by
  rw [List.lookup_cons]
  by_cases same : asked = name
  · simp [same]
  · have differs : (asked == name) = false := beq_eq_false_iff_ne.mpr same
    rw [differs, if_neg same]

/-- In increasing entries a name has at most the one value that stands there. -/
theorem lookup_eq_some_iff_mem {entries : List (String × α)}
    (increasing : entries.Pairwise fun a b => a.1 < b.1) {name : String} {value : α} :
    entries.lookup name = some value ↔ (name, value) ∈ entries := by
  induction entries with
  | nil => simp
  | cons head rest ih =>
      obtain ⟨headName, headValue⟩ := head
      have aboveHead : ∀ {entry}, entry ∈ rest → headName < entry.1 :=
        List.rel_of_pairwise_cons increasing
      rw [lookup_cons_eq_ite, List.mem_cons, Prod.mk.injEq]
      by_cases same : name = headName
      · subst same
        have notLater : (name, value) ∉ rest :=
          fun member => String.lt_irrefl _ (aboveHead member)
        simp [notLater, eq_comm]
      · rw [if_neg same, ih increasing.of_cons]
        simp [same]

@[simp]
theorem find?_empty (name : String) : (empty : NameTable α).find? name = none :=
  rfl

theorem lookup_insertEntry (name : String) (value : α) (entries : List (String × α))
    (asked : String) :
    (insertEntry name value entries).lookup asked =
      if asked = name then some value else entries.lookup asked := by
  induction entries with
  | nil => exact lookup_cons_eq_ite name value [] asked
  | cons head rest ih =>
      obtain ⟨headName, headValue⟩ := head
      rw [insertEntry]
      split
      · exact lookup_cons_eq_ite name value _ asked
      · split
        · rename_i same
          change name = headName at same
          subst same
          rw [lookup_cons_eq_ite, lookup_cons_eq_ite]
          split <;> rfl
        · rename_i different
          rw [lookup_cons_eq_ite, lookup_cons_eq_ite, ih]
          by_cases asksHead : asked = headName
          · subst asksHead
            rw [if_pos rfl, if_pos rfl, if_neg (Ne.symm different)]
          · rw [if_neg asksHead, if_neg asksHead]

@[simp]
theorem find?_insert (table : NameTable α) (name : String) (value : α) (asked : String) :
    (table.insert name value).find? asked =
      if asked = name then some value else table.find? asked :=
  lookup_insertEntry name value table.entries asked

theorem lookup_map_values (view : α → β) (entries : List (String × α)) (asked : String) :
    (entries.map fun entry => (entry.1, view entry.2)).lookup asked =
      (entries.lookup asked).map view := by
  induction entries with
  | nil => rfl
  | cons head rest ih =>
      obtain ⟨headName, headValue⟩ := head
      rw [List.map_cons, lookup_cons_eq_ite, lookup_cons_eq_ite, ih]
      split <;> rfl

@[simp]
theorem find?_mapValues (table : NameTable α) (change : α → α) (asked : String) :
    (table.mapValues change).find? asked = (table.find? asked).map change :=
  lookup_map_values change table.entries asked

/-- Increasing entries with the same look-ups are equal. -/
theorem entries_eq_of_lookup {first second : List (String × α)}
    (firstIncreasing : first.Pairwise fun a b => a.1 < b.1)
    (secondIncreasing : second.Pairwise fun a b => a.1 < b.1)
    (same : ∀ name, first.lookup name = second.lookup name) : first = second := by
  have distinct : ∀ {entries : List (String × α)},
      entries.Pairwise (fun a b => a.1 < b.1) → entries.Nodup := by
    intro entries increasing
    apply increasing.imp
    rintro a b less rfl
    exact String.lt_irrefl _ less
  have perm : first.Perm second := by
    rw [List.perm_ext_iff_of_nodup (distinct firstIncreasing) (distinct secondIncreasing)]
    rintro ⟨name, value⟩
    rw [← lookup_eq_some_iff_mem firstIncreasing, ← lookup_eq_some_iff_mem secondIncreasing, same]
  exact perm.eq_of_pairwise
    (fun _ _ _ _ less greater => (String.lt_asymm less greater).elim)
    firstIncreasing secondIncreasing

/-- Tables whose look-ups look the same have entries that look the same. -/
theorem map_entries_eq_of_find? {first second : NameTable α} (view : α → β)
    (same : ∀ name, (first.find? name).map view = (second.find? name).map view) :
    first.entries.map (fun entry => (entry.1, view entry.2)) =
      second.entries.map fun entry => (entry.1, view entry.2) := by
  apply entries_eq_of_lookup
  · exact List.pairwise_map.mpr first.increasing
  · exact List.pairwise_map.mpr second.increasing
  · intro name
    rw [lookup_map_values, lookup_map_values]
    exact same name

/-- A table is determined by its look-ups. -/
theorem ext_find? {first second : NameTable α}
    (same : ∀ name, first.find? name = second.find? name) : first = second := by
  have entriesEq := entries_eq_of_lookup first.increasing second.increasing same
  cases first
  cases second
  cases entriesEq
  rfl

theorem mem_values_iff {table : NameTable α} {value : α} :
    value ∈ table.values ↔ ∃ name, table.find? name = some value := by
  simp only [values, find?, List.mem_map, lookup_eq_some_iff_mem table.increasing]
  constructor
  · rintro ⟨entry, member, rfl⟩
    exact ⟨entry.1, member⟩
  · rintro ⟨name, member⟩
    exact ⟨(name, value), member, rfl⟩

theorem values_mapValues (table : NameTable α) (change : α → α) :
    (table.mapValues change).values = table.values.map change := by
  rw [values, values, mapValues, List.map_map, List.map_map]
  rfl

@[simp]
theorem mapValues_insert (table : NameTable α) (name : String) (value : α) (change : α → α) :
    (table.insert name value).mapValues change =
      (table.mapValues change).insert name (change value) := by
  apply ext_find?
  intro asked
  simp only [find?_mapValues, find?_insert]
  split <;> rfl

/-- Tables that a change makes equal are made equal with entries under a further name that
it makes equal. -/
theorem mapValues_insert_eq {change : α → α} {first second : NameTable α}
    (same : first.mapValues change = second.mapValues change) (name : String) {a b : α}
    (sameValue : change a = change b) :
    (first.insert name a).mapValues change = (second.insert name b).mapValues change := by
  rw [mapValues_insert, mapValues_insert, same, sameValue]

theorem mapValues_mapValues {change : α → α}
    (idempotent : ∀ value, change (change value) = change value) (table : NameTable α) :
    (table.mapValues change).mapValues change = table.mapValues change := by
  apply ext_find?
  intro asked
  cases found : table.find? asked <;> simp [found, idempotent]

end ProtoSchema.NameTable
