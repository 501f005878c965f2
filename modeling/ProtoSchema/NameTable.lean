/-!
# Name tables

A table assigns values to names and lists them in code point order of the names,
so that two tables with the same content are equal whatever the order in which
they were filled.
-/

namespace ProtoSchema

universe u

/-- Values by name, in increasing order of the names. -/
structure NameTable (α : Type u) where
  entries : List (String × α)
  increasing : entries.Pairwise fun a b => a.1 < b.1

namespace NameTable

variable {α : Type u}

/-- Put a value into a sorted list of entries, in place of the one that has the
same name. -/
def insertEntry (name : String) (value : α) : List (String × α) → List (String × α)
  | [] => [(name, value)]
  | entry :: rest =>
    if name < entry.1 then (name, value) :: entry :: rest
    else if name = entry.1 then (name, value) :: rest
    else entry :: insertEntry name value rest

theorem mem_insertEntry {name : String} {value : α} {entry : String × α}
    {entries : List (String × α)} (member : entry ∈ insertEntry name value entries) :
    entry = (name, value) ∨ entry ∈ entries := by
  induction entries with
  | nil => simpa [insertEntry] using member
  | cons head rest ih =>
    rw [insertEntry] at member
    split at member
    · simpa using member
    · split at member
      · rcases List.mem_cons.1 member with same | inRest
        · exact .inl same
        · exact .inr (List.mem_cons_of_mem _ inRest)
      · rcases List.mem_cons.1 member with same | inRest
        · exact .inr (same ▸ List.mem_cons_self)
        · exact (ih inRest).imp_right (List.mem_cons_of_mem _)

theorem pairwise_insertEntry (name : String) (value : α) {entries : List (String × α)}
    (increasing : entries.Pairwise fun a b => a.1 < b.1) :
    (insertEntry name value entries).Pairwise fun a b => a.1 < b.1 := by
  induction entries with
  | nil => simp [insertEntry]
  | cons head rest ih =>
    have aboveHead : ∀ {entry}, entry ∈ rest → head.1 < entry.1 :=
      List.rel_of_pairwise_cons increasing
    rw [insertEntry]
    split
    · rename_i below
      refine .cons (fun entry member => ?_) increasing
      rcases List.mem_cons.1 member with same | inRest
      · exact same ▸ below
      · exact String.lt_trans below (aboveHead inRest)
    · split
      · rename_i same
        exact .cons (fun entry member => same ▸ aboveHead member) increasing.of_cons
      · rename_i notBelow different
        have above : head.1 < name :=
          (String.le_total name head.1).elim
            (fun le => (different (String.le_antisymm le (String.not_lt.1 notBelow))).elim)
            (fun le => Classical.byContradiction fun notAbove =>
              different (String.le_antisymm (String.not_lt.1 notAbove) le))
        refine .cons (fun entry member => ?_) (ih increasing.of_cons)
        rcases mem_insertEntry member with same | inRest
        · exact same ▸ above
        · exact aboveHead inRest

/-- The table without entries. -/
def empty : NameTable α where
  entries := []
  increasing := .nil

/-- The value of a name. -/
def find? (table : NameTable α) (name : String) : Option α :=
  table.entries.lookup name

/-- Whether a name has a value. -/
def contains (table : NameTable α) (name : String) : Bool :=
  (table.find? name).isSome

/-- Give a name a value, in place of the one it has. -/
def insert (table : NameTable α) (name : String) (value : α) : NameTable α where
  entries := insertEntry name value table.entries
  increasing := pairwise_insertEntry name value table.increasing

/-- Change every value and keep the names. -/
def mapValues (table : NameTable α) (change : α → α) : NameTable α where
  entries := table.entries.map fun entry => (entry.1, change entry.2)
  increasing := table.increasing.map _ fun _ _ less => less

/-- The values in order of their names. -/
def values (table : NameTable α) : List α :=
  table.entries.map (·.2)

/-- The number of entries. -/
def size (table : NameTable α) : Nat :=
  table.entries.length

end NameTable

end ProtoSchema
