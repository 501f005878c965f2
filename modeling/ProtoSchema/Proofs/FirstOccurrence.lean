import Mathlib.Data.List.Induction
import Mathlib.Data.List.Nodup

/-!
# First occurrences

A catalog counts a struct once for each signature and an import once for each
package. Both keep the first element of every key of a list, in the order of the
list; with the element itself as the key this is `List.eraseDups`. A run extends
its list at the end, so the laws here say what one more element changes.
-/

namespace ProtoSchema

universe u v

variable {α : Type u} {κ : Type v} [BEq κ] [LawfulBEq κ]

/-- The elements of a list whose key no earlier element has. -/
def firstOf (key : α → κ) (list : List α) : List α :=
  list.eraseDupsBy fun a b => key a == key b

omit [LawfulBEq κ] in
@[simp]
theorem firstOf_nil (key : α → κ) : firstOf key [] = [] :=
  rfl

omit [LawfulBEq κ] in
theorem firstOf_cons (key : α → κ) (head : α) (rest : List α) :
    firstOf key (head :: rest) =
      head :: firstOf key (rest.filter fun later => (key later == key head) = false) :=
  List.eraseDupsBy_cons

omit [LawfulBEq κ] in
theorem eraseDups_eq_firstOf (list : List κ) : list.eraseDups = firstOf id list :=
  rfl

/-- One more element is dropped exactly if its key occurs before it. -/
theorem firstOf_concat (key : α → κ) (list : List α) (last : α) :
    firstOf key (list ++ [last]) =
      if key last ∈ list.map key then firstOf key list else firstOf key list ++ [last] := by
  -- `firstOf` recurs on a filtered tail, so the induction is on the length.
  induction size : list.length using Nat.strongRecOn generalizing list with
  | ind _ ih =>
      cases list with
      | nil => simp [firstOf_cons]
      | cons head rest =>
          let later := rest.filter fun element => (key element == key head) = false
          have shorter : later.length < (head :: rest).length :=
            Nat.lt_succ_of_le (List.length_filter_le _ _)
          rw [List.cons_append, firstOf_cons, firstOf_cons, List.filter_append, List.map_cons]
          by_cases same : key last = key head
          · simp [same]
          · have lastStays : ([last].filter fun element => (key element == key head) = false) =
                [last] := by
              simp [same]
            have sameKeys : key last ∈ later.map key ↔ key last ∈ rest.map key := by
              simp only [later, List.mem_map, List.mem_filter]
              constructor
              · rintro ⟨element, ⟨member, _⟩, equal⟩
                exact ⟨element, member, equal⟩
              · rintro ⟨element, member, equal⟩
                exact ⟨element, ⟨member, by simpa [equal] using same⟩, equal⟩
            rw [lastStays, ih later.length (size ▸ shorter) later rfl]
            by_cases earlier : key last ∈ rest.map key
            · rw [if_pos (sameKeys.mpr earlier), if_pos (List.mem_cons_of_mem _ earlier)]
            · rw [if_neg (mt sameKeys.mp earlier), if_neg (by simpa [same] using earlier)]
              rfl

theorem firstOf_concat_of_mem {key : α → κ} {list : List α} {last : α}
    (earlier : key last ∈ list.map key) : firstOf key (list ++ [last]) = firstOf key list := by
  rw [firstOf_concat, if_pos earlier]

theorem firstOf_concat_of_not_mem {key : α → κ} {list : List α} {last : α}
    (fresh : key last ∉ list.map key) :
    firstOf key (list ++ [last]) = firstOf key list ++ [last] := by
  rw [firstOf_concat, if_neg fresh]

theorem firstOf_sublist (key : α → κ) (list : List α) : (firstOf key list).Sublist list := by
  induction list using List.reverseRecOn with
  | nil => exact List.Sublist.slnil
  | append_singleton list last ih =>
      by_cases earlier : key last ∈ list.map key
      · rw [firstOf_concat_of_mem earlier]
        exact ih.trans (List.sublist_append_left _ _)
      · rw [firstOf_concat_of_not_mem earlier]
        exact ih.append_right [last]

/-- What is kept has one element for each key. -/
theorem map_firstOf_nodup (key : α → κ) (list : List α) :
    ((firstOf key list).map key).Nodup := by
  induction list using List.reverseRecOn with
  | nil => simp
  | append_singleton list last ih =>
      by_cases earlier : key last ∈ list.map key
      · rwa [firstOf_concat_of_mem earlier]
      · have fresh : key last ∉ (firstOf key list).map key :=
          fun kept => earlier (((firstOf_sublist key list).map key).subset kept)
        rw [firstOf_concat_of_not_mem earlier, List.map_append, List.map_singleton,
          ← List.concat_eq_append]
        exact ih.concat fresh

/-- A list without repeated keys is kept whole. -/
theorem firstOf_eq_self {key : α → κ} {list : List α} (distinct : (list.map key).Nodup) :
    firstOf key list = list := by
  induction list using List.reverseRecOn with
  | nil => rfl
  | append_singleton list last ih =>
      rw [List.map_append, List.map_singleton, ← List.concat_eq_append,
        List.nodup_concat] at distinct
      rw [firstOf_concat_of_not_mem distinct.1, ih distinct.2]

/-- An element stays in its place exactly if its key does not occur before it. -/
theorem exists_firstOf_append_cons (key : α → κ) (before : List α) (element : α)
    (after : List α) :
    ∃ early late, early.Sublist before ∧ late.Sublist after ∧
      firstOf key (before ++ element :: after) =
        early ++ (if key element ∈ before.map key then [] else [element]) ++ late := by
  induction after using List.reverseRecOn with
  | nil =>
      refine ⟨firstOf key before, [], firstOf_sublist key before, List.Sublist.slnil, ?_⟩
      rw [firstOf_concat]
      split <;> simp
  | append_singleton after last ih =>
      obtain ⟨early, late, earlySub, lateSub, split⟩ := ih
      rw [← List.cons_append, ← List.append_assoc, firstOf_concat, split]
      by_cases repeated : key last ∈ (before ++ element :: after).map key
      · exact ⟨early, late, earlySub, lateSub.trans (List.sublist_append_left _ _),
          if_pos repeated⟩
      · refine ⟨early, late ++ [last], earlySub, lateSub.append_right [last], ?_⟩
        rw [if_neg repeated, List.append_assoc]

theorem eraseDups_concat (list : List κ) (last : κ) :
    (list ++ [last]).eraseDups =
      if last ∈ list then list.eraseDups else list.eraseDups ++ [last] := by
  simpa [eraseDups_eq_firstOf] using firstOf_concat id list last

theorem nodup_eraseDups (list : List κ) : list.eraseDups.Nodup := by
  simpa [eraseDups_eq_firstOf] using map_firstOf_nodup id list

/-- The elements of a source, each once and in the order in which they first occur. -/
structure ListsFirst (list source : List κ) : Prop where
  nodup : list.Nodup
  mem_iff : ∀ element, element ∈ list ↔ element ∈ source
  ordered : list.Pairwise fun earlier later => source.idxOf earlier < source.idxOf later

theorem pairwise_idxOf_eraseDups (source : List κ) :
    source.eraseDups.Pairwise fun earlier later =>
      source.idxOf earlier < source.idxOf later := by
  rw [eraseDups_eq_firstOf]
  induction source using List.reverseRecOn with
  | nil => exact List.Pairwise.nil
  | append_singleton source last ih =>
      have inSource : ∀ element ∈ firstOf id source, element ∈ source :=
        fun _ kept => (firstOf_sublist id source).subset kept
      -- What was there before keeps its place.
      have shifted : (firstOf id source).Pairwise fun earlier later =>
          (source ++ [last]).idxOf earlier < (source ++ [last]).idxOf later := by
        refine ih.imp_of_mem fun keptEarlier keptLater before => ?_
        rwa [List.idxOf_append_of_mem (inSource _ keptEarlier),
          List.idxOf_append_of_mem (inSource _ keptLater)]
      by_cases earlier : last ∈ source
      · rwa [firstOf_concat_of_mem (by simpa using earlier)]
      · rw [firstOf_concat_of_not_mem (by simpa using earlier), List.pairwise_append]
        refine ⟨shifted, List.pairwise_singleton _ _, ?_⟩
        intro element kept element' isLast
        obtain rfl := List.mem_singleton.mp isLast
        rw [List.idxOf_append_of_mem (inSource element kept),
          List.idxOf_append_of_notMem earlier]
        exact Nat.lt_add_right _ (List.idxOf_lt_length_of_mem (inSource element kept))

theorem listsFirst_eraseDups (source : List κ) : ListsFirst source.eraseDups source where
  nodup := nodup_eraseDups source
  mem_iff _ := List.mem_eraseDups
  ordered := pairwise_idxOf_eraseDups source

omit [LawfulBEq κ] in
/-- The first occurrences of a source can be listed in one way only. -/
theorem ListsFirst.unique {first second source : List κ} (isFirst : ListsFirst first source)
    (isSecond : ListsFirst second source) : first = second := by
  have same : first.Perm second := by
    rw [List.perm_ext_iff_of_nodup isFirst.nodup isSecond.nodup]
    exact fun element => (isFirst.mem_iff element).trans (isSecond.mem_iff element).symm
  refine same.eq_of_pairwise ?_ isFirst.ordered isSecond.ordered
  exact fun _ _ _ _ before after => absurd after (Nat.lt_asymm before)

end ProtoSchema
