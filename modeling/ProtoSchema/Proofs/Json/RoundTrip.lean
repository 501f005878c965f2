import ProtoSchema.Json.Reading
import ProtoSchema.Proofs.Json.Lexing
import ProtoSchema.Proofs.Json.Syntax

/-!
# Reading written JSON

The tokens of data are read as the outline that has the data's own structure, and the
outline is read back as the data itself, if the data does not nest deeper than the levels
that are left. How deep data nests shows in its text as the greatest number of brackets and
braces that are open at once.
-/

namespace ProtoSchema.Json

open Outline

/-! ## Outlines -/

mutual

/-- The outline of data. A number has that of its text. -/
def outlineOf : Data → Outline
  | .null => .null
  | .bool value => .bool value
  | .number value => (Outline.ofText (number value)).1
  | .text value => .text (piecesOf value)
  | .list items => .list (itemOutlines items) .closed
  | .record members => .record (memberOutlines members) .closed

/-- The outlines of items. -/
def itemOutlines : List Data → List Outline
  | [] => []
  | item :: items => outlineOf item :: itemOutlines items

/-- The outlines of members. -/
def memberOutlines : List (Key × Data) → List OutlineMember
  | [] => []
  | (key, value) :: members =>
    .mk (.text (piecesOf (keyText key))) (outlineOf value) :: memberOutlines members

end

theorem itemOutlines_eq_map (items : List Data) : itemOutlines items = items.map outlineOf := by
  induction items with
  | nil => rw [itemOutlines, List.map_nil]
  | cons item items ih => rw [itemOutlines, ih, List.map_cons]

theorem memberOutlines_eq_members (entries : List (Key × Data)) :
    memberOutlines entries =
      members (entries.map fun (key, value) => (piecesOf (keyText key), outlineOf value)) := by
  induction entries with
  | nil =>
      rw [memberOutlines]
      rfl
  | cons pair entries ih =>
      obtain ⟨key, value⟩ := pair
      rw [memberOutlines, ih]
      rfl

/-- In the outline of data nothing is cut off. -/
theorem isComplete_outlineOf {data : Data} (plain : data.IsPlain) :
    (outlineOf data).IsComplete := by
  induction plain with
  | null =>
      rw [outlineOf]
      exact .null
  | bool value =>
      rw [outlineOf]
      exact .bool value
  | text value =>
      rw [outlineOf]
      exact .text _
  | list plain ih =>
      rw [outlineOf, itemOutlines_eq_map]
      exact .list (List.forall_mem_map.mpr ih)
  | record named plain ih =>
      rw [outlineOf, memberOutlines_eq_members]
      exact .record (List.forall_mem_map.mpr ih)

theorem laterItemTokens_eq {items : List Data}
    (same : ∀ item ∈ items, tokensOf item = (outlineOf item).tokens) :
    laterItemTokens items = (itemTokens (itemOutlines items)).flatMap (.comma :: ·) := by
  induction items with
  | nil => rw [laterItemTokens, itemOutlines, itemTokens, List.flatMap_nil]
  | cons item items ih =>
      obtain ⟨first, others⟩ := List.forall_mem_cons.mp same
      rw [laterItemTokens, itemOutlines, itemTokens, List.flatMap_cons, first, ih others]
      rfl

theorem laterMemberTokens_eq {entries : List (Key × Data)}
    (same : ∀ pair ∈ entries, tokensOf pair.2 = (outlineOf pair.2).tokens) :
    laterMemberTokens entries =
      (memberTokens (memberOutlines entries)).flatMap (.comma :: ·) := by
  induction entries with
  | nil => rw [laterMemberTokens, memberOutlines, memberTokens, List.flatMap_nil]
  | cons pair entries ih =>
      obtain ⟨key, value⟩ := pair
      obtain ⟨first, others⟩ := List.forall_mem_cons.mp same
      rw [laterMemberTokens, memberOutlines, memberTokens, List.flatMap_cons, first, ih others]
      rfl

/-- The tokens of data are those of its outline. -/
theorem tokensOf_eq {data : Data} (plain : data.IsPlain) :
    tokensOf data = (outlineOf data).tokens := by
  induction plain with
  | null | bool | text => rw [tokensOf, outlineOf, Outline.tokens]
  | @list items plain ih =>
      cases items with
      | nil =>
          rw [tokensOf, outlineOf, Outline.tokens, itemOutlines, itemTokens]
          rfl
      | cons item items =>
          obtain ⟨first, others⟩ := List.forall_mem_cons.mp ih
          rw [tokensOf, outlineOf, Outline.tokens, itemOutlines, itemTokens, joined_cons, first,
            laterItemTokens_eq others]
  | @record entries named plain ih =>
      cases entries with
      | nil =>
          rw [tokensOf, outlineOf, Outline.tokens, memberOutlines, memberTokens]
          rfl
      | cons pair entries =>
          obtain ⟨key, value⟩ := pair
          obtain ⟨first, others⟩ := List.forall_mem_cons.mp ih
          rw [tokensOf, outlineOf, Outline.tokens, memberOutlines, memberTokens, joined_cons, first,
            laterMemberTokens_eq others]
          rfl

/-- The outline of a laid out text is that of its data, and nothing follows it. -/
theorem ofText_pretty {data : Data} (plain : data.IsPlain) :
    Outline.ofText (pretty data) = (outlineOf data, false) := by
  rw [Outline.ofText, readFrom_eq_iff (isComplete_outlineOf plain), tokens_pretty plain,
    tokensOf_eq plain]

/-! ## Nesting -/

mutual

/-- The number of lists and records around the innermost parts of data. -/
def depthOf : Data → Nat
  | .list items => itemsDepth items + 1
  | .record members => membersDepth members + 1
  | _ => 0

/-- The greatest depth of items. -/
def itemsDepth : List Data → Nat
  | [] => 0
  | item :: items => max (depthOf item) (itemsDepth items)

/-- The greatest depth of members. -/
def membersDepth : List (Key × Data) → Nat
  | [] => 0
  | (_, value) :: members => max (depthOf value) (membersDepth members)

end

/-- The brackets and braces that are open after a token. -/
def openAfter (isOpen : Nat) : Token → Nat
  | .openList | .openRecord => isOpen + 1
  | .closeList | .closeRecord => isOpen - 1
  | _ => isOpen

/-- The greatest number of brackets and braces that are open at once, from a number of
open ones. -/
def nestingFrom (isOpen : Nat) : List Token → Nat
  | [] => isOpen
  | token :: rest => max isOpen (nestingFrom (openAfter isOpen token) rest)

/-- The greatest number of brackets and braces that are open at once in a text. -/
def nesting (text : String) : Nat :=
  nestingFrom 0 (tokens text)

theorem le_nestingFrom (isOpen : Nat) (list : List Token) : isOpen ≤ nestingFrom isOpen list := by
  cases list with
  | nil => exact Nat.le_refl _
  | cons token rest => exact Nat.le_max_left _ _

/-- Within a text, data opens as many brackets as it is deep and closes them again. -/
def Nests (data : Data) : Prop :=
  ∀ isOpen rest, nestingFrom isOpen (tokensOf data ++ rest) =
    max (isOpen + depthOf data) (nestingFrom isOpen rest)

theorem nestingFrom_laterItems {items : List Data} (nests : ∀ item ∈ items, Nests item)
    (isOpen : Nat) (rest : List Token) :
    nestingFrom isOpen (laterItemTokens items ++ rest) =
      max (isOpen + itemsDepth items) (nestingFrom isOpen rest) := by
  have atLeast := le_nestingFrom isOpen rest
  induction items with
  | nil =>
      rw [laterItemTokens, itemsDepth, List.nil_append]
      omega
  | cons item items ih =>
      obtain ⟨first, others⟩ := List.forall_mem_cons.mp nests
      rw [laterItemTokens, itemsDepth]
      simp only [List.cons_append, List.append_assoc, nestingFrom, openAfter, first _, ih others]
      omega

theorem nestingFrom_laterMembers {members : List (Key × Data)}
    (nests : ∀ member ∈ members, Nests member.2) (isOpen : Nat) (rest : List Token) :
    nestingFrom isOpen (laterMemberTokens members ++ rest) =
      max (isOpen + membersDepth members) (nestingFrom isOpen rest) := by
  have atLeast := le_nestingFrom isOpen rest
  induction members with
  | nil =>
      rw [laterMemberTokens, membersDepth, List.nil_append]
      omega
  | cons member members ih =>
      obtain ⟨key, value⟩ := member
      obtain ⟨first, others⟩ := List.forall_mem_cons.mp nests
      rw [laterMemberTokens, membersDepth]
      simp only [keyTokens, List.cons_append, List.nil_append, List.append_assoc, nestingFrom,
        openAfter, first _, ih others]
      omega

theorem nests_of_isPlain {data : Data} (plain : data.IsPlain) : Nests data := by
  induction plain with
  | null | bool | text =>
      intro isOpen rest
      simp [tokensOf, depthOf, nestingFrom, openAfter]
  | @list items plain ih =>
      intro isOpen rest
      have atLeast := le_nestingFrom isOpen rest
      cases items with
      | nil =>
          rw [tokensOf, depthOf, itemsDepth]
          simp only [List.cons_append, List.nil_append, nestingFrom, openAfter, Nat.add_sub_cancel]
          omega
      | cons item items =>
          obtain ⟨first, others⟩ := List.forall_mem_cons.mp ih
          rw [tokensOf, depthOf, itemsDepth]
          simp only [List.cons_append, List.nil_append, List.append_assoc, nestingFrom, openAfter,
            first _, nestingFrom_laterItems others, Nat.add_sub_cancel]
          omega
  | @record members named plain ih =>
      intro isOpen rest
      have atLeast := le_nestingFrom isOpen rest
      cases members with
      | nil =>
          rw [tokensOf, depthOf, membersDepth]
          simp only [List.cons_append, List.nil_append, nestingFrom, openAfter, Nat.add_sub_cancel]
          omega
      | cons member members =>
          obtain ⟨key, value⟩ := member
          obtain ⟨first, others⟩ := List.forall_mem_cons.mp ih
          rw [tokensOf, depthOf, membersDepth]
          simp only [keyTokens, List.cons_append, List.nil_append, List.append_assoc, nestingFrom,
            openAfter, first _, nestingFrom_laterMembers others, Nat.add_sub_cancel]
          omega

/-- A laid out text nests as deep as its data. -/
theorem nesting_pretty {data : Data} (plain : data.IsPlain) :
    nesting (pretty data) = depthOf data := by
  have nests := nests_of_isPlain plain 0 []
  rw [List.append_nil] at nests
  rw [nesting, tokens_pretty plain, nests, nestingFrom]
  omega

/-! ## Reading in full -/

@[simp]
theorem textOf_piecesOf (text : String) : textOf (piecesOf text) = .ok text := by
  rw [textOf, piecesOf, decode?_map_pieceOf]
  simp

/-- A value of some depth, taken from a text with a number of levels left. -/
def within {α : Type} (depth levels : Nat) (value : α) : Result α :=
  if depth ≤ levels then .ok value else .error .malformed

theorem within_succ {α : Type} (depth levels : Nat) (value : α) :
    within (depth + 1) (levels + 1) value = within depth levels value := by
  simp [within]

theorem within_map {α β : Type} (depth levels : Nat) (value : α) (f : α → β) :
    (do return f (← within depth levels value)) = within depth levels (f value) := by
  unfold within
  split <;> rfl

/-- A value that is made on the way to another one counts for the depth of both. -/
theorem within_bind {α β : Type} (first second levels : Nat) (value : α) (f : α → β) :
    (within first levels value >>= fun value => within second levels (f value)) =
      within (max first second) levels (f value) := by
  unfold within
  by_cases shallow : first ≤ levels
  · by_cases shallow' : second ≤ levels
    · rw [if_pos shallow, if_pos (Nat.max_le.mpr ⟨shallow, shallow'⟩)]
      exact if_pos shallow'
    · rw [if_pos shallow, if_neg fun both => shallow' (Nat.max_le.mp both).2]
      exact if_neg shallow'
  · rw [if_neg shallow, if_neg fun both => shallow (Nat.max_le.mp both).1]
    rfl

/-- Data is read back from its outline if the levels that are left are enough for it. -/
def ReadsBack (data : Data) : Prop :=
  ∀ levels, (outlineOf data).toData levels = within (depthOf data) levels data

theorem itemsToData_itemOutlines {items : List Data} (readsBack : ∀ item ∈ items, ReadsBack item)
    (levels : Nat) :
    itemsToData levels (itemOutlines items) = within (itemsDepth items) levels items := by
  induction items with
  | nil =>
      rw [itemOutlines, itemsToData, itemsDepth]
      rfl
  | cons item items ih =>
      obtain ⟨first, others⟩ := List.forall_mem_cons.mp readsBack
      rw [itemOutlines, itemsToData, itemsDepth, first, ih others]
      simp only [within_map, within_bind]

theorem membersToData_memberOutlines {members : List (Key × Data)}
    (named : ∀ member ∈ members, ∃ name, member.1 = .name name)
    (readsBack : ∀ member ∈ members, ReadsBack member.2) (levels : Nat) :
    membersToData levels (memberOutlines members) =
      within (membersDepth members) levels members := by
  induction members with
  | nil =>
      rw [memberOutlines, membersToData, membersDepth]
      rfl
  | cons member members ih =>
      obtain ⟨key, value⟩ := member
      obtain ⟨⟨name, rfl⟩, othersNamed⟩ := List.forall_mem_cons.mp named
      obtain ⟨first, others⟩ := List.forall_mem_cons.mp readsBack
      rw [memberOutlines, membersToData, membersDepth, OutlineKey.wanted, keyText, textOf_piecesOf,
        first, ih othersNamed others]
      simp only [within_map, within_bind]
      rfl

theorem readsBack_of_isPlain {data : Data} (plain : data.IsPlain) : ReadsBack data := by
  induction plain with
  | null | bool =>
      intro levels
      rw [outlineOf, toData]
      simp [depthOf, within]
  | text value =>
      intro levels
      rw [outlineOf, toData, textOf_piecesOf]
      simp only [depthOf, within, Nat.zero_le, if_true]
      rfl
  | @list items plain ih =>
      intro levels
      rw [outlineOf, toData, depthOf]
      cases levels with
      | zero => rfl
      | succ levels =>
          rw [if_neg (Nat.succ_ne_zero levels), Nat.add_sub_cancel, itemsToData_itemOutlines ih,
            within_succ]
          unfold within
          split <;> rfl
  | @record members named plain ih =>
      intro levels
      rw [outlineOf, toData, depthOf]
      cases levels with
      | zero => rfl
      | succ levels =>
          rw [if_neg (Nat.succ_ne_zero levels), Nat.add_sub_cancel,
            membersToData_memberOutlines named ih, within_succ]
          unfold within
          split <;> rfl

end ProtoSchema.Json
