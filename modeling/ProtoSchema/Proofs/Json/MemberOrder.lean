import ProtoSchema.Json.Reading
import ProtoSchema.Proofs.Json.Scanning
import ProtoSchema.Proofs.Json.Syntax
import ProtoSchema.Proofs.Reading

/-!
# Texts in another order

A text is written for an outline if it spells the outline's tokens, with white space as it
likes. An outline is rearranged by putting the members of its records into another order, at
any depth; the texts written for it then differ from the first one in this and in their
spelling only.
-/

namespace ProtoSchema.Json

namespace Outline

/-! ## Texts of an outline -/

theorem forall_mem_joined {holds : Token → Prop} (comma : holds .comma)
    {parts : List (List Token)} (listed : ∀ part ∈ parts, ∀ token ∈ part, holds token) :
    ∀ token ∈ joined parts, holds token := by
  induction parts with
  | nil => exact List.forall_mem_nil _
  | cons part parts ih =>
      obtain ⟨first, others⟩ := List.forall_mem_cons.mp listed
      cases parts with
      | nil => rwa [joined, List.intercalate_singleton]
      | cons next parts =>
          rw [joined, List.intercalate_cons_cons, List.forall_mem_append, List.forall_mem_append]
          exact ⟨⟨first, List.forall_mem_singleton.mpr comma⟩, ih others⟩

theorem uncut_tokens {outline : Outline} (complete : outline.IsComplete) :
    ∀ token ∈ outline.tokens, ¬token.IsCut := by
  have enclosed : ∀ {first last : Token} {parts : List (List Token)}, ¬first.IsCut →
      ¬last.IsCut → (∀ part ∈ parts, ∀ token ∈ part, ¬token.IsCut) →
        ∀ token ∈ first :: (joined parts ++ [last]), ¬token.IsCut := by
    intro first last parts firstUncut lastUncut uncut
    rw [List.forall_mem_cons, List.forall_mem_append, List.forall_mem_singleton]
    exact ⟨firstUncut, forall_mem_joined not_false uncut, lastUncut⟩
  induction complete with
  | null | bool | numeral | text => exact List.forall_mem_singleton.mpr not_false
  | list complete ih =>
      rw [tokens, itemTokens_eq_map]
      exact enclosed not_false not_false (List.forall_mem_map.mpr ih)
  | record complete ih =>
      rw [tokens, memberTokens_members]
      refine enclosed not_false not_false (List.forall_mem_map.mpr fun pair listed => ?_)
      rw [List.forall_mem_cons, List.forall_mem_cons]
      exact ⟨not_false, not_false, ih pair listed⟩

/-- The text spells the tokens of an outline that is complete. -/
structure IsWrittenAs (outline : Outline) (text : String) : Prop where
  complete : outline.IsComplete
  laidOut : LaidOut outline.tokens text.toList

/-- The texts that are written for a complete outline are those from which it is read. -/
theorem isWrittenAs_iff {outline : Outline} {text : String} :
    outline.IsWrittenAs text ↔ outline.IsComplete ∧ ofText text = (outline, false) := by
  have read : outline.IsComplete →
      (ofText text = (outline, false) ↔ LaidOut outline.tokens text.toList) := by
    intro complete
    rw [ofText, readFrom_eq_iff complete, Json.tokens,
      tokensFrom_eq_iff_laidOut (uncut_tokens complete)]
  constructor
  · rintro ⟨complete, laidOut⟩
    exact ⟨complete, (read complete).mpr laidOut⟩
  · rintro ⟨complete, given⟩
    exact ⟨complete, (read complete).mp given⟩

/-! ## Rearranged outlines -/

/-- The second outline comes from the first by putting members of records into another order,
again and again and at any depth. -/
inductive Rearranged : Outline → Outline → Prop
  | refl (outline : Outline) : Rearranged outline outline
  | order {members members' : List OutlineMember} {ending : Ending}
      (perm : members.Perm members') :
      Rearranged (.record members ending) (.record members' ending)
  | item {before after : List Outline} {item item' : Outline} {ending : Ending}
      (rearranged : Rearranged item item') :
      Rearranged (.list (before ++ item :: after) ending) (.list (before ++ item' :: after) ending)
  | value {before after : List OutlineMember} {key : OutlineKey} {value value' : Outline}
      {ending : Ending} (rearranged : Rearranged value value') :
      Rearranged (.record (before ++ .mk key value :: after) ending)
        (.record (before ++ .mk key value' :: after) ending)
  | trans {first second third : Outline} (rearranged : Rearranged first second)
      (rearranged' : Rearranged second third) : Rearranged first third

/-- Members with one key and values that are alike. -/
inductive MembersLike (like : Outline → Outline → Prop) : OutlineMember → OutlineMember → Prop
  | mk (key : OutlineKey) {value value' : Outline} (alike : like value value') :
      MembersLike like (.mk key value) (.mk key value')

/-- What holds of rearranged outlines is shown for lists item by item, and for records member
by member in any order. -/
theorem Rearranged.induction {motive : Outline → Outline → Prop}
    (refl : ∀ outline, motive outline outline)
    (trans : ∀ {first second third}, motive first second → motive second third →
      motive first third)
    (list : ∀ {items items' ending}, List.Forall₂ motive items items' →
      motive (.list items ending) (.list items' ending))
    (record : ∀ {members members' ending}, Reordered (MembersLike motive) members members' →
      motive (.record members ending) (.record members' ending))
    {first second : Outline} (rearranged : Rearranged first second) : motive first second := by
  have sameMember : ∀ member, MembersLike motive member member := by
    rintro ⟨key, value⟩
    exact .mk key (refl value)
  induction rearranged with
  | refl outline => exact refl outline
  | order perm => exact record (.of_perm sameMember perm)
  | item _ ih => exact list (forall₂_replace refl ih _ _)
  | value _ ih => exact record (.of_forall₂ (forall₂_replace sameMember (.mk _ ih) _ _))
  | trans _ _ ih ih' => exact trans ih ih'

end Outline

end ProtoSchema.Json
