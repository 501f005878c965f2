import Mathlib.Data.List.Basic
import ProtoSchema.Message

/-!
# Wire numbers

The fields of a message are its exported members in declared order, each with its position
as its number, so an unexported member shows nowhere and members at the end leave the
fields before them alone. One pass over the members finds the fields, with a counter of 32
bits that goes up at exported members only; the counter does not run over as long as there
are fewer members than it has values.
-/

namespace ProtoSchema

namespace Member

theorem isExported_iff {member : Member} :
    member.isExported = true ↔
      member.exported = some true ∨
        member.exported = none ∧
          ∃ first rest, member.name.toList = first :: rest ∧ Text.isUppercase first = true := by
  unfold isExported
  cases member.exported with
  | some flag => simp
  | none => cases member.name.toList <;> simp

/-- Lists of members that differ in unexported members alone. -/
inductive SameExported : List Member → List Member → Prop
  | nil : SameExported [] []
  | keep (member : Member) {first second : List Member} :
      SameExported first second → SameExported (member :: first) (member :: second)
  | insert {hidden : Member} {first second : List Member} :
      hidden.isExported = false → SameExported first second →
        SameExported first (hidden :: second)
  | remove {hidden : Member} {first second : List Member} :
      hidden.isExported = false → SameExported first second →
        SameExported (hidden :: first) second

theorem SameExported.filter_eq {first second : List Member} (same : SameExported first second) :
    first.filter isExported = second.filter isExported := by
  induction same with
  | nil => rfl
  | keep member _ ih => rw [List.filter_cons, List.filter_cons, ih]
  | insert hidden _ ih => rw [List.filter_cons_of_neg (Bool.eq_false_iff.mp hidden), ih]
  | remove hidden _ ih => rw [List.filter_cons_of_neg (Bool.eq_false_iff.mp hidden), ih]

end Member

namespace Message

variable (home name : String) (members : List Member)

/-! ## Fields by position -/

theorem getElem?_fields_ofMembers (index : Nat) :
    (ofMembers home name members).fields[index]? =
      (members.filter Member.isExported)[index]?.map (Field.ofMember home (index + 1)) := by
  rw [ofMembers, List.getElem?_mapIdx]

theorem length_fields_ofMembers :
    (ofMembers home name members).fields.length =
      (members.filter Member.isExported).length := by
  rw [ofMembers, List.length_mapIdx]

theorem order_le_of_mem_fields {home name : String} {members : List Member} {field : Field}
    (stored : field ∈ (ofMembers home name members).fields) : field.order ≤ members.length := by
  obtain ⟨index, below, rfl⟩ := List.mem_mapIdx.mp stored
  exact Nat.le_trans below (List.length_filter_le _ _)

/-- Members at the end add fields at the end. -/
theorem fields_ofMembers_prefix (later : List Member) :
    (ofMembers home name members).fields <+: (ofMembers home name (members ++ later)).fields := by
  rw [ofMembers, ofMembers, List.filter_append, List.mapIdx_append]
  exact List.prefix_append _ _

/-! ## One pass -/

/-- Go through members with the number of fields so far, and make a field of each that is
exported. -/
def numberFields (home : String) (count : UInt32) : List Member → List Field
  | [] => []
  | member :: rest =>
    if member.isExported then
      Field.ofMember home (count + 1).toNat member :: numberFields home (count + 1) rest
    else numberFields home count rest

/-- As long as the counter does not run over, it counts the exported members. -/
theorem numberFields_eq_mapIdx {home : String} {count : UInt32} {members : List Member}
    (inRange : count.toNat + members.length < UInt32.size) :
    numberFields home count members =
      (members.filter Member.isExported).mapIdx fun index member =>
        Field.ofMember home (count.toNat + index + 1) member := by
  induction members generalizing count with
  | nil => rfl
  | cons member rest ih =>
      rw [List.length_cons] at inRange
      rw [numberFields]
      split
      · rename_i exported
        have next : (count + 1).toNat = count.toNat + 1 := by
          have fits : count.toNat + 1 < UInt32.size := by omega
          rw [UInt32.toNat_add]
          exact Nat.mod_eq_of_lt fits
        have shift : ∀ index, count.toNat + 1 + index = count.toNat + (index + 1) := by omega
        rw [List.filter_cons_of_pos exported, List.mapIdx_cons, ih (by omega), next]
        simp only [shift, Nat.add_zero]
      · rename_i hidden
        rw [List.filter_cons_of_neg hidden, ih (by omega)]

theorem fields_ofMembers_eq_numberFields (inRange : members.length < UInt32.size) :
    (ofMembers home name members).fields = numberFields home 0 members := by
  rw [numberFields_eq_mapIdx (by simpa using inRange), ofMembers]
  simp

/-! ## Stability -/

theorem ofMembers_eq_of_sameExported {first second : List Member}
    (same : Member.SameExported first second) :
    ofMembers home name first = ofMembers home name second := by
  rw [ofMembers, ofMembers, same.filter_eq]

/-- The field at a position comes from the exported member at that position, and nothing
but that member and the position goes into it; the numbers fit the counter of the one pass.
Unexported members may come and go anywhere, and members may come at the end, and no field
that was there changes. -/
theorem ofMembers_stable (inRange : members.length < UInt32.size) :
    let message := ofMembers home name members
    let exported := members.filter Member.isExported
    message.fields.length = exported.length ∧
      (∀ index, message.fields[index]? = exported[index]?.map fun member =>
        ({ name := Identifier.fieldName member.name
           typeName := (FieldType.ofType home member.type).typeName
           order := index + 1
           isRepeated := (FieldType.ofType home member.type).isRepeated
           jsonName := Tag.jsonName? member.tag
           sourceName := member.name
           type := member.type
           references := (FieldType.ofType home member.type).imports } : Field)) ∧
      (∀ field ∈ message.fields, field.order < UInt32.size) ∧
      message.fields = numberFields home 0 members ∧
      (∀ other, Member.SameExported members other → ofMembers home name other = message) ∧
      (∀ later, message.fields <+: (ofMembers home name (members ++ later)).fields) ∧
      ∀ member : Member, member.isExported = true ↔
        member.exported = some true ∨
          member.exported = none ∧
            ∃ first rest, member.name.toList = first :: rest ∧
              Text.isUppercase first = true := by
  intro message exported
  have bounded : ∀ field ∈ message.fields, field.order < UInt32.size :=
    fun field stored => Nat.lt_of_le_of_lt (order_le_of_mem_fields stored) inRange
  exact ⟨length_fields_ofMembers home name members, getElem?_fields_ofMembers home name members,
    bounded, fields_ofMembers_eq_numberFields home name members inRange,
    fun _ same => (ofMembers_eq_of_sameExported home name same).symm,
    fields_ofMembers_prefix home name members, fun _ => Member.isExported_iff⟩

/-- Members exported by their flag, by a capital letter beyond ASCII and against one, with
an unexported member that comes in front and one that goes. -/
theorem ofMembers_stable_hidden :
    let count := Member.mk "count" (some true) "" (.slice (.basic "int"))
    let draft := Member.mk "Draft" (some false) "" (.basic "bool")
    let area := Member.mk "Área" none "json:\"area\"" (.named "geo" "Area" (.struct []))
    let note := Member.mk "note" none "" (.basic "string")
    let message := ofMembers "shop" "Item" [count, draft, area]
    [count, draft, area].length < UInt32.size ∧
      (message.fields.map fun field => (field.order, field.name, field.references)) =
        [(1, "count", []), (2, "área", ["geo"])] ∧
      Member.SameExported [count, draft, area] [note, count, area] ∧
      ofMembers "shop" "Item" [note, count, area] = message ∧
      message.fields <+: (ofMembers "shop" "Item" [count, draft, area, note, count]).fields := by
  intro count draft area note message
  have inRange : [count, draft, area].length < UInt32.size := by decide
  have same : Member.SameExported [count, draft, area] [note, count, area] :=
    .insert (by decide) (.keep count (.remove (by decide) (.keep area .nil)))
  obtain ⟨_, _, _, _, unchanged, grows, _⟩ := ofMembers_stable "shop" "Item" _ inRange
  exact ⟨inRange, by decide, same, unchanged _ same, grows [note, count]⟩

end Message

end ProtoSchema
