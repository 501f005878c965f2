import ProtoSchema.Manifest.Form
import ProtoSchema.Proofs.NameTable
import ProtoSchema.Proofs.Reading

/-!
# Forms in any order

The fields of a form, and the tag that says which form it is, may stand in any order: each of
them is taken once, and what is made of them in the end asks for each by its name. Data that
is read alike in a field is read alike in whatever holds the field, however types nest.
-/

namespace ProtoSchema.Manifest

/-! ## Fields -/

/-- What has been read of a field. -/
inductive Entry where
  | text (value : String)
  | flag (value : Option Bool)
  | type (value : TypeExpr)
  | members (value : List Member)

/-- The struct members that data describes. -/
def membersOf : Data → Except Mismatch (List Member)
  | .list items => membersOfData items
  | data => .error (.ofData data "a sequence")

/-- Read the data of a field. -/
def Entry.ofData (kind : FieldKind) (data : Data) : Except Mismatch Entry :=
  match kind with
  | .text => do return .text (← Parts.textOf data)
  | .flag => do return .flag (← Parts.flagOf data)
  | .type => do return .type (← typeOfData data)
  | .members => do return .members (← membersOf data)

namespace Parts

/-- One field more that has been read. -/
def put (parts : Parts) (name : String) : Entry → Parts
  | .text value => { parts with texts := (name, value) :: parts.texts }
  | .flag value => { parts with flags := (name, value) :: parts.flags }
  | .type value => { parts with types := (name, value) :: parts.types }
  | .members value => { parts with memberLists := (name, value) :: parts.memberLists }

theorem mem_names_put {parts : Parts} {name asked : String} {entry : Entry} :
    asked ∈ (parts.put name entry).names ↔ asked = name ∨ asked ∈ parts.names := by
  cases entry <;> simp [put, names, or_left_comm]

theorem read_eq_put (parts : Parts) (name : String) (kind : FieldKind) {data : Data}
    {members : Unit → Except Mismatch (List Member)} (same : members () = membersOf data) :
    parts.read name kind data (fun _ => typeOfData data) members =
      (Entry.ofData kind data >>= fun entry => .ok (parts.put name entry)) := by
  cases kind with
  | text | flag | type =>
      simp only [read, Entry.ofData, bind_assoc]
      rfl
  | members =>
      simp only [read, Entry.ofData, bind_assoc, same]
      rfl

/-- Whoever asks for a field by its name gets the same from both. -/
structure Alike (first second : Parts) : Prop where
  texts : ∀ name, first.texts.lookup name = second.texts.lookup name
  flags : ∀ name, first.flags.lookup name = second.flags.lookup name
  types : ∀ name, first.types.lookup name = second.types.lookup name
  memberLists : ∀ name, first.memberLists.lookup name = second.memberLists.lookup name

namespace Alike

variable {first second : Parts}

theorem refl (parts : Parts) : parts.Alike parts :=
  ⟨fun _ => rfl, fun _ => rfl, fun _ => rfl, fun _ => rfl⟩

theorem trans {third : Parts} (alike : first.Alike second) (alike' : second.Alike third) :
    first.Alike third :=
  ⟨fun name => (alike.texts name).trans (alike'.texts name),
    fun name => (alike.flags name).trans (alike'.flags name),
    fun name => (alike.types name).trans (alike'.types name),
    fun name => (alike.memberLists name).trans (alike'.memberLists name)⟩

theorem mem_names_iff (alike : first.Alike second) (name : String) :
    name ∈ first.names ↔ name ∈ second.names := by
  have byLookup : ∀ parts : Parts, name ∈ parts.names ↔
      (parts.texts.lookup name).isSome ∨ (parts.flags.lookup name).isSome ∨
        (parts.types.lookup name).isSome ∨ (parts.memberLists.lookup name).isSome := by
    have listed : ∀ {α : Type} (fields : List (String × α)),
        name ∈ fields.map (·.1) ↔ (fields.lookup name).isSome := by
      intro α fields
      rw [List.mem_map, List.lookup_isSome_iff]
      simp only [beq_iff_eq, eq_comm (a := name)]
    intro parts
    simp only [names, List.mem_append, listed, or_assoc]
  rw [byLookup, byLookup, alike.texts, alike.flags, alike.types, alike.memberLists]

theorem put (alike : first.Alike second) (name : String) (entry : Entry) :
    (first.put name entry).Alike (second.put name entry) := by
  obtain ⟨texts, flags, types, memberLists⟩ := alike
  cases entry <;> constructor <;> simp [Parts.put, List.lookup_cons, *]

/-- Fields of different names may be read in either order. -/
theorem put_put (parts : Parts) {name name' : String} (differ : name ≠ name')
    (entry entry' : Entry) :
    ((parts.put name entry).put name' entry').Alike ((parts.put name' entry').put name entry) := by
  have swapped : ∀ {α : Type} (value value' : α) (rest : List (String × α)) (asked : String),
      ((name', value') :: (name, value) :: rest).lookup asked =
        ((name, value) :: (name', value') :: rest).lookup asked := by
    intro α value value' rest asked
    simp only [NameTable.lookup_cons_eq_ite]
    split_ifs <;> simp_all
  cases entry <;> cases entry' <;> constructor <;> intro asked <;>
    first | rfl | exact swapped _ _ _ asked

theorem text_eq (alike : first.Alike second) (missing : String → Mismatch) (name : String) :
    first.text missing name = second.text missing name := by
  rw [text, text, alike.texts]

theorem type_eq (alike : first.Alike second) (missing : String → Mismatch) (name : String) :
    first.type missing name = second.type missing name := by
  rw [type, type, alike.types]

theorem toType_eq (alike : first.Alike second) (missing : String → Mismatch)
    (variant : TypeVariant) : first.toType missing variant = second.toType missing variant := by
  cases variant <;> simp only [toType, alike.text_eq, alike.type_eq, alike.memberLists]

theorem toMember_eq (alike : first.Alike second) (missing : String → Mismatch) :
    first.toMember missing = second.toMember missing := by
  simp only [toMember, alike.text_eq, alike.type_eq, alike.flags, alike.texts]

end Alike

end Parts

/-! ## Members in any order -/

/-- How a member of a record adds to the fields that have been read. -/
inductive Takes (form : Form) (tag : Option String) : Parts → Key × Data → Parts → Prop
  | tag {parts : Parts} {key : Key} {data : Data} (isTag : tag.map Key.name = some key) :
      Takes form tag parts (key, data) parts
  | unknown {parts : Parts} {key : Key} {data : Data} (noTag : tag.map Key.name ≠ some key)
      (isUnknown : form.field? key = .ok none) : Takes form tag parts (key, data) parts
  | field {parts : Parts} {key : Key} {data : Data} {name : String} {kind : FieldKind}
      {entry : Entry} (noTag : tag.map Key.name ≠ some key)
      (known : form.field? key = .ok (some (name, kind))) (fresh : name ∉ parts.names)
      (read : Entry.ofData kind data = .ok entry) :
      Takes form tag parts (key, data) (parts.put name entry)

section Members

variable {form : Form} {tag : Option String} {parts final : Parts}

theorem readMembers_cons_eq_ok_iff {member : Key × Data} {rest : List (Key × Data)} :
    readMembers form tag parts (member :: rest) = .ok final ↔
      ∃ next, Takes form tag parts member next ∧ readMembers form tag next rest = .ok final := by
  obtain ⟨key, data⟩ := member
  rw [readMembers.eq_def]
  dsimp only
  by_cases isTag : tag.map Key.name = some key
  · rw [if_pos isTag]
    refine ⟨fun given => ⟨parts, .tag isTag, given⟩, ?_⟩
    rintro ⟨next, takes, given⟩
    cases takes with
    | tag => exact given
    | unknown noTag | field noTag => exact absurd isTag noTag
  · rw [if_neg isTag, bind_eq_ok]
    constructor
    · rintro ⟨field?, isField, given⟩
      cases field? with
      | none => exact ⟨parts, .unknown isTag isField, given⟩
      | some field =>
          obtain ⟨name, kind⟩ := field
          dsimp only at given
          split_ifs at given with known
          rw [Parts.read_eq_put parts name kind (by cases data <;> rfl), bind_eq_ok] at given
          obtain ⟨_, put, given⟩ := given
          obtain ⟨entry, read, ⟨⟩⟩ := bind_eq_ok.mp put
          exact ⟨_, .field isTag isField known read, given⟩
    · rintro ⟨next, takes, given⟩
      cases takes with
      | tag tagged => exact absurd tagged isTag
      | unknown _ isUnknown => exact ⟨none, isUnknown, given⟩
      | field _ known fresh read =>
          refine ⟨_, known, ?_⟩
          dsimp only
          rw [if_neg fresh, Parts.read_eq_put _ _ _ (by cases data <;> rfl), read]
          exact given

theorem readMembers_eq_ok_iff {members : List (Key × Data)} :
    readMembers form tag parts members = .ok final ↔ Run (Takes form tag) parts members final :=
  eq_ok_iff_run_to (fun _ => by rw [readMembers]) fun _ _ _ _ => readMembers_cons_eq_ok_iff

theorem isOrderFree_takes : IsOrderFree (Takes form tag) Parts.Alike where
  refl := .refl
  trans := .trans
  respects := by
    intro parts other member next alike takes
    cases takes with
    | tag isTag => exact ⟨other, .tag isTag, alike⟩
    | unknown noTag isUnknown => exact ⟨other, .unknown noTag isUnknown, alike⟩
    | field noTag known fresh read =>
        rw [alike.mem_names_iff] at fresh
        exact ⟨_, .field noTag known fresh read, alike.put _ _⟩
  swap := by
    intro parts first second next final takesFirst takesSecond
    cases takesFirst with
    | tag isTag => exact ⟨_, _, takesSecond, .tag isTag, .refl final⟩
    | unknown noTag isUnknown => exact ⟨_, _, takesSecond, .unknown noTag isUnknown, .refl final⟩
    | @field _ _ name _ entry noTag known fresh read =>
        cases takesSecond with
        | tag isTag => exact ⟨_, _, .tag isTag, .field noTag known fresh read, .refl _⟩
        | unknown noTag' isUnknown =>
            exact ⟨_, _, .unknown noTag' isUnknown, .field noTag known fresh read, .refl _⟩
        | @field _ _ name' _ entry' noTag' known' fresh' read' =>
            rw [Parts.mem_names_put, not_or] at fresh'
            have freshStill : name ∉ (parts.put name' entry').names := by
              rw [Parts.mem_names_put, not_or]
              exact ⟨Ne.symm fresh'.1, fresh⟩
            exact ⟨_, _, .field noTag' known' fresh'.2 read',
              .field noTag known freshStill read, .put_put parts (Ne.symm fresh'.1) entry entry'⟩

end Members

section Tags

variable {α : Type} {tag : String} {variants : List (String × α)}

/-- How a member of a record bears on the variant that has been found. -/
inductive TakesTag (tag : String) (variants : List (String × α)) :
    Option α → Key × Data → Option α → Prop
  | tag {data : Data} {variant : α} (read : variantOf variants data = .ok variant) :
      TakesTag tag variants none (.name tag, data) (some variant)
  | other {found? : Option α} {key : Key} {data : Data} (isOther : key ≠ .name tag) :
      TakesTag tag variants found? (key, data) found?

theorem tagOf_cons_eq_ok_iff {found? : Option α} {member : Key × Data}
    {rest : List (Key × Data)} {variant : α} :
    tagOf tag variants found? (member :: rest) = .ok variant ↔
      ∃ next?, TakesTag tag variants found? member next? ∧
        tagOf tag variants next? rest = .ok variant := by
  obtain ⟨key, data⟩ := member
  by_cases isTag : key = .name tag
  · subst isTag
    cases found? with
    | some found =>
        rw [tagOf, if_pos rfl]
        exact iff_of_false nofun fun ⟨_, takes, _⟩ => by cases takes; contradiction
    | none =>
        rw [tagOf, if_pos rfl, bind_eq_ok]
        constructor
        · rintro ⟨found, read, given⟩
          exact ⟨some found, .tag read, given⟩
        · rintro ⟨next?, takes, given⟩
          cases takes with
          | tag read => exact ⟨_, read, given⟩
          | other isOther => contradiction
  · have passedOver : tagOf tag variants found? ((key, data) :: rest) =
        tagOf tag variants found? rest := by
      cases found? <;> rw [tagOf, if_neg isTag]
    rw [passedOver]
    refine ⟨fun given => ⟨found?, .other isTag, given⟩, ?_⟩
    rintro ⟨next?, takes, given⟩
    cases takes with
    | tag => contradiction
    | other => exact given

theorem tagOf_eq_ok_iff {members : List (Key × Data)} {variant : α} :
    tagOf tag variants none members = .ok variant ↔
      Run (TakesTag tag variants) none members (some variant) := by
  have atEnd : ∀ (found? : Option α) (variant : α),
      tagOf tag variants found? [] = .ok variant ↔ found? = some variant := by
    intro found? variant
    cases found? <;> simp [tagOf]
  rw [eq_ok_iff_run atEnd fun _ _ _ _ => tagOf_cons_eq_ok_iff]
  simp

theorem isOrderFree_takesTag : IsOrderFree (TakesTag tag variants) Eq := by
  refine .of_swap ?_
  intro found? first second next? final? takesFirst takesSecond
  cases takesFirst with
  | other isOther => exact ⟨_, takesSecond, .other isOther⟩
  | tag read =>
      cases takesSecond with
      | other isOther => exact ⟨_, .other isOther, .tag read⟩

end Tags

/-! ## Data that is read alike -/

/-- Whatever the first data can be read as, the second can be read as too. -/
structure ReadsLike (first second : Data) : Prop where
  text : Keeps (Parts.textOf first) (Parts.textOf second)
  flag : Keeps (Parts.flagOf first) (Parts.flagOf second)
  type : Keeps (typeOfData first) (typeOfData second)
  member : Keeps (memberOfData first) (memberOfData second)
  members : Keeps (membersOf first) (membersOf second)
  variant : ∀ {α : Type} (variants : List (String × α)),
    Keeps (variantOf variants first) (variantOf variants second)

namespace ReadsLike

theorem refl (data : Data) : ReadsLike data data :=
  ⟨.refl _, .refl _, .refl _, .refl _, .refl _, fun _ => .refl _⟩

theorem trans {first second third : Data} (alike : ReadsLike first second)
    (alike' : ReadsLike second third) : ReadsLike first third :=
  ⟨alike.text.trans alike'.text, alike.flag.trans alike'.flag, alike.type.trans alike'.type,
    alike.member.trans alike'.member, alike.members.trans alike'.members,
    fun variants => (alike.variant variants).trans (alike'.variant variants)⟩

theorem entry {first second : Data} (alike : ReadsLike first second) (kind : FieldKind) :
    Keeps (Entry.ofData kind first) (Entry.ofData kind second) := by
  cases kind with
  | text => exact alike.text.bind fun _ => .refl _
  | flag => exact alike.flag.bind fun _ => .refl _
  | type => exact alike.type.bind fun _ => .refl _
  | members => exact alike.members.bind fun _ => .refl _

end ReadsLike

/-- Members with one key whose values are read alike. -/
def MemberReadsLike (first second : Key × Data) : Prop :=
  first.1 = second.1 ∧ ReadsLike first.2 second.2

section Records

variable {members members' : List (Key × Data)}
  (reordered : Reordered MemberReadsLike members members')

include reordered

theorem tagOf_keeps {α : Type} (tag : String) (variants : List (String × α)) :
    Keeps (tagOf tag variants none members) (tagOf tag variants none members') := by
  have unnoticed : ∀ {found? next? : Option α} {member other : Key × Data},
      MemberReadsLike member other → TakesTag tag variants found? member next? →
        ∃ next'?, TakesTag tag variants found? other next'? ∧ next? = next'? := by
    rintro found? next? ⟨key, data⟩ ⟨_, data'⟩ ⟨⟨⟩, alike⟩ takes
    cases takes with
    | tag read => exact ⟨_, .tag ((alike.variant variants).eq_ok read), rfl⟩
    | other isOther => exact ⟨_, .other isOther, rfl⟩
  intro variant given
  rw [tagOf_eq_ok_iff] at given
  obtain ⟨_, run, rfl⟩ := Run.of_reordered isOrderFree_takesTag unnoticed reordered given
  exact ⟨variant, tagOf_eq_ok_iff.mpr run, rfl⟩

theorem readMembers_carries (form : Form) (tag : Option String) :
    Carries Parts.Alike (readMembers form tag .empty members)
      (readMembers form tag .empty members') := by
  have unnoticed : ∀ {parts next : Parts} {member other : Key × Data},
      MemberReadsLike member other → Takes form tag parts member next →
        ∃ next', Takes form tag parts other next' ∧ next.Alike next' := by
    rintro parts next ⟨key, data⟩ ⟨_, data'⟩ ⟨⟨⟩, alike⟩ takes
    cases takes with
    | tag isTag => exact ⟨_, .tag isTag, .refl _⟩
    | unknown noTag isUnknown => exact ⟨_, .unknown noTag isUnknown, .refl _⟩
    | field noTag known fresh read =>
        exact ⟨_, .field noTag known fresh ((alike.entry _).eq_ok read), .refl _⟩
  exact Run.carries readMembers_eq_ok_iff isOrderFree_takes unnoticed reordered

/-- Records are read alike whose members are, in whatever order. -/
theorem readsLike_record : ReadsLike (.record members) (.record members') where
  text := .error _
  flag := .error _
  type := by
    rw [typeOfData, typeOfData]
    refine (tagOf_keeps reordered _ _).bind fun variant => ?_
    refine (readMembers_carries reordered _ _).bind fun parts other alike => ?_
    rw [alike.toType_eq]
    exact Keeps.refl _
  member := by
    rw [memberOfData, memberOfData]
    refine (readMembers_carries reordered _ _).bind fun parts other alike => ?_
    rw [alike.toMember_eq]
    exact Keeps.refl _
  members := .error _
  variant := fun _ => .error _

theorem declaredOfMembers_keeps :
    Keeps (declaredOfMembers members) (declaredOfMembers members') := by
  refine (tagOf_keeps reordered _ _).bind fun variant => ?_
  refine (readMembers_carries reordered _ _).bind fun parts other alike => ?_
  simp only [alike.type_eq, alike.text_eq]
  exact Keeps.refl _

end Records

section Lists

variable {items items' : List Data} (alike : List.Forall₂ ReadsLike items items')

include alike

theorem membersOfData_keeps : Keeps (membersOfData items) (membersOfData items') := by
  induction alike with
  | nil => exact .refl _
  | cons first others ih =>
      rw [membersOfData, membersOfData]
      exact first.member.bind fun member => ih.bind fun rest => .refl _

theorem readItems_keeps (fields : List (String × FieldKind)) (parts : Parts) :
    Keeps (readItems fields parts items) (readItems fields parts items') := by
  induction alike generalizing fields parts with
  | nil => exact .refl _
  | @cons data data' rest rest' first others ih =>
      rw [readItems.eq_def, readItems.eq_def]
      cases fields with
      | nil => exact .refl _
      | cons field fields =>
          obtain ⟨name, kind⟩ := field
          dsimp only
          rw [Parts.read_eq_put parts name kind (by cases data <;> rfl),
            Parts.read_eq_put parts name kind (by cases data' <;> rfl)]
          exact ((first.entry kind).bind fun entry => .refl _).bind fun next => ih fields next

/-- Lists are read alike whose items are. -/
theorem readsLike_list : ReadsLike (.list items) (.list items') where
  text := .error _
  flag := .error _
  type := by
    cases alike with
    | nil => exact .refl _
    | cons first others =>
        rw [typeOfData, typeOfData]
        refine (first.variant _).bind fun variant => ?_
        refine (readItems_keeps others _ _).bind fun parts => ?_
        rw [Form.checkLength, Form.checkLength, others.length_eq]
        exact .refl _
  member := by
    rw [memberOfData, memberOfData]
    refine (readItems_keeps alike _ _).bind fun parts => ?_
    rw [Form.checkLength, Form.checkLength, alike.length_eq]
    exact .refl _
  members := membersOfData_keeps alike
  variant := fun _ => .error _

end Lists

end ProtoSchema.Manifest
