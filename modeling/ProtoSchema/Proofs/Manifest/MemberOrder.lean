import Mathlib
import ProtoSchema.Proofs.Json.Lexing
import ProtoSchema.Proofs.Json.MemberOrder
import ProtoSchema.Proofs.Manifest.Drafts

/-!
# Manifests in any order

A manifest is read from a text in one pass, some members where they stand and others after the
last member of their declaration. Still the members of every record may stand in any order:
the manifest that is read stays the same, since no member is taken twice and each is asked
for by its name.
-/

namespace ProtoSchema.Manifest

open Json

/-! ## Outlines that are read alike -/

/-- Whatever the first outline can be read as, the second can be read as too; data may be read
as other data that is itself read alike. -/
structure OutlineReadsLike (first second : Outline) : Prop where
  skip : Keeps first.skip second.skip
  data : ∀ levels, Carries ReadsLike (first.toData levels) (second.toData levels)
  text : Keeps first.asText second.asText
  flag : Keeps first.asFlag second.asFlag
  declaration : Keeps (declarationOfJson first) (declarationOfJson second)
  declarations : Keeps (declarationsOfJson first) (declarationsOfJson second)
  manifest : Keeps (ofOutline first) (ofOutline second)

namespace OutlineReadsLike

theorem refl (outline : Outline) : OutlineReadsLike outline outline :=
  ⟨.refl _, fun _ data given => ⟨data, given, .refl data⟩, .refl _, .refl _, .refl _, .refl _,
    .refl _⟩

theorem trans {first second third : Outline} (alike : OutlineReadsLike first second)
    (alike' : OutlineReadsLike second third) : OutlineReadsLike first third where
  skip := alike.skip.trans alike'.skip
  data := by
    intro levels data given
    obtain ⟨middle, given, alikeData⟩ := alike.data levels data given
    obtain ⟨other, given, alikeData'⟩ := alike'.data levels middle given
    exact ⟨other, given, alikeData.trans alikeData'⟩
  text := alike.text.trans alike'.text
  flag := alike.flag.trans alike'.flag
  declaration := alike.declaration.trans alike'.declaration
  declarations := alike.declarations.trans alike'.declarations
  manifest := alike.manifest.trans alike'.manifest

end OutlineReadsLike

section Lists

theorem skipItems_eq_ok_iff {items : List Outline} {passed : Unit} :
    Outline.skipItems items = .ok passed ↔ ∀ item ∈ items, item.skip = .ok () := by
  induction items with
  | nil => exact iff_of_true rfl (List.forall_mem_nil _)
  | cons item rest ih =>
      rw [Outline.skipItems, bind_eq_ok, List.forall_mem_cons, ← ih]
      exact ⟨fun ⟨_, skipped, given⟩ => ⟨skipped, given⟩, fun both => ⟨(), both⟩⟩

theorem itemsToData_eq_ok_iff {levels : Nat} {items : List Outline} {data : List Data} :
    Outline.itemsToData levels items = .ok data ↔
      List.Forall₂ (fun item data => item.toData levels = .ok data) items data :=
  eq_ok_iff_forall₂ rfl fun _ _ => by rw [Outline.itemsToData]; rfl

theorem declarationsOfItems_eq_ok_iff {items : List Outline} {declarations : List Declaration} :
    declarationsOfItems items = .ok declarations ↔
      List.Forall₂ (fun item declaration => declarationOfJson item = .ok declaration)
        items declarations :=
  eq_ok_iff_forall₂ rfl fun _ _ => rfl

theorem closed_of_afterLastItem {ending : Ending} {beyond : List Outline} {passed : Unit}
    (given : ending.afterLastItem beyond = .ok passed) : ending = .closed ∧ beyond = [] := by
  cases ending <;> cases beyond <;> first | exact ⟨rfl, rfl⟩ | contradiction

variable {items items' : List Outline} (alike : List.Forall₂ OutlineReadsLike items items')
  (ending : Ending)

include alike

theorem skipItems_keeps : Keeps (Outline.skipItems items) (Outline.skipItems items') := by
  induction alike with
  | nil => exact .refl _
  | cons first others ih =>
      rw [Outline.skipItems, Outline.skipItems]
      exact first.skip.bind fun _ => ih

theorem itemsToData_carries (levels : Nat) :
    Carries (List.Forall₂ ReadsLike) (Outline.itemsToData levels items)
      (Outline.itemsToData levels items') := by
  induction alike with
  | nil => exact .ok .nil
  | cons first others ih =>
      rw [Outline.itemsToData, Outline.itemsToData]
      exact (first.data levels).bind fun _ _ alikeData =>
        ih.bind fun _ _ alikeRest => .ok (.cons alikeData alikeRest)

theorem declarationsOfItems_keeps :
    Keeps (declarationsOfItems items) (declarationsOfItems items') := by
  induction alike with
  | nil => exact .refl _
  | cons first others ih =>
      rw [declarationsOfItems, declarationsOfItems]
      exact first.declaration.bind fun _ => ih.bind fun _ => .refl _

theorem ofItems_keeps : Keeps (ofItems items ending) (ofItems items' ending) := by
  cases alike with
  | nil => exact .refl _
  | cons name others =>
      cases others with
      | nil => exact name.text.bind fun _ => .refl _
      | cons path others =>
          cases others with
          | nil => exact name.text.bind fun _ => path.text.bind fun _ => .refl _
          | cons declarations beyond =>
              have sameEnd : ∀ {beyond beyond' : List Outline},
                  List.Forall₂ OutlineReadsLike beyond beyond' →
                    ending.afterLastItem beyond = ending.afterLastItem beyond' := by
                intro beyond beyond' alike
                cases alike <;> cases ending <;> rfl
              refine name.text.bind fun _ => path.text.bind fun _ =>
                declarations.declarations.bind fun _ => ?_
              rw [sameEnd beyond]
              exact Keeps.refl _

theorem outlineReadsLike_list :
    OutlineReadsLike (.list items ending) (.list items' ending) where
  skip := by
    rw [Outline.skip, Outline.skip]
    exact (skipItems_keeps alike).bind fun _ => .refl _
  data := by
    intro levels
    rw [Outline.toData, Outline.toData]
    split
    · exact .error _
    · exact (itemsToData_carries alike (levels - 1)).bind fun _ _ alikeItems =>
        Carries.bind (Keeps.refl _) fun _ _ _ => .ok (readsLike_list alikeItems)
  text := .error _
  flag := .error _
  declaration := .error _
  declarations := (declarationsOfItems_keeps alike).bind fun _ => .refl _
  manifest := ofItems_keeps alike ending

end Lists

section Records

open Outline

/-- Pass over a member. -/
def skipMember : OutlineMember → Result Unit
  | .mk key value => do
    key.passedOver
    value.skip

theorem skipMembers_eq_ok_iff {members : List OutlineMember} :
    skipMembers members = .ok () ↔ ∀ member ∈ members, skipMember member = .ok () := by
  induction members with
  | nil => exact iff_of_true rfl (List.forall_mem_nil _)
  | cons member rest ih =>
      have stepwise : skipMembers (member :: rest) =
          (skipMember member >>= fun _ => skipMembers rest) := by
        cases member
        rw [skipMembers, skipMember, bind_assoc]
      rw [stepwise, bind_eq_ok, List.forall_mem_cons, ← ih]
      exact ⟨fun ⟨_, skipped, given⟩ => ⟨skipped, given⟩, fun both => ⟨(), both⟩⟩

/-- Read a member in full. -/
def memberToData (levels : Nat) : OutlineMember → Result (Key × Data)
  | .mk key value => do
    let name ← key.wanted
    let value ← value.toData levels
    return (.name name, value)

theorem membersToData_eq_ok_iff {levels : Nat} {members : List OutlineMember}
    {data : List (Key × Data)} :
    membersToData levels members = .ok data ↔
      List.Forall₂ (fun member pair => memberToData levels member = .ok pair) members data := by
  refine eq_ok_iff_forall₂ rfl fun member rest => ?_
  cases member
  rw [membersToData]
  simp only [memberToData, bind_assoc]
  rfl

variable {members members' : List OutlineMember}
  (reordered : Reordered (MembersLike OutlineReadsLike) members members') (ending : Ending)

include reordered

theorem skipMembers_keeps : Keeps (skipMembers members) (skipMembers members') := by
  have carries : ∀ {member other : OutlineMember}, MembersLike OutlineReadsLike member other →
      skipMember member = .ok () → skipMember other = .ok () := by
    rintro _ _ ⟨key, alike⟩ skipped
    exact Keeps.eq_ok ((Keeps.refl _).bind fun _ => alike.skip) skipped
  intro _ given
  exact ⟨(), skipMembers_eq_ok_iff.mpr
    (reordered.forall_mem carries (skipMembers_eq_ok_iff.mp given)), rfl⟩

theorem membersToData_carries (levels : Nat) :
    Carries (Reordered MemberReadsLike) (membersToData levels members)
      (membersToData levels members') := by
  have each : ∀ {member other : OutlineMember}, MembersLike OutlineReadsLike member other →
      Carries MemberReadsLike (memberToData levels member) (memberToData levels other) := by
    rintro _ _ ⟨key, alike⟩
    refine Carries.bind (Keeps.refl _) fun name _ same => ?_
    exact (alike.data levels).bind fun _ _ alikeData => .ok ⟨congrArg Key.name same, alikeData⟩
  intro data given
  rw [membersToData_eq_ok_iff] at given
  obtain ⟨others, given, alike⟩ := reordered_carries (@each) reordered given
  exact ⟨others, membersToData_eq_ok_iff.mpr given, alike⟩

theorem declarationDraft_carries :
    Carries DeclarationDraft.Alike (DeclarationDraft.empty.readJson members)
      (DeclarationDraft.empty.readJson members') := by
  have unnoticed : ∀ {draft next : DeclarationDraft} {member other : OutlineMember},
      MembersLike OutlineReadsLike member other → DeclarationDraft.Takes draft member next →
        ∃ next', DeclarationDraft.Takes draft other next' ∧ next.Alike next' := by
    rintro draft next _ _ ⟨key, alike⟩ takes
    cases takes with
    | name named fresh read => exact ⟨_, .name named fresh (alike.text.eq_ok read), .refl _⟩
    | package named fresh read => exact ⟨_, .package named fresh (alike.text.eq_ok read), .refl _⟩
    | exported named fresh read =>
        exact ⟨_, .exported named fresh (alike.flag.eq_ok read), .refl _⟩
    | other named isOther read =>
        obtain ⟨data', read', alikeData⟩ := alike.data _ _ read
        exact ⟨_, .other named isOther read', (DeclarationDraft.Alike.refl draft).keep _ alikeData⟩
  exact Run.carries DeclarationDraft.readJson_eq_ok_iff DeclarationDraft.isOrderFree_takes
    unnoticed reordered

theorem draft_keeps : Keeps (Draft.empty.readJson members) (Draft.empty.readJson members') := by
  have unnoticed : ∀ {draft next : Draft} {member other : OutlineMember},
      MembersLike OutlineReadsLike member other → Draft.Takes draft member next →
        ∃ next', Draft.Takes draft other next' ∧ next = next' := by
    rintro draft next _ _ ⟨key, alike⟩ takes
    cases takes with
    | name named fresh read => exact ⟨_, .name named fresh (alike.text.eq_ok read), rfl⟩
    | path named fresh read => exact ⟨_, .path named fresh (alike.text.eq_ok read), rfl⟩
    | declarations named fresh read =>
        exact ⟨_, .declarations named fresh (alike.declarations.eq_ok read), rfl⟩
    | unknown named isUnknown skipped =>
        exact ⟨_, .unknown named isUnknown (alike.skip.eq_ok skipped), rfl⟩
  exact Run.carries Draft.readJson_eq_ok_iff Draft.isOrderFree_takes unnoticed reordered

theorem outlineReadsLike_record :
    OutlineReadsLike (.record members ending) (.record members' ending) where
  skip := by
    rw [Outline.skip, Outline.skip]
    exact (skipMembers_keeps reordered).bind fun _ => .refl _
  data := by
    intro levels
    rw [Outline.toData, Outline.toData]
    split
    · exact .error _
    · exact (membersToData_carries reordered (levels - 1)).bind fun _ _ alikeMembers =>
        Carries.bind (Keeps.refl _) fun _ _ _ => .ok (readsLike_record alikeMembers)
  text := .error _
  flag := .error _
  declaration := (declarationDraft_carries reordered).bind fun _ _ alike =>
    Keeps.bind (Keeps.refl _) fun _ => orUnfit_keeps alike.finish_keeps
  declarations := .error _
  manifest := (draft_keeps reordered).bind fun _ => (Keeps.refl _).bind fun _ => .refl _

end Records

/-- Rearranged outlines are read alike. -/
theorem outlineReadsLike_of_rearranged {first second : Outline}
    (rearranged : first.Rearranged second) : OutlineReadsLike first second :=
  rearranged.induction .refl .trans (fun alike => outlineReadsLike_list alike _)
    fun reordered => outlineReadsLike_record reordered _

/-! ## Complete texts -/

/-- The outline is read in one of the ways in which parts of a manifest are. -/
inductive IsTaken (outline : Outline) : Prop
  | skip (given : outline.skip = .ok ()) : IsTaken outline
  | data {levels : Nat} {data : Data} (given : outline.toData levels = .ok data) : IsTaken outline
  | text {text : String} (given : outline.asText = .ok text) : IsTaken outline
  | flag {flag : Option Bool} (given : outline.asFlag = .ok flag) : IsTaken outline
  | declaration {declaration : Declaration} (given : declarationOfJson outline = .ok declaration) :
      IsTaken outline
  | declarations {declarations : List Declaration}
      (given : declarationsOfJson outline = .ok declarations) : IsTaken outline
  | manifest {manifest : Manifest} (given : ofOutline outline = .ok manifest) : IsTaken outline

/-- A member whose key is a text and whose value is read. -/
inductive IsTakenMember : OutlineMember → Prop
  | mk (key : List Piece) {value : Outline} (isTaken : IsTaken value) :
      IsTakenMember (.mk (.text key) value)

theorem not_isTaken_broken (fault : Fault) : ¬IsTaken (.broken fault) := by
  rintro ⟨given⟩ <;> contradiction

theorem eq_closed_of_wanted {ending : Ending} {passed : Unit} (given : ending.wanted = .ok passed) :
    ending = .closed := by
  cases ending <;> first | rfl | contradiction

theorem eq_closed_of_passedOver {ending : Ending} {passed : Unit}
    (given : ending.passedOver = .ok passed) : ending = .closed := by
  cases ending <;> first | rfl | contradiction

theorem isTaken_list {items : List Outline} {ending : Ending}
    (isTaken : IsTaken (.list items ending)) :
    ending = .closed ∧ ∀ item ∈ items, IsTaken item := by
  cases isTaken with
  | skip given =>
      rw [Outline.skip] at given
      obtain ⟨_, skipped, ends⟩ := bind_eq_ok.mp given
      refine ⟨eq_closed_of_passedOver ends, fun item listed => ?_⟩
      exact .skip (skipItems_eq_ok_iff.mp skipped item listed)
  | data given =>
      rw [Outline.toData] at given
      split at given
      · contradiction
      · obtain ⟨_, read, given⟩ := bind_eq_ok.mp given
        obtain ⟨_, ends, _⟩ := bind_eq_ok.mp given
        exact ⟨eq_closed_of_wanted ends,
          forall_mem_of_forall₂ .data (itemsToData_eq_ok_iff.mp read)⟩
  | text given | flag given | declaration given => contradiction
  | declarations given =>
      rw [declarationsOfJson] at given
      obtain ⟨_, read, given⟩ := bind_eq_ok.mp given
      obtain ⟨_, ends, _⟩ := bind_eq_ok.mp given
      exact ⟨eq_closed_of_wanted ends,
        forall_mem_of_forall₂ .declaration (declarationsOfItems_eq_ok_iff.mp read)⟩
  | manifest given =>
      rw [ofOutline, ofItems.eq_def] at given
      split at given
      · obtain ⟨_, _, given⟩ := bind_eq_ok.mp given
        contradiction
      · obtain ⟨_, _, given⟩ := bind_eq_ok.mp given
        obtain ⟨_, _, given⟩ := bind_eq_ok.mp given
        contradiction
      · obtain ⟨_, isName, given⟩ := bind_eq_ok.mp given
        obtain ⟨_, isPath, given⟩ := bind_eq_ok.mp given
        obtain ⟨_, ends, _⟩ := bind_eq_ok.mp given
        refine ⟨eq_closed_of_wanted ends, ?_⟩
        simp [IsTaken.text isName, IsTaken.text isPath]
      · obtain ⟨_, isName, given⟩ := bind_eq_ok.mp given
        obtain ⟨_, isPath, given⟩ := bind_eq_ok.mp given
        obtain ⟨_, areDeclarations, given⟩ := bind_eq_ok.mp given
        obtain ⟨_, ends, _⟩ := bind_eq_ok.mp given
        obtain ⟨rfl, rfl⟩ := closed_of_afterLastItem ends
        refine ⟨rfl, ?_⟩
        simp [IsTaken.text isName, IsTaken.text isPath, IsTaken.declarations areDeclarations]

/-- A member with a name that is wanted and a value that is read. -/
theorem isTakenMember_of_wanted {key : OutlineKey} {value : Outline} {name : String}
    (named : key.wanted = .ok name) (isTaken : IsTaken value) : IsTakenMember (.mk key value) := by
  cases key with
  | text pieces => exact .mk pieces isTaken
  | cut | stray => contradiction

theorem isTaken_record {members : List OutlineMember} {ending : Ending}
    (isTaken : IsTaken (.record members ending)) :
    ending = .closed ∧ ∀ member ∈ members, IsTakenMember member := by
  cases isTaken with
  | skip given =>
      rw [Outline.skip] at given
      obtain ⟨_, skipped, ends⟩ := bind_eq_ok.mp given
      refine ⟨eq_closed_of_passedOver ends, fun ⟨key, value⟩ listed => ?_⟩
      obtain ⟨_, passed, skipped⟩ := bind_eq_ok.mp (skipMembers_eq_ok_iff.mp skipped _ listed)
      cases key with
      | text pieces => exact .mk pieces (.skip skipped)
      | cut | stray => contradiction
  | data given =>
      rw [Outline.toData] at given
      split at given
      · contradiction
      · obtain ⟨_, read, given⟩ := bind_eq_ok.mp given
        obtain ⟨_, ends, _⟩ := bind_eq_ok.mp given
        refine ⟨eq_closed_of_wanted ends,
          forall_mem_of_forall₂ ?_ (membersToData_eq_ok_iff.mp read)⟩
        rintro ⟨key, value⟩ pair given
        obtain ⟨_, named, given⟩ := bind_eq_ok.mp given
        obtain ⟨_, read, _⟩ := bind_eq_ok.mp given
        exact isTakenMember_of_wanted named (.data read)
  | text given | flag given | declarations given => contradiction
  | declaration given =>
      rw [declarationOfJson] at given
      obtain ⟨_, read, given⟩ := bind_eq_ok.mp given
      obtain ⟨_, ends, _⟩ := bind_eq_ok.mp given
      refine ⟨eq_closed_of_wanted ends,
        (DeclarationDraft.readJson_eq_ok_iff.mp read).forall_mem fun takes => ?_⟩
      cases takes with
      | name named _ read | package named _ read => exact isTakenMember_of_wanted named (.text read)
      | exported named _ read => exact isTakenMember_of_wanted named (.flag read)
      | other named _ read => exact isTakenMember_of_wanted named (.data read)
  | manifest given =>
      rw [ofOutline] at given
      obtain ⟨_, read, given⟩ := bind_eq_ok.mp given
      obtain ⟨_, ends, _⟩ := bind_eq_ok.mp given
      refine ⟨eq_closed_of_wanted ends,
        (Draft.readJson_eq_ok_iff.mp read).forall_mem fun takes => ?_⟩
      cases takes with
      | name named _ read | path named _ read => exact isTakenMember_of_wanted named (.text read)
      | declarations named _ read => exact isTakenMember_of_wanted named (.declarations read)
      | unknown named _ skipped => exact isTakenMember_of_wanted named (.skip skipped)

mutual

/-- What is read is complete. -/
theorem isComplete_of_isTaken : ∀ {outline : Outline}, IsTaken outline → outline.IsComplete
  | .null, _ => .null
  | .bool value, _ => .bool value
  | .numeral written, _ => .numeral written
  | .text pieces, _ => .text pieces
  | .list items ending, isTaken => by
    obtain ⟨rfl, taken⟩ := isTaken_list isTaken
    exact .list (forall_isComplete_of_isTaken taken)
  | .record members ending, isTaken => by
    obtain ⟨rfl, taken⟩ := isTaken_record isTaken
    obtain ⟨entries, rfl, complete⟩ := exists_entries_of_isTakenMember taken
    exact .record complete
  | .broken fault, isTaken => absurd isTaken (not_isTaken_broken fault)

theorem forall_isComplete_of_isTaken : ∀ {items : List Outline}, (∀ item ∈ items, IsTaken item) →
    ∀ item ∈ items, item.IsComplete
  | [], _ => List.forall_mem_nil _
  | item :: items, taken => by
    obtain ⟨first, others⟩ := List.forall_mem_cons.mp taken
    exact List.forall_mem_cons.mpr
      ⟨isComplete_of_isTaken first, forall_isComplete_of_isTaken others⟩

theorem exists_entries_of_isTakenMember : ∀ {members : List OutlineMember},
    (∀ member ∈ members, IsTakenMember member) →
      ∃ entries, members = Outline.members entries ∧ ∀ pair ∈ entries, pair.2.IsComplete
  | [], _ => ⟨[], rfl, List.forall_mem_nil _⟩
  | .mk key value :: members, taken => by
    obtain ⟨⟨pieces, first⟩, others⟩ := List.forall_mem_cons.mp taken
    obtain ⟨entries, rfl, complete⟩ := exists_entries_of_isTakenMember others
    exact ⟨(pieces, value) :: entries, rfl,
      List.forall_mem_cons.mpr ⟨isComplete_of_isTaken first, complete⟩⟩

end

/-! ## Texts in another order -/

theorem ofJson_eq_ok_iff {text : String} {manifest : Manifest} :
    ofJson text = .ok manifest ↔
      ∃ outline, Outline.ofText text = (outline, false) ∧ ofOutline outline = .ok manifest := by
  rw [ofJson, readText]
  generalize Outline.ofText text = outlined
  obtain ⟨outline, hasMore⟩ := outlined
  dsimp only
  rw [bind_eq_ok]
  constructor
  · rintro ⟨value, read, given⟩
    cases hasMore with
    | true => contradiction
    | false =>
        obtain rfl := Except.ok.inj given
        exact ⟨outline, rfl, read⟩
  · rintro ⟨_, ⟨⟩, read⟩
    exact ⟨manifest, read, rfl⟩

/-- The order of members does not matter. A text that is accepted is written for an outline,
and every text that is written for an outline with the same members in another order, at any
depth, is accepted too and gives the same manifest. -/
theorem ofJson_of_rearranged {text : String} {manifest : Manifest}
    (accepted : ofJson text = .ok manifest) :
    (∃ outline : Outline, outline.IsWrittenAs text) ∧
      ∀ (outline outline' : Outline) (text' : String), outline.IsWrittenAs text →
        outline.Rearranged outline' → outline'.IsWrittenAs text' →
          ofJson text' = .ok manifest := by
  obtain ⟨outline, isOutline, read⟩ := ofJson_eq_ok_iff.mp accepted
  constructor
  · exact ⟨outline, Outline.isWrittenAs_iff.mpr ⟨isComplete_of_isTaken (.manifest read), isOutline⟩⟩
  · intro written outline' text' isWritten rearranged isWritten'
    obtain ⟨_, sameOutline⟩ := Outline.isWrittenAs_iff.mp isWritten
    obtain ⟨_, isOutline'⟩ := Outline.isWrittenAs_iff.mp isWritten'
    -- The text is read as one outline, so it is written for this one alone.
    obtain rfl : outline = written := congrArg Prod.fst (isOutline.symm.trans sameOutline)
    have alike := outlineReadsLike_of_rearranged rearranged
    exact ofJson_eq_ok_iff.mpr ⟨outline', isOutline', alike.manifest.eq_ok read⟩

/-! ## Tags first and tags last

The members `decl` and `kind` tag the records that they stand in. They need not come before
what they tell about. -/

/-- A record of some entries that ends as it should. -/
def recordOf (entries : List (List Piece × Outline)) : Outline :=
  .record (Outline.members entries) .closed

/-- The entries of a predeclared type, its tag first. -/
def basicType : List (List Piece × Outline) :=
  [(piecesOf "kind", .text (piecesOf "basic")), (piecesOf "name", .text (piecesOf "int"))]

/-- The entries of a type declaration, its tag first and its type last. -/
def declarationOf (type : Outline) : List (List Piece × Outline) :=
  [(piecesOf "decl", .text (piecesOf "type")), (piecesOf "name", .text (piecesOf "D")),
    (piecesOf "package", .text (piecesOf "p")), (piecesOf "type", type)]

/-- The entries of a manifest with one declaration. -/
def manifestOf (declaration : Outline) : List (List Piece × Outline) :=
  [(piecesOf "name", .text (piecesOf "a")), (piecesOf "path", .text (piecesOf "p")),
    (piecesOf "declarations", .list [declaration] .closed)]

/-- A manifest in which every tag comes first in its record. -/
def tagsFirst : Outline :=
  recordOf (manifestOf (recordOf (declarationOf (recordOf basicType))))

/-- `tagsFirst` written without white space. -/
def tagsFirstText : String :=
  "\x7b\"name\":\"a\",\"path\":\"p\",\"declarations\":[\x7b\"decl\":\"type\",\"name\":\"D\"," ++
    "\"package\":\"p\",\"type\":\x7b\"kind\":\"basic\",\"name\":\"int\"\x7d\x7d]\x7d"

/-- The same manifest with the members of every record the other way round. -/
def tagsLast : Outline :=
  recordOf (manifestOf (recordOf (declarationOf (recordOf basicType.reverse)).reverse)).reverse

/-- `tagsLast` written with white space between some of its parts. -/
def tagsLastText : String :=
  "\x7b \"declarations\" : [ \x7b \"type\" :\n\x7b\"name\":\"int\",\t\"kind\":\"basic\"\x7d," ++
    "\n\"package\":\"p\", \"name\":\"D\", \"decl\":\"type\" \x7d ]," ++
    " \"path\":\"p\", \"name\":\"a\" \x7d"

theorem recordOf_rearranged (entries : List (List Piece × Outline)) :
    (recordOf entries).Rearranged (recordOf entries.reverse) :=
  .order ((List.reverse_perm entries).symm.map _)

theorem recordOf_last_rearranged (entries : List (List Piece × Outline)) (key : List Piece)
    {value value' : Outline} (rearranged : value.Rearranged value') :
    (recordOf (entries ++ [(key, value)])).Rearranged
      (recordOf (entries ++ [(key, value')]).reverse) := by
  refine .trans ?_ (recordOf_rearranged _)
  rw [recordOf, recordOf, Outline.members, Outline.members, List.map_append, List.map_append]
  exact .value rearranged

theorem tagsFirst_rearranged : tagsFirst.Rearranged tagsLast := by
  have type := recordOf_rearranged basicType
  have declaration : (recordOf (declarationOf (recordOf basicType))).Rearranged
      (recordOf (declarationOf (recordOf basicType.reverse)).reverse) :=
    recordOf_last_rearranged [_, _, _] _ type
  exact recordOf_last_rearranged [_, _] _ (@Outline.Rearranged.item [] [] _ _ .closed declaration)

theorem isComplete_tags : tagsFirst.IsComplete ∧ tagsLast.IsComplete := by
  have forward : ∀ {entries : List (List Piece × Outline)},
      (∀ pair ∈ entries, pair.2.IsComplete) →
        (recordOf entries).IsComplete := .record
  have backward : ∀ {entries : List (List Piece × Outline)},
      (∀ pair ∈ entries, pair.2.IsComplete) →
        (recordOf entries.reverse).IsComplete :=
    fun complete => .record fun pair listed => complete pair (List.mem_reverse.mp listed)
  have type : ∀ pair ∈ basicType, pair.2.IsComplete := by
    simp [basicType, Outline.IsComplete.text]
  have declaration : ∀ {type : Outline}, type.IsComplete →
      ∀ pair ∈ declarationOf type, pair.2.IsComplete := by
    intro type complete
    simp [declarationOf, Outline.IsComplete.text, complete]
  have manifest : ∀ {declaration : Outline}, declaration.IsComplete →
      ∀ pair ∈ manifestOf declaration, pair.2.IsComplete := by
    intro declaration complete
    simp [manifestOf, Outline.IsComplete.text, Outline.IsComplete.list, complete]
  exact ⟨forward (manifest (forward (declaration (forward type)))),
    backward (manifest (backward (declaration (backward type))))⟩

theorem ofText_tagsFirst : Outline.ofText tagsFirstText = (tagsFirst, false) := by
  cbv

theorem ofText_tagsLast : Outline.ofText tagsLastText = (tagsLast, false) := by
  cbv

/-- A manifest whose tags come first is read the same when they come last. -/
theorem ofJson_of_rearranged_tags_last :
    ofJson tagsFirstText = .ok ⟨"a", "p", [⟨"D", "p", none, .type (.basic "int")⟩]⟩ ∧
      ofJson tagsLastText = .ok ⟨"a", "p", [⟨"D", "p", none, .type (.basic "int")⟩]⟩ := by
  have accepted :
      ofJson tagsFirstText = .ok ⟨"a", "p", [⟨"D", "p", none, .type (.basic "int")⟩]⟩ := by
    cbv
  obtain ⟨complete, complete'⟩ := isComplete_tags
  have first := Outline.isWrittenAs_iff.mpr ⟨complete, ofText_tagsFirst⟩
  have last := Outline.isWrittenAs_iff.mpr ⟨complete', ofText_tagsLast⟩
  exact ⟨accepted, (ofJson_of_rearranged accepted).2 _ _ _ first tagsFirst_rearranged last⟩

end ProtoSchema.Manifest
