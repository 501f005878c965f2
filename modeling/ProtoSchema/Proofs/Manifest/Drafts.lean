import ProtoSchema.Manifest.JsonText
import ProtoSchema.Proofs.Manifest.FormOrder

/-!
# Drafts in any order

A declaration and a manifest are read member by member into a draft. Each member adds its own
field and none is taken twice, so that two members lead to the same draft whichever comes
first. The members that say what is declared are kept in the order of the text; a draft is
therefore judged by what it would declare, whatever members follow.
-/

namespace ProtoSchema.Manifest

open Json

/-! ## Declarations -/

theorem orUnfit_eq_ok_iff {α : Type} {result : Except Mismatch α} {value : α} :
    orUnfit result = .ok value ↔ result = .ok value := by
  cases result <;> simp [orUnfit]

theorem orUnfit_keeps {α : Type} {first second : Except Mismatch α}
    (keeps : Keeps first second) : Keeps (orUnfit first) (orUnfit second) := by
  intro value given
  rw [orUnfit_eq_ok_iff] at given
  exact ⟨value, orUnfit_eq_ok_iff.mpr (keeps.eq_ok given), rfl⟩

theorem refuseTwice_eq_ok_iff {α : Type} {field : String} {found? : Option α} {taken : Unit} :
    orUnfit (Mismatch.refuseTwice field found?) = .ok taken ↔ found? = none := by
  cases found? <;> simp [orUnfit, Mismatch.refuseTwice]

namespace DeclarationDraft

/-- How a member of a declaration adds to what has been read of it. -/
inductive Takes : DeclarationDraft → OutlineMember → DeclarationDraft → Prop
  | name {draft : DeclarationDraft} {key : OutlineKey} {value : Outline} {name : String}
      (named : key.wanted = .ok "name") (fresh : draft.name = none)
      (read : value.asText = .ok name) :
      Takes draft (.mk key value) { draft with name := some name }
  | package {draft : DeclarationDraft} {key : OutlineKey} {value : Outline} {package : String}
      (named : key.wanted = .ok "package") (fresh : draft.package = none)
      (read : value.asText = .ok package) :
      Takes draft (.mk key value) { draft with package := some package }
  | exported {draft : DeclarationDraft} {key : OutlineKey} {value : Outline}
      {exported : Option Bool} (named : key.wanted = .ok "exported")
      (fresh : draft.exported = none) (read : value.asFlag = .ok exported) :
      Takes draft (.mk key value) { draft with exported := some exported }
  | other {draft : DeclarationDraft} {key : OutlineKey} {value : Outline} {name : String}
      {data : Data} (named : key.wanted = .ok name)
      (isOther : name ∉ ["name", "package", "exported"])
      (read : value.toData declarationLevels = .ok data) :
      Takes draft (.mk key value) (draft.keep (.name name) data)

theorem readJson_cons_eq_ok_iff {draft final : DeclarationDraft} {member : OutlineMember}
    {rest : List OutlineMember} :
    draft.readJson (member :: rest) = .ok final ↔
      ∃ next, Takes draft member next ∧ next.readJson rest = .ok final := by
  obtain ⟨key, value⟩ := member
  rw [readJson, bind_eq_ok]
  constructor
  · rintro ⟨name, named, given⟩
    split at given
    · obtain ⟨_, fresh, given⟩ := bind_eq_ok.mp given
      obtain ⟨name, read, given⟩ := bind_eq_ok.mp given
      exact ⟨_, .name named (refuseTwice_eq_ok_iff.mp fresh) read, given⟩
    · obtain ⟨_, fresh, given⟩ := bind_eq_ok.mp given
      obtain ⟨package, read, given⟩ := bind_eq_ok.mp given
      exact ⟨_, .package named (refuseTwice_eq_ok_iff.mp fresh) read, given⟩
    · obtain ⟨_, fresh, given⟩ := bind_eq_ok.mp given
      obtain ⟨exported, read, given⟩ := bind_eq_ok.mp given
      exact ⟨_, .exported named (refuseTwice_eq_ok_iff.mp fresh) read, given⟩
    · rename_i noName noPackage noExported
      obtain ⟨data, read, given⟩ := bind_eq_ok.mp given
      exact ⟨_, .other named (by simp_all) read, given⟩
  · rintro ⟨next, takes, given⟩
    cases takes with
    | name named fresh read | package named fresh read | exported named fresh read =>
        refine ⟨_, named, ?_⟩
        rw [fresh, read]
        exact given
    | other named isOther read =>
        refine ⟨_, named, ?_⟩
        split
        · exact absurd (by simp) isOther
        · exact absurd (by simp) isOther
        · exact absurd (by simp) isOther
        · rw [read]
          exact given

theorem readJson_eq_ok_iff {draft final : DeclarationDraft} {members : List OutlineMember} :
    draft.readJson members = .ok final ↔ Run Takes draft members final :=
  eq_ok_iff_run_to (fun _ => by rw [readJson]) fun _ _ _ _ => readJson_cons_eq_ok_iff

/-- The drafts agree in what has been checked, and whatever members follow, what the second
declares is what the first declares. -/
structure Alike (first second : DeclarationDraft) : Prop where
  name : first.name = second.name
  package : first.package = second.package
  exported : first.exported = second.exported
  others : ∀ later, Keeps (declaredOfMembers (first.others.reverse ++ later))
    (declaredOfMembers (second.others.reverse ++ later))

theorem Alike.refl (draft : DeclarationDraft) : draft.Alike draft :=
  ⟨rfl, rfl, rfl, fun _ => .refl _⟩

theorem Alike.trans {first second third : DeclarationDraft} (alike : first.Alike second)
    (alike' : second.Alike third) : first.Alike third :=
  ⟨alike.name.trans alike'.name, alike.package.trans alike'.package,
    alike.exported.trans alike'.exported,
    fun later => (alike.others later).trans (alike'.others later)⟩

theorem Alike.finish_keeps {first second : DeclarationDraft} (alike : first.Alike second) :
    Keeps first.finish second.finish := by
  have others := alike.others []
  rw [List.append_nil, List.append_nil] at others
  rw [finish, finish, alike.name, alike.package, alike.exported]
  exact (Keeps.refl _).bind fun name => (Keeps.refl _).bind fun package =>
    others.bind fun declared => .refl _

/-- Data that is read alike may be kept. -/
theorem Alike.keep {first second : DeclarationDraft} (alike : first.Alike second) (key : Key)
    {data data' : Data} (alikeData : ReadsLike data data') :
    (first.keep key data).Alike (second.keep key data') where
  name := alike.name
  package := alike.package
  exported := alike.exported
  others := by
    intro later
    have same : ∀ member : Key × Data, MemberReadsLike member member :=
      fun member => ⟨rfl, .refl member.2⟩
    have changed : MemberReadsLike (key, data) (key, data') := ⟨rfl, alikeData⟩
    have kept := declaredOfMembers_keeps
      (.of_forall₂ (forall₂_replace same changed second.others.reverse later))
    simp only [DeclarationDraft.keep, List.reverse_cons, List.append_assoc, List.singleton_append]
    exact (alike.others _).trans kept

/-- Two members may be kept in either order. -/
theorem alike_keep_keep (draft : DeclarationDraft) (key key' : Key) (data data' : Data) :
    ((draft.keep key data).keep key' data').Alike ((draft.keep key' data').keep key data) where
  name := rfl
  package := rfl
  exported := rfl
  others := by
    intro later
    simp only [DeclarationDraft.keep, List.reverse_cons, List.append_assoc, List.singleton_append]
    have perm := (List.Perm.swap (key', data') (key, data) later).append_left draft.others.reverse
    exact declaredOfMembers_keeps (.of_perm (fun member => ⟨rfl, .refl member.2⟩) perm)

theorem isOrderFree_takes : IsOrderFree Takes Alike where
  refl := .refl
  trans := .trans
  respects := by
    intro draft other member next alike takes
    cases takes with
    | name named fresh read =>
        rw [alike.name] at fresh
        exact ⟨_, .name named fresh read, rfl, alike.package, alike.exported, alike.others⟩
    | package named fresh read =>
        rw [alike.package] at fresh
        exact ⟨_, .package named fresh read, alike.name, rfl, alike.exported, alike.others⟩
    | exported named fresh read =>
        rw [alike.exported] at fresh
        exact ⟨_, .exported named fresh read, alike.name, alike.package, rfl, alike.others⟩
    | other named isOther read =>
        exact ⟨_, .other named isOther read, alike.keep _ (.refl _)⟩
  swap := by
    intro draft first second next final takesFirst takesSecond
    cases takesFirst with
    | name named fresh read =>
        cases takesSecond with
        | name _ fresh' => contradiction
        | package named' fresh' read' =>
            exact ⟨_, _, .package named' fresh' read', .name named fresh read, .refl _⟩
        | exported named' fresh' read' =>
            exact ⟨_, _, .exported named' fresh' read', .name named fresh read, .refl _⟩
        | other named' isOther' read' =>
            exact ⟨_, _, .other named' isOther' read', .name named fresh read, .refl _⟩
    | package named fresh read =>
        cases takesSecond with
        | name named' fresh' read' =>
            exact ⟨_, _, .name named' fresh' read', .package named fresh read, .refl _⟩
        | package _ fresh' => contradiction
        | exported named' fresh' read' =>
            exact ⟨_, _, .exported named' fresh' read', .package named fresh read, .refl _⟩
        | other named' isOther' read' =>
            exact ⟨_, _, .other named' isOther' read', .package named fresh read, .refl _⟩
    | exported named fresh read =>
        cases takesSecond with
        | name named' fresh' read' =>
            exact ⟨_, _, .name named' fresh' read', .exported named fresh read, .refl _⟩
        | package named' fresh' read' =>
            exact ⟨_, _, .package named' fresh' read', .exported named fresh read, .refl _⟩
        | exported _ fresh' => contradiction
        | other named' isOther' read' =>
            exact ⟨_, _, .other named' isOther' read', .exported named fresh read, .refl _⟩
    | other named isOther read =>
        cases takesSecond with
        | name named' fresh' read' =>
            exact ⟨_, _, .name named' fresh' read', .other named isOther read, .refl _⟩
        | package named' fresh' read' =>
            exact ⟨_, _, .package named' fresh' read', .other named isOther read, .refl _⟩
        | exported named' fresh' read' =>
            exact ⟨_, _, .exported named' fresh' read', .other named isOther read, .refl _⟩
        | other named' isOther' read' =>
            exact ⟨_, _, .other named' isOther' read', .other named isOther read,
              alike_keep_keep draft _ _ _ _⟩

end DeclarationDraft

/-! ## Manifests -/

namespace Draft

/-- How a member of a manifest adds to what has been read of it. -/
inductive Takes : Draft → OutlineMember → Draft → Prop
  | name {draft : Draft} {key : OutlineKey} {value : Outline} {name : String}
      (named : key.wanted = .ok "name") (fresh : draft.name = none)
      (read : value.asText = .ok name) :
      Takes draft (.mk key value) { draft with name := some name }
  | path {draft : Draft} {key : OutlineKey} {value : Outline} {path : String}
      (named : key.wanted = .ok "path") (fresh : draft.path = none)
      (read : value.asText = .ok path) :
      Takes draft (.mk key value) { draft with path := some path }
  | declarations {draft : Draft} {key : OutlineKey} {value : Outline}
      {declarations : List Declaration} (named : key.wanted = .ok "declarations")
      (fresh : draft.declarations = none) (read : declarationsOfJson value = .ok declarations) :
      Takes draft (.mk key value) { draft with declarations := some declarations }
  | unknown {draft : Draft} {key : OutlineKey} {value : Outline} {name : String}
      (named : key.wanted = .ok name) (isUnknown : name ∉ ["name", "path", "declarations"])
      (skipped : value.skip = .ok ()) : Takes draft (.mk key value) draft

theorem readJson_cons_eq_ok_iff {draft final : Draft} {member : OutlineMember}
    {rest : List OutlineMember} :
    draft.readJson (member :: rest) = .ok final ↔
      ∃ next, Takes draft member next ∧ next.readJson rest = .ok final := by
  obtain ⟨key, value⟩ := member
  rw [readJson, bind_eq_ok]
  constructor
  · rintro ⟨name, named, given⟩
    split at given
    · obtain ⟨_, fresh, given⟩ := bind_eq_ok.mp given
      obtain ⟨name, read, given⟩ := bind_eq_ok.mp given
      exact ⟨_, .name named (refuseTwice_eq_ok_iff.mp fresh) read, given⟩
    · obtain ⟨_, fresh, given⟩ := bind_eq_ok.mp given
      obtain ⟨path, read, given⟩ := bind_eq_ok.mp given
      exact ⟨_, .path named (refuseTwice_eq_ok_iff.mp fresh) read, given⟩
    · obtain ⟨_, fresh, given⟩ := bind_eq_ok.mp given
      obtain ⟨declarations, read, given⟩ := bind_eq_ok.mp given
      exact ⟨_, .declarations named (refuseTwice_eq_ok_iff.mp fresh) read, given⟩
    · rename_i noName noPath noDeclarations
      obtain ⟨_, skipped, given⟩ := bind_eq_ok.mp given
      exact ⟨_, .unknown named (by simp_all) skipped, given⟩
  · rintro ⟨next, takes, given⟩
    cases takes with
    | name named fresh read | path named fresh read | declarations named fresh read =>
        refine ⟨_, named, ?_⟩
        rw [fresh, read]
        exact given
    | unknown named isUnknown skipped =>
        refine ⟨_, named, ?_⟩
        split
        · exact absurd (by simp) isUnknown
        · exact absurd (by simp) isUnknown
        · exact absurd (by simp) isUnknown
        · rw [skipped]
          exact given

theorem readJson_eq_ok_iff {draft final : Draft} {members : List OutlineMember} :
    draft.readJson members = .ok final ↔ Run Takes draft members final :=
  eq_ok_iff_run_to (fun _ => by rw [readJson]) fun _ _ _ _ => readJson_cons_eq_ok_iff

theorem isOrderFree_takes : IsOrderFree Takes Eq := by
  refine .of_swap ?_
  intro draft first second next final takesFirst takesSecond
  cases takesFirst with
  | unknown named isUnknown skipped => exact ⟨_, takesSecond, .unknown named isUnknown skipped⟩
  | name named fresh read =>
      cases takesSecond with
      | name _ fresh' => contradiction
      | path named' fresh' read' => exact ⟨_, .path named' fresh' read', .name named fresh read⟩
      | declarations named' fresh' read' =>
          exact ⟨_, .declarations named' fresh' read', .name named fresh read⟩
      | unknown named' isUnknown skipped =>
          exact ⟨_, .unknown named' isUnknown skipped, .name named fresh read⟩
  | path named fresh read =>
      cases takesSecond with
      | name named' fresh' read' => exact ⟨_, .name named' fresh' read', .path named fresh read⟩
      | path _ fresh' => contradiction
      | declarations named' fresh' read' =>
          exact ⟨_, .declarations named' fresh' read', .path named fresh read⟩
      | unknown named' isUnknown skipped =>
          exact ⟨_, .unknown named' isUnknown skipped, .path named fresh read⟩
  | declarations named fresh read =>
      cases takesSecond with
      | name named' fresh' read' =>
          exact ⟨_, .name named' fresh' read', .declarations named fresh read⟩
      | path named' fresh' read' =>
          exact ⟨_, .path named' fresh' read', .declarations named fresh read⟩
      | declarations _ fresh' => contradiction
      | unknown named' isUnknown skipped =>
          exact ⟨_, .unknown named' isUnknown skipped, .declarations named fresh read⟩

end Draft

end ProtoSchema.Manifest
