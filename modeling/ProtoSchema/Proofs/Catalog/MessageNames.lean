import Mathlib.Data.Option.Basic
import ProtoSchema.Document
import ProtoSchema.Proofs.Catalog.Structs

/-!
# The names of messages

A message bears the name of its declaration, while structs are told apart by
their signatures. The two keys differ: a signature says nothing of the name under
which a struct is declared in place or aliased, and so declarations of different
names can share one signature, and declarations of one name can have two. The
first loses a message, the second repeats a name.
-/

namespace ProtoSchema

namespace Declaration

/-- The declarations that the schema of `home` builds messages of. -/
def messageStructs (home : String) (declarations : List Declaration) : List Declaration :=
  (firstStructs declarations).filter (isAtHome home)

/-- Whether the type of a declaration stands in place, or is named after the
declaration and its package. -/
def IsPlaced (declaration : Declaration) : Prop :=
  (∃ members, declaration.type = .struct members) ∨
    ∃ underlying, declaration.type = .named declaration.package declaration.name underlying

/-- No two declarations of a manifest share both package and name. -/
def Distinct (declarations : List Declaration) : Prop :=
  declarations.Pairwise fun a b => (a.package, a.name) ≠ (b.package, b.name)

instance (declarations : List Declaration) : Decidable (Distinct declarations) :=
  inferInstanceAs (Decidable (declarations.Pairwise fun a b =>
    (a.package, a.name) ≠ (b.package, b.name)))

/-- Every struct of a manifest stands in place or bears its declaration's name. -/
def StructsPlaced (declarations : List Declaration) : Prop :=
  ∀ declaration ∈ declarations, declaration.isStruct = true → declaration.IsPlaced

/-- Whether a declaration belongs to the package `home` itself, under a given name. -/
def isOwnedAs (home name : String) (declaration : Declaration) : Bool :=
  declaration.owner == home && declaration.name == name

/-- Whether a declaration belongs to no package, while `home` is one, under a given
name. -/
def isUnownedAs (home name : String) (declaration : Declaration) : Bool :=
  declaration.owner == "" && declaration.owner != home && declaration.name == name

theorem of_mem_messageStructs {home : String} {declarations : List Declaration}
    {declaration : Declaration} (member : declaration ∈ messageStructs home declarations) :
    declaration ∈ declarations ∧ declaration.isExportedStruct = true ∧
      declaration.isAtHome home = true := by
  obtain ⟨first, atHome⟩ := List.mem_filter.mp member
  obtain ⟨listed, struct⟩ := List.mem_filter.mp ((firstOf_sublist _ _).subset first)
  exact ⟨listed, struct, atHome⟩

theorem of_mem_filter_isUnownedAs {home name : String} {declarations : List Declaration}
    {declaration : Declaration}
    (member : declaration ∈ (messageStructs home declarations).filter (isUnownedAs home name)) :
    declaration ∈ declarations ∧ declaration.isExportedStruct = true ∧
      declaration.name = name ∧ declaration.owner = "" ∧ declaration.owner ≠ home := by
  obtain ⟨counted, isUnowned⟩ := List.mem_filter.mp member
  obtain ⟨listed, struct, _⟩ := of_mem_messageStructs counted
  simp only [isUnownedAs, Bool.and_eq_true, beq_iff_eq, bne_iff_ne] at isUnowned
  exact ⟨listed, struct, isUnowned.2, isUnowned.1.1, isUnowned.1.2⟩

/-- What belongs to the home package itself is at home. -/
theorem filter_isOwnedAs_filter_isAtHome (home name : String)
    (declarations : List Declaration) :
    (declarations.filter (isAtHome home)).filter (isOwnedAs home name) =
      declarations.filter (isOwnedAs home name) := by
  rw [List.filter_filter]
  refine List.filter_congr fun declaration _ => ?_
  by_cases same : declaration.owner = home <;> simp [isAtHome, isOwnedAs, same]

theorem owner_of_isPlaced {declaration : Declaration} (placed : declaration.IsPlaced) :
    declaration.owner = declaration.package := by
  rcases placed with ⟨members, type⟩ | ⟨underlying, type⟩
  · simp [owner, type, TypeExpr.package?]
  · by_cases unnamed : declaration.package = "" <;>
      simp [owner, type, TypeExpr.package?, unnamed]

end Declaration

namespace Catalog

open Declaration

/-- Canonical order rearranges the messages and changes none. -/
theorem messages_ofManifest_perm (manifest : Manifest) :
    (ofManifest .standard manifest).messages.Perm
      ((messageStructs manifest.path manifest.declarations).map
        (builtMessage manifest.path)) := by
  have stored := messages_ofDeclarations manifest.name manifest.path manifest.declarations
  exact (List.mergeSort_perm _ _).trans (List.Perm.of_eq stored)

/-! ## Repeated names -/

theorem map_name_ofManifest_perm (manifest : Manifest) :
    ((ofManifest .standard manifest).messages.map Message.name).Perm
      ((messageStructs manifest.path manifest.declarations).map Declaration.name) := by
  have renamed := (messages_ofManifest_perm manifest).map Message.name
  rwa [List.map_map] at renamed

theorem blockHead_injective :
    Function.Injective fun name : String => "message " ++ name ++ " \x7b" := by
  intro first second same
  simpa using same

theorem nodup_map_blockHead_iff (messages : List Message) :
    (messages.map fun message => (Document.messageBlock message).head?).Nodup ↔
      (messages.map Message.name).Nodup := by
  have heads : (messages.map fun message => (Document.messageBlock message).head?) =
      (messages.map Message.name).map fun name => some ("message " ++ name ++ " \x7b") := by
    rw [List.map_map]
    rfl
  rw [heads]
  exact List.nodup_map_iff ((Option.some_injective _).comp blockHead_injective)

/-- Names are distinct exactly if no two declarations that messages are built of share
one. The document repeats the head of a block, and a look-up by name finds one of
several messages, in just the same cases. -/
theorem message_names_nodup_iff (manifest : Manifest) :
    let messages := (ofManifest .standard manifest).messages
    let distinct := (messageStructs manifest.path manifest.declarations).Pairwise
      fun a b => a.name ≠ b.name
    ((messages.map Message.name).Nodup ↔ distinct) ∧
      ((messages.map fun message => (Document.messageBlock message).head?).Nodup ↔ distinct) ∧
      ((∀ name, (messages.filter (·.name == name)).length ≤ 1) ↔ distinct) := by
  intro messages distinct
  have byName : (messages.map Message.name).Nodup ↔ distinct := by
    rw [(map_name_ofManifest_perm manifest).nodup_iff]
    exact List.pairwise_map
  refine ⟨byName, ?_, ?_⟩
  · rw [← byName, ← nodup_map_blockHead_iff]
  · rw [← byName, List.nodup_iff_count_le_one]
    refine forall_congr' fun name => ?_
    rw [List.count_eq_countP, List.countP_map, List.countP_eq_length_filter]
    rfl

/-- A struct of the package and an alias of the same name for another struct of the
package give two messages of one name. -/
theorem message_names_repeated :
    let user := TypeExpr.named "shop" "User" (.struct [])
    let account := TypeExpr.named "shop" "Account" (.struct [])
    let manifest : Manifest :=
      { name := "shop"
        path := "shop"
        declarations :=
          [{ name := "User", package := "shop", exported := none, declared := .type user },
            { name := "User", package := "billing", exported := none,
              declared := .type account }] }
    ¬((ofManifest .standard manifest).messages.map Message.name).Nodup := by
  intro user account manifest
  rw [(map_name_ofManifest_perm manifest).nodup_iff]
  decide

/-! ## Lost messages -/

variable {path : String} {before after : List Declaration} {declaration : Declaration}

/-- Beside a struct of the home package, no other one has its name and its owner. -/
theorem not_isOwnedAs_of_mem (distinct : Distinct (before ++ declaration :: after))
    (placed : StructsPlaced (before ++ declaration :: after))
    (struct : declaration.isExportedStruct = true) (owned : declaration.owner = path)
    {other : Declaration} (member : other ∈ before ∨ other ∈ after)
    (otherStruct : other.isExportedStruct = true) :
    isOwnedAs path declaration.name other = false := by
  have ownPackage : ∀ {element : Declaration}, element ∈ before ++ declaration :: after →
      element.isExportedStruct = true → element.owner = element.package :=
    fun inList exported =>
      owner_of_isPlaced (placed _ inList (Bool.and_eq_true_iff.mp exported).2)
  have package : declaration.package = path := by
    rw [← ownPackage (by simp) struct, owned]
  have otherPackage : other.owner = other.package :=
    ownPackage (by rcases member with inside | inside <;> simp [inside]) otherStruct
  have pairs : (other.package, other.name) ≠ (declaration.package, declaration.name) := by
    obtain ⟨_, fromDeclaration, across⟩ := List.pairwise_append.mp distinct
    rcases member with inBefore | inAfter
    · exact across other inBefore declaration List.mem_cons_self
    · exact (List.rel_of_pairwise_cons fromDeclaration inAfter).symm
  rw [isOwnedAs, otherPackage, ← package, Bool.and_eq_false_iff]
  by_cases samePackage : other.package = declaration.package
  · exact .inr (by simpa [samePackage] using pairs)
  · exact .inl (by simpa using samePackage)

/-- Of the declarations that messages are built of, only one of the home package itself
can bear a given name, and it is there unless its signature was taken before. -/
theorem filter_isOwnedAs_messageStructs
    (distinct : Distinct (before ++ declaration :: after))
    (placed : StructsPlaced (before ++ declaration :: after))
    (struct : declaration.isExportedStruct = true) (owned : declaration.owner = path) :
    (messageStructs path (before ++ declaration :: after)).filter
        (isOwnedAs path declaration.name) =
      if HasSignature before declaration.type.signature then [] else [declaration] := by
  obtain ⟨early, late, earlySub, lateSub, split⟩ := exists_firstOf_append_cons
    (·.type.signature) (before.filter isExportedStruct) declaration
    (after.filter isExportedStruct)
  have firsts : firstStructs (before ++ declaration :: after) =
      early ++ (if HasSignature before declaration.type.signature then [] else [declaration]) ++
        late := by
    simp only [hasSignature_iff_mem_map]
    rw [firstStructs, List.filter_append, List.filter_cons_of_pos struct, split]
  have chosen : isOwnedAs path declaration.name declaration = true := by simp [isOwnedAs, owned]
  have noneBeside : ∀ {part side : List Declaration},
      part.Sublist (side.filter isExportedStruct) →
        (∀ other ∈ side, other ∈ before ∨ other ∈ after) →
          part.filter (isOwnedAs path declaration.name) = [] := by
    intro part side partSub beside
    refine List.filter_eq_nil_iff.mpr fun other member => ?_
    obtain ⟨inSide, otherStruct⟩ := List.mem_filter.mp (partSub.subset member)
    simp [not_isOwnedAs_of_mem distinct placed struct owned (beside other inSide) otherStruct]
  rw [messageStructs, filter_isOwnedAs_filter_isAtHome, firsts, List.filter_append,
    List.filter_append, noneBeside earlySub fun _ => .inl, noneBeside lateSub fun _ => .inr,
    List.nil_append, List.append_nil]
  split
  · rfl
  · rw [List.filter_cons_of_pos chosen, List.filter_nil]

/-- The declarations of one name that messages are built of belong to the home package
or to none. -/
theorem filter_name_messageStructs_perm (path name : String) (declarations : List Declaration) :
    ((messageStructs path declarations).filter (·.name == name)).Perm
      ((messageStructs path declarations).filter (isOwnedAs path name) ++
        (messageStructs path declarations).filter (isUnownedAs path name)) := by
  have parts := (List.filter_append_perm (fun other : Declaration => other.owner == path)
    ((messageStructs path declarations).filter (·.name == name))).symm
  rw [List.filter_filter, List.filter_filter] at parts
  have unowned : (messageStructs path declarations).filter
        (fun other => (!other.owner == path) && other.name == name) =
      (messageStructs path declarations).filter (isUnownedAs path name) := by
    refine List.filter_congr fun other member => ?_
    have home := (of_mem_messageStructs member).2.2
    rw [isAtHome, Bool.or_eq_true, beq_iff_eq, beq_iff_eq] at home
    rw [isUnownedAs]
    rcases home with none | same
    · simp [none, bne]
    · simp [same]
  rwa [unowned] at parts

/-- The messages of a struct's name come from the struct itself, unless its signature was
taken before, and from structs that belong to no package. -/
theorem filter_name_messages_perm (name : String)
    (distinct : Distinct (before ++ declaration :: after))
    (placed : StructsPlaced (before ++ declaration :: after))
    (struct : declaration.isExportedStruct = true) (owned : declaration.owner = path) :
    let declarations := before ++ declaration :: after
    ((ofManifest .standard { name, path, declarations }).messages.filter
        (·.name == declaration.name)).Perm
      ((if HasSignature before declaration.type.signature then []
          else [builtMessage path declaration]) ++
        ((messageStructs path declarations).filter
          (isUnownedAs path declaration.name)).map (builtMessage path)) := by
  intro declarations
  have stored := (messages_ofManifest_perm { name, path, declarations }).filter
    fun message => message.name == declaration.name
  have parts := (filter_name_messageStructs_perm path declaration.name declarations).map
    (builtMessage path)
  rw [List.filter_map] at stored
  rw [filter_isOwnedAs_messageStructs distinct placed struct owned, List.map_append] at parts
  have ownEq : (if HasSignature before declaration.type.signature then []
      else [declaration]).map (builtMessage path) =
        if HasSignature before declaration.type.signature then []
        else [builtMessage path declaration] := by
    split <;> rfl
  rw [ownEq] at parts
  exact stored.trans parts

/-- A struct of the home package gives exactly one message, with its own name and
fields, unless a struct before it has its signature; then it gives none. Only structs
that belong to no package can add messages of its name, so without such a struct of that
name there is no further one. -/
theorem messages_of_owned_struct (name : String) (before : List Declaration)
    (declaration : Declaration) (after : List Declaration)
    (distinct : Distinct (before ++ declaration :: after))
    (placed : StructsPlaced (before ++ declaration :: after))
    (struct : declaration.isExportedStruct = true) (owned : declaration.owner = path) :
    let declarations := before ++ declaration :: after
    let own := if HasSignature before declaration.type.signature then []
      else [builtMessage path declaration]
    let messages := (ofManifest .standard { name, path, declarations }).messages.filter
      (·.name == declaration.name)
    (∃ others : List Declaration, messages.Perm (own ++ others.map (builtMessage path)) ∧
      ∀ other ∈ others, other ∈ declarations ∧ other.isExportedStruct = true ∧
        other.name = declaration.name ∧ other.owner = "" ∧ other.owner ≠ path) ∧
      ((∀ other ∈ declarations, other.isExportedStruct = true →
          other.name = declaration.name → other.owner = "" → path = "") →
        messages = own) := by
  intro declarations own messages
  let others := (messageStructs path declarations).filter (isUnownedAs path declaration.name)
  have perm : messages.Perm (own ++ others.map (builtMessage path)) :=
    filter_name_messages_perm name distinct placed struct owned
  refine ⟨⟨others, perm, fun _ => of_mem_filter_isUnownedAs⟩, fun noNamesake => ?_⟩
  have noOthers : others = [] := by
    refine List.eq_nil_iff_forall_not_mem.mpr fun other member => ?_
    obtain ⟨listed, otherStruct, sameName, noOwner, notHome⟩ := of_mem_filter_isUnownedAs member
    exact notHome (noOwner.trans (noNamesake other listed otherStruct sameName noOwner).symm)
  rw [noOthers, List.map_nil, List.append_nil] at perm
  by_cases repeated : HasSignature before declaration.type.signature
  · have noMessage : own = [] := if_pos repeated
    rw [noMessage] at perm ⊢
    exact perm.eq_nil
  · have oneMessage : own = [builtMessage path declaration] := if_neg repeated
    rw [oneMessage] at perm ⊢
    exact List.perm_singleton.mp perm

/-- A struct of the home package after a foreign one of other members. -/
theorem messages_of_owned_struct_after_foreign :
    let invoice := inPlace "billing" "Invoice" [⟨"Total", none, "", .basic "int"⟩]
    let order := inPlace "shop" "Order" [⟨"ID", none, "", .basic "int"⟩]
    let declarations := [invoice, order]
    Distinct declarations ∧ StructsPlaced declarations ∧ order.isExportedStruct = true ∧
      order.owner = "shop" ∧
      (∀ other ∈ declarations, other.isExportedStruct = true → other.name = "Order" →
        other.owner = "" → "shop" = "") ∧
      (ofManifest .standard { name := "shop", path := "shop", declarations }).messages.filter
          (·.name == "Order") = [builtMessage "shop" order] := by
  intro invoice order declarations
  have distinct : Distinct declarations := by decide
  have placed : StructsPlaced declarations := by
    intro declaration member _
    rw [List.mem_pair] at member
    rcases member with rfl | rfl <;> exact .inl ⟨_, rfl⟩
  have noNamesake : ∀ other ∈ declarations, other.isExportedStruct = true →
      other.name = "Order" → other.owner = "" → "shop" = "" := by
    decide
  obtain ⟨_, exactly⟩ :=
    messages_of_owned_struct "shop" [invoice] order [] distinct placed rfl rfl
  exact ⟨distinct, placed, rfl, rfl, noNamesake, exactly noNamesake⟩

/-- In place, a foreign struct takes the signature of a later one of the home package,
which then gives no message. -/
theorem owned_struct_lost :
    let members : List Member := [⟨"Total", none, "", .basic "int"⟩]
    let invoice := inPlace "billing" "Invoice" members
    let order := inPlace "shop" "Order" members
    let manifest : Manifest := { name := "shop", path := "shop", declarations := [invoice, order] }
    order.isExportedStruct = true ∧ order.owner = "shop" ∧ Distinct manifest.declarations ∧
      StructsPlaced manifest.declarations ∧ (ofManifest .standard manifest).messages = [] := by
  intro members invoice order manifest
  refine ⟨rfl, rfl, by decide, ?_, ?_⟩
  · intro declaration member _
    rw [List.mem_pair] at member
    rcases member with rfl | rfl <;> exact .inl ⟨_, rfl⟩
  · exact List.perm_nil.mp (messages_ofManifest_perm manifest)

end Catalog

end ProtoSchema
