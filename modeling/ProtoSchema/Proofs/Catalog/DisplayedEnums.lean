import Mathlib.Data.List.Forall2
import ProtoSchema.Proofs.Catalog.EnumBlocks
import ProtoSchema.Proofs.Document.Line

/-!
# Enum blocks under any naming

A naming changes how values are displayed and nothing else: the enumerations of a manifest
and the numbers in them are the same under every naming. Canonical order and the two flags
follow from the numbers, and so each block lists the valid constants of its type name, with
a zero put in front where none of them is zero, and has the alias option exactly if two of
its members share a number.
-/

namespace ProtoSchema

/-- A value as a naming displays it in some catalog. -/
def Naming.Displays (naming : Naming) (value displayed : EnumValue) : Prop :=
  ∃ catalog, displayed = naming.applyEnumValue catalog value

namespace Enumeration

open EnumValue

variable {enumeration : Enumeration}

theorem enumMembers_canonicalize (enumeration : Enumeration) :
    Document.enumMembers enumeration.canonicalize =
      (if 0 ∈ enumeration.numbers then [] else [("UNKOWN", 0)]) ++
        enumeration.canonicalize.values.map shown := by
  rw [Document.enumMembers]
  by_cases own : 0 ∈ enumeration.numbers
  · have present : enumeration.canonicalize.missingDefault ≠ true :=
      fun missing => missingDefault_canonicalize_iff.mp missing own
    rw [if_neg present, if_pos own]
    rfl
  · rw [if_pos (missingDefault_canonicalize_iff.mpr own), if_neg own]
    rfl

/-- The numbers of a block's members: the added zero, and the numbers of the values. -/
theorem map_snd_enumMembers (enumeration : Enumeration) :
    (Document.enumMembers enumeration.canonicalize).map Prod.snd =
      (if 0 ∈ enumeration.numbers then [] else [0]) ++ enumeration.canonicalize.numbers := by
  rw [enumMembers_canonicalize, List.map_append, List.map_map]
  split <;> rfl

/-- The members of a block share a number exactly if the values do, since the zero is added
only where none is. -/
theorem nodup_enumMembers_iff :
    ((Document.enumMembers enumeration.canonicalize).map Prod.snd).Nodup ↔
      enumeration.numbers.Nodup := by
  have perm := numbers_canonicalize_perm enumeration
  rw [map_snd_enumMembers, ← perm.nodup_iff]
  split
  · rfl
  · rename_i missing
    have fresh : 0 ∉ enumeration.canonicalize.numbers := mt perm.mem_iff.mp missing
    simp [fresh]

theorem zero_mem_enumMembers :
    0 ∈ (Document.enumMembers enumeration.canonicalize).map Prod.snd := by
  rw [map_snd_enumMembers]
  split
  · rename_i own
    exact List.mem_append_right _ ((numbers_canonicalize_perm enumeration).mem_iff.mpr own)
  · exact List.mem_append_left _ List.mem_cons_self

theorem enumBlock_canonicalize (enumeration : Enumeration) :
    let members := Document.enumMembers enumeration.canonicalize
    Document.enumBlock enumeration.canonicalize =
      ["enum " ++ enumeration.name ++ " \x7b"] ++
        (if (members.map Prod.snd).Nodup then [] else [Document.aliasLine]) ++
        members.map Document.enumMemberLine ++ ["\x7d"] := by
  intro members
  rw [Document.enumBlock]
  by_cases distinct : enumeration.numbers.Nodup
  · have down : enumeration.canonicalize.allowAlias ≠ true :=
      fun up => allowAlias_canonicalize_iff.mp up distinct
    rw [if_neg down, if_pos (nodup_enumMembers_iff.mpr distinct)]
    rfl
  · rw [if_pos (allowAlias_canonicalize_iff.mpr distinct),
      if_neg (mt nodup_enumMembers_iff.mp distinct)]
    rfl

/-- No other line of a block looks like the alias option. -/
theorem aliasLine_mem_enumBlock_iff :
    Document.aliasLine ∈ Document.enumBlock enumeration ↔ enumeration.allowAlias = true := by
  have notHead : Document.aliasLine ≠ "enum " ++ enumeration.name ++ " \x7b" := by
    intro same
    have first := congrArg (fun line => line.toList.head?) same
    simp [Document.aliasLine, String.toList_append] at first
  have notMember : Document.aliasLine ∉
      (Document.enumMembers enumeration).map Document.enumMemberLine := by
    intro listed
    obtain ⟨member, _, same⟩ := List.mem_map.mp listed
    exact Document.enumMemberLine_ne_aliasLine member same
  have notEnd : Document.aliasLine ≠ "\x7d" := by decide
  rw [Document.enumBlock, List.mem_append, List.mem_append, List.mem_append, List.mem_singleton,
    List.mem_singleton]
  simp only [notHead, notMember, notEnd, false_or, or_false]
  cases enumeration.allowAlias with
  | true => simp [Document.aliasLine]
  | false => simp

end Enumeration

namespace Catalog

open Declaration

variable {naming : Naming} {catalog : Catalog} {declaration : Declaration}

theorem numbers_eq_of_displays {values displayed : List EnumValue}
    (shown : List.Forall₂ naming.Displays values displayed) :
    displayed.map EnumValue.value = values.map EnumValue.value := by
  induction shown with
  | nil => rfl
  | cons displays _ ih =>
      obtain ⟨catalog, rfl⟩ := displays
      rw [List.map_cons, List.map_cons, ih]
      rfl

/-- An admitted constant adds its value, as the naming displays it, to one enumeration. -/
theorem find?_enums_ingest_of_enumConstant (naming : Naming)
    (admitted : declaration.isEnumConstant catalog.path = true) :
    ∃ added, List.Forall₂ naming.Displays declaration.enumValue?.toList added ∧
      ∀ asked, (catalog.ingest naming declaration).2.enums.find? asked =
        if asked = declaration.type.simpleName then
          let enumeration := catalog.enumOrEmpty declaration.type.simpleName
          some { enumeration with values := enumeration.values ++ added }
        else catalog.enums.find? asked := by
  cases read : EnumValue.ofLiteral declaration.name declaration.literal with
  | error error =>
      refine ⟨[], ?_, fun asked => ?_⟩
      · rw [enumValue?_of_invalid read]
        exact .nil
      · rw [ingest_of_invalid_const naming admitted read]
        simp only [report, ensureEnum, putEnum, NameTable.find?_insert, List.append_nil]
  | ok value =>
      refine ⟨[naming.applyEnumValue (catalog.ensureEnum declaration.type.simpleName) value],
        ?_, fun asked => ?_⟩
      · rw [enumValue?_of_valid read]
        exact .cons ⟨_, rfl⟩ .nil
      · rw [ingest_of_valid_const naming admitted read]
        simp only [ensureEnum, putEnum, NameTable.find?_insert]
        split <;> rfl

/-- The enumeration of a type name after a run, under any naming. -/
theorem find?_enums_ofDeclarations_displayed (naming : Naming) (name path : String)
    (declarations : List Declaration) (enumName : String) :
    ∃ displayed,
      List.Forall₂ naming.Displays
        ((constantsOf path enumName declarations).filterMap enumValue?) displayed ∧
      (ofDeclarations naming name path declarations).enums.find? enumName =
        if constantsOf path enumName declarations = [] then none
        else some { Enumeration.empty enumName with values := displayed } := by
  induction declarations using List.reverseRecOn generalizing enumName with
  | nil => exact ⟨[], .nil, rfl⟩
  | append_singleton declarations last ih =>
      rw [ofDeclarations_concat, constantsOf_concat]
      have samePath := ofDeclarations_path name path naming declarations
      generalize ofDeclarations naming name path declarations = catalog at ih samePath ⊢
      subst samePath
      obtain ⟨displayed, shown, found⟩ := ih enumName
      cases admitted : last.isEnumConstant catalog.path with
      | false =>
          refine ⟨displayed, ?_, ?_⟩
          · simpa using shown
          · rw [(ingest_of_not_enumConstant naming catalog admitted).1, found]
            simp
      | true =>
          obtain ⟨added, addedShown, after⟩ :=
            find?_enums_ingest_of_enumConstant naming admitted
          rw [after]
          by_cases same : enumName = last.type.simpleName
          · have collected : catalog.enumOrEmpty enumName =
                { Enumeration.empty enumName with values := displayed } := by
              rw [enumOrEmpty, found]
              split
              · rename_i none
                rw [none] at shown
                cases shown
                rfl
              · rfl
            refine ⟨displayed ++ added, ?_, ?_⟩
            · rw [List.filterMap_append]
              refine List.rel_append shown ?_
              simpa [same, filterMap_singleton] using addedShown
            · rw [if_pos same, ← same, collected]
              simp [same]
          · refine ⟨displayed, ?_, ?_⟩
            · simpa [Ne.symm same] using shown
            · rw [if_neg same, found]
              simp [Ne.symm same]

/-- The enumerations of a manifest are canonical forms of its valid constants, displayed. -/
theorem exists_displayed_of_mem_enums {manifest : Manifest} {enumeration : Enumeration}
    (stored : enumeration ∈ (ofManifest naming manifest).enums.values) :
    ∃ displayed : Enumeration,
      constantsOf manifest.path displayed.name manifest.declarations ≠ [] ∧
      List.Forall₂ naming.Displays
        (collected manifest.path displayed.name manifest.declarations).values displayed.values ∧
      enumeration = displayed.canonicalize := by
  obtain ⟨enumName, found⟩ := NameTable.mem_values_iff.mp stored
  obtain ⟨displayed, shown, table⟩ := find?_enums_ofDeclarations_displayed naming manifest.name
    manifest.path manifest.declarations enumName
  have canonical : (ofManifest naming manifest).enums.find? enumName = _ :=
    (NameTable.find?_mapValues _ Enumeration.canonicalize enumName).trans (congrArg _ table)
  rw [found] at canonical
  split at canonical
  · contradiction
  · rename_i admitted
    exact ⟨{ Enumeration.empty enumName with values := displayed }, admitted, shown,
      Option.some.inj canonical⟩

/-- Every enum block of a document: the added zero if no valid constant of the type name is
zero, then one member for each valid constant, by number and displayed name; some member is
zero, and the alias option is there exactly if two members share a number. -/
theorem enum_block_of_manifest (naming : Naming) (manifest : Manifest)
    (options : Document.Options) (enumeration : Enumeration)
    (stored : enumeration ∈ (ofManifest naming manifest).enums.values) :
    let constants := collected manifest.path enumeration.name manifest.declarations
    let block := Document.enumBlock enumeration
    ∃ displayed listed,
      let members := (if 0 ∈ constants.numbers then [] else [("UNKOWN", 0)]) ++ listed
      constantsOf manifest.path enumeration.name manifest.declarations ≠ [] ∧
      List.Forall₂ naming.Displays constants.values displayed ∧
      listed.Perm (displayed.map EnumValue.shown) ∧
      listed.Pairwise EnumValue.ShownBefore ∧
      block <:+: Document.lines options (ofManifest naming manifest) ∧
      block =
        ["enum " ++ enumeration.name ++ " \x7b"] ++
          (if (members.map Prod.snd).Nodup then [] else [Document.aliasLine]) ++
          members.map Document.enumMemberLine ++ ["\x7d"] ∧
      (Document.aliasLine ∈ block ↔ ¬(members.map Prod.snd).Nodup) ∧
      0 ∈ members.map Prod.snd := by
  have inDocument := Document.infix_lines_of_mem_blocks options
    (List.mem_append_left _ (List.mem_map_of_mem (f := Document.enumBlock) stored))
  obtain ⟨displayed, admitted, shown, rfl⟩ := exists_displayed_of_mem_enums stored
  intro constants block
  have sameNumbers : displayed.numbers = constants.numbers := numbers_eq_of_displays shown
  have membersEq := Enumeration.enumMembers_canonicalize displayed
  rw [sameNumbers] at membersEq
  have aliased : Document.aliasLine ∈ block ↔
      ¬((Document.enumMembers displayed.canonicalize).map Prod.snd).Nodup := by
    rw [Enumeration.aliasLine_mem_enumBlock_iff, Enumeration.allowAlias_canonicalize_iff,
      Enumeration.nodup_enumMembers_iff]
  refine ⟨displayed.values, displayed.canonicalize.values.map EnumValue.shown, ?_⟩
  rw [← membersEq]
  exact ⟨admitted, shown, (List.mergeSort_perm _ _).map _,
    displayed.pairwise_shownBefore_canonicalize, inDocument,
    Enumeration.enumBlock_canonicalize displayed, aliased, Enumeration.zero_mem_enumMembers⟩

/-- Constants that a naming calls by their number, one of them invalid and none zero. -/
theorem enum_block_of_manifest_numbered :
    let level := TypeExpr.named "shop" "Level" (.basic "int")
    let constant := fun (name literal : String) =>
      ({ name, package := "shop", exported := none, declared := .const level literal } :
        Declaration)
    let naming : Naming :=
      { Naming.unchanged with enumValue := fun _ value => "V" ++ toString value.value }
    let manifest : Manifest :=
      { name := "shop"
        path := "shop"
        declarations :=
          [constant "High" "0x10", constant "Bad" "1e3", constant "Low" "-1",
            constant "Top" "16"] }
    ∃ enumeration ∈ (ofManifest naming manifest).enums.values,
      Document.enumBlock enumeration =
        ["enum Level \x7b", Document.aliasLine, "  UNKOWN = 0;", "  V-1 = -1;", "  V16 = 16;",
          "  V16 = 16;", "\x7d"] := by
  intro level constant naming manifest
  have run : (ofDeclarations naming "shop" "shop" manifest.declarations).enums.find? "Level" =
      some { Enumeration.empty "Level" with
        values :=
          [{ name := "V16", value := 16, sourceName := "High" },
            { name := "V-1", value := -1, sourceName := "Low" },
            { name := "V16", value := 16, sourceName := "Top" }] } := by
    decide
  have stored := NameTable.mem_values_iff.mpr ⟨"Level", (NameTable.find?_mapValues _
    Enumeration.canonicalize "Level").trans (congrArg _ run)⟩
  refine ⟨_, stored, ?_⟩
  obtain ⟨displayed, listed, _, shows, perm, ordered, _, block, _⟩ :=
    enum_block_of_manifest naming manifest .standard _ stored
  have constants : (collected "shop" "Level" manifest.declarations).values =
      [{ name := "HIGH", value := 16, sourceName := "High" },
        { name := "LOW", value := -1, sourceName := "Low" },
        { name := "TOP", value := 16, sourceName := "Top" }] := by
    decide
  have shownEq : displayed.map EnumValue.shown = [("V16", 16), ("V-1", -1), ("V16", 16)] := by
    change List.Forall₂ _ (collected "shop" "Level" manifest.declarations).values _ at shows
    rw [constants] at shows
    obtain _ | ⟨⟨_, rfl⟩, _ | ⟨⟨_, rfl⟩, _ | ⟨⟨_, rfl⟩, _ | _⟩⟩⟩ := shows
    rfl
  have sorted : listed = [("V-1", -1), ("V16", 16), ("V16", 16)] := by
    rw [shownEq] at perm
    refine (perm.trans (.swap _ _ _)).eq_of_pairwise
      (fun _ _ _ _ => EnumValue.shownBefore_antisymm) ordered ?_
    simp [EnumValue.ShownBefore]
  rw [block, sorted]
  decide

end Catalog

end ProtoSchema
