import ProtoSchema.Proofs.Catalog.MessageNames
import ProtoSchema.Proofs.Document.Content
import ProtoSchema.Proofs.Text.Quotation

/-!
# Wire names in a document

A field's line gives its wire name between quotes, and gives it as it stands. The tag that
the name comes from may have quotes and backslashes behind backslashes, and line breaks, so
the name may hold any character. What stands between the quotes of the line is then read
back as the name only if no character of the name has a meaning there.
-/

namespace ProtoSchema

/-- The field is that of a struct member; how it is displayed may differ. -/
def Field.ComesFrom (field : Field) (home : String) (order : Nat) (member : Member) : Prop :=
  field = { ofMember home order member with name := field.name, typeName := field.typeName }

namespace Document

/-- A field's line up to its wire name. -/
def wireNameFront (field : Field) : List Char :=
  ("  " ++ (field.typeName ++ " " ++ field.name ++ " = " ++ toString field.order) ++
    " [json_name=").toList

/-- The line that a text begins with. -/
def firstLine (text : List Char) : List Char :=
  text.takeWhile (· ≠ '\n')

/-- The field's line, with which the text begins, gives a wire name: what follows
`json_name=` is a quoted text, whose quote ends directly before the closing bracket and
whose content is the name. -/
def GivesWireName (text : List Char) (field : Field) (wireName : String) : Prop :=
  ∃ items : List Quotation.Item,
    firstLine text =
        wireNameFront field ++ '"' :: (Quotation.text items ++ '"' :: [']', ';']) ∧
      Quotation.content items = wireName.toList

variable {field : Field} {wireName : String}

theorem toList_fieldLine_of_jsonName (single : field.isRepeated = false)
    (named : field.jsonName = some wireName) :
    (fieldLine field).toList =
      wireNameFront field ++ '"' :: (wireName.toList ++ '"' :: [']', ';']) := by
  simp [fieldLine, wireNameFront, single, named, String.toList_append]

theorem not_mem_wireNameFront (unbrokenType : Unbroken field.typeName)
    (unbrokenName : Unbroken field.name) : '\n' ∉ wireNameFront field := by
  have number : Unbroken (toString field.order) := not_mem_repr (by decide)
  change Unbroken _
  simp only [unbroken_append, unbrokenType, unbrokenName, number, and_true, true_and]
  decide

theorem firstLine_of_not_mem {line : List Char} (unbroken : '\n' ∉ line) (below : List Char) :
    firstLine (line ++ '\n' :: below) = line := by
  have inLine : ∀ c ∈ line, decide (c ≠ '\n') = true := fun c member =>
    decide_eq_true (ne_of_mem_of_not_mem member unbroken)
  rw [firstLine, List.takeWhile_append_of_pos inLine, List.takeWhile_cons_of_neg (by simp),
    List.append_nil]

theorem not_mem_firstLine (text : List Char) : '\n' ∉ firstLine text := by
  intro member
  have inLine := List.mem_takeWhile_imp member
  contradiction

/-- The line gives the wire name exactly if the name needs no backslash between quotes and
leaves the line whole. -/
theorem givesWireName_iff (single : field.isRepeated = false)
    (named : field.jsonName = some wireName) (unbrokenType : Unbroken field.typeName)
    (unbrokenName : Unbroken field.name) (below : List Char) :
    GivesWireName ((fieldLine field).toList ++ '\n' :: below) field wireName ↔
      '"' ∉ wireName.toList ∧ '\\' ∉ wireName.toList ∧ '\n' ∉ wireName.toList := by
  rw [← and_assoc, ← Quotation.exists_text_eq_content_iff]
  have lineEq := toList_fieldLine_of_jsonName single named
  have unbrokenFront := not_mem_wireNameFront unbrokenType unbrokenName
  have whole : '\n' ∉ wireName.toList →
      firstLine ((fieldLine field).toList ++ '\n' :: below) = (fieldLine field).toList := by
    intro unbroken
    refine firstLine_of_not_mem ?_ below
    rw [lineEq]
    simpa using ⟨unbrokenFront, unbroken⟩
  constructor
  · rintro ⟨items, given, content⟩
    have unbroken : '\n' ∉ wireName.toList := by
      intro member
      refine not_mem_firstLine ((fieldLine field).toList ++ '\n' :: below) ?_
      rw [given]
      have inText : '\n' ∈ Quotation.text items :=
        Quotation.mem_text_of_mem_content (content ▸ member)
      simp [inText]
    rw [whole unbroken, lineEq] at given
    have between := List.tail_eq_of_cons_eq (List.append_cancel_left given)
    exact ⟨⟨items, (List.append_cancel_right between).symm, content⟩, unbroken⟩
  · rintro ⟨⟨items, written, content⟩, unbroken⟩
    refine ⟨items, ?_, content⟩
    rw [whole unbroken, lineEq, written]

/-! ## Lines of a document -/

/-- A line that is not the first one stands between two line breaks. -/
theorem exists_flatMap_eq_append_line {before : List String} (nonempty : before ≠ [])
    (line : String) (after : List String) :
    ∃ above below, (before ++ line :: after).flatMap (·.toList ++ ['\n']) =
      above ++ '\n' :: (line.toList ++ '\n' :: below) := by
  obtain ⟨front, last, rfl⟩ := (List.eq_nil_or_concat' before).resolve_left nonempty
  exact ⟨front.flatMap (·.toList ++ ['\n']) ++ last.toList,
    after.flatMap (·.toList ++ ['\n']), by simp⟩

/-- The line of a field stands in the document, below the head of its message. -/
theorem exists_render_eq_append_fieldLine (options : Options) {catalog : Catalog}
    {message : Message} (stored : message ∈ catalog.messages) (listed : field ∈ message.fields) :
    ∃ above below, (render options catalog).toList =
      above ++ '\n' :: ((fieldLine field).toList ++ '\n' :: below) := by
  have inBlocks : messageBlock message ∈ blocks catalog :=
    List.mem_append_right _ (List.mem_map_of_mem stored)
  obtain ⟨before, after, linesEq⟩ := infix_lines_of_mem_blocks options inBlocks
  obtain ⟨earlier, later, fieldsEq⟩ := List.append_of_mem listed
  have split : lines options catalog =
      (before ++ ("message " ++ message.name ++ " \x7b") :: earlier.map fieldLine) ++
        fieldLine field :: (later.map fieldLine ++ ["\x7d"] ++ after) := by
    rw [← linesEq, messageBlock, fieldsEq]
    simp
  rw [toList_render, split]
  exact exists_flatMap_eq_append_line (by simp) _ _

/-- A wire name that a member's tag gives is read back from the field's line exactly if it
has no quote, no backslash and no line break. -/
theorem wireName_survives_iff (options : Options) {catalog : Catalog} {message : Message}
    {field : Field} (stored : message ∈ catalog.messages) (listed : field ∈ message.fields)
    {home : String} {order : Nat} {member : Member} (origin : field.ComesFrom home order member)
    (single : field.isRepeated = false) (unbrokenType : Unbroken field.typeName)
    (unbrokenName : Unbroken field.name) {wireName : String}
    (tagged : Tag.jsonName? member.tag = some wireName) :
    ∃ above below,
      (render options catalog).toList =
          above ++ '\n' :: ((fieldLine field).toList ++ '\n' :: below) ∧
        (GivesWireName ((fieldLine field).toList ++ '\n' :: below) field wireName ↔
          '"' ∉ wireName.toList ∧ '\\' ∉ wireName.toList ∧ '\n' ∉ wireName.toList) := by
  obtain ⟨above, below, split⟩ := exists_render_eq_append_fieldLine options stored listed
  have named : field.jsonName = some wireName := by
    rw [origin]
    exact tagged
  exact ⟨above, below, split, givesWireName_iff single named unbrokenType unbrokenName below⟩

/-- A tag with a quote elsewhere, and a name behind a backslash that it does not need. -/
theorem wireName_survives_iff_plain :
    let member : Member :=
      { name := "Title"
        exported := none
        tag := "doc:\"a\\\"b\"json:\"t\\i,x\""
        type := .basic "string" }
    let field := Field.ofMember "shop" 1 member
    let message : Message := { name := "Order", fields := [field] }
    let catalog : Catalog := { Catalog.empty "shop" "shop" with messages := [message] }
    message ∈ catalog.messages ∧ field ∈ message.fields ∧ field.ComesFrom "shop" 1 member ∧
      field.isRepeated = false ∧ Unbroken field.typeName ∧ Unbroken field.name ∧
      Tag.jsonName? member.tag = some "ti" ∧
      ∃ above below,
        (render .standard catalog).toList =
            above ++ '\n' :: ((fieldLine field).toList ++ '\n' :: below) ∧
          GivesWireName ((fieldLine field).toList ++ '\n' :: below) field "ti" := by
  intro member field message catalog
  have stored : message ∈ catalog.messages := List.mem_singleton.mpr rfl
  have listed : field ∈ message.fields := List.mem_singleton.mpr rfl
  have origin : field.ComesFrom "shop" 1 member := rfl
  have single : field.isRepeated = false := by decide
  have unbrokenType : Unbroken field.typeName := by decide
  have unbrokenName : Unbroken field.name := by decide
  have tagged : Tag.jsonName? member.tag = some "ti" := by decide
  obtain ⟨above, below, split, survives⟩ := wireName_survives_iff .standard stored listed origin
    single unbrokenType unbrokenName tagged
  exact ⟨stored, listed, origin, single, unbrokenType, unbrokenName, tagged, above, below, split,
    survives.mpr (by decide)⟩

/-- A quote in a wire name ends the quoted text of its line before the name does. -/
theorem quoted_wireName_lost :
    let member : Member :=
      { name := "Title", exported := none, tag := "json:\"a\\\"b\"", type := .basic "string" }
    let field := Field.ofMember "shop" 1 member
    let order : Declaration :=
      { name := "Order"
        package := "shop"
        exported := none
        declared := .type (.named "shop" "Order" (.struct [member])) }
    let manifest : Manifest := { name := "shop", path := "shop", declarations := [order] }
    Tag.jsonName? member.tag = some "a\"b" ∧ field.isRepeated = false ∧
      fieldLine field = "  string title = 1 [json_name=\"a\"b\"];" ∧
      ["message Order \x7b", fieldLine field, "\x7d"] ∈
        blocks (Catalog.ofManifest .standard manifest) ∧
      ∀ below, ¬GivesWireName ((fieldLine field).toList ++ '\n' :: below) field "a\"b" := by
  intro member field order manifest
  have single : field.isRepeated = false := by decide
  have named : field.jsonName = some "a\"b" := by decide
  have stored : Catalog.builtMessage "shop" order ∈
      (Catalog.ofManifest .standard manifest).messages :=
    (Catalog.messages_ofManifest_perm manifest).mem_iff.mpr (List.mem_singleton.mpr rfl)
  refine ⟨by decide, single, by decide, ?_, ?_⟩
  · exact List.mem_append_right _ (List.mem_map.mpr ⟨_, stored, by decide⟩)
  · intro below given
    have plain := (givesWireName_iff single named (by decide) (by decide) below).mp given
    exact absurd plain.1 (by decide)

end Document

end ProtoSchema
