import ProtoSchema.Proofs.Document.Line

/-!
# What a document tells

A document is read back from the outside in. Its lines are cut at the line breaks, its
imports end at the first empty line below the package option, its blocks end at their
closing braces, and the first letter of a block tells an enum from a message. So the text
of a document determines the package, the imports, the enums with all members and the
messages with all that is shown of their fields.
-/

namespace ProtoSchema

/-- Lists that agree in one view agree in every view that the first one determines. -/
theorem map_eq_map_of_forall {α β γ : Type} {f : α → β} {g : α → γ} {first second : List α}
    (determines : ∀ a ∈ first, ∀ b ∈ second, f a = f b → g a = g b)
    (same : first.map f = second.map f) : first.map g = second.map g := by
  induction first generalizing second with
  | nil =>
      rw [List.map_nil, eq_comm, List.map_eq_nil_iff] at same
      rw [same, List.map_nil]
  | cons a rest ih =>
      cases second with
      | nil => simp at same
      | cons b rest' =>
          rw [List.map_cons, List.map_cons, List.cons.injEq] at same
          obtain ⟨heads, tails⟩ := same
          have headEq := determines a List.mem_cons_self b List.mem_cons_self heads
          have restEq := ih (fun a inRest b inRest' =>
            determines a (List.mem_cons_of_mem _ inRest) b (List.mem_cons_of_mem _ inRest')) tails
          rw [List.map_cons, List.map_cons, headEq, restEq]

namespace Document

/-- What a document shows of an enumeration, the added zero included. -/
structure EnumContent where
  name : String
  allowAlias : Bool
  members : List (String × Int)
deriving Repr, DecidableEq

/-- What a document shows of a message. -/
structure MessageContent where
  name : String
  fields : List FieldContent
deriving Repr, DecidableEq

/-- What a document shows of a catalog. -/
structure Content where
  name : String
  path : String
  imports : List String
  enums : List EnumContent
  messages : List MessageContent
deriving Repr, DecidableEq

/-- The content of an enumeration. -/
def EnumContent.ofEnumeration (enumeration : Enumeration) : EnumContent where
  name := enumeration.name
  allowAlias := enumeration.allowAlias
  members := enumMembers enumeration

/-- The content of a message. -/
def MessageContent.ofMessage (message : Message) : MessageContent where
  name := message.name
  fields := message.fields.map FieldContent.ofField

/-- The content of a catalog. -/
def Content.ofCatalog (catalog : Catalog) : Content where
  name := catalog.name
  path := catalog.path
  imports := catalog.imports
  enums := catalog.enums.values.map EnumContent.ofEnumeration
  messages := catalog.messages.map MessageContent.ofMessage

/-- The texts that a field's line has from the field. -/
def FieldContent.texts (content : FieldContent) : List String :=
  content.typeName :: content.name :: content.jsonName.toList

/-- The texts that an enum block has from the enumeration. -/
def EnumContent.texts (content : EnumContent) : List String :=
  content.name :: content.members.map Prod.fst

/-- The texts that a message block has from the message. -/
def MessageContent.texts (content : MessageContent) : List String :=
  content.name :: content.fields.flatMap FieldContent.texts

/-- The texts that a document has from the catalog. -/
def Content.texts (content : Content) : List String :=
  [content.name, content.path] ++ content.imports ++
    content.enums.flatMap EnumContent.texts ++ content.messages.flatMap MessageContent.texts

/-- A text on one line. -/
def Unbroken (text : String) : Prop :=
  '\n' ∉ text.toList

instance (text : String) : Decidable (Unbroken text) :=
  inferInstanceAs (Decidable ('\n' ∉ text.toList))

@[simp]
theorem unbroken_append {first second : String} :
    Unbroken (first ++ second) ↔ Unbroken first ∧ Unbroken second := by
  simp [Unbroken, String.toList_append]

/-- The content can be told from a document: there are no line breaks in its texts, and
every field can be told from its line. -/
structure Content.IsReadable (content : Content) : Prop where
  unbroken : ∀ text ∈ content.texts, Unbroken text
  fields : ∀ message ∈ content.messages, ∀ field ∈ message.fields, field.IsReadable

instance (content : Content) : Decidable content.IsReadable :=
  decidable_of_iff
    ((∀ text ∈ content.texts, Unbroken text) ∧
      ∀ message ∈ content.messages, ∀ field ∈ message.fields, field.IsReadable)
    ⟨fun ⟨unbroken, fields⟩ => ⟨unbroken, fields⟩,
      fun readable => ⟨readable.unbroken, readable.fields⟩⟩

/-! ## Blocks -/

variable {first second : Enumeration}

/-- The lines between the first and the last one of an enum block. -/
theorem enumBlock_inner_eq_iff :
    (if first.allowAlias then [aliasLine] else []) ++ (enumMembers first).map enumMemberLine =
        (if second.allowAlias then [aliasLine] else []) ++
          (enumMembers second).map enumMemberLine ↔
      first.allowAlias = second.allowAlias ∧ enumMembers first = enumMembers second := by
  have notMember : ∀ rest : List (String × Int), ∀ lines,
      aliasLine :: lines ≠ rest.map enumMemberLine := by
    rintro (_ | ⟨member, rest⟩) lines same
    · cases same
    · exact enumMemberLine_ne_aliasLine member (List.head_eq_of_cons_eq same).symm
  have members : (enumMembers first).map enumMemberLine = (enumMembers second).map enumMemberLine ↔
      enumMembers first = enumMembers second :=
    (List.map_injective_iff.mpr enumMemberLine_injective).eq_iff
  cases first.allowAlias with
  | true =>
      cases second.allowAlias with
      | true => simpa using members
      | false => simpa using notMember _ _
  | false =>
      cases second.allowAlias with
      | true => simpa using (notMember _ _).symm
      | false => simpa using members

theorem enumBlock_eq_iff :
    enumBlock first = enumBlock second ↔
      EnumContent.ofEnumeration first = EnumContent.ofEnumeration second := by
  rw [EnumContent.ofEnumeration, EnumContent.ofEnumeration, EnumContent.mk.injEq,
    ← enumBlock_inner_eq_iff]
  unfold enumBlock
  rw [List.append_cancel_right_eq, List.append_assoc, List.append_assoc, List.singleton_append,
    List.singleton_append, List.cons.injEq]
  constructor
  · rintro ⟨heads, inner⟩
    exact ⟨between_inj heads, inner⟩
  · rintro ⟨names, inner⟩
    exact ⟨by rw [names], inner⟩

theorem messageBlock_eq_iff {first second : Message}
    (firstReadable : ∀ field ∈ (MessageContent.ofMessage first).fields, field.IsReadable)
    (secondReadable : ∀ field ∈ (MessageContent.ofMessage second).fields, field.IsReadable) :
    messageBlock first = messageBlock second ↔
      MessageContent.ofMessage first = MessageContent.ofMessage second := by
  have fieldEq : ∀ a ∈ first.fields, ∀ b ∈ second.fields,
      (fieldLine a = fieldLine b ↔ FieldContent.ofField a = FieldContent.ofField b) :=
    fun a inFirst b inSecond => fieldLine_eq_iff (firstReadable _ (List.mem_map_of_mem inFirst))
      (secondReadable _ (List.mem_map_of_mem inSecond))
  rw [MessageContent.ofMessage, MessageContent.ofMessage, MessageContent.mk.injEq]
  unfold messageBlock
  rw [List.append_cancel_right_eq, List.singleton_append, List.singleton_append, List.cons.injEq]
  constructor
  · rintro ⟨heads, lines⟩
    exact ⟨between_inj heads, map_eq_map_of_forall
      (fun a inFirst b inSecond => (fieldEq a inFirst b inSecond).mp) lines⟩
  · rintro ⟨names, fields⟩
    exact ⟨by rw [names], map_eq_map_of_forall
      (fun a inFirst b inSecond => (fieldEq a inFirst b inSecond).mpr) fields⟩

/-- An enum block starts with an `e`, a message block with an `m`. -/
theorem enumBlock_ne_messageBlock (enumeration : Enumeration) (message : Message) :
    enumBlock enumeration ≠ messageBlock message := by
  intro same
  have heads := congrArg (fun block => (block.headD "").toList.head?) same
  simp [enumBlock, messageBlock, String.toList_append] at heads

/-- A block ends at its only closing brace. -/
def Closed (block : List String) : Prop :=
  ∃ inner, block = inner ++ ["\x7d"] ∧ "\x7d" ∉ inner

theorem brace_ne {line : String} (start : line.toList.head? ≠ some '\x7d') : "\x7d" ≠ line := by
  rintro rfl
  exact start rfl

theorem closed_enumBlock (enumeration : Enumeration) : Closed (enumBlock enumeration) := by
  refine ⟨_, rfl, ?_⟩
  have notHead : "\x7d" ≠ "enum " ++ enumeration.name ++ " \x7b" :=
    brace_ne (by simp [String.toList_append])
  have notMember : ∀ member, enumMemberLine member ≠ "\x7d" :=
    fun member => (brace_ne (by simp [toList_enumMemberLine])).symm
  split <;> simp [notHead, notMember]

theorem closed_messageBlock (message : Message) : Closed (messageBlock message) := by
  refine ⟨_, rfl, ?_⟩
  have notHead : "\x7d" ≠ "message " ++ message.name ++ " \x7b" :=
    brace_ne (by simp [String.toList_append])
  have notField : ∀ field, fieldLine field ≠ "\x7d" :=
    fun field => (brace_ne (by simp [toList_fieldLine])).symm
  simp [notHead, notField]

theorem closed_of_mem_blocks {catalog : Catalog} {block : List String}
    (member : block ∈ blocks catalog) : Closed block := by
  rcases List.mem_append.mp member with inEnums | inMessages
  · obtain ⟨enumeration, _, rfl⟩ := List.mem_map.mp inEnums
    exact closed_enumBlock enumeration
  · obtain ⟨message, _, rfl⟩ := List.mem_map.mp inMessages
    exact closed_messageBlock message

/-- Lists of closed blocks are told apart by their lines. -/
theorem flatMap_blocks_inj {first second : List (List String)}
    (firstClosed : ∀ block ∈ first, Closed block) (secondClosed : ∀ block ∈ second, Closed block)
    (same : first.flatMap ("" :: ·) = second.flatMap ("" :: ·)) : first = second := by
  induction first generalizing second with
  | nil =>
      cases second with
      | nil => rfl
      | cons block rest => simp at same
  | cons block rest ih =>
      cases second with
      | nil => simp at same
      | cons block' rest' =>
          obtain ⟨⟨inner, rfl, notInner⟩, restClosed⟩ := List.forall_mem_cons.mp firstClosed
          obtain ⟨⟨inner', rfl, notInner'⟩, restClosed'⟩ := List.forall_mem_cons.mp secondClosed
          rw [List.flatMap_cons, List.flatMap_cons, List.cons_append, List.cons_append,
            List.cons.injEq, List.append_assoc, List.append_assoc, List.singleton_append,
            List.singleton_append] at same
          obtain ⟨rfl, rests⟩ := append_cons_inj_of_not_mem notInner notInner' same.2
          rw [ih restClosed restClosed' rests]

/-- The blocks of catalogs with the same content are the same, and the other way round. -/
theorem blocks_eq_iff {first second : Catalog}
    (firstReadable : (Content.ofCatalog first).IsReadable)
    (secondReadable : (Content.ofCatalog second).IsReadable) :
    blocks first = blocks second ↔
      (Content.ofCatalog first).enums = (Content.ofCatalog second).enums ∧
        (Content.ofCatalog first).messages = (Content.ofCatalog second).messages := by
  have messageEq : ∀ a ∈ first.messages, ∀ b ∈ second.messages,
      (messageBlock a = messageBlock b ↔
        MessageContent.ofMessage a = MessageContent.ofMessage b) :=
    fun a inFirst b inSecond => messageBlock_eq_iff
      (firstReadable.fields _ (List.mem_map_of_mem inFirst))
      (secondReadable.fields _ (List.mem_map_of_mem inSecond))
  constructor
  · intro same
    have isMessage : ∀ catalog : Catalog, ∀ block ∈ (catalog.messages.map messageBlock).head?,
        ¬∃ enumeration, block = enumBlock enumeration := by
      rintro catalog _ atHead ⟨enumeration, rfl⟩
      obtain ⟨message, _, isHead⟩ := List.mem_map.mp (List.mem_of_mem_head? atHead)
      exact enumBlock_ne_messageBlock enumeration message isHead.symm
    have isEnum : ∀ catalog : Catalog, ∀ block ∈ catalog.enums.values.map enumBlock,
        ∃ enumeration, block = enumBlock enumeration := by
      intro catalog block member
      obtain ⟨enumeration, _, rfl⟩ := List.mem_map.mp member
      exact ⟨enumeration, rfl⟩
    obtain ⟨enums, messages⟩ := append_inj_of_stops (isEnum first) (isEnum second)
      (isMessage first) (isMessage second) same
    exact ⟨map_eq_map_of_forall (fun _ _ _ _ => enumBlock_eq_iff.mp) enums,
      map_eq_map_of_forall (fun a inFirst b inSecond => (messageEq a inFirst b inSecond).mp)
        messages⟩
  · rintro ⟨enums, messages⟩
    have enumBlocks := map_eq_map_of_forall (fun _ _ _ _ => enumBlock_eq_iff.mpr) enums
    have messageBlocks := map_eq_map_of_forall
      (fun a inFirst b inSecond => (messageEq a inFirst b inSecond).mpr) messages
    rw [blocks, blocks, enumBlocks, messageBlocks]

/-! ## Line breaks -/

theorem unbroken_importLine {package : String} (unbroken : Unbroken package) :
    Unbroken (importLine package) := by
  simp only [importLine, unbroken_append, unbroken, and_true]
  decide

theorem unbroken_enumBlock {enumeration : Enumeration}
    (unbroken : ∀ text ∈ (EnumContent.ofEnumeration enumeration).texts, Unbroken text) :
    ∀ line ∈ enumBlock enumeration, Unbroken line := by
  have name : Unbroken enumeration.name := unbroken _ List.mem_cons_self
  intro line listed
  rw [enumBlock, List.mem_append, List.mem_append, List.mem_append, List.mem_singleton,
    List.mem_singleton, List.mem_map] at listed
  rcases listed with ((rfl | inOption) | ⟨member, isMember, rfl⟩) | rfl
  · simp only [unbroken_append, name, and_true]
    decide
  · split at inOption
    · rw [List.mem_singleton.mp inOption]
      decide
    · contradiction
  · have memberName : Unbroken member.1 :=
      unbroken _ (List.mem_cons_of_mem _ (List.mem_map_of_mem isMember))
    have number : Unbroken (toString member.2) := not_mem_repr_int (by decide) (by decide)
    simp only [enumMemberLine, unbroken_append, memberName, number, and_true]
    decide
  · decide

theorem unbroken_fieldLine {field : Field}
    (unbroken : ∀ text ∈ (FieldContent.ofField field).texts, Unbroken text) :
    Unbroken (fieldLine field) := by
  have core : Unbroken (field.typeName ++ " " ++ field.name ++ " = " ++ toString field.order) := by
    have typeName : Unbroken field.typeName := unbroken _ List.mem_cons_self
    have name : Unbroken field.name := unbroken _ (List.mem_cons_of_mem _ List.mem_cons_self)
    have number : Unbroken (toString field.order) := not_mem_repr (by decide)
    simp only [unbroken_append, typeName, name, number, true_and, and_true]
    decide
  rw [fieldLine]
  cases isRepeated : field.isRepeated with
  | true =>
      rw [if_pos rfl, unbroken_append, unbroken_append]
      exact ⟨⟨by decide, core⟩, by decide⟩
  | false =>
      rw [if_neg Bool.false_ne_true]
      cases wire : field.jsonName with
      | none =>
          simp only [unbroken_append] at core ⊢
          exact ⟨⟨by decide, core⟩, by decide⟩
      | some jsonName =>
          have wireName : Unbroken jsonName := by
            refine unbroken _ (List.mem_cons_of_mem _ (List.mem_cons_of_mem _ ?_))
            simp [FieldContent.ofField, isRepeated, wire]
          simp only [unbroken_append] at core ⊢
          exact ⟨⟨⟨⟨by decide, core⟩, by decide⟩, wireName⟩, by decide⟩

theorem unbroken_messageBlock {message : Message}
    (unbroken : ∀ text ∈ (MessageContent.ofMessage message).texts, Unbroken text) :
    ∀ line ∈ messageBlock message, Unbroken line := by
  have name : Unbroken message.name := unbroken _ List.mem_cons_self
  intro line listed
  rw [messageBlock, List.mem_append, List.mem_append, List.mem_singleton, List.mem_singleton,
    List.mem_map] at listed
  rcases listed with (rfl | ⟨field, isField, rfl⟩) | rfl
  · simp only [unbroken_append, name, and_true]
    decide
  · apply unbroken_fieldLine
    intro text inField
    refine unbroken text (List.mem_cons_of_mem _ (List.mem_flatMap.mpr ⟨_, ?_, inField⟩))
    exact List.mem_map_of_mem isField
  · decide

/-- The lines of a document below its package option. -/
def body (catalog : Catalog) : List String :=
  catalog.imports.map importLine ++ (blocks catalog).flatMap ("" :: ·)

theorem unbroken_body {catalog : Catalog} (readable : (Content.ofCatalog catalog).IsReadable) :
    ∀ line ∈ body catalog, Unbroken line := by
  have unbroken := readable.unbroken
  simp only [Content.texts, List.mem_append, or_imp, forall_and] at unbroken
  obtain ⟨⟨⟨_, imports⟩, enums⟩, messages⟩ := unbroken
  intro line listed
  rcases List.mem_append.mp listed with isImport | inBlocks
  · obtain ⟨package, imported, rfl⟩ := List.mem_map.mp isImport
    exact unbroken_importLine (imports package imported)
  · obtain ⟨block, isBlock, inBlock⟩ := List.mem_flatMap.mp inBlocks
    rcases List.mem_cons.mp inBlock with rfl | inBlock
    · decide
    · rcases List.mem_append.mp isBlock with isEnum | isMessage
      · obtain ⟨enumeration, stored, rfl⟩ := List.mem_map.mp isEnum
        exact unbroken_enumBlock (fun text inEnum => enums text
          (List.mem_flatMap.mpr ⟨_, List.mem_map_of_mem stored, inEnum⟩)) line inBlock
      · obtain ⟨message, stored, rfl⟩ := List.mem_map.mp isMessage
        exact unbroken_messageBlock (fun text inMessage => messages text
          (List.mem_flatMap.mpr ⟨_, List.mem_map_of_mem stored, inMessage⟩)) line inBlock

theorem toList_render (options : Options) (catalog : Catalog) :
    (render options catalog).toList =
      (lines options catalog).flatMap (·.toList ++ ['\n']) := by
  simp [render, String.toList_join, List.flatMap_map, String.toList_append]

/-- Unbroken lines are cut at their line breaks. -/
theorem flatMap_lines_inj {first second : List String}
    (firstUnbroken : ∀ line ∈ first, Unbroken line)
    (secondUnbroken : ∀ line ∈ second, Unbroken line)
    (same : first.flatMap (·.toList ++ ['\n']) = second.flatMap (·.toList ++ ['\n'])) :
    first = second := by
  induction first generalizing second with
  | nil =>
      cases second with
      | nil => rfl
      | cons line rest => simp at same
  | cons line rest ih =>
      cases second with
      | nil => simp at same
      | cons line' rest' =>
          rw [List.flatMap_cons, List.flatMap_cons, List.append_assoc, List.append_assoc,
            List.singleton_append, List.singleton_append] at same
          rw [List.forall_mem_cons] at firstUnbroken secondUnbroken
          obtain ⟨lineEq, rests⟩ :=
            append_cons_inj_of_not_mem firstUnbroken.1 secondUnbroken.1 same
          rw [String.toList_inj.mp lineEq, ih firstUnbroken.2 secondUnbroken.2 rests]

/-- An unbroken text between a known front and a known end of its line. -/
theorem unbroken_between_inj {front back rest rest' : List Char} {text text' : String}
    (unbroken : Unbroken text) (unbroken' : Unbroken text') (backUnbroken : '\n' ∉ back)
    (same : front ++ text.toList ++ back ++ '\n' :: rest =
      front ++ text'.toList ++ back ++ '\n' :: rest') :
    text = text' ∧ rest = rest' := by
  rw [List.append_assoc front, List.append_assoc front, List.append_assoc front,
    List.append_assoc front, List.append_cancel_left_eq] at same
  obtain ⟨textEq, restEq⟩ := append_cons_inj_of_not_mem
    (by simpa using ⟨unbroken, backUnbroken⟩) (by simpa using ⟨unbroken', backUnbroken⟩) same
  exact ⟨String.toList_inj.mp (List.append_cancel_right textEq), restEq⟩

theorem flatMap_opening (options : Options) (name path : String) (rest : List Char) :
    (opening options name path).flatMap (·.toList ++ ['\n']) ++ rest =
      "syntax = \"proto3\";\npackage ".toList ++ name.toList ++ [';'] ++ '\n' ::
        (("\noption go_package = \"".toList ++ options.packageOptionStart.toList) ++ path.toList ++
          ['"', ';'] ++ '\n' :: rest) := by
  simp [opening, String.toList_append]

theorem lines_eq_opening_append_body (options : Options) (catalog : Catalog) :
    lines options catalog = opening options catalog.name catalog.path ++ body catalog :=
  List.append_assoc _ _ _

/-- The imports of a body end at its first empty line. -/
theorem body_inj {first second : Catalog} (same : body first = body second) :
    first.imports = second.imports ∧ blocks first = blocks second := by
  have isImport : ∀ catalog : Catalog, ∀ line ∈ catalog.imports.map importLine, line ≠ "" := by
    rintro catalog _ listed rfl
    obtain ⟨package, _, empty⟩ := List.mem_map.mp listed
    simpa [importLine, String.toList_append] using congrArg String.toList empty
  have isEmpty : ∀ catalog : Catalog,
      ∀ line ∈ ((blocks catalog).flatMap ("" :: ·)).head?, ¬line ≠ "" := by
    intro catalog line atHead
    cases split : blocks catalog with
    | nil => simp [split] at atHead
    | cons block rest => simpa [split, eq_comm] using atHead
  obtain ⟨imports, blockLines⟩ := append_inj_of_stops (isImport first) (isImport second)
    (isEmpty first) (isEmpty second) same
  exact ⟨List.map_injective_iff.mpr importLine_injective imports,
    flatMap_blocks_inj (fun _ => closed_of_mem_blocks) (fun _ => closed_of_mem_blocks) blockLines⟩

/-- Documents are equal exactly if they show the same of their catalogs. -/
theorem render_eq_iff (options : Options) {first second : Catalog}
    (firstReadable : (Content.ofCatalog first).IsReadable)
    (secondReadable : (Content.ofCatalog second).IsReadable) :
    render options first = render options second ↔
      Content.ofCatalog first = Content.ofCatalog second := by
  have package : ∀ {catalog}, (Content.ofCatalog catalog).IsReadable →
      Unbroken catalog.name ∧ Unbroken catalog.path :=
    fun readable => ⟨readable.unbroken _ (by simp [Content.texts, Content.ofCatalog]),
      readable.unbroken _ (by simp [Content.texts, Content.ofCatalog])⟩
  obtain ⟨firstName, firstPath⟩ := package firstReadable
  obtain ⟨secondName, secondPath⟩ := package secondReadable
  have blocksEq := blocks_eq_iff firstReadable secondReadable
  rw [Content.ofCatalog, Content.ofCatalog, Content.mk.injEq]
  constructor
  · intro same
    have chars := congrArg String.toList same
    rw [toList_render, toList_render, lines_eq_opening_append_body, lines_eq_opening_append_body,
      List.flatMap_append, List.flatMap_append, flatMap_opening, flatMap_opening] at chars
    obtain ⟨names, chars⟩ := unbroken_between_inj firstName secondName (by decide) chars
    obtain ⟨paths, chars⟩ := unbroken_between_inj firstPath secondPath (by decide) chars
    have bodies :=
      flatMap_lines_inj (unbroken_body firstReadable) (unbroken_body secondReadable) chars
    obtain ⟨imports, sameBlocks⟩ := body_inj bodies
    obtain ⟨enums, messages⟩ := blocksEq.mp sameBlocks
    exact ⟨names, paths, imports, enums, messages⟩
  · rintro ⟨names, paths, imports, enums, messages⟩
    rw [render, render, lines_eq_opening_append_body, lines_eq_opening_append_body, body, body,
      names, paths, imports, blocksEq.mpr ⟨enums, messages⟩]

/-- An added zero looks like a constant of its name, and a wire name of a repeated field does
not show; a wire name of another field does. -/
theorem render_eq_iff_wire_names :
    let level := fun (values : List EnumValue) (missingDefault : Bool) =>
      ({ name := "Level", values, allowAlias := false, missingDefault, hasGaps := false } :
        Enumeration)
    let field := fun (isRepeated : Bool) (jsonName : Option String) =>
      ({ name := "lines", typeName := "map<string, int64>", order := 1, isRepeated, jsonName,
          sourceName := "Lines", type := .basic "int", references := [] } :
        Field)
    let catalog := fun (enumeration : Enumeration) (shown : Field) =>
      ({ Catalog.empty "shop" "shop" with
          enums := NameTable.empty.insert "Level" enumeration
          messages := [{ name := "Order", fields := [shown] }] } :
        Catalog)
    let zero := level [{ name := "UNKOWN", value := 0, sourceName := "Unkown" }] false
    render .standard (catalog (level [] true) (field true none)) =
        render .standard (catalog zero (field true (some "rows"))) ∧
      render .standard (catalog zero (field false none)) ≠
        render .standard (catalog zero (field false (some "rows"))) := by
  intro level field catalog zero
  exact ⟨(render_eq_iff .standard (by decide) (by decide)).mpr (by decide),
    fun same => absurd ((render_eq_iff .standard (by decide) (by decide)).mp same) (by decide)⟩

end Document

end ProtoSchema
