import ProtoSchema.Proofs.Catalog.Run
import ProtoSchema.Proofs.FirstOccurrence

/-!
# The structs of a run

Among the exported structs of a run only the first of each signature counts. One
that is at home becomes a message and needs the packages that its fields refer
to; one that another package owns needs that package and gives no message. The
signature is noted before the owner is looked at, so a foreign struct keeps a
later one of the same signature out.
-/

namespace ProtoSchema

namespace Declaration

/-- The exported structs of a list, each signature once. -/
def firstStructs (declarations : List Declaration) : List Declaration :=
  firstOf (·.type.signature) (declarations.filter isExportedStruct)

/-- Whether a declaration belongs to the package `home` or to none. -/
def isAtHome (home : String) (declaration : Declaration) : Bool :=
  declaration.owner == "" || declaration.owner == home

/-- The packages that the schema of `home` has to import for a struct. -/
def requiredPackages (home : String) (declaration : Declaration) : List String :=
  if declaration.isAtHome home then
    (Catalog.builtMessage home declaration).fields.flatMap Field.references
  else [declaration.owner]

/-- The declaration of a struct in place. -/
def inPlace (package name : String) (members : List Member) : Declaration where
  name
  package
  exported := none
  declared := .type (.struct members)

theorem isForeign_owner_eq (home : String) (declaration : Declaration) :
    FieldType.isForeign home declaration.owner = !declaration.isAtHome home := by
  simp [FieldType.isForeign, isAtHome, bne]

theorem firstStructs_concat_of_not_struct (declarations : List Declaration)
    {last : Declaration} (noStruct : last.isExportedStruct = false) :
    firstStructs (declarations ++ [last]) = firstStructs declarations := by
  simp [firstStructs, noStruct]

/-- Whether a list has an exported struct of a signature. -/
def HasSignature (declarations : List Declaration) (signature : String) : Prop :=
  ∃ earlier ∈ declarations, earlier.isExportedStruct = true ∧ earlier.type.signature = signature

instance (declarations : List Declaration) (signature : String) :
    Decidable (HasSignature declarations signature) :=
  inferInstanceAs (Decidable (∃ earlier ∈ declarations, _ ∧ _))

theorem hasSignature_iff_mem_map {declarations : List Declaration} {signature : String} :
    HasSignature declarations signature ↔
      signature ∈ (declarations.filter isExportedStruct).map (·.type.signature) := by
  simp [HasSignature, and_assoc]

theorem firstStructs_concat_of_repeated {declarations : List Declaration} {last : Declaration}
    (struct : last.isExportedStruct = true)
    (repeated : HasSignature declarations last.type.signature) :
    firstStructs (declarations ++ [last]) = firstStructs declarations := by
  rw [hasSignature_iff_mem_map] at repeated
  simpa [firstStructs, struct] using firstOf_concat_of_mem repeated

theorem firstStructs_concat_of_fresh {declarations : List Declaration} {last : Declaration}
    (struct : last.isExportedStruct = true)
    (fresh : ¬HasSignature declarations last.type.signature) :
    firstStructs (declarations ++ [last]) = firstStructs declarations ++ [last] := by
  rw [hasSignature_iff_mem_map] at fresh
  simpa [firstStructs, struct] using firstOf_concat_of_not_mem fresh

theorem hasSignature_concat (declarations : List Declaration) (last : Declaration)
    (signature : String) :
    HasSignature (declarations ++ [last]) signature ↔
      HasSignature declarations signature ∨
        last.isExportedStruct = true ∧ last.type.signature = signature := by
  simp [HasSignature, or_and_right, exists_or]

end Declaration

/-- The usual naming displays a message as it is built. -/
theorem Naming.standard_applyMessage {catalog : Catalog} {home : String}
    (samePath : catalog.path = home) (name : String) (members : List Member) :
    Naming.standard.applyMessage catalog (Message.ofMembers home name members) =
      Message.ofMembers home name members := by
  subst samePath
  have displayed : ∀ field ∈ (Message.ofMembers catalog.path name members).fields,
      Naming.standard.applyField catalog field = field := by
    intro field member
    obtain ⟨index, _, rfl⟩ := List.mem_mapIdx.mp member
    rfl
  exact congrArg (Message.mk name) ((List.map_congr_left displayed).trans (List.map_id' _))

namespace Catalog

variable {naming : Naming} {catalog : Catalog} {declaration : Declaration}

/-! ## Steps -/

/-- A catalog that has noted the signature and the imports of a struct. -/
def noteStruct (catalog : Catalog) (declaration : Declaration) : Catalog :=
  (catalog.markSeen declaration.type.signature).addImports
    (declaration.requiredPackages catalog.path)

theorem noteStruct_eq (catalog : Catalog) (declaration : Declaration) :
    catalog.noteStruct declaration =
      { catalog with
        imports := importsWith catalog.imports (declaration.requiredPackages catalog.path)
        seen := declaration.type.signature :: catalog.seen } := by
  rw [noteStruct, addImports_eq]
  rfl

@[simp]
theorem noteStruct_path (catalog : Catalog) (declaration : Declaration) :
    (catalog.noteStruct declaration).path = catalog.path := by
  rw [noteStruct_eq]

theorem ingest_of_seen_struct (naming : Naming) (struct : declaration.isExportedStruct = true)
    (seen : declaration.type.signature ∈ catalog.seen) :
    catalog.ingest naming declaration = (.ok .duplicate, catalog) := by
  rw [ingest_of_struct naming catalog struct, addMessage_of_seen naming seen]

theorem ingest_of_foreign_struct (naming : Naming)
    (struct : declaration.isExportedStruct = true)
    (fresh : declaration.type.signature ∉ catalog.seen)
    (foreign : declaration.isAtHome catalog.path = false) :
    catalog.ingest naming declaration =
      (.ok (.imported declaration.owner), catalog.noteStruct declaration) := by
  have elsewhere : FieldType.isForeign catalog.path declaration.owner = true := by
    simp [Declaration.isForeign_owner_eq, foreign]
  rw [ingest_of_struct naming catalog struct, addMessage_of_foreign naming fresh elsewhere,
    noteStruct, Declaration.requiredPackages, foreign]
  rfl

theorem ingest_of_home_struct (naming : Naming) (struct : declaration.isExportedStruct = true)
    (fresh : declaration.type.signature ∉ catalog.seen)
    (home : declaration.isAtHome catalog.path = true) :
    catalog.ingest naming declaration =
      let shown := naming.applyMessage (catalog.noteStruct declaration)
        (builtMessage catalog.path declaration)
      (.ok (.message shown.name),
        { catalog.noteStruct declaration with messages := catalog.messages ++ [shown] }) := by
  have here : FieldType.isForeign catalog.path declaration.owner = false := by
    simp [Declaration.isForeign_owner_eq, home]
  have under := Declaration.underlying_of_isStruct (Bool.and_eq_true_iff.mp struct).2
  rw [ingest_of_struct naming catalog struct, addMessage_of_members naming fresh here under,
    noteStruct, Declaration.requiredPackages, home]
  simp only [addImports_eq, if_true]
  rfl

/-- Under the usual naming the message of a struct is stored as it is built. -/
theorem ingest_standard_of_home_struct (struct : declaration.isExportedStruct = true)
    (fresh : declaration.type.signature ∉ catalog.seen)
    (home : declaration.isAtHome catalog.path = true) :
    catalog.ingest .standard declaration =
      (.ok (.message declaration.name),
        { catalog.noteStruct declaration with
          messages := catalog.messages ++ [builtMessage catalog.path declaration] }) := by
  have asBuilt : Naming.standard.applyMessage (catalog.noteStruct declaration)
      (builtMessage catalog.path declaration) = builtMessage catalog.path declaration :=
    Naming.standard_applyMessage (noteStruct_path catalog declaration) _ _
  rw [ingest_of_home_struct .standard struct fresh home]
  simp only [asBuilt]
  rfl

/-- A struct of new signature is noted, whoever owns it. -/
theorem ingest_of_fresh_struct (naming : Naming) (struct : declaration.isExportedStruct = true)
    (fresh : declaration.type.signature ∉ catalog.seen) :
    (catalog.ingest naming declaration).2.seen =
        declaration.type.signature :: catalog.seen ∧
      (catalog.ingest naming declaration).2.imports =
        importsWith catalog.imports (declaration.requiredPackages catalog.path) := by
  cases home : declaration.isAtHome catalog.path with
  | true =>
      rw [ingest_of_home_struct naming struct fresh home, noteStruct_eq]
      exact ⟨rfl, rfl⟩
  | false =>
      rw [ingest_of_foreign_struct naming struct fresh home, noteStruct_eq]
      exact ⟨rfl, rfl⟩

/-- Under the usual naming a struct of new signature gives its message if it is at home. -/
theorem messages_ingest_of_fresh_struct (struct : declaration.isExportedStruct = true)
    (fresh : declaration.type.signature ∉ catalog.seen) :
    (catalog.ingest .standard declaration).2.messages =
      catalog.messages ++
        if declaration.isAtHome catalog.path then [builtMessage catalog.path declaration]
        else [] := by
  cases home : declaration.isAtHome catalog.path with
  | true =>
      rw [ingest_standard_of_home_struct struct fresh home]
      rfl
  | false =>
      rw [ingest_of_foreign_struct .standard struct fresh home, noteStruct_eq]
      exact (List.append_nil _).symm

/-! ## Runs -/

variable (name path : String)

/-- The signatures seen are those of the exported structs so far. -/
theorem mem_seen_ofDeclarations (naming : Naming) (declarations : List Declaration)
    (signature : String) :
    signature ∈ (ofDeclarations naming name path declarations).seen ↔
      Declaration.HasSignature declarations signature := by
  induction declarations using List.reverseRecOn with
  | nil => simp [empty, Declaration.HasSignature]
  | append_singleton declarations last ih =>
      rw [ofDeclarations_concat, Declaration.hasSignature_concat, ← ih]
      cases struct : last.isExportedStruct with
      | false => simp [(ingest_of_not_struct naming _ struct).2.2]
      | true =>
          by_cases seen : last.type.signature ∈ (ofDeclarations naming name path declarations).seen
          · rw [ingest_of_seen_struct naming struct seen]
            constructor
            · exact .inl
            · rintro (known | ⟨_, rfl⟩)
              · exact known
              · exact seen
          · rw [(ingest_of_fresh_struct naming struct seen).1, List.mem_cons]
            simp [or_comm, eq_comm]

/-- Recording imports one by one keeps the first occurrence of each. -/
theorem importsWith_eraseDups (imports packages : List String) :
    importsWith imports.eraseDups packages = (imports ++ packages).eraseDups := by
  induction packages generalizing imports with
  | nil => simp [importsWith]
  | cons package rest ih =>
      have step : importsWith imports.eraseDups [package] = (imports ++ [package]).eraseDups := by
        simp [importsWith, eraseDups_concat]
      calc
        importsWith imports.eraseDups (package :: rest) =
            importsWith (importsWith imports.eraseDups [package]) rest := rfl
        _ = importsWith (imports ++ [package]).eraseDups rest := by rw [step]
        _ = (imports ++ [package] ++ rest).eraseDups := ih (imports ++ [package])
        _ = (imports ++ package :: rest).eraseDups := by rw [List.append_assoc]; rfl

/-- The imports of a run are the packages that its structs require, each once. -/
theorem imports_ofDeclarations (naming : Naming) (declarations : List Declaration) :
    (ofDeclarations naming name path declarations).imports =
      ((Declaration.firstStructs declarations).flatMap
        (Declaration.requiredPackages path)).eraseDups := by
  induction declarations using List.reverseRecOn with
  | nil => rfl
  | append_singleton declarations last ih =>
      rw [ofDeclarations_concat]
      cases struct : last.isExportedStruct with
      | false =>
          rw [(ingest_of_not_struct naming _ struct).2.1,
            Declaration.firstStructs_concat_of_not_struct declarations struct, ih]
      | true =>
          by_cases repeated : Declaration.HasSignature declarations last.type.signature
          · have seen := (mem_seen_ofDeclarations name path naming _ _).mpr repeated
            rw [ingest_of_seen_struct naming struct seen,
              Declaration.firstStructs_concat_of_repeated struct repeated, ih]
          · have unseen := mt (mem_seen_ofDeclarations name path naming _ _).mp repeated
            rw [(ingest_of_fresh_struct naming struct unseen).2,
              Declaration.firstStructs_concat_of_fresh struct repeated, ih, ofDeclarations_path,
              importsWith_eraseDups, List.flatMap_append, List.flatMap_singleton]

/-- The messages of a run, in the order in which their structs come. -/
theorem messages_ofDeclarations (declarations : List Declaration) :
    (ofDeclarations .standard name path declarations).messages =
      ((Declaration.firstStructs declarations).filter (Declaration.isAtHome path)).map
        (builtMessage path) := by
  induction declarations using List.reverseRecOn with
  | nil => rfl
  | append_singleton declarations last ih =>
      rw [ofDeclarations_concat]
      cases struct : last.isExportedStruct with
      | false =>
          rw [(ingest_of_not_struct .standard _ struct).1,
            Declaration.firstStructs_concat_of_not_struct declarations struct, ih]
      | true =>
          by_cases repeated : Declaration.HasSignature declarations last.type.signature
          · have seen := (mem_seen_ofDeclarations name path .standard _ _).mpr repeated
            rw [ingest_of_seen_struct .standard struct seen,
              Declaration.firstStructs_concat_of_repeated struct repeated, ih]
          · have unseen := mt (mem_seen_ofDeclarations name path .standard _ _).mp repeated
            rw [messages_ingest_of_fresh_struct struct unseen, ih, ofDeclarations_path,
              Declaration.firstStructs_concat_of_fresh struct repeated, List.filter_append,
              List.map_append, List.filter_singleton]
            cases last.isAtHome path <;> rfl

/-- Exact content of a run: its messages, its imports, and what it makes of the next
struct. A repeated signature leaves the whole catalog as it is. -/
theorem structs_of_run (declarations : List Declaration) :
    let catalog := ofDeclarations .standard name path declarations
    let firsts := Declaration.firstStructs declarations
    catalog.messages =
        (firsts.filter (Declaration.isAtHome path)).map (builtMessage path) ∧
      catalog.imports = (firsts.flatMap (Declaration.requiredPackages path)).eraseDups ∧
      ∀ next : Declaration, next.isExportedStruct = true →
        (Declaration.HasSignature declarations next.type.signature →
          catalog.ingest .standard next = (.ok .duplicate, catalog)) ∧
        (¬Declaration.HasSignature declarations next.type.signature →
          (catalog.ingest .standard next).1 =
            .ok (if next.isAtHome path then .message next.name else .imported next.owner)) := by
  refine ⟨messages_ofDeclarations name path declarations,
    imports_ofDeclarations name path .standard declarations, ?_⟩
  intro next struct
  rw [← mem_seen_ofDeclarations name path .standard]
  constructor
  · intro seen
    exact ingest_of_seen_struct .standard struct seen
  · intro fresh
    cases home : next.isAtHome path with
    | true => simp [ingest_standard_of_home_struct struct fresh, home]
    | false => simp [ingest_of_foreign_struct .standard struct fresh, home]

/-- A struct of the package that comes after a foreign one of its signature, one with a field
of a foreign type, and one that comes after all of these. -/
theorem structs_of_run_shadowed :
    let total := Member.mk "Total" none "" (.basic "int")
    let rate := Member.mk "Rate" none "" (.pointer (.named "tax" "Rate" (.basic "float64")))
    let invoice := Declaration.inPlace "billing" "Invoice" [total]
    let order := Declaration.inPlace "shop" "Order" [total]
    let cart := Declaration.inPlace "shop" "Cart" [total, rate]
    let basket := Declaration.inPlace "shop" "Basket" []
    let catalog := ofDeclarations .standard "shop" "shop" [invoice, order, cart]
    let message := builtMessage "shop" cart
    catalog.messages = [message] ∧
      (message.fields.map fun field => (field.typeName, field.references)) =
        [("int64", []), ("tax.Rate", ["tax"])] ∧
      catalog.imports = ["billing", "tax"] ∧
      catalog.ingest .standard order = (.ok .duplicate, catalog) ∧
      (catalog.ingest .standard basket).1 = .ok (.message "Basket") := by
  intro total rate invoice order cart basket catalog message
  have content := structs_of_run "shop" "shop" [invoice, order, cart]
  refine ⟨content.1, by decide, content.2.1.trans (by decide), (content.2.2 order rfl).1 ?_,
    (content.2.2 basket rfl).2 ?_⟩
  · exact ⟨invoice, List.mem_cons_self, rfl, rfl⟩
  · rintro ⟨earlier, member, _, same⟩
    simp only [List.mem_cons, List.not_mem_nil, or_false] at member
    rcases member with rfl | rfl | rfl <;> exact absurd same (by decide)

end Catalog

end ProtoSchema
