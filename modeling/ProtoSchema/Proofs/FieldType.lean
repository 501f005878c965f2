import ProtoSchema.FieldType
import ProtoSchema.Proofs.FirstOccurrence

/-!
# What the type of a field is

A type says in three steps how a field of it is written. First the type is resolved: names
in front of it are looked through, a sequence gives its elements, a map gives itself, and
anything else is written as it was declared. Then the pointers and sequences are erased
that are left outside named types and structs declared in place. What remains is printed,
and each named type of another package mentions that package. `Resolves` puts these steps
down as rules, and the rules determine a field type. The packages that a type mentions are
also found in one pass that adds those it has not met.
-/

namespace ProtoSchema

/-! ## Resolution -/

namespace TypeExpr

variable {type part other otherPart wrapped : TypeExpr}

theorem underlying_ne_named : ∀ (type : TypeExpr) {package name : String} {declared : TypeExpr},
    type.underlying ≠ .named package name declared
  | .named _ _ declared, _, _, _ => declared.underlying_ne_named
  | .basic _, _, _, _ | .pointer _, _, _, _ | .slice _, _, _, _ | .map _ _, _, _, _
  | .struct _, _, _, _ | .other _, _, _, _ => nofun

/-- The part of a type that a field of the type holds values of. -/
inductive ValuePart (type : TypeExpr) : TypeExpr → Prop where
  | element {elem : TypeExpr} (resolves : type.underlying = .slice elem) : ValuePart type elem
  | entries {key elem : TypeExpr} (resolves : type.underlying = .map key elem) :
      ValuePart type (.map key elem)
  | whole (noSequence : ∀ elem, type.underlying ≠ .slice elem)
      (noMap : ∀ key elem, type.underlying ≠ .map key elem)
      (noOther : ∀ text, type.underlying ≠ .other text) : ValuePart type type

theorem ValuePart.underlying_ne_other (values : ValuePart type part) (text : String) :
    type.underlying ≠ .other text := by
  cases values with
  | element resolves | entries resolves => simp [resolves]
  | whole _ _ noOther => exact noOther text

theorem ValuePart.unique {part' : TypeExpr} (values : ValuePart type part)
    (values' : ValuePart type part') : part = part' := by
  cases values with
  | element resolves =>
      cases values' with
      | element resolves' => exact slice.inj (resolves.symm.trans resolves')
      | entries resolves' => exact absurd (resolves.symm.trans resolves') nofun
      | whole noSequence => exact absurd resolves (noSequence _)
  | entries resolves =>
      cases values' with
      | element resolves' => exact absurd (resolves.symm.trans resolves') nofun
      | entries resolves' => exact resolves.symm.trans resolves'
      | whole _ noMap => exact absurd resolves (noMap _ _)
  | whole noSequence noMap =>
      cases values' with
      | element resolves' => exact absurd resolves' (noSequence _)
      | entries resolves' => exact absurd resolves' (noMap _ _)
      | whole => rfl

/-- A type without its pointers and sequences. Named types and structs are left as they
are. -/
def unmarked : TypeExpr → TypeExpr
  | .pointer elem => elem.unmarked
  | .slice elem => elem.unmarked
  | .map key elem => .map key.unmarked elem.unmarked
  | type => type

/-- The second type is the first with more pointers and sequences around it or around parts
of it, but none within a named type or a struct. -/
inductive Padded : TypeExpr → TypeExpr → Prop where
  | refl (type : TypeExpr) : Padded type type
  | pointer {type wrapped : TypeExpr} (padded : Padded type wrapped) :
      Padded type (.pointer wrapped)
  | slice {type wrapped : TypeExpr} (padded : Padded type wrapped) : Padded type (.slice wrapped)
  | inPointer {elem wrapped : TypeExpr} (padded : Padded elem wrapped) :
      Padded (.pointer elem) (.pointer wrapped)
  | inSlice {elem wrapped : TypeExpr} (padded : Padded elem wrapped) :
      Padded (.slice elem) (.slice wrapped)
  | inMap {key elem wrappedKey wrappedElem : TypeExpr} (keyPadded : Padded key wrappedKey)
      (elemPadded : Padded elem wrappedElem) :
      Padded (.map key elem) (.map wrappedKey wrappedElem)

theorem Padded.unmarked_eq (padded : Padded type wrapped) : wrapped.unmarked = type.unmarked := by
  induction padded with
  | refl => rfl
  | pointer _ ih | slice _ ih | inPointer _ ih | inSlice _ ih => simpa only [unmarked] using ih
  | inMap _ _ keyIh elemIh => rw [unmarked, unmarked, keyIh, elemIh]

end TypeExpr

namespace FieldType

open TypeExpr

variable {home package name name' : String} {packages packages' : List String}
  {type part other otherPart : TypeExpr} {field field' : FieldType}

/-! ## Foreign packages -/

theorem isForeign_iff : isForeign home package = true ↔ package ≠ "" ∧ package ≠ home := by
  simp [isForeign]

theorem isForeign_of_mem_mentions (member : package ∈ mentions home type) :
    isForeign home package = true := by
  fun_induction mentions home type with
  | case1 owner _ _ foreign =>
      rw [List.mem_singleton] at member
      exact member ▸ foreign
  | case2 => contradiction
  | case3 _ ih => exact ih member
  | case4 _ ih => exact ih member
  | case5 _ _ keyIh elemIh =>
      rcases List.mem_append.mp member with inKey | inElem
      · exact keyIh inKey
      · exact elemIh inElem
  | case6 => contradiction

/-- A field refers to foreign packages only. -/
theorem isForeign_of_mem_imports (member : package ∈ (ofType home type).imports) :
    isForeign home package = true := by
  unfold ofType at member
  split at member
  case h_3 | h_4 => contradiction
  all_goals exact isForeign_of_mem_mentions (List.mem_eraseDups.mp member)

/-- Go through a type with the foreign packages found so far, and put each further one at
the end. -/
def collect (home : String) : List String → TypeExpr → List String
  | found, .named package _ _ =>
    if isForeign home package && !found.contains package then found ++ [package] else found
  | found, .pointer elem => collect home found elem
  | found, .slice elem => collect home found elem
  | found, .map key elem => collect home (collect home found key) elem
  | found, _ => found

/-- One pass leaves each package in the place where it is mentioned first. -/
theorem collect_eraseDups (home : String) :
    ∀ (found : List String) (type : TypeExpr),
      collect home found.eraseDups type = (found ++ mentions home type).eraseDups
  | found, .named package _ _ => by
    rw [collect, mentions]
    by_cases foreign : isForeign home package = true
    · rw [if_pos foreign, eraseDups_concat]
      by_cases known : package ∈ found <;> simp [foreign, known]
    · simp [foreign]
  | found, .pointer elem | found, .slice elem => collect_eraseDups home found elem
  | found, .map key elem => by
    rw [collect, collect_eraseDups home found key, collect_eraseDups home _ elem, mentions,
      List.append_assoc]
  | found, .basic _ | found, .struct _ | found, .other _ => by
    rw [collect, mentions, List.append_nil]
    all_goals nofun

/-! ## Printing -/

/-- How a type without pointers and sequences is written in the schema of a package, and the
packages that this mentions, in order of occurrence. -/
inductive Prints (home : String) : TypeExpr → String → List String → Prop where
  | basic (name : String) : Prints home (.basic name) (scalarName name) []
  | bare {package : String} (name : String) (declared : TypeExpr)
      (near : package = "" ∨ package = home) : Prints home (.named package name declared) name []
  | qualified {package : String} (name : String) (declared : TypeExpr) (nonempty : package ≠ "")
      (elsewhere : package ≠ home) :
      Prints home (.named package name declared) (package ++ "." ++ name) [package]
  | map {key elem : TypeExpr} {keyName elemName : String} {keyPackages elemPackages : List String}
      (keyPrints : Prints home key keyName keyPackages)
      (elemPrints : Prints home elem elemName elemPackages) :
      Prints home (.map key elem) ("map<" ++ keyName ++ "," ++ elemName ++ ">")
        (keyPackages ++ elemPackages)
  | struct (members : List Member) :
      Prints home (.struct members) (TypeExpr.struct members).signature []
  | other (text : String) : Prints home (.other text) text []

theorem Prints.unique (prints : Prints home type name packages)
    (prints' : Prints home type name' packages') : name = name' ∧ packages = packages' := by
  induction prints generalizing name' packages' with
  | basic | struct | other =>
      cases prints'
      exact ⟨rfl, rfl⟩
  | bare _ _ near =>
      cases prints' with
      | bare => exact ⟨rfl, rfl⟩
      | qualified _ _ nonempty elsewhere => exact absurd near (not_or.mpr ⟨nonempty, elsewhere⟩)
  | qualified _ _ nonempty elsewhere =>
      cases prints' with
      | bare _ _ near => exact absurd near (not_or.mpr ⟨nonempty, elsewhere⟩)
      | qualified => exact ⟨rfl, rfl⟩
  | map _ _ keyIh elemIh =>
      cases prints' with
      | map keyPrints elemPrints =>
          obtain ⟨rfl, rfl⟩ := keyIh keyPrints
          obtain ⟨rfl, rfl⟩ := elemIh elemPrints
          exact ⟨rfl, rfl⟩

theorem prints_named (home package name : String) (declared : TypeExpr) :
    Prints home (.named package name declared) (valueName home (.named package name declared))
      (mentions home (.named package name declared)) := by
  rw [valueName, reference, mentions]
  split
  · rename_i foreign
    obtain ⟨nonempty, elsewhere⟩ := isForeign_iff.mp foreign
    exact .qualified name declared nonempty elsewhere
  · rename_i near
    rw [isForeign_iff, not_and_or, not_not, not_not] at near
    exact .bare name declared near

/-- A single value is written as the rules say once the markers are erased. -/
theorem prints_unmarked (home : String) :
    ∀ type : TypeExpr, Prints home type.unmarked (valueName home type) (mentions home type)
  | .basic name => .basic name
  | .named package name declared => prints_named home package name declared
  | .pointer elem | .slice elem => prints_unmarked home elem
  | .map key elem => .map (prints_unmarked home key) (prints_unmarked home elem)
  | .struct members => .struct members
  | .other text => .other text

/-! ## Field types -/

/-- The rules for the type of a field. -/
inductive Resolves (home : String) (type : TypeExpr) : FieldType → Prop where
  | undescribed {text : String} (resolves : type.underlying = .other text) :
      Resolves home type { typeName := type.signature, isRepeated := false, imports := [] }
  | described {part : TypeExpr} {packages : List String} {field : FieldType}
      (values : ValuePart type part)
      (repeated : field.isRepeated = true ↔ ∃ elem, type.underlying = .slice elem)
      (printed : Prints home part.unmarked field.typeName packages)
      (imported : ListsFirst field.imports packages) : Resolves home type field

/-- The rules give one field type at most. -/
theorem Resolves.unique (resolves : Resolves home type field)
    (resolves' : Resolves home type field') : field = field' := by
  cases resolves with
  | undescribed isOther =>
      cases resolves' with
      | undescribed => rfl
      | described values => exact absurd isOther (values.underlying_ne_other _)
  | described values repeated printed imported =>
      cases resolves' with
      | undescribed isOther => exact absurd isOther (values.underlying_ne_other _)
      | described values' repeated' printed' imported' =>
          obtain rfl := values.unique values'
          obtain ⟨nameEq, rfl⟩ := printed.unique printed'
          have repeatedEq := Bool.eq_iff_iff.mpr (repeated.trans repeated'.symm)
          obtain ⟨typeName, isRepeated, imports⟩ := field
          rw [FieldType.mk.injEq]
          exact ⟨nameEq, repeatedEq, imported.unique imported'⟩

theorem ofType_eq_ofValue (home : String) (values : ValuePart type part) :
    ∃ isRepeated, ofType home type = ofValue home part isRepeated ∧
      (isRepeated = true ↔ ∃ elem, type.underlying = .slice elem) := by
  cases values with
  | element resolves => exact ⟨true, by rw [ofType, resolves], by simp [resolves]⟩
  | entries resolves => exact ⟨false, by rw [ofType, resolves], by simp [resolves]⟩
  | whole noSequence noMap noOther =>
      refine ⟨false, ?_, by simpa using noSequence⟩
      unfold ofType
      split
      case h_1 isSequence => exact absurd isSequence (noSequence _)
      case h_2 isMap => exact absurd isMap (noMap _ _)
      case h_3 isNamed => exact absurd isNamed type.underlying_ne_named
      case h_4 isOther => exact absurd isOther (noOther _)
      case h_5 => rfl

theorem imports_ofType_eq_collect (home : String) (values : ValuePart type part) :
    (ofType home type).imports = collect home [] part := by
  obtain ⟨_, isValue, _⟩ := ofType_eq_ofValue home values
  rw [isValue]
  exact (collect_eraseDups home [] part).symm

theorem resolves_of_valuePart (home : String) (values : ValuePart type part) :
    Resolves home type (ofType home type) := by
  obtain ⟨isRepeated, isValue, repeated⟩ := ofType_eq_ofValue home values
  rw [isValue]
  exact .described values repeated (prints_unmarked home part) (listsFirst_eraseDups _)

/-- Every type gets a field type by the rules. -/
theorem resolves_ofType (home : String) (type : TypeExpr) :
    Resolves home type (ofType home type) := by
  cases resolved : type.underlying with
  | slice elem => exact resolves_of_valuePart home (.element resolved)
  | map key elem => exact resolves_of_valuePart home (.entries resolved)
  | basic | struct | pointer =>
      exact resolves_of_valuePart home (.whole (by simp [resolved]) (by simp [resolved])
        (by simp [resolved]))
  | named => exact absurd resolved type.underlying_ne_named
  | other text =>
      rw [ofType, resolved]
      exact .undescribed resolved

/-- Pointers and sequences around or within the value part are not shown. -/
theorem eq_of_padded (values : ValuePart type part) (otherValues : ValuePart other otherPart)
    (padded : Padded part otherPart) :
    (ofType home other).typeName = (ofType home type).typeName ∧
      (ofType home other).imports = (ofType home type).imports := by
  obtain ⟨_, isValue, _⟩ := ofType_eq_ofValue home values
  obtain ⟨_, otherIsValue, _⟩ := ofType_eq_ofValue home otherValues
  have otherPrints := prints_unmarked home otherPart
  rw [padded.unmarked_eq] at otherPrints
  obtain ⟨names, mentioned⟩ := otherPrints.unique (prints_unmarked home part)
  rw [isValue, otherIsValue]
  exact ⟨names, congrArg List.eraseDups mentioned⟩

/-- The type of a field is the one that the rules give. It mentions neither its home nor the
empty package; one pass over the value part, keys before elements, finds its imports; and
pointers and sequences that are put around the value part or around parts of it change
neither its name nor its imports. -/
theorem eq_ofType_iff_resolves (home : String) (type : TypeExpr) :
    (∀ field, field = ofType home type ↔ Resolves home type field) ∧
      home ∉ (ofType home type).imports ∧ "" ∉ (ofType home type).imports ∧
      (∀ part, ValuePart type part → (ofType home type).imports = collect home [] part) ∧
      ∀ part other otherPart, ValuePart type part → ValuePart other otherPart →
        Padded part otherPart →
          (ofType home other).typeName = (ofType home type).typeName ∧
            (ofType home other).imports = (ofType home type).imports := by
  refine ⟨fun field => ?_, ?_, ?_, fun _ => imports_ofType_eq_collect home,
    fun _ _ _ => eq_of_padded⟩
  · constructor
    · rintro rfl
      exact resolves_ofType home type
    · intro resolves
      exact resolves.unique (resolves_ofType home type)
  · intro mentioned
    exact (isForeign_iff.mp (isForeign_of_mem_imports mentioned)).2 rfl
  · intro mentioned
    exact (isForeign_iff.mp (isForeign_of_mem_imports mentioned)).1 rfl

/-- A named map with a basic type, a pointer and a sequence in it, and a sequence of the same
map with more of them. -/
theorem eq_ofType_iff_resolves_named_map :
    let account : TypeExpr := .named "pay" "Account" (.pointer (.basic "int"))
    let rate : TypeExpr := .named "tax/v1" "Rate" (.basic "float64")
    let item : TypeExpr := .named "shop" "Item" (.struct [])
    let part : TypeExpr := .map (.slice rate) (.map account (.map (.basic "int32") (.pointer item)))
    let type : TypeExpr := .named "pay" "Ledger" part
    let otherPart : TypeExpr :=
      .slice (.map (.slice (.pointer rate))
        (.pointer (.map (.slice account) (.map (.slice (.basic "int32")) (.pointer item)))))
    let other : TypeExpr := .slice otherPart
    let field : FieldType :=
      { typeName := "map<tax/v1.Rate,map<pay.Account,map<int64,Item>>>"
        isRepeated := false
        imports := ["tax/v1", "pay"] }
    Resolves "shop" type field ∧ ValuePart type part ∧ field.imports = collect "shop" [] part ∧
      ValuePart other otherPart ∧ Padded part otherPart ∧
        (ofType "shop" other).typeName = field.typeName ∧
          (ofType "shop" other).imports = field.imports := by
  intro account rate item part type otherPart other field
  have values : ValuePart type part := .entries rfl
  have otherValues : ValuePart other otherPart := .element rfl
  have padded : Padded part otherPart :=
    .slice (.inMap (.inSlice (.pointer (.refl rate)))
      (.pointer (.inMap (.slice (.refl account)) (.inMap (.slice (.refl _)) (.refl _)))))
  obtain ⟨exactly, _, _, collected, unchanged⟩ := eq_ofType_iff_resolves "shop" type
  have isField : field = ofType "shop" type := by decide
  refine ⟨(exactly field).mp isField, values, ?_, otherValues, padded, ?_⟩
  · rw [isField]
    exact collected part values
  · rw [isField]
    exact unchanged part other otherPart values otherValues padded

end FieldType

end ProtoSchema
