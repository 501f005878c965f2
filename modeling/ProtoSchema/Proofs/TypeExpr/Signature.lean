import ProtoSchema.Proofs.Text.Cutting
import ProtoSchema.TypeExpr

/-!
# What a signature tells

A signature starts with a word that ends at the first mark, and the word and the mark tell
how the type is built: a name has no mark of its own, and every other form has one that
cannot stand behind a name. So signatures are read in one way only, and a signature
determines all of a type that it shows: the names, the packages and how they are put
together.
-/

namespace ProtoSchema

namespace TypeExpr

/-! ## What is shown -/

/-- The characters by which a signature shows how a type is built. -/
def isMark (c : Char) : Bool :=
  c ∈ ['*', '[', ']', '\x7b', '\x7d', ';', ' ']

/-- A package path has no mark. -/
def isPath (text : String) : Bool :=
  text.toList.all fun c => !isMark c

/-- A name is not empty and has no mark and no dot. -/
def isName (text : String) : Bool :=
  text != "" && text.toList.all fun c => !isMark c && c != '.'

mutual

/-- The signature consists of names and paths. What a named type is declared as is not part
of it. -/
def isLegible : TypeExpr → Bool
  | .basic name => isName name
  | .named package name _ => isPath package && isName name
  | .pointer elem => elem.isLegible
  | .slice elem => elem.isLegible
  | .map key elem => key.isLegible && elem.isLegible
  | .struct members => areLegible members
  | .other _ => false

/-- The members are shown by names and legible types. -/
def areLegible : List Member → Bool
  | [] => true
  | ⟨name, _, _, type⟩ :: rest => isName name && type.isLegible && areLegible rest

end

/-- A named type of which only the name is left; a name of no package is one like those of
basic types. -/
def bareName (package name : String) : TypeExpr :=
  if package = "" then .basic name else .named package name (.basic "")

mutual

/-- A type without its tags and export flags and without what its named types are declared
as. -/
def bare : TypeExpr → TypeExpr
  | .basic name => bareName "" name
  | .named package name _ => bareName package name
  | .pointer elem => .pointer elem.bare
  | .slice elem => .slice elem.bare
  | .map key elem => .map key.bare elem.bare
  | .struct members => .struct (bareMembers members)
  | .other text => .other text

/-- The members without their tags and flags. -/
def bareMembers : List Member → List Member
  | [] => []
  | ⟨name, _, _, type⟩ :: rest => ⟨name, none, "", type.bare⟩ :: bareMembers rest

end

mutual

/-- A signature shows nothing else. -/
theorem signature_bare : ∀ type : TypeExpr, type.bare.signature = type.signature
  | .basic _ => rfl
  | .named package name _ => by
      unfold bare bareName
      split
      · rename_i noPackage
        rw [signature, signature, qualify, if_pos noPackage]
      · rfl
  | .pointer elem | .slice elem => by rw [bare, signature, signature, elem.signature_bare]
  | .map key elem => by
      rw [bare, signature, signature, key.signature_bare, elem.signature_bare]
  | .struct members => by rw [bare, signature, signature, memberSignatures_bareMembers members]
  | .other _ => rfl

theorem memberSignatures_bareMembers :
    ∀ members : List Member, memberSignatures (bareMembers members) = memberSignatures members
  | [] => rfl
  | ⟨name, _, _, type⟩ :: rest => by
      rw [bareMembers, memberSignatures, memberSignatures, type.signature_bare,
        memberSignatures_bareMembers rest]

end

/-! ## Names -/

variable {package package' name name' : String} {c : Char}

theorem isPath_iff : isPath package = true ↔ ∀ c ∈ package.toList, isMark c = false := by
  simp [isPath]

theorem isName_iff :
    isName name = true ↔
      name ≠ "" ∧ ∀ c ∈ name.toList, isMark c = false ∧ c ≠ '.' := by
  simp [isName]

theorem not_mem_of_isName (named : isName name = true) (mark : isMark c = true ∨ c = '.') :
    c ∉ name.toList := by
  intro member
  obtain ⟨noMark, noDot⟩ := (isName_iff.mp named).2 c member
  rcases mark with isMarked | isDot
  · rw [isMarked] at noMark
    contradiction
  · exact noDot isDot

/-- A name starts behind the last dot. -/
theorem qualify_inj (named : isName name = true) (named' : isName name' = true)
    (same : qualify package name = qualify package' name') :
    package = package' ∧ name = name' := by
  have noDot : '.' ∉ name.toList := not_mem_of_isName named (.inr rfl)
  have noDot' : '.' ∉ name'.toList := not_mem_of_isName named' (.inr rfl)
  have chars := congrArg String.toList same
  unfold qualify at chars
  split at chars
  · rename_i empty
    split at chars
    · rename_i empty'
      exact ⟨empty.trans empty'.symm, String.toList_inj.mp chars⟩
    · rw [chars] at noDot
      simp [String.toList_append] at noDot
  · split at chars
    · rw [← chars] at noDot'
      simp [String.toList_append] at noDot'
    · simp only [String.toList_append, List.append_assoc] at chars
      obtain ⟨packageEq, nameEq⟩ := append_cons_inj_of_not_mem_right noDot noDot' chars
      exact ⟨String.toList_inj.mp packageEq, String.toList_inj.mp nameEq⟩

/-! ## Words -/

/-- The word that a signature starts with. -/
def word : TypeExpr → List Char
  | .basic name => (qualify "" name).toList
  | .named package name _ => (qualify package name).toList
  | .pointer _ | .slice _ => []
  | .map _ _ => "map".toList
  | .struct _ => "struct".toList
  | .other text => text.toList

/-- What follows the word. -/
def tail : TypeExpr → List Char
  | .basic _ | .named .. | .other _ => []
  | .pointer elem => '*' :: elem.signature.toList
  | .slice elem => '[' :: ']' :: elem.signature.toList
  | .map key elem => '[' :: (key.signature.toList ++ ']' :: elem.signature.toList)
  | .struct members =>
    '\x7b' :: (("; ".intercalate (memberSignatures members)).toList ++ ['\x7d'])

theorem toList_signature (type : TypeExpr) : type.signature.toList = type.word ++ type.tail := by
  cases type with
  | basic | named | other => simp [signature, word, tail, qualify]
  | pointer | slice | map | struct => simp [signature, word, tail, String.toList_append]

/-- The marks that may follow a type within a signature. -/
def isEnd (c : Char) : Bool :=
  c ∈ [']', '\x7d', ';']

/-- The text is not the continuation of a type. -/
def Stops (text : List Char) : Prop :=
  ∀ c ∈ text.head?, isEnd c = true

variable {first second type : TypeExpr} {firstRest secondRest rest : List Char}

theorem isMark_of_isEnd (ends : isEnd c = true) : isMark c = true := by
  simp only [isEnd, isMark, List.mem_cons, decide_eq_true_eq] at ends ⊢
  tauto

theorem stops_cons (ends : isEnd c = true) (rest : List Char) : Stops (c :: rest) := by
  intro d isHead
  obtain rfl := Option.some.inj isHead
  exact ends

theorem isMark_of_mem_qualify (path : isPath package = true) (named : isName name = true) :
    ∀ c ∈ (qualify package name).toList, isMark c = false := by
  have inName : ∀ c ∈ name.toList, isMark c = false :=
    fun c member => ((isName_iff.mp named).2 c member).1
  unfold qualify
  split
  · exact inName
  · simp only [String.toList_append, List.forall_mem_append]
    exact ⟨⟨isPath_iff.mp path, List.forall_mem_singleton.mpr rfl⟩, inName⟩

theorem isMark_of_mem_word (legible : type.isLegible = true) :
    ∀ c ∈ type.word, isMark c = false := by
  cases type with
  | basic name => exact isMark_of_mem_qualify rfl legible
  | named package name underlying =>
      obtain ⟨path, named⟩ := Bool.and_eq_true_iff.mp legible
      exact isMark_of_mem_qualify path named
  | pointer | slice => exact List.forall_mem_nil _
  | map | struct => simp [word, isMark]
  | other => exact absurd legible Bool.false_ne_true

/-- The mark behind the word is none that may follow a type. -/
theorem isEnd_of_mem_head?_tail (type : TypeExpr) : ∀ c ∈ type.tail.head?, isEnd c = false := by
  cases type <;> simp [tail, isEnd]

theorem isMark_of_mem_head?_tail (type : TypeExpr) : ∀ c ∈ type.tail.head?, isMark c = true := by
  cases type <;> simp [tail, isMark]

/-- Equal texts show whether a type ends here, because what carries a type on cannot follow
one. -/
theorem head?_eq_of_append_eq {first second : List Char}
    (opens : ∀ c ∈ first.head?, isEnd c = false) (opens' : ∀ c ∈ second.head?, isEnd c = false)
    (stops : Stops firstRest) (stops' : Stops secondRest)
    (same : first ++ firstRest = second ++ secondRest) : first.head? = second.head? := by
  cases first with
  | nil =>
      cases second with
      | nil => rfl
      | cons c rest =>
          have ends := stops c (by rw [List.nil_append] at same; rw [same]; rfl)
          exact absurd (opens' c rfl) (by simp [ends])
  | cons c rest =>
      cases second with
      | nil =>
          have ends := stops' c (by rw [List.nil_append] at same; rw [← same]; rfl)
          exact absurd (opens c rfl) (by simp [ends])
      | cons d rest' => exact congrArg some (List.head_eq_of_cons_eq same)

/-- Equal signatures have the same word, the same mark behind it or none, and then the same
text. -/
theorem word_tail_inj (legible : first.isLegible = true) (legible' : second.isLegible = true)
    (stops : Stops firstRest) (stops' : Stops secondRest)
    (same : first.signature.toList ++ firstRest = second.signature.toList ++ secondRest) :
    first.word = second.word ∧ first.tail.head? = second.tail.head? ∧
      first.tail ++ firstRest = second.tail ++ secondRest := by
  have ends : ∀ (type : TypeExpr) {rest : List Char}, Stops rest →
      ∀ c ∈ (type.tail ++ rest).head?, ¬isMark c = false := by
    intro type rest stops c isHead
    rw [Bool.not_eq_false]
    rw [List.head?_append] at isHead
    cases tailHead : type.tail.head? with
    | none =>
        rw [tailHead] at isHead
        exact isMark_of_isEnd (stops c isHead)
    | some d =>
        rw [tailHead] at isHead
        obtain rfl := Option.some.inj isHead
        exact isMark_of_mem_head?_tail type d tailHead
  rw [toList_signature, toList_signature, List.append_assoc, List.append_assoc] at same
  obtain ⟨words, tails⟩ := append_inj_of_stops (isMark_of_mem_word legible)
    (isMark_of_mem_word legible') (ends first stops) (ends second stops') same
  exact ⟨words, head?_eq_of_append_eq (isEnd_of_mem_head?_tail first)
    (isEnd_of_mem_head?_tail second) stops stops' tails, tails⟩

/-! ## Unique reading -/

/-- A type whose signature, in front of a text that stops it, can be taken for that of a
type with the same bare form only. -/
def ReadsUniquely (type : TypeExpr) : Prop :=
  type.isLegible = true →
    ∀ (other : TypeExpr) {rest otherRest : List Char}, other.isLegible = true → Stops rest →
      Stops otherRest → type.signature.toList ++ rest = other.signature.toList ++ otherRest →
        type.bare = other.bare ∧ rest = otherRest

theorem exists_qualify_of_tail_eq_nil (legible : type.isLegible = true)
    (isAtom : type.tail = []) :
    ∃ package name, type.word = (qualify package name).toList ∧
      type.bare = bareName package name ∧ isName name = true := by
  cases type with
  | basic name => exact ⟨"", name, rfl, rfl, legible⟩
  | named package name underlying =>
      exact ⟨package, name, rfl, rfl, (Bool.and_eq_true_iff.mp legible).2⟩
  | pointer | slice | map | struct => simp [tail] at isAtom
  | other => contradiction

theorem bare_eq_of_tail_eq_nil (legible : first.isLegible = true)
    (legible' : second.isLegible = true) (isAtom : first.tail = []) (isAtom' : second.tail = [])
    (words : first.word = second.word) : first.bare = second.bare := by
  obtain ⟨package, name, wordEq, bareEq, named⟩ := exists_qualify_of_tail_eq_nil legible isAtom
  obtain ⟨package', name', wordEq', bareEq', named'⟩ :=
    exists_qualify_of_tail_eq_nil legible' isAtom'
  rw [wordEq, wordEq', String.toList_inj] at words
  obtain ⟨rfl, rfl⟩ := qualify_inj named named' words
  rw [bareEq, bareEq']

theorem readsUniquely_of_tail_eq_nil (isAtom : type.tail = []) : type.ReadsUniquely := by
  intro legible other rest otherRest legible' stops stops' same
  obtain ⟨words, heads, tails⟩ := word_tail_inj legible legible' stops stops' same
  have isAtom' : other.tail = [] := by
    rw [isAtom] at heads
    exact List.head?_eq_none_iff.mp heads.symm
  rw [isAtom, isAtom', List.nil_append, List.nil_append] at tails
  exact ⟨bare_eq_of_tail_eq_nil legible legible' isAtom isAtom' words, tails⟩

theorem readsUniquely_pointer {elem : TypeExpr} (elemReads : elem.ReadsUniquely) :
    (pointer elem).ReadsUniquely := by
  intro legible other rest otherRest legible' stops stops' same
  obtain ⟨_, heads, tails⟩ := word_tail_inj legible legible' stops stops' same
  cases other with
  | pointer elem' =>
      obtain ⟨elemEq, restEq⟩ :=
        elemReads legible elem' legible' stops stops' (List.tail_eq_of_cons_eq tails)
      exact ⟨by rw [bare, bare, elemEq], restEq⟩
  | _ => simp [tail] at heads

theorem readsUniquely_slice {elem : TypeExpr} (elemReads : elem.ReadsUniquely) :
    (slice elem).ReadsUniquely := by
  intro legible other rest otherRest legible' stops stops' same
  obtain ⟨words, heads, tails⟩ := word_tail_inj legible legible' stops stops' same
  cases other with
  | slice elem' =>
      obtain ⟨elemEq, restEq⟩ := elemReads legible elem' legible' stops stops'
        (List.tail_eq_of_cons_eq (List.tail_eq_of_cons_eq tails))
      exact ⟨by rw [bare, bare, elemEq], restEq⟩
  | map => simp [word] at words
  | _ => simp [tail] at heads

theorem readsUniquely_map {key elem : TypeExpr} (keyReads : key.ReadsUniquely)
    (elemReads : elem.ReadsUniquely) : (map key elem).ReadsUniquely := by
  intro legible other rest otherRest legible' stops stops' same
  obtain ⟨words, heads, tails⟩ := word_tail_inj legible legible' stops stops' same
  cases other with
  | map key' elem' =>
      obtain ⟨keyLegible, elemLegible⟩ := Bool.and_eq_true_iff.mp legible
      obtain ⟨keyLegible', elemLegible'⟩ := Bool.and_eq_true_iff.mp legible'
      simp only [tail, List.cons_append, List.append_assoc, List.cons.injEq, true_and] at tails
      obtain ⟨keyEq, behindKey⟩ := keyReads keyLegible key' keyLegible'
        (stops_cons (by decide) _) (stops_cons (by decide) _) tails
      obtain ⟨elemEq, restEq⟩ := elemReads elemLegible elem' elemLegible' stops stops'
        (List.tail_eq_of_cons_eq behindKey)
      exact ⟨by rw [bare, bare, keyEq, elemEq], restEq⟩
  | slice => simp [word] at words
  | _ => simp [tail] at heads

/-- The members of a struct, each behind a separator. -/
def separated (members : List Member) : List Char :=
  (memberSignatures members).flatMap fun text => "; ".toList ++ text.toList

theorem separated_cons (member : Member) (rest : List Member) :
    separated (member :: rest) =
      ';' :: ' ' ::
        (member.name.toList ++ ' ' :: (member.type.signature.toList ++ separated rest)) := by
  obtain ⟨name, exported, tag, type⟩ := member
  simp [separated, memberSignatures, String.toList_append]

/-- The first member has no separator in front. -/
theorem separated_eq {members : List Member} (nonempty : members ≠ []) :
    separated members =
      ';' :: ' ' :: ("; ".intercalate (memberSignatures members)).toList := by
  have joined : ∀ (text : String) (texts : List String),
      ((text :: texts).flatMap fun text => "; ".toList ++ text.toList) =
        "; ".toList ++ ("; ".intercalate (text :: texts)).toList := by
    intro text texts
    induction texts generalizing text with
    | nil => simp
    | cons next later ih =>
        rw [List.flatMap_cons, ih, String.intercalate_cons_cons, String.toList_append,
          String.toList_append, List.append_assoc, List.append_assoc]
  obtain ⟨⟨name, exported, tag, type⟩, rest, rfl⟩ := List.exists_cons_of_ne_nil nonempty
  rw [separated, memberSignatures]
  exact joined _ _

theorem stops_separated (members : List Member) (rest : List Char) :
    Stops (separated members ++ '\x7d' :: rest) := by
  cases members with
  | nil => exact stops_cons (by decide) rest
  | cons member members =>
      rw [separated_cons]
      exact stops_cons (by decide) _

/-- Struct members whose list ends at the closing brace. -/
def MembersReadUniquely (members : List Member) : Prop :=
  areLegible members = true →
    ∀ (others : List Member) {rest otherRest : List Char}, areLegible others = true →
      separated members ++ '\x7d' :: rest = separated others ++ '\x7d' :: otherRest →
        bareMembers members = bareMembers others ∧ rest = otherRest

theorem membersReadUniquely_nil : MembersReadUniquely [] := by
  intro _ others rest otherRest _ same
  cases others with
  | nil => exact ⟨rfl, List.tail_eq_of_cons_eq same⟩
  | cons other others =>
      rw [separated_cons] at same
      exact absurd (List.head_eq_of_cons_eq same) (by decide)

theorem membersReadUniquely_cons {member : Member} {members : List Member}
    (typeReads : member.type.ReadsUniquely) (membersRead : MembersReadUniquely members) :
    MembersReadUniquely (member :: members) := by
  intro legible others rest otherRest legible' same
  cases others with
  | nil =>
      rw [separated_cons] at same
      exact absurd (List.head_eq_of_cons_eq same) (by decide)
  | cons other others =>
      obtain ⟨name, _, _, type⟩ := member
      obtain ⟨name', _, _, type'⟩ := other
      simp only [areLegible, Bool.and_eq_true] at legible legible'
      simp only [separated_cons, List.cons_append, List.append_assoc, List.cons.injEq,
        true_and] at same
      obtain ⟨names, behindName⟩ := append_cons_inj_of_not_mem
        (not_mem_of_isName legible.1.1 (.inl rfl)) (not_mem_of_isName legible'.1.1 (.inl rfl)) same
      obtain ⟨typeEq, behindType⟩ := typeReads legible.1.2 type' legible'.1.2
        (stops_separated members rest) (stops_separated others otherRest) behindName
      obtain ⟨membersEq, restEq⟩ := membersRead legible.2 others legible'.2 behindType
      rw [bareMembers, bareMembers, String.toList_inj.mp names, typeEq, membersEq]
      exact ⟨rfl, restEq⟩

/-- Behind the opening brace stands a name, unless there are no members. -/
theorem intercalate_append_ne {member : Member} {members : List Member} {rest text : List Char}
    (legible : areLegible (member :: members) = true) :
    ("; ".intercalate (memberSignatures (member :: members))).toList ++ rest ≠
      '\x7d' :: text := by
  intro same
  have behindSeparator := separated_eq (List.cons_ne_nil member members)
  rw [separated_cons, List.cons.injEq, List.cons.injEq] at behindSeparator
  obtain ⟨name, exported, tag, type⟩ := member
  simp only [areLegible, Bool.and_eq_true] at legible
  rw [← behindSeparator.2.2, List.append_assoc] at same
  obtain ⟨nonempty, _⟩ := isName_iff.mp legible.1.1
  obtain ⟨c, cs, nameEq⟩ := List.exists_cons_of_ne_nil (mt String.toList_eq_nil_iff.mp nonempty)
  have noBrace : '\x7d' ∉ name.toList := not_mem_of_isName legible.1.1 (.inl (by decide))
  rw [nameEq, List.cons_append] at same
  rw [nameEq, List.head_eq_of_cons_eq same] at noBrace
  exact noBrace List.mem_cons_self

/-- Members between braces are read like members behind separators. -/
theorem separated_append_eq {members others : List Member}
    (legible : areLegible members = true) (legible' : areLegible others = true)
    (same : ("; ".intercalate (memberSignatures members)).toList ++ '\x7d' :: firstRest =
      ("; ".intercalate (memberSignatures others)).toList ++ '\x7d' :: secondRest) :
    separated members ++ '\x7d' :: firstRest = separated others ++ '\x7d' :: secondRest := by
  cases members with
  | nil =>
      cases others with
      | nil => exact same
      | cons => exact absurd same.symm (intercalate_append_ne legible')
  | cons =>
      cases others with
      | nil => exact absurd same (intercalate_append_ne legible)
      | cons =>
          rw [separated_eq (List.cons_ne_nil _ _), separated_eq (List.cons_ne_nil _ _)]
          exact congrArg (fun text => ';' :: ' ' :: text) same

theorem readsUniquely_struct {members : List Member} (membersRead : MembersReadUniquely members) :
    (struct members).ReadsUniquely := by
  intro legible other rest otherRest legible' stops stops' same
  obtain ⟨_, heads, tails⟩ := word_tail_inj legible legible' stops stops' same
  cases other with
  | struct others =>
      simp only [tail, List.cons_append, List.append_assoc, List.nil_append, List.cons.injEq,
        true_and] at tails
      obtain ⟨membersEq, restEq⟩ :=
        membersRead legible others legible' (separated_append_eq legible legible' tails)
      exact ⟨by rw [bare, bare, membersEq], restEq⟩
  | _ => simp [tail] at heads

mutual

/-- Legible signatures are read in one way only. -/
theorem readsUniquely : ∀ type : TypeExpr, type.ReadsUniquely
  | .basic _ | .named .. | .other _ => readsUniquely_of_tail_eq_nil rfl
  | .pointer elem => readsUniquely_pointer elem.readsUniquely
  | .slice elem => readsUniquely_slice elem.readsUniquely
  | .map key elem => readsUniquely_map key.readsUniquely elem.readsUniquely
  | .struct members => readsUniquely_struct (membersReadUniquely members)

theorem membersReadUniquely : ∀ members : List Member, MembersReadUniquely members
  | [] => membersReadUniquely_nil
  | ⟨_, _, _, type⟩ :: rest =>
    membersReadUniquely_cons type.readsUniquely (membersReadUniquely rest)

end

/-- Two legible types have the same signature exactly if they are the same type apart from
tags, export flags, what named types are declared as, and whether a name without a package
is that of a basic type. -/
theorem signature_eq_iff (firstLegible : first.isLegible = true)
    (secondLegible : second.isLegible = true) :
    first.signature = second.signature ↔ first.bare = second.bare := by
  constructor
  · intro same
    have chars : first.signature.toList ++ [] = second.signature.toList ++ [] := by rw [same]
    have stopsNil : Stops [] := fun _ isHead => absurd isHead (Option.not_mem_none _)
    exact (first.readsUniquely firstLegible second secondLegible stopsNil stopsNil chars).1
  · intro same
    rw [← first.signature_bare, ← second.signature_bare, same]

/-- A map between in-place structs, read back from two writings of it and told apart from
the same words with the pointer one level up. -/
theorem signature_eq_iff_nested :
    let text : TypeExpr := .named "" "string" (.slice (.basic "byte"))
    let account : TypeExpr := .named "pay/v1.beta" "Account" (.other "chan int")
    let first : TypeExpr :=
      .map (.struct [⟨"Owner", none, "json:\"o\"", .pointer account⟩, ⟨"Tag", none, "", text⟩])
        (.slice account)
    let second : TypeExpr :=
      .map
        (.struct
          [⟨"Owner", some true, "", .pointer (.named "pay/v1.beta" "Account" (.basic "int"))⟩,
            ⟨"Tag", some false, "", .basic "string"⟩])
        (.slice account)
    let third : TypeExpr :=
      .map (.struct [⟨"Owner", none, "", account⟩, ⟨"Tag", none, "", text⟩])
        (.slice (.pointer account))
    first.isLegible = true ∧ second.isLegible = true ∧ third.isLegible = true ∧
      first.signature = second.signature ∧ first.signature ≠ third.signature := by
  intro text account first second third
  have legible : first.isLegible = true := by decide
  have legible' : second.isLegible = true := by decide
  have legible'' : third.isLegible = true := by decide
  refine ⟨legible, legible', legible'', (signature_eq_iff legible legible').mpr rfl, ?_⟩
  intro same
  have bareEq := (signature_eq_iff legible legible'').mp same
  simp [first, third, bare, bareMembers, bareName, account] at bareEq

end TypeExpr

end ProtoSchema
