import ProtoSchema.Glob.Search
import ProtoSchema.Proofs.FileTree
import ProtoSchema.Proofs.Glob.Pattern

/-!
# What searches find

A search walks along the names in front of its first sign as a path does, so it comes to the
one place where the path leads; only an empty name at its start leads nowhere. From there
directories at any depth are all places below the tree.
-/

namespace ProtoSchema.Glob

open Files

namespace Place

/-! ## Paths of entries -/

/-- Whether a search can be at a path: it stands for the directory itself only as the start. -/
def IsSettled (path : Path) : Prop :=
  path = .here ∨ .current ∉ path.components

theorem isSame_here_iff {path : Path} (settled : IsSettled path) :
    path.isSame .here = true ↔ path = .here := by
  rw [Path.isSame_iff]
  constructor
  · intro same
    refine settled.resolve_right fun absent => absent ?_
    rw [same]
    exact List.mem_cons_self
  · exact congrArg Path.components

section Entry

variable {path : Path} {name : String} (slashFree : '/' ∉ name.toList)
include slashFree

theorem steps_entryPath (nonempty : path.text ≠ "") :
    (entryPath path name).steps = path.steps ++ (Path.laterComponent? name).toList := by
  rw [entryPath]
  split
  · rename_i same
    have stays : path.steps = [] := by
      rw [Path.steps, Path.isSame_iff.mp same]
      rfl
    rw [stays, Path.steps_of_slashFree slashFree, List.nil_append]
  · exact Path.steps_join nonempty slashFree

/-- The path of an entry is settled, and the start only for an entry of the start. -/
theorem isSettled_entryPath (nonempty : path.text ≠ "") (settled : IsSettled path) :
    (path = .here ∧ name = "." ∧ entryPath path name = .here) ∨
      .current ∉ (entryPath path name).components := by
  by_cases atStart : path = .here
  · have single : entryPath path name = ⟨name⟩ :=
      if_pos ((isSame_here_iff settled).mpr atStart)
    by_cases dot : name = "."
    · exact .inl ⟨atStart, dot, single.trans (congrArg Path.mk dot)⟩
    · right
      rw [single, Path.components_of_slashFree slashFree, Path.firstComponent?,
        if_neg Bool.false_ne_true, if_neg dot, Option.mem_toList]
      exact Path.laterComponent?_ne_current name
  · right
    have inside : entryPath path name = path.join ⟨name⟩ :=
      if_neg (mt (isSame_here_iff settled).mp atStart)
    rw [inside, Path.components_join nonempty slashFree, List.mem_append, not_or, Option.mem_toList]
    exact ⟨settled.resolve_left atStart, Path.laterComponent?_ne_current name⟩

omit slashFree in
theorem entryPath_text_ne (nonempty : path.text ≠ "")
    (named : path.isSame .here = true → name ≠ "") : (entryPath path name).text ≠ "" := by
  rw [entryPath]
  split
  · rename_i same
    exact named same
  · rw [Path.join]
    split_ifs
    · rename_i absolute
      rintro rfl
      exact Bool.noConfusion absolute
    · simp [nonempty]
    · simp [nonempty]

/-- A search follows a name as a path does. -/
theorem locate_entryPath {files : Files} {place : List String}
    (located : files.locate path = .ok place) (settled : IsSettled path)
    (passes : checkPath (entryPath path name) = .ok ()) :
    files.locate (entryPath path name) = files.followPiece place name := by
  by_cases atStart : path = .here
  · have single : entryPath path name = ⟨name⟩ :=
      if_pos ((isSame_here_iff settled).mpr atStart)
    have stays : files.workingDirectory = place := by
      subst atStart
      have follows := (locate_name (by decide) (by decide)).symm.trans located
      obtain ⟨⟨_, there⟩, _⟩ := exists_of_followPiece follows
      exact Except.ok.inj ((followPiece_dot there).symm.trans follows)
    rw [single] at passes ⊢
    rw [locate_name slashFree passes, stays]
  · have inside : entryPath path name = path.join ⟨name⟩ :=
      if_neg (mt (isSame_here_iff settled).mp atStart)
    rw [inside] at passes ⊢
    exact locate_join located slashFree passes

end Entry

/-! ## Walking along names -/

/-- Whether a search is at a place of the files. -/
structure Stands (files : Files) (place : Place) (location : List String) : Prop where
  located : files.locate place.path = .ok location
  found : files.root.at? location = some place.tree
  settled : IsSettled place.path

theorem Stands.nonempty {files : Files} {place : Place} {location : List String}
    (stands : Stands files place location) : place.path.text ≠ "" :=
  text_ne_of_locate stands.located

/-- A step along a name comes to the one place where the name leads. -/
theorem Stands.step {files : Files} {place : Place} {location next : List String} {name : String}
    (stands : Stands files place location) (slashFree : '/' ∉ name.toList)
    (passes : checkPath (entryPath place.path name) = .ok ())
    (follows : files.followPiece location name = .ok next) :
    ∃ tree, Glob.step files place name = [⟨entryPath place.path name, name, tree⟩] ∧
      Stands files ⟨entryPath place.path name, name, tree⟩ next := by
  obtain ⟨⟨entries, isDirectory⟩, tree, found⟩ := exists_of_followPiece follows
  have isTree : place.tree = .directory entries :=
    Option.some.inj (stands.found.symm.trans isDirectory)
  have located : files.locate (entryPath place.path name) = .ok next :=
    (locate_entryPath slashFree stands.located stands.settled passes).trans follows
  have leads : files.find (entryPath place.path name) = .ok tree :=
    find_eq_ok_iff.mpr ⟨next, located, found⟩
  have settled : IsSettled (entryPath place.path name) :=
    (isSettled_entryPath slashFree stands.nonempty stands.settled).imp_left (·.2.2)
  refine ⟨tree, ?_, located, found, settled⟩
  rw [Glob.step, isTree, if_neg (by simp [FileTree.isDirectory]), placeAt, leads]

/-- A part without signs leads along the name that it is. -/
theorem expand_chars (files : Files) (name : String) (rest : List Pattern) (place : Place) :
    expand files false (name.toList.map .char :: rest) place =
      (Glob.step files place name).flatMap (expand files false rest) := by
  rw [expand, Pattern.isAnyDepth_chars, if_neg Bool.false_ne_true, if_neg Bool.false_ne_true,
    Pattern.literal?_chars]
  simp only [String.ofList_toList]

/-! ### The lengths of paths -/

/-- The text of pieces with slashes between them. -/
def joined (pieces : List String) : List Char :=
  ['/'].intercalate (pieces.map String.toList)

theorem joined_pieces (path : Path) : joined path.pieces = path.text.toList := by
  rw [joined, Path.pieces, List.map_map]
  have kept : String.toList ∘ String.ofList = id := funext fun _ => String.toList_ofList
  rw [kept, List.map_id, Text.intercalate_pieces]

theorem joined_front (front back : List String) : joined front <+: joined (front ++ back) := by
  rw [joined, joined, List.map_append]
  exact Text.intercalate_front _ _ _

theorem joined_concat {walked : List String} (walked_ne : walked ≠ []) (name : String) :
    joined (walked ++ [name]) = joined walked ++ '/' :: name.toList := by
  rw [joined, List.map_append, List.map_singleton,
    Text.intercalate_append '/' (mt List.map_eq_nil_iff.mp walked_ne) (List.cons_ne_nil _ _),
    List.intercalate_singleton, joined]

theorem sublist_joined_concat (walked : List String) (name : String) :
    name.toList.Sublist (joined (walked ++ [name])) := by
  by_cases walked_ne : walked = []
  · rw [walked_ne, List.nil_append, joined, List.map_singleton, List.intercalate_singleton]
  · rw [joined_concat walked_ne]
    exact (List.sublist_cons_self _ _).trans (List.sublist_append_right _ _)

/-- Whether a path is a start of a search or no longer than the pieces it came along. -/
def IsWithin (walked : List String) (path : Path) : Prop :=
  path = .here ∨ walked ≠ [] ∧ (path = ⟨"/"⟩ ∨ path.text.toList.Sublist (joined walked))

theorem IsWithin.entryPath {walked : List String} {path : Path} (within : IsWithin walked path)
    (nonempty : path.text ≠ "") (name : String) (slashFree : '/' ∉ name.toList) :
    IsWithin (walked ++ [name]) (entryPath path name) := by
  refine .inr ⟨List.append_ne_nil_of_right_ne_nil _ (List.cons_ne_nil _ _), .inr ?_⟩
  rw [Place.entryPath]
  split
  · exact sublist_joined_concat walked name
  · rename_i apart
    rcases within with rfl | ⟨walked_ne, inside⟩
    · exact absurd (Path.isSame_iff.mpr rfl) apart
    · rw [Path.toList_join nonempty (Path.isAbsolute_of_slashFree slashFree),
        joined_concat walked_ne]
      rcases inside with rfl | sub
      · exact List.sublist_append_right _ _
      · rw [List.append_assoc]
        refine sub.append ?_
        split
        · exact List.sublist_cons_self _ _
        · exact List.Sublist.refl _

theorem IsWithin.passes {walked : List String} {path directory : Path}
    (within : IsWithin walked path) (nonempty : path.text ≠ "")
    (shorter : (joined walked).Sublist directory.text.toList)
    (passes : checkPath directory = .ok ()) : checkPath path = .ok () := by
  rcases within with rfl | ⟨_, rfl | sub⟩
  · rfl
  · rfl
  · exact checkPath_of_sublist (sub.trans shorter) nonempty passes

/-! ### The walk -/

/-- Whether an empty name comes while a search is still at its start. -/
def losesWay : List String → Bool
  | [] => false
  | name :: rest => name == "" || (name == "." && losesWay rest)

/-- A search that keeps its way is not lost at a name and keeps it behind the name. -/
theorem Stands.keeps_way {files : Files} {place : Place} {location names : List String}
    {name : String} (stands : Stands files place location) (slashFree : '/' ∉ name.toList)
    (way : place.path = .here → losesWay (name :: names) = false) :
    (Place.entryPath place.path name).text ≠ "" ∧
      (Place.entryPath place.path name = .here → losesWay names = false) := by
  constructor
  · refine entryPath_text_ne stands.nonempty fun atStart isEmpty => ?_
    rw [isEmpty] at way
    exact Bool.noConfusion (way ((isSame_here_iff stands.settled).mp atStart))
  · intro stays
    rcases isSettled_entryPath slashFree stands.nonempty stands.settled with
      ⟨atStart, dot, _⟩ | leaves
    · have goesOn := way atStart
      rw [dot] at goesOn
      exact goesOn
    · rw [stays] at leaves
      exact absurd List.mem_cons_self leaves

/-- A part without signs for each name. -/
def charsOf (names : List String) : List Pattern :=
  names.map fun name => name.toList.map .char

/-- Along names a search goes on from the one place where they lead. -/
theorem Stands.expand_charsOf {files : Files} {directory : Path} {names walked : List String}
    {place : Place} {location target : List String} (stands : Stands files place location)
    (within : IsWithin walked place.path)
    (shorter : (joined (walked ++ names)).Sublist directory.text.toList)
    (passes : checkPath directory = .ok ()) (slashFree : ∀ name ∈ names, '/' ∉ name.toList)
    (way : place.path = .here → losesWay names = false)
    (leads : names.foldlM files.followPiece location = .ok target) :
    ∃ base, Stands files base target ∧
      base.path.steps = place.path.steps ++ names.filterMap Path.laterComponent? ∧
      ∀ rest, expand files false (charsOf names ++ rest) place = expand files false rest base := by
  -- Each step lengthens what has been walked. The path stays within it, so it passes the
  -- check that the whole path of the directory has passed.
  induction names generalizing walked place location with
  | nil =>
      obtain rfl := Except.ok.inj leads
      exact ⟨place, stands, (List.append_nil _).symm, fun _ => rfl⟩
  | cons name names ih =>
      obtain ⟨nameFree, slashFree⟩ := List.forall_mem_cons.mp slashFree
      rw [List.foldlM_cons] at leads
      obtain ⟨next, follows, leads⟩ := bind_eq_ok.mp leads
      have onward : (joined (walked ++ [name])).Sublist directory.text.toList := by
        refine (joined_front (walked ++ [name]) names).sublist.trans ?_
        rwa [List.append_assoc, List.singleton_append]
      have within := within.entryPath stands.nonempty name nameFree
      obtain ⟨nonempty, wayOn⟩ := stands.keeps_way nameFree way
      have namePasses := within.passes nonempty onward passes
      obtain ⟨tree, single, standsNext⟩ := stands.step nameFree namePasses follows
      obtain ⟨base, standsThere, steps, expands⟩ := ih standsNext within
        (by rwa [List.append_assoc, List.singleton_append]) slashFree wayOn leads
      refine ⟨base, standsThere, ?_, fun rest => ?_⟩
      · rw [steps, steps_entryPath nameFree stands.nonempty, List.append_assoc,
          ← List.singleton_append, List.filterMap_append]
        rfl
      · rw [charsOf, List.map_cons, List.cons_append, expand_chars, single, List.flatMap_singleton]
        exact expands rest

/-! ## Places below a tree -/

theorem mem_belowEntries_iff {path : Path} {entries : List (String × FileTree)} {place : Place} :
    place ∈ belowEntries path entries ↔
      ∃ entry ∈ entries, place = ⟨entryPath path entry.1, entry.1, entry.2⟩ ∨
        place ∈ below (entryPath path entry.1) entry.2 := by
  induction entries with
  | nil => simp [belowEntries]
  | cons entry rest ih =>
      rw [belowEntries, List.mem_cons, List.mem_append, ih, List.exists_mem_cons_iff, or_assoc]

/-- The places below a tree are those at names from it, with the paths of entry after entry. -/
theorem mem_below_iff {path : Path} {tree : FileTree} (proper : tree.IsProper) {place : Place} :
    place ∈ below path tree ↔
      ∃ names, tree.at? names = some place.tree ∧ names.getLast? = some place.name ∧
        place.path = names.foldl entryPath path := by
  induction proper generalizing path with
  | file content =>
      refine iff_of_false (List.not_mem_nil) ?_
      rintro ⟨_ | ⟨name, rest⟩, leads, last, _⟩
      · cases last
      · cases leads
  | @directory entries distinct _ _ ih =>
      rw [below, mem_belowEntries_iff]
      constructor
      · rintro ⟨⟨name, tree⟩, member, rfl | isBelow⟩
        · exact ⟨[name], (FileTree.at?_cons_eq_some_iff distinct).mpr ⟨tree, member, rfl⟩, rfl, rfl⟩
        · obtain ⟨names, leads, last, follows⟩ := (ih _ member).mp isBelow
          refine ⟨name :: names, (FileTree.at?_cons_eq_some_iff distinct).mpr
            ⟨tree, member, leads⟩, ?_, follows⟩
          rw [List.getLast?_cons, last]
          rfl
      · rintro ⟨_ | ⟨name, rest⟩, leads, last, follows⟩
        · cases last
        · obtain ⟨tree, member, leads⟩ := (FileTree.at?_cons_eq_some_iff distinct).mp leads
          refine ⟨(name, tree), member, ?_⟩
          -- A name alone is that of the entry itself; a longer way goes on below the entry.
          by_cases single : rest = []
          · subst single
            left
            obtain ⟨path, name, tree⟩ := place
            cases leads
            cases last
            cases follows
            rfl
          · right
            refine (ih _ member).mpr ⟨rest, leads, ?_, follows⟩
            rwa [List.getLast?_cons_of_ne_nil single] at last

theorem laterComponent?_of_isEntryName {name : String} (named : FileTree.IsEntryName name) :
    Path.laterComponent? name = some (.name name) := by
  rw [Path.laterComponent?, if_neg (not_or.mpr ⟨named.notEmpty, named.notDot⟩),
    if_neg named.notDots]

/-- The name of an entry adds itself to the components of the directory's path. -/
theorem components_entryPath {path : Path} (nonempty : path.text ≠ "") (settled : IsSettled path)
    {name : String} (named : FileTree.IsEntryName name) :
    .current ∉ (entryPath path name).components ∧
      (entryPath path name).components = path.steps ++ [.name name] := by
  have absent := (isSettled_entryPath named.slashFree nonempty settled).resolve_left
    (named.notDot ·.2.1)
  refine ⟨absent, ?_⟩
  rw [← Path.steps_of_not_mem absent, steps_entryPath named.slashFree nonempty,
    laterComponent?_of_isEntryName named]
  rfl

theorem components_foldl_entryPath {path : Path} (nonempty : path.text ≠ "")
    (settled : IsSettled path) {names : List String} (names_ne : names ≠ [])
    (named : ∀ name ∈ names, FileTree.IsEntryName name) :
    (names.foldl entryPath path).components = path.steps ++ names.map .name := by
  induction names generalizing path with
  | nil => exact absurd rfl names_ne
  | cons name rest ih =>
      obtain ⟨isNamed, named⟩ := List.forall_mem_cons.mp named
      obtain ⟨absent, components⟩ := components_entryPath nonempty settled isNamed
      by_cases single : rest = []
      · subst single
        exact components
      · -- Behind the first name the path no longer stands for the directory itself.
        have nonemptyNext := entryPath_text_ne nonempty fun _ => isNamed.notEmpty
        rw [List.foldl_cons, ih nonemptyNext (.inr absent) single named,
          Path.steps_of_not_mem absent, components, List.append_assoc]
        rfl

/-- The descendants of a place are known by the names that lead to them. -/
theorem exists_mem_descendants_iff {base : Place} (nonempty : base.path.text ≠ "")
    (settled : IsSettled base.path) (proper : base.tree.IsProper) {name : String}
    {components : List PathComponent} :
    (∃ place ∈ base.descendants, place.name = name ∧ place.path.components = components) ↔
      ∃ names found, base.tree.at? names = some found ∧ names.getLast? = some name ∧
        components = base.path.steps ++ names.map .name := by
  have along {names : List String} {found : FileTree} (leads : base.tree.at? names = some found)
      (last : names.getLast? = some name) :
      (names.foldl entryPath base.path).components = base.path.steps ++ names.map .name := by
    refine components_foldl_entryPath nonempty settled ?_ (proper.isEntryName leads)
    rintro rfl
    cases last
  constructor
  · rintro ⟨place, member, rfl, rfl⟩
    obtain ⟨names, leads, last, follows⟩ := (mem_below_iff proper).mp member
    exact ⟨names, place.tree, leads, last, follows ▸ along leads last⟩
  · rintro ⟨names, found, leads, last, rfl⟩
    exact ⟨⟨names.foldl entryPath base.path, name, found⟩,
      (mem_below_iff proper).mpr ⟨names, leads, last, rfl⟩, rfl, along leads last⟩

end Place

/-- Directories at any depth with entries of some names are the places below of these names. -/
theorem expand_anyDepth (files : Files) (place : Place) {pattern : Pattern}
    (single : pattern.isAnyDepth = false) :
    expand files false [[.anyDepth], pattern] place =
      place.descendants.filter fun found => pattern.fits found.name.toList := by
  have depth : Pattern.isAnyDepth [.anyDepth] = true := rfl
  rw [expand, if_pos depth, expand, single, if_neg Bool.false_ne_true, if_pos rfl]
  simp only [expand, List.flatMap_singleton']

/-! ## The start of a search -/

section Start

open Place

variable {files : Files} {directory : Path} {location : List String}

theorem pieces_startOf (path : Path) :
    (startOf path).pieces = if path.isAbsolute then ["", ""] else ["."] := by
  rw [startOf]
  split <;> decide

theorem isAbsolute_startOf (path : Path) : (startOf path).isAbsolute = path.isAbsolute := by
  rw [startOf]
  cases path.isAbsolute <;> rfl

theorem checkPath_startOf (path : Path) : checkPath (startOf path) = .ok () := by
  rw [startOf]
  cases path.isAbsolute <;> rfl

/-- A search starts where the path is followed from. -/
theorem stands_startOf {entries : List (String × FileTree)}
    (found : files.root.at? (files.startOf directory) = some (.directory entries)) :
    Stands files ⟨startOf directory, "", .directory entries⟩ (files.startOf directory) where
  located := by
    rw [locate_eq_ok_iff, Files.startOf, isAbsolute_startOf, ← Files.startOf, pieces_startOf]
    refine ⟨checkPath_startOf directory, ?_⟩
    split
    · rw [List.foldlM_cons, followPiece_empty found]
      exact (foldlM_single _ _).trans (followPiece_empty found)
    · exact (foldlM_single _ _).trans (followPiece_dot found)
  found := found
  settled := by
    change IsSettled (startOf directory)
    rw [startOf]
    split
    · exact .inr (by decide)
    · exact .inl rfl

theorem steps_startOf (path : Path) :
    (startOf path).steps = if path.isAbsolute then [.root] else [] := by
  rw [startOf]
  split <;> decide

/-- The pieces in front of those that lead on. -/
def piecesBefore (directory : Path) : List String :=
  if directory.isAbsolute then [""] else []

theorem piecesBefore_append (directory : Path) :
    piecesBefore directory ++ directory.onwardPieces = directory.directoryPieces := by
  rw [piecesBefore, Path.onwardPieces]
  split
  · rename_i absolute
    exact (Path.directoryPieces_of_isAbsolute absolute).symm
  · rfl

theorem isWithin_startOf (directory : Path) :
    IsWithin (piecesBefore directory) (startOf directory) := by
  rw [piecesBefore, startOf]
  split
  · exact .inr ⟨List.cons_ne_nil _ _, .inl rfl⟩
  · exact .inl rfl

theorem joined_directoryPieces_sublist (directory : Path) :
    (joined directory.directoryPieces).Sublist directory.text.toList := by
  rw [← joined_pieces]
  rcases Path.pieces_eq_or directory with ⟨_, same⟩ | ⟨_, _, _, more⟩
  · rw [same]
  · rw [more]
    exact (joined_front _ _).sublist

/-- Behind the pieces of a path to a directory a search goes on from there. -/
theorem exists_flatMap_expand {tree : FileTree} (leads : files.find directory = .ok tree)
    (way : directory.isAbsolute = false → losesWay directory.onwardPieces = false) :
    ∃ base : Place, base.tree = tree ∧ base.path.text ≠ "" ∧ IsSettled base.path ∧
      base.path.steps = directory.steps ∧
      ∀ rest, (placeAt files (startOf directory) "").flatMap
          (expand files false (charsOf directory.onwardPieces ++ rest)) =
        expand files false rest base := by
  obtain ⟨location, located, found⟩ := Files.find_eq_ok_iff.mp leads
  obtain ⟨passes, leads⟩ := locate_eq_ok_iff.mp located
  obtain ⟨entries, atStart⟩ := exists_startOf leads
  have stands := stands_startOf atStart
  have single : placeAt files (startOf directory) "" =
      [⟨startOf directory, "", .directory entries⟩] := by
    rw [placeAt, Files.find_eq_ok_iff.mpr ⟨_, stands.located, atStart⟩]
  have slashFree : ∀ name ∈ directory.onwardPieces, '/' ∉ name.toList :=
    fun name member => (Path.of_mem_pieces (Path.mem_pieces_of_mem_onwardPieces member)).1
  have wayOn : startOf directory = .here → losesWay directory.onwardPieces = false := by
    intro isHere
    cases absolute : directory.isAbsolute with
    | false => exact way absolute
    | true =>
        rw [startOf, if_pos absolute] at isHere
        exact absurd isHere (by decide)
  obtain ⟨base, standsThere, steps, expands⟩ := stands.expand_charsOf (isWithin_startOf directory)
    (piecesBefore_append directory ▸ joined_directoryPieces_sublist directory) passes slashFree
    wayOn (foldlM_onwardPieces leads)
  refine ⟨base, Option.some.inj (standsThere.found.symm.trans found), standsThere.nonempty,
    standsThere.settled, ?_, fun rest => ?_⟩
  · refine steps.trans ?_
    change (startOf directory).steps ++ _ = _
    rw [steps_startOf, Path.steps_eq]
  · rw [single, List.flatMap_singleton]
    exact expands rest

end Start

end ProtoSchema.Glob
