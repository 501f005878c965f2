import ProtoSchema.Manifest.Source
import ProtoSchema.Proofs.Glob.Search

/-!
# What the scan of a directory finds

A directory is scanned by patterns that its path is part of. If the path stands for itself
in them, the scan lists what lies below the directory under a name with an ending of
manifest files, each once and in order. These are the manifest files exactly if no directory
has such a name and no name is such an ending alone.
-/

namespace ProtoSchema

namespace Manifest

open Glob

/-! ## Patterns of a directory -/

/-- Whether a directory's path stands for itself as the start of a pattern: it has no sign
and no backslash, and no empty piece at its start. -/
structure IsSearchable (directory : Path) : Prop where
  isPlain : Pattern.IsPlain directory.text.toList
  noBackslash : '\\' ∉ directory.text.toList
  way : directory.isAbsolute = false → Place.losesWay directory.onwardPieces = false

/-- The part of a pattern for directories at any depth and the one for an ending. -/
def endingParts (extension : String) : List Pattern :=
  [[.anyDepth], Pattern.withEnding ('.' :: extension.toList)]

/-- The paths of what lies below a place under a name with an extension at its end. -/
def pathsBelow (base : Place) (extension : String) : List Path :=
  (base.descendants.filter fun found =>
    (Pattern.withEnding ('.' :: extension.toList)).fits found.name.toList).map Place.path

/-- Whether a text can stand as an extension in a pattern. -/
structure IsExtension (extension : String) : Prop where
  isPlain : Pattern.IsPlain extension.toList
  slashFree : '/' ∉ extension.toList
  noBackslash : '\\' ∉ extension.toList
  dotFree : '.' ∉ extension.toList

theorem isExtension_of_mem : ∀ extension ∈ extensions, IsExtension extension := by
  have each : ∀ extension ∈ extensions, Pattern.IsPlain extension.toList ∧
      '/' ∉ extension.toList ∧ '\\' ∉ extension.toList ∧ '.' ∉ extension.toList := by
    simp [extensions, Pattern.IsPlain]
  intro extension member
  obtain ⟨isPlain, slashFree, noBackslash, dotFree⟩ := each extension member
  exact { isPlain, slashFree, noBackslash, dotFree }

theorem toList_ending (extension : String) :
    ("**/*." ++ extension).toList = '*' :: '*' :: '/' :: '*' :: '.' :: extension.toList := by
  rw [String.toList_append]
  rfl

theorem patternFor_eq_ofList (directory : Path) (extension : String) :
    patternFor directory extension =
      ⟨String.ofList ((directory.join ⟨"**/*." ++ extension⟩).text.toList.map fun c =>
        if c = '\\' then '/' else c)⟩ := by
  rw [patternFor, Path.mk.injEq, ← String.toList_inj, String.toList_map, String.toList_ofList]

theorem isAbsolute_ending (extension : String) :
    (⟨"**/*." ++ extension⟩ : Path).isAbsolute = false := by
  rw [Path.isAbsolute, toList_ending]
  rfl

theorem pieces_ending {extension : String} (isExtension : IsExtension extension) :
    (⟨"**/*." ++ extension⟩ : Path).pieces = ["**", "*." ++ extension] := by
  have slashFree : '/' ∉ '*' :: '.' :: extension.toList := by
    simp [isExtension.slashFree]
  rw [Path.pieces, toList_ending]
  change (Text.pieces '/' (['*', '*'] ++ '/' :: '*' :: '.' :: extension.toList)).map _ = _
  rw [Text.pieces_append_separator, Text.pieces_of_not_mem slashFree]
  change [_, _] = _
  rw [List.cons_eq_cons, List.cons_eq_cons]
  refine ⟨rfl, String.toList_inj.mp ?_, rfl⟩
  rw [String.toList_ofList, String.toList_append]
  rfl

section Pattern

variable {directory : Path} (nonempty : directory.text ≠ "") (searchable : IsSearchable directory)
  {extension : String} (isExtension : IsExtension extension)
include nonempty searchable isExtension

/-- The pattern of a directory is a path in it. -/
theorem patternFor_eq :
    patternFor directory extension = directory.join ⟨"**/*." ++ extension⟩ := by
  obtain ⟨front, isFront, splits⟩ := Path.exists_toList_join nonempty
  have noBackslash : '\\' ∉ (directory.join ⟨"**/*." ++ extension⟩).text.toList := by
    rw [splits _ (isAbsolute_ending extension), toList_ending, List.mem_append, not_or]
    refine ⟨fun member => searchable.noBackslash (isFront.subset member), ?_⟩
    simp [isExtension.noBackslash]
  rw [patternFor_eq_ofList, Path.mk.injEq, ← String.toList_inj, String.toList_ofList]
  refine (List.map_congr_left fun c member => ?_).trans (List.map_id' _)
  exact if_neg (ne_of_mem_of_not_mem member noBackslash)

theorem exists_parse_patternFor :
    ∃ pattern, Pattern.parse (patternFor directory extension).text = .ok pattern := by
  obtain ⟨front, isFront, splits⟩ := Path.exists_toList_join nonempty
  have plainFront : Pattern.IsPlain (front ++ ['/']) := by
    refine List.forall_mem_append.mpr ⟨fun c member => ?_, by simp⟩
    exact searchable.isPlain c (isFront.subset member)
  have text : (patternFor directory extension).text = String.ofList
      (front ++ '/' :: '*' :: '*' :: '/' :: '*' :: '.' :: extension.toList) := by
    rw [patternFor_eq nonempty searchable isExtension, ← String.toList_inj, String.toList_ofList,
      splits _ (isAbsolute_ending extension), toList_ending]
  rw [text]
  exact Pattern.exists_parse_eq plainFront isExtension.isPlain

theorem parts_patternFor :
    parts (patternFor directory extension) =
      directory.onwardPieces ++ ["**", "*." ++ extension] := by
  have relative := isAbsolute_ending extension
  rw [patternFor_eq nonempty searchable isExtension, parts, Path.isAbsolute_join nonempty relative,
    Path.pieces_join nonempty relative, pieces_ending isExtension, Path.onwardPieces]
  split
  · exact List.tail_append_of_ne_nil (Path.directoryPieces_ne_nil directory)
  · rfl

theorem mapM_parse_parts :
    (parts (patternFor directory extension)).mapM Pattern.parse =
      .ok (Place.charsOf directory.onwardPieces ++ endingParts extension) := by
  have names : ∀ name ∈ directory.onwardPieces,
      Pattern.parse name = .ok (name.toList.map .char) := by
    intro name member
    refine Pattern.parse_plain fun c isIn => searchable.isPlain c ?_
    exact (Path.of_mem_pieces (Path.mem_pieces_of_mem_onwardPieces member)).2 isIn
  have depth : Pattern.parse "**" = .ok [.anyDepth] := rfl
  rw [parts_patternFor nonempty searchable isExtension, List.mapM_append, mapM_eq_ok names,
    List.mapM_cons, List.mapM_cons, depth, Pattern.parse_withEnding isExtension.isPlain]
  rfl

/-- The search for an extension finds what lies below the place where the directory leads. -/
theorem find_patternFor {files : Files} {base : Place}
    (expands : ∀ rest, (placeAt files (startOf directory) "").flatMap
        (expand files false (Place.charsOf directory.onwardPieces ++ rest)) =
      expand files false rest base) :
    Glob.find files (patternFor directory extension) = .ok (pathsBelow base extension) := by
  obtain ⟨pattern, parsed⟩ := exists_parse_patternFor nonempty searchable isExtension
  have start : startOf (patternFor directory extension) = startOf directory := by
    rw [startOf, patternFor_eq nonempty searchable isExtension,
      Path.isAbsolute_join nonempty (isAbsolute_ending extension), ← startOf]
  rw [Glob.find, parsed, mapM_parse_parts nonempty searchable isExtension, start]
  change Except.ok (List.map Place.path (List.flatMap (expand files false _) _)) = _
  rw [expands, endingParts, expand_anyDepth files base (Pattern.isAnyDepth_withEnding _), pathsBelow]

end Pattern

/-! ## Names -/

/-- Whether the scan takes what has a name: it has an ending of manifest files and is not the
name of the settings file. -/
def IsListedName (name : String) : Prop :=
  name ≠ Settings.fileName ∧ ∃ extension ∈ extensions, '.' :: extension.toList <:+ name.toList

/-- Whether a name is that of a manifest file. -/
def IsManifestName (name : String) : Prop :=
  name ≠ Settings.fileName ∧ ∃ extension ∈ extensions, Path.extensionOf? name = some extension

/-- The names that are an extension with a dot in front and nothing else. -/
def bareExtensions : List String :=
  extensions.map ("." ++ ·)

theorem toList_bare (extension : String) :
    ("." ++ extension).toList = [] ++ '.' :: extension.toList := by
  rw [String.toList_append]
  rfl

/-- A name that is taken is that of a manifest file unless nothing is in front of its ending. -/
theorem isManifestName_iff {name : String} :
    IsManifestName name ↔ IsListedName name ∧ name ∉ bareExtensions := by
  constructor
  · rintro ⟨apart, extension, member, found⟩
    obtain ⟨_, stem, _, split⟩ := Path.extensionOf?_eq_some_iff.mp found
    refine ⟨⟨apart, extension, member, stem, split.symm⟩, fun bare => ?_⟩
    obtain ⟨other, isExtension, rfl⟩ := List.mem_map.mp bare
    have dotFree := (isExtension_of_mem other isExtension).dotFree
    rw [Path.extensionOf?_of_split (toList_bare other) dotFree] at found
    cases found
  · rintro ⟨⟨apart, extension, member, stem, split⟩, notBare⟩
    have dotFree := (isExtension_of_mem extension member).dotFree
    have stem_ne : stem ≠ [] := by
      rintro rfl
      refine notBare (List.mem_map.mpr ⟨extension, member, String.toList_inj.mp ?_⟩)
      exact (toList_bare extension).trans split
    exact ⟨apart, extension, member,
      Path.extensionOf?_eq_some_iff.mpr ⟨dotFree, stem, stem_ne, split.symm⟩⟩

/-! ## Lists of paths -/

/-- Whether paths are those in a directory at wanted names, each once and in order. -/
structure Lists (directory : Path) (wanted : List String → Prop) (paths : List Path) : Prop where
  mem_iff : ∀ components, components ∈ paths.map Path.components ↔
    ∃ names, wanted names ∧ components = directory.steps ++ names.map .name
  ordered : paths.Pairwise fun earlier later =>
    earlier.le later = true ∧ earlier.components ≠ later.components

namespace Lists

variable {directory : Path} {wanted : List String → Prop} {paths : List Path}

/-- What is wanted can be told from the paths. -/
theorem mem_iff_wanted (lists : Lists directory wanted paths) (names : List String) :
    directory.steps ++ names.map .name ∈ paths.map Path.components ↔ wanted names := by
  rw [lists.mem_iff]
  constructor
  · rintro ⟨others, isWanted, equal⟩
    have injective : Function.Injective PathComponent.name :=
      fun _ _ equal => PathComponent.name.inj equal
    exact injective.list_map (List.append_cancel_left equal) ▸ isWanted
  · exact fun isWanted => ⟨names, isWanted, rfl⟩

theorem iff_of_lists {second : List String → Prop} (lists : Lists directory wanted paths) :
    Lists directory second paths ↔ ∀ names, wanted names ↔ second names := by
  constructor
  · intro isSecond names
    exact (lists.mem_iff_wanted names).symm.trans (isSecond.mem_iff_wanted names)
  · intro same
    obtain rfl : wanted = second := funext fun names => propext (same names)
    exact lists

end Lists

theorem mem_map_distinct_iff {paths : List Path} {components : List PathComponent} :
    components ∈ (distinct paths).map Path.components ↔ components ∈ paths.map Path.components := by
  induction paths with
  | nil => rfl
  | cons path rest ih =>
      rw [distinct, List.map_cons, List.map_cons, List.mem_cons, List.mem_cons, ← ih]
      by_cases same : components = path.components
      · exact iff_of_true (.inl same) (.inl same)
      · rw [or_iff_right same, or_iff_right same, List.mem_map, List.mem_map]
        refine exists_congr fun other => and_congr_left fun equal => ?_
        have apart : (!other.isSame path) = true := by
          rw [Bool.not_eq_true', Bool.eq_false_iff]
          exact fun isSame => same (equal.symm.trans (Path.isSame_iff.mp isSame))
        rw [List.mem_filter, and_iff_left apart]

theorem pairwise_distinct (paths : List Path) :
    (distinct paths).Pairwise fun earlier later => earlier.components ≠ later.components := by
  induction paths with
  | nil => exact List.Pairwise.nil
  | cons path rest ih =>
      rw [distinct, List.pairwise_cons]
      refine ⟨fun later member => ?_, ih.filter _⟩
      intro same
      have apart := (List.mem_filter.mp member).2
      rw [Path.isSame_iff.mpr same.symm] at apart
      cases apart

/-- Sorted and each once, paths are listed as they were found. -/
theorem lists_mergeSort_distinct {directory : Path} {wanted : List String → Prop}
    {paths : List Path}
    (found : ∀ components, components ∈ paths.map Path.components ↔
      ∃ names, wanted names ∧ components = directory.steps ++ names.map .name) :
    Lists directory wanted ((distinct paths).mergeSort Path.le) where
  mem_iff components := by
    have sorted := (List.mergeSort_perm (distinct paths) Path.le).map Path.components
    exact sorted.mem_iff.trans (mem_map_distinct_iff.trans (found components))
  ordered := by
    refine (List.pairwise_mergeSort Path.le_trans Path.le_total (distinct paths)).and ?_
    exact ((List.mergeSort_perm _ _).pairwise_iff Ne.symm).mpr (pairwise_distinct paths)

/-! ## The scan -/

/-- Whether there is something below a tree at names that the scan takes. -/
def IsListed (tree : FileTree) (names : List String) : Prop :=
  ∃ found name, tree.at? names = some found ∧ names.getLast? = some name ∧ IsListedName name

/-- Whether there is a manifest file below a tree at names. -/
def IsManifestFile (tree : FileTree) (names : List String) : Prop :=
  ∃ content name, tree.at? names = some (.file content) ∧ names.getLast? = some name ∧
    IsManifestName name

/-- What the searches below a place find for all extensions, the settings file apart, is what
the scan takes there. -/
theorem mem_map_kept_iff {base : Place} (nonempty : base.path.text ≠ "")
    (settled : Place.IsSettled base.path) (proper : base.tree.IsProper)
    {components : List PathComponent} :
    components ∈ ((extensions.map (pathsBelow base)).flatten.filter fun path =>
        path.fileName? != some Settings.fileName).map Path.components ↔
      ∃ names, IsListed base.tree names ∧ components = base.path.steps ++ names.map .name := by
  constructor
  · intro listed
    obtain ⟨path, kept, rfl⟩ := List.mem_map.mp listed
    obtain ⟨isFound, apart⟩ := List.mem_filter.mp kept
    obtain ⟨paths, isSearch, inPaths⟩ := List.mem_flatten.mp isFound
    obtain ⟨extension, isExtension, rfl⟩ := List.mem_map.mp isSearch
    obtain ⟨place, fitting, rfl⟩ := List.mem_map.mp inPaths
    obtain ⟨below, fits⟩ := List.mem_filter.mp fitting
    obtain ⟨names, found, leads, last, components⟩ :=
      (Place.exists_mem_descendants_iff nonempty settled proper).mp ⟨place, below, rfl, rfl⟩
    rw [Path.fileName?_of_components components last, bne_iff_ne] at apart
    exact ⟨names, ⟨found, place.name, leads, last, fun same => apart (congrArg some same),
      extension, isExtension, Pattern.fits_withEnding.mp fits⟩, components⟩
  · rintro ⟨names, ⟨found, name, leads, last, apart, extension, isExtension, ends⟩, components⟩
    obtain ⟨place, below, rfl, rfl⟩ :=
      (Place.exists_mem_descendants_iff nonempty settled proper).mpr
        ⟨names, found, leads, last, components⟩
    refine List.mem_map_of_mem (List.mem_filter.mpr ⟨List.mem_flatten.mpr ⟨_,
      List.mem_map_of_mem isExtension, List.mem_map_of_mem (List.mem_filter.mpr
        ⟨below, Pattern.fits_withEnding.mpr ends⟩)⟩, ?_⟩)
    rw [Path.fileName?_of_components components last, bne_iff_ne]
    exact fun same => apart (Option.some.inj same)

/-- Everything that is taken is a manifest file exactly if it is a file and has something in
front of its ending. -/
theorem forall_isListed_iff {tree : FileTree} :
    (∀ names, IsListed tree names ↔ IsManifestFile tree names) ↔
      ∀ names found name, tree.at? names = some found → names.getLast? = some name →
        IsListedName name → found.isDirectory = false ∧ name ∉ bareExtensions := by
  constructor
  · intro same names found name leads last isListed
    obtain ⟨content, other, leads', last', isManifest⟩ :=
      (same names).mp ⟨found, name, leads, last, isListed⟩
    obtain rfl := Option.some.inj (leads.symm.trans leads')
    obtain rfl := Option.some.inj (last.symm.trans last')
    exact ⟨rfl, (isManifestName_iff.mp isManifest).2⟩
  · intro clean names
    constructor
    · rintro ⟨found, name, leads, last, isListed⟩
      obtain ⟨isFile, notBare⟩ := clean names found name leads last isListed
      cases found with
      | file content =>
          exact ⟨content, name, leads, last, isManifestName_iff.mpr ⟨isListed, notBare⟩⟩
      | directory entries => cases isFile
    · rintro ⟨content, name, leads, last, isManifest⟩
      exact ⟨_, name, leads, last, (isManifestName_iff.mp isManifest).1⟩

/-- Whether the scan of a directory lists exactly the manifest files below it. -/
def ScansExactly (files : Files) (directory : Path) (tree : FileTree) : Prop :=
  ∃ paths, scan files directory = .ok paths ∧ Lists directory (IsManifestFile tree) paths

/-- A scan that finds nothing misses every manifest file that there is. -/
theorem not_scansExactly_of_find_eq_nil {files : Files} {directory : Path} {tree : FileTree}
    (nothing : ∀ extension ∈ extensions, Glob.find files (patternFor directory extension) = .ok [])
    {names : List String} (isManifest : IsManifestFile tree names) :
    ¬ScansExactly files directory tree := by
  rintro ⟨paths, scanned, lists⟩
  rw [scan, mapM_eq_ok nothing] at scanned
  obtain rfl := Except.ok.inj scanned
  have listed := (lists.mem_iff_wanted names).mpr isManifest
  simp [extensions, distinct] at listed

section Scan

variable {files : Files} {directory : Path} {tree : FileTree}
  (leads : files.find directory = .ok tree) (searchable : IsSearchable directory)
  (proper : tree.IsProper)
include leads searchable proper

/-- The scan of a searchable directory lists what it takes below it. -/
theorem exists_scan_eq :
    ∃ paths, scan files directory = .ok paths ∧ Lists directory (IsListed tree) paths := by
  obtain ⟨_, located, _⟩ := Files.find_eq_ok_iff.mp leads
  have nonempty := Files.text_ne_of_locate located
  obtain ⟨base, rfl, baseNonempty, settled, steps, expands⟩ :=
    exists_flatMap_expand leads searchable.way
  have finds := mapM_eq_ok fun extension member =>
    find_patternFor nonempty searchable (isExtension_of_mem extension member) expands
  rw [scan, finds]
  refine ⟨_, rfl, lists_mergeSort_distinct fun components => ?_⟩
  rw [← steps]
  exact mem_map_kept_iff baseNonempty settled proper

theorem scansExactly_iff_forall :
    ScansExactly files directory tree ↔
      ∀ names, IsListed tree names ↔ IsManifestFile tree names := by
  obtain ⟨paths, scanned, lists⟩ := exists_scan_eq leads searchable proper
  constructor
  · rintro ⟨others, scanned', exact⟩
    obtain rfl := Except.ok.inj (scanned.symm.trans scanned')
    exact lists.iff_of_lists.mp exact
  · exact fun same => ⟨paths, scanned, lists.iff_of_lists.mpr same⟩

/-- The scan of a searchable directory lists what it takes below it, each once and in order.
These are the manifest files below it exactly if nothing that it takes is a directory or has
only an ending for a name. -/
theorem scan_lists_manifests_iff :
    (∃ paths, scan files directory = .ok paths ∧ Lists directory (IsListed tree) paths) ∧
      (ScansExactly files directory tree ↔
        ∀ names found name, tree.at? names = some found → names.getLast? = some name →
          IsListedName name → found.isDirectory = false ∧ name ∉ bareExtensions) := by
  constructor
  · exact exists_scan_eq leads searchable proper
  · exact (scansExactly_iff_forall leads searchable proper).trans forall_isListed_iff

end Scan

/-- A slash at the end of the path, and a manifest file below a directory in the directory. -/
theorem scan_lists_manifests_iff_nested :
    let tree : FileTree := .directory [("old", .directory [("shop.yml", .file .empty)])]
    let files : Files := ⟨.directory [("data", tree)], []⟩
    files.find ⟨"data/"⟩ = .ok tree ∧ IsSearchable ⟨"data/"⟩ ∧ tree.IsProper ∧
      (∃ paths, scan files ⟨"data/"⟩ = .ok paths ∧ Lists ⟨"data/"⟩ (IsListed tree) paths) ∧
      ScansExactly files ⟨"data/"⟩ tree := by
  intro tree files
  have leads : files.find ⟨"data/"⟩ = .ok tree := rfl
  have searchable : IsSearchable ⟨"data/"⟩ :=
    { isPlain := by simp [Pattern.IsPlain], noBackslash := by decide, way := fun _ => by decide }
  have proper : tree.IsProper :=
    .single (by constructor <;> decide) (.single (by constructor <;> decide) (.file _))
  obtain ⟨listed, exactly⟩ := scan_lists_manifests_iff leads searchable proper
  refine ⟨leads, searchable, proper, listed, exactly.mpr ?_⟩
  rintro (_ | ⟨first, rest⟩) found name inTree last isListed
  · cases last
  · obtain ⟨rfl, inOld⟩ := FileTree.at?_single_eq_some_iff.mp inTree
    rcases rest with _ | ⟨second, rest⟩
    · obtain rfl := Option.some.inj last
      exact absurd isListed.2 (by decide)
    · obtain ⟨rfl, inShop⟩ := FileTree.at?_single_eq_some_iff.mp inOld
      rcases rest with _ | ⟨third, rest⟩
      · cases inShop
        obtain rfl := Option.some.inj last
        exact ⟨rfl, by decide⟩
      · cases inShop

/-- Brackets in the path of a directory stand for a set of characters there, a backslash for
a slash, and behind a dot an empty piece leads nowhere; below a plain directory, directories
and files whose names are an ending are taken for manifest files. -/
theorem scan_not_exact :
    let shop : FileTree := .directory [("shop.json", .file .empty)]
    let old : FileTree := .directory [("old.json", .directory [])]
    let bare : FileTree := .directory [(".json", .file .empty)]
    ¬ScansExactly ⟨.directory [("data[1]", shop)], []⟩ ⟨"data[1]"⟩ shop ∧
      ¬ScansExactly ⟨.directory [("a\\b", shop)], []⟩ ⟨"a\\b"⟩ shop ∧
      ¬ScansExactly ⟨.directory [("data", shop)], []⟩ ⟨".//data"⟩ shop ∧
      ¬ScansExactly ⟨.directory [("data", old)], []⟩ ⟨"data"⟩ old ∧
      ¬ScansExactly ⟨.directory [("data", bare)], []⟩ ⟨"data"⟩ bare := by
  dsimp only
  have isManifest : IsManifestFile (.directory [("shop.json", .file .empty)]) ["shop.json"] :=
    ⟨.empty, "shop.json", rfl, rfl, by decide, "json", by decide, rfl⟩
  have searchable : IsSearchable ⟨"data"⟩ :=
    { isPlain := by simp [Pattern.IsPlain], noBackslash := by decide, way := fun _ => by decide }
  refine ⟨not_scansExactly_of_find_eq_nil ?_ isManifest,
    not_scansExactly_of_find_eq_nil ?_ isManifest,
    not_scansExactly_of_find_eq_nil ?_ isManifest, fun exact => ?_, fun exact => ?_⟩
  · simp only [extensions, List.forall_mem_cons, patternFor_eq_ofList]
    exact ⟨rfl, rfl, rfl, nofun⟩
  · simp only [extensions, List.forall_mem_cons, patternFor_eq_ofList]
    exact ⟨rfl, rfl, rfl, nofun⟩
  · simp only [extensions, List.forall_mem_cons, patternFor_eq_ofList]
    exact ⟨rfl, rfl, rfl, nofun⟩
  · have proper : FileTree.IsProper (.directory [("old.json", .directory [])]) :=
      .single (by constructor <;> decide) (.directory .nil nofun nofun)
    have listed : IsListed (.directory [("old.json", .directory [])]) ["old.json"] :=
      ⟨.directory [], "old.json", rfl, rfl, by decide, "json", by decide, by decide⟩
    obtain ⟨_, _, leads, _⟩ :=
      ((scansExactly_iff_forall rfl searchable proper).mp exact _).mp listed
    cases leads
  · have proper : FileTree.IsProper (.directory [(".json", .file .empty)]) :=
      .single (by constructor <;> decide) (.file _)
    have listed : IsListed (.directory [(".json", .file .empty)]) [".json"] :=
      ⟨.file .empty, ".json", rfl, rfl, by decide, "json", by decide, by decide⟩
    obtain ⟨_, _, _, last, isManifest⟩ :=
      ((scansExactly_iff_forall rfl searchable proper).mp exact _).mp listed
    obtain rfl := Option.some.inj last
    exact (isManifestName_iff.mp isManifest).2 (by decide)

end Manifest

end ProtoSchema
