import Mathlib.Data.List.Nodup
import ProtoSchema.FileTree
import ProtoSchema.Proofs.Path
import ProtoSchema.Proofs.Reading

/-!
# Laws of file trees

A tree is proper if the entries of each directory have different names that a path can
lead to. What is found below a proper tree is proper. A path leads to the tree at the place
where its pieces end, and a directory's path leads there with or without a slash at its end.
-/

namespace ProtoSchema

namespace FileTree

/-- Whether an entry of a directory can have a name. -/
structure IsEntryName (name : String) : Prop where
  notEmpty : name ≠ ""
  notDot : name ≠ "."
  notDots : name ≠ ".."
  slashFree : '/' ∉ name.toList

/-- Whether the entries of each directory in a tree have names of their own. -/
inductive IsProper : FileTree → Prop where
  | file (content : ByteArray) : IsProper (.file content)
  | directory {entries : List (String × FileTree)} (distinct : (entries.map Prod.fst).Nodup)
      (named : ∀ entry ∈ entries, IsEntryName entry.1)
      (proper : ∀ entry ∈ entries, IsProper entry.2) : IsProper (.directory entries)

theorem at?_append (front back : List String) (tree : FileTree) :
    tree.at? (front ++ back) = (tree.at? front).bind (at? back) := by
  induction front generalizing tree with
  | nil => rfl
  | cons name front ih =>
      rw [List.cons_append, at?, at?]
      cases tree.entries.lookup name with
      | none => rfl
      | some entry => exact ih entry

theorem lookup_eq_some_iff {entries : List (String × FileTree)}
    (distinct : (entries.map Prod.fst).Nodup) {name : String} {tree : FileTree} :
    entries.lookup name = some tree ↔ (name, tree) ∈ entries := by
  rw [List.lookup_eq_some_iff]
  constructor
  · rintro ⟨before, after, rfl, _⟩
    exact List.mem_append_right _ List.mem_cons_self
  · intro member
    obtain ⟨before, after, rfl⟩ := List.append_of_mem member
    refine ⟨before, after, rfl, fun entry earlier => ?_⟩
    rw [List.map_append, List.nodup_append] at distinct
    have different := distinct.2.2 entry.1 (List.mem_map_of_mem earlier) name List.mem_cons_self
    exact bne_iff_ne.mpr (Ne.symm different)

/-- What is found in a directory is found in one of its entries. -/
theorem at?_cons_eq_some_iff {entries : List (String × FileTree)}
    (distinct : (entries.map Prod.fst).Nodup) {name : String} {rest : List String}
    {found : FileTree} :
    (directory entries).at? (name :: rest) = some found ↔
      ∃ tree, (name, tree) ∈ entries ∧ tree.at? rest = some found := by
  rw [at?, Option.bind_eq_some_iff]
  exact exists_congr fun tree => and_congr_left fun _ => lookup_eq_some_iff distinct

theorem at?_single_eq_some_iff {name first : String} {tree found : FileTree} {rest : List String} :
    (directory [(name, tree)]).at? (first :: rest) = some found ↔
      first = name ∧ tree.at? rest = some found := by
  have distinct : ([(name, tree)].map Prod.fst).Nodup := List.nodup_singleton name
  rw [at?_cons_eq_some_iff distinct]
  constructor
  · rintro ⟨inner, member, leads⟩
    obtain ⟨rfl, rfl⟩ := Prod.mk.inj (List.mem_singleton.mp member)
    exact ⟨rfl, leads⟩
  · rintro ⟨rfl, leads⟩
    exact ⟨tree, List.mem_cons_self, leads⟩

namespace IsProper

theorem single {name : String} {tree : FileTree} (named : IsEntryName name)
    (proper : tree.IsProper) : IsProper (.directory [(name, tree)]) :=
  .directory (List.nodup_singleton name) (List.forall_mem_singleton.mpr named)
    (List.forall_mem_singleton.mpr proper)

theorem at? {tree found : FileTree} {names : List String} (proper : tree.IsProper)
    (leads : tree.at? names = some found) : found.IsProper := by
  induction names generalizing tree with
  | nil => exact Option.some.inj leads ▸ proper
  | cons name rest ih =>
      cases proper with
      | file content => cases leads
      | directory distinct _ proper =>
          obtain ⟨inner, member, leads⟩ := (at?_cons_eq_some_iff distinct).mp leads
          exact ih (proper _ member) leads

theorem isEntryName {tree found : FileTree} {names : List String} (proper : tree.IsProper)
    (leads : tree.at? names = some found) : ∀ name ∈ names, IsEntryName name := by
  induction names generalizing tree with
  | nil => exact fun _ member => (List.not_mem_nil member).elim
  | cons name rest ih =>
      cases proper with
      | file content => cases leads
      | directory distinct named proper =>
          obtain ⟨inner, member, leads⟩ := (at?_cons_eq_some_iff distinct).mp leads
          exact List.forall_mem_cons.mpr ⟨named _ member, ih (proper _ member) leads⟩

end IsProper

end FileTree

namespace Files

open FileTree

variable {files : Files}

/-! ## Checks of paths -/

theorem checkPath_eq_ok_iff {path : Path} :
    checkPath path = .ok () ↔
      '\x00' ∉ path.text.toList ∧ path.text ≠ "" ∧ path.text.utf8ByteSize ≤ pathLimit := by
  rw [checkPath]
  split_ifs with nul isEmpty long
  · simp_all
  · simp_all
  · simp_all
  · simp_all

theorem size_utf8Encode_le {short long : List Char} (sub : short.Sublist long) :
    short.utf8Encode.size ≤ long.utf8Encode.size := by
  induction sub with
  | slnil => exact Nat.le_refl _
  | cons c _ ih =>
      rw [List.utf8Encode_cons, ByteArray.size_append]
      exact Nat.le_add_left_of_le ih
  | @cons_cons short long c _ ih =>
      rw [List.utf8Encode_cons, @List.utf8Encode_cons c long, ByteArray.size_append,
        ByteArray.size_append]
      exact Nat.add_le_add_left ih _

/-- A path with no more characters than one that passes the check passes it, too. -/
theorem checkPath_of_sublist {path longer : Path}
    (sub : path.text.toList.Sublist longer.text.toList) (nonempty : path.text ≠ "")
    (passes : checkPath longer = .ok ()) : checkPath path = .ok () := by
  rw [checkPath_eq_ok_iff] at passes ⊢
  obtain ⟨noNul, _, fits⟩ := passes
  refine ⟨fun nul => noNul (sub.subset nul), nonempty, Nat.le_trans ?_ fits⟩
  have shorter := size_utf8Encode_le sub
  rwa [String.utf8Encode_toList, String.utf8Encode_toList, String.size_toByteArray,
    String.size_toByteArray] at shorter

/-! ## Following pieces -/

/-- A piece is followed from a directory, and leads somewhere. -/
theorem exists_of_followPiece {place next : List String} {piece : String}
    (leads : files.followPiece place piece = .ok next) :
    (∃ entries, files.root.at? place = some (.directory entries)) ∧
      ∃ tree, files.root.at? next = some tree := by
  rw [followPiece] at leads
  cases found : files.root.at? place with
  | none => simp [found] at leads
  | some tree =>
      cases tree with
      | file content => simp [found] at leads
      | directory entries =>
          refine ⟨⟨entries, rfl⟩, ?_⟩
          simp only [found] at leads
          split_ifs at leads with stays up long known
          · exact ⟨_, Except.ok.inj leads ▸ found⟩
          · -- The parent is there, since the way to the place goes through it.
            obtain ⟨last, split⟩ := List.dropLast_prefix place
            rw [← split, at?_append] at found
            obtain ⟨parent, leads', _⟩ := Option.bind_eq_some_iff.mp found
            exact ⟨parent, Except.ok.inj leads ▸ leads'⟩
          · obtain ⟨tree, entry⟩ := Option.isSome_iff_exists.mp known
            refine ⟨tree, ?_⟩
            rw [← Except.ok.inj leads, at?_append, found]
            simp [FileTree.at?, FileTree.entries, entry]

section Stay

variable {place : List String} {entries : List (String × FileTree)}
  (found : files.root.at? place = some (.directory entries))
include found

theorem followPiece_empty : files.followPiece place "" = .ok place := by
  simp [followPiece, found]

theorem followPiece_dot : files.followPiece place "." = .ok place := by
  simp [followPiece, found]

end Stay

theorem locate_of_passes {path : Path} (passes : checkPath path = .ok ()) :
    files.locate path = path.pieces.foldlM files.followPiece (files.startOf path) := by
  rw [locate, passes]
  rfl

theorem foldlM_single (place : List String) (piece : String) :
    [piece].foldlM files.followPiece place = files.followPiece place piece :=
  bind_pure _

theorem locate_eq_ok_iff {path : Path} {place : List String} :
    files.locate path = .ok place ↔
      checkPath path = .ok () ∧
        path.pieces.foldlM files.followPiece (files.startOf path) = .ok place := by
  rw [locate, bind_eq_ok]
  exact ⟨fun ⟨_, passes, leads⟩ => ⟨passes, leads⟩, fun ⟨passes, leads⟩ => ⟨(), passes, leads⟩⟩

theorem text_ne_of_locate {path : Path} {place : List String}
    (located : files.locate path = .ok place) : path.text ≠ "" :=
  (checkPath_eq_ok_iff.mp (locate_eq_ok_iff.mp located).1).2.1

/-- A name alone is followed from the working directory. -/
theorem locate_name {name : String} (slashFree : '/' ∉ name.toList)
    (passes : checkPath ⟨name⟩ = .ok ()) :
    files.locate ⟨name⟩ = files.followPiece files.workingDirectory name := by
  rw [locate_of_passes passes, Path.pieces_of_slashFree slashFree, startOf,
    Path.isAbsolute_of_slashFree slashFree, if_neg Bool.false_ne_true, foldlM_single]

theorem find_eq_ok_iff {path : Path} {tree : FileTree} :
    files.find path = .ok tree ↔
      ∃ place, files.locate path = .ok place ∧ files.root.at? place = some tree := by
  rw [find, bind_eq_ok]
  refine exists_congr fun place => and_congr_right fun _ => ?_
  cases files.root.at? place with
  | none => exact iff_of_false nofun nofun
  | some found =>
      exact ⟨fun given => congrArg some (Except.ok.inj given),
        fun given => congrArg Except.ok (Option.some.inj given)⟩

/-! ## The paths of directories -/

section Directory

variable {directory : Path} {place : List String}

/-- A slash at the end of a path to a directory leads nowhere else. -/
theorem foldlM_directoryPieces
    (leads : directory.pieces.foldlM files.followPiece (files.startOf directory) = .ok place) :
    directory.directoryPieces.foldlM files.followPiece (files.startOf directory) = .ok place := by
  rcases Path.pieces_eq_or directory with ⟨_, same⟩ | ⟨_, _, _, more⟩
  · rwa [← same]
  · rw [more, List.foldlM_append, bind_eq_ok] at leads
    obtain ⟨middle, leadsThere, last⟩ := leads
    obtain ⟨_, follows, ⟨⟩⟩ := bind_eq_ok.mp last
    obtain ⟨⟨entries', found'⟩, _⟩ := exists_of_followPiece follows
    rw [followPiece_empty found'] at follows
    exact Except.ok.inj follows ▸ leadsThere

/-- A name in a directory is followed from the place of the directory. -/
theorem locate_join (located : files.locate directory = .ok place) {name : String}
    (slashFree : '/' ∉ name.toList) (passes : checkPath (directory.join ⟨name⟩) = .ok ()) :
    files.locate (directory.join ⟨name⟩) = files.followPiece place name := by
  obtain ⟨_, leads⟩ := locate_eq_ok_iff.mp located
  have nonempty := text_ne_of_locate located
  have relative := Path.isAbsolute_of_slashFree slashFree
  rw [locate_of_passes passes, startOf, Path.isAbsolute_join nonempty relative, ← startOf,
    Path.pieces_join nonempty relative, Path.pieces_of_slashFree slashFree, List.foldlM_append,
    foldlM_directoryPieces leads]
  exact foldlM_single place name

/-- A path to a directory is followed from a directory. -/
theorem exists_startOf
    (leads : directory.pieces.foldlM files.followPiece (files.startOf directory) = .ok place) :
    ∃ entries, files.root.at? (files.startOf directory) = some (.directory entries) := by
  obtain ⟨first, rest, cut⟩ := List.exists_cons_of_ne_nil (Path.directoryPieces_ne_nil directory)
  have leads := foldlM_directoryPieces leads
  rw [cut, List.foldlM_cons, bind_eq_ok] at leads
  obtain ⟨_, follows, _⟩ := leads
  exact (exists_of_followPiece follows).1

/-- The pieces that lead on from the start lead to the place. -/
theorem foldlM_onwardPieces
    (leads : directory.pieces.foldlM files.followPiece (files.startOf directory) = .ok place) :
    directory.onwardPieces.foldlM files.followPiece (files.startOf directory) = .ok place := by
  obtain ⟨entries, atStart⟩ := exists_startOf leads
  have leads := foldlM_directoryPieces leads
  rw [Path.onwardPieces]
  split
  · rename_i absolute
    rw [Path.directoryPieces_of_isAbsolute absolute, List.foldlM_cons,
      followPiece_empty atStart] at leads
    exact leads
  · exact leads

end Directory

end Files

end ProtoSchema
