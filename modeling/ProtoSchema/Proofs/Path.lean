import Mathlib.Data.List.TakeWhile
import ProtoSchema.Path
import ProtoSchema.Proofs.Text.Pieces

/-!
# Laws of paths

Joining puts pieces behind those of the directory, so the components of a joined path are
those of the directory and of the path. The order of paths is the lexicographic order of
their components and tells all but paths of the same components apart.
-/

namespace ProtoSchema

namespace PathComponent

/-! ## The order of components -/

/-- Kinds of components come in the order of their ranks, names in their own order. -/
theorem isBefore_iff {a b : PathComponent} :
    a.isBefore b = true ↔ a.rank < b.rank ∨ ∃ text other, a = .name text ∧ b = .name other ∧
      text < other := by
  unfold isBefore
  split
  · rw [decide_eq_true_iff]
    constructor
    · exact fun before => .inr ⟨_, _, rfl, rfl, before⟩
    · rintro (lower | ⟨_, _, ⟨⟩, ⟨⟩, before⟩)
      · exact absurd lower (Nat.lt_irrefl _)
      · exact before
  · rename_i notNames
    rw [decide_eq_true_iff]
    refine ⟨.inl, fun before => before.resolve_right ?_⟩
    rintro ⟨text, other, rfl, rfl, _⟩
    exact notNames text other rfl rfl

theorem isBefore_trans {a b c : PathComponent} (first : a.isBefore b = true)
    (second : b.isBefore c = true) : a.isBefore c = true := by
  rw [isBefore_iff] at first second ⊢
  rcases first with lower | ⟨text, middle, rfl, rfl, before⟩
  · rcases second with lower' | ⟨_, _, rfl, rfl, _⟩
    · exact .inl (Nat.lt_trans lower lower')
    · exact .inl lower
  · rcases second with lower | ⟨_, other, ⟨⟩, rfl, later⟩
    · exact .inl lower
    · exact .inr ⟨text, other, rfl, rfl, String.lt_trans before later⟩

theorem eq_or_names_of_rank_eq {a b : PathComponent} (same : a.rank = b.rank) :
    a = b ∨ ∃ text other, a = .name text ∧ b = .name other := by
  cases a <;> cases b <;> simp [rank] at same ⊢

theorem isBefore_trichotomy (a b : PathComponent) :
    a.isBefore b = true ∨ a = b ∨ b.isBefore a = true := by
  simp only [isBefore_iff]
  rcases Nat.lt_trichotomy a.rank b.rank with lower | same | higher
  · exact .inl (.inl lower)
  · rcases eq_or_names_of_rank_eq same with equal | ⟨text, other, rfl, rfl⟩
    · exact .inr (.inl equal)
    · by_cases before : text < other
      · exact .inl (.inr ⟨text, other, rfl, rfl, before⟩)
      · by_cases after : other < text
        · exact .inr (.inr (.inr ⟨other, text, rfl, rfl, after⟩))
        · have equal := String.le_antisymm (String.not_lt.mp after) (String.not_lt.mp before)
          exact .inr (.inl (congrArg name equal))
  · exact .inr (.inr (.inl higher))

end PathComponent

namespace Path

open PathComponent

/-! ## The order of paths -/

theorem componentsLe_cons_iff {a b : PathComponent} {as bs : List PathComponent} :
    componentsLe (a :: as) (b :: bs) = true ↔
      a.isBefore b = true ∨ a = b ∧ componentsLe as bs = true := by
  simp [componentsLe]

theorem componentsLe_trans {as bs cs : List PathComponent} (first : componentsLe as bs = true)
    (second : componentsLe bs cs = true) : componentsLe as cs = true := by
  induction as generalizing bs cs with
  | nil => rfl
  | cons a as ih =>
      cases bs with
      | nil => cases first
      | cons b bs =>
          cases cs with
          | nil => cases second
          | cons c cs =>
              rw [componentsLe_cons_iff] at first second ⊢
              rcases first with before | ⟨rfl, le⟩
              · rcases second with later | ⟨rfl, _⟩
                · exact .inl (isBefore_trans before later)
                · exact .inl before
              · rcases second with later | ⟨rfl, later⟩
                · exact .inl later
                · exact .inr ⟨rfl, ih le later⟩

theorem componentsLe_total (as bs : List PathComponent) :
    componentsLe as bs = true ∨ componentsLe bs as = true := by
  induction as generalizing bs with
  | nil => exact .inl rfl
  | cons a as ih =>
      cases bs with
      | nil => exact .inr rfl
      | cons b bs =>
          rw [componentsLe_cons_iff, componentsLe_cons_iff]
          rcases isBefore_trichotomy a b with before | rfl | after
          · exact .inl (.inl before)
          · exact (ih bs).imp (.inr ⟨rfl, ·⟩) (.inr ⟨rfl, ·⟩)
          · exact .inr (.inl after)

theorem le_trans (a b c : Path) (first : a.le b = true) (second : b.le c = true) :
    a.le c = true :=
  componentsLe_trans first second

theorem le_total (a b : Path) : (a.le b || b.le a) = true := by
  rw [Bool.or_eq_true]
  exact componentsLe_total a.components b.components

theorem isSame_iff {a b : Path} : a.isSame b = true ↔ a.components = b.components := by
  rw [isSame, beq_iff_eq]

/-! ## Joined paths -/

/-- The pieces of a directory's path without the empty piece behind a slash at its end. -/
def directoryPieces (directory : Path) : List String :=
  if directory.text.toList.getLast? = some '/' then directory.pieces.dropLast
  else directory.pieces

/-- A slash at the end is all that the pieces of a directory may have more. -/
theorem pieces_eq_or (directory : Path) :
    directory.text.toList.getLast? ≠ some '/' ∧
        directory.pieces = directory.directoryPieces ∨
      ∃ front, directory.text.toList = front ++ ['/'] ∧
        directory.directoryPieces = (Text.pieces '/' front).map String.ofList ∧
        directory.pieces = directory.directoryPieces ++ [""] := by
  by_cases slash : directory.text.toList.getLast? = some '/'
  · obtain ⟨front, split⟩ := List.getLast?_eq_some_iff.mp slash
    have cut : directory.pieces = (Text.pieces '/' front).map String.ofList ++ [""] := by
      rw [pieces, split, Text.pieces_append_separator, List.map_append]
      rfl
    have found : directory.directoryPieces = (Text.pieces '/' front).map String.ofList := by
      rw [directoryPieces, if_pos slash, cut, List.dropLast_concat]
    exact .inr ⟨front, split, found, found ▸ cut⟩
  · exact .inl ⟨slash, (if_neg slash).symm⟩

theorem directoryPieces_ne_nil (directory : Path) : directory.directoryPieces ≠ [] := by
  have cutNonempty (text : List Char) : (Text.pieces '/' text).map String.ofList ≠ [] :=
    fun none => Text.pieces_ne_nil '/' text (List.map_eq_nil_iff.mp none)
  rcases pieces_eq_or directory with ⟨_, same⟩ | ⟨front, _, found, _⟩
  · exact same ▸ cutNonempty _
  · exact found ▸ cutNonempty front

/-- The piece in front of the first slash of an absolute path is empty. -/
theorem directoryPieces_of_isAbsolute {directory : Path} (absolute : directory.isAbsolute = true) :
    directory.directoryPieces = "" :: directory.directoryPieces.tail := by
  obtain ⟨first, rest, cut⟩ := List.exists_cons_of_ne_nil (directoryPieces_ne_nil directory)
  obtain ⟨behind, starts⟩ := List.head?_eq_some_iff.mp (beq_iff_eq.mp absolute)
  have front : directory.pieces = "" :: (Text.pieces '/' behind).map String.ofList := by
    rw [pieces, starts, ← List.nil_append ('/' :: behind), Text.pieces_append_separator]
    rfl
  have isFirst : first = "" := by
    rcases pieces_eq_or directory with ⟨_, same⟩ | ⟨_, _, _, more⟩
    · exact (List.cons.inj (cut.symm.trans (same.symm.trans front))).1
    · rw [cut, front] at more
      exact (List.cons.inj more).1.symm
  rw [cut, isFirst]
  rfl

theorem of_mem_pieces {path : Path} {piece : String} (member : piece ∈ path.pieces) :
    '/' ∉ piece.toList ∧ piece.toList ⊆ path.text.toList := by
  obtain ⟨text, isPiece, rfl⟩ := List.mem_map.mp member
  rw [String.toList_ofList]
  exact Text.of_mem_pieces isPiece

section Join

variable {directory : Path} (nonempty : directory.text ≠ "")
include nonempty

theorem toList_join {path : Path} (relative : path.isAbsolute = false) :
    (directory.join path).text.toList =
      directory.text.toList ++
        (if directory.text.toList.getLast? = some '/' then [] else ['/']) ++ path.text.toList := by
  obtain ⟨front, last, split⟩ : ∃ front last, directory.text.toList = front ++ [last] := by
    have toListNonempty : directory.text.toList ≠ [] :=
      fun none => nonempty (String.toList_inj.mp none)
    exact ⟨_, _, (List.dropLast_append_getLast toListNonempty).symm⟩
  rw [join, if_neg (by simp [relative]), split, List.getLast?_concat]
  by_cases slash : last = '/'
  · simp [slash, split]
  · simp [slash, split]

/-- A joined path is a slash with characters of the directory in front and the path behind. -/
theorem exists_toList_join :
    ∃ front, front <+: directory.text.toList ∧ ∀ path : Path, path.isAbsolute = false →
      (directory.join path).text.toList = front ++ '/' :: path.text.toList := by
  by_cases slash : directory.text.toList.getLast? = some '/'
  · obtain ⟨front, split⟩ := List.getLast?_eq_some_iff.mp slash
    refine ⟨front, split ▸ List.prefix_append _ _, fun path relative => ?_⟩
    rw [toList_join nonempty relative, if_pos slash, split, List.append_nil, List.append_assoc,
      List.singleton_append]
  · refine ⟨_, List.prefix_rfl, fun path relative => ?_⟩
    rw [toList_join nonempty relative, if_neg slash, List.append_assoc, List.singleton_append]

/-- The pieces of a joined path are those of the directory and those of the path. -/
theorem pieces_join {path : Path} (relative : path.isAbsolute = false) :
    (directory.join path).pieces = directory.directoryPieces ++ path.pieces := by
  rw [pieces, toList_join nonempty relative]
  rcases pieces_eq_or directory with ⟨noSlash, same⟩ | ⟨front, split, found, _⟩
  · rw [if_neg noSlash, List.append_assoc, List.singleton_append, Text.pieces_append_separator,
      List.map_append, ← same]
    rfl
  · have slash : directory.text.toList.getLast? = some '/' :=
      List.getLast?_eq_some_iff.mpr ⟨front, split⟩
    rw [if_pos slash, List.append_nil, split, List.append_assoc, List.singleton_append,
      Text.pieces_append_separator, List.map_append, found]
    rfl

theorem isAbsolute_join {path : Path} (relative : path.isAbsolute = false) :
    (directory.join path).isAbsolute = directory.isAbsolute := by
  have toListNonempty : directory.text.toList ≠ [] :=
    fun none => nonempty (String.toList_inj.mp none)
  rw [isAbsolute, isAbsolute, toList_join nonempty relative, List.append_assoc,
    List.head?_append_of_ne_nil _ toListNonempty]

end Join

/-! ## Components -/

theorem isAbsolute_of_slashFree {name : String} (slashFree : '/' ∉ name.toList) :
    (⟨name⟩ : Path).isAbsolute = false := by
  rw [isAbsolute, beq_eq_false_iff_ne]
  exact fun starts => slashFree (List.mem_of_mem_head? starts)

theorem pieces_of_slashFree {name : String} (slashFree : '/' ∉ name.toList) :
    (⟨name⟩ : Path).pieces = [name] := by
  rw [pieces, Text.pieces_of_not_mem slashFree, List.map_singleton, String.ofList_toList]

theorem laterComponent?_ne_current (piece : String) :
    laterComponent? piece ≠ some .current := by
  rw [laterComponent?]
  split_ifs <;> simp

/-- Only the first component of a path may stand for the directory itself. -/
theorem filter_laterComponents (pieces : List String) :
    (pieces.filterMap laterComponent?).filter (· ≠ .current) =
      pieces.filterMap laterComponent? := by
  rw [List.filter_eq_self]
  intro component member
  obtain ⟨piece, _, found⟩ := List.mem_filterMap.mp member
  exact decide_eq_true fun same => laterComponent?_ne_current piece (same ▸ found)

theorem filter_firstComponent (piece : String) :
    (firstComponent? false piece).toList.filter (· ≠ .current) =
      (laterComponent? piece).toList := by
  by_cases here : piece = "."
  · subst here
    rfl
  · rw [firstComponent?, if_neg Bool.false_ne_true, if_neg here]
    exact filter_laterComponents [piece]

theorem components_of_slashFree {name : String} (slashFree : '/' ∉ name.toList) :
    (⟨name⟩ : Path).components = (firstComponent? false name).toList := by
  rw [components, pieces_of_slashFree slashFree, isAbsolute_of_slashFree slashFree]
  exact List.append_nil _

/-- The components of a path without those that stand for the directory itself. -/
def steps (path : Path) : List PathComponent :=
  path.components.filter (· ≠ .current)

theorem steps_of_not_mem {path : Path} (absent : .current ∉ path.components) :
    path.steps = path.components := by
  rw [steps, List.filter_eq_self]
  exact fun component member => decide_eq_true (ne_of_mem_of_not_mem member absent)

theorem steps_of_slashFree {name : String} (slashFree : '/' ∉ name.toList) :
    (⟨name⟩ : Path).steps = (laterComponent? name).toList := by
  rw [steps, components_of_slashFree slashFree, filter_firstComponent]

/-- The pieces of a directory's path that lead on from the place where the path starts. -/
def onwardPieces (directory : Path) : List String :=
  if directory.isAbsolute then directory.directoryPieces.tail else directory.directoryPieces

theorem mem_pieces_of_mem_onwardPieces {directory : Path} {piece : String}
    (member : piece ∈ directory.onwardPieces) : piece ∈ directory.pieces := by
  have inDirectory : piece ∈ directory.directoryPieces := by
    rw [onwardPieces] at member
    split at member
    · exact List.mem_of_mem_tail member
    · exact member
  rcases pieces_eq_or directory with ⟨_, same⟩ | ⟨_, _, _, more⟩
  · exact same ▸ inDirectory
  · exact more ▸ List.mem_append_left _ inDirectory

/-- The last name on the way is the name of the file. -/
theorem fileName?_of_components {path : Path} {front : List PathComponent} {names : List String}
    {name : String} (components : path.components = front ++ names.map .name)
    (last : names.getLast? = some name) : path.fileName? = some name := by
  rw [fileName?, components, List.getLast?_append, List.getLast?_map, last]
  rfl

theorem extensionOf?_of_split {name : String} {stem extension : List Char}
    (split : name.toList = stem ++ '.' :: extension) (dotFree : '.' ∉ extension) :
    extensionOf? name = if stem = [] then none else some (String.ofList extension) := by
  have passes : ∀ c ∈ extension.reverse, (c != '.') = true :=
    fun c member => bne_iff_ne.mpr (ne_of_mem_of_not_mem (List.mem_reverse.mp member) dotFree)
  have reversed : name.toList.reverse = extension.reverse ++ '.' :: stem.reverse := by
    rw [split, List.reverse_append, List.reverse_cons, List.append_assoc, List.singleton_append]
  have dropped : name.toList.reverse.dropWhile (· != '.') = '.' :: stem.reverse := by
    rw [reversed, List.dropWhile_append_of_pos passes]
    rfl
  have taken : name.toList.reverse.takeWhile (· != '.') = extension.reverse := by
    rw [reversed, List.takeWhile_append_of_pos passes]
    exact List.append_nil _
  rw [extensionOf?, dropped, taken, List.reverse_reverse]
  by_cases bare : stem = []
  · rw [if_pos bare, bare]
    rfl
  · rw [if_neg bare]
    obtain ⟨c, rest, back⟩ := List.exists_cons_of_ne_nil (mt List.reverse_eq_nil_iff.mp bare)
    rw [back]

/-- The extension of a name stands behind its last dot, with something in front of the dot. -/
theorem extensionOf?_eq_some_iff {name extension : String} :
    extensionOf? name = some extension ↔
      '.' ∉ extension.toList ∧
        ∃ stem, stem ≠ [] ∧ name.toList = stem ++ '.' :: extension.toList := by
  constructor
  · intro found
    by_cases dot : '.' ∈ name.toList.reverse
    · obtain ⟨behind, front, reversed, dotFree⟩ := List.eq_append_cons_of_mem dot
      have split : name.toList = front.reverse ++ '.' :: behind.reverse := by
        rw [← List.reverse_reverse name.toList, reversed, List.reverse_append, List.reverse_cons,
          List.append_assoc, List.singleton_append]
      have dotFree : '.' ∉ behind.reverse := mt List.mem_reverse.mp dotFree
      rw [extensionOf?_of_split split dotFree] at found
      split_ifs at found with bare
      obtain rfl := Option.some.inj found
      rw [String.toList_ofList]
      exact ⟨dotFree, _, bare, split⟩
    · have passes : name.toList.reverse.dropWhile (· != '.') = [] :=
        List.dropWhile_eq_nil_iff.mpr fun c member =>
          bne_iff_ne.mpr (ne_of_mem_of_not_mem member dot)
      rw [extensionOf?, passes] at found
      cases found
  · rintro ⟨dotFree, stem, nonempty, split⟩
    rw [extensionOf?_of_split split dotFree, if_neg nonempty, String.ofList_toList]

/-- A piece at the end counts as much as it does anywhere. -/
theorem components_eq {directory : Path} {first : String} {rest : List String}
    (cut : directory.directoryPieces = first :: rest) :
    directory.components =
      (firstComponent? directory.isAbsolute first).toList ++ rest.filterMap laterComponent? := by
  rw [components]
  rcases pieces_eq_or directory with ⟨_, same⟩ | ⟨_, _, _, more⟩
  · rw [same, cut]
  · rw [more, cut]
    change _ ++ (rest ++ [""]).filterMap laterComponent? = _
    rw [List.filterMap_append]
    simp [laterComponent?]

theorem components_join {directory : Path} (nonempty : directory.text ≠ "") {name : String}
    (slashFree : '/' ∉ name.toList) :
    (directory.join ⟨name⟩).components = directory.components ++ (laterComponent? name).toList := by
  have relative := isAbsolute_of_slashFree slashFree
  obtain ⟨first, rest, cut⟩ := List.exists_cons_of_ne_nil (directoryPieces_ne_nil directory)
  rw [components_eq cut, components, pieces_join nonempty relative, cut,
    pieces_of_slashFree slashFree, isAbsolute_join nonempty relative]
  change _ ++ (rest ++ [name]).filterMap laterComponent? = _
  rw [List.filterMap_append, List.append_assoc]
  congr 2

theorem steps_join {directory : Path} (nonempty : directory.text ≠ "") {name : String}
    (slashFree : '/' ∉ name.toList) :
    (directory.join ⟨name⟩).steps = directory.steps ++ (laterComponent? name).toList := by
  rw [steps, components_join nonempty slashFree, List.filter_append]
  congr 1
  exact filter_laterComponents [name]

theorem steps_eq (directory : Path) :
    directory.steps =
      (if directory.isAbsolute then [.root] else []) ++
        directory.onwardPieces.filterMap laterComponent? := by
  obtain ⟨first, rest, cut⟩ := List.exists_cons_of_ne_nil (directoryPieces_ne_nil directory)
  rw [steps, components_eq cut, List.filter_append, filter_laterComponents, onwardPieces, cut]
  cases directory.isAbsolute with
  | true => rfl
  | false =>
      rw [filter_firstComponent]
      exact (List.filterMap_append (l := [first])).symm

end Path

end ProtoSchema
