import ProtoSchema.FileTree
import ProtoSchema.Glob.Pattern

/-!
# Searching by patterns

The paths that a pattern leads to. A pattern is taken apart at its slashes. A part
without signs leads to the entry of that name, a part with signs to the entries whose
names it fits, and a part of two stars to the entries at any depth. Entries of the
working directory are found without a dot in front.
-/

namespace ProtoSchema.Glob

/-- A file or directory that a search has come to. -/
structure Place where
  path : Path
  name : String
  tree : FileTree

namespace Place

/-- The path of an entry of a directory. -/
def entryPath (directory : Path) (name : String) : Path :=
  if directory.isSame .here then ⟨name⟩ else directory.join ⟨name⟩

/-- The entries of a directory. -/
def children (place : Place) : List Place :=
  place.tree.entries.map fun (name, tree) => ⟨entryPath place.path name, name, tree⟩

mutual

/-- The places below a tree at a path, at any depth. -/
def below (path : Path) : FileTree → List Place
  | .file _ => []
  | .directory entries => belowEntries path entries

/-- The entries of a directory at a path and the places below them. -/
def belowEntries (directory : Path) : List (String × FileTree) → List Place
  | [] => []
  | (name, tree) :: rest =>
    ⟨entryPath directory name, name, tree⟩ ::
      (below (entryPath directory name) tree ++ belowEntries directory rest)

end

/-- The places below a place, at any depth. -/
def descendants (place : Place) : List Place :=
  below place.path place.tree

end Place

/-- The place that a path leads to, if there is one. -/
def placeAt (files : Files) (path : Path) (name : String) : List Place :=
  match files.find path with
  | .ok tree => [⟨path, name, tree⟩]
  | .error _ => []

/-- The place that a name leads to from another place. -/
def step (files : Files) (place : Place) (name : String) : List Place :=
  if (name = "." ∨ name = "..") ∧ !place.tree.isDirectory then []
  else placeAt files (Place.entryPath place.path name) name

/-- The place itself and its parent, as far as a pattern that starts with a dot fits
their names. -/
def dotPlaces (files : Files) (place : Place) (pattern : Pattern) : List Place :=
  if place.tree.isDirectory && pattern.head? == some (.char '.') then
    [".", ".."].flatMap fun name =>
      if pattern.fits name.toList then placeAt files (place.path.join ⟨name⟩) name else []
  else []

/-- The places that patterns lead to from a place, or from any place below it. -/
def expand (files : Files) : Bool → List Pattern → Place → List Place
  | false, [], place => [place]
  | true, [], place => place.descendants.filter (·.tree.isDirectory)
  | anyDepth, pattern :: rest, place =>
    if pattern.isAnyDepth then expand files true rest place
    else if anyDepth then
      (place.descendants.filter fun found => pattern.fits found.name.toList).flatMap
        (expand files false rest)
    else
      match pattern.literal? with
      | some name => (step files place (String.ofList name)).flatMap (expand files false rest)
      | none =>
        (place.children.filter fun found => pattern.fits found.name.toList).flatMap
            (expand files false rest)
          ++ (dotPlaces files place pattern).flatMap (expand files false rest)

/-- The patterns between the slashes of a text, without the root. -/
def parts (path : Path) : List String :=
  if path.isAbsolute then path.pieces.tail else path.pieces

/-- The place at which a search starts. -/
def startOf (path : Path) : Path :=
  if path.isAbsolute then ⟨"/"⟩ else .here

/-- The paths that the pattern in a path leads to. The whole text has to be a pattern,
and each part of it as well. -/
def find (files : Files) (path : Path) : Except PatternError (List Path) := do
  let _ ← Pattern.parse path.text
  let patterns ← (parts path).mapM Pattern.parse
  let start := startOf path
  let found := (placeAt files start "").flatMap (expand files false patterns)
  return found.map (·.path)

end ProtoSchema.Glob
