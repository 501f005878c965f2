import ProtoSchema.Text.Basic

/-!
# Paths

A path is kept as it was written, since messages show it that way. Its components are
what it means: empty parts and parts that stand for the directory itself do not
count, except at the start. Paths are ordered and compared by components.
-/

namespace ProtoSchema

/-- A path as it is written. -/
structure Path where
  text : String
deriving Repr, DecidableEq

/-- A component of a path: the root, the directory itself at the start of a path, the
parent directory, or a name. -/
inductive PathComponent where
  | root
  | current
  | parent
  | name (text : String)
deriving Repr, DecidableEq

namespace PathComponent

/-- The place of a kind of component in the order of components. -/
def rank : PathComponent → Nat
  | .root => 0
  | .current => 1
  | .parent => 2
  | .name _ => 3

/-- Whether one component comes before another. Names are ordered by code points. -/
def isBefore : PathComponent → PathComponent → Bool
  | .name a, .name b => a < b
  | a, b => a.rank < b.rank

end PathComponent

namespace Path

/-- The pieces of a path between its slashes, empty ones included. -/
def pieces (path : Path) : List String :=
  (Text.pieces '/' path.text.toList).map String.ofList

/-- Whether a path starts at the root. -/
def isAbsolute (path : Path) : Bool :=
  path.text.toList.head? == some '/'

/-- The component of a piece that is not the first. -/
def laterComponent? (piece : String) : Option PathComponent :=
  if piece = "" ∨ piece = "." then none
  else if piece = ".." then some .parent
  else some (.name piece)

/-- The component of the first piece. -/
def firstComponent? (isAbsolute : Bool) (piece : String) : Option PathComponent :=
  if isAbsolute then some .root
  else if piece = "." then some .current
  else laterComponent? piece

/-- The components of a path. -/
def components (path : Path) : List PathComponent :=
  match path.pieces with
  | [] => []
  | first :: rest =>
    (firstComponent? path.isAbsolute first).toList ++ rest.filterMap laterComponent?

/-- Whether two paths have the same components. -/
def isSame (a b : Path) : Bool :=
  a.components == b.components

/-- Whether a list of components comes before another, or is the same. -/
def componentsLe : List PathComponent → List PathComponent → Bool
  | [], _ => true
  | _ :: _, [] => false
  | a :: as, b :: bs => a.isBefore b || (a == b && componentsLe as bs)

/-- The order of paths. -/
def le (a b : Path) : Bool :=
  componentsLe a.components b.components

/-- A path within a directory. An absolute path stays as it is. -/
def join (directory path : Path) : Path :=
  if path.isAbsolute then path
  else if directory.text.toList.getLast?.all (· == '/') then ⟨directory.text ++ path.text⟩
  else ⟨directory.text ++ "/" ++ path.text⟩

/-- The directory itself. -/
def here : Path := ⟨"."⟩

/-- The name of the file that a path leads to, if its last component is a name. -/
def fileName? (path : Path) : Option String :=
  match path.components.getLast? with
  | some (.name name) => some name
  | _ => none

/-- The part of a name after its last dot, unless the name has no dot or only one at
its start. -/
def extensionOf? (name : String) : Option String :=
  let reversed := name.toList.reverse
  match reversed.dropWhile (· != '.') with
  | [] | [_] => none
  | _ => some (String.ofList (reversed.takeWhile (· != '.')).reverse)

/-- The extension of the file that a path leads to. -/
def extension? (path : Path) : Option String :=
  path.fileName?.bind extensionOf?

/-- The pieces of a path in reverse without those at the end that do not count. The
first piece of a path always counts. -/
def trimEnd : List String → List String
  | [] => []
  | [first] => [first]
  | piece :: rest => if (laterComponent? piece).isNone then trimEnd rest else piece :: rest

/-- The directory in which the last component of a path lies. -/
def directory (path : Path) : Path :=
  match trimEnd path.pieces.reverse with
  | [] | [_] => ⟨""⟩
  | _ :: before =>
    match trimEnd before with
    | [""] => if path.isAbsolute then ⟨"/"⟩ else ⟨""⟩
    | before => ⟨"/".intercalate before.reverse⟩

end Path

end ProtoSchema
