import ProtoSchema.Path

/-!
# File trees

The files that a run can see: a tree of directories with the working directory in it.
A path is followed from the root or from the working directory, one piece after the
other, and each step needs a directory to start from.
-/

namespace ProtoSchema

/-- A file, or a directory with its named entries. -/
inductive FileTree where
  | file (content : ByteArray)
  | directory (entries : List (String × FileTree))

/-- Why a path cannot be used. -/
inductive FileError where
  | notFound
  | notADirectory
  | isADirectory
  | nameTooLong
  | containsNul
  | notText
deriving Repr, DecidableEq

/-- The wording of an error. -/
def FileError.message : FileError → String
  | .notFound => "No such file or directory (os error 2)"
  | .notADirectory => "Not a directory (os error 20)"
  | .isADirectory => "Is a directory (os error 21)"
  | .nameTooLong => "File name too long (os error 36)"
  | .containsNul => "file name contained an unexpected NUL byte"
  | .notText => "stream did not contain valid UTF-8"

/-- The result of an operation on files. -/
abbrev FileResult (α : Type) :=
  Except FileError α

namespace FileTree

/-- Whether a tree is a directory. -/
def isDirectory : FileTree → Bool
  | .file _ => false
  | .directory _ => true

/-- The entries of a directory; a file has none. -/
def entries : FileTree → List (String × FileTree)
  | .file _ => []
  | .directory entries => entries

/-- The tree at a place below a directory, given by names. -/
def at? : List String → FileTree → Option FileTree
  | [], tree => some tree
  | name :: rest, tree => (tree.entries.lookup name).bind (at? rest)

/-- Change the entry of a name, or add one. -/
def setEntry (name : String) (tree : FileTree) :
    List (String × FileTree) → List (String × FileTree)
  | [] => [(name, tree)]
  | entry :: rest =>
    if entry.1 = name then (name, tree) :: rest else entry :: setEntry name tree rest

/-- Put a file at a place below a directory. Directories on the way that are not there
are made. -/
def putFile (content : ByteArray) : List String → FileTree → FileTree
  | [], _ => .file content
  | name :: rest, tree =>
    let inner := (tree.entries.lookup name).getD (.directory [])
    .directory (setEntry name (putFile content rest inner) tree.entries)

/-- Make a directory at a place below a directory, unless it is there. -/
def putDirectory : List String → FileTree → FileTree
  | [], tree => tree
  | name :: rest, tree =>
    let inner := (tree.entries.lookup name).getD (.directory [])
    .directory (setEntry name (putDirectory rest inner) tree.entries)

end FileTree

/-- The files that a run can see. The working directory is given by the names on the
way to it from the root. -/
structure Files where
  root : FileTree
  workingDirectory : List String

namespace Files

/-- The number of bytes that a name may have. -/
def nameLimit : Nat := 255

/-- The number of bytes that a path may have. -/
def pathLimit : Nat := 4095

/-- Follow a piece of a path from a place, given by the names on the way to it. -/
def followPiece (files : Files) (place : List String) (piece : String) :
    FileResult (List String) :=
  match files.root.at? place with
  | some (.directory entries) =>
    if piece = "" ∨ piece = "." then .ok place
    else if piece = ".." then .ok place.dropLast
    else if nameLimit < piece.utf8ByteSize then .error .nameTooLong
    else if (entries.lookup piece).isSome then .ok (place ++ [piece])
    else .error .notFound
  | some (.file _) => .error .notADirectory
  | none => .error .notFound

/-- Refuse a path that no file can have. -/
def checkPath (path : Path) : FileResult Unit :=
  if path.text.toList.contains '\x00' then .error .containsNul
  else if path.text = "" then .error .notFound
  else if pathLimit < path.text.utf8ByteSize then .error .nameTooLong
  else .ok ()

/-- The place from which a path is followed. -/
def startOf (files : Files) (path : Path) : List String :=
  if path.isAbsolute then [] else files.workingDirectory

/-- The place that a path leads to. -/
def locate (files : Files) (path : Path) : FileResult (List String) := do
  checkPath path
  path.pieces.foldlM files.followPiece (files.startOf path)

/-- The file or directory that a path leads to. -/
def find (files : Files) (path : Path) : FileResult FileTree := do
  match files.root.at? (← files.locate path) with
  | some tree => return tree
  | none => .error .notFound

/-- Whether a path leads to a file. -/
def isFile (files : Files) (path : Path) : Bool :=
  match files.find path with
  | .ok (.file _) => true
  | _ => false

/-- Whether a path leads to a directory. -/
def isDirectory (files : Files) (path : Path) : Bool :=
  match files.find path with
  | .ok (.directory _) => true
  | _ => false

/-- The text of the file that a path leads to. -/
def readText (files : Files) (path : Path) : FileResult String := do
  match ← files.find path with
  | .file content =>
    match String.fromUTF8? content with
    | some text => return text
    | none => .error .notText
  | .directory _ => .error .isADirectory

/-- Write a text to the file that a path leads to, in an existing directory. -/
def writeText (files : Files) (path : Path) (text : String) : FileResult Files := do
  checkPath path
  match path.pieces.reverse with
  | [] => .error .notFound
  | name :: before =>
    let place ← before.reverse.foldlM files.followPiece (files.startOf path)
    match files.root.at? place with
    | some (.directory entries) =>
      if name = "" ∨ name = "." ∨ name = ".." then .error .isADirectory
      else if nameLimit < name.utf8ByteSize then .error .nameTooLong
      else if (entries.lookup name).any FileTree.isDirectory then .error .isADirectory
      else
        return { files with root := files.root.putFile text.toUTF8 (place ++ [name]) }
    | some (.file _) => .error .notADirectory
    | none => .error .notFound

end Files

end ProtoSchema
