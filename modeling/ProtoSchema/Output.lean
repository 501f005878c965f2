import ProtoSchema.Document
import ProtoSchema.Failure

/-!
# Writing documents

The documents of catalogs go into one directory, each under the name of its package.
Two different packages of one name would overwrite each other, so this is checked
before anything is written.
-/

namespace ProtoSchema.Output

/-- Check that no two packages share a file, given the owners of the file names so
far. -/
def checkFrom (owners : NameTable String) : List Catalog → Except Failure Unit
  | [] => .ok ()
  | catalog :: rest =>
    let fileName := Document.fileName catalog
    match owners.find? fileName with
    | some owner =>
      if owner = catalog.path then checkFrom owners rest
      else .error (.collision owner catalog.path fileName)
    | none => checkFrom (owners.insert fileName catalog.path) rest

/-- Check that no two packages share a file. -/
def checkCollisions (catalogs : List Catalog) : Except Failure Unit :=
  checkFrom .empty catalogs

/-- What has been written, and the failure that ended the writing. -/
structure Written where
  files : Files
  documents : List (Path × String)
  failure : Option Failure

/-- Write the documents of catalogs into a directory, in order, up to the first that
cannot be written. -/
def write (options : Document.Options) (directory : Path) (files : Files) :
    List Catalog → Written
  | [] => { files, documents := [], failure := none }
  | catalog :: rest =>
    let path := directory.join ⟨Document.fileName catalog⟩
    let text := Document.render options catalog
    match files.writeText path text with
    | .error error => { files, documents := [], failure := some (.unwritable path error) }
    | .ok files =>
      let written := write options directory files rest
      { written with documents := (path, text) :: written.documents }

/-- The lines that tell what has been written. -/
def summary (documents : List (Path × String)) : List String :=
  documents.map (·.1.text)
    ++ [toString documents.length ++ " proto " ++ (if documents.length = 1 then "file" else "files")
      ++ " written."]

end ProtoSchema.Output
