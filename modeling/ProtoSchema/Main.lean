import ProtoSchema.Program

/-!
# Command line

The program at work: it loads the files below the working directory, runs, and then
writes and prints what comes of the run.
-/

namespace ProtoSchema.Shell

/-- The number of directories that may lie within one another. -/
def depthLimit : Nat := 256

/-- Load an entry of a directory. Directories beyond the limit count as empty. -/
def loadEntry : Nat → IO.FS.DirEntry → IO (String × FileTree)
  | 0, entry => return (entry.fileName, .directory [])
  | depth + 1, entry => do
    if ← entry.path.isDir then
      let entries ← (← entry.path.readDir).toList.mapM (loadEntry depth)
      return (entry.fileName, .directory entries)
    else return (entry.fileName, .file (← IO.FS.readBinFile entry.path))

/-- A directory at the end of a way of names, on which there is nothing else. -/
def atEndOf (names : List String) (tree : FileTree) : FileTree :=
  names.foldr (fun name inner => .directory [(name, inner)]) tree

/-- Load the files below the working directory. -/
def loadFiles : IO Files := do
  let directory ← IO.currentDir
  let entries ← (← directory.readDir).toList.mapM (loadEntry depthLimit)
  let names := (Path.mk directory.toString).pieces.filter (· ≠ "")
  return { root := atEndOf names (.directory entries), workingDirectory := names }

/-- Write and print what comes of a run. -/
def carryOut (result : RunResult) : IO UInt32 := do
  for (path, text) in result.documents do
    IO.FS.writeFile path.text text
  IO.print result.output
  if let some complaint := result.complaint then
    IO.eprint complaint.text
  return result.exitCode.toUInt32

end ProtoSchema.Shell

/-- Run the program on the files below the working directory. -/
def main (args : List String) : IO UInt32 := do
  ProtoSchema.Shell.carryOut (ProtoSchema.Program.run (← ProtoSchema.Shell.loadFiles) args)
