import ProtoSchema.Glob.Search
import ProtoSchema.Manifest.JsonText
import ProtoSchema.Manifest.YamlText
import ProtoSchema.Settings

/-!
# Sources of manifests

An input is a manifest file or a directory that is searched for manifests at any
depth. The files of a directory are taken in the order of their paths, and the
settings file among them is left out.
-/

namespace ProtoSchema.Manifest

/-- The manifest in a text of some format. -/
def ofText (format : ManifestFormat) (text : String) : Except String Manifest :=
  match format with
  | .json => (ofJson text).mapError Json.ReadError.message
  | .yaml => (ofYaml text).mapError Yaml.ReadError.message

/-- Read the manifest in a file, whose extension tells the format. -/
def readFile (files : Files) (path : Path) : Except Failure Manifest :=
  match files.readText path with
  | .error error => .error (.unreadableManifest path error)
  | .ok text =>
    match path.extension?.bind ManifestFormat.ofExtension? with
    | none => .error (.unsupportedFormat path)
    | some format =>
      match ofText format text with
      | .error detail => .error (.invalidManifest format path detail)
      | .ok manifest => .ok manifest

/-- The extensions of manifest files. -/
def extensions : List String :=
  ["json", "yaml", "yml"]

/-- The pattern of the files of an extension in a directory, at any depth. A backslash in
the directory's path counts as a slash. -/
def patternFor (directory : Path) (extension : String) : Path :=
  let path := directory.join ⟨"**/*." ++ extension⟩
  ⟨path.text.map fun c => if c = '\\' then '/' else c⟩

/-- The paths of a list, each once. -/
def distinct : List Path → List Path
  | [] => []
  | path :: rest => path :: (distinct rest).filter fun other => !other.isSame path

/-- The manifest files of a directory in the order of their paths. -/
def scan (files : Files) (directory : Path) : Except Failure (List Path) :=
  match extensions.mapM fun extension => Glob.find files (patternFor directory extension) with
  | .error error => .error (.badPattern error)
  | .ok found =>
    let kept := found.flatten.filter fun path => path.fileName? != some Settings.fileName
    .ok ((distinct kept).mergeSort Path.le)

/-- Read the manifests of an input. -/
def readInput (files : Files) (path : Path) : Except Failure (List Manifest) :=
  match files.find path with
  | .error _ => .error (.noSuchInput path)
  | .ok (.file _) => do return [← readFile files path]
  | .ok (.directory _) => do (← scan files path).mapM (readFile files)

/-- Read the manifests of all inputs in order. There has to be one. -/
def readInputs (files : Files) (inputs : List Path) : Except Failure (List Manifest) := do
  let manifests ← inputs.mapM (readInput files)
  match manifests.flatten with
  | [] => .error (.noManifests inputs)
  | manifests => return manifests

end ProtoSchema.Manifest
