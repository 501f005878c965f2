import ProtoSchema.FileTree
import ProtoSchema.Glob.Pattern

/-!
# Failures

Why a run cannot do what it is asked for. Each cause has its wording; paths are shown
as they were given.
-/

namespace ProtoSchema

/-- The formats of a manifest. -/
inductive ManifestFormat where
  | json
  | yaml
deriving Repr, DecidableEq

namespace ManifestFormat

/-- The name of a format. -/
def name : ManifestFormat → String
  | .json => "JSON"
  | .yaml => "YAML"

/-- The format that a file extension stands for. -/
def ofExtension? (extension : String) : Option ManifestFormat :=
  if extension = "json" then some .json
  else if extension = "yaml" ∨ extension = "yml" then some .yaml
  else none

end ManifestFormat

/-- Why a run fails. -/
inductive Failure where
  | noPackages
  | noSuchSettings (path : Path)
  | unreadableSettings (path : Path) (error : FileError)
  | invalidSettings (path : Path) (detail : String)
  | noSuchInput (path : Path)
  | badPattern (error : Glob.PatternError)
  | unreadableManifest (path : Path) (error : FileError)
  | unsupportedFormat (path : Path)
  | invalidManifest (format : ManifestFormat) (path : Path) (detail : String)
  | noManifests (inputs : List Path)
  | noSuchOutput (path : Path)
  | collision (first second fileName : String)
  | unwritable (path : Path) (error : FileError)
deriving Repr, DecidableEq

namespace Failure

/-- The start of the wording of a failure whose detail comes from the text that could
not be read. -/
def invalidStart (kind : String) (path : Path) : String :=
  "Invalid " ++ kind ++ " " ++ path.text ++ ": "

/-- The wording of a failure. -/
def message : Failure → String
  | .noPackages =>
    "no packages given; pass -p <manifest> or list them under \x60packages\x60 in "
      ++ "protoform.config.yaml\nUsage: protoform [OPTIONS] <COMMAND>"
  | .noSuchSettings path => "Config file does not exist: " ++ path.text
  | .unreadableSettings path error =>
    "Failed to read config " ++ path.text ++ ": " ++ error.message
  | .invalidSettings path detail => invalidStart "YAML config" path ++ detail
  | .noSuchInput path => "Path does not exist: " ++ path.text
  | .badPattern error => "Invalid glob pattern: " ++ error.message
  | .unreadableManifest path error => "Failed to read " ++ path.text ++ ": " ++ error.message
  | .unsupportedFormat path =>
    "Unsupported manifest format (expected .json, .yaml or .yml): " ++ path.text
  | .invalidManifest format path detail =>
    invalidStart (format.name ++ " manifest") path ++ detail
  | .noManifests inputs =>
    "No manifests (.json, .yaml, .yml) found at: "
      ++ ", ".intercalate (inputs.map (·.text))
  | .noSuchOutput path => "Output directory does not exist: " ++ path.text
  | .collision first second fileName =>
    "Packages " ++ first ++ " and " ++ second ++ " would both be written to " ++ fileName
  | .unwritable path error => "Failed to write " ++ path.text ++ ": " ++ error.message

end Failure

end ProtoSchema
