import ProtoSchema.Catalog.Ingest
import ProtoSchema.Catalog.Writing
import ProtoSchema.CommandLine
import ProtoSchema.Json.Printer
import ProtoSchema.Lint.Report
import ProtoSchema.Manifest.Source
import ProtoSchema.Output

/-!
# The program

A run reads settings and manifests, builds the catalog of each manifest and then writes
documents, shows the catalogs or reports lint findings. It is a function from the files
that it can see and its arguments to what it prints, its exit code and what it
writes.
-/

namespace ProtoSchema

/-- What a run has to complain about. -/
inductive Complaint where
  | misuse
  | failed (cause : Failure)
deriving Repr, DecidableEq

/-- What comes of a run. -/
structure RunResult where
  exitCode : Nat
  output : String
  complaint : Option Complaint
  files : Files
  documents : List (Path × String)

namespace Program

/-- The name of the program. -/
def name : String := "protoform"

/-- The version of the program. -/
def version : String := "0.2.0"

/-- How the program is used. -/
def usage : String :=
  "Usage: protoform [OPTIONS] <COMMAND>\n\nCommands:\n"
    ++ "  generate  Write one .proto file per package manifest\n"
    ++ "  inspect   Print the canonical type catalogs as JSON\n"
    ++ "  lint      Lint the canonical schema for style and quality issues\n"

/-- A run that prints a text and succeeds. -/
def success (files : Files) (output : String) : RunResult :=
  { exitCode := 0, output := output ++ "\n", complaint := none, files, documents := [] }

/-- A run that fails before it writes anything. -/
def failed (files : Files) (failure : Failure) : RunResult :=
  { exitCode := 1, output := "", complaint := some (.failed failure), files, documents := [] }

/-- The inputs of a run: those given on the command line, then those of the settings.
There has to be one. -/
def allInputs (given : List Path) (settings : Settings) : Except Failure (List Path) :=
  match given ++ settings.packages with
  | [] => .error .noPackages
  | inputs => .ok inputs

/-- The canonical catalogs of inputs. -/
def catalogsOf (files : Files) (inputs : List Path) : Except Failure (List Catalog) := do
  let manifests ← Manifest.readInputs files inputs
  return manifests.map (Catalog.ofManifest .standard)

/-- The catalogs that documents are written of, and where and how they are written. The
output directory is checked before any input is read. -/
def planned (files : Files) (given : List Path) (output : Option Path) (settings : Settings) :
    Except Failure (List Catalog × Path × Document.Options) := do
  let inputs ← allInputs given settings
  let directory := (output <|> settings.output).getD .here
  if !files.isDirectory directory then .error (.noSuchOutput directory)
  else
    let catalogs ← catalogsOf files inputs
    Output.checkCollisions catalogs
    let options := match settings.packageOptionStart with
      | none => .standard
      | some start => { packageOptionStart := start }
    return (catalogs, directory, options)

/-- Write the documents of catalogs. -/
def generate (files : Files) (given : List Path) (output : Option Path) (settings : Settings) :
    RunResult :=
  match planned files given output settings with
  | .error failure => failed files failure
  | .ok (catalogs, directory, options) =>
    let written := Output.write options directory files catalogs
    match written.failure with
    | some failure => { failed written.files failure with documents := written.documents }
    | none =>
      { success written.files ("\n".intercalate (Output.summary written.documents)) with
        documents := written.documents }

/-- The catalogs as data, with the version of the program. -/
def inspection (catalogs : List Catalog) : Data :=
  .ofMembers [("generatorVersion", .text version),
    ("packages", .list (catalogs.map Catalog.toData))]

/-- Show the catalogs. -/
def inspect (files : Files) (given : List Path) (settings : Settings) : RunResult :=
  match (do catalogsOf files (← allInputs given settings)) with
  | .error failure => failed files failure
  | .ok catalogs => success files (Json.pretty (inspection catalogs))

/-- The text of a lint report. -/
def reportText (report : Lint.Report) : ReportFormat → String
  | .lines => "\n".intercalate report.lines
  | .json => Json.pretty report.toData

/-- Report lint findings. A run with findings that are errors does not succeed. -/
def lint (files : Files) (given : List Path) (format : ReportFormat) (settings : Settings) :
    RunResult :=
  match (do catalogsOf files (← allInputs given settings)) with
  | .error failure => failed files failure
  | .ok catalogs =>
    let report := Lint.Report.ofCatalogs settings.lint catalogs
    { success files (reportText report format) with
      exitCode := if report.errorCount = 0 then 0 else 1 }

/-- Carry out a command. The settings are loaded first. -/
def perform (files : Files) : Command → RunResult
  | .generate inputs output _ settings =>
    match Settings.load files settings with
    | .error failure => failed files failure
    | .ok settings => generate files inputs output settings
  | .inspect inputs settings =>
    match Settings.load files settings with
    | .error failure => failed files failure
    | .ok settings => inspect files inputs settings
  | .lint inputs format settings =>
    match Settings.load files settings with
    | .error failure => failed files failure
    | .ok settings => lint files inputs format settings

/-- Run the program. -/
def run (files : Files) (args : List String) : RunResult :=
  match Invocation.ofArguments args with
  | .run command => perform files command
  | .version => success files (name ++ " " ++ version)
  | .help => success files usage
  | .misuse =>
    { exitCode := 2, output := "", complaint := some .misuse, files, documents := [] }

end Program

/-- The wording of a complaint. -/
def Complaint.text : Complaint → String
  | .misuse => "error: invalid arguments\n\n" ++ Program.usage
  | .failed cause => "Error: " ++ cause.message ++ "\n"

end ProtoSchema
