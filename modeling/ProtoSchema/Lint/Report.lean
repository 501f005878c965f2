import ProtoSchema.Catalog.Writing
import ProtoSchema.Lint.Config

/-!
# Lint reports

The findings about several catalogs, together with the diagnostics of their
declarations, as lines for a reader or as data. Both are built from the same
report, in the order of the catalogs.
-/

namespace ProtoSchema.Lint

/-- What was found in some catalogs. -/
structure Report where
  catalogs : List Catalog
  findings : List Finding

namespace Report

/-- The report on catalogs under a configuration. -/
def ofCatalogs (config : Config) (catalogs : List Catalog) : Report where
  catalogs
  findings := catalogs.flatMap config.lint

/-- The number of findings that are errors. -/
def errorCount (report : Report) : Nat :=
  report.findings.countP (·.severity == .error)

/-- The line of a complaint about a package. -/
def line (package : String) (severity : Severity) (code target message : String) : String :=
  package ++ " " ++ severity.label ++ "[" ++ code ++ "] " ++ target ++ ": " ++ message

/-- The lines of a catalog's diagnostics. -/
def diagnosticLines (catalog : Catalog) : List String :=
  catalog.diagnostics.map fun diagnostic =>
    line catalog.path diagnostic.severity diagnostic.code diagnostic.declaration
      diagnostic.message

/-- The line of a finding. -/
def findingLine (finding : Finding) : String :=
  line finding.package finding.severity finding.rule finding.target finding.message

/-- A count of things, in the singular for one. -/
def counted (count : Nat) (one many : String) : String :=
  toString count ++ " " ++ (if count = 1 then one else many)

/-- The last line of a report. -/
def summary (report : Report) : String :=
  counted report.findings.length "lint issue" "lint issues" ++ " in "
    ++ counted report.catalogs.length "package" "packages" ++ "."

/-- The lines of a report: diagnostics, findings and the summary. -/
def lines (report : Report) : List String :=
  report.catalogs.flatMap diagnosticLines ++ report.findings.map findingLine
    ++ [report.summary]

/-- A finding as data. -/
def findingData (finding : Finding) : Data :=
  .ofMembers [("message", .text finding.message), ("package", .text finding.package),
    ("rule", .text finding.rule), ("severity", .text finding.severity.label),
    ("target", .text finding.target)]

/-- The diagnostics of a catalog as data, each with its package. -/
def diagnosticData (catalog : Catalog) : List Data :=
  catalog.diagnostics.map fun diagnostic =>
    .ofMembers [("diagnostic", diagnostic.toData), ("package", .text catalog.path)]

/-- A report as data, with the members of every record in alphabetical order. -/
def toData (report : Report) : Data :=
  .ofMembers [("diagnostics", .list (report.findings.map findingData)),
    ("ingestion", .list (report.catalogs.flatMap diagnosticData)),
    ("summary", .ofMembers [("count", .int report.findings.length),
      ("errors", .int report.errorCount), ("packages", .int report.catalogs.length)])]

end Report

end ProtoSchema.Lint
