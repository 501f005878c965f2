import ProtoSchema.Lint.Concern

/-!
# Lint rules

A rule has an identifier, a default severity and the concerns that it raises about
a catalog. Its findings carry the identifier and the severity of the rule and the
path of the catalog's package. The built-in rules come in the order in which they
report.
-/

namespace ProtoSchema.Lint

/-- A lint rule. -/
structure Rule where
  id : String
  description : String
  severity : Severity
  concerns : Catalog → List Concern

/-- A reported concern. -/
structure Finding where
  rule : String
  severity : Severity
  package : String
  target : String
  message : String
deriving Repr, DecidableEq

namespace Rule

/-- The finding of a rule for one of its concerns. -/
def report (rule : Rule) (catalog : Catalog) (concern : Concern) : Finding where
  rule := rule.id
  severity := rule.severity
  package := catalog.path
  target := concern.target
  message := concern.message

/-- The findings of a rule about a canonical catalog. -/
def check (rule : Rule) (catalog : Catalog) : List Finding :=
  (rule.concerns catalog).map (rule.report catalog)

/-- Names follow the style of their place. -/
def namingConvention : Rule where
  id := "naming-convention"
  description := "Message and enum names should be PascalCase, field names snake_case, "
    ++ "enum values SCREAMING_SNAKE_CASE"
  severity := .warning
  concerns := Concern.names

/-- Enumerations have a zero value. -/
def enumMissingDefault : Rule where
  id := "enum-missing-default"
  description := "Enums should declare a value equal to zero"
  severity := .info
  concerns := Concern.missingDefaults

/-- The values of an enumeration form one run. -/
def enumValueGaps : Rule where
  id := "enum-value-gaps"
  description := "Enum values should form a contiguous range"
  severity := .info
  concerns := Concern.gaps

/-- Messages have a field. -/
def emptyMessage : Rule where
  id := "empty-message"
  description := "Messages should carry at least one exported field"
  severity := .warning
  concerns := Concern.emptyMessages

/-- Messages keep within a number of fields. -/
def messageSize (limit : Nat) : Rule where
  id := "message-size"
  description := "Messages should not have too many fields"
  severity := .warning
  concerns := Concern.largeMessages limit

/-- The number of fields that a message may have unless another limit is asked for. -/
def standardFieldLimit : Nat :=
  20

/-- The built-in rules in the order in which they report. -/
def builtin : List Rule :=
  [namingConvention, enumMissingDefault, enumValueGaps, emptyMessage,
    messageSize standardFieldLimit]

end Rule

end ProtoSchema.Lint
