import ProtoSchema.IntLiteral

/-!
# Diagnostics

A declaration that cannot enter the schema leaves a diagnostic and never stops
the declarations after it. `IngestError` lists the causes; code, severity and
wording follow from the cause.
-/

namespace ProtoSchema

/-- How much a diagnostic matters. -/
inductive Severity where
  | error
  | warning
  | info
deriving Repr, DecidableEq

/-- The severity in words. -/
def Severity.label : Severity → String
  | .error => "error"
  | .warning => "warning"
  | .info => "info"

/-- Why a declaration cannot enter the schema: its literal denotes no integer, or a
map was expected and the type has another shape. -/
inductive IngestError where
  | invalidLiteral (name literal : String) (cause : IntLiteral.Error)
  | notAMap (name found : String)
deriving Repr, DecidableEq

namespace IngestError

/-- The wording of an error. -/
def message : IngestError → String
  | .invalidLiteral name literal cause =>
    "unable to add enum value '" ++ name ++ "' to enum: invalid literal '" ++ literal ++ "': "
      ++ cause.message
  | .notAMap name found =>
    "declaration '" ++ name ++ "' is not a map type (found " ++ found ++ ")"

/-- The code under which an error is reported. -/
def code : IngestError → String
  | .invalidLiteral .. => "PF-W001"
  | .notAMap .. => "PF-E001"

/-- Bad input is a warning. -/
def severity : IngestError → Severity
  | .invalidLiteral .. => .warning
  | .notAMap .. => .error

/-- Whether the error shows that a declaration reached a builder that its class
rules out. -/
def isInvariantViolation : IngestError → Bool
  | .invalidLiteral .. => false
  | .notAMap .. => true

end IngestError

/-- A reported error: what went wrong with which declaration. -/
structure Diagnostic where
  code : String
  severity : Severity
  declaration : String
  message : String
deriving Repr, DecidableEq

/-- The report of an error that a declaration met. -/
def Diagnostic.ofError (declaration : String) (error : IngestError) : Diagnostic where
  code := error.code
  severity := error.severity
  declaration
  message := error.message

end ProtoSchema
