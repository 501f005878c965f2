import ProtoSchema.Lint.Rule

/-!
# Lint configuration

A configuration assigns levels to rules by identifier. The level `off` silences a
rule, the others set the severity of its findings, and a rule without a level
keeps its own. Levels of unknown rules have no effect.
-/

namespace ProtoSchema.Lint

/-- How a rule is to be treated. -/
inductive Level where
  | off
  | info
  | warn
  | error
deriving Repr, DecidableEq

namespace Level

/-- The levels in the order of their declaration. -/
def all : List Level :=
  [.off, .info, .warn, .error]

/-- The name of a level in a configuration. -/
def name : Level → String
  | .off => "off"
  | .info => "info"
  | .warn => "warn"
  | .error => "error"

/-- The severity that a level asks for; `off` asks for none. -/
def severity? : Level → Option Severity
  | .off => none
  | .info => some .info
  | .warn => some .warning
  | .error => some .error

end Level

/-- Levels of rules by identifier. -/
structure Config where
  levels : NameTable Level

namespace Config

/-- The configuration that leaves every rule as it is. -/
def standard : Config where
  levels := .empty

/-- Whether a rule reports at all. -/
def isEnabled (config : Config) (id : String) : Bool :=
  config.levels.find? id != some .off

/-- The severity of a rule's findings. -/
def severityOf (config : Config) (rule : Rule) : Severity :=
  ((config.levels.find? rule.id).bind Level.severity?).getD rule.severity

/-- The findings of one rule under a configuration. -/
def check (config : Config) (catalog : Catalog) (rule : Rule) : List Finding :=
  if config.isEnabled rule.id then
    (rule.check catalog).map fun finding =>
      { finding with severity := config.severityOf rule }
  else []

/-- The findings of the built-in rules about a canonical catalog. -/
def lint (config : Config) (catalog : Catalog) : List Finding :=
  Rule.builtin.flatMap (config.check catalog)

end Config

end ProtoSchema.Lint
