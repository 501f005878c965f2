import ProtoSchema.Lint.Config
import ProtoSchema.Proofs.NameTable

/-!
# What a configuration changes

A finding carries the identifier and the severity of the rule that made it. So the findings
under a configuration can be told from the standard findings alone: those of a rule that is
off are left out, and those of a rule with another level get the severity of that level. No
rule looks at the level of another one, and levels of unknown rules are never looked at.
-/

namespace ProtoSchema.Lint

namespace Rule

theorem mem_check {rule : Rule} {catalog : Catalog} {finding : Finding}
    (member : finding ∈ rule.check catalog) :
    finding.rule = rule.id ∧ finding.severity = rule.severity := by
  obtain ⟨concern, _, rfl⟩ := List.mem_map.mp member
  exact ⟨rfl, rfl⟩

end Rule

namespace Config

/-- What becomes of a standard finding: nothing if its rule is off, and else the finding with
the severity that the level of its rule asks for. -/
def treat? (config : Config) (finding : Finding) : Option Finding :=
  match config.levels.find? finding.rule with
  | some .off => none
  | some .info => some { finding with severity := .info }
  | some .warn => some { finding with severity := .warning }
  | some .error => some { finding with severity := .error }
  | none => some finding

theorem rule_of_treat? {config : Config} {finding treated : Finding}
    (found : config.treat? finding = some treated) : treated.rule = finding.rule := by
  unfold treat? at found
  split at found <;> cases found <;> rfl

theorem treat?_congr {first second : Config} {finding : Finding}
    (same : first.levels.find? finding.rule = second.levels.find? finding.rule) :
    first.treat? finding = second.treat? finding := by
  rw [treat?, treat?, same]

/-- The findings of a rule under a configuration are its own findings, treated. -/
theorem check_eq_filterMap (config : Config) (catalog : Catalog) (rule : Rule) :
    config.check catalog rule = (rule.check catalog).filterMap config.treat? := by
  have treated : ∀ finding ∈ rule.check catalog,
      config.treat? finding =
        if config.isEnabled rule.id then
          some { finding with severity := config.severityOf rule }
        else none := by
    intro finding member
    obtain ⟨sameRule, sameSeverity⟩ := Rule.mem_check member
    rw [treat?, isEnabled, severityOf, ← sameRule]
    cases config.levels.find? finding.rule with
    | none => simp [← sameSeverity]
    | some level => cases level <;> simp [Level.severity?]
  rw [List.filterMap_congr treated, check]
  split
  · exact (congrFun List.filterMap_eq_map (rule.check catalog)).symm
  · simp

theorem check_standard (catalog : Catalog) (rule : Rule) :
    standard.check catalog rule = rule.check catalog := by
  rw [check_eq_filterMap]
  exact List.filterMap_some

/-- The findings under a configuration are the standard findings, treated. -/
theorem lint_eq_filterMap (config : Config) (catalog : Catalog) :
    config.lint catalog = (standard.lint catalog).filterMap config.treat? := by
  have byRule : config.check catalog =
      fun rule => (standard.check catalog rule).filterMap config.treat? := by
    funext rule
    rw [check_standard, check_eq_filterMap]
  rw [lint, lint, List.filterMap_flatMap, byRule]

/-- Every standard finding is one of a built-in rule. -/
theorem exists_rule_of_mem_lint {catalog : Catalog} {finding : Finding}
    (member : finding ∈ standard.lint catalog) :
    ∃ rule ∈ Rule.builtin, finding.rule = rule.id := by
  obtain ⟨rule, isBuiltin, inCheck⟩ := List.mem_flatMap.mp member
  rw [check_standard] at inCheck
  exact ⟨rule, isBuiltin, (Rule.mem_check inCheck).1⟩

/-- The findings of one rule are its standard findings, treated. -/
theorem filter_lint_eq (config : Config) (catalog : Catalog) (id : String) :
    (config.lint catalog).filter (·.rule == id) =
      ((standard.lint catalog).filter (·.rule == id)).filterMap config.treat? := by
  rw [lint_eq_filterMap, List.filter_filterMap, List.filterMap_filter]
  apply List.filterMap_congr
  intro finding _
  cases found : config.treat? finding with
  | none => simp
  | some treated => simp [Option.filter, rule_of_treat? found]

/-- A configuration only leaves findings out and sets severities, rule by rule: its findings
are the standard ones, treated, in their order. Configurations that agree on the built-in
rules have the same findings, and those that agree on one rule the same findings of that
rule. -/
theorem lint_only_treats (config : Config) (catalog : Catalog) :
    config.lint catalog = (standard.lint catalog).filterMap config.treat? ∧
      (∀ other : Config,
        (∀ rule ∈ Rule.builtin, other.levels.find? rule.id = config.levels.find? rule.id) →
        other.lint catalog = config.lint catalog) ∧
      ∀ (other : Config) (id : String), other.levels.find? id = config.levels.find? id →
        (other.lint catalog).filter (·.rule == id) =
          (config.lint catalog).filter (·.rule == id) := by
  refine ⟨lint_eq_filterMap config catalog, ?_, ?_⟩
  · intro other agree
    rw [lint_eq_filterMap, lint_eq_filterMap config]
    apply List.filterMap_congr
    intro finding member
    obtain ⟨rule, isBuiltin, sameRule⟩ := exists_rule_of_mem_lint member
    exact treat?_congr (sameRule ▸ agree rule isBuiltin)
  · intro other id agree
    rw [filter_lint_eq, filter_lint_eq config]
    apply List.filterMap_congr
    intro finding member
    have ofRule : finding.rule = id := by simpa using (List.mem_filter.mp member).2
    exact treat?_congr (ofRule ▸ agree)

/-- A rule that is off, a rule with another level and a level of an unknown rule. -/
theorem lint_only_treats_unknown :
    let catalog : Catalog :=
      { Catalog.empty "shop" "shop" with messages := [{ name := "order", fields := [] }] }
    let config : Config :=
      { levels := (NameTable.empty.insert "naming-convention" .off).insert "empty-message" .error }
    let other : Config := { levels := config.levels.insert "no-such-rule" .off }
    (∀ rule ∈ Rule.builtin, other.levels.find? rule.id = config.levels.find? rule.id) ∧
      other.levels.find? "empty-message" = config.levels.find? "empty-message" ∧
      other.lint catalog = [⟨"empty-message", .error, "shop", "order",
        "Message \"order\" has no exported fields"⟩] ∧
      (other.lint catalog).filter (·.rule == "empty-message") = config.lint catalog := by
  intro catalog config other
  obtain ⟨treated, ofBuiltin, ofRule⟩ := lint_only_treats config catalog
  have agree : ∀ rule ∈ Rule.builtin,
      other.levels.find? rule.id = config.levels.find? rule.id := by decide
  have agreeOnOne : other.levels.find? "empty-message" = config.levels.find? "empty-message" := by
    decide
  have found : config.lint catalog = [⟨"empty-message", .error, "shop", "order",
      "Message \"order\" has no exported fields"⟩] := treated.trans (by decide)
  refine ⟨agree, agreeOnOne, (ofBuiltin other agree).trans found, ?_⟩
  rw [ofRule other "empty-message" agreeOnOne, found]
  decide

end Config

end ProtoSchema.Lint
