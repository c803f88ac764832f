import CSurvey.Risk.Catalog

/-!
# Risk tables

The rules in force: those of the catalog, less the disabled ones, some with
another severity.  A name that no rule of the catalog has is a fault, so that a
slip in the settings cannot leave a rule as it was.
-/

namespace CSurvey

/-- Which rules are disabled, and which have another severity, sorted by rule. -/
structure RiskOverrides where
  disabled : List String
  severity : List (String × Severity)
deriving DecidableEq, Repr, Inhabited

namespace RiskOverrides

/-- Nothing changed. -/
def none : RiskOverrides :=
  ⟨[], []⟩

/-- The names of all rules that are mentioned. -/
def mentioned (overrides : RiskOverrides) : List String :=
  overrides.disabled ++ overrides.severity.map (·.1)

/-- The severity set for a rule. -/
def severityOf? (overrides : RiskOverrides) (id : String) : Option Severity :=
  (overrides.severity.find? (fun entry => entry.1 == id)).map (·.2)

end RiskOverrides

namespace RiskRule

/-- The rule with the severity that is set for it, if one is. -/
def rerated (rule : RiskRule) (overrides : RiskOverrides) : RiskRule :=
  { rule with severity := (overrides.severityOf? rule.id).getD rule.severity }

end RiskRule

/-- The rules in force, in the order of the catalog. -/
structure RiskTable where
  rules : List RiskRule
deriving DecidableEq, Repr

namespace RiskTable

/-- The whole catalog. -/
def builtin : RiskTable :=
  ⟨RiskCatalog.rules⟩

/-- Whether the catalog has a rule of that name. -/
def isKnown (id : String) : Bool :=
  RiskCatalog.rules.any (fun rule => rule.id == id)

/-- The catalog with some rules left out and some re-rated. -/
def withOverrides (overrides : RiskOverrides) : Except Fault RiskTable :=
  match overrides.mentioned.find? (fun id => !isKnown id) with
  | some id => .error (.argument (.unknownRule id))
  | none =>
    .ok ⟨(RiskCatalog.rules.filter (fun rule => !overrides.disabled.contains rule.id)).map
      (fun rule => rule.rerated overrides)⟩

/-- The rule of that name, if it is in force. -/
def rule? (table : RiskTable) (id : String) : Option RiskRule :=
  table.rules.find? (fun rule => rule.id == id)

end RiskTable

end CSurvey
