import CSurvey.Risk.Rule
import CSurvey.Tally

/-!
# Risk summaries

How the findings of a file are distributed, and the score that follows from their
severities.
-/

namespace CSurvey

structure RiskSummary where
  total : Nat
  /-- The number of findings of each severity that occurs, the least severe first. -/
  bySeverity : List (Severity × Nat)
  byCategory : Tally
  securityScore : Nat
  /-- The worst severity, or `none` in words. -/
  riskLevel : String
deriving DecidableEq

namespace RiskSummary

/-- 100 less twice the weights of the findings, and at least zero. -/
def score (findings : List Finding) : Nat :=
  100 - 2 * (findings.map (fun finding => finding.severity.weight)).sum

def worst? (findings : List Finding) : Option Severity :=
  Severity.worst? (findings.map Finding.severity)

def ofFindings (findings : List Finding) : RiskSummary where
  total := findings.length
  bySeverity :=
    (Severity.all.map (fun severity =>
      (severity, findings.countP (fun finding => finding.severity == severity)))).filter
        (fun entry => entry.2 != 0)
  byCategory := Tally.ofNames (findings.map Finding.category)
  securityScore := score findings
  riskLevel := ((worst? findings).map Severity.name).getD "none"

end RiskSummary

end CSurvey
