import CSurvey.Analysis
import CSurvey.Diagram.Basic
import CSurvey.History

/-!
# Settings

The limits and defaults of an engine, the limits of the advisor and the changes to
the risk catalog.  Settings are valid when no limit is zero, the chart kind is
known and every rule that is mentioned exists.
-/

namespace CSurvey

/-- The limits and defaults of an engine. -/
structure AnalysisSettings where
  maxChunkSize : Nat
  maxNodes : Nat
  chartKind : String
  maxSearchResults : Nat
  historyCapacity : Nat
deriving DecidableEq, Repr

namespace AnalysisSettings

/-- What is in force when nothing is set. -/
def standard : AnalysisSettings :=
  ⟨600, 20, "flow", 50, History.standardCapacity⟩

/-- The limits that may not be zero, with their names. -/
def limits (settings : AnalysisSettings) : List (String × Nat) :=
  [("max_chunk_size", settings.maxChunkSize), ("max_nodes", settings.maxNodes),
   ("max_search_results", settings.maxSearchResults),
   ("history_capacity", settings.historyCapacity)]

end AnalysisSettings

structure Settings where
  analysis : AnalysisSettings
  thresholds : Thresholds
  risk : RiskOverrides
deriving DecidableEq, Repr

namespace Settings

/-- What is in force when nothing is set. -/
def standard : Settings :=
  ⟨AnalysisSettings.standard, Thresholds.standard, RiskOverrides.none⟩

def chartKind (settings : Settings) : Except Fault ChartKind :=
  ChartKind.parse settings.analysis.chartKind

/-- The rules in force. -/
def riskTable (settings : Settings) : Except Fault RiskTable :=
  RiskTable.withOverrides settings.risk

/-- The analyzer that the settings ask for. -/
def analyzer (settings : Settings) : Except Fault Analyzer := do
  return ⟨settings.analysis.maxChunkSize, ← settings.riskTable, settings.thresholds⟩

/-- Reject settings that no operation could run with. -/
def validate (settings : Settings) : Except Fault Unit := do
  match settings.analysis.limits.find? (fun limit => limit.2 == 0) with
  | some (name, _) => throw (.argument (.zeroSetting name))
  | none => pure ()
  let _ ← settings.chartKind
  let _ ← settings.riskTable
  return ()

end Settings

end CSurvey
