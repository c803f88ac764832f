import CSurvey.Settings
import CSurvey.Wire.Advice

/-!
# Settings as JSON

Every part and field may be left out.
-/

namespace CSurvey

def AnalysisSettings.toJson (settings : AnalysisSettings) : Json :=
  .obj [("max_chunk_size", .nat settings.maxChunkSize), ("max_nodes", .nat settings.maxNodes),
    ("chart_kind", .str settings.chartKind),
    ("max_search_results", .nat settings.maxSearchResults),
    ("history_capacity", .nat settings.historyCapacity)]

def AnalysisSettings.ofJson? (value : Json) : Option AnalysisSettings := do
  let [chunkSize, nodes, chartKind, results, capacity] ←
    value.slots? ["max_chunk_size", "max_nodes", "chart_kind", "max_search_results",
      "history_capacity"] | none
  let standard := AnalysisSettings.standard
  return {
    maxChunkSize := ← chunkSize.withDefault standard.maxChunkSize Json.nat?
    maxNodes := ← nodes.withDefault standard.maxNodes Json.nat?
    chartKind := ← chartKind.withDefault standard.chartKind Json.str?
    maxSearchResults := ← results.withDefault standard.maxSearchResults Json.nat?
    historyCapacity := ← capacity.withDefault standard.historyCapacity Json.nat? }

def Settings.toJson (settings : Settings) : Json :=
  .obj [("analysis", settings.analysis.toJson), ("thresholds", settings.thresholds.toJson),
    ("risk", settings.risk.toJson)]

def Settings.ofJson? (value : Json) : Option Settings := do
  let [analysis, thresholds, risk] ← value.slots? ["analysis", "thresholds", "risk"] | none
  return {
    analysis := ← analysis.withDefault AnalysisSettings.standard AnalysisSettings.ofJson?
    thresholds := ← thresholds.withDefault Thresholds.standard Thresholds.ofJson?
    risk := ← risk.withDefault RiskOverrides.none RiskOverrides.ofJson? }

end CSurvey
