import CSurvey.Analysis
import CSurvey.Files.Disk
import CSurvey.Json.Value

/-!
# Batches

Many files analyzed one by one.  A file that cannot be read takes its line like
any other and does not stop the batch.
-/

namespace CSurvey

/-- One line about one file of a batch. -/
structure FileSummary where
  path : String
  functions : Nat
  findings : Nat
  severeFindings : Nat
  cycles : Nat
  securityScore : Nat
  fault : Option Fault
deriving DecidableEq

namespace FileSummary

def ofAnalysis (path : String) (analysis : FileAnalysis) : FileSummary :=
  { path
    functions := analysis.functions.length
    findings := analysis.findings.length
    severeFindings := analysis.severeFindings
    cycles := analysis.graph.cycles.length
    securityScore := RiskSummary.score analysis.findings
    fault := none }

/-- The line about a file that was not analyzed. -/
def ofFault (path : String) (fault : Fault) : FileSummary :=
  ⟨path, 0, 0, 0, 0, 0, some fault⟩

/-- The summary, with what it says about a fault. -/
def toJson (describe : Fault → String) (summary : FileSummary) : Json :=
  .obj ([("path", .str summary.path), ("functions", .nat summary.functions),
      ("findings", .nat summary.findings), ("severe_findings", .nat summary.severeFindings),
      ("cycles", .nat summary.cycles), ("security_score", .nat summary.securityScore)] ++
    match summary.fault with
    | none => []
    | some fault => [("error", .str (describe fault))])

end FileSummary

namespace Analyzer

def summarize (analyzer : Analyzer) (disk : Disk) (path : String) : FileSummary :=
  match (disk.load path).bind analyzer.analyze with
  | .ok analysis => .ofAnalysis path analysis
  | .error fault => .ofFault path fault

def summarizeAll (analyzer : Analyzer) (disk : Disk) (paths : List String) : List FileSummary :=
  paths.map (analyzer.summarize disk)

end Analyzer

end CSurvey
