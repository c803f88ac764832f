import CSurvey.CommandLine.Invocation
import CSurvey.CommandLine.Text
import CSurvey.Engine.Basic
import CSurvey.Files.Tree
import CSurvey.Json.Printer
import CSurvey.SettingsFile
import CSurvey.Wire.Operation

/-!
# Running a command

What a command prints, what it writes and how it ends.  A severe finding, or a
search without a match, is no failure but ends with 1, so that scripts can tell.
-/

namespace CSurvey.CommandLine

/-- How a command ends. -/
structure Outcome where
  exit : Nat
  stdout : String
  /-- The lines about what was done, apart from the output. -/
  notes : List String
  /-- Why the command failed. -/
  failure : Option String
  /-- The file that is written, with its text. -/
  written : Option (String × String)
deriving DecidableEq, Repr

namespace Outcome

/-- Output alone. -/
def printed (stdout : String) : Outcome :=
  ⟨0, stdout, [], none, none⟩

/-- The end of a command that could not be carried out. -/
def failed (reason : String) : Outcome :=
  ⟨1, "", [], some reason, none⟩

/-- The end of a command whose arguments are not carried out. -/
def stopped : Stop → Outcome
  | .help => ⟨0, "", [], none, none⟩
  | .invalid => ⟨2, "", [], none, none⟩

/-- The same outcome, ending with 1 if a condition holds. -/
def endingWithOneIf (condition : Bool) (outcome : Outcome) : Outcome :=
  if condition then { outcome with exit := 1 } else outcome

/-- An outcome or the reason of a failure. -/
def ofExcept : Except String Outcome → Outcome
  | .ok outcome => outcome
  | .error reason => failed reason

end Outcome

def printedJson (value : Json) : Outcome :=
  .printed (value.pretty ++ "\n")

def shown (json : Bool) (value : Json) (text : String) : Outcome :=
  if json then printedJson value else .printed text

/-- Why nothing is written at a path, if so: output stays below the current directory. -/
def outputFault? (path : String) : Option String :=
  if path.toList.contains '\x00' then some "Output path contains null bytes"
  else if path.toList.head? == some '/' then
    some s!"Output path must be relative, not absolute: {path}"
  else if (FileTree.namesOf path).contains ".." then
    some s!"Path traversal (..) not allowed in output paths: {path}"
  else none

def writeOrPrint (disk : Disk) (output : Option String) (text : String) : Except String Outcome :=
  match output with
  | none => .ok (.printed text)
  | some path =>
    match outputFault? path with
    | some reason => .error reason
    | none =>
      if disk.writable path then
        .ok ⟨0, "", [s!"[revscope] written → {path}"], none, some (path, text)⟩
      else .error s!"Failed to write {path}"

/-- The settings in force: those of a given file, which has to be valid, or else those found in the
current directory, which are ignored if they are not. -/
def settingsFor (disk : Disk) (explicit : Option String) : Except String Settings :=
  match explicit with
  | some path => (Settings.load disk path).mapError (fun _ => s!"Failed to load config: {path}")
  | none =>
    match Settings.find disk "." with
    | .ok (some settings) => .ok settings
    | _ => .ok Settings.standard

/-- The text of a function, which has to be well formed. -/
def functionRequest (disk : Disk) (file : String) (name : Option String) :
    Except String FunctionRequest := do
  let text ← (disk.readText file).mapError (fun _ => s!"Failed to read {file}")
  return ⟨text, name⟩

def runDiagram (engine : Engine) (disk : Disk) (json : Bool) (file : String)
    (kind : Option String) (maxNodes : Option Nat) (dot : Bool) (output : Option String) :
    Except String Outcome := do
  let graph ← (engine.analyzeDependencies disk ⟨none, none, .ofPath file⟩).mapError Fault.message
  let request : DiagramRequest := ⟨.ofCallGraph graph, kind, maxNodes, !dot, dot⟩
  let response ← (engine.renderDiagram request).mapError Fault.message
  if json then return printedJson response.toJson
  else
    let diagram := response.diagram
    let outcome ← writeOrPrint disk output ((response.dot <|> response.mermaid).getD "")
    let note := s!"[revscope] showing {diagram.nodes.length} of {diagram.totalNodes} functions"
    return { outcome with notes := outcome.notes ++ if diagram.truncated then [note] else [] }

def runReport (engine : Engine) (disk : Disk) (json : Bool) (file : String)
    (output : Option String) : Except String Outcome := do
  let response ← (engine.report disk ⟨.ofPath file, none⟩).mapError Fault.message
  if json then return printedJson response.report.toJson
  else writeOrPrint disk output response.markdown

def runScan (engine : Engine) (disk : Disk) (json : Bool) (path : String)
    (exclude : List String) : Except String Outcome :=
  match Gather.files disk path exclude with
  | none => .error s!"Failed to gather C files from: {path}"
  | some [] => .ok ⟨0, "", [s!"No C sources found under {path}."], none, none⟩
  | some paths =>
    let summaries := engine.analyzer.summarizeAll disk paths
    .ok ((shown json (.list (FileSummary.toJson Fault.message) summaries)
      (unlines (summaries.map summaryLine))).endingWithOneIf
        (summaries.any (fun summary => 0 < summary.severeFindings)))

/-- Carry out a command. -/
def execute (engine : Engine) (disk : Disk) (json : Bool) : Command → Except String Outcome
  | .chunk file maxLines => do
    let response ← (engine.chunk disk ⟨.ofPath file, maxLines⟩).mapError Fault.message
    return shown json response.toJson (chunkText response)
  | .function file name => do
    let analysis := engine.analyzeFunction (← functionRequest disk file name)
    return shown json analysis.toJson (functionText analysis)
  | .refactor file name => do
    let advice := (engine.analyzeFunction (← functionRequest disk file name)).advice
    return shown json advice.toJson (adviceText advice)
  | .deps file => do
    let graph ← (engine.analyzeDependencies disk ⟨none, none, .ofPath file⟩).mapError Fault.message
    return shown json graph.toJson (graphText graph)
  | .search file pattern kind literal => do
    let response ←
      (engine.search disk ⟨.ofPath file, pattern, some kind, literal⟩).mapError Fault.message
    return (shown json response.toJson (searchText response)).endingWithOneIf (response.total == 0)
  | .diagram file kind maxNodes dot output =>
    runDiagram engine disk json file kind maxNodes dot output
  | .audit file => do
    let response ← (engine.audit disk (.ofPath file)).mapError Fault.message
    return (shown json response.toJson (auditText response)).endingWithOneIf
      (response.findings.any (fun finding => finding.severity.isSevere))
  | .report file output => runReport engine disk json file output
  | .recommend words =>
    let response := Engine.recommend engine.freshHistory (" ".intercalate words)
    .ok (shown json response.toJson (recommendText response))
  | .scan path exclude => runScan engine disk json path exclude

/-- Carry out an invocation. -/
def run (libraries : Libraries) (disk : Disk) (invocation : Invocation) : Outcome :=
  .ofExcept (do
    let settings ← settingsFor disk invocation.settingsPath
    let engine ← (Engine.ofSettings libraries settings).mapError (fun _ => "Invalid configuration")
    execute engine disk invocation.json invocation.command)

/-- Carry out what arguments ask for. -/
def runArguments (libraries : Libraries) (disk : Disk) (arguments : List String) : Outcome :=
  match parse arguments with
  | .ok invocation => run libraries disk invocation
  | .error stop => .stopped stop

end CSurvey.CommandLine
