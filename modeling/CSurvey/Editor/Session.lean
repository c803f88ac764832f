import CSurvey.Editor.Diagnostic
import CSurvey.SettingsFile

/-!
# Editor sessions

An editor tells which documents are open and what they hold, and is told the
diagnostics of C documents.  Only the latest text of a document is kept.
-/

namespace CSurvey

/-- What an editor tells about a document. -/
inductive Notification where
  | opened (uri : String) (version : Int) (text : String)
  /-- The texts that the document has had since, the last one being what it holds now. -/
  | changed (uri : String) (version : Int) (texts : List String)
  | saved (uri : String) (text : Option String)
  | closed (uri : String)
deriving DecidableEq, Repr

/-- What an editor is told about a document. -/
structure Publication where
  uri : String
  diagnostics : List Diagnostic
  /-- The version that the diagnostics are for, if it is known. -/
  version : Option Int
deriving DecidableEq

structure EditorSession where
  analyzer : Analyzer
  /-- The texts of the open C documents. -/
  documents : List (String × String)

namespace EditorSession

/-- The analyzer for the directory of a workspace: settings that are not valid are ignored. -/
def analyzerFor (disk : Disk) (root : Option String) : Analyzer :=
  let standard : Analyzer :=
    ⟨AnalysisSettings.standard.maxChunkSize, RiskTable.builtin, Thresholds.standard⟩
  match root.map (Settings.find disk) with
  | some (.ok (some settings)) =>
    match settings.analyzer with
    | .ok analyzer => analyzer
    | .error _ => standard
  | _ => standard

/-- A session without documents. -/
def start (disk : Disk) (root : Option String) : EditorSession :=
  ⟨analyzerFor disk root, []⟩

def pathOf (uri : String) : List Char :=
  let cs := uri.toList.takeWhile (fun c => c != '?' && c != '#')
  match (cs.dropWhile (fun c => c != ':')).drop 1 with
  | '/' :: '/' :: rest => rest.dropWhile (fun c => c != '/')
  | path => path

/-- Whether a document is looked at. -/
def isC (uri : String) : Bool :=
  let path := pathOf uri
  ['.', 'c'].isSuffixOf path || ['.', 'h'].isSuffixOf path

def text? (session : EditorSession) (uri : String) : Option String :=
  (session.documents.find? (fun document => document.1 == uri)).map (·.2)

/-- Forget a document. -/
def remove (session : EditorSession) (uri : String) : EditorSession :=
  { session with documents := session.documents.filter (fun document => document.1 != uri) }

/-- Keep the text of a document in place of the one it had. -/
def store (session : EditorSession) (uri text : String) : EditorSession :=
  { session with documents := (session.remove uri).documents ++ [(uri, text)] }

/-- The last name on the path of a document. -/
def nameOf (uri : String) : String :=
  String.ofList ((pathOf uri).reverse.takeWhile (fun c => c != '/')).reverse

def diagnostics? (session : EditorSession) (uri text : String) : Option (List Diagnostic) :=
  let source : Source := ⟨nameOf uri, text⟩
  match session.analyzer.analyze source with
  | .ok analysis => some (Diagnostic.ofAnalysis source analysis)
  | .error _ => none

/-- What there is to tell about the document as it is kept. -/
def publish? (session : EditorSession) (uri : String) (version : Option Int) :
    Option Publication := do
  let text ← session.text? uri
  return ⟨uri, ← session.diagnostics? uri text, version⟩

/-- The texts kept after a notification. -/
def update (session : EditorSession) : Notification → EditorSession
  | .opened uri _ text => if isC uri then session.store uri text else session
  | .changed uri _ texts =>
    match texts.getLast? with
    | some text => if isC uri then session.store uri text else session
    | none => session
  | .saved uri text =>
    match text with
    | some text => if isC uri then session.store uri text else session
    | none => session
  | .closed uri => session.remove uri

/-- What there is to tell after a notification has been taken in. -/
def reply? (session : EditorSession) : Notification → Option Publication
  | .opened uri version _ => if isC uri then session.publish? uri (some version) else none
  | .changed uri version texts =>
    if isC uri && !texts.isEmpty then session.publish? uri (some version) else none
  | .saved uri _ => if isC uri then session.publish? uri none else none
  | .closed uri => some ⟨uri, [], none⟩

/-- Take in a notification and tell what follows from it. -/
def step (session : EditorSession) (notification : Notification) :
    EditorSession × Option Publication :=
  let session := session.update notification
  (session, session.reply? notification)

end EditorSession

end CSurvey
