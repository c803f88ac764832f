import CSurvey.Editor.Session
import CSurvey.Proofs.Analysis.ChunkSize
import CSurvey.Proofs.Engine.Record

/-!
# Texts in an editor session

A session keeps for each C document the text that was brought last, until the
document is closed.  It can analyze every text, since it only takes settings that are
valid.

An editor opens a document, replaces its text, and closes it.  In the end it should
have been told the diagnostics of the text that it holds of the document, and none if
it has closed it.
-/

namespace CSurvey

namespace Notification

/-- Whether a notification opens a document. -/
def opens (uri : String) : Notification → Bool
  | .opened other _ _ => other == uri
  | _ => false

/-- Whether a notification closes a document. -/
def closes (uri : String) : Notification → Bool
  | .closed other => other == uri
  | _ => false

def brings? (uri : String) : Notification → Option String
  | .opened other _ text => if other == uri then some text else none
  | .changed other _ texts => if other == uri then texts.getLast? else none
  | .saved other text => if other == uri then text else none
  | .closed _ => none

theorem exists_brings_of_opens {uri : String} {notification : Notification}
    (opens : notification.opens uri = true) :
    ∃ text, notification.brings? uri = some text ∧ notification.closes uri = false := by
  cases notification with
  | opened other version text => exact ⟨text, if_pos opens, rfl⟩
  | changed | saved | closed => cases opens

theorem closes_of_brings {uri text : String} {notification : Notification}
    (brings : notification.brings? uri = some text) : notification.closes uri = false := by
  cases notification with
  | opened | changed | saved => rfl
  | closed => cases brings

end Notification

namespace EditorSession

section Texts

variable (session : EditorSession) (uri other text : String)

theorem text?_remove :
    (session.remove uri).text? other = if other = uri then none else session.text? other := by
  unfold text? remove
  by_cases same : other = uri
  · subst same
    rw [if_pos rfl, List.find?_filter]
    simp
  · rw [if_neg same, List.find?_filter]
    congr 2
    funext document
    by_cases here : document.1 = other
    · simp [here, same]
    · simp [here]

theorem text?_store :
    (session.store uri text).text? other =
      if other = uri then some text else session.text? other := by
  have removed := session.text?_remove uri other
  unfold text? at removed ⊢
  rw [store, List.find?_append, Option.map_or, removed]
  by_cases same : other = uri
  · simp [same]
  · simp [same, Ne.symm same]

end Texts

theorem analyzer_update (session : EditorSession) (notification : Notification) :
    (session.update notification).analyzer = session.analyzer := by
  unfold update
  repeat' split
  all_goals rfl

theorem diagnostics?_congr {session other : EditorSession}
    (same : other.analyzer = session.analyzer) (uri text : String) :
    other.diagnostics? uri text = session.diagnostics? uri text := by
  rw [diagnostics?, same, diagnostics?]

/-- What is kept of a C document is what was brought last, until it is closed. -/
theorem text?_update {uri : String} (looked : isC uri = true) (session : EditorSession)
    (notification : Notification) :
    (session.update notification).text? uri =
      if notification.closes uri then none
      else (notification.brings? uri).or (session.text? uri) := by
  cases notification with
  | opened other version text =>
    by_cases same : other = uri
    · subst same
      simp [update, looked, text?_store, Notification.closes, Notification.brings?]
    · cases here : isC other <;>
        simp [update, here, text?_store, Notification.closes, Notification.brings?, same,
          Ne.symm same]
  | changed other version texts =>
    cases brought : texts.getLast? with
    | none => simp [update, brought, Notification.closes, Notification.brings?]
    | some text =>
      by_cases same : other = uri
      · subst same
        simp [update, brought, looked, text?_store, Notification.closes, Notification.brings?]
      · cases here : isC other <;>
          simp [update, brought, here, text?_store, Notification.closes, Notification.brings?,
            same, Ne.symm same]
  | saved other brought =>
    cases brought with
    | none => simp [update, Notification.closes, Notification.brings?]
    | some text =>
      by_cases same : other = uri
      · subst same
        simp [update, looked, text?_store, Notification.closes, Notification.brings?]
      · cases here : isC other <;>
          simp [update, here, text?_store, Notification.closes, Notification.brings?, same,
            Ne.symm same]
  | closed other =>
    by_cases same : other = uri
    · simp [update, text?_remove, Notification.closes, same]
    · simp [update, text?_remove, Notification.closes, Notification.brings?, same, Ne.symm same]

theorem text?_update_of_closes {uri : String} (looked : isC uri = true) (session : EditorSession)
    {notification : Notification} (closes : notification.closes uri = true) :
    (session.update notification).text? uri = none := by
  rw [text?_update looked, if_pos closes]

theorem text?_update_of_brings {uri text : String} (looked : isC uri = true)
    (session : EditorSession) {notification : Notification}
    (brings : notification.brings? uri = some text) :
    (session.update notification).text? uri = some text := by
  rw [text?_update looked, if_neg (by simp [Notification.closes_of_brings brings]), brings]
  rfl

section Analyzer

/-- Settings are only taken from a file if they are valid. -/
theorem validate_of_load {disk : Disk} {path : String} {settings : Settings}
    (loaded : Settings.load disk path = .ok settings) : settings.validate = .ok () := by
  unfold Settings.load at loaded
  cases read : disk.readText path with
  | error fault => simp [read, bind, Except.bind] at loaded
  | ok text =>
    cases parsed : Settings.ofToml? text with
    | none => simp [read, parsed, bind, Except.bind, throw, throwThe, MonadExceptOf.throw] at loaded
    | some found =>
      cases valid : found.validate with
      | error fault => simp [read, parsed, valid, bind, Except.bind, Except.mapError] at loaded
      | ok checked =>
        simp only [read, parsed, valid, bind, Except.bind, Except.mapError, pure, Except.pure,
          Except.ok.injEq] at loaded
        rw [← loaded, valid]

theorem validate_of_find {disk : Disk} {directory : String} {settings : Settings}
    (found : Settings.find disk directory = .ok (some settings)) : settings.validate = .ok () := by
  simp only [Settings.find] at found
  split at found
  · cases found
  · cases loaded : Settings.load disk (Gather.join directory [Settings.fileName]) with
    | error fault =>
      rw [loaded] at found
      cases found
    | ok other =>
      rw [loaded] at found
      obtain rfl : other = settings := Option.some.inj (Except.ok.inj found)
      exact validate_of_load loaded

theorem positive_analyzer {settings : Settings} (valid : settings.validate = .ok ())
    {analyzer : Analyzer} (made : settings.analyzer = .ok analyzer) :
    1 ≤ analyzer.maxChunkSize := by
  obtain ⟨positive, -, table, tables⟩ := Settings.validate_eq_ok_iff.1 valid
  have room := positive ("max_chunk_size", settings.analysis.maxChunkSize)
    (by simp [AnalysisSettings.limits])
  simp only [Settings.analyzer, tables, bind, Except.bind, pure, Except.pure,
    Except.ok.injEq] at made
  rw [← made]
  exact Nat.pos_of_ne_zero room

theorem positive_analyzerFor (disk : Disk) (root : Option String) :
    1 ≤ (analyzerFor disk root).maxChunkSize := by
  unfold analyzerFor
  split
  · rename_i settings found
    obtain ⟨directory, -, found⟩ := Option.map_eq_some_iff.1 found
    split
    · rename_i analyzer made
      exact positive_analyzer (validate_of_find found) made
    · decide
  · decide

/-- Whatever the settings of a workspace are, each text has diagnostics. -/
theorem exists_diagnostics (disk : Disk) (root : Option String) (uri text : String) :
    ∃ diagnostics, (start disk root).diagnostics? uri text = some diagnostics := by
  have analyzed := Analyzer.analyze_eq _ ⟨nameOf uri, text⟩ (positive_analyzerFor disk root)
  exact ⟨_, by rw [diagnostics?, start, analyzed]⟩

end Analyzer

end EditorSession

namespace Notification

/-- The text that an editor holds of a document: it opens it, replaces its text, and closes it. -/
def hold (uri : String) (held : Option String) (notification : Notification) : Option String :=
  if notification.closes uri then none
  else if notification.opens uri then notification.brings? uri
  else held.map (fun text => (notification.brings? uri).getD text)

/-- The diagnostics of what a notification says about a document. -/
def shows? (session : EditorSession) (uri : String) (notification : Notification) :
    Option (List Diagnostic) :=
  if notification.closes uri then some []
  else (notification.brings? uri).bind (session.diagnostics? uri)

end Notification

/-- The text that an editor holds of a document after some notifications, if it is open. -/
def heldText? (uri : String) (notifications : List Notification) : Option String :=
  notifications.foldl (Notification.hold uri) none

/-- The diagnostics that were published last for a document. -/
def lastShown? (uri : String) (published : List Publication) : Option (List Diagnostic) :=
  (published.filter (fun publication => publication.uri == uri)).getLast?.map
    Publication.diagnostics

/-- The diagnostics that an editor should be told in the end. -/
def EditorSession.due? (session : EditorSession) (uri : String)
    (notifications : List Notification) : Option (List Diagnostic) :=
  match heldText? uri notifications with
  | some text => session.diagnostics? uri text
  | none => some []

/-- An editor was told last what it should be told; of a document that it has neither opened nor
closed it may also not have been told anything. -/
def ShowsDue (session : EditorSession) (uri : String) (notifications : List Notification)
    (published : List Publication) : Prop :=
  lastShown? uri published = session.due? uri notifications ∨
    lastShown? uri published = none ∧ ∀ notification ∈ notifications,
      notification.opens uri = false ∧ notification.closes uri = false

theorem heldText?_concat (uri : String) (notifications : List Notification)
    (notification : Notification) :
    heldText? uri (notifications ++ [notification]) =
      notification.hold uri (heldText? uri notifications) := by
  rw [heldText?, List.foldl_append]
  rfl

theorem lastShown?_append_singleton (uri : String) (published : List Publication)
    (publication : Publication) :
    lastShown? uri (published ++ [publication]) =
      if publication.uri = uri then some publication.diagnostics
      else lastShown? uri published := by
  rw [lastShown?, List.filter_append, lastShown?]
  split <;> simp_all

theorem lastShown?_eq_some {uri : String} {published : List Publication}
    {diagnostics : List Diagnostic} (shown : lastShown? uri published = some diagnostics) :
    ∃ publication ∈ published, publication.uri = uri ∧ publication.diagnostics = diagnostics := by
  obtain ⟨publication, isLast, rfl⟩ := Option.map_eq_some_iff.1 shown
  have member := List.mem_of_getLast? isLast
  rw [List.mem_filter, beq_iff_eq] at member
  exact ⟨publication, member.1, member.2, rfl⟩

theorem lastShown?_eq_none {uri : String} {published : List Publication} :
    lastShown? uri published = none ↔ ∀ publication ∈ published, publication.uri ≠ uri := by
  simp [lastShown?]

end CSurvey
