import CSurvey.Proofs.Editor.Session
import Mathlib.Logic.Relation

/-!
# Handling notifications at once

Each notification is handled in steps: the texts are updated, the text of the
document is read, it is analyzed, and the diagnostics are published.  Handlers of
several notifications run at once, so between two steps of one there can be steps of
others.  Only the updates come in the order of the notifications.
-/

namespace CSurvey

/-- What is left to do for a notification that has been taken in. -/
inductive Handler where
  | reading (uri : String) (version : Option Int)
  | analyzing (uri : String) (version : Option Int) (text : String)
  | publishing (publication : Publication)

namespace Handler

/-- What is left to do after one step; nothing if the document is not kept or not analyzed, or after
publishing. -/
def advance (session : EditorSession) : Handler → Option Handler
  | .reading uri version => (session.text? uri).map (.analyzing uri version)
  | .analyzing uri version text =>
    (session.diagnostics? uri text).map (fun diagnostics =>
      .publishing ⟨uri, diagnostics, version⟩)
  | .publishing _ => none

/-- What is published in one step. -/
def publication? : Handler → Option Publication
  | .publishing publication => some publication
  | .reading .. | .analyzing .. => none

/-- What is published in all steps if no text is updated between them. -/
def reply? (session : EditorSession) : Handler → Option Publication
  | .reading uri version => session.publish? uri version
  | .analyzing uri version text =>
    (session.diagnostics? uri text).map (fun diagnostics => ⟨uri, diagnostics, version⟩)
  | .publishing publication => some publication

end Handler

namespace Notification

/-- Whether a notification brings no text and closes nothing, so that it need not wait for
others. -/
def isIdle : Notification → Bool
  | .saved _ none => true
  | _ => false

/-- What is left to do for a notification when the texts have been updated. -/
def handler? : Notification → Option Handler
  | .opened uri version _ =>
    if EditorSession.isC uri then some (.reading uri (some version)) else none
  | .changed uri version texts =>
    if EditorSession.isC uri && !texts.isEmpty then some (.reading uri (some version)) else none
  | .saved uri _ => if EditorSession.isC uri then some (.reading uri none) else none
  | .closed uri => some (.publishing ⟨uri, [], none⟩)

theorem handler?_of_closes {uri : String} {notification : Notification}
    (closes : notification.closes uri = true) :
    notification.handler? = some (.publishing ⟨uri, [], none⟩) := by
  cases notification with
  | closed other =>
    obtain rfl : other = uri := beq_iff_eq.1 closes
    rfl
  | opened | changed | saved => cases closes

theorem handler?_of_brings {uri text : String} (looked : EditorSession.isC uri = true)
    {notification : Notification} (brings : notification.brings? uri = some text) :
    ∃ version, notification.handler? = some (.reading uri version) := by
  cases notification with
  | opened other version _ =>
    obtain rfl : other = uri := by
      by_contra different
      simp [brings?, different] at brings
    exact ⟨some version, by simp [handler?, looked]⟩
  | changed other version texts =>
    obtain rfl : other = uri := by
      by_contra different
      simp [brings?, different] at brings
    have nonempty : texts ≠ [] := by
      rintro rfl
      simp [brings?] at brings
    exact ⟨some version, by simp [handler?, looked, nonempty]⟩
  | saved other _ =>
    obtain rfl : other = uri := by
      by_contra different
      simp [brings?, different] at brings
    exact ⟨none, by simp [handler?, looked]⟩
  | closed => cases brings

end Notification

/-- The texts that are kept, the notifications not yet taken in, the handlers that run, and what has
been published. -/
structure Exchange where
  session : EditorSession
  waiting : List Notification
  running : List Handler
  published : List Publication

namespace Exchange

/-- One step of a handler.  Texts are updated in the order of the notifications. -/
inductive Step : Exchange → Exchange → Prop
  | take {session : EditorSession} {front back : List Notification} {notification : Notification}
      {running : List Handler} {published : List Publication}
      (inOrder : front = [] ∨ notification.isIdle = true) :
      Step ⟨session, front ++ notification :: back, running, published⟩
        ⟨session.update notification, front ++ back, notification.handler?.toList ++ running,
          published⟩
  | work {session : EditorSession} {waiting : List Notification} {front back : List Handler}
      {handler : Handler} {published : List Publication} :
      Step ⟨session, waiting, front ++ handler :: back, published⟩
        ⟨session, waiting, front ++ ((handler.advance session).toList ++ back),
          published ++ handler.publication?.toList⟩

/-- Any number of steps. -/
def Reaches : Exchange → Exchange → Prop :=
  Relation.ReflTransGen Step

theorem Reaches.refl (exchange : Exchange) : Reaches exchange exchange :=
  Relation.ReflTransGen.refl

theorem Reaches.trans {first second third : Exchange} (front : Reaches first second)
    (back : Reaches second third) : Reaches first third :=
  Relation.ReflTransGen.trans front back

theorem Step.first (session : EditorSession) (notification : Notification)
    (waiting : List Notification) (running : List Handler) (published : List Publication) :
    Step ⟨session, notification :: waiting, running, published⟩
      ⟨session.update notification, waiting, notification.handler?.toList ++ running,
        published⟩ :=
  @Step.take session [] waiting notification running published (Or.inl rfl)

theorem Step.reaches {first second third : Exchange} (step : Step first second)
    (rest : Reaches second third) : Reaches first third :=
  Relation.ReflTransGen.head step rest

/-- Nothing is left to do. -/
def Settled (exchange : Exchange) : Prop :=
  exchange.waiting = [] ∧ exchange.running = []

/-- Before any notification is taken in. -/
def start (session : EditorSession) (notifications : List Notification) : Exchange :=
  ⟨session, notifications, [], []⟩

section Runs

variable (session : EditorSession) (waiting : List Notification) (front back : List Handler)
  (published : List Publication)

theorem reaches_publishing (publication : Publication) :
    Reaches ⟨session, waiting, front ++ .publishing publication :: back, published⟩
      ⟨session, waiting, front ++ back, published ++ [publication]⟩ :=
  Step.work.reaches (.refl _)

theorem reaches_analyzing (uri : String) (version : Option Int) (text : String) :
    Reaches ⟨session, waiting, front ++ .analyzing uri version text :: back, published⟩
      ⟨session, waiting, front ++ back,
        published ++ (Handler.reply? session (.analyzing uri version text)).toList⟩ := by
  refine Step.work.reaches ?_
  rw [Handler.advance, Handler.reply?, Handler.publication?, Option.toList_none, List.append_nil]
  cases session.diagnostics? uri text with
  | none => simpa using Reaches.refl _
  | some diagnostics =>
    exact reaches_publishing session waiting front back published ⟨uri, diagnostics, version⟩

/-- A handler can go on to its end while the others wait. -/
theorem reaches_reply (handler : Handler) :
    Reaches ⟨session, waiting, front ++ handler :: back, published⟩
      ⟨session, waiting, front ++ back, published ++ (handler.reply? session).toList⟩ := by
  cases handler with
  | reading uri version =>
    refine Step.work.reaches ?_
    rw [Handler.advance, Handler.reply?, Handler.publication?, Option.toList_none, List.append_nil,
      EditorSession.publish?]
    cases session.text? uri with
    | none => simpa using Reaches.refl _
    | some text =>
      have rest := reaches_analyzing session waiting front back published uri version text
      rw [Handler.reply?] at rest
      cases diagnostics : session.diagnostics? uri text <;> simpa [diagnostics] using rest
  | analyzing uri version text =>
    exact reaches_analyzing session waiting front back published uri version text
  | publishing publication =>
    exact reaches_publishing session waiting front back published publication

/-- Some handlers can go on to their ends while the others wait. -/
theorem reaches_replies (handlers : List Handler) :
    Reaches ⟨session, waiting, front ++ (handlers ++ back), published⟩
      ⟨session, waiting, front ++ back,
        published ++ handlers.filterMap (Handler.reply? session)⟩ := by
  induction handlers generalizing published with
  | nil => simpa using Reaches.refl _
  | cons handler handlers ih =>
    refine (reaches_reply session waiting front (handlers ++ back) published handler).trans ?_
    have rest := ih (published ++ (handler.reply? session).toList)
    cases reply : handler.reply? session <;> simpa [reply] using rest

theorem reaches_taken (notifications later : List Notification) (running : List Handler) :
    Reaches ⟨session, notifications ++ later, running, published⟩
      ⟨notifications.foldl EditorSession.update session, later,
        (notifications.filterMap Notification.handler?).reverse ++ running, published⟩ := by
  induction notifications generalizing session running with
  | nil => exact .refl _
  | cons notification notifications ih =>
    refine (Step.first session notification (notifications ++ later) running published).reaches ?_
    have rest := ih (session.update notification) (notification.handler?.toList ++ running)
    cases handler : notification.handler? <;> simpa [handler] using rest

theorem reply?_handler? (notification : Notification) :
    notification.handler?.bind (Handler.reply? session) = session.reply? notification := by
  cases notification with
  | opened uri version text =>
    rw [Notification.handler?, EditorSession.reply?]
    split <;> rfl
  | changed uri version texts =>
    rw [Notification.handler?, EditorSession.reply?]
    split <;> rfl
  | saved uri text =>
    rw [Notification.handler?, EditorSession.reply?]
    split <;> rfl
  | closed uri => rfl

end Runs

end Exchange

end CSurvey
