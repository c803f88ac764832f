import CSurvey.Proofs.Editor.Schedule
import CSurvey.Proofs.Editor.Session
import Mathlib.Data.List.Induction

/-!
# Handling notifications one after the other

If no handler is interrupted by another, and texts come only of open documents, the
text that is kept is the one that the editor holds, and what it is told is always
about that text.
-/

namespace CSurvey

namespace EditorSession

/-- The session and all that is published when notifications are handled one after the other. -/
def handleAll (session : EditorSession) (notifications : List Notification) :
    EditorSession × List Publication :=
  notifications.foldl (fun state notification =>
    ((state.1.step notification).1, state.2 ++ (state.1.step notification).2.toList)) (session, [])

theorem handleAll_concat (session : EditorSession) (notifications : List Notification)
    (notification : Notification) :
    session.handleAll (notifications ++ [notification]) =
      (((session.handleAll notifications).1.step notification).1,
        (session.handleAll notifications).2 ++
          ((session.handleAll notifications).1.step notification).2.toList) := by
  rw [handleAll, List.foldl_append]
  rfl

theorem analyzer_handleAll (session : EditorSession) (notifications : List Notification) :
    (session.handleAll notifications).1.analyzer = session.analyzer := by
  induction notifications using List.reverseRecOn with
  | nil => rfl
  | append_singleton notifications notification ih =>
    rw [handleAll_concat]
    exact (analyzer_update ..).trans ih

end EditorSession

/-- Texts come only of a document while it is open. -/
def BroughtOpen (uri : String) (notifications : List Notification) : Prop :=
  ∀ front notification back, notifications = front ++ notification :: back →
    notification.opens uri = false → notification.brings? uri ≠ none → heldText? uri front ≠ none

theorem BroughtOpen.front {uri : String} {front back : List Notification}
    (brought : BroughtOpen uri (front ++ back)) : BroughtOpen uri front := by
  rintro first notification rest rfl
  exact brought first notification (rest ++ back) (by simp)

namespace EditorSession

theorem publish?_shows {session : EditorSession} {uri : String} {version : Option Int}
    {publication : Publication} (publishes : session.publish? uri version = some publication) :
    publication.uri = uri ∧ ∃ text, session.text? publication.uri = some text ∧
      session.diagnostics? publication.uri text = some publication.diagnostics := by
  simp only [publish?, bind, Option.bind_eq_some_iff, pure, Option.some.injEq] at publishes
  obtain ⟨text, kept, diagnostics, analyzed, rfl⟩ := publishes
  exact ⟨rfl, text, kept, analyzed⟩

/-- A reply is about a document that is closed, or it is about the text that is kept. -/
theorem reply?_shows {session : EditorSession} {notification : Notification}
    {publication : Publication} (replies : session.reply? notification = some publication) :
    (notification.closes publication.uri = true ∧ publication.diagnostics = []) ∨
      ∃ text, session.text? publication.uri = some text ∧
        session.diagnostics? publication.uri text = some publication.diagnostics := by
  cases notification with
  | opened | changed | saved =>
    rw [reply?, Option.ite_none_right_eq_some] at replies
    exact Or.inr (publish?_shows replies.2).2
  | closed uri =>
    obtain rfl := Option.some.inj replies
    exact Or.inl ⟨beq_self_eq_true uri, rfl⟩

theorem reply?_of_closes {session : EditorSession} {notification : Notification} {uri : String}
    (closes : notification.closes uri = true) :
    session.reply? notification = some ⟨uri, [], none⟩ := by
  rw [← Exchange.reply?_handler?, Notification.handler?_of_closes closes]
  rfl

/-- There is a reply about a document of which a text is brought, if it can be analyzed. -/
theorem exists_reply?_of_brings {session : EditorSession} {notification : Notification}
    {uri text : String} (looked : isC uri = true) {diagnostics : List Diagnostic}
    (brings : notification.brings? uri = some text) (kept : session.text? uri = some text)
    (analyzed : session.diagnostics? uri text = some diagnostics) :
    ∃ publication, session.reply? notification = some publication ∧ publication.uri = uri := by
  obtain ⟨version, handler⟩ := Notification.handler?_of_brings looked brings
  refine ⟨⟨uri, diagnostics, version⟩, ?_, rfl⟩
  rw [← Exchange.reply?_handler?, handler]
  simp [Handler.reply?, publish?, kept, analyzed]

/-- What is due stays shown when one more notification is handled. -/
theorem showsDue_concat {session next : EditorSession} {uri : String} (looked : isC uri = true)
    (analyzed : ∀ text, ∃ diagnostics, session.diagnostics? uri text = some diagnostics)
    (same : next.analyzer = session.analyzer) {notifications : List Notification}
    {notification : Notification}
    (kept : next.text? uri = heldText? uri (notifications ++ [notification]))
    (stored : ∀ text, notification.brings? uri = some text → next.text? uri = some text)
    {published : List Publication} (before : ShowsDue session uri notifications published) :
    ShowsDue session uri (notifications ++ [notification])
      (published ++ (next.reply? notification).toList) := by
  by_cases about : ∃ publication, next.reply? notification = some publication ∧
      publication.uri = uri
  · obtain ⟨publication, replies, rfl⟩ := about
    refine Or.inl ?_
    rw [replies, Option.toList_some, lastShown?_append_singleton, if_pos rfl, due?]
    rcases reply?_shows replies with ⟨closes, diagnostics⟩ | ⟨text, isKept, diagnostics⟩
    · rw [heldText?_concat, Notification.hold, if_pos closes, diagnostics]
    · rw [diagnostics?_congr same] at diagnostics
      rw [← kept, isKept]
      exact diagnostics.symm
  · -- Then the notification neither closes the document nor brings a text of it.
    have closes : notification.closes uri = false := by
      by_contra closes
      exact about ⟨_, reply?_of_closes (Bool.not_eq_false _ ▸ closes), rfl⟩
    have brings : notification.brings? uri = none := by
      by_contra brings
      obtain ⟨text, brings⟩ := Option.ne_none_iff_exists'.1 brings
      obtain ⟨diagnostics, result⟩ := analyzed text
      rw [← diagnostics?_congr same] at result
      exact about (exists_reply?_of_brings looked brings (stored text brings) result)
    have opens : notification.opens uri = false := by
      by_contra opens
      obtain ⟨text, found, -⟩ :=
        Notification.exists_brings_of_opens (Bool.not_eq_false _ ▸ opens)
      cases brings.symm.trans found
    have held : heldText? uri (notifications ++ [notification]) = heldText? uri notifications := by
      simp [heldText?_concat, Notification.hold, closes, opens, brings]
    have shown : lastShown? uri (published ++ (next.reply? notification).toList) =
        lastShown? uri published := by
      cases replies : next.reply? notification with
      | none => simp
      | some publication =>
        rw [Option.toList_some, lastShown?_append_singleton,
          if_neg (fun here => about ⟨publication, replies, here⟩)]
    rcases before with isDue | ⟨nothing, untouched⟩
    · exact Or.inl (by rw [shown, due?, held, isDue, due?])
    · refine Or.inr ⟨shown.trans nothing, fun other member => ?_⟩
      rcases List.mem_append.1 member with earlier | last
      · exact untouched other earlier
      · rw [List.mem_singleton.1 last]
        exact ⟨opens, closes⟩

section Sequential

variable {session : EditorSession} {uri : String} (looked : isC uri = true)
  (empty : session.text? uri = none)
  (analyzed : ∀ text, ∃ diagnostics, session.diagnostics? uri text = some diagnostics)
include looked empty

/-- If texts come only of open documents, what is kept is what the editor holds. -/
theorem text?_handleAll {notifications : List Notification}
    (brought : BroughtOpen uri notifications) :
    (session.handleAll notifications).1.text? uri = heldText? uri notifications := by
  induction notifications using List.reverseRecOn with
  | nil => exact empty
  | append_singleton notifications notification ih =>
    rw [handleAll_concat, heldText?_concat]
    have kept := text?_update looked (session.handleAll notifications).1 notification
    rw [ih brought.front] at kept
    refine kept.trans ?_
    have opened := brought notifications notification [] (by simp)
    rw [Notification.hold]
    cases closes : notification.closes uri with
    | true => rfl
    | false =>
      cases opens : notification.opens uri with
      | true =>
        obtain ⟨text, brings, -⟩ := Notification.exists_brings_of_opens opens
        simp [brings]
      | false =>
        cases brings : notification.brings? uri with
        | none => simp
        | some text =>
          obtain ⟨held, isOpen⟩ := Option.ne_none_iff_exists'.1 (opened opens (by simp [brings]))
          simp [isOpen]

include analyzed

theorem showsDue_handleAll {notifications : List Notification}
    (brought : BroughtOpen uri notifications) :
    ShowsDue session uri notifications (session.handleAll notifications).2 := by
  induction notifications using List.reverseRecOn with
  | nil => exact Or.inr ⟨rfl, by simp⟩
  | append_singleton notifications notification ih =>
    have kept := text?_handleAll looked empty brought
    have same := analyzer_handleAll session (notifications ++ [notification])
    rw [handleAll_concat] at kept same ⊢
    exact showsDue_concat looked analyzed same kept
      (fun text brings => text?_update_of_brings looked _ brings) (ih brought.front)

end Sequential

end EditorSession

end CSurvey
