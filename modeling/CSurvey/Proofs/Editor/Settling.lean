import CSurvey.Proofs.Editor.Sequence

/-!
# What an editor is told in the end

When nothing is left to do, an editor should have been told the diagnostics of the
text that it holds of a document, and none for a document that it has closed.  A
handler publishes what it has analyzed without looking at the texts again, so each
text that the editor ever sent can be what the last publication is about.
-/

namespace CSurvey

namespace Handler

/-- Whether a handler that is not interrupted publishes something about a document. -/
def Tells (session : EditorSession) (uri : String) : Handler → Prop
  | .reading other _ => other = uri ∧ session.text? uri ≠ none
  | .analyzing other _ _ => other = uri
  | .publishing publication => publication.uri = uri

/-- What a handler has in hand about a document has these diagnostics. -/
def Shows (session : EditorSession) (uri : String) (diagnostics : List Diagnostic) :
    Handler → Prop
  | .reading _ _ => True
  | .analyzing other _ text => other = uri → session.diagnostics? uri text = some diagnostics
  | .publishing publication => publication.uri = uri → publication.diagnostics = diagnostics

/-- One step of a handler brings it nearer to publishing. -/
theorem Tells.advance {session : EditorSession} {uri : String} {handler : Handler}
    (analyzed : ∀ text, ∃ diagnostics, session.diagnostics? uri text = some diagnostics)
    (tells : handler.Tells session uri) :
    (∃ next, handler.advance session = some next ∧ next.Tells session uri) ∨
      ∃ publication, handler.publication? = some publication ∧ publication.uri = uri := by
  cases handler with
  | reading other version =>
    obtain ⟨rfl, kept⟩ := tells
    obtain ⟨text, kept⟩ := Option.ne_none_iff_exists'.1 kept
    exact Or.inl ⟨.analyzing other version text,
      by rw [Handler.advance, kept, Option.map_some], rfl⟩
  | analyzing other version text =>
    obtain rfl : other = uri := tells
    obtain ⟨diagnostics, result⟩ := analyzed text
    exact Or.inl ⟨.publishing ⟨other, diagnostics, version⟩,
      by rw [Handler.advance, result, Option.map_some], rfl⟩
  | publishing publication => exact Or.inr ⟨publication, rfl, tells⟩

theorem Shows.advance {session current : EditorSession} {uri : String}
    {diagnostics : List Diagnostic} {handler next : Handler}
    (analyzer : current.analyzer = session.analyzer)
    (kept : ∀ text, current.text? uri = some text →
      session.diagnostics? uri text = some diagnostics)
    (showing : handler.Shows session uri diagnostics)
    (advances : handler.advance current = some next) :
    next.Shows session uri diagnostics := by
  cases handler with
  | reading other version =>
    obtain ⟨text, found, rfl⟩ := Option.map_eq_some_iff.1 advances
    rintro rfl
    exact kept text found
  | analyzing other version text =>
    obtain ⟨result, analyzed, rfl⟩ := Option.map_eq_some_iff.1 advances
    rintro rfl
    rw [EditorSession.diagnostics?_congr analyzer, showing rfl] at analyzed
    exact (Option.some.inj analyzed).symm
  | publishing => cases advances

end Handler

theorem Notification.shows_handler? {session : EditorSession} {uri : String}
    {diagnostics : List Diagnostic} (notification : Notification)
    (said : ∀ shown, notification.shows? session uri = some shown → shown = diagnostics)
    (handler : Handler) (begins : notification.handler? = some handler) :
    handler.Shows session uri diagnostics := by
  cases notification with
  | closed other =>
    obtain rfl := Option.some.inj begins
    intro here
    have closes : (closed other).closes uri = true := beq_iff_eq.2 here
    exact said [] (if_pos closes)
  | opened other version text =>
    rw [handler?, Option.ite_none_right_eq_some] at begins
    obtain rfl := Option.some.inj begins.2
    exact True.intro
  | changed other version texts =>
    rw [handler?, Option.ite_none_right_eq_some] at begins
    obtain rfl := Option.some.inj begins.2
    exact True.intro
  | saved other text =>
    rw [handler?, Option.ite_none_right_eq_some] at begins
    obtain rfl := Option.some.inj begins.2
    exact True.intro

namespace Exchange

section Told

variable {first second : Exchange} {uri : String}

/-- Something about a document is published, or will be. -/
inductive Told (uri : String) (exchange : Exchange) : Prop
  | published (publication : Publication) (member : publication ∈ exchange.published)
      (here : publication.uri = uri)
  | running (handler : Handler) (member : handler ∈ exchange.running)
      (tells : handler.Tells exchange.session uri)
  | waiting (notification : Notification) (member : notification ∈ exchange.waiting)
      (here : notification.opens uri = true ∨ notification.closes uri = true)

theorem Told.step (looked : EditorSession.isC uri = true)
    (analyzed : ∀ text, ∃ diagnostics, first.session.diagnostics? uri text = some diagnostics)
    (step : Step first second) (told : Told uri first) : Told uri second := by
  cases step with
  | @take session front back notification running published _ =>
    cases closes : notification.closes uri with
    | true =>
      -- The handler of the notification publishes by itself.
      refine .running (.publishing ⟨uri, [], none⟩) (List.mem_append_left _ ?_) rfl
      rw [Notification.handler?_of_closes closes]
      exact List.mem_singleton_self _
    | false =>
      cases told with
      | published publication member here => exact .published publication member here
      | running handler member tells =>
        refine .running handler (List.mem_append_right _ member) ?_
        cases handler with
        | reading other version =>
          refine ⟨tells.1, ?_⟩
          rw [EditorSession.text?_update looked, if_neg (by simp [closes])]
          cases notification.brings? uri with
          | none => exact tells.2
          | some text => exact Option.some_ne_none text
        | analyzing | publishing => exact tells
      | waiting other member here =>
        rcases List.mem_append.1 member with early | inLater
        · exact .waiting other (List.mem_append_left _ early) here
        rcases List.mem_cons.1 inLater with rfl | late
        · have opens := here.resolve_right (by simp [closes])
          obtain ⟨text, brings, -⟩ := Notification.exists_brings_of_opens opens
          obtain ⟨version, handler⟩ := Notification.handler?_of_brings looked brings
          refine .running (.reading uri version) (List.mem_append_left _ ?_) ⟨rfl, ?_⟩
          · rw [handler]
            exact List.mem_singleton_self _
          · rw [EditorSession.text?_update_of_brings looked session brings]
            exact Option.some_ne_none text
        · exact .waiting other (List.mem_append_right _ late) here
  | @work session waiting front back handler published =>
    cases told with
    | published publication member here =>
      exact .published publication (List.mem_append_left _ member) here
    | running other member tells =>
      rcases List.mem_append.1 member with early | here
      · exact .running other (List.mem_append_left _ early) tells
      rcases List.mem_cons.1 here with rfl | late
      · rcases tells.advance analyzed with ⟨next, advances, tells⟩ | ⟨publication, publishes, here⟩
        · refine .running next (List.mem_append_right _ (List.mem_append_left _ ?_)) tells
          rw [advances]
          exact List.mem_singleton_self _
        · refine .published publication (List.mem_append_right _ ?_) here
          rw [publishes]
          exact List.mem_singleton_self _
      · exact .running other (List.mem_append_right _ (List.mem_append_right _ late)) tells
    | waiting notification member here => exact .waiting notification member here

end Told

/-- Whatever is still to be said of a document has these diagnostics. -/
structure Agrees (session : EditorSession) (uri : String) (diagnostics : List Diagnostic)
    (exchange : Exchange) : Prop where
  analyzer : exchange.session.analyzer = session.analyzer
  waiting : ∀ notification ∈ exchange.waiting, ∀ shown,
    notification.shows? session uri = some shown → shown = diagnostics
  kept : ∀ text, exchange.session.text? uri = some text →
    session.diagnostics? uri text = some diagnostics
  running : ∀ handler ∈ exchange.running, handler.Shows session uri diagnostics
  published : ∀ publication ∈ exchange.published, publication.uri = uri →
    publication.diagnostics = diagnostics

theorem Agrees.step {session : EditorSession} {uri : String} {diagnostics : List Diagnostic}
    {first second : Exchange} (looked : EditorSession.isC uri = true)
    (analyzed : ∀ text, ∃ shown, session.diagnostics? uri text = some shown)
    (step : Step first second) (agrees : Agrees session uri diagnostics first) :
    Agrees session uri diagnostics second := by
  cases step with
  | @take current front back notification running published _ =>
    have said := agrees.waiting notification (by simp)
    constructor
    · exact (current.analyzer_update notification).trans agrees.analyzer
    · intro other member
      refine agrees.waiting other ?_
      rcases List.mem_append.1 member with early | late
      · exact List.mem_append_left _ early
      · exact List.mem_append_right _ (List.mem_cons_of_mem _ late)
    · intro text found
      cases closes : notification.closes uri with
      | true =>
        rw [EditorSession.text?_update_of_closes looked current closes] at found
        cases found
      | false =>
        cases brings : notification.brings? uri with
        | none =>
          rw [EditorSession.text?_update looked, if_neg (by simp [closes]), brings,
            Option.none_or] at found
          exact agrees.kept text found
        | some brought =>
          rw [EditorSession.text?_update_of_brings looked current brings] at found
          obtain rfl := Option.some.inj found
          obtain ⟨shown, result⟩ := analyzed brought
          rw [result, said shown (by simp [Notification.shows?, closes, brings, result])]
    · intro handler member
      rcases List.mem_append.1 member with new | old
      · exact notification.shows_handler? said handler (Option.mem_toList.1 new)
      · exact agrees.running handler old
    · exact agrees.published
  | @work current waiting front back handler published =>
    have showing := agrees.running handler (by simp)
    refine ⟨agrees.analyzer, agrees.waiting, agrees.kept, ?_, ?_⟩
    · intro other member
      rcases List.mem_append.1 member with early | rest
      · exact agrees.running other (List.mem_append_left _ early)
      rcases List.mem_append.1 rest with next | late
      · exact showing.advance agrees.analyzer agrees.kept (Option.mem_toList.1 next)
      · exact agrees.running other (List.mem_append_right _ (List.mem_cons_of_mem _ late))
    · intro publication member here
      rcases List.mem_append.1 member with old | new
      · exact agrees.published publication old here
      · cases handler with
        | publishing other =>
          obtain rfl : publication = other := List.mem_singleton.1 new
          exact showing here
        | reading | analyzing => cases new

theorem Step.analyzer {first second : Exchange} (step : Step first second) :
    second.session.analyzer = first.session.analyzer := by
  cases step with
  | take => exact EditorSession.analyzer_update ..
  | work => rfl

section Runs

variable {session : EditorSession} {uri : String} {diagnostics : List Diagnostic}
  {first final : Exchange} (looked : EditorSession.isC uri = true)
include looked

theorem Reaches.told
    (analyzed : ∀ text, ∃ diagnostics, first.session.diagnostics? uri text = some diagnostics)
    (run : Reaches first final) (told : Told uri first) : Told uri final := by
  induction run using Relation.ReflTransGen.head_induction_on with
  | refl => exact told
  | head step _ ih =>
    refine ih (fun text => ?_) (told.step looked analyzed step)
    rw [EditorSession.diagnostics?_congr step.analyzer]
    exact analyzed text

theorem Reaches.agrees
    (analyzed : ∀ text, ∃ shown, session.diagnostics? uri text = some shown)
    (run : Reaches first final) (agrees : Agrees session uri diagnostics first) :
    Agrees session uri diagnostics final := by
  induction run with
  | refl => exact agrees
  | tail _ step ih => exact ih.step looked analyzed step

end Runs

/-- However the handlers are interrupted, the editor is told the diagnostics of each text that a
notification brought, if these are all the same. -/
theorem Agrees.showsDue {session : EditorSession} {uri : String} {diagnostics : List Diagnostic}
    {notifications : List Notification} {final : Exchange}
    (agrees : Agrees session uri diagnostics final) (settled : final.Settled)
    (due : session.due? uri notifications = some diagnostics)
    (told : (∃ notification ∈ notifications,
      notification.opens uri = true ∨ notification.closes uri = true) → Told uri final) :
    ShowsDue session uri notifications final.published := by
  cases shown : lastShown? uri final.published with
  | some found =>
    obtain ⟨publication, member, here, rfl⟩ := lastShown?_eq_some shown
    refine Or.inl ?_
    rw [shown, due, agrees.published publication member here]
  | none =>
    refine Or.inr ⟨shown, fun notification member => ?_⟩
    by_contra touches
    have here : notification.opens uri = true ∨ notification.closes uri = true := by
      rw [not_and_or, Bool.not_eq_false, Bool.not_eq_false] at touches
      exact touches
    cases told ⟨notification, member, here⟩ with
    | published publication member here => exact lastShown?_eq_none.1 shown publication member here
    | running handler member tells => rw [settled.2] at member; cases member
    | waiting other member => rw [settled.1] at member; cases member

/-- A handler can get as far as to have analyzed its text before anything else happens. -/
theorem exists_ready {session current : EditorSession} {uri : String}
    (looked : EditorSession.isC uri = true) (analyzer : current.analyzer = session.analyzer)
    {notification : Notification} {diagnostics : List Diagnostic}
    (shown : notification.shows? session uri = some diagnostics) (waiting : List Notification)
    (handlers : List Handler) (published : List Publication) :
    ∃ publication : Publication, publication.uri = uri ∧ publication.diagnostics = diagnostics ∧
      Reaches
        ⟨current.update notification, waiting, notification.handler?.toList ++ handlers, published⟩
        ⟨current.update notification, waiting, .publishing publication :: handlers, published⟩ := by
  cases closes : notification.closes uri with
  | true =>
    rw [Notification.shows?, if_pos closes] at shown
    obtain rfl := Option.some.inj shown
    rw [Notification.handler?_of_closes closes]
    exact ⟨⟨uri, [], none⟩, rfl, rfl, .refl _⟩
  | false =>
    rw [Notification.shows?, if_neg (by simp [closes])] at shown
    obtain ⟨text, brings, result⟩ := Option.bind_eq_some_iff.1 shown
    obtain ⟨version, handler⟩ := Notification.handler?_of_brings looked brings
    rw [handler]
    have kept := EditorSession.text?_update_of_brings looked current brings
    have same := (current.analyzer_update notification).trans analyzer
    rw [← EditorSession.diagnostics?_congr same] at result
    have read := @Step.work (current.update notification) waiting [] handlers
      (.reading uri version) published
    have analyze := @Step.work (current.update notification) waiting [] handlers
      (.analyzing uri version text) published
    simp only [Handler.advance, Handler.publication?, kept, result, Option.map_some,
      Option.toList_some, Option.toList_none, List.nil_append, List.singleton_append,
      List.append_nil] at read analyze
    exact ⟨⟨uri, diagnostics, version⟩, rfl, rfl, read.reaches (analyze.reaches (.refl _))⟩

theorem analyzer_foldl_update (session : EditorSession) (notifications : List Notification) :
    (notifications.foldl EditorSession.update session).analyzer = session.analyzer := by
  induction notifications generalizing session with
  | nil => rfl
  | cons notification notifications ih =>
    exact (ih _).trans (session.analyzer_update notification)

theorem exists_settled_of_shows {session : EditorSession} {uri : String}
    (looked : EditorSession.isC uri = true) {notifications : List Notification}
    {notification : Notification} (member : notification ∈ notifications)
    {diagnostics : List Diagnostic}
    (shown : notification.shows? session uri = some diagnostics) :
    ∃ final, Reaches (start session notifications) final ∧ final.Settled ∧
      lastShown? uri final.published = some diagnostics := by
  obtain ⟨front, back, rfl⟩ := List.append_of_mem member
  have early := reaches_taken session [] front (notification :: back) []
  rw [List.append_nil] at early
  have analyzer := analyzer_foldl_update session front
  generalize front.foldl EditorSession.update session = current at early analyzer
  generalize (front.filterMap Notification.handler?).reverse = handlers at early
  obtain ⟨publication, here, rfl, ready⟩ := exists_ready looked analyzer shown back handlers []
  have later := reaches_taken (current.update notification) [] back []
    (.publishing publication :: handlers)
  rw [List.append_nil] at later
  generalize back.foldl EditorSession.update (current.update notification) = last at later
  generalize (back.filterMap Notification.handler?).reverse = others at later
  have rest := reaches_replies last [] [] (.publishing publication :: handlers) [] others
  have finish := reaches_replies last [] [.publishing publication] []
    ([] ++ others.filterMap (Handler.reply? last)) handlers
  have publish := reaches_publishing last [] [] []
    ([] ++ others.filterMap (Handler.reply? last) ++ handlers.filterMap (Handler.reply? last))
    publication
  rw [List.append_nil] at finish
  refine ⟨_, early.trans ((Step.first current notification back handlers []).reaches
    (ready.trans (later.trans (rest.trans (finish.trans publish))))), ⟨rfl, rfl⟩, ?_⟩
  rw [lastShown?_append_singleton, if_pos here]

section Ends

variable {session : EditorSession} {uri : String}
  (looked : EditorSession.isC uri = true) (empty : session.text? uri = none)
  (analyzed : ∀ text, ∃ diagnostics, session.diagnostics? uri text = some diagnostics)
include looked empty analyzed

/-- All orders of the handlers end well exactly if each notification could come last. -/
theorem ends_iff {notifications : List Notification} :
    (∀ final, Reaches (start session notifications) final → final.Settled →
      ShowsDue session uri notifications final.published) ↔
      ∀ notification ∈ notifications, ∀ diagnostics,
        notification.shows? session uri = some diagnostics →
          session.due? uri notifications = some diagnostics := by
  constructor
  · intro ends notification member diagnostics shown
    obtain ⟨final, run, settled, last⟩ := exists_settled_of_shows looked member shown
    rcases ends final run settled with isDue | ⟨nothing, -⟩
    · exact isDue.symm.trans last
    · cases nothing.symm.trans last
  · intro agree final run settled
    obtain ⟨diagnostics, due⟩ : ∃ diagnostics,
        session.due? uri notifications = some diagnostics := by
      rw [EditorSession.due?]
      cases heldText? uri notifications with
      | none => exact ⟨[], rfl⟩
      | some text => exact analyzed text
    have begins : Agrees session uri diagnostics (start session notifications) :=
      { analyzer := rfl
        waiting := fun notification member shown isShown =>
          Option.some.inj ((agree notification member shown isShown).symm.trans due)
        kept := fun text isKept => absurd (empty.symm.trans isKept) (Option.some_ne_none text).symm
        running := fun handler member => absurd member List.not_mem_nil
        published := fun publication member => absurd member List.not_mem_nil }
    refine (run.agrees looked analyzed begins).showsDue settled due ?_
    rintro ⟨notification, member, here⟩
    exact run.told looked analyzed (.waiting notification member here)

end Ends

end Exchange

/-- An editor is told the right diagnostics in the end, in whatever order the handlers are
interrupted, exactly if each text that it sends has those diagnostics, and if these are none in case
it closes the document.  If no handler is interrupted, and texts come only of open documents, it is
always told the right ones. -/
theorem exchange_ends_iff (disk : Disk) (root : Option String) {uri : String}
    (looked : EditorSession.isC uri = true) (notifications : List Notification) :
    let session := EditorSession.start disk root
    ((∀ final, Exchange.Reaches (.start session notifications) final → final.Settled →
        ShowsDue session uri notifications final.published) ↔
      ∀ notification ∈ notifications, ∀ diagnostics,
        notification.shows? session uri = some diagnostics →
          session.due? uri notifications = some diagnostics) ∧
      (BroughtOpen uri notifications →
        ShowsDue session uri notifications (session.handleAll notifications).2) := by
  intro session
  have analyzed := EditorSession.exists_diagnostics disk root uri
  exact ⟨Exchange.ends_iff looked rfl analyzed,
    EditorSession.showsDue_handleAll looked rfl analyzed⟩

/-- Two texts without findings, and then the document is closed. -/
theorem exchange_ends_iff_nothing_found :
    let uri := "file:///w/a.c"
    let session := EditorSession.start .empty none
    let notifications : List Notification :=
      [.opened uri 1 "int a;\n", .changed uri 2 ["int a;\n", "int ab;\n"], .closed uri]
    EditorSession.isC uri = true ∧
      ∀ final, Exchange.Reaches (.start session notifications) final → final.Settled →
        ShowsDue session uri notifications final.published := by
  intro uri session notifications
  have looked : EditorSession.isC uri = true := by decide +kernel
  have all : ∀ notification ∈ notifications,
      notification.shows? session uri = session.due? uri notifications := by decide +kernel
  refine ⟨looked, (exchange_ends_iff .empty none looked notifications).1.2 ?_⟩
  intro notification member diagnostics shown
  rw [← all notification member, shown]

/-- A call of `gets` is taken out of an open document, and the handler that has analyzed the text
with it publishes last.  A document that is saved after it has been closed is analyzed and published
again, even if nothing is interrupted. -/
theorem exchange_ends_wrong :
    let uri := "file:///w/a.c"
    let session := EditorSession.start .empty none
    let risky := "void f(char *s) \x7b gets(s); \x7d\n"
    let edited : List Notification := [.opened uri 1 risky, .changed uri 2 ["int a;\n"]]
    let reopened : List Notification :=
      [.opened uri 1 "int a;\n", .closed uri, .saved uri (some risky)]
    (∃ final, Exchange.Reaches (.start session edited) final ∧ final.Settled ∧
      ¬ ShowsDue session uri edited final.published) ∧
      ¬ ShowsDue session uri reopened (session.handleAll reopened).2 := by
  intro uri session risky edited reopened
  have looked : EditorSession.isC uri = true := by decide +kernel
  constructor
  · obtain ⟨diagnostics, result⟩ := EditorSession.exists_diagnostics .empty none uri risky
    have different : session.diagnostics? uri risky ≠ session.due? uri edited := by decide +kernel
    have shown : (Notification.opened uri 1 risky).shows? session uri = some diagnostics := result
    obtain ⟨final, run, settled, last⟩ :=
      Exchange.exists_settled_of_shows looked (List.mem_cons_self ..) shown
    refine ⟨final, run, settled, ?_⟩
    rintro (isDue | ⟨nothing, -⟩)
    · exact different (result.trans (last.symm.trans isDue))
    · cases nothing.symm.trans last
  · have last : lastShown? uri (session.handleAll reopened).2 ≠ session.due? uri reopened ∧
        lastShown? uri (session.handleAll reopened).2 ≠ none := by decide +kernel
    rintro (isDue | ⟨nothing, -⟩)
    · exact last.1 isDue
    · exact last.2 nothing

end CSurvey
