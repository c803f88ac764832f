import CSurvey.Engine.Dispatch
import CSurvey.Pattern.Parse
import CSurvey.Proofs.Engine.Overflow
import Mathlib.Data.List.ReduceOption

/-!
# What calls leave in the history

A call of an engine can fail before an operation is found, before its parameters
are read, or in the operation itself.  It leaves one entry then, as when it succeeds,
and a run of calls leaves the entries of the latest of them.  Only a call in which
counts add up to more than a word can hold leaves none.
-/

namespace CSurvey

namespace History

theorem lastOf_of_length_le {α : Type} {count : Nat} {items : List α}
    (few : items.length ≤ count) : lastOf count items = items := by
  rw [lastOf, Nat.sub_eq_zero_of_le few, List.drop_zero]

/-- What comes before the latest items bears on nothing that follows. -/
theorem lastOf_append_lastOf {α : Type} (count : Nat) (front back : List α) :
    lastOf count (lastOf count front ++ back) = lastOf count (front ++ back) := by
  rcases Nat.le_total front.length count with few | many
  · rw [lastOf_of_length_le few]
  · have kept : (lastOf count front).length = count := by
      rw [length_lastOf, Nat.min_eq_left many]
    have passed : (front ++ back).length - count =
        (front.length - count) + ((lastOf count front ++ back).length - count) := by
      rw [List.length_append, List.length_append, kept]
      omega
    have inside : front.length - count ≤ front.length := Nat.sub_le _ _
    conv => rhs; rw [lastOf, passed, ← List.drop_drop, List.drop_append_of_le_length inside]
    rfl

theorem lastOf_lastOf {α : Type} (few many : Nat) (items : List α) :
    lastOf few (lastOf many items) = lastOf (min few many) items := by
  rw [lastOf, length_lastOf, lastOf, lastOf, List.drop_drop]
  congr 1
  omega

end History

namespace Engine

/-- A call of an engine by a word, with the time and the files there are then. -/
structure Call where
  disk : Disk
  time : String
  word : String
  params : Json

namespace Call

/-- The operation that a call is recorded under: the one that it names, or its own word when it
names none. -/
def recordedAs (call : Call) : String :=
  match Operation.parse call.word with
  | .ok operation => operation.name
  | .error _ => call.word

theorem recordedAs_of_parse {call : Call} {operation : Operation}
    (names : Operation.parse call.word = .ok operation) : call.recordedAs = operation.name := by
  delta recordedAs
  rw [names]

theorem recordedAs_of_unknown {call : Call} {fault : Fault}
    (names : Operation.parse call.word = .error fault) : call.recordedAs = call.word := by
  delta recordedAs
  rw [names]

def request (libraries : Libraries) (call : Call) : Except Fault Request := do
  let operation ← Operation.parse call.word
  match Request.ofJson? operation (parameters call.params) with
  | some request => .ok request
  | none =>
    let reason := libraries.reason operation (parameters call.params)
    .error (.argument (.invalidParameters operation.name reason))

/-- The entry about what came of a call, if there is one. -/
def entry? (call : Call) : Except Fault Response → Option HistoryEntry
  | .error .overflow => none
  | outcome => some ⟨call.time, call.recordedAs, outcomeLine outcome⟩

variable {call : Call}

theorem entry?_eq_none_iff {outcome : Except Fault Response} :
    call.entry? outcome = none ↔ outcome = .error .overflow := by
  unfold entry?
  split <;> simp_all

theorem entry?_of_addsUp {outcome : Except Fault Response} (adds : AddsUp outcome) :
    call.entry? outcome = some ⟨call.time, call.recordedAs, outcomeLine outcome⟩ := by
  unfold entry?
  split
  · exact absurd rfl adds
  · rfl

theorem eq_of_entry?_eq_some {outcome : Except Fault Response} {entry : HistoryEntry}
    (made : call.entry? outcome = some entry) :
    entry = ⟨call.time, call.recordedAs, outcomeLine outcome⟩ := by
  have adds : AddsUp outcome := fun overflows => by
    rw [entry?_eq_none_iff.2 overflows] at made
    cases made
  rw [entry?_of_addsUp adds] at made
  exact (Option.some.inj made).symm

theorem addsUp_parse (word : String) : AddsUp (Operation.parse word) := by
  rw [Operation.parse]
  split
  · exact addsUp_ok _
  · exact addsUp_argument _

theorem addsUp_request (libraries : Libraries) (call : Call) :
    AddsUp (call.request libraries) := by
  refine (addsUp_parse call.word).bind fun operation => ?_
  split
  · exact addsUp_ok _
  · exact addsUp_argument _

end Call

/-- What comes of a call, before the answer is written. -/
def respond (engine : Engine) (history : History) (call : Call) : Except Fault Response := do
  engine.run call.disk history (← call.request engine.libraries)

/-- The request of a call overflows. -/
def CallOverflows (engine : Engine) (call : Call) : Prop :=
  ∃ request, call.request engine.libraries = .ok request ∧ engine.Overflows call.disk request

theorem respond_eq_overflow_iff {engine : Engine} {history : History} {call : Call} :
    engine.respond history call = .error .overflow ↔ engine.CallOverflows call := by
  rw [respond, (call.addsUp_request engine.libraries).bind_eq_overflow_iff]
  simp only [run_eq_overflow_iff, CallOverflows]

theorem operation_of_ofJson? {operation : Operation} {params : Json} {request : Request}
    (read : Request.ofJson? operation params = some request) : request.operation = operation := by
  cases operation <;>
    · obtain ⟨_, -, rfl⟩ := Option.map_eq_some_iff.1 read
      rfl

/-- What is performed is recorded if there is an entry about it. -/
theorem perform_eq (engine : Engine) (history : History) (call : Call) (request : Request)
    (named : call.recordedAs = request.operation.name) :
    engine.perform call.disk history call.time request =
      (engine.run call.disk history request,
        (call.entry? (engine.run call.disk history request)).elim history history.push) := by
  rw [perform]
  split
  · rename_i overflows
    rw [overflows]
    rfl
  · rename_i adds
    rw [Call.entry?_of_addsUp adds, named]
    rfl

theorem dispatch_eq (engine : Engine) (history : History) (call : Call) :
    engine.dispatch call.disk history call.time call.word call.params =
      ((engine.respond history call).map Response.answer,
        (call.entry? (engine.respond history call)).elim history history.push) := by
  cases names : Operation.parse call.word with
  | error fault =>
    have adds := Call.addsUp_parse call.word
    rw [names] at adds
    have responds : engine.respond history call = .error fault := by
      simp only [respond, Call.request, names, bind, Except.bind]
    have adds : AddsUp (.error fault : Except Fault Response) := by simpa [AddsUp] using adds
    rw [responds, Call.entry?_of_addsUp adds, Call.recordedAs_of_unknown names]
    delta dispatch
    rw [names]
    rfl
  | ok operation =>
    have recordedAs := Call.recordedAs_of_parse names
    cases read : Request.ofJson? operation (parameters call.params) with
    | none =>
      have responds : engine.respond history call = .error (.argument (.invalidParameters
          operation.name (engine.libraries.reason operation (parameters call.params)))) := by
        simp only [respond, Call.request, names, read, bind, Except.bind]
      rw [responds, Call.entry?_of_addsUp (addsUp_argument _), recordedAs]
      delta dispatch
      simp only [names, read]
      rfl
    | some request =>
      have responds : engine.respond history call = engine.run call.disk history request := by
        simp only [respond, Call.request, names, read, bind, Except.bind]
      have own := recordedAs.trans (congrArg Operation.name (operation_of_ofJson? read).symm)
      rw [responds]
      delta dispatch
      simp only [names, read, engine.perform_eq history call request own]

/-- The outcomes of some calls, one after the other, and the history that they leave. -/
def dispatchAll (engine : Engine) (history : History) :
    List Call → List (Except Fault Json) × History
  | [] => ([], history)
  | call :: rest =>
    let (outcome, next) := engine.dispatch call.disk history call.time call.word call.params
    let (outcomes, last) := dispatchAll engine next rest
    (outcome :: outcomes, last)

def historyAfter (engine : Engine) (entries : List HistoryEntry) : History :=
  ⟨engine.settings.analysis.historyCapacity,
    History.lastOf engine.settings.analysis.historyCapacity entries⟩

theorem push_historyAfter (engine : Engine) (entries : List HistoryEntry) (entry : HistoryEntry) :
    (engine.historyAfter entries).push entry = engine.historyAfter (entries ++ [entry]) := by
  simp only [History.push, historyAfter, History.lastOf_append_lastOf]

/-- The entry, if there is one, of a call that comes after the entries `earlier`. -/
def entryOf? (engine : Engine) (earlier : List HistoryEntry) (call : Call) :
    Option HistoryEntry :=
  call.entry? (engine.respond (engine.historyAfter earlier) call)

/-- The entries of some calls that come after the entries `earlier`. -/
def entriesOf (engine : Engine) (earlier : List HistoryEntry) :
    List Call → List (Option HistoryEntry)
  | [] => []
  | call :: rest =>
    let entry := engine.entryOf? earlier call
    entry :: engine.entriesOf (earlier ++ entry.toList) rest

theorem dispatchAll_cons (engine : Engine) (earlier : List HistoryEntry) (call : Call)
    (rest : List Call) :
    let later := engine.historyAfter (earlier ++ (engine.entryOf? earlier call).toList)
    engine.dispatchAll (engine.historyAfter earlier) (call :: rest) =
      ((engine.respond (engine.historyAfter earlier) call).map Response.answer ::
          (engine.dispatchAll later rest).1,
        (engine.dispatchAll later rest).2) := by
  have recorded : (engine.entryOf? earlier call).elim (engine.historyAfter earlier)
      (engine.historyAfter earlier).push =
        engine.historyAfter (earlier ++ (engine.entryOf? earlier call).toList) := by
    cases engine.entryOf? earlier call with
    | none => exact congrArg engine.historyAfter (List.append_nil earlier).symm
    | some entry => exact engine.push_historyAfter earlier entry
  rw [dispatchAll, dispatch_eq, ← entryOf?, recorded]

/-- A run of calls leaves their entries, as far as there is room. -/
theorem dispatchAll_history (engine : Engine) (earlier : List HistoryEntry) (calls : List Call) :
    (engine.dispatchAll (engine.historyAfter earlier) calls).2 =
      engine.historyAfter (earlier ++ (engine.entriesOf earlier calls).reduceOption) := by
  induction calls generalizing earlier with
  | nil => rw [entriesOf, List.reduceOption_nil, List.append_nil, dispatchAll]
  | cons call rest ih =>
    rw [dispatchAll_cons, ih, entriesOf, List.append_assoc]
    cases engine.entryOf? earlier call <;> rfl

theorem entriesOf_take (engine : Engine) (earlier : List HistoryEntry) (calls : List Call)
    (count : Nat) :
    engine.entriesOf earlier (calls.take count) = (engine.entriesOf earlier calls).take count := by
  induction calls generalizing earlier count with
  | nil => simp [entriesOf]
  | cons call rest ih =>
    cases count with
    | zero => rfl
    | succ count => simp only [List.take_succ_cons, entriesOf, ih]

theorem length_entriesOf (engine : Engine) (earlier : List HistoryEntry) (calls : List Call) :
    (engine.entriesOf earlier calls).length = calls.length := by
  induction calls generalizing earlier with
  | nil => rfl
  | cons call rest ih => rw [entriesOf, List.length_cons, ih, List.length_cons]

/-- The outcome and the entry of the call at a place of a run. -/
theorem dispatchAll_getElem? (engine : Engine) (earlier : List HistoryEntry) {calls : List Call}
    {index : Nat} {call : Call} (here : calls[index]? = some call) :
    let before := earlier ++ ((engine.entriesOf earlier calls).take index).reduceOption
    (engine.dispatchAll (engine.historyAfter earlier) calls).1[index]? =
        some ((engine.respond (engine.historyAfter before) call).map Response.answer) ∧
      (engine.entriesOf earlier calls)[index]? = some (engine.entryOf? before call) := by
  induction calls generalizing earlier index with
  | nil => simp at here
  | cons first rest ih =>
    rw [dispatchAll_cons, entriesOf]
    cases index with
    | zero =>
      obtain rfl : first = call := by simpa using here
      simp
    | succ index =>
      have later := ih (earlier ++ (engine.entryOf? earlier first).toList) here
      have front (entries : List (Option HistoryEntry)) :
          (engine.entryOf? earlier first).toList ++ entries.reduceOption =
            (engine.entryOf? earlier first :: entries).reduceOption := by
        cases engine.entryOf? earlier first <;> rfl
      rw [List.append_assoc, front] at later
      simpa using later

/-- An entry says of a call that comes after the entries `earlier` what there is to say. -/
structure Records (engine : Engine) (earlier : List HistoryEntry) (call : Call)
    (outcome : Except Fault Json) (entry : HistoryEntry) : Prop where
  timed : entry.timestamp = call.time
  named : ∀ operation, Operation.parse call.word = .ok operation → entry.operation = operation.name
  unknown : ∀ fault, Operation.parse call.word = .error fault → entry.operation = call.word
  /-- Parameters that cannot be read are refused for the reason that the library gives. -/
  unread : ∀ operation, Operation.parse call.word = .ok operation →
    Request.ofJson? operation (parameters call.params) = none →
      outcome = .error (.argument (.invalidParameters operation.name
        (engine.libraries.reason operation (parameters call.params))))
  failed : ∀ fault, outcome = .error fault → entry.summary = "failed: " ++ fault.message
  /-- The answer and the line are those of one response to the request that was made. -/
  succeeded : ∀ answer, outcome = .ok answer → ∃ request response,
    call.request engine.libraries = .ok request ∧
      engine.run call.disk (engine.historyAfter earlier) request = .ok response ∧
      answer = response.answer ∧ entry.summary = response.summary
  /-- Recommendations come with the latest entries, at most five of them. -/
  recent : ∀ answer, outcome = .ok answer → Operation.parse call.word = .ok .recommend →
    answer.field? "recent" = some (.list HistoryEntry.toJson
      (History.lastOf (min 5 engine.settings.analysis.historyCapacity) earlier))

theorem exists_of_respond {engine : Engine} {history : History} {call : Call}
    {response : Response} (responds : engine.respond history call = .ok response) :
    ∃ request, call.request engine.libraries = .ok request ∧
      engine.run call.disk history request = .ok response := by
  unfold respond at responds
  cases made : call.request engine.libraries with
  | error fault => simp [made, bind, Except.bind] at responds
  | ok request => exact ⟨request, rfl, by simpa [made, bind, Except.bind] using responds⟩

theorem exists_of_request {libraries : Libraries} {call : Call} {operation : Operation}
    {request : Request} (names : Operation.parse call.word = .ok operation)
    (made : call.request libraries = .ok request) :
    Request.ofJson? operation (parameters call.params) = some request := by
  simp only [Call.request, names, bind, Except.bind] at made
  cases read : Request.ofJson? operation (parameters call.params) with
  | none => simp [read] at made
  | some other => simpa [read] using made

theorem records_of_entryOf? {engine : Engine} {earlier : List HistoryEntry} {call : Call}
    {entry : HistoryEntry} (made : engine.entryOf? earlier call = some entry) :
    engine.Records earlier call
      ((engine.respond (engine.historyAfter earlier) call).map Response.answer) entry := by
  obtain rfl := Call.eq_of_entry?_eq_some made
  constructor
  case timed => rfl
  case named =>
    intro operation names
    rw [Call.recordedAs_of_parse names]
  case unknown =>
    intro fault names
    rw [Call.recordedAs_of_unknown names]
  case unread =>
    intro operation names unread
    simp only [respond, Call.request, names, unread, bind, Except.bind, Except.map]
  case failed =>
    intro fault fails
    cases responds : engine.respond (engine.historyAfter earlier) call with
    | ok response => simp [responds, Except.map] at fails
    | error other =>
      obtain rfl : other = fault := by simpa [responds, Except.map] using fails
      simp only [outcomeLine, failureLine]
      rfl
  case succeeded =>
    intro answer succeeds
    cases responds : engine.respond (engine.historyAfter earlier) call with
    | error fault => simp [responds, Except.map] at succeeds
    | ok response =>
      obtain ⟨request, made, runs⟩ := exists_of_respond responds
      refine ⟨request, response, made, runs, ?_, ?_⟩
      · simpa [responds, Except.map] using succeeds.symm
      · simp only [outcomeLine]
  case recent =>
    intro answer succeeds names
    cases responds : engine.respond (engine.historyAfter earlier) call with
    | error fault => simp [responds, Except.map] at succeeds
    | ok response =>
      obtain ⟨request, made, runs⟩ := exists_of_respond responds
      obtain ⟨question, -, rfl⟩ := Option.map_eq_some_iff.1 (exists_of_request names made)
      obtain rfl := Except.ok.inj runs
      obtain rfl : Response.answer _ = answer := by simpa [responds, Except.map] using succeeds
      rw [← History.lastOf_lastOf]
      rfl

end Engine

/-- Settings are valid if no limit is zero and the chart kind and all rules are known. -/
theorem Settings.validate_eq_ok_iff {settings : Settings} :
    settings.validate = .ok () ↔
      (∀ limit ∈ settings.analysis.limits, limit.2 ≠ 0) ∧
      (∃ kind, settings.chartKind = .ok kind) ∧ ∃ table, settings.riskTable = .ok table := by
  have noZero : settings.analysis.limits.find? (fun limit => limit.2 == 0) = none ↔
      ∀ limit ∈ settings.analysis.limits, limit.2 ≠ 0 := by simp
  rw [← noZero, validate]
  cases settings.analysis.limits.find? (fun limit => limit.2 == 0) with
  | some limit => simp [throw, throwThe, MonadExceptOf.throw, bind, Except.bind]
  | none =>
    cases settings.chartKind <;> cases settings.riskTable <;>
      simp [bind, Except.bind, pure, Except.pure]

namespace Settings

theorem chartKind_standard : standard.chartKind = .ok .flow := by rfl

theorem riskTable_standard : standard.riskTable = .ok RiskTable.builtin := by rfl

/-- The settings that hold when none are given are valid. -/
theorem validate_standard : standard.validate = .ok () :=
  validate_eq_ok_iff.2 ⟨by decide, ⟨_, chartKind_standard⟩, _, riskTable_standard⟩

end Settings

/-- Libraries that read patterns as `Pattern.compiler` does and refuse parameters for one reason. -/
def Libraries.refusing (reason : String) : Libraries :=
  ⟨Pattern.compiler, fun _ _ => reason⟩

namespace Engine

/-- Valid settings make an engine, which has room in its history and in its chunks. -/
theorem exists_ofSettings (libraries : Libraries) {settings : Settings}
    (valid : settings.validate = .ok ()) :
    ∃ engine, ofSettings libraries settings = .ok engine ∧ engine.settings = settings ∧
      1 ≤ settings.analysis.historyCapacity ∧ 1 ≤ engine.analyzer.maxChunkSize := by
  obtain ⟨positive, ⟨kind, kinds⟩, table, tables⟩ := Settings.validate_eq_ok_iff.1 valid
  refine ⟨⟨libraries, settings, ⟨settings.analysis.maxChunkSize, table, settings.thresholds⟩, kind⟩,
    ?_, rfl, ?_, ?_⟩
  · simp [ofSettings, Settings.analyzer, valid, kinds, tables, bind, Except.bind, pure,
      Except.pure]
  · have room := positive ("history_capacity", settings.analysis.historyCapacity)
      (by simp [AnalysisSettings.limits])
    exact Nat.pos_of_ne_zero room
  · have room := positive ("max_chunk_size", settings.analysis.maxChunkSize)
      (by simp [AnalysisSettings.limits])
    exact Nat.pos_of_ne_zero room

/-- With valid settings, every call leaves one entry, which says which operation it was and what
came of it, unless its request overflows: then it leaves none.  After any number of calls the
history holds the latest entries, as many as it has room for, and recommendations come with the
latest five of what it held before. -/
theorem dispatchAll_records (libraries : Libraries) {settings : Settings}
    (valid : settings.validate = .ok ()) :
    ∃ engine, ofSettings libraries settings = .ok engine ∧ ∀ calls : List Call,
      ∃ entries : List (Option HistoryEntry), entries.length = calls.length ∧
        (∀ count, (engine.dispatchAll engine.freshHistory (calls.take count)).2.entries =
          History.lastOf settings.analysis.historyCapacity (entries.take count).reduceOption) ∧
        ∀ index call, calls[index]? = some call → ∃ outcome entry,
          (engine.dispatchAll engine.freshHistory calls).1[index]? = some outcome ∧
          entries[index]? = some entry ∧
          (entry = none ↔ engine.CallOverflows call) ∧
          (outcome = .error .overflow ↔ engine.CallOverflows call) ∧
          ∀ made, entry = some made →
            engine.Records (entries.take index).reduceOption call outcome made := by
  obtain ⟨engine, made, own, room, -⟩ := exists_ofSettings libraries valid
  have fresh : engine.freshHistory = engine.historyAfter [] := by
    rw [freshHistory, historyAfter, own, History.empty, Nat.max_eq_right room,
      History.lastOf_of_length_le (Nat.zero_le _)]
  refine ⟨engine, made, fun calls => ⟨engine.entriesOf [] calls, engine.length_entriesOf [] calls,
    fun count => ?_, fun index call here => ?_⟩⟩
  · rw [fresh, dispatchAll_history, entriesOf_take, ← own]
    rfl
  · obtain ⟨outcome, entry⟩ := engine.dispatchAll_getElem? [] here
    rw [List.nil_append] at outcome entry
    refine ⟨_, _, ?_, entry, ?_, ?_, fun _ => records_of_entryOf?⟩
    · rw [fresh, outcome]
    · exact Call.entry?_eq_none_iff.trans respond_eq_overflow_iff
    · exact (map_eq_overflow_iff _).trans respond_eq_overflow_iff

/-- A word that names nothing, a call without a source, a drawing of nothing, and a question, with
room for two entries. -/
theorem dispatchAll_records_room_for_two :
    let libraries := Libraries.refusing "missing field `graph`"
    let settings : Settings :=
      { Settings.standard with
        analysis := { AnalysisSettings.standard with historyCapacity := 2 } }
    let calls : List Call :=
      [⟨Disk.empty, "12:00", "explode", .null⟩, ⟨Disk.empty, "12:01", "security-audit", .null⟩,
        ⟨Disk.empty, "12:02", "visualize", .null⟩, ⟨Disk.empty, "12:03", "recommend", .null⟩]
    settings.validate = .ok () ∧
      ∃ engine, ofSettings libraries settings = .ok engine ∧
        (engine.dispatchAll engine.freshHistory calls).2.entries =
          [⟨"12:02", "render_diagram", "failed: Invalid argument: " ++
              "invalid parameters for render_diagram: missing field `graph`"⟩,
            ⟨"12:03", "recommend", "top: chunk"⟩] ∧
        ∃ entries : List (Option HistoryEntry), entries.length = 4 ∧
          (engine.dispatchAll engine.freshHistory calls).2.entries =
            History.lastOf 2 entries.reduceOption := by
  intro libraries settings calls
  have valid : settings.validate = .ok () :=
    Settings.validate_eq_ok_iff.2
      ⟨by decide, ⟨_, Settings.chartKind_standard⟩, _, Settings.riskTable_standard⟩
  obtain ⟨engine, made, runs⟩ := dispatchAll_records libraries valid
  obtain ⟨entries, length, history, -⟩ := runs calls
  have computed : (ofSettings libraries settings).toOption.map (fun engine =>
      (engine.dispatchAll engine.freshHistory calls).2.entries) =
        some [⟨"12:02", "render_diagram", "failed: Invalid argument: " ++
              "invalid parameters for render_diagram: missing field `graph`"⟩,
            ⟨"12:03", "recommend", "top: chunk"⟩] := by decide +kernel
  rw [made] at computed
  refine ⟨valid, engine, made, Option.some.inj computed, entries, length, ?_⟩
  have whole := history 4
  rwa [List.take_of_length_le (Nat.le_of_eq length : entries.length ≤ 4)] at whole

/-- A drawing of two edges with half as many calls each as a word can tell apart leaves no
entry. -/
theorem dispatchAll_leaves_no_entry :
    let libraries := Libraries.refusing "missing field `graph`"
    let edge : Json :=
      .obj [("from", .str "a"), ("to", .str "b"), ("count", .nat (wordSize / 2))]
    let call : Call := ⟨Disk.empty, "12:00", "render_diagram",
      .obj [("graph", .obj [("nodes", .arr []), ("edges", .arr [edge, edge])])]⟩
    Settings.standard.validate = .ok () ∧
      ∃ engine, ofSettings libraries Settings.standard = .ok engine ∧ engine.CallOverflows call ∧
        (engine.dispatchAll engine.freshHistory [call]).1.length = 1 ∧
        (engine.dispatchAll engine.freshHistory [call]).2.entries = [] := by
  intro libraries edge call
  have valid := Settings.validate_standard
  obtain ⟨engine, made, own, -⟩ := exists_ofSettings libraries valid
  let input : GraphInput := ⟨[], [⟨"a", "b", wordSize / 2⟩, ⟨"a", "b", wordSize / 2⟩]⟩
  have read : Request.ofJson? .renderDiagram call.params =
      some (.renderDiagram ⟨input, none, none, false, false⟩) := by
    rfl
  have request : call.request engine.libraries =
      .ok (.renderDiagram ⟨input, none, none, false, false⟩) := by
    have names : Operation.parse call.word = .ok .renderDiagram := by decide +kernel
    have params : parameters call.params = call.params := rfl
    simp only [Call.request, names, params, read, bind, Except.bind]
  have large (kind : ChartKind) : ∃ count ∈ (Diagram.draw input kind
      Settings.standard.analysis.maxNodes).counts, wordSize ≤ count := by
    cases kind <;> decide +kernel
  have overflows : engine.CallOverflows call := by
    refine ⟨_, request, engine.chartKind, rfl, ?_⟩
    rw [maxNodesOf, own]
    exact ⟨by decide, large engine.chartKind⟩
  have answered := engine.dispatch_eq engine.freshHistory call
  rw [respond_eq_overflow_iff.2 overflows] at answered
  refine ⟨valid, engine, made, overflows, ?_, ?_⟩
  · rw [dispatchAll, answered]
    rfl
  · rw [dispatchAll, answered]
    rfl

end Engine

end CSurvey
