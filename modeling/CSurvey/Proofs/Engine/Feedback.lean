import CSurvey.Proofs.Analysis.Words
import CSurvey.Proofs.CallGraph.Order
import CSurvey.Proofs.Engine.Record

/-!
# Answers as parameters

The chunks that an engine answers with, and the functions in them, can be given
back to it as parameters.  It reads them as they were, and builds from them the
graph that it would build from the text; the functions can come in any order.
-/

namespace CSurvey

/-- The items of an array. -/
def Json.items : Json → List Json
  | .arr items => items
  | _ => []

namespace Engine

/-- An engine answers an operation with given parameters in one way, whatever has been done before,
whatever files there are and at any time. -/
def Answers (engine : Engine) (operation : Operation) (fields : List (String × Json))
    (answer : Json) : Prop :=
  ∀ disk history time,
    (engine.dispatch disk history time operation.name (.obj fields)).1 = .ok answer

theorem parse_name (operation : Operation) : Operation.parse operation.name = .ok operation := by
  cases operation <;> rfl

theorem dispatch_of_read {engine : Engine} {operation : Operation} {fields : List (String × Json)}
    {request : Request} (read : Request.ofJson? operation (.obj fields) = some request)
    (disk : Disk) (history : History) (time : String) :
    (engine.dispatch disk history time operation.name (.obj fields)).1 =
      (engine.run disk history request).map Response.answer := by
  have made : Call.request engine.libraries ⟨disk, time, operation.name, .obj fields⟩ =
      .ok request := by
    simp only [Call.request, parse_name, parameters, read, bind, Except.bind]
  have answered := congrArg Prod.fst
    (engine.dispatch_eq history ⟨disk, time, operation.name, .obj fields⟩)
  refine answered.trans ?_
  simp only [respond, made, bind, Except.bind]

theorem answers_of_run {engine : Engine} {operation : Operation} {fields : List (String × Json)}
    {request : Request} {response : Response}
    (read : Request.ofJson? operation (.obj fields) = some request)
    (runs : ∀ disk history, engine.run disk history request = .ok response) :
    engine.Answers operation fields response.answer := by
  intro disk history time
  rw [dispatch_of_read read, runs]
  rfl

section Pieces

variable (source : SourceInfo) (limit : Nat) (chunks : List Chunk)

theorem chunks_answer :
    (Response.chunk ⟨source, limit, chunks⟩).answer.fieldD "chunks" = .list Chunk.toJson chunks :=
  rfl

theorem functions_answer :
    ((Response.chunk ⟨source, limit, chunks⟩).answer.fieldD "chunks").items.flatMap
        (fun chunk => (chunk.fieldD "functions").items) =
      (chunks.flatMap Chunk.functions).map FunctionRecord.toJson := by
  rw [chunks_answer, Json.list, Json.items, List.flatMap_map, List.map_flatMap]
  rfl

end Pieces

section Texts

variable {engine : Engine} {text : String} {chunks : List Chunk}
  (cut : chunkSource ⟨Source.memoryName, text⟩ (scan text) engine.analyzer.maxChunkSize =
    .ok chunks)
include cut

theorem answers_chunk_text :
    engine.Answers .chunk [("text", .str text)]
      (Response.chunk ⟨Source.info ⟨Source.memoryName, text⟩, engine.analyzer.maxChunkSize,
        chunks⟩).answer := by
  refine answers_of_run (chunkRequest_text text) (fun disk history => ?_)
  simp only [run, chunk, chunkLimit, SourceInput.load, Option.getD_none, bind, Except.bind, cut]
  rfl

theorem answers_dependencies_text
    (addsUp : (CallGraph.ofChunks chunks).checked = .ok (CallGraph.ofChunks chunks)) :
    engine.Answers .analyzeDependencies [("text", .str text)]
      (Response.analyzeDependencies (CallGraph.ofChunks chunks)).answer := by
  refine answers_of_run (dependencyRequest_text text) (fun disk history => ?_)
  simp only [run, analyzeDependencies, SourceInput.load, Option.getD_none, bind, Except.bind, cut,
    addsUp]
  rfl

end Texts

section Given

variable {engine : Engine} {chunks : List Chunk} (inWords : ∀ chunk ∈ chunks, chunk.InWords)
  (addsUp : (CallGraph.ofChunks chunks).checked = .ok (CallGraph.ofChunks chunks))
include inWords addsUp

theorem answers_dependencies_chunks :
    engine.Answers .analyzeDependencies [("chunks", .list Chunk.toJson chunks)]
      (Response.analyzeDependencies (CallGraph.ofChunks chunks)).answer :=
  answers_of_run (dependencyRequest_chunks inWords) (fun _ _ =>
    congrArg (Except.map Response.analyzeDependencies) addsUp)

/-- Functions are read in any order, and lead to the graph that they have in that order. -/
theorem answers_dependencies_functions
    (stable : ∀ records : List FunctionRecord, records.Perm (chunks.flatMap Chunk.functions) →
      CallGraph.build records = CallGraph.ofChunks chunks)
    {functions : List Json}
    (same : functions.Perm ((chunks.flatMap Chunk.functions).map FunctionRecord.toJson)) :
    engine.Answers .analyzeDependencies [("functions", .arr functions)]
      (Response.analyzeDependencies (CallGraph.ofChunks chunks)).answer := by
  obtain ⟨records, rfl, permuted⟩ :=
    (congrFun₂ (List.eq_map_comp_perm FunctionRecord.toJson) functions _).mpr same
  have fits : ∀ record ∈ records, record.InWords := by
    intro record member
    obtain ⟨chunk, inChunks, inChunk⟩ := List.mem_flatMap.1 (permuted.subset member)
    exact (inWords chunk inChunks).functions record inChunk
  have built : (CallGraph.build records).checked = .ok (CallGraph.ofChunks chunks) := by
    rw [stable records permuted, addsUp]
  exact answers_of_run (dependencyRequest_functions fits) (fun _ _ =>
    congrArg (Except.map Response.analyzeDependencies) built)

end Given

/-- With valid settings, the chunks that an engine answers with for a text lead to the same graph
as the text when they are given back to it, and so do their functions in any order. -/
theorem analyzeDependencies_of_answer (libraries : Libraries) {settings : Settings}
    (valid : settings.validate = .ok ()) (text : String)
    (fits : Text.byteLength text.toList < wordSize) :
    ∃ engine, ofSettings libraries settings = .ok engine ∧ ∃ chunked graph,
      engine.Answers .chunk [("text", .str text)] chunked ∧
      engine.Answers .analyzeDependencies [("text", .str text)] graph ∧
      engine.Answers .analyzeDependencies [("chunks", chunked.fieldD "chunks")] graph ∧
      ∀ functions : List Json,
        functions.Perm ((chunked.fieldD "chunks").items.flatMap
          (fun chunk => (chunk.fieldD "functions").items)) →
        engine.Answers .analyzeDependencies [("functions", .arr functions)] graph := by
  obtain ⟨engine, made, -, -, positive⟩ := exists_ofSettings libraries valid
  have cut := chunkSource_eq ⟨Source.memoryName, text⟩ (scan text) positive
  have inWords : ∀ chunk ∈ Chunk.ofSource ⟨Source.memoryName, text⟩ (scan text)
      engine.analyzer.maxChunkSize, chunk.InWords :=
    fun chunk member => Chunk.inWords_of_mem member fits
  have addsUp := CallGraph.checked_build_of_fits (recordedCalls_lt rfl fits :
    CallGraph.recordedCalls ((Chunk.ofSource ⟨Source.memoryName, text⟩ (scan text)
      engine.analyzer.maxChunkSize).flatMap Chunk.functions) < wordSize)
  refine ⟨engine, made, _, _, answers_chunk_text cut, answers_dependencies_text cut addsUp, ?_, ?_⟩
  · rw [chunks_answer]
    exact answers_dependencies_chunks inWords addsUp
  · intro functions same
    rw [functions_answer] at same
    exact answers_dependencies_functions inWords addsUp
      (fun records permuted => CallGraph.build_perm_of_source _ _ permuted) same

/-- Two definitions of one name, both called, with their functions given back from last to first. -/
theorem analyzeDependencies_of_answer_backwards :
    let text := "int g(int n) \x7b return n; \x7d\nint f(void) \x7b return g(2); \x7d\n" ++
      "long g(long n) \x7b return g(n - 1); \x7d\n"
    let libraries := Libraries.refusing "no reason"
    Settings.standard.validate = .ok () ∧ Text.byteLength text.toList < wordSize ∧
      ∃ engine, ofSettings libraries Settings.standard = .ok engine ∧
        ∃ graph, ∃ functions : List Json,
        engine.Answers .analyzeDependencies [("text", .str text)] graph ∧
        engine.Answers .analyzeDependencies [("functions", .arr functions)] graph ∧
        functions.map (fun function => (function.fieldD "signature").str?) =
          [some "long g(long n)", some "int f(void)", some "int g(int n)"] := by
  intro text libraries
  have fits : Text.byteLength text.toList < wordSize := by decide +kernel
  obtain ⟨engine, made, chunked, graph, chunk, whole, -, feeds⟩ :=
    analyzeDependencies_of_answer libraries Settings.validate_standard text fits
  have computed : ((ofSettings libraries Settings.standard).toOption.bind (fun engine =>
      (engine.dispatch Disk.empty engine.freshHistory "12:00" "chunk"
        (.obj [("text", .str text)])).1.toOption)).map (fun chunked =>
          ((chunked.fieldD "chunks").items.flatMap (fun chunk =>
            (chunk.fieldD "functions").items)).reverse.map (fun function =>
              (function.fieldD "signature").str?)) =
      some [some "long g(long n)", some "int f(void)", some "int g(int n)"] := by
    decide +kernel
  have answered : (engine.dispatch Disk.empty engine.freshHistory "12:00" "chunk"
      (.obj [("text", .str text)])).1 = .ok chunked := chunk _ _ _
  simp only [made, Except.toOption, Option.bind_some, answered, Option.map_some] at computed
  exact ⟨Settings.validate_standard, fits, engine, made, graph, _, whole,
    feeds _ (List.reverse_perm _), Option.some.inj computed⟩

end Engine

end CSurvey
