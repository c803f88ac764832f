import CSurvey.CommandLine.Run
import CSurvey.Pattern.Parse
import CSurvey.Proofs.Text.Utf8

/-!
# What the commands read

Most commands load their file, which repairs a text that is ill formed.  The commands
about one function read theirs without repairing it, so they agree with the others on
a file if and only if it is well formed, and fail on every other one.
-/

namespace CSurvey

open Text (Utf8.WellFormed Utf8.encode Utf8.decode?)

namespace Disk

variable {disk : Disk} {path text : String} {octets : List UInt8}

def holding (disk : Disk) (path text : String) : Disk where
  read other := if other = path then .ok (Utf8.encode text.toList) else disk.read other
  list := disk.list
  writable := disk.writable

theorem load_of_read (stored : disk.read path = .ok octets) :
    disk.load path = .ok (Source.ofOctets path octets) := by
  rw [load, stored]

theorem load_holding (disk : Disk) (path text : String) :
    (disk.holding path text).load path = .ok ⟨path, text⟩ := by
  have stored : (disk.holding path text).read path = .ok (Utf8.encode text.toList) := if_pos rfl
  rw [load_of_read stored, Source.ofOctets, Text.Utf8.decodeLossy_encode, String.ofList_toList]

theorem readText_of_wellFormed (stored : disk.read path = .ok octets)
    (valid : Utf8.WellFormed octets) :
    disk.readText path = .ok (Source.ofOctets path octets).text := by
  obtain ⟨cs, rfl⟩ := Text.Utf8.wellFormed_iff.1 valid
  rw [readText, stored]
  dsimp only
  rw [Text.Utf8.decode?_eq_some_iff.2 rfl, Source.ofOctets, Text.Utf8.decodeLossy_encode]

theorem readText_of_not_wellFormed (stored : disk.read path = .ok octets)
    (ill : ¬ Utf8.WellFormed octets) : ∃ fault, disk.readText path = .error fault := by
  have undecoded : Utf8.decode? octets = none := by
    rw [← Option.not_isSome_iff_eq_none, Text.Utf8.isSome_decode?_iff]
    exact ill
  rw [readText, stored]
  dsimp only
  rw [undecoded]
  exact ⟨_, rfl⟩

end Disk

namespace Engine

/-! An operation sees of a disk only the source that it loads. -/

variable {one other : Disk} (engine : Engine)

theorem chunk_congr {request : ChunkRequest}
    (loads : request.source.load one = request.source.load other) :
    engine.chunk one request = engine.chunk other request := by
  rw [chunk, chunk, loads]

theorem analyzeDependencies_congr {request : DependencyRequest}
    (loads : request.source.load one = request.source.load other) :
    engine.analyzeDependencies one request = engine.analyzeDependencies other request := by
  rw [analyzeDependencies, analyzeDependencies, loads]

theorem search_congr {request : SearchRequest}
    (loads : request.source.load one = request.source.load other) :
    engine.search one request = engine.search other request := by
  rw [search, search, loads]

theorem analyze_congr {input : SourceInput} (loads : input.load one = input.load other) :
    engine.analyze one input = engine.analyze other input := by
  rw [analyze, analyze, loads]

theorem audit_congr {input : SourceInput} (loads : input.load one = input.load other) :
    engine.audit one input = engine.audit other input := by
  rw [audit, audit, engine.analyze_congr loads]

theorem report_congr {request : ReportRequest}
    (loads : request.source.load one = request.source.load other) :
    engine.report one request = engine.report other request := by
  rw [report, report, engine.analyze_congr loads]

end Engine

namespace CommandLine

/-- What a command about one function shows for a text. -/
def Command.ofFunction? (engine : Engine) (json : Bool) (text : String) :
    Command → Option Outcome
  | .function _ name =>
    let analysis := engine.analyzeFunction ⟨text, name⟩
    some (shown json analysis.toJson (functionText analysis))
  | .refactor _ name =>
    let advice := (engine.analyzeFunction ⟨text, name⟩).advice
    some (shown json advice.toJson (adviceText advice))
  | _ => none

section Execute

variable {engine : Engine} {disk one other : Disk} {json : Bool} {command : Command}
  {file text : String} {outcome : Outcome}

theorem writeOrPrint_congr (writable : one.writable = other.writable) (output : Option String) :
    writeOrPrint one output text = writeOrPrint other output text := by
  unfold writeOrPrint
  rw [writable]

theorem execute_congr (reads : command.file? = some file)
    (loads : one.load file = other.load file) (writable : one.writable = other.writable)
    (whole : command.ofFunction? engine json text = none) :
    execute engine one json command = execute engine other json command := by
  have loads : (SourceInput.ofPath file).load one = (SourceInput.ofPath file).load other := loads
  cases command with
  | function | refactor => cases whole
  | recommend | scan => cases reads
  | chunk =>
    cases reads
    rw [execute, execute, engine.chunk_congr loads]
  | deps =>
    cases reads
    rw [execute, execute, engine.analyzeDependencies_congr loads]
  | search =>
    cases reads
    rw [execute, execute, engine.search_congr loads]
  | diagram =>
    cases reads
    rw [execute, execute, runDiagram, runDiagram, engine.analyzeDependencies_congr loads]
    simp only [writeOrPrint_congr writable]
  | audit =>
    cases reads
    rw [execute, execute, engine.audit_congr loads]
  | report =>
    cases reads
    rw [execute, execute, runReport, runReport, engine.report_congr loads]
    simp only [writeOrPrint_congr writable]

theorem execute_of_readText (reads : command.file? = some file)
    (read : disk.readText file = .ok text)
    (function : command.ofFunction? engine json text = some outcome) :
    execute engine disk json command = .ok outcome := by
  cases command <;> cases function <;> cases reads <;>
    rw [execute, functionRequest, read] <;> rfl

theorem execute_of_not_readText {fault : Fault} (reads : command.file? = some file)
    (unread : disk.readText file = .error fault)
    (function : command.ofFunction? engine json text = some outcome) :
    execute engine disk json command = .error s!"Failed to read {file}" := by
  cases command <;> cases function <;> cases reads <;>
    rw [execute, functionRequest, unread] <;> rfl

end Execute

/-- Every command gives the result for the text that is loaded from its file, except that those
about one function do so if and only if the file is well formed, and fail if it is not. -/
theorem execute_reads_loaded_iff (engine : Engine) (disk : Disk) (json : Bool) (command : Command)
    {file : String} {octets : List UInt8} (reads : command.file? = some file)
    (stored : disk.read file = .ok octets) :
    ∃ source, disk.load file = .ok source ∧
      (∀ outcome, command.ofFunction? engine json source.text = some outcome →
        (execute engine disk json command = .ok outcome ↔ Utf8.WellFormed octets) ∧
        (¬ Utf8.WellFormed octets →
          execute engine disk json command = .error s!"Failed to read {file}")) ∧
      (command.ofFunction? engine json source.text = none →
        execute engine disk json command =
          execute engine (disk.holding file source.text) json command) := by
  refine ⟨_, disk.load_of_read stored, ?_, ?_⟩
  · intro outcome function
    have fails : ¬ Utf8.WellFormed octets →
        execute engine disk json command = .error s!"Failed to read {file}" := by
      intro ill
      obtain ⟨fault, unread⟩ := Disk.readText_of_not_wellFormed stored ill
      exact execute_of_not_readText reads unread function
    refine ⟨⟨?_, ?_⟩, fails⟩
    · intro done
      by_contra ill
      rw [fails ill] at done
      cases done
    · intro valid
      exact execute_of_readText reads (Disk.readText_of_wellFormed stored valid) function
  · intro whole
    refine execute_congr reads ?_ rfl whole
    rw [Disk.load_holding, disk.load_of_read stored]
    rfl

/-- A file with an octet that belongs to no character, and one that is well formed. -/
theorem execute_reads_loaded_iff_stray_octet :
    let libraries : Libraries := ⟨Pattern.compiler, fun _ _ => "no reason"⟩
    let engine : Engine :=
      ⟨libraries, Settings.standard, ⟨1, RiskTable.builtin, Thresholds.standard⟩, .flow⟩
    let octets := Utf8.encode "int f() \x7b g(\"".toList ++ [0xFF] ++
      Utf8.encode "\"); \x7d".toList
    let text := "int f() \x7b g(\"\uFFFD\"); \x7d"
    let disk := (FileTree.ofPaths [("a.c", octets), ("b.c", Utf8.encode text.toList)]).disk
    let shown := Outcome.printed "f (lines 1-1)\n  complexity: low (cyclomatic 1)\n  calls: g\n"
    disk.read "a.c" = .ok octets ∧ disk.read "b.c" = .ok (Utf8.encode text.toList) ∧
      execute engine disk false (.function "a.c" none) = .error "Failed to read a.c" ∧
      execute engine disk false (.function "b.c" none) = .ok shown ∧
      execute engine disk false (.chunk "a.c" none) =
        execute engine (disk.holding "a.c" text) false (.chunk "a.c" none) := by
  intro libraries engine octets text disk shown
  have stray : disk.read "a.c" = .ok octets := by decide +kernel
  have plain : disk.read "b.c" = .ok (Utf8.encode text.toList) := by decide +kernel
  have repaired : disk.load "a.c" = .ok ⟨"a.c", text⟩ := by decide +kernel
  have kept : disk.load "b.c" = .ok ⟨"b.c", text⟩ := by decide +kernel
  have computed : (Command.function "b.c" none).ofFunction? engine false text = some shown := by
    decide +kernel
  refine ⟨stray, plain, ?_, ?_, ?_⟩
  · obtain ⟨source, -, function, -⟩ :=
      execute_reads_loaded_iff engine disk false (.function "a.c" none) rfl stray
    exact (function _ rfl).2 (by decide +kernel)
  · obtain ⟨source, load, function, -⟩ :=
      execute_reads_loaded_iff engine disk false (.function "b.c" none) rfl plain
    obtain rfl : Source.mk "b.c" text = source := Except.ok.inj (kept.symm.trans load)
    exact (function _ computed).1.2 (Text.Utf8.wellFormed_iff.2 ⟨_, rfl⟩)
  · obtain ⟨source, load, -, whole⟩ :=
      execute_reads_loaded_iff engine disk false (.chunk "a.c" none) rfl stray
    obtain rfl : Source.mk "a.c" text = source := Except.ok.inj (repaired.symm.trans load)
    exact whole rfl

/-- On a file that the other commands read, a command about one function fails, though it has a
result for the text that they read. -/
theorem function_fails_on_stray_octet :
    let disk := (FileTree.ofPaths [("a.c", Utf8.encode "int f() \x7b g(\"".toList ++ [0xFF] ++
      Utf8.encode "\"); \x7d".toList)]).disk
    let text := "int f() \x7b g(\"\uFFFD\"); \x7d"
    let libraries : Libraries := ⟨Pattern.compiler, fun _ _ => "no reason"⟩
    disk.load "a.c" = .ok ⟨"a.c", text⟩ ∧
      (runArguments libraries disk ["chunk", "a.c"]).exit = 0 ∧
      runArguments libraries disk ["function", "a.c"] = .failed "Failed to read a.c" ∧
      runArguments libraries (disk.holding "a.c" text) ["function", "a.c"] =
        .printed "f (lines 1-1)\n  complexity: low (cyclomatic 1)\n  calls: g\n" := by
  decide +kernel

end CommandLine

end CSurvey
