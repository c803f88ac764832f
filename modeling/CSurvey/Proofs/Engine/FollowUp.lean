import CSurvey.Proofs.Analysis.Lookup
import CSurvey.Proofs.Engine.Record

/-!
# Following up an audit

The functions that an audit suggests to refactor are given by their keys, but a
function is looked up by its name.  So a suggestion leads to the function that it
means only if that is the first definition of its name in the text.
-/

namespace CSurvey

theorem NextStep.mem_of_mem_withTargets {operation reason target : String} {targets : List String}
    (member : target ∈ ((plain operation reason).withTargets targets).targets) :
    target ∈ targets := by
  have inAll := List.mem_eraseDups.1 (List.mem_of_mem_take member)
  exact (List.mem_filter.1 inAll).1

theorem AuditResponse.exists_finding_of_target {response : AuditResponse} {step : NextStep}
    (member : step ∈ response.nextSteps) (refactor : step.operation = "refactor")
    {target : String} (listed : target ∈ step.targets) :
    ∃ finding ∈ response.findings, finding.function = some target := by
  rw [nextSteps] at member
  split at member
  · simp only [List.mem_singleton] at member
    subst member
    simp [NextStep.plain] at refactor
  · simp only [List.mem_cons, List.not_mem_nil, or_false] at member
    rcases member with rfl | rfl | rfl
    · simpa using List.mem_filterMap.1 (NextStep.mem_of_mem_withTargets listed)
    · simp [NextStep.withTargets, NextStep.plain] at refactor
    · simp [NextStep.plain] at refactor

namespace Analyzer

variable {analyzer : Analyzer} {source : Source}

theorem exists_record_of_function {finding : Finding} {key : String}
    (member : finding ∈ (analyzer.analysis source).findings)
    (attributed : finding.function = some key) :
    ∃ record ∈ (analyzer.analysis source).functions, record.key = key := by
  rw [findings_analysis, findingsOf, List.flatMap_map] at member
  rcases List.mem_append.1 member with inBody | outside
  · obtain ⟨record, isFunction, found⟩ := List.mem_flatMap.1 inBody
    have own := function_of_mem_evaluate found
    exact ⟨record, isFunction, Option.some.inj (own.symm.trans attributed)⟩
  · rw [function_of_mem_evaluate outside] at attributed
    cases attributed

theorem record_analyzeFunction {record : FunctionRecord}
    (member : record ∈ (analyzer.analysis source).functions) (name : Option String) :
    (analyzer.analyzeFunction source.text name).record =
      some (pickRecord source.text (scan source.text) name) := by
  obtain ⟨site, front, back, formed, whole, -, -⟩ := exists_site member
  have kept : site.name ∈ significant (scan source.text) := by
    rw [whole]
    simp [Site.tokens]
  have notBlank := formed.not_all_isBlank (mem_significant.1 kept).1
  rw [analyzeFunction, if_neg (by simp [notBlank])]

end Analyzer

namespace Engine

theorem audit_text {engine : Engine} (positive : 1 ≤ engine.analyzer.maxChunkSize) (text : String)
    (disk : Disk) :
    let analysis := engine.analyzer.analysis ⟨Source.memoryName, text⟩
    engine.analyze disk ⟨none, some text⟩ = .ok analysis ∧
      engine.audit disk ⟨none, some text⟩ =
        .ok ⟨analysis.source, analysis.findings, RiskSummary.ofFindings analysis.findings⟩ := by
  have analyzed := engine.analyzer.analyze_eq ⟨Source.memoryName, text⟩ positive
  constructor <;>
    simp only [audit, analyze, SourceInput.load, Option.getD_none, bind, Except.bind, analyzed]
  rfl

/-- With valid settings, each function that an audit of a text suggests to refactor is one of the
analysis, with a finding of the audit.  Its key picks in the text a definition, which has that key
exactly if the function is the first of its name in the chunks, and which has the body of the
function as well exactly if no definition of that name has its body earlier in the text. -/
theorem analyzeFunction_picks_target_iff (libraries : Libraries) {settings : Settings}
    (valid : settings.validate = .ok ()) (text : String) :
    ∃ engine, ofSettings libraries settings = .ok engine ∧ ∀ disk, ∃ analysis response,
      engine.analyze disk ⟨none, some text⟩ = .ok analysis ∧
      engine.audit disk ⟨none, some text⟩ = .ok response ∧
      ∀ step ∈ response.nextSteps, step.operation = "refactor" → ∀ target ∈ step.targets,
        ∃ record ∈ analysis.functions, record.key = target ∧
          (∃ finding ∈ response.findings, finding.function = some record.key) ∧
          ∃ picked, (engine.analyzeFunction ⟨text, some target⟩).record = some picked ∧
            (picked.key = target ↔ record.ordinal = 1) ∧
            (picked.key = target ∧ picked.body = record.body ↔ record.IsFirstIn text) := by
  obtain ⟨engine, made, -, -, positive⟩ := exists_ofSettings libraries valid
  refine ⟨engine, made, fun disk => ?_⟩
  obtain ⟨analyzed, audited⟩ := audit_text positive text disk
  refine ⟨_, _, analyzed, audited, ?_⟩
  intro step isStep refactor target listed
  obtain ⟨finding, found, attributed⟩ :=
    AuditResponse.exists_finding_of_target isStep refactor listed
  obtain ⟨record, isFunction, rfl⟩ := Analyzer.exists_record_of_function found attributed
  obtain ⟨keys, own⟩ := Analyzer.pickRecord_key isFunction
  exact ⟨record, isFunction, rfl, ⟨finding, found, attributed⟩, _,
    Analyzer.record_analyzeFunction isFunction _, keys, own⟩

/-- Two definitions of one name, each with a finding. -/
theorem analyzeFunction_picks_target_iff_twice :
    let text := "int f(int a) \x7b gets(a); \x7d\nint f(long a) \x7b gets(a); \x7d\n"
    let libraries := Libraries.refusing "no reason"
    Settings.standard.validate = .ok () ∧
      ∃ engine, ofSettings libraries Settings.standard = .ok engine ∧ ∃ analysis response,
        engine.analyze Disk.empty ⟨none, some text⟩ = .ok analysis ∧
        engine.audit Disk.empty ⟨none, some text⟩ = .ok response ∧
        response.nextSteps.map (fun step => (step.operation, step.targets)) =
          [("refactor", ["f", "f#2"]), ("search", ["gets"]), ("report", [])] ∧
        ∀ step ∈ response.nextSteps, step.operation = "refactor" → ∀ target ∈ step.targets,
          ∃ record ∈ analysis.functions, record.key = target ∧
            ∃ picked, (engine.analyzeFunction ⟨text, some target⟩).record = some picked ∧
              (picked.key = target ∧ picked.body = record.body ↔ record.IsFirstIn text) := by
  intro text libraries
  obtain ⟨engine, made, follow⟩ :=
    analyzeFunction_picks_target_iff libraries Settings.validate_standard text
  obtain ⟨analysis, response, analyzed, audited, targets⟩ := follow Disk.empty
  have computed : ((ofSettings libraries Settings.standard).toOption.bind (fun engine =>
      (engine.audit Disk.empty ⟨none, some text⟩).toOption)).map (fun response =>
        response.nextSteps.map (fun step => (step.operation, step.targets))) =
      some [("refactor", ["f", "f#2"]), ("search", ["gets"]), ("report", [])] := by
    decide +kernel
  simp only [made, audited, Except.toOption, Option.bind_some, Option.map_some] at computed
  refine ⟨Settings.validate_standard, engine, made, analysis, response, analyzed, audited,
    Option.some.inj computed, ?_⟩
  intro step isStep refactor target listed
  obtain ⟨record, isFunction, key, -, picked, picks, -, own⟩ :=
    targets step isStep refactor target listed
  exact ⟨record, isFunction, key, picked, picks, own⟩

/-- The key of the second definition of a name picks the first one, in which nothing was found. -/
theorem analyzeFunction_misses_target :
    let text := "int f(void) \x7b return 0; \x7d\nint f(char *s) \x7b gets(s); \x7d\n"
    let libraries := Libraries.refusing "no reason"
    ∃ engine, ofSettings libraries Settings.standard = .ok engine ∧ ∃ response,
      engine.audit Disk.empty ⟨none, some text⟩ = .ok response ∧
      (∃ step ∈ response.nextSteps, step.operation = "refactor" ∧ "f#2" ∈ step.targets) ∧
      ∃ picked, (engine.analyzeFunction ⟨text, some "f#2"⟩).record = some picked ∧
        picked.key = "f" ∧ (engine.analyzeFunction ⟨text, some "f#2"⟩).findings = [] := by
  intro text libraries
  obtain ⟨engine, made, -, -, positive⟩ :=
    exists_ofSettings libraries Settings.validate_standard
  obtain ⟨-, audited⟩ := audit_text positive text Disk.empty
  have suggested : ((ofSettings libraries Settings.standard).toOption.bind (fun engine =>
      (engine.audit Disk.empty ⟨none, some text⟩).toOption)).map (fun response =>
        response.nextSteps.any (fun step =>
          step.operation == "refactor" && step.targets.contains "f#2")) = some true := by
    decide +kernel
  have picked : (ofSettings libraries Settings.standard).toOption.map (fun engine =>
      let own := engine.analyzeFunction ⟨text, some "f#2"⟩
      (own.record.map FunctionRecord.key, own.findings)) = some (some "f", []) := by
    decide +kernel
  simp only [made, audited, Except.toOption, Option.bind_some, Option.map_some, Option.some.injEq,
    List.any_eq_true, Bool.and_eq_true, beq_iff_eq, List.contains_iff_mem] at suggested
  simp only [made, Except.toOption, Option.map_some, Option.some.injEq, Prod.mk.injEq,
    Option.map_eq_some_iff] at picked
  obtain ⟨⟨record, picks, key⟩, findings⟩ := picked
  exact ⟨engine, made, _, audited, suggested, record, picks, key, findings⟩

end Engine

end CSurvey
