import CSurvey.Proofs.Analysis.ChunkSize

/-!
# What overrides change

The rules of a table know nothing of one another, and none looks at its own
severity.  So the findings under a table with overrides are those under the whole
catalog, less the ones of disabled rules, with the severities that are set.
-/

namespace CSurvey

/-- The finding with the severity that is set for its rule, if one is. -/
def Finding.rerated (finding : Finding) (overrides : RiskOverrides) : Finding :=
  { finding with severity := (overrides.severityOf? finding.patternId).getD finding.severity }

namespace RiskOverrides

variable (overrides : RiskOverrides)

/-- What overrides leave of the findings under the whole catalog. -/
def revise (findings : List Finding) : List Finding :=
  (findings.filter (fun finding => !overrides.disabled.contains finding.patternId)).map
    (fun finding => finding.rerated overrides)

theorem revise_append (first second : List Finding) :
    overrides.revise (first ++ second) = overrides.revise first ++ overrides.revise second := by
  rw [revise, List.filter_append, List.map_append]
  rfl

theorem revise_flatMap {α : Type} (items : List α) (findings : α → List Finding) :
    overrides.revise (items.flatMap findings) =
      items.flatMap (fun item => overrides.revise (findings item)) := by
  rw [revise, List.filter_flatMap, List.map_flatMap]
  rfl

end RiskOverrides

namespace RiskRule

variable (rule : RiskRule) (cs : List Char) (function : Option String)

theorem revise_map_finding (overrides : RiskOverrides) (spans : List Span) :
    overrides.revise (spans.map (rule.finding cs function)) =
      if overrides.disabled.contains rule.id then []
      else spans.map ((rule.rerated overrides).finding cs function) := by
  have disabled : (fun finding : Finding => !overrides.disabled.contains finding.patternId) ∘
      rule.finding cs function = fun _ => !overrides.disabled.contains rule.id := rfl
  rw [RiskOverrides.revise, List.filter_map, List.map_map, disabled]
  cases overrides.disabled.contains rule.id with
  | true => simp
  | false =>
    rw [List.filter_eq_self.2 (fun _ _ => Bool.not_false)]
    rfl

theorem flatMap_rerated (overrides : RiskOverrides) (tokens : List Token)
    (rules : List RiskRule) :
    ((rules.filter (fun rule => !overrides.disabled.contains rule.id)).map
        (fun rule => rule.rerated overrides)).flatMap (fun rule =>
          (RiskMatch.spans rule.pattern tokens).map (rule.finding cs function)) =
      rules.flatMap (fun rule => overrides.revise
        ((RiskMatch.spans rule.pattern tokens).map (rule.finding cs function))) := by
  induction rules with
  | nil => rfl
  | cons rule rest ih =>
    rw [List.flatMap_cons, revise_map_finding, ← ih, List.filter_cons]
    cases overrides.disabled.contains rule.id with
    | true => rfl
    | false => rfl

end RiskRule

namespace RiskTable

theorem isKnown_eq_false {id : String} :
    isKnown id = false ↔ ∀ rule ∈ RiskCatalog.rules, rule.id ≠ id := by
  simp [isKnown]

theorem withOverrides_eq_error (overrides : RiskOverrides) :
    (∃ fault, withOverrides overrides = .error fault) ↔
      ∃ id ∈ overrides.mentioned, ∀ rule ∈ RiskCatalog.rules, rule.id ≠ id := by
  simp only [← isKnown_eq_false]
  rw [withOverrides]
  cases found : overrides.mentioned.find? (fun id => !isKnown id) with
  | some id =>
    have unknown : isKnown id = false := by simpa using List.find?_some found
    simp only [Except.error.injEq, exists_eq', true_iff]
    exact ⟨id, List.mem_of_find?_eq_some found, unknown⟩
  | none =>
    have known := List.find?_eq_none.1 found
    simp only [reduceCtorEq, exists_false, false_iff]
    rintro ⟨id, mentioned, unknown⟩
    exact known id mentioned (by simp [unknown])

variable {overrides : RiskOverrides} {table : RiskTable}
  (built : withOverrides overrides = .ok table)
include built

theorem rules_withOverrides :
    table.rules = (RiskCatalog.rules.filter
      (fun rule => !overrides.disabled.contains rule.id)).map
        (fun rule => rule.rerated overrides) := by
  rw [withOverrides] at built
  split at built
  · cases built
  · rw [← Except.ok.inj built]

theorem evaluate_withOverrides (cs : List Char) (tokens : List Token)
    (function : Option String) :
    table.evaluate cs tokens function =
      overrides.revise (builtin.evaluate cs tokens function) := by
  rw [evaluate, rules_withOverrides built, RiskRule.flatMap_rerated, evaluate,
    RiskOverrides.revise_flatMap]
  rfl

end RiskTable

namespace Analyzer

variable {overrides : RiskOverrides} {table : RiskTable}
  (built : RiskTable.withOverrides overrides = .ok table)
include built

theorem findingsOf_withOverrides (limit : Nat) (thresholds : Thresholds) (source : Source)
    (records : List FunctionRecord) :
    (mk limit table thresholds).findingsOf source records =
      overrides.revise ((mk limit RiskTable.builtin thresholds).findingsOf source records) := by
  have scored (record : FunctionRecord) :
      ((mk limit table thresholds).score source.chars
          (significant (scan source.text)) record).findings =
        overrides.revise ((mk limit RiskTable.builtin thresholds).score source.chars
          (significant (scan source.text)) record).findings :=
    RiskTable.evaluate_withOverrides built ..
  simp only [findingsOf, List.flatMap_map, RiskOverrides.revise_append,
    RiskOverrides.revise_flatMap, scored, RiskTable.evaluate_withOverrides built]

end Analyzer

/-- Overrides fail exactly if they disable or re-rate a rule that the catalog does not have.  If
they do not fail, then for chunks of at least one line the findings of each source are those under
the whole catalog, in their order, without those of disabled rules and with the severities that are
set; chunks and call graph are the same. -/
theorem overrides_filter_and_rerate (overrides : RiskOverrides) :
    ((∃ fault, RiskTable.withOverrides overrides = .error fault) ↔
      ∃ id, (id ∈ overrides.disabled ∨ ∃ severity, (id, severity) ∈ overrides.severity) ∧
        ∀ rule ∈ RiskCatalog.rules, rule.id ≠ id) ∧
      ∀ table, RiskTable.withOverrides overrides = .ok table →
        ∀ (source : Source) (limit : Nat) (thresholds : Thresholds), 1 ≤ limit →
          ∃ plain revised,
            (Analyzer.mk limit RiskTable.builtin thresholds).analyze source = .ok plain ∧
            (Analyzer.mk limit table thresholds).analyze source = .ok revised ∧
            revised.findings = overrides.revise plain.findings ∧
            revised.chunks = plain.chunks ∧ revised.graph = plain.graph := by
  constructor
  · rw [RiskTable.withOverrides_eq_error]
    simp [RiskOverrides.mentioned]
  · intro table built source limit thresholds positive
    refine ⟨_, _, Analyzer.analyze_eq _ source positive, Analyzer.analyze_eq _ source positive,
      ?_, rfl, rfl⟩
    have functions : ((Analyzer.mk limit table thresholds).analysis source).functions =
        ((Analyzer.mk limit RiskTable.builtin thresholds).analysis source).functions := by
      simp only [Analyzer.analysis, FileAnalysis.functions]
    rw [Analyzer.findings_analysis, functions, Analyzer.findingsOf_withOverrides built,
      ← Analyzer.findings_analysis]

/-- One rule is re-rated, another both re-rated and disabled, and a third left as it is. -/
theorem overrides_filter_and_rerate_both :
    let overrides : RiskOverrides :=
      ⟨["weak-random"], [("unbounded-read", .low), ("weak-random", .high)]⟩
    let source := Source.ofText "int f() \x7b gets(a); rand(); strcpy(a, b); \x7d\ngets(c); rand();"
    ∃ table, RiskTable.withOverrides overrides = .ok table ∧ 1 ≤ 600 ∧
      ∃ revised,
        (Analyzer.mk 600 table Thresholds.standard).analyze source = .ok revised ∧
        revised.findings.map (fun finding => (finding.patternId, finding.severity)) =
          [("unbounded-copy", .high), ("unbounded-read", .low), ("unbounded-read", .low)] := by
  intro overrides source
  obtain ⟨-, findings⟩ := overrides_filter_and_rerate overrides
  have positive : 1 ≤ 600 := by decide
  have known : ∀ id ∈ overrides.mentioned, RiskTable.isKnown id = true := by decide +kernel
  cases built : RiskTable.withOverrides overrides with
  | error fault =>
    obtain ⟨id, mentioned, unknown⟩ :=
      (RiskTable.withOverrides_eq_error overrides).1 ⟨fault, built⟩
    rw [← RiskTable.isKnown_eq_false, known id mentioned] at unknown
    cases unknown
  | ok table =>
    obtain ⟨plain, revised, analyzed, again, same, -, -⟩ :=
      findings table built source 600 Thresholds.standard positive
    refine ⟨table, rfl, positive, revised, again, ?_⟩
    rw [Analyzer.analyze_eq _ source positive] at analyzed
    rw [same, ← Except.ok.inj analyzed]
    decide +kernel

end CSurvey
