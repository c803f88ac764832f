import CSurvey.Advice.Basic
import CSurvey.Proofs.Analysis.Scope
import CSurvey.Proofs.Risk.Extent
import CSurvey.Proofs.Risk.Moved

/-!
# Functions analyzed on their own

The text of a function, analyzed on its own, gives what the analysis of its source
says about that function: the same record, findings and suggestions, moved to
where the function stands.  Which suggestions are made, and how severe they are,
depends on the rules and severities of the findings and not on where they stand.
-/

namespace CSurvey

/-- The rule that makes a suggestion, and how severe it is. -/
def Suggestion.mark (suggestion : Suggestion) : String × Severity :=
  (suggestion.id, suggestion.severity)

/-- The rule of a finding, and how severe it is. -/
def Finding.mark (finding : Finding) : String × Severity :=
  (finding.patternId, finding.severity)

namespace Advice

/-- The same but for the function it is about and where its findings stand. -/
structure Input.Alike (first second : Input) : Prop where
  metrics : first.metrics = second.metrics
  findings : first.findings.map Finding.mark = second.findings.map Finding.mark
  signals : first.signals = second.signals

variable {first second : Input} (alike : first.Alike second) (thresholds : Thresholds)

theorem map_severity_filter (ids : List String) (findings : List Finding) :
    (findings.filter (fun finding => ids.contains finding.patternId)).map Finding.severity =
      ((findings.map Finding.mark).filter (fun mark => ids.contains mark.1)).map (·.2) := by
  rw [List.filter_map, List.map_map]
  rfl

include alike

theorem Input.Alike.map_triggers (rule : SuggestionRule) :
    (triggers first thresholds rule).map (·.1) = (triggers second thresholds rule).map (·.1) := by
  unfold triggers
  cases rule.cause with
  | findings ids =>
    simp only [List.map_map]
    have severities := map_severity_filter ids first.findings
    rw [alike.findings, ← map_severity_filter] at severities
    exact severities
  | metricAbove metric => simp only [alike.metrics]
  | magicNumbers => simp only [alike.signals]
  | shortIdentifiers => simp only [alike.signals]
  | noErrorPath => simp only [alike.metrics, alike.signals]

theorem Input.Alike.map_suggestion? (rule : SuggestionRule) :
    (suggestion? first thresholds rule).map Suggestion.mark =
      (suggestion? second thresholds rule).map Suggestion.mark := by
  simp only [suggestion?, Option.map_map, alike.map_triggers]
  rfl

omit alike in
theorem map_bySeverity (suggestions : List Suggestion) :
    (bySeverity suggestions).map Suggestion.mark =
      Severity.all.reverse.flatMap (fun severity =>
        (suggestions.map Suggestion.mark).filter (fun mark => mark.2 == severity)) := by
  rw [bySeverity, List.map_flatMap]
  simp only [List.filter_map]
  rfl

/-- Alike functions get the same suggestions. -/
theorem Input.Alike.map_suggestions :
    (advise first thresholds).suggestions.map Suggestion.mark =
      (advise second thresholds).suggestions.map Suggestion.mark := by
  simp only [advise, map_bySeverity, List.map_filterMap, alike.map_suggestion?]

end Advice

/-- The finding that many bytes and lines further on, attributed to a function. -/
def Finding.moved (shift : Shift) (function : Option String) (finding : Finding) : Finding :=
  { finding with span := finding.span.moved shift, function }

/-- The rules that make the suggestions of an advice, and how severe each is. -/
def Advice.marks (advice : Advice) : List (String × Severity) :=
  advice.suggestions.map Suggestion.mark

theorem Advice.isEmpty_eq (advice : Advice) : advice.isEmpty = advice.marks.isEmpty :=
  (List.isEmpty_map ..).symm

/-- What is found in a function on its own is what the analysis of its source says about it. -/
structure FunctionAnalysis.Agrees (own : FunctionAnalysis) (analysis : FileAnalysis)
    (record : FunctionRecord) : Prop where
  picks : ∃ picked, own.record = some picked ∧
    picked.moved record.place = { record with chunkId := 0, ordinal := 1 }
  findings : own.findings.map (Finding.moved record.place (some record.key)) =
    analysis.findingsIn record.key
  advice : (analysis.advice.filter (fun advice => advice.function == record.key)).map
    Advice.marks = if own.advice.isEmpty then [] else [own.advice.marks]

theorem RiskTable.evaluate_moved (table : RiskTable) {cs part before after : List Char}
    {lines : Nat} (whole : cs = before ++ (part ++ after)) {own body : List Token}
    (same : own.map (Token.moved ⟨Text.byteLength before, lines⟩) =
      body.map (Token.moved .zero)) (fits : ∀ tok ∈ own, tok.span.Fits part)
    (function other : Option String) :
    (table.evaluate part own other).map
        (Finding.moved ⟨Text.byteLength before, lines⟩ function) =
      table.evaluate cs body function := by
  rw [evaluate, evaluate, List.map_flatMap]
  refine congrArg (fun found => List.flatMap found table.rules) (funext fun rule => ?_)
  have spans : RiskMatch.spans rule.pattern body =
      (RiskMatch.spans rule.pattern own).map (Span.moved ⟨Text.byteLength before, lines⟩) := by
    rw [← RiskMatch.spans_moved, same, RiskMatch.spans_moved, Span.map_moved_zero]
  rw [spans, List.map_map, List.map_map]
  refine List.map_congr_left (fun span isMatch => ?_)
  have spanFits := RiskMatch.fits_of_mem_spans (fun _ _ => Span.Fits.join) fits rule.pattern
    isMatch
  have matched := Text.slice_part spanFits.1 spanFits.2 before after
  rw [← whole] at matched
  simp only [Function.comp_apply, Finding.moved, RiskRule.finding, Span.moved, matched]

theorem isBlank_of_isIdentStart {c : Char} (start : isIdentStart c = true) :
    Text.isBlank c = false := by
  have codes : (65 ≤ c.toNat ∧ c.toNat ≤ 90) ∨ (97 ≤ c.toNat ∧ c.toNat ≤ 122) ∨ c.toNat = 95 := by
    delta isIdentStart Char.isAlpha Char.isUpper Char.isLower at start
    simp only [Bool.or_eq_true, Bool.and_eq_true, decide_eq_true_eq, beq_iff_eq,
      UInt32.le_iff_toNat_le, ge_iff_le] at start
    rcases start with (upper | lower) | rfl
    · exact Or.inl upper
    · exact Or.inr (Or.inl lower)
    · exact Or.inr (Or.inr rfl)
  simp only [Text.isBlank, Bool.or_eq_false_iff, Bool.and_eq_false_iff, decide_eq_false_iff_not,
    beq_eq_false_iff_ne]
  omega

namespace Site.Formed

variable {site : Site} {text : String}

/-- The text of a definition is analyzed as that definition. -/
theorem pickRecord_eq (formed : site.Formed) (whole : significant (scan text) = site.tokens) :
    Analyzer.pickRecord text (scan text) (some site.name.text) =
      site.record text.toList 0 := by
  have found : extractFunctions text.toList (scan text) 0 = [site.record text.toList 0] := by
    rw [extractFunctions, whole, formed.search.definitionsFrom_eq, List.map_singleton]
  have numbered : FunctionRecord.assignOrdinals [] [site.record text.toList 0] =
      [site.record text.toList 0] := rfl
  have named : (site.record text.toList 0).name = site.name.text := rfl
  simp [Analyzer.pickRecord, found, numbered, named]

theorem not_all_isBlank (formed : site.Formed) (inText : site.name ∈ scan text) :
    text.toList.all Text.isBlank = false := by
  obtain ⟨front, part, back, eq, nameText, -, -⟩ := (layout_scan text).exists_part inText
  have named := formed.isName
  simp only [Token.isName, Token.isIdent, Bool.and_eq_true, isIdentifier, nameText,
    String.toList_ofList] at named
  cases part with
  | nil => simp at named
  | cons c rest =>
    have start := named.1.2
    rw [Bool.and_eq_true] at start
    rw [← Bool.not_eq_true, List.all_eq_true]
    intro blank
    have inside : c ∈ text.toList := by simp [eq]
    cases (isBlank_of_isIdentStart start.1).symm.trans (blank c inside)

/-- A text that is one definition is scored as that definition. -/
theorem analyzeFunction_eq (formed : site.Formed) (whole : significant (scan text) = site.tokens)
    (analyzer : Analyzer) :
    let own := analyzer.analyzeFunction text (some site.name.text)
    let scored := analyzer.score text.toList (significant (scan text))
      (site.record text.toList 0)
    own.record = some (site.record text.toList 0) ∧ own.findings = scored.findings ∧
      own.advice = scored.advice := by
  have inText : site.name ∈ scan text :=
    (mem_significant.1 (by rw [whole]; simp [tokens] : site.name ∈ significant (scan text))).1
  have notBlank : ¬ text.toList.all Text.isBlank = true := by simp [formed.not_all_isBlank inText]
  simp only [Analyzer.analyzeFunction, if_neg notBlank, formed.pickRecord_eq whole, and_self]

end Site.Formed

namespace Site.Twin

variable {site own : Site} {text : String} {part : List Char} (twin : site.Twin text own part)
include twin

/-- The scope of a definition cut out of its text. -/
theorem tokensWithin_own :
    tokensWithin (significant (scan (String.ofList part))) (own.record part 0).body =
      own.definition.openBrace :: own.definition.bodyTokens := by
  have all : significant (scan (String.ofList part)) = [] ++ (own.tokens ++ []) := by
    rw [twin.ownTokens, List.append_nil, List.nil_append]
  have alone := twin.ownFormed.tokensWithin_body all (fun _ => rfl)
  rwa [String.toList_ofList] at alone

theorem map_scope :
    (own.definition.openBrace :: own.definition.bodyTokens).map
        (Token.moved (site.record text.toList 0).place) =
      (site.definition.openBrace :: site.definition.bodyTokens).map (Token.moved .zero) := by
  have definitions : own.definition.moved (site.record text.toList 0).place =
      site.definition.moved .zero := congrArg Site.definition twin.same
  have scopes := congrArg (fun definition => definition.openBrace :: definition.bodyTokens)
    definitions
  simpa only [Definition.openBrace_moved, Definition.bodyTokens_moved, List.map_cons] using scopes

end Site.Twin

namespace Analyzer

variable (analyzer : Analyzer) {source : Source} {site own : Site} {part : List Char}

/-- What is found in the body of a definition is what is found in it on its own. -/
theorem score_twin {front back : List Token} (formed : site.Formed)
    (whole : significant (scan source.text) = front ++ (site.tokens ++ back))
    (atEnd : site.definition.closeBrace = none → back = [])
    (twin : site.Twin source.text own part) (record : FunctionRecord)
    (same : site.record source.chars 0 = { record with chunkId := 0, ordinal := 1 }) :
    let alone := analyzer.score part (significant (scan (String.ofList part))) (own.record part 0)
    let scored := analyzer.score source.chars (significant (scan source.text)) record
    alone.findings.map (Finding.moved record.place (some record.key)) = scored.findings ∧
      alone.advice.marks = scored.advice.marks := by
  have body : record.body = (site.record source.chars 0).body := by rw [same]
  have place : record.place = (site.record source.chars 0).place := by rw [same]; rfl
  have scope : tokensWithin (significant (scan source.text)) record.body =
      site.definition.openBrace :: site.definition.bodyTokens :=
    body ▸ formed.tokensWithin_body whole atEnd
  have ownScope := twin.tokensWithin_own
  have moved := twin.map_scope
  have fits : ∀ tok ∈ own.definition.openBrace :: own.definition.bodyTokens,
      tok.span.Fits part := fun tok member =>
    twin.fits (by simp [Site.tokens, Definition.tokens, List.mem_cons.1 member])
  obtain ⟨before, after, parts, placed⟩ := twin.parts
  have findings : (analyzer.risk.evaluate part
      (own.definition.openBrace :: own.definition.bodyTokens)
        (some (own.record part 0).key)).map (Finding.moved record.place (some record.key)) =
      analyzer.risk.evaluate source.chars
        (site.definition.openBrace :: site.definition.bodyTokens) (some record.key) := by
    rw [place.trans placed]
    exact analyzer.risk.evaluate_moved parts (placed ▸ moved) fits _ _
  simp only [score, scope, ownScope]
  refine ⟨findings, Advice.Input.Alike.map_suggestions ⟨?_, ?_, ?_⟩ analyzer.thresholds⟩
  · have metrics := congrArg FunctionRecord.metrics (twin.moves.trans same)
    exact metrics
  · rw [← findings, List.map_map]
    rfl
  · have signals := congrArg Signals.ofTokens moved
    rwa [Signals.ofTokens_moved, Signals.ofTokens_moved] at signals

theorem agrees_of_mem {analyzer : Analyzer} {record : FunctionRecord}
    (member : record ∈ (analyzer.analysis source).functions) :
    (analyzer.analyzeFunction record.text (some record.name)).Agrees
      (analyzer.analysis source) record := by
  obtain ⟨site, front, back, formed, whole, atEnd, same⟩ := exists_site member
  obtain ⟨own, part, twin⟩ := formed.exists_twin whole atEnd
  have place : record.place = (site.record source.chars 0).place := by rw [same]; rfl
  have text : record.text = String.ofList part :=
    (congrArg FunctionRecord.text same).symm.trans twin.cut
  have name : record.name = own.name.text :=
    (congrArg FunctionRecord.name (twin.moves.trans same)).symm
  obtain ⟨picked, findings, advice⟩ := twin.ownFormed.analyzeFunction_eq twin.ownTokens analyzer
  rw [String.toList_ofList] at picked findings advice
  obtain ⟨sameFindings, sameMarks⟩ := analyzer.score_twin formed whole atEnd twin record same
  rw [text, name]
  refine ⟨⟨_, picked, ?_⟩, ?_, ?_⟩
  · rw [place]
    exact twin.moves.trans same
  · rw [findings, sameFindings, findingsIn_key analyzer source member]
  · rw [filter_advice_key analyzer source member, advice, Advice.isEmpty_eq, sameMarks,
      ← Advice.isEmpty_eq]
    split
    · rename_i nothing
      simp [nothing]
    · rename_i something
      simp [something]

end Analyzer

/-- For each source and each function that its analysis finds, in chunks of any size: the text of
the function, analyzed on its own under its name, gives the same record, moved to the beginning of
the text, the findings that are attributed to the function, moved in the same way, and the same
suggestions. -/
theorem analyzeFunction_agrees (analyzer : Analyzer) (source : Source)
    (positive : 1 ≤ analyzer.maxChunkSize) :
    ∃ analysis, analyzer.analyze source = .ok analysis ∧ ∀ record ∈ analysis.functions,
      (analyzer.analyzeFunction record.text (some record.name)).Agrees analysis record :=
  ⟨_, analyzer.analyze_eq source positive, fun _ member => Analyzer.agrees_of_mem member⟩

/-- A function that begins in the middle of a line after a parenthesis without partner, with a
comment and a directive in its header. -/
theorem analyzeFunction_agrees_mid_line :
    let source := Source.ofText ("int g(void) \x7b return 0; \x7d ) static int f(char *s /* to */\n" ++
      "#define N 1\n) \x7b gets(s); \x7d\n")
    let analyzer := Analyzer.mk 100 RiskTable.builtin Thresholds.standard
    1 ≤ analyzer.maxChunkSize ∧ ∃ analysis, analyzer.analyze source = .ok analysis ∧
      analysis.functions.map FunctionRecord.name = ["g", "f"] ∧
      (analysis.findingsIn "f").map Finding.patternId = ["unbounded-read"] ∧
      ∀ record ∈ analysis.functions,
        (analyzer.analyzeFunction record.text (some record.name)).Agrees analysis record := by
  intro source analyzer
  have positive : 1 ≤ analyzer.maxChunkSize := by decide
  obtain ⟨analysis, made, agrees⟩ := analyzeFunction_agrees analyzer source positive
  obtain rfl := Except.ok.inj ((analyzer.analyze_eq source positive).symm.trans made)
  have names : (analyzer.analysis source).functions.map FunctionRecord.name = ["g", "f"] := by
    decide +kernel
  have findings : ((analyzer.analysis source).findingsIn "f").map Finding.patternId =
      ["unbounded-read"] := by
    decide +kernel
  exact ⟨positive, _, made, names, findings, agrees⟩

end CSurvey
