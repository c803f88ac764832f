import CSurvey.Proofs.Analysis.Records
import CSurvey.Proofs.Risk.Extent
import Mathlib.Data.List.Nodup
import Mathlib.Data.List.Pairwise

/-!
# What findings are attributed to

The headers and bodies of the functions of a source and what lies outside all
functions share out its significant tokens: none is lost, and none is in two of
these scopes.  Headers are not scored, the findings in a body belong to its
function, and all others to none.
-/

namespace CSurvey

/-- A part of a source in which matches are searched on their own, or which is passed over. -/
inductive Scope where
  | header (record : FunctionRecord)
  | body (record : FunctionRecord)
  | outside
deriving DecidableEq

theorem mem_tokensWithin {tokens : List Token} {span : Span} {tok : Token} :
    tok ∈ tokensWithin tokens span ↔
      tok ∈ tokens ∧ span.start ≤ tok.span.start ∧ tok.span.start < span.stop := by
  rw [tokensWithin, List.mem_filter, Bool.and_eq_true, decide_eq_true_eq, decide_eq_true_eq]

namespace Scope

/-- The scopes of a source with the given functions, in the order of the findings. -/
def all (records : List FunctionRecord) : List Scope :=
  records.flatMap (fun record => [header record, body record]) ++ [outside]

/-- The tokens of a scope, among the significant tokens of a source with the given functions. -/
def tokensOf (records : List FunctionRecord) (tokens : List Token) : Scope → List Token
  | header record => tokensWithin tokens { record.span with stop := record.body.start }
  | body record => tokensWithin tokens record.body
  | outside => tokensOutside (records.map FunctionRecord.span) tokens

theorem mem_all {records : List FunctionRecord} {scope : Scope} :
    scope ∈ all records ↔
      (∃ record ∈ records, scope = header record ∨ scope = body record) ∨ scope = outside := by
  simp [all]

end Scope

section Outside

variable {span : Span} {spans : List Span}

theorem tokensOutside_nil (tokens : List Token) : tokensOutside [] tokens = tokens := by
  induction tokens with
  | nil => rfl
  | cons tok rest ih => simpa [tokensOutside] using ih

theorem tokensOutside_before {front tokens : List Token}
    (early : ∀ tok ∈ front, tok.span.start < span.start ∧ tok.span.start < span.stop) :
    tokensOutside (span :: spans) (front ++ tokens) =
      front ++ tokensOutside (span :: spans) tokens := by
  induction front with
  | nil => rfl
  | cons tok rest ih =>
    obtain ⟨⟨before, ahead⟩, early⟩ := List.forall_mem_cons.1 early
    rw [List.cons_append, tokensOutside]
    simp [Nat.not_le.2 before, Nat.not_le.2 ahead, ih early]

theorem tokensOutside_inside {middle tokens : List Token}
    (inside : ∀ tok ∈ middle, span.start ≤ tok.span.start ∧ tok.span.start < span.stop) :
    tokensOutside (span :: spans) (middle ++ tokens) = tokensOutside (span :: spans) tokens := by
  induction middle with
  | nil => rfl
  | cons tok rest ih =>
    obtain ⟨⟨begins, ahead⟩, inside⟩ := List.forall_mem_cons.1 inside
    rw [List.cons_append, tokensOutside]
    simp [begins, Nat.not_le.2 ahead, ih inside]

/-- A span that ends before all tokens can be left out. -/
theorem tokensOutside_after {tokens : List Token}
    (late : ∀ tok ∈ tokens, span.stop ≤ tok.span.start) :
    tokensOutside (span :: spans) tokens = tokensOutside spans tokens := by
  cases tokens with
  | nil => rw [tokensOutside, tokensOutside]
  | cons tok rest =>
    rw [tokensOutside, tokensOutside, List.dropWhile_cons_of_pos]
    exact decide_eq_true (late tok (List.mem_cons_self ..))

end Outside

namespace Site

variable {text : String} {site : Site} {front back : List Token}
  (whole : significant (scan text) = front ++ (site.tokens ++ back))
include whole

/-- The tokens of a header begin before the body. -/
theorem start_lt_openBrace {tok : Token} (inside : tok ∈ front ++ site.headerTokens) :
    tok.span.start < site.definition.openBrace.span.start := by
  have around : significant (scan text) = (front ++ site.headerTokens) ++
      site.definition.openBrace :: (site.definition.bodyTokens ++ back) := by
    simp [whole, Site.tokens_eq]
  exact start_lt_of_mem_front around inside

/-- A definition begins at its first token, after all tokens before it. -/
theorem first_start :
    (∀ tok ∈ front, tok.span.start < site.first.span.start) ∧
      ∀ tok ∈ site.tokens, site.first.span.start ≤ tok.span.start := by
  obtain ⟨others, header⟩ := site.headerTokens_eq
  have tokens : site.tokens = site.first :: (others ++
      site.definition.openBrace :: site.definition.bodyTokens) := by
    simp [Site.tokens_eq, header]
  rw [tokens, List.cons_append] at whole
  refine ⟨fun tok inside => start_lt_of_mem_front whole inside, ?_⟩
  intro tok inside
  apply start_le_of_mem whole
  rw [← List.cons_append, ← tokens]
  exact List.mem_append_left _ inside

namespace Formed

variable (formed : site.Formed)
include formed

/-- Exactly the tokens of a header begin between the beginning of a function and its body. -/
theorem tokensWithin_header :
    tokensWithin (significant (scan text))
        { (site.record text.toList 0).span with
          stop := (site.record text.toList 0).body.start } = site.headerTokens := by
  obtain ⟨before, begins⟩ := first_start whole
  have inFront : ∀ tok ∈ front ++ site.headerTokens,
      tok.span.start < site.definition.openBrace.span.start :=
    fun tok inside => start_lt_openBrace whole inside
  have around : significant (scan text) = (front ++ site.headerTokens) ++
      site.definition.openBrace :: (site.definition.bodyTokens ++ back) := by
    simp [whole, tokens_eq]
  rw [formed.record_eq, around, List.append_assoc]
  refine filter_middle ?_ ?_ ?_
  · intro tok inside
    simp [Nat.not_le.2 (before tok inside)]
  · intro tok inside
    simp [begins tok (by simp [tokens_eq, inside]), inFront tok (List.mem_append_right _ inside)]
  · intro tok inside
    simp [Nat.not_lt.2 (start_le_of_mem around inside)]

variable (atEnd : site.definition.closeBrace = none → back = [])
include atEnd

/-- Exactly the tokens of a definition begin in the span of its record. -/
theorem begins_in_span :
    let span := (site.record text.toList 0).span
    (∀ tok ∈ front, tok.span.start < span.start ∧ tok.span.start < span.stop) ∧
      (∀ tok ∈ site.tokens, span.start ≤ tok.span.start ∧ tok.span.start < span.stop) ∧
      ∀ tok ∈ back, span.stop ≤ tok.span.start := by
  obtain ⟨inBody, late⟩ := start_lt_ending whole atEnd
  obtain ⟨before, begins⟩ := first_start whole
  have brace := inBody site.definition.openBrace (List.mem_cons_self ..)
  have inFront : ∀ tok ∈ front ++ site.headerTokens,
      tok.span.start < site.definition.openBrace.span.start :=
    fun tok inside => start_lt_openBrace whole inside
  rw [formed.record_eq]
  dsimp only
  refine ⟨?_, ?_, late⟩
  · intro tok inside
    have early := inFront tok (List.mem_append_left _ inside)
    exact ⟨before tok inside, by omega⟩
  · intro tok inside
    refine ⟨begins tok inside, ?_⟩
    rw [tokens_eq] at inside
    rcases List.mem_append.1 inside with header | body
    · have early := inFront tok (List.mem_append_right _ header)
      omega
    · exact inBody tok body

end Formed

end Site

/-- The tokens outside the spans of definitions are those that belong to none of them. -/
theorem Tiling.tokensOutside_eq {text : String} {front tokens outside : List Token}
    {sites : List Site} (tiling : Tiling tokens sites outside)
    (whole : significant (scan text) = front ++ tokens) :
    tokensOutside (sites.map (fun site => (site.record text.toList 0).span)) tokens = outside := by
  induction tiling generalizing front with
  | gap outside => exact tokensOutside_nil outside
  | @site gap site rest outside sites formed atEnd tail ih =>
    rw [← List.append_assoc] at whole
    obtain ⟨before, inside, after⟩ := formed.begins_in_span whole atEnd
    obtain ⟨-, early⟩ := List.forall_mem_append.1 before
    rw [← List.append_assoc] at whole
    rw [List.map_cons, tokensOutside_before early, tokensOutside_inside inside,
      tokensOutside_after after, ih whole]

namespace Scope

variable (source : Source) (limit : Nat)

/-- The scopes share out the significant tokens. -/
theorem perm_tokensOf :
    let records := (Chunk.ofSource source (scan source.text) limit).flatMap Chunk.functions
    ((all records).flatMap (tokensOf records (significant (scan source.text)))).Perm
      (significant (scan source.text)) := by
  intro records
  obtain ⟨sites, outside, tiling, same⟩ := Chunk.exists_tiling source limit
  let own (record : FunctionRecord) : List Token :=
    tokensOf records (significant (scan source.text)) (header record) ++
      tokensOf records (significant (scan source.text)) (body record)
  have spans : records.map FunctionRecord.span =
      sites.map (fun site => (site.record source.text.toList 0).span) := by
    have fields := congrArg (List.map FunctionRecord.span) same
    rwa [List.map_map, List.map_map] at fields
  have rest : tokensOf records (significant (scan source.text)) Scope.outside = outside := by
    rw [tokensOf, spans]
    exact tiling.tokensOutside_eq (List.nil_append _).symm
  have functions : (records.flatMap (fun record => [header record, body record])).flatMap
      (tokensOf records (significant (scan source.text))) = sites.flatMap Site.tokens := by
    have pairs : (records.flatMap (fun record => [header record, body record])).flatMap
        (tokensOf records (significant (scan source.text))) =
          (records.map FunctionRecord.unnumbered).flatMap own := by
      rw [List.flatMap_assoc, List.flatMap_map]
      apply List.flatMap_congr
      intro record _
      simp [own, tokensOf, FunctionRecord.unnumbered]
    rw [pairs, same, List.flatMap_map]
    apply List.flatMap_congr
    intro site member
    obtain ⟨front, back, whole, atEnd⟩ := tiling.exists_context member
    have formed := tiling.formed member
    simp only [own, tokensOf]
    rw [Source.chars, formed.tokensWithin_header whole, formed.tokensWithin_body whole atEnd,
      Site.tokens_eq]
  rw [all, List.flatMap_append, functions, List.flatMap_singleton, rest]
  exact tiling.perm

theorem existsUnique_scope {tok : Token} (member : tok ∈ significant (scan source.text)) :
    let records := (Chunk.ofSource source (scan source.text) limit).flatMap Chunk.functions
    ∃! scope, scope ∈ all records ∧
      tok ∈ tokensOf records (significant (scan source.text)) scope := by
  intro records
  have shared := perm_tokensOf source limit
  have distinct : (significant (scan source.text)).Nodup :=
    ((pairwise_start_scan source.text).filter _).imp (fun less same => by
      rw [same] at less
      exact Nat.lt_irrefl _ less)
  obtain ⟨-, apart⟩ := List.nodup_flatMap.1 (shared.nodup_iff.2 distinct)
  obtain ⟨scope, isScope, inside⟩ := List.mem_flatMap.1 (shared.mem_iff.2 member)
  have symmetric : Std.Symm (Function.onFun List.Disjoint
      (tokensOf records (significant (scan source.text)))) :=
    ⟨fun _ _ disjoint _ inSecond inFirst => disjoint inFirst inSecond⟩
  refine ⟨scope, ⟨isScope, inside⟩, ?_⟩
  rintro other ⟨isOther, inOther⟩
  by_contra different
  exact apart.forall isOther isScope different inOther inside

end Scope

/-- The finding shows the text of its span. -/
def Finding.Quotes (finding : Finding) (text : String) : Prop :=
  ∃ before part after, text.toList = before ++ (part ++ after) ∧
    finding.matched = String.ofList part ∧ finding.span.start = Text.byteLength before ∧
    finding.span.stop = Text.byteLength (before ++ part)

/-- The finding is a match of the rule. -/
def Finding.IsOf (finding : Finding) (rule : RiskRule) : Prop :=
  finding.patternId = rule.id ∧ finding.category = rule.category ∧
    finding.severity = rule.severity ∧ finding.rationale = rule.rationale ∧
    finding.remedy = rule.remedy

namespace RiskTable

/-- The findings come in the order of the rules, and those of one rule begin at growing offsets. -/
def Orders (table : RiskTable) (findings : List Finding) : Prop :=
  ∃ blocks : List (List Finding), findings = blocks.flatten ∧
    List.Forall₂ (fun rule block => (∀ finding ∈ block, finding.IsOf rule) ∧
      block.Pairwise (fun first second => first.span.start < second.span.start))
      table.rules blocks

variable {table : RiskTable} {tokens : List Token} {function : Option String}

theorem orders_evaluate (table : RiskTable) (cs : List Char) (function : Option String)
    (sorted : tokens.Pairwise (fun first second => first.span.start < second.span.start)) :
    table.Orders (table.evaluate cs tokens function) := by
  refine ⟨table.rules.map (fun rule =>
    (RiskMatch.spans rule.pattern tokens).map (rule.finding cs function)), ?_, ?_⟩
  · rw [evaluate, List.flatMap_def]
  · apply List.forall₂_map_right_iff.2
    apply List.forall₂_same.2
    intro rule _
    constructor
    · intro finding member
      obtain ⟨span, -, rfl⟩ := List.mem_map.1 member
      exact ⟨rfl, rfl, rfl, rfl, rfl⟩
    · exact List.pairwise_map.2 (RiskMatch.pairwise_spans sorted rule.pattern)

theorem exists_rule_of_mem_evaluate {cs : List Char} {finding : Finding}
    (member : finding ∈ table.evaluate cs tokens function) :
    ∃ rule ∈ table.rules, finding.span ∈ RiskMatch.spans rule.pattern tokens ∧
      finding = rule.finding cs function finding.span := by
  obtain ⟨rule, inTable, found⟩ := List.mem_flatMap.1 member
  obtain ⟨span, isMatch, rfl⟩ := List.mem_map.1 found
  exact ⟨rule, inTable, isMatch, rfl⟩

theorem quotes_of_mem_evaluate {text : String} {finding : Finding}
    (among : ∀ tok ∈ tokens, tok ∈ scan text)
    (member : finding ∈ table.evaluate text.toList tokens function) : finding.Quotes text := by
  obtain ⟨rule, -, isMatch, eq⟩ := exists_rule_of_mem_evaluate member
  have joins : ∀ first second : Span,
      (first.Fits text.toList ∧ first.start ≤ first.stop) →
      (second.Fits text.toList ∧ second.start ≤ second.stop) →
      ((first.join second).Fits text.toList ∧
        (first.join second).start ≤ (first.join second).stop) := by
    rintro first second ⟨fits, forward⟩ ⟨otherFits, otherForward⟩
    refine ⟨fits.join otherFits, ?_⟩
    simp only [Span.join]
    omega
  have extents : ∀ tok ∈ tokens, tok.span.Fits text.toList ∧ tok.span.start ≤ tok.span.stop :=
    fun tok inside => ⟨fits_of_mem_scan (among tok inside),
      Nat.le_of_lt (start_lt_stop_of_mem_scan (among tok inside))⟩
  obtain ⟨⟨begins, ends⟩, forward⟩ :=
    RiskMatch.fits_of_mem_spans joins extents rule.pattern isMatch
  obtain ⟨before, rest, whole, start⟩ := begins
  obtain ⟨upTo, after, wholeToo, stop⟩ := ends
  obtain ⟨part, rfl⟩ := Text.prefix_of_byteLength_le ⟨rest, whole.symm⟩ ⟨after, wholeToo.symm⟩
    (by omega)
  rw [List.append_assoc] at wholeToo
  refine ⟨before, part, after, wholeToo, ?_, start.symm, stop.symm⟩
  have matched : finding.matched = String.ofList
      (Text.slice text.toList finding.span.start finding.span.stop) := congrArg Finding.matched eq
  rw [matched, ← start, ← stop, Text.slice_of_append before part after wholeToo]

end RiskTable

theorem tokensOutside_sublist (spans : List Span) (tokens : List Token) :
    (tokensOutside spans tokens).Sublist tokens := by
  induction tokens generalizing spans with
  | nil => rw [tokensOutside]
  | cons tok rest ih =>
    rw [tokensOutside]
    split
    · exact (ih _).cons tok
    · exact (ih _).cons_cons tok

namespace Scope

theorem tokensOf_sublist (records : List FunctionRecord) (tokens : List Token) (scope : Scope) :
    (scope.tokensOf records tokens).Sublist tokens := by
  cases scope with
  | header record => exact List.filter_sublist
  | body record => exact List.filter_sublist
  | outside => exact tokensOutside_sublist _ tokens

/-- The key to which the findings of a scope are attributed. -/
def function : Scope → Option String
  | header record => some record.key
  | body record => some record.key
  | outside => none

def findings (table : RiskTable) (source : Source) (records : List FunctionRecord)
    (scope : Scope) : List Finding :=
  table.evaluate source.chars
    (scope.tokensOf records (significant (scan source.text))) scope.function

section Source

variable {source : Source} {limit : Nat} {record : FunctionRecord}
  (member : record ∈ (Chunk.ofSource source (scan source.text) limit).flatMap Chunk.functions)
include member

theorem within_of_mem_findings {table : RiskTable} {records : List FunctionRecord}
    {finding : Finding} (found : finding ∈ (body record).findings table source records) :
    finding.span.within record.body = true := by
  obtain ⟨site, front, back, formed, whole, atEnd, same⟩ := Chunk.exists_site member
  obtain ⟨rule, -, isMatch, -⟩ := RiskTable.exists_rule_of_mem_evaluate found
  have joins : ∀ first second : Span, first.within record.body = true →
      second.within record.body = true → (first.join second).within record.body = true := by
    intro first second inside inToo
    simp only [Span.within, Bool.and_eq_true, decide_eq_true_eq] at inside inToo ⊢
    exact ⟨Nat.le_min.2 ⟨inside.1, inToo.1⟩, Nat.max_le.2 ⟨inside.2, inToo.2⟩⟩
  refine RiskMatch.fits_of_mem_spans joins ?_ rule.pattern isMatch
  intro tok inScope
  have sameBody : record.body = (site.record source.text.toList 0).body :=
    (congrArg FunctionRecord.body same).symm
  have begins : record.body.start ≤ tok.span.start := (mem_tokensWithin.1 inScope).2.1
  rw [tokensOf, sameBody, formed.tokensWithin_body whole atEnd] at inScope
  have stops : tok.span.stop ≤ record.body.stop := by
    rw [sameBody, formed.record_eq]
    exact Site.stop_le_ending whole inScope
  simp [Span.within, begins, stops]

theorem not_in_of_mem_outside {tok : Token}
    (inScope : tok ∈ tokensOf
      ((Chunk.ofSource source (scan source.text) limit).flatMap Chunk.functions)
      (significant (scan source.text)) outside) :
    ¬ (record.span.start ≤ tok.span.start ∧ tok.span.start < record.span.stop) := by
  rintro ⟨begins, ahead⟩
  have kept := (tokensOf_sublist _ _ outside).subset inScope
  obtain ⟨site, front, back, formed, whole, atEnd, same⟩ := Chunk.exists_site member
  have spans : record.span = (site.record source.text.toList 0).span :=
    (congrArg FunctionRecord.span same).symm
  have bodies : record.body = (site.record source.text.toList 0).body :=
    (congrArg FunctionRecord.body same).symm
  have stops := (formed.record_extent whole atEnd).2.2
  rw [← spans, ← bodies] at stops
  -- A token in the span of the function is in the scope of its header or of its body.
  obtain ⟨scope, -, only⟩ := existsUnique_scope source limit kept
  have isOutside := only outside ⟨mem_all.2 (Or.inr rfl), inScope⟩
  rcases Nat.lt_or_ge tok.span.start record.body.start with early | late
  · have inHeader : tok ∈ tokensWithin (significant (scan source.text))
        { record.span with stop := record.body.start } :=
      mem_tokensWithin.2 ⟨kept, begins, early⟩
    have isHeader := only (header record)
      ⟨mem_all.2 (Or.inl ⟨record, member, Or.inl rfl⟩), inHeader⟩
    cases isOutside.trans isHeader.symm
  · have inBody := mem_tokensWithin.2 ⟨kept, late,
      (show tok.span.start < record.body.stop by omega)⟩
    have isBody := only (body record)
      ⟨mem_all.2 (Or.inl ⟨record, member, Or.inr rfl⟩), inBody⟩
    cases isOutside.trans isBody.symm

theorem not_in_of_mem_findings {table : RiskTable} {finding : Finding}
    (found : finding ∈ outside.findings table source
      ((Chunk.ofSource source (scan source.text) limit).flatMap Chunk.functions)) :
    ¬ (record.span.start ≤ finding.span.start ∧ finding.span.start < record.span.stop) := by
  obtain ⟨rule, -, isMatch, -⟩ := RiskTable.exists_rule_of_mem_evaluate found
  obtain ⟨tok, inScope, start⟩ := RiskMatch.exists_start_of_mem_spans isMatch
  rw [← start]
  exact not_in_of_mem_outside member inScope

end Source

variable (table : RiskTable) (source : Source) (records : List FunctionRecord) (scope : Scope)

theorem orders_findings : table.Orders (scope.findings table source records) := by
  have sorted : (significant (scan source.text)).Pairwise
      (fun first second => first.span.start < second.span.start) :=
    (pairwise_start_scan source.text).filter _
  exact RiskTable.orders_evaluate table _ _ (sorted.sublist (scope.tokensOf_sublist _ _))

variable {table source records scope}

theorem function_of_mem_findings {finding : Finding}
    (member : finding ∈ scope.findings table source records) :
    finding.function = scope.function :=
  Analyzer.function_of_mem_evaluate member

theorem quotes_of_mem_findings {finding : Finding}
    (member : finding ∈ scope.findings table source records) : finding.Quotes source.text := by
  refine RiskTable.quotes_of_mem_evaluate (fun tok inside => ?_) member
  exact (mem_significant.1 ((scope.tokensOf_sublist _ _).subset inside)).1

end Scope

theorem Analyzer.findings_eq (analyzer : Analyzer) (source : Source) :
    let analysis := analyzer.analysis source
    analysis.findings =
      analysis.functions.flatMap (fun record =>
        (Scope.body record).findings analyzer.risk source analysis.functions) ++
      Scope.outside.findings analyzer.risk source analysis.functions := by
  intro analysis
  rw [findings_analysis, findingsOf, List.flatMap_map]
  rfl

/-- For chunks of at least one line, each significant token of a source is in the header of one
function, in the body of one function, or outside all functions.  The findings of the analysis are
those in the bodies, function by function, and then those outside.  A finding in a body has the key
of its function and lies in the body; one outside has no key and begins in no function.  In each
scope the findings come in the order of the rules and those of one rule in the order of the text,
and all show the text of their spans. -/
theorem analyze_attributes_findings (analyzer : Analyzer) (source : Source)
    (positive : 1 ≤ analyzer.maxChunkSize) :
    ∃ analysis, analyzer.analyze source = .ok analysis ∧
      (∀ tok ∈ significant (scan source.text), ∃! scope,
        scope ∈ Scope.all analysis.functions ∧
          tok ∈ scope.tokensOf analysis.functions (significant (scan source.text))) ∧
      analysis.findings =
        analysis.functions.flatMap (fun record =>
          (Scope.body record).findings analyzer.risk source analysis.functions) ++
        Scope.outside.findings analyzer.risk source analysis.functions ∧
      (∀ record ∈ analysis.functions,
        ∀ finding ∈ (Scope.body record).findings analyzer.risk source analysis.functions,
          finding.function = some record.key ∧ finding.span.within record.body = true) ∧
      (∀ finding ∈ Scope.outside.findings analyzer.risk source analysis.functions,
        finding.function = none ∧ ∀ record ∈ analysis.functions,
          ¬ (record.span.start ≤ finding.span.start ∧
            finding.span.start < record.span.stop)) ∧
      (∀ scope ∈ Scope.all analysis.functions,
        analyzer.risk.Orders (scope.findings analyzer.risk source analysis.functions)) ∧
      ∀ finding ∈ analysis.findings, finding.Quotes source.text := by
  have functions : (analyzer.analysis source).functions =
      (Chunk.ofSource source (scan source.text) analyzer.maxChunkSize).flatMap
        Chunk.functions := rfl
  refine ⟨analyzer.analysis source, analyzer.analyze_eq source positive, ?_,
    analyzer.findings_eq source, ?_, ?_, ?_, ?_⟩
  · rw [functions]
    intro tok member
    exact Scope.existsUnique_scope source analyzer.maxChunkSize member
  · rw [functions]
    intro record member finding found
    exact ⟨Scope.function_of_mem_findings found, Scope.within_of_mem_findings member found⟩
  · rw [functions]
    intro finding found
    refine ⟨Scope.function_of_mem_findings found, ?_⟩
    intro record member
    exact Scope.not_in_of_mem_findings member found
  · intro scope _
    exact Scope.orders_findings ..
  · intro finding member
    rw [analyzer.findings_eq source] at member
    rcases List.mem_append.1 member with inBody | outside
    · obtain ⟨record, -, found⟩ := List.mem_flatMap.1 inBody
      exact Scope.quotes_of_mem_findings found
    · exact Scope.quotes_of_mem_findings outside

/-- A match before a function, one in its body and one after it. -/
theorem analyze_attributes_findings_around_function :
    let analyzer : Analyzer := ⟨1, RiskTable.builtin, Thresholds.standard⟩
    let source := Source.ofText "gets(a);\nint f() \x7b\n  gets(b); \x7d\ngets(c);"
    1 ≤ analyzer.maxChunkSize ∧ ∃ analysis, analyzer.analyze source = .ok analysis ∧
      analysis.findings.map (fun finding => (finding.function, finding.span.start)) =
        [(some "f", 21), (none, 0), (none, 32)] ∧
      ∀ finding ∈ analysis.findings, finding.Quotes source.text := by
  intro analyzer source
  have positive : 1 ≤ analyzer.maxChunkSize := by decide
  obtain ⟨analysis, analyzed, -, -, -, -, -, quotes⟩ :=
    analyze_attributes_findings analyzer source positive
  refine ⟨positive, analysis, analyzed, ?_, quotes⟩
  rw [analyzer.analyze_eq source positive] at analyzed
  obtain rfl := Except.ok.inj analyzed
  decide +kernel

end CSurvey
