import CSurvey.Proofs.Analysis.Attribution
import CSurvey.Proofs.Risk.Closing

/-!
# Findings outside functions

What lies outside all functions is searched as one list of tokens, those before a
function next to those after it.  A match that begins before the function and is left
open there is closed by tokens after it, and its finding covers the function.  This is
the only way in which a finding outside functions touches one.
-/

namespace CSurvey

/-- Whether two spans have a byte in common. -/
def Span.overlaps (first second : Span) : Bool :=
  first.start < second.stop && second.start < first.stop

/-- The place with only those tokens after it that begin before an offset. -/
def Place.upTo (place : Place) (offset : Nat) : Place :=
  { place with after := place.after.takeWhile (fun tok => tok.span.start < offset) }

/-- The tokens come in order, each before a span or after it. -/
structure Beside (tokens : List Token) (own : Span) : Prop where
  sorted : tokens.Pairwise (fun first second => first.span.start < second.span.start)
  long : ∀ tok ∈ tokens, tok.span.start < tok.span.stop
  forward : own.start < own.stop
  apart : ∀ tok ∈ tokens, tok.span.stop ≤ own.start ∨ own.stop ≤ tok.span.start

theorem le_start_of_mem_dropWhile {tokens : List Token} {offset : Nat} {tok : Token}
    (sorted : tokens.Pairwise (fun first second => first.span.start < second.span.start))
    (member : tok ∈ tokens.dropWhile (fun tok => tok.span.start < offset)) :
    offset ≤ tok.span.start := by
  induction tokens with
  | nil => cases member
  | cons head rest ih =>
    obtain ⟨before, sorted⟩ := List.pairwise_cons.1 sorted
    by_cases early : head.span.start < offset
    · simp only [List.dropWhile_cons, early, decide_true, if_true] at member
      exact ih sorted member
    · simp only [List.dropWhile_cons, early, decide_false, Bool.false_eq_true, if_false] at member
      rcases List.mem_cons.1 member with rfl | later
      · omega
      · have after := before tok later
        omega

namespace Beside

variable {tokens : List Token} {own : Span} {place : Place}

theorem stop_le (beside : Beside tokens own) {tok : Token} (member : tok ∈ tokens)
    (early : tok.span.start < own.start) : tok.span.stop ≤ own.start := by
  have forward := beside.forward
  have apart := beside.apart tok member
  omega

theorem le_start (beside : Beside tokens own) {tok : Token} (member : tok ∈ tokens)
    (late : own.start ≤ tok.span.start) : own.stop ≤ tok.span.start := by
  have long := beside.long tok member
  have apart := beside.apart tok member
  omega

/-- The tokens from a place before a span on are those that end before it and those that begin
after it. -/
theorem exists_back (beside : Beside tokens own) (member : place ∈ Place.all tokens)
    (early : place.here.span.start < own.start) :
    ∃ back, place.after = (place.upTo own.start).after ++ back ∧
      (∀ tok ∈ place.here :: (place.upTo own.start).after, tok.span.stop ≤ own.start) ∧
      (∀ tok ∈ back, own.stop ≤ tok.span.start) ∧
      (back = [] ↔ ¬ ∃ tok ∈ tokens, own.stop ≤ tok.span.start) := by
  have among := (Place.mem_of_mem_all member).2
  have whole := Place.tokens_of_mem_all member
  rw [Place.tokens] at whole
  have sorted := beside.sorted
  rw [← whole] at sorted
  obtain ⟨-, fromHere, across⟩ := List.pairwise_append.1 sorted
  let back := place.after.dropWhile (fun tok => tok.span.start < own.start)
  have split : place.after = (place.upTo own.start).after ++ back :=
    List.takeWhile_append_dropWhile.symm
  have inFront : ∀ tok ∈ place.here :: (place.upTo own.start).after,
      tok.span.stop ≤ own.start := by
    intro tok inside
    rcases List.mem_cons.1 inside with rfl | later
    · exact beside.stop_le (among _ (List.mem_cons_self ..)) early
    · apply beside.stop_le (among tok (by simp [split, later]))
      simpa using List.mem_takeWhile_imp (show tok ∈ List.takeWhile _ place.after from later)
  have inBack : ∀ tok ∈ back, own.stop ≤ tok.span.start := by
    intro tok inside
    apply beside.le_start (among tok (by simp [split, inside]))
    exact le_start_of_mem_dropWhile (List.pairwise_cons.1 fromHere).2 inside
  refine ⟨back, split, inFront, inBack, ?_, ?_⟩
  · rintro nothing ⟨tok, inside, late⟩
    have forward := beside.forward
    have long := beside.long tok inside
    rw [← whole, split, nothing, List.append_nil] at inside
    rcases List.mem_append.1 inside with behind | ahead
    · have before := across tok behind _ (List.mem_cons_self ..)
      omega
    · have stops := inFront tok ahead
      omega
  · intro none
    apply List.eq_nil_iff_forall_not_mem.2
    intro tok inside
    exact none ⟨tok, among tok (by simp [split, inside]), inBack tok inside⟩

/-- A match touches a span just if it begins before it, more tokens come after it, and the tokens
before it do not close the match. -/
theorem overlaps_iff (beside : Beside tokens own) (member : place ∈ Place.all tokens)
    (pattern : RiskPattern) :
    (place.here.span.join (RiskMatch.ending pattern place).span).overlaps own = true ↔
      place.here.span.start < own.start ∧ (∃ tok ∈ tokens, own.stop ≤ tok.span.start) ∧
        RiskMatch.isClosed pattern (place.upTo own.start) = false := by
  have among := (Place.mem_of_mem_all member).2
  have ending := RiskMatch.ending_mem pattern place
  have begins := (Place.starts_of_mem_all beside.sorted member).2.1 _ ending
  have long := beside.long _ (among _ ending)
  have forward := beside.forward
  rw [Span.overlaps, Bool.and_eq_true, decide_eq_true_eq, decide_eq_true_eq, Span.join]
  dsimp only
  by_cases early : place.here.span.start < own.start
  · obtain ⟨back, split, inFront, inBack, empty⟩ := beside.exists_back member early
    have here := inFront _ (List.mem_cons_self ..)
    cases closed : RiskMatch.isClosed pattern (place.upTo own.start) with
    | true =>
      have stops := inFront _ (RiskMatch.ending_mem_front split closed)
      exact iff_of_false (by omega) (fun touches => Bool.noConfusion touches.2.2)
    | false =>
      by_cases nonempty : back = []
      · rw [split, nonempty, List.append_nil] at ending
        have stops := inFront _ ending
        exact iff_of_false (by omega) (fun touches => empty.1 nonempty touches.2.1)
      · have late := inBack _ (RiskMatch.ending_mem_back split closed nonempty)
        exact iff_of_true (by omega)
          ⟨early, Classical.not_not.1 (fun none => nonempty (empty.2 none)), rfl⟩
  · have late := beside.le_start (among _ (List.mem_cons_self ..)) (Nat.le_of_not_lt early)
    exact iff_of_false (by omega) (fun touches => early touches.1)

end Beside

namespace Scope

variable {source : Source} {limit : Nat} {record : FunctionRecord}

theorem beside_outside
    (member : record ∈ (Chunk.ofSource source (scan source.text) limit).flatMap Chunk.functions) :
    Beside (outside.tokensOf
      ((Chunk.ofSource source (scan source.text) limit).flatMap Chunk.functions)
      (significant (scan source.text))) record.span := by
  obtain ⟨site, front, back, formed, whole, atEnd, same⟩ := Chunk.exists_site member
  have spans : record.span = (site.record source.text.toList 0).span :=
    (congrArg FunctionRecord.span same).symm
  obtain ⟨headerLong, bodyLong, stops⟩ := formed.record_extent whole atEnd
  obtain ⟨-, own, after⟩ := formed.begins_in_span whole atEnd
  rw [← spans] at headerLong stops own after
  have inside := tokensOf_sublist
    ((Chunk.ofSource source (scan source.text) limit).flatMap Chunk.functions)
    (significant (scan source.text)) outside
  have forward : record.span.start < record.span.stop := by omega
  refine ⟨((pairwise_start_scan source.text).filter _).sublist inside, ?_, forward, ?_⟩
  · intro tok inScope
    exact start_lt_stop_of_mem_scan (mem_significant.1 (inside.subset inScope)).1
  · intro tok inScope
    have elsewhere := not_in_of_mem_outside member inScope
    have among := inside.subset inScope
    by_cases early : tok.span.start < record.span.start
    · left
      rw [whole] at among
      rcases List.mem_append.1 among with before | later
      · obtain ⟨others, header⟩ := site.headerTokens_eq
        have apart : (significant (scan source.text)).Pairwise
            (fun first second => first.span.stop ≤ second.span.start) :=
          (layout_scan source.text).pairwise_stop_le_start.filter _
        rw [whole, site.tokens_eq, header] at apart
        rw [spans, (formed.record_begins _ _).1]
        exact (List.pairwise_append.1 apart).2.2 tok before _ (List.mem_cons_self ..)
      · rcases List.mem_append.1 later with inOwn | inBack
        · have begins := (own tok inOwn).1
          omega
        · have begins := after tok inBack
          omega
    · right
      omega

end Scope

namespace RiskMatch

/-- A match of the pattern among some tokens begins at a place. -/
def BeginsAt (pattern : RiskPattern) (tokens : List Token) (place : Place) : Prop :=
  ∃ span ∈ spans pattern tokens, span.start = place.here.span.start

instance (pattern : RiskPattern) (tokens : List Token) (place : Place) :
    Decidable (BeginsAt pattern tokens place) :=
  inferInstanceAs
    (Decidable (∃ span ∈ spans pattern tokens, span.start = place.here.span.start))

section Sorted

variable {tokens : List Token} {pattern : RiskPattern}
  (sorted : tokens.Pairwise (fun first second => first.span.start < second.span.start))
include sorted

theorem start_join_ending {place : Place} (member : place ∈ Place.all tokens) :
    (place.here.span.join (ending pattern place).span).start = place.here.span.start := by
  have ahead := (Place.starts_of_mem_all sorted member).2.1
  exact Nat.min_eq_left (ahead _ (ending_mem pattern place))

theorem BeginsAt.mem_spans {place : Place} (member : place ∈ Place.all tokens)
    (begins : BeginsAt pattern tokens place) :
    place.here.span.join (ending pattern place).span ∈ spans pattern tokens := by
  obtain ⟨span, isMatch, start⟩ := begins
  obtain ⟨other, isPlace, eq⟩ := exists_place_of_mem_spans isMatch
  rw [eq, start_join_ending sorted isPlace] at start
  have symmetric : Std.Symm (fun first second : Place =>
      first.here.span.start ≠ second.here.span.start) := ⟨fun _ _ different => different.symm⟩
  have distinct := (Place.pairwise_here_all sorted).imp (fun less => Nat.ne_of_lt less)
  have same : place = other := by
    by_contra different
    exact distinct.forall isPlace member (Ne.symm different) start
  rw [same, ← eq]
  exact isMatch

end Sorted

end RiskMatch

/-- For chunks of at least one line, no finding outside functions touches a function just if no
match is left open before one: if tokens outside functions stand on both sides of a function, then
those before it close each match of a rule that begins there. -/
theorem analyze_keeps_outside_apart_iff (analyzer : Analyzer) (source : Source)
    (positive : 1 ≤ analyzer.maxChunkSize) :
    ∃ analysis, analyzer.analyze source = .ok analysis ∧
      ((∀ finding ∈ analysis.findings, finding.function = none →
          ∀ record ∈ analysis.functions, finding.span.overlaps record.span = false) ↔
        ∀ rule ∈ analyzer.risk.rules, ∀ record ∈ analysis.functions,
          let tokens := Scope.outside.tokensOf analysis.functions (significant (scan source.text))
          (∃ tok ∈ tokens, record.span.stop ≤ tok.span.start) →
          ∀ place ∈ Place.all tokens, place.here.span.start < record.span.start →
            RiskMatch.BeginsAt rule.pattern tokens place →
              RiskMatch.isClosed rule.pattern (place.upTo record.span.start) = true) := by
  refine ⟨analyzer.analysis source, analyzer.analyze_eq source positive, ?_, ?_⟩
  · intro apart rule inTable record member tokens after place isPlace early begins
    have beside : Beside tokens record.span := Scope.beside_outside member
    have found : rule.finding source.chars none
        (place.here.span.join (RiskMatch.ending rule.pattern place).span) ∈
          (analyzer.analysis source).findings := by
      rw [analyzer.findings_eq source]
      apply List.mem_append_right
      apply List.mem_flatMap.2
      exact ⟨rule, inTable, List.mem_map_of_mem (begins.mem_spans beside.sorted isPlace)⟩
    have untouched := apart _ found rfl record member
    rw [← Bool.not_eq_false]
    intro unclosed
    have touches := (beside.overlaps_iff isPlace rule.pattern).2 ⟨early, after, unclosed⟩
    exact Bool.false_ne_true (untouched.symm.trans touches)
  · intro closed finding found unattributed record member
    rw [analyzer.findings_eq source] at found
    rcases List.mem_append.1 found with inBody | isOutside
    · obtain ⟨owner, -, inScope⟩ := List.mem_flatMap.1 inBody
      cases unattributed.symm.trans (Scope.function_of_mem_findings inScope)
    · obtain ⟨rule, inTable, isMatch, -⟩ := RiskTable.exists_rule_of_mem_evaluate isOutside
      obtain ⟨place, isPlace, eq⟩ := RiskMatch.exists_place_of_mem_spans isMatch
      have beside := Scope.beside_outside member
      rw [eq, ← Bool.not_eq_true]
      intro touches
      obtain ⟨early, after, unclosed⟩ := (beside.overlaps_iff isPlace rule.pattern).1 touches
      have start : finding.span.start = place.here.span.start := by
        rw [eq]
        exact RiskMatch.start_join_ending beside.sorted isPlace
      have done := closed rule inTable record member after place isPlace early
        ⟨_, isMatch, start⟩
      exact Bool.false_ne_true (unclosed.symm.trans done)

/-- A call before a function and a dereference after it. -/
theorem analyze_keeps_outside_apart_iff_around_function :
    let analyzer : Analyzer := ⟨100, RiskTable.builtin, Thresholds.standard⟩
    let source := Source.ofText "printf(a);\nint f() \x7b\x7d\n*(p + 1) = b;"
    1 ≤ analyzer.maxChunkSize ∧ ∃ analysis, analyzer.analyze source = .ok analysis ∧
      analysis.findings.map (fun finding => (finding.function, finding.matched)) =
        [(none, "printf(a)"), (none, "*(p + 1)")] ∧
      ∀ finding ∈ analysis.findings, finding.function = none →
        ∀ record ∈ analysis.functions, finding.span.overlaps record.span = false := by
  intro analyzer source
  have positive : 1 ≤ analyzer.maxChunkSize := by decide
  obtain ⟨analysis, analyzed, apart⟩ := analyze_keeps_outside_apart_iff analyzer source positive
  refine ⟨positive, analysis, analyzed, ?_⟩
  rw [analyzer.analyze_eq source positive] at analyzed
  obtain rfl := Except.ok.inj analyzed
  refine ⟨by decide +kernel, apart.2 ?_⟩
  decide +kernel

/-- A call that is left open before a function is closed after it, and its finding covers the
function. -/
theorem analyze_matches_across_function :
    let analyzer : Analyzer := ⟨100, RiskTable.builtin, Thresholds.standard⟩
    let source := Source.ofText "printf(a,\nint f() \x7b\x7d\n);"
    ∃ analysis, analyzer.analyze source = .ok analysis ∧
      ∃ finding ∈ analysis.findings, finding.function = none ∧
        finding.matched = "printf(a,\nint f() \x7b\x7d\n)" ∧
        ∃ record ∈ analysis.functions, record.text = "int f() \x7b\x7d" ∧
          finding.span.overlaps record.span = true := by
  intro analyzer source
  refine ⟨_, analyzer.analyze_eq source (by decide), ?_⟩
  decide +kernel

end CSurvey
