import CSurvey.Proofs.Analysis.Keys
import CSurvey.Proofs.Chunk.Functions

/-!
# The scopes of functions

Each function of an analysis is a definition among the tokens of the whole text,
and the scope in which it is scored holds exactly the tokens of that definition
from the opening brace on.
-/

namespace CSurvey

theorem filter_middle {test : Token → Bool} {front middle back : List Token}
    (early : ∀ tok ∈ front, test tok = false) (inside : ∀ tok ∈ middle, test tok = true)
    (late : ∀ tok ∈ back, test tok = false) :
    (front ++ (middle ++ back)).filter test = middle := by
  rw [List.filter_append, List.filter_append, List.filter_eq_nil_iff.2 (by simpa using early),
    List.filter_eq_self.2 inside, List.filter_eq_nil_iff.2 (by simpa using late),
    List.nil_append, List.append_nil]

section Between

variable {text : String} {front back : List Token} {mid tok : Token}
  (whole : significant (scan text) = front ++ mid :: back)
include whole

theorem start_lt_of_mem_front (member : tok ∈ front) : tok.span.start < mid.span.start := by
  have sorted : (significant (scan text)).Pairwise
      (fun first second => first.span.start < second.span.start) :=
    (pairwise_start_scan text).filter _
  rw [whole] at sorted
  exact (List.pairwise_append.1 sorted).2.2 tok member mid (List.mem_cons_self ..)

theorem stop_le_start_of_mem_back (member : tok ∈ back) : mid.span.stop ≤ tok.span.start := by
  have apart : (significant (scan text)).Pairwise
      (fun first second => first.span.stop ≤ second.span.start) :=
    (layout_scan text).pairwise_stop_le_start.filter _
  rw [whole] at apart
  exact (List.pairwise_cons.1 (List.pairwise_append.1 apart).2.1).1 tok member

theorem start_le_of_mem (member : tok ∈ mid :: back) : mid.span.start ≤ tok.span.start := by
  rcases List.mem_cons.1 member with rfl | later
  · exact Nat.le_refl _
  · have after := stop_le_start_of_mem_back whole later
    have kept : mid ∈ significant (scan text) := by simp [whole]
    have long := start_lt_stop_of_mem_scan (mem_significant.1 kept).1
    omega

end Between

theorem Site.long_of_mem_body {text : String} {site : Site} {front back : List Token}
    (whole : significant (scan text) = front ++ (site.tokens ++ back)) {tok : Token}
    (inside : tok ∈ site.definition.openBrace :: site.definition.bodyTokens) :
    tok.span.start < tok.span.stop ∧ tok.span.stop ≤ Text.byteLength text.toList := by
  have own : tok ∈ site.tokens := by
    rw [tokens_eq]
    exact List.mem_append_right _ inside
  have kept : tok ∈ significant (scan text) := by simp [whole, own]
  have inText := (mem_significant.1 kept).1
  exact ⟨start_lt_stop_of_mem_scan inText, stop_le_byteLength_of_mem_scan inText⟩

theorem Site.stop_le_ending {text : String} {site : Site} {front back : List Token}
    (whole : significant (scan text) = front ++ (site.tokens ++ back)) {tok : Token}
    (inside : tok ∈ site.definition.openBrace :: site.definition.bodyTokens) :
    tok.span.stop ≤ (site.definition.ending text.toList).1 := by
  cases brace : site.definition.closeBrace with
  | none =>
    simp only [Definition.ending, brace]
    exact (long_of_mem_body whole inside).2
  | some close =>
    have body : site.definition.bodyTokens = site.definition.inner ++ [close] := by
      simp [Definition.bodyTokens, brace]
    have closeLong := (long_of_mem_body whole (show close ∈ _ by simp [body])).1
    simp only [Definition.ending, brace]
    rw [body, ← List.cons_append] at inside
    rcases List.mem_append.1 inside with inner | last
    · obtain ⟨early, late, split⟩ := List.append_of_mem inner
      have around : significant (scan text) =
          (front ++ (site.headerTokens ++ early)) ++ tok :: (late ++ close :: back) := by
        rw [whole, tokens_eq, body, ← List.cons_append, split]
        simp
      have ahead := stop_le_start_of_mem_back around
        (show close ∈ late ++ close :: back by simp)
      omega
    · rw [List.mem_singleton.1 last]

/-- The text of a definition ends after its own tokens and before all that follow. -/
theorem Site.start_lt_ending {text : String} {site : Site} {front back : List Token}
    (whole : significant (scan text) = front ++ (site.tokens ++ back))
    (atEnd : site.definition.closeBrace = none → back = []) :
    (∀ tok ∈ site.definition.openBrace :: site.definition.bodyTokens,
        tok.span.start < (site.definition.ending text.toList).1) ∧
      ∀ tok ∈ back, (site.definition.ending text.toList).1 ≤ tok.span.start := by
  constructor
  · intro tok member
    exact Nat.lt_of_lt_of_le (long_of_mem_body whole member).1 (stop_le_ending whole member)
  · intro tok member
    cases brace : site.definition.closeBrace with
    | none =>
      rw [atEnd brace] at member
      cases member
    | some close =>
      simp only [Definition.ending, brace]
      have around : significant (scan text) = (front ++ (site.headerTokens ++
          site.definition.openBrace :: site.definition.inner)) ++ close :: back := by
        simp [whole, tokens_eq, Definition.bodyTokens, brace]
      exact stop_le_start_of_mem_back around member

theorem Site.Formed.tokensWithin_body {text : String} {site : Site} (formed : site.Formed)
    {front back : List Token} (whole : significant (scan text) = front ++ (site.tokens ++ back))
    (atEnd : site.definition.closeBrace = none → back = []) :
    tokensWithin (significant (scan text)) (site.record text.toList 0).body =
      site.definition.openBrace :: site.definition.bodyTokens := by
  obtain ⟨early, late⟩ := Site.start_lt_ending whole atEnd
  have around : significant (scan text) = (front ++ site.headerTokens) ++
      site.definition.openBrace :: (site.definition.bodyTokens ++ back) := by
    simp [whole, Site.tokens_eq]
  have begins : ∀ tok ∈ site.definition.openBrace :: site.definition.bodyTokens,
      site.definition.openBrace.span.start ≤ tok.span.start := by
    intro tok member
    apply start_le_of_mem around
    rw [← List.cons_append]
    exact List.mem_append_left _ member
  rw [formed.record_eq, whole, Site.tokens_eq, List.append_assoc, ← List.append_assoc]
  refine filter_middle (fun tok member => ?_) (fun tok member => ?_) (fun tok member => ?_)
  · simp [Nat.not_le.2 (start_lt_of_mem_front around member)]
  · simp [begins tok member, early tok member]
  · simp [Nat.not_lt.2 (late tok member)]

theorem Analyzer.exists_site {analyzer : Analyzer} {source : Source} {record : FunctionRecord}
    (member : record ∈ (analyzer.analysis source).functions) :
    ∃ (site : Site) (front back : List Token), site.Formed ∧
      significant (scan source.text) = front ++ (site.tokens ++ back) ∧
      (site.definition.closeBrace = none → back = []) ∧
      site.record source.chars 0 = { record with chunkId := 0, ordinal := 1 } :=
  Chunk.exists_site member

end CSurvey
