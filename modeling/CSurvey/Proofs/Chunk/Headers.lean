import CSurvey.Proofs.Chunk.Cuts

/-!
# Clean lines in headers

A header has no semicolon and no brace, so a clean line can lie in it for one
reason only: a directive stands there.  Conversely the last directive in a header
ends at a clean line.
-/

namespace CSurvey

theorem exists_last_of_mem {tokens : List Token} {test : Token → Bool} {tok : Token}
    (member : tok ∈ tokens) (holds : test tok = true) :
    ∃ front last back, tokens = front ++ last :: back ∧ test last = true ∧
      ∀ other ∈ back, test other = false := by
  induction tokens generalizing tok with
  | nil => simp at member
  | cons head rest ih =>
    by_cases later : ∃ other ∈ rest, test other = true
    · obtain ⟨other, inRest, holds⟩ := later
      obtain ⟨front, last, back, rfl, lastHolds, noneAfter⟩ := ih inRest holds
      exact ⟨head :: front, last, back, rfl, lastHolds, noneAfter⟩
    · rcases List.mem_cons.1 member with rfl | inRest
      · exact ⟨[], tok, rest, rfl, holds, by simpa using later⟩
      · exact absurd ⟨tok, inRest, holds⟩ later

/-- What begins before a token of a text precedes it. -/
theorem mem_front_of_start_lt {text : String} {front back : List Token} {last tok : Token}
    (whole : scan text = front ++ last :: back) (inText : tok ∈ scan text)
    (less : tok.span.start < last.span.start) : tok ∈ front := by
  have sorted := pairwise_start_scan text
  rw [whole] at sorted inText
  obtain ⟨-, sorted, -⟩ := List.pairwise_append.1 sorted
  rcases List.mem_append.1 inText with inFront | later
  · exact inFront
  · rcases List.mem_cons.1 later with rfl | inBack
    · exact absurd less (Nat.lt_irrefl _)
    · exact absurd ((List.pairwise_cons.1 sorted).1 tok inBack) (Nat.lt_asymm less)

theorem endLine_lt_of_directive {text : String} {before after back : List Token}
    {last code : Token} (whole : scan text = before ++ last :: (after ++ code :: back))
    (directive : last.directive = true) (plain : ∀ tok ∈ after, tok.directive = false)
    (codePlain : code.directive = false) :
    ∀ tok ∈ after ++ code :: back, last.span.endLine < tok.span.line := by
  have ends := pairwise_directive_scan text
  have lines := pairwise_line_scan text
  rw [whole] at ends lines
  obtain ⟨ends, -⟩ := List.pairwise_cons.1 (List.pairwise_append.1 ends).2.1
  obtain ⟨-, lines⟩ := List.pairwise_cons.1 (List.pairwise_append.1 lines).2.1
  obtain ⟨-, lines, -⟩ := List.pairwise_append.1 lines
  have codeLate := ends code (List.mem_append_right _ (List.mem_cons_self ..)) directive codePlain
  intro tok later
  rcases List.mem_append.1 later with inAfter | later
  · exact ends tok (List.mem_append_left _ inAfter) directive (plain tok inAfter)
  · rcases List.mem_cons.1 later with rfl | inBack
    · exact codeLate
    · exact Nat.lt_of_lt_of_le codeLate ((List.pairwise_cons.1 lines).1 tok inBack)

/-- Whether a token is a comment outside directives. -/
def Token.isRemark (tok : Token) : Bool :=
  tok.isComment && !tok.directive

namespace LineState

theorem clean_step_of_isRemark {tok : Token} (remark : tok.isRemark = true) (state : LineState) :
    (step state tok).clean = state.clean := by
  obtain ⟨comment, outside⟩ : tok.isComment = true ∧ tok.directive = false := by
    simpa [Token.isRemark] using remark
  cases kind : tok.kind <;>
    simp [Token.isComment, TokenKind.isComment, kind] at comment <;>
    simp [step, Token.isCode, TokenKind.isLiteral, kind, outside]

theorem ends_of_clean_step {tok : Token} {state : LineState} (other : tok.isRemark = false)
    (clean : (step state tok).clean = true) :
    tok.directive = true ∨ tok.isPunct Token.closeBrace = true ∨ tok.isPunct ";" = true := by
  cases directive : tok.directive with
  | true => exact Or.inl rfl
  | false =>
    have code : tok.isCode = true := by
      cases kind : tok.kind <;>
        simp [step, Token.isCode, TokenKind.isLiteral, kind, directive, Token.isRemark,
          Token.isComment, TokenKind.isComment] at clean other ⊢
    simpa [step, directive, code, Token.isPunct] using clean

/-- What comes last before a clean line, comments apart. -/
theorem exists_last_of_clean {tokens : List Token} {state : LineState}
    (clean : (tokens.foldl step state).clean = true) :
    ((∀ tok ∈ tokens, tok.isRemark = true) ∧ state.clean = true) ∨
      ∃ (front : List Token) (last : Token) (back : List Token), tokens = front ++ last :: back ∧
        (∀ tok ∈ back, tok.isRemark = true) ∧
        (last.directive = true ∨ last.isPunct Token.closeBrace = true ∨
          last.isPunct ";" = true) := by
  induction tokens generalizing state with
  | nil => exact Or.inl ⟨by simp, clean⟩
  | cons tok rest ih =>
    rcases ih clean with ⟨remarks, clean⟩ | ⟨front, last, back, rfl, remarks, ends⟩
    · cases remark : tok.isRemark with
      | true =>
        rw [clean_step_of_isRemark remark] at clean
        exact Or.inl ⟨List.forall_mem_cons.2 ⟨remark, remarks⟩, clean⟩
      | false => exact Or.inr ⟨[], tok, rest, rfl, remarks, ends_of_clean_step remark clean⟩
    · exact Or.inr ⟨tok :: front, last, back, rfl, remarks, ends⟩

end LineState

/-- The line on which a directive ends is clean if no brace is open there and nothing else
begins on it. -/
theorem isCleanLine_of_directive {text : String} {front back : List Token} {last : Token}
    (whole : scan text = front ++ last :: back) (directive : last.directive = true)
    (apart : ∀ tok ∈ back, last.span.endLine < tok.span.line)
    (nested : Nested 0 (front ++ [last]) 0) :
    isCleanLine (scan text) last.span.endLine = true := by
  have inText : last ∈ scan text := by simp [whole]
  have ordered := line_le_endLine_of_mem_scan inText
  have sorted := (layout_scan text).pairwise_endLine_le_line
  rw [whole, List.pairwise_append] at sorted
  obtain ⟨-, -, before⟩ := sorted
  have within : ∀ tok ∈ front ++ [last], tok.span.endLine ≤ last.span.endLine := by
    intro tok member
    rcases List.mem_append.1 member with inFront | isLast
    · exact Nat.le_trans (before tok inFront last (List.mem_cons_self ..)) ordered
    · rw [List.mem_singleton.1 isLast]
  have begins : ∀ tok ∈ front ++ [last], tok.span.line ≤ last.span.endLine := by
    intro tok member
    have inText : tok ∈ scan text := by
      rw [whole, List.append_cons]
      exact List.mem_append_left _ member
    exact Nat.le_trans (line_le_endLine_of_mem_scan inText) (within tok member)
  have upTo : tokensUpTo (scan text) last.span.endLine = front ++ [last] := by
    rw [whole, List.append_cons, tokensUpTo, List.filter_append,
      List.filter_eq_self.2 (by simpa using begins),
      List.filter_eq_nil_iff.2 (by simpa using apart), List.append_nil]
  rw [isCleanLine_scan_iff, upTo]
  refine ⟨(show Nested LineState.initial.depth _ 0 from nested).depth_foldl, ?_, within⟩
  rw [List.foldl_append, List.foldl_cons, List.foldl_nil, LineState.step, if_pos directive]

namespace Sites

variable {text : String} {sites : List Site} {site : Site}

theorem mem_headerTokens {tokens : List Token} (search : Sites [] tokens sites)
    (member : site ∈ sites)
    (sorted : tokens.Pairwise (fun first second => first.span.start < second.span.start))
    {tok : Token} (inTokens : tok ∈ tokens) (begins : site.first.span.start ≤ tok.span.start)
    (ends : tok.span.start < site.definition.openBrace.span.start) :
    tok ∈ site.headerTokens := by
  obtain ⟨front, back, eq, -⟩ := search.exists_context member
  obtain ⟨others, header⟩ := site.headerTokens_eq
  rw [Site.tokens_eq] at eq
  rw [eq, List.pairwise_append, List.append_assoc, List.pairwise_append, List.cons_append,
    List.pairwise_cons] at sorted
  obtain ⟨-, ⟨-, ⟨afterBrace, -⟩, -⟩, beforeFirst⟩ := sorted
  rw [eq] at inTokens
  simp only [List.mem_append, List.mem_cons, List.append_assoc, List.cons_append] at inTokens
  rcases inTokens with early | inside | rfl | body
  · have apart := beforeFirst tok early site.first (by simp [header])
    omega
  · exact inside
  · omega
  · have apart := afterBrace tok (by simpa using body)
    omega

theorem first_mem {tokens : List Token} (search : Sites [] tokens sites) (member : site ∈ sites) :
    site.first ∈ tokens := by
  obtain ⟨front, back, eq, -⟩ := search.exists_context member
  obtain ⟨others, header⟩ := site.headerTokens_eq
  rw [Site.tokens_eq, header] at eq
  rw [eq]
  simp

theorem openBrace_mem {tokens : List Token} (search : Sites [] tokens sites)
    (member : site ∈ sites) : site.definition.openBrace ∈ tokens := by
  obtain ⟨front, back, eq, -⟩ := search.exists_context member
  rw [Site.tokens_eq] at eq
  rw [eq]
  simp

variable (search : Sites [] (significant (scan text)) sites) (member : site ∈ sites)
include search member

theorem isBrace_of_between {tok : Token} (inText : tok ∈ scan text)
    (outside : tok.directive = false) (begins : site.first.span.start ≤ tok.span.start)
    (ends : tok.span.start < site.definition.openBrace.span.start) : tok.isBrace = false := by
  by_cases keeps : tok.isSignificant = true
  · have inHeader := search.mem_headerTokens member ((pairwise_start_scan text).filter _)
      (mem_significant.2 ⟨inText, keeps⟩) begins ends
    exact Definition.isBrace_of_isParameter
      ((search.formed member).isParameter_of_mem_headerTokens inHeader)
  · rcases Token.isComment_or_directive (by simpa using keeps) with comment | directive
    · simp [Token.isBrace, Token.isPunct_of_isComment comment]
    · cases outside.symm.trans directive

theorem exists_directive_of_crosses {line : Nat} (clean : isCleanLine (scan text) line = true)
    (crosses : site.Crosses line) :
    ∃ tok ∈ scan text, tok.directive = true ∧ site.first.span.start < tok.span.start ∧
      tok.span.start < site.definition.openBrace.span.start := by
  have sorted := pairwise_start_scan text
  have halves := tokensUpTo_append_tokensAfter (pairwise_line_scan text) line
  have ⟨firstInText, firstKept⟩ := mem_significant.1 (search.first_mem member)
  have braceInText := (mem_significant.1 (search.openBrace_mem member)).1
  have firstEarly := mem_tokensUpTo.2 ⟨firstInText, crosses.1⟩
  have braceLate := mem_tokensAfter.2 ⟨braceInText, crosses.2⟩
  have notRemark : site.first.isRemark = false := by
    simp_all [Token.isSignificant, Token.isRemark]
  rcases LineState.exists_last_of_clean (isCleanLine_scan_iff.1 clean).2.1 with
    ⟨remarks, -⟩ | ⟨front, last, back, eq, remarks, ends⟩
  · cases notRemark.symm.trans (remarks _ firstEarly)
  rw [← halves, List.pairwise_append] at sorted
  obtain ⟨sortedEarly, -, beforeLate⟩ := sorted
  have lastEarly : last ∈ tokensUpTo (scan text) line := by simp [eq]
  have lastInText := (mem_tokensUpTo.1 lastEarly).1
  have beforeBrace := beforeLate last lastEarly _ braceLate
  rw [eq] at firstEarly sortedEarly
  obtain ⟨-, -, beforeLast⟩ := List.pairwise_append.1 sortedEarly
  have order : site.first = last ∨ site.first.span.start < last.span.start := by
    simp only [List.mem_append, List.mem_cons] at firstEarly
    rcases firstEarly with inFront | same | inBack
    · exact Or.inr (beforeLast _ inFront last (List.mem_cons_self ..))
    · exact Or.inl same
    · cases notRemark.symm.trans (remarks _ inBack)
  cases directive : last.directive with
  | true =>
    refine ⟨last, lastInText, directive, ?_, beforeBrace⟩
    rcases order with same | less
    · rw [← same, directive_of_mem_significant (search.first_mem member)] at directive
      cases directive
    · exact less
  | false =>
    -- A semicolon or a brace of code would be a token of the header.
    simp only [directive, Bool.false_eq_true, false_or] at ends
    have keeps : last.isSignificant = true := by
      rcases ends with mark | mark <;>
        simp [Token.isSignificant, Token.isComment, (Token.isPunct_iff.1 mark).1,
          TokenKind.isComment, directive]
    have begins : site.first.span.start ≤ last.span.start := by
      rcases order with same | less
      · rw [same]
      · exact Nat.le_of_lt less
    have inHeader := search.mem_headerTokens member ((pairwise_start_scan text).filter _)
      (mem_significant.2 ⟨lastInText, keeps⟩) begins beforeBrace
    have parameter := (search.formed member).isParameter_of_mem_headerTokens inHeader
    rcases ends with mark | mark <;> simp [Definition.isParameter, mark] at parameter

theorem nested_of_directive {before after back : List Token} {last : Token}
    (whole : scan text = before ++ last :: (after ++ site.definition.openBrace :: back))
    (plain : ∀ tok ∈ after, tok.directive = false)
    (begins : site.first.span.start < last.span.start) : Nested 0 (before ++ [last]) 0 := by
  obtain ⟨_, nested⟩ := nested_scan text
  obtain ⟨front, rest, tokens, -⟩ := search.exists_context member
  have braceDepth := ((search.formed member).depth_eq_zero (tokens ▸ nested.significant)).2
  have sorted := pairwise_start_scan text
  rw [whole] at sorted
  obtain ⟨lastFirst, sorted⟩ := List.pairwise_cons.1 (List.pairwise_append.1 sorted).2.1
  obtain ⟨-, -, beforeBrace⟩ := List.pairwise_append.1 sorted
  rw [whole, List.append_cons] at nested
  obtain ⟨middle, nested, rest⟩ := Nested.append_iff.1 nested
  obtain ⟨_, between, brace⟩ := Nested.append_iff.1 rest
  have noBrace : ∀ tok ∈ after, tok.isBrace = false := by
    intro tok inAfter
    have afterLast := lastFirst tok (List.mem_append_left _ inAfter)
    exact search.isBrace_of_between member (by simp [whole, inAfter]) (plain tok inAfter)
      (Nat.le_of_lt (Nat.lt_trans begins afterLast))
      (beforeBrace tok inAfter _ (List.mem_cons_self ..))
  obtain ⟨rfl, -⟩ := between.of_not_isBrace noBrace
  have opening := Token.isClosing_of_isPunct_openBrace (search.formed member).definition.openBrace
  have depth := brace.1
  rw [opening, if_neg Bool.false_ne_true, braceDepth] at depth
  rwa [← depth] at nested

theorem exists_crosses_of_directive {tok : Token} (inText : tok ∈ scan text)
    (directive : tok.directive = true) (begins : site.first.span.start < tok.span.start)
    (ends : tok.span.start < site.definition.openBrace.span.start) :
    ∃ line, isCleanLine (scan text) line = true ∧ site.Crosses line := by
  have braceInSignificant := search.openBrace_mem member
  have bracePlain := directive_of_mem_significant braceInSignificant
  obtain ⟨front, back, whole⟩ := List.append_of_mem (mem_significant.1 braceInSignificant).1
  have inFront := mem_front_of_start_lt whole inText ends
  -- The last directive before the brace ends at the line in question.
  obtain ⟨before, last, after, rfl, lastDirective, plain⟩ :=
    exists_last_of_mem inFront directive
  rw [List.append_assoc, List.cons_append] at whole
  have sorted := pairwise_start_scan text
  have lines := pairwise_line_scan text
  rw [whole] at sorted lines
  obtain ⟨-, -, beforeLast⟩ := List.pairwise_append.1 sorted
  obtain ⟨-, -, linesBefore⟩ := List.pairwise_append.1 lines
  have begins : site.first.span.start < last.span.start := by
    rcases List.mem_append.1 inFront with inBefore | later
    · exact Nat.lt_trans begins (beforeLast tok inBefore last (List.mem_cons_self ..))
    · rcases List.mem_cons.1 later with rfl | inAfter
      · exact begins
      · cases directive.symm.trans (plain tok inAfter)
  have nested := search.nested_of_directive member whole plain begins
  have apart := endLine_lt_of_directive whole lastDirective plain bracePlain
  have firstBefore := mem_front_of_start_lt whole
    (mem_significant.1 (search.first_mem member)).1 begins
  refine ⟨last.span.endLine, isCleanLine_of_directive whole lastDirective apart nested, ?_, ?_⟩
  · have ordered := line_le_endLine_of_mem_scan (by simp [whole] : last ∈ scan text)
    exact Nat.le_trans (linesBefore _ firstBefore last (List.mem_cons_self ..)) ordered
  · exact apart _ (List.mem_append_right _ (List.mem_cons_self ..))

end Sites

end CSurvey
