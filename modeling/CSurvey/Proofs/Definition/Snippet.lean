import CSurvey.Proofs.Definition.Excerpt
import CSurvey.Proofs.Definition.Moved

/-!
# Definitions on their own

In the text of a definition the search finds that definition and nothing else,
and the record of it is the record in the whole text, moved to where the
definition stands.
-/

namespace CSurvey

theorem ofTokens?_of_isTypeWord {tok : Token} (word : isTypeWord tok = true)
    (rest : List Token) : Definition.ofTokens? (tok :: rest) = none := by
  have other : tok.isPunct "(" = false := by
    rw [← Bool.not_eq_true]
    intro opens
    rw [Token.isPunct_iff] at opens
    have notWord : isIdentifier "(" = false := by decide
    simp [isTypeWord, Token.isIdent, Token.isPunct, opens.2, notWord] at word
  simp [Definition.ofTokens?, other]

namespace Site

/-- The site among the moved tokens. -/
def moved (shift : Shift) (site : Site) : Site :=
  ⟨site.returnType.map (Token.moved shift), site.name.moved shift, site.definition.moved shift⟩

theorem first_moved (shift : Shift) (site : Site) :
    (site.moved shift).first = site.first.moved shift := by
  cases returnType : site.returnType <;> simp [first, moved, returnType]

theorem Formed.search_from {site : Site} (formed : site.Formed) (before : List Token)
    (typedBefore : ∀ tok ∈ before, isTypeWord tok = true) :
    Sites before site.tokens [⟨before.reverse ++ site.returnType, site.name, site.definition⟩] := by
  have nameWord := formed.isTypeWord_name
  obtain ⟨returnType, name, definition⟩ := site
  obtain ⟨typed, outside, isName, found⟩ := formed
  dsimp only [tokens] at nameWord typed outside isName found ⊢
  induction returnType generalizing before with
  | nil =>
    have same : ofParts before name definition = ⟨before.reverse ++ [], name, definition⟩ := by
      rw [ofParts, List.takeWhile_eq_self_iff.2 typedBefore, List.append_nil]
    rw [← List.append_nil definition.tokens] at found ⊢
    rw [← same]
    exact .site before outside isName found (.done [])
  | cons tok rest ih =>
    obtain ⟨typedTok, typedRest⟩ := List.forall_mem_cons.1 typed
    have other : startsDefinition (tok :: (rest ++ name :: definition.tokens)) = false := by
      cases rest with
      | nil => simp [startsDefinition, ofTokens?_of_isTypeWord nameWord]
      | cons next rest =>
        have word := typedRest next (List.mem_cons_self ..)
        simp [startsDefinition, ofTokens?_of_isTypeWord word]
    refine .pass other ?_
    rw [endsDeclaration_of_isTypeWord typedTok]
    have typedMore : ∀ other ∈ tok :: before, isTypeWord other = true :=
      List.forall_mem_cons.2 ⟨typedTok, typedBefore⟩
    have tail := ih (tok :: before) typedMore typedRest
    simpa using tail

/-- Among the tokens of a definition the search finds that definition only. -/
theorem Formed.search {site : Site} (formed : site.Formed) : Sites [] site.tokens [site] :=
  formed.search_from [] (by simp)

theorem first_mem_tokens (site : Site) : site.first ∈ site.tokens := by
  obtain ⟨rest, header⟩ := site.headerTokens_eq
  rw [tokens_eq, header]
  simp

/-- Tokens that are those of a definition once they are moved are those of a definition. -/
theorem Formed.exists_moved {site : Site} (formed : site.Formed) {shift : Shift}
    {own : List Token}
    (same : own.map (Token.moved shift) = site.tokens.map (Token.moved .zero)) :
    ∃ other : Site, other.Formed ∧ own = other.tokens ∧
      other.moved shift = site.moved .zero := by
  rw [tokens, List.map_append, List.map_cons] at same
  obtain ⟨returnType, rest, rfl, sameType, sameRest⟩ := List.map_eq_append_iff.1 same
  obtain ⟨name, body, rfl, sameName, sameBody⟩ := List.map_eq_cons_iff.1 sameRest
  have found := congrArg (Option.map (Definition.moved .zero)) formed.found
  rw [← Definition.ofTokens?_moved, ← sameBody, Definition.ofTokens?_moved] at found
  obtain ⟨definition, foundOwn, sameDefinition⟩ := Option.map_eq_some_iff.1 found
  obtain ⟨-, ⟨left, whole, -⟩, -⟩ := Definition.ofTokens?_eq_some foundOwn
  have nothing : left = [] := by
    have lengths := congrArg List.length sameBody
    have sizes := congrArg (fun definition => definition.tokens.length) sameDefinition
    simp only [Definition.tokens_moved, List.length_map] at lengths sizes
    rw [whole, List.length_append, sizes] at lengths
    exact List.length_eq_zero_iff.1 (by omega)
  subst nothing
  rw [List.append_nil] at whole
  refine ⟨⟨returnType, name, definition⟩, ⟨?_, ?_, ?_, whole ▸ foundOwn⟩, by rw [whole]; rfl, ?_⟩
  · intro tok member
    have inFile : tok.moved shift ∈ site.returnType.map (Token.moved .zero) :=
      sameType ▸ List.mem_map_of_mem member
    obtain ⟨other, inType, eq⟩ := List.mem_map.1 inFile
    have words : isTypeWord (other.moved .zero) = isTypeWord (tok.moved shift) := by rw [eq]
    exact words.symm.trans (formed.typed other inType)
  · exact (congrArg Token.depth sameName).trans formed.outside
  · have names : (name.moved shift).isName = (site.name.moved .zero).isName := by rw [sameName]
    exact names.trans formed.isName
  · simp only [moved, sameType, sameName, sameDefinition]

end Site

/-- The record that many bytes and lines further on. -/
def FunctionRecord.moved (shift : Shift) (record : FunctionRecord) : FunctionRecord :=
  { record with span := record.span.moved shift, body := record.body.moved shift }

theorem Definition.lastToken_moved (shift : Shift) (definition : Definition) :
    (definition.moved shift).lastToken = definition.lastToken.moved shift := by
  cases brace : definition.closeBrace with
  | some close => simp [lastToken, moved, brace]
  | none => simp [lastToken, moved, brace, List.getLastD_eq_getLast?]

theorem countCalls_of_moved_eq {shift : Shift} {own tokens : List Token}
    (same : own.map (Token.moved shift) = tokens.map (Token.moved .zero)) :
    countCalls tokens = countCalls own := by
  rw [← countCalls_moved .zero, ← same, countCalls_moved]

theorem measure_of_moved_eq {shift : Shift} {own tokens ownParams params : List Token}
    (same : own.map (Token.moved shift) = tokens.map (Token.moved .zero))
    (sameParams : ownParams.map (Token.moved shift) = params.map (Token.moved .zero))
    (depth : Nat) (text : List Char) :
    measure tokens depth params text = measure own depth ownParams text := by
  rw [← measure_moved .zero, ← same, ← sameParams, measure_moved]

theorem Token.span_of_moved_eq {shift : Shift} {own tok : Token}
    (same : own.moved shift = tok.moved .zero) : tok.span = own.span.moved shift :=
  (congrArg Token.span same).symm

def Definition.ending (definition : Definition) (cs : List Char) : Nat × Nat :=
  match definition.closeBrace with
  | some brace => (brace.span.stop, brace.span.endLine)
  | none => (Text.byteLength cs, definition.lastToken.span.endLine)

theorem Definition.ending_moved {shift : Shift} {own definition : Definition}
    (same : own.moved shift = definition.moved .zero) {cs part : List Char}
    (atEnd : definition.closeBrace = none →
      Text.byteLength cs = Text.byteLength part + shift.bytes) :
    definition.ending cs =
      ((own.ending part).1 + shift.bytes, (own.ending part).2 + shift.lines) := by
  have braces : own.closeBrace.map (Token.moved shift) =
      definition.closeBrace.map (Token.moved .zero) := congrArg closeBrace same
  have last := Token.span_of_moved_eq
    (by rw [← lastToken_moved, same, lastToken_moved] :
      own.lastToken.moved shift = definition.lastToken.moved .zero)
  cases brace : definition.closeBrace with
  | none =>
    rw [brace] at braces
    have unclosed : own.closeBrace = none := by simpa using braces
    simp [ending, brace, unclosed, atEnd brace, last, Span.moved]
  | some close =>
    rw [brace] at braces
    obtain ⟨ownClose, ownBrace, sameClose⟩ := Option.map_eq_some_iff.1 braces
    simp [ending, brace, ownBrace, Token.span_of_moved_eq sameClose, Span.moved]

theorem fits_of_mem_significant {part : List Char} {tok : Token}
    (member : tok ∈ significant (scan (String.ofList part))) : tok.span.Fits part := by
  have fits := fits_of_mem_scan (mem_significant.1 member).1
  rwa [String.toList_ofList] at fits

theorem Definition.isBoundary_ending {definition : Definition} {part : List Char}
    (fits : ∀ tok ∈ definition.tokens, tok.span.Fits part) :
    Text.IsBoundary part (definition.ending part).1 := by
  cases brace : definition.closeBrace with
  | none => simpa [ending, brace] using Text.isBoundary_byteLength part
  | some close =>
    have inside : close ∈ definition.tokens := by simp [tokens, bodyTokens, brace]
    simpa [ending, brace] using (fits close inside).2

theorem Site.Formed.record_eq {site : Site} (formed : site.Formed) (cs : List Char) :
    let definition := site.definition
    let ending := definition.ending cs
    let opening := definition.openBrace.span
    let calls := countCalls definition.inner
    site.record cs 0 =
      { name := site.name.text
        ordinal := 1
        signature := Text.collapse
          (Text.slice cs site.first.span.start definition.closeParen.span.stop)
        returnType := Text.collapse (Text.slice cs site.first.span.start site.name.span.start)
        params := Text.collapse
          (Text.slice cs definition.openParen.span.stop definition.closeParen.span.start)
        chunkId := 0
        span := ⟨site.first.span.start, ending.1, site.first.span.line, ending.2⟩
        body := ⟨opening.start, ending.1, opening.line, ending.2⟩
        text := String.ofList (Text.slice cs site.first.span.start ending.1)
        incomplete := definition.closeBrace.isNone
        calls
        metrics :=
          { measure definition.inner (definition.openBrace.depth + 1) definition.params
              (Text.slice cs opening.start ending.1) with
            callCount := calls.total } } := by
  have typed : site.returnType.reverse.takeWhile isTypeWord = site.returnType.reverse :=
    List.takeWhile_eq_self_iff.2 (by simpa using formed.typed)
  have first : (site.returnType.reverse.getLastD site.name) = site.first := by
    rw [List.getLastD_eq_getLast?, List.getLast?_reverse, Site.first, List.headD_eq_head?_getD]
  cases brace : site.definition.closeBrace <;>
    simp only [record, Definition.record, typed, first, Definition.ending, brace]

theorem Site.Formed.record_moved {site own : Site} (formed : site.Formed) (ownFormed : own.Formed)
    {cs part before after : List Char} {lines : Nat} (whole : cs = before ++ (part ++ after))
    (same : own.moved ⟨Text.byteLength before, lines⟩ = site.moved .zero)
    (fits : ∀ tok ∈ own.tokens, tok.span.Fits part)
    (stops : site.definition.closeBrace = none → after = []) :
    (own.record part 0).moved ⟨Text.byteLength before, lines⟩ = site.record cs 0 := by
  have first := Token.span_of_moved_eq
    (by rw [← first_moved, same, first_moved] : own.first.moved _ = site.first.moved .zero)
  have name : own.name.moved _ = site.name.moved .zero := congrArg Site.name same
  have definition : own.definition.moved _ = site.definition.moved .zero :=
    congrArg Site.definition same
  have ending : site.definition.ending cs =
      ((own.definition.ending part).1 + Text.byteLength before,
        (own.definition.ending part).2 + lines) := by
    refine Definition.ending_moved definition (fun unclosed => ?_)
    rw [whole, stops unclosed, List.append_nil, Text.byteLength_append, Nat.add_comm]
  have slices {start stop : Nat} (begins : Text.IsBoundary part start)
      (ends : Text.IsBoundary part stop) :
      Text.slice cs (start + Text.byteLength before) (stop + Text.byteLength before) =
        Text.slice part start stop :=
    whole ▸ Text.slice_part begins ends before after
  -- The places at which the record cuts the text are the ends of tokens, or the end of the text.
  have firstFits := (fits own.first own.first_mem_tokens).1
  have nameFits := (fits own.name (by simp [tokens])).1
  have openParenFits := (fits own.definition.openParen
    (by simp [tokens, Definition.tokens, Definition.header])).2
  have closeParenFits := fits own.definition.closeParen
    (by simp [tokens, Definition.tokens, Definition.header])
  have openBraceFits := (fits own.definition.openBrace (by simp [tokens, Definition.tokens])).1
  have endFits : Text.IsBoundary part (own.definition.ending part).1 :=
    Definition.isBoundary_ending (fun tok member => fits tok (by simp [tokens, member]))
  have inner : own.definition.inner.map (Token.moved _) =
      site.definition.inner.map (Token.moved .zero) := congrArg Definition.inner definition
  have params : own.definition.params.map (Token.moved _) =
      site.definition.params.map (Token.moved .zero) := congrArg Definition.params definition
  have calls := countCalls_of_moved_eq inner
  have measures := measure_of_moved_eq inner params
  have depth : site.definition.openBrace.depth = own.definition.openBrace.depth :=
    (congrArg (fun definition => definition.openBrace.depth) definition).symm
  have incomplete : site.definition.closeBrace.isNone = own.definition.closeBrace.isNone := by
    have braces := congrArg (fun definition => definition.closeBrace.isNone) definition
    simpa [Definition.moved] using braces.symm
  have text : site.name.text = own.name.text := (congrArg Token.text name).symm
  rw [ownFormed.record_eq, formed.record_eq, ending]
  simp only [FunctionRecord.moved, Span.moved, text, first, calls, measures, depth, incomplete,
    Token.span_of_moved_eq (congrArg Definition.openParen definition),
    Token.span_of_moved_eq (congrArg Definition.closeParen definition),
    Token.span_of_moved_eq (congrArg Definition.openBrace definition),
    Token.span_of_moved_eq name, slices firstFits closeParenFits.2, slices firstFits nameFits,
    slices openParenFits closeParenFits.1, slices firstFits endFits, slices openBraceFits endFits]

/-- Where a record stands in its text. -/
def FunctionRecord.place (record : FunctionRecord) : Shift :=
  ⟨record.span.start, record.span.line - 1⟩

/-- A text that is the text of a definition in another text: its own definition is that one, moved
to where that one stands. -/
structure Site.Twin (site : Site) (text : String) (own : Site) (part : List Char) : Prop where
  ownFormed : own.Formed
  ownTokens : significant (scan (String.ofList part)) = own.tokens
  cut : (site.record text.toList 0).text = String.ofList part
  parts : ∃ before after, text.toList = before ++ (part ++ after) ∧
    (site.record text.toList 0).place = ⟨Text.byteLength before, before.count '\n'⟩
  same : own.moved (site.record text.toList 0).place = site.moved .zero
  moves : (own.record part 0).moved (site.record text.toList 0).place = site.record text.toList 0

theorem Site.Twin.fits {site own : Site} {text : String} {part : List Char}
    (twin : site.Twin text own part) {tok : Token} (member : tok ∈ own.tokens) :
    tok.span.Fits part :=
  fits_of_mem_significant (twin.ownTokens ▸ member)

theorem Site.Formed.exists_twin {text : String} {site : Site} (formed : site.Formed)
    {front back : List Token} (whole : significant (scan text) = front ++ (site.tokens ++ back))
    (atEnd : site.definition.closeBrace = none → back = []) :
    ∃ own part, site.Twin text own part := by
  obtain ⟨before, part, tokens, excerpt, kept, start, line, stop⟩ :=
    formed.exists_excerpt whole atEnd
  have sameTokens : (significant (scan (String.ofList part))).map
      (Token.moved ⟨Text.byteLength before, before.count '\n'⟩) =
        site.tokens.map (Token.moved .zero) := by
    rw [← significant_moved, excerpt.scan_own, significant_moved, kept]
  obtain ⟨own, ownFormed, ownTokens, same⟩ := formed.exists_moved sameTokens
  obtain ⟨after, text_eq⟩ := excerpt.isPrefix
  rw [List.append_assoc] at text_eq
  have fits : ∀ tok ∈ own.tokens, tok.span.Fits part := by
    intro tok inOwn
    exact fits_of_mem_significant (ownTokens ▸ inOwn)
  have begins := formed.record_begins text.toList 0
  have place : (site.record text.toList 0).place =
      ⟨Text.byteLength before, before.count '\n'⟩ := by
    rw [FunctionRecord.place, begins.1, begins.2, start, line, Nat.add_sub_cancel_left]
  have stops : site.definition.closeBrace = none → after = [] := by
    intro unclosed
    have ends := stop
    rw [formed.record_eq] at ends
    simp only [Definition.ending, unclosed, ← text_eq, Text.byteLength_append] at ends
    exact Text.byteLength_eq_zero.1 (by omega)
  have record := formed.record_moved ownFormed text_eq.symm same fits stops
  rw [← place] at same record
  refine ⟨own, part, ownFormed, ownTokens, ?_, ⟨before, after, text_eq.symm, place⟩, same, record⟩
  rw [formed.record_eq] at stop ⊢
  dsimp only at stop ⊢
  rw [start, stop, Text.slice_of_append before part after text_eq.symm]

end CSurvey
