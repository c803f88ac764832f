import CSurvey.Pattern.Parse
import CSurvey.Proofs.Definition.Recognition
import CSurvey.Proofs.Token.Lines
import CSurvey.Search.Basic

/-!
# Definitions among the hits of a search

A search for functions marks the hits that are names of definitions, and a search of
the whole text those that begin in one.  Both tell it from the tokens around the
name, and so they agree with the records of the text.
-/

namespace CSurvey

/-- A token names the definition that a record of the text describes. -/
def IsNameOf (text : String) (chunkId : Nat) (name : Token) (record : FunctionRecord) : Prop :=
  ∃ index, (significant (scan text))[index]? = some name ∧
    recordAt? text.toList (significant (scan text)) chunkId index = some record

section Names

variable {text : String} {chunkId : Nat} {name : Token} {record : FunctionRecord}

theorem isNameOf_iff :
    IsNameOf text chunkId name record ↔
      ∃ front back definition, significant (scan text) = front ++ name :: back ∧
        startsDefinition (name :: back) = true ∧ Definition.ofTokens? back = some definition ∧
        record = definition.record text.toList front.reverse name chunkId := by
  constructor
  · rintro ⟨index, here, found⟩
    obtain ⟨inside, rfl⟩ := List.getElem?_eq_some_iff.1 here
    have whole := List.take_append_drop index (significant (scan text))
    have rest := List.drop_eq_getElem_cons inside
    rw [recordAt?] at found
    split at found
    case isFalse => cases found
    rename_i defines
    rw [definesAt, rest] at defines
    rw [rest] at found whole
    obtain ⟨definition, isDefinition, same⟩ := Option.map_eq_some_iff.1 found
    exact ⟨_, _, definition, whole.symm, defines, isDefinition, same.symm⟩
  · rintro ⟨front, back, definition, whole, starts, found, rfl⟩
    refine ⟨front.length, by simp [whole], ?_⟩
    rw [recordAt?, definesAt, whole, List.drop_left, if_pos starts, List.take_left]
    simp only [found, Option.map_some]

theorem mem_extractFunctions_of_isNameOf (names : IsNameOf text chunkId name record) :
    record ∈ extractFunctions text.toList (scan text) chunkId := by
  obtain ⟨index, here, found⟩ := names
  obtain ⟨inside, -⟩ := List.getElem?_eq_some_iff.1 here
  have defines : definesAt (significant (scan text)) index = true := by
    rw [recordAt?] at found
    split at found
    · assumption
    · cases found
  have member : some record ∈ (extractFunctions text.toList (scan text) chunkId).map some := by
    rw [← map_recordAt?, ← found]
    exact List.mem_map_of_mem (List.mem_filter.2 ⟨List.mem_range.2 inside, defines⟩)
  simpa using member

theorem exists_isNameOf {front back : List Token}
    (whole : significant (scan text) = front ++ name :: back)
    (starts : startsDefinition (name :: back) = true) (chunkId : Nat) :
    ∃ record ∈ extractFunctions text.toList (scan text) chunkId,
      IsNameOf text chunkId name record := by
  have found := starts
  simp only [startsDefinition, Bool.and_eq_true, Option.isSome_iff_exists] at found
  obtain ⟨-, definition, found⟩ := found
  have names : IsNameOf text chunkId name
      (definition.record text.toList front.reverse name chunkId) :=
    isNameOf_iff.2 ⟨front, back, definition, whole, starts, found, rfl⟩
  exact ⟨_, mem_extractFunctions_of_isNameOf names, names⟩

theorem within_of_isNameOf (names : IsNameOf text chunkId name record) :
    record.name = name.text ∧ record.span.start ≤ name.span.start ∧
      name.span.stop ≤ record.body.start := by
  obtain ⟨front, back, definition, whole, -, found, rfl⟩ := isNameOf_iff.1 names
  have sorted : (significant (scan text)).Pairwise
      (fun first second => first.span.start < second.span.start) :=
    (pairwise_start_scan text).filter _
  have apart : (significant (scan text)).Pairwise
      (fun first second => first.span.stop ≤ second.span.start) :=
    (layout_scan text).pairwise_stop_le_start.filter _
  rw [whole, List.pairwise_append] at sorted apart
  refine ⟨rfl, ?_, ?_⟩
  · have begins : (definition.record text.toList front.reverse name chunkId).span.start =
        ((front.reverse.takeWhile isTypeWord).getLastD name).span.start := rfl
    rw [begins, ← Site.first_ofParts _ _ definition]
    rcases List.mem_cons.1 (Site.first_ofParts_mem front.reverse name definition) with
      same | inFront
    · rw [same]
    · exact Nat.le_of_lt
        (sorted.2.2 _ (List.mem_reverse.1 inFront) name (List.mem_cons_self ..))
  · obtain ⟨-, ⟨rest, rfl, -⟩, -⟩ := Definition.ofTokens?_eq_some found
    exact (List.pairwise_cons.1 apart.2.1).1 definition.openBrace (by simp [Definition.tokens])

end Names

/-- A token that is kept stands between what is kept of the tokens around it. -/
theorem significant_of_isSignificant (before after : List Token) {tok : Token}
    (keeps : tok.isSignificant = true) :
    significant (before ++ tok :: after) = significant before ++ tok :: significant after := by
  rw [significant_append, significant, significant, significant, List.filter_cons_of_pos keeps]

/-- Tokens in order are told apart by where they start. -/
theorem eq_of_start_eq {front back before after : List Token} {tok other : Token}
    (sorted : (front ++ tok :: back).Pairwise
      (fun first second => first.span.start < second.span.start))
    (whole : front ++ tok :: back = before ++ other :: after)
    (same : tok.span.start = other.span.start) : tok = other ∧ back = after := by
  have sortedToo := sorted
  rw [whole] at sortedToo
  rcases List.append_eq_append_iff.1 whole with ⟨more, rfl, rest⟩ | ⟨more, rfl, rest⟩
  · cases more with
    | nil => exact List.cons.inj rest
    | cons head more =>
      obtain ⟨rfl, -⟩ := List.cons.inj rest
      have less := (List.pairwise_append.1 sortedToo).2.2 tok (by simp) other (by simp)
      omega
  · cases more with
    | nil =>
      obtain ⟨rfl, rfl⟩ := List.cons.inj rest
      exact ⟨rfl, rfl⟩
    | cons head more =>
      obtain ⟨rfl, -⟩ := List.cons.inj rest
      have less := (List.pairwise_append.1 sorted).2.2 other (by simp) tok (by simp)
      omega

namespace Search.Field

theorem exists_of_mem_names {field : Field} {matcher : Matcher} {calls : Bool}
    {tokens : List Token} {hit : SearchMatch} (member : hit ∈ field.names matcher calls tokens) :
    ∃ front tok back, tokens = front ++ tok :: back ∧ tok.isName = true ∧
      hit = ⟨tok.span, tok.text, if calls then .function else .variableName,
        calls && startsDefinition (tok :: back), field.context tok.span.line⟩ := by
  induction tokens with
  | nil => cases member
  | cons tok rest ih =>
    rw [names] at member
    split at member
    · rename_i matched
      rcases List.mem_cons.1 member with rfl | inRest
      · simp only [Bool.and_eq_true] at matched
        exact ⟨[], tok, rest, rfl, matched.1.1, rfl⟩
      · obtain ⟨front, other, back, rfl, same⟩ := ih inRest
        exact ⟨tok :: front, other, back, rfl, same⟩
    · obtain ⟨front, other, back, rfl, same⟩ := ih member
      exact ⟨tok :: front, other, back, rfl, same⟩

variable {source : Source} {offset : Nat}

/-- What `classify` looks at in a token that holds the byte. -/
theorem classify_eq {before after : List Token} {tok : Token}
    (whole : scan source.text = before ++ tok :: after) (begins : tok.span.start ≤ offset)
    (ends : offset < tok.span.stop) :
    (Field.ofSource source).classify offset =
      if tok.kind.isLiteral then (.string, false)
      else if tok.kind.isComment then (.comment, false)
      else if tok.isName && !tok.directive then
        if Token.punctAt (CSurvey.significant after).head? "(" then
          (.function, startsDefinition (tok :: CSurvey.significant after))
        else (.variableName, false)
      else (.code, false) := by
  have apart := (layout_scan source.text).pairwise_stop_le_start
  have sorted := pairwise_start_scan source.text
  rw [whole, List.pairwise_append] at apart sorted
  have passed : ∀ other ∈ before, decide (other.span.stop ≤ offset) = true := by
    intro other member
    have bound := apart.2.2 other member tok (List.mem_cons_self ..)
    exact decide_eq_true (by omega)
  have here : (scan source.text).dropWhile (fun tok => tok.span.stop ≤ offset) = tok :: after := by
    rw [whole, List.dropWhile_append_of_pos passed,
      List.dropWhile_cons_of_neg (by simpa using ends)]
  have tokens : (Field.ofSource source).tokens = scan source.text := rfl
  have kept : (Field.ofSource source).significant = CSurvey.significant (scan source.text) := rfl
  have notBefore : ¬ offset < tok.span.start := Nat.not_lt.2 begins
  rw [classify, tokens, here, List.head?_cons, kept]
  simp only [notBefore, if_false]
  -- Only code that is significant is looked up among the significant tokens.
  split
  · rfl
  split
  · rfl
  rename_i notLiteral notComment
  split
  · rename_i name
    simp only [Bool.and_eq_true, Bool.not_eq_true'] at name
    have keeps : tok.isSignificant = true := by
      simp [Token.isSignificant, Token.isComment, notComment, name.2]
    have earlier : ∀ other ∈ CSurvey.significant before,
        decide (other.span.start < tok.span.start) = true := by
      intro other member
      exact decide_eq_true
        (sorted.2.2 other (mem_significant.1 member).1 tok (List.mem_cons_self ..))
    rw [whole, significant_of_isSignificant before after keeps,
      List.dropWhile_append_of_pos earlier, List.dropWhile_cons_of_neg (by simp),
      List.getElem?_cons_succ, List.head?_eq_getElem?]
  · rfl

theorem classify_inside {before after : List Token} {tok : Token}
    (whole : scan source.text = before ++ tok :: after) (begins : tok.span.start ≤ offset)
    (ends : offset < tok.span.stop) :
    ((Field.ofSource source).classify offset).2 =
      (tok.isSignificant && startsDefinition (tok :: CSurvey.significant after)) := by
  rw [classify_eq whole begins ends]
  have code (name : tok.isName = true) : tok.isComment = false ∧ tok.kind.isLiteral = false := by
    simp only [Token.isName, Token.isIdent, Token.isCode, Bool.and_eq_true, beq_iff_eq] at name
    simp [Token.isComment, name.1.1, TokenKind.isComment, TokenKind.isLiteral]
  cases name : tok.isName && !tok.directive with
  | true =>
    simp only [Bool.and_eq_true, Bool.not_eq_true'] at name
    obtain ⟨notComment, notLiteral⟩ := code name.1
    have keeps : tok.isSignificant = true := by simp [Token.isSignificant, notComment, name.2]
    rw [notLiteral, keeps, if_neg Bool.false_ne_true, Bool.true_and]
    rw [Token.isComment] at notComment
    rw [notComment, if_neg Bool.false_ne_true, if_pos rfl]
    split
    · rfl
    · rename_i other
      cases rest : CSurvey.significant after with
      | nil => simp [startsDefinition, Definition.ofTokens?]
      | cons next back =>
        have notOpen : next.isPunct "(" = false := by simpa [rest, Token.punctAt] using other
        simp [startsDefinition, Definition.ofTokens?, notOpen]
  | false =>
    have other :
        (tok.isSignificant && startsDefinition (tok :: CSurvey.significant after)) = false := by
      rw [Bool.and_eq_false_iff, Bool.not_eq_false'] at name
      rcases name with notWord | directive
      · rw [Definition.startsDefinition_of_isName notWord, Bool.and_false]
      · simp [Token.isSignificant, directive]
    rw [other, if_neg Bool.false_ne_true]
    split
    · rfl
    · split <;> rfl

/-- Between tokens there is code, and nothing is named. -/
theorem classify_outside
    (outside : ∀ tok ∈ scan source.text, ¬ (tok.span.start ≤ offset ∧ offset < tok.span.stop)) :
    (Field.ofSource source).classify offset = (.code, false) := by
  have tokens : (Field.ofSource source).tokens = scan source.text := rfl
  rw [classify, tokens]
  cases later : (scan source.text).dropWhile (fun tok => tok.span.stop ≤ offset) with
  | nil => rfl
  | cons tok rest =>
    have member : tok ∈ scan source.text :=
      (List.dropWhile_suffix _).subset (later ▸ List.mem_cons_self ..)
    have ends := List.head?_dropWhile_not (fun tok : Token => tok.span.stop ≤ offset)
      (scan source.text)
    rw [later, List.head?_cons] at ends
    have before : offset < tok.span.start := by
      have apart := outside tok member
      have ends : ¬ tok.span.stop ≤ offset := by simpa using ends
      omega
    rw [List.head?_cons]
    simp only [before, if_true]

end Search.Field

section Search

variable {source : Source} {matcher : Matcher} {hit : SearchMatch}

theorem isDefinition_iff_of_mem_names
    (member : hit ∈ (Search.Field.ofSource source).run matcher .function) (chunkId : Nat) :
    hit.isDefinition = true ↔
      ∃ record ∈ extractFunctions source.chars (scan source.text) chunkId,
        ∃ name, IsNameOf source.text chunkId name record ∧ name.span = hit.span := by
  obtain ⟨front, tok, back, whole, -, rfl⟩ := Search.Field.exists_of_mem_names member
  have whole : significant (scan source.text) = front ++ tok :: back := whole
  rw [Bool.true_and]
  constructor
  · intro starts
    obtain ⟨record, inText, names⟩ := exists_isNameOf whole starts chunkId
    exact ⟨record, inText, tok, names, rfl⟩
  · rintro ⟨record, -, name, names, same⟩
    obtain ⟨before, after, definition, split, starts, -⟩ := isNameOf_iff.1 names
    have sorted : (significant (scan source.text)).Pairwise
        (fun first second => first.span.start < second.span.start) :=
      (pairwise_start_scan source.text).filter _
    rw [whole] at sorted split
    obtain ⟨rfl, rfl⟩ := eq_of_start_eq sorted split (by rw [same])
    exact starts

theorem isDefinition_iff_of_mem_anywhere
    (member : hit ∈ (Search.Field.ofSource source).run matcher .any) (chunkId : Nat) :
    hit.isDefinition = true ↔
      ∃ record ∈ extractFunctions source.chars (scan source.text) chunkId,
        ∃ name, IsNameOf source.text chunkId name record ∧
          name.span.start ≤ hit.span.start ∧ hit.span.start < name.span.stop := by
  obtain ⟨⟨start, cs⟩, -, rfl⟩ := List.mem_map.1 member
  constructor
  · intro starts
    have starts : ((Search.Field.ofSource source).classify start).2 = true := starts
    by_cases covered : ∃ tok ∈ scan source.text, tok.span.start ≤ start ∧ start < tok.span.stop
    · obtain ⟨tok, inText, begins, ends⟩ := covered
      obtain ⟨before, after, whole⟩ := List.append_of_mem inText
      rw [Search.Field.classify_inside whole begins ends, Bool.and_eq_true] at starts
      have split := significant_of_isSignificant before after starts.1
      rw [← whole] at split
      obtain ⟨record, inRecords, names⟩ := exists_isNameOf split starts.2 chunkId
      exact ⟨record, inRecords, tok, names, begins, ends⟩
    · rw [Search.Field.classify_outside (by simpa using covered)] at starts
      cases starts
  · rintro ⟨record, -, name, names, begins, ends⟩
    obtain ⟨front, back, definition, split, starts, -⟩ := isNameOf_iff.1 names
    obtain ⟨before, after, whole, -, keeps, rfl⟩ := exists_of_significant_eq split
    have inside := Search.Field.classify_inside whole begins ends
    rw [keeps, starts] at inside
    exact inside

end Search

/-- The names of definitions are those of the records, and a search marks the hits that are such a
name or, when it looks anywhere, begin in one. -/
theorem search_marks_definitions (compile : PatternCompiler) (source : Source) (chunkId : Nat) :
    ((List.range (significant (scan source.text)).length).filter
        (definesAt (significant (scan source.text)))).map
          (recordAt? source.chars (significant (scan source.text)) chunkId) =
      (extractFunctions source.chars (scan source.text) chunkId).map some ∧
    (∀ name record, IsNameOf source.text chunkId name record →
      record.name = name.text ∧ record.span.start ≤ name.span.start ∧
        name.span.stop ≤ record.body.start) ∧
    ∀ query hits, search compile source query = .ok hits → ∀ hit ∈ hits,
      (query.kind = .function → (hit.isDefinition = true ↔
        ∃ record ∈ extractFunctions source.chars (scan source.text) chunkId,
          ∃ name, IsNameOf source.text chunkId name record ∧ name.span = hit.span)) ∧
      (query.kind = .any → (hit.isDefinition = true ↔
        ∃ record ∈ extractFunctions source.chars (scan source.text) chunkId,
          ∃ name, IsNameOf source.text chunkId name record ∧
            name.span.start ≤ hit.span.start ∧ hit.span.start < name.span.stop)) := by
  refine ⟨map_recordAt? source.text chunkId, fun name record => within_of_isNameOf, ?_⟩
  intro query hits found hit member
  rw [search] at found
  cases isMatcher : query.matcher compile with
  | error fault =>
    rw [isMatcher] at found
    cases found
  | ok matcher =>
    rw [isMatcher] at found
    obtain rfl : (Search.Field.ofSource source).run matcher query.kind = hits :=
      Except.ok.inj found
    constructor
    · intro kind
      rw [kind] at member
      exact isDefinition_iff_of_mem_names member chunkId
    · intro kind
      rw [kind] at member
      exact isDefinition_iff_of_mem_anywhere member chunkId

/-- A definition with a pointer to a function among its parameters, which calls another function,
and that function, which is not closed. -/
theorem search_marks_definitions_parameter :
    let source := Source.ofText "int f(int (*g)(int)) \x7b return h(g(1)); \x7d\nint h(int n) \x7b f(0)"
    let called : SearchQuery := ⟨"h", .function, true⟩
    let anywhere : SearchQuery := ⟨"h", .any, true⟩
    (extractFunctions source.chars (scan source.text) 0).map FunctionRecord.name = ["f", "h"] ∧
    (∃ hits, search Pattern.compiler source called = .ok hits ∧
      hits.map (fun hit => (hit.span.start, hit.isDefinition)) = [(30, false), (45, true)] ∧
      ∀ hit ∈ hits, hit.isDefinition = true ↔
        ∃ record ∈ extractFunctions source.chars (scan source.text) 0,
          ∃ name, IsNameOf source.text 0 name record ∧ name.span = hit.span) ∧
    ∃ hits, search Pattern.compiler source anywhere = .ok hits ∧
      hits.map (fun hit => (hit.span.start, hit.isDefinition)) = [(30, false), (45, true)] ∧
      ∀ hit ∈ hits, hit.isDefinition = true ↔
        ∃ record ∈ extractFunctions source.chars (scan source.text) 0,
          ∃ name, IsNameOf source.text 0 name record ∧
            name.span.start ≤ hit.span.start ∧ hit.span.start < name.span.stop := by
  intro source called anywhere
  have marks := (search_marks_definitions Pattern.compiler source 0).2.2
  refine ⟨by decide +kernel, ⟨_, rfl, by decide +kernel, ?_⟩, _, rfl, by decide +kernel, ?_⟩
  · exact fun hit member => (marks called _ rfl hit member).1 rfl
  · exact fun hit member => (marks anywhere _ rfl hit member).2 rfl

end CSurvey
