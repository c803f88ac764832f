import CSurvey.Proofs.Definition.Moved
import CSurvey.Risk.Match
import CSurvey.Signals

/-!
# Matches in another place

Risk rules and signals read the kinds and texts of tokens and what stands next to
what.  So among tokens that stand elsewhere they find the same matches, at the other
spans, and the same signals.
-/

namespace CSurvey

namespace RiskMatch

variable (move : Span → Span)

theorem callsOneOf_relocated (names : List String) (place : Place) :
    callsOneOf names (place.relocated move) = callsOneOf names place :=
  rfl

theorem callSpan_relocated (joins : Span.KeepsJoins move) (place : Place) :
    callSpan (place.relocated move) (place.relocated move).arguments =
      move (callSpan place place.arguments) := by
  rw [arguments_relocated, callSpan, callSpan]
  exact joins ..

theorem formatOf?_relocated (places : List FormatPlace) (place : Place) :
    formatOf? places (place.relocated move) =
      (formatOf? places place).map (List.map (Token.relocated move)) := by
  simp only [formatOf?, arguments_relocated, Place.here_relocated, Token.text_relocated]
  cases places.find? (fun entry => entry.1 == place.here.text) with
  | none => rfl
  | some entry => simp [Arguments.relocated]

theorem isVariableFormat_relocated (format : List Token) :
    isVariableFormat (format.map (Token.relocated move)) = isVariableFormat format := by
  simp [isVariableFormat, List.any_map, Function.comp_def]

theorem isUnboundedFormat_relocated (format : List Token) :
    isUnboundedFormat (format.map (Token.relocated move)) = isUnboundedFormat format := by
  simp [isUnboundedFormat, List.any_map, Function.comp_def]

theorem skipGroupBack_relocated (level : Nat) (tokens : List Token) :
    skipGroupBack level (tokens.map (Token.relocated move)) =
      (skipGroupBack level tokens).map (List.map (Token.relocated move)) := by
  fun_induction skipGroupBack level tokens with
  | case1 => rfl
  | case2 level tok rest closes ih =>
    simp only [List.map_cons, skipGroupBack, Token.text_relocated, closes, if_true]
    exact ih
  | case3 level tok rest notClose opens last =>
    simp only [List.map_cons, skipGroupBack, Token.text_relocated, notClose, opens, last, if_true]
    rfl
  | case4 level tok rest notClose opens inner ih =>
    simp only [List.map_cons, skipGroupBack, Token.text_relocated, notClose, opens, inner, if_true]
    exact ih
  | case5 level tok rest notClose notOpen ih =>
    simp only [List.map_cons, skipGroupBack, Token.text_relocated, notClose, notOpen]
    exact ih

theorem beforeCast_relocated (before : List Token) :
    beforeCast (before.map (Token.relocated move)) =
      (beforeCast before).map (List.map (Token.relocated move)) := by
  rw [beforeCast, List.head?_map, Token.punctAt_relocated, skipGroupBack_relocated, beforeCast]
  split <;> rfl

theorem any_relocated (test : Token → Bool)
    (same : ∀ tok : Token, test (tok.relocated move) = test tok) (tok : Option Token) :
    (tok.map (Token.relocated move)).any test = tok.any test := by
  cases tok with
  | none => rfl
  | some tok => exact same tok

theorem checkedLater_relocated (name : String) (earlier last : Option Token) (tokens : List Token) :
    checkedLater name (earlier.map (Token.relocated move)) (last.map (Token.relocated move))
        (tokens.map (Token.relocated move)) = checkedLater name earlier last tokens := by
  induction tokens generalizing earlier last with
  | nil => rfl
  | cons tok rest ih =>
    have tail := ih last (some tok)
    rw [Option.map_some] at tail
    simp only [List.map_cons, checkedLater, tail, List.head?_map, Token.punctAt_relocated,
      any_relocated move isComparison (fun _ => rfl), Token.isCode_relocated, Token.text_relocated]
    rw [any_relocated move _ (fun _ => rfl)]

theorem filter_isIdent_relocated (tok : Option Token) :
    (tok.map (Token.relocated move)).filter Token.isIdent =
      (tok.filter Token.isIdent).map (Token.relocated move) := by
  cases tok with
  | none => rfl
  | some tok => cases word : tok.isIdent <;> simp [Option.filter, word]

theorem isCheckedAllocation_relocated (place : Place) :
    isCheckedAllocation (place.relocated move) = isCheckedAllocation place := by
  unfold isCheckedAllocation
  rw [Place.before_relocated, beforeCast_relocated, arguments_relocated]
  cases beforeCast place.before with
  | none => rfl
  | some tokens =>
    cases tokens with
    | nil => rfl
    | cons previous target =>
      have later (name : String) := checkedLater_relocated move name none
        (some place.arguments.close) place.arguments.rest
      simp only [Option.map_some, Option.map_none] at later
      simp only [Option.map_some, List.map_cons, Arguments.relocated, List.head?_map,
        List.getElem?_map, Token.punctAt_relocated, Token.isPunct_relocated,
        filter_isIdent_relocated, any_relocated move isComparison (fun _ => rfl)]
      cases target.head?.filter Token.isIdent with
      | none => rfl
      | some stored => simp [later]

theorem startsOperand_relocated (previous : Option Token) :
    startsOperand (previous.map (Token.relocated move)) = startsOperand previous := by
  cases previous <;> rfl

theorem computedAddress?_relocated (groups : Nat) (tokens : List Token) :
    computedAddress? groups (tokens.map (Token.relocated move)) =
      (computedAddress? groups tokens).map (Token.relocated move) := by
  induction groups generalizing tokens with
  | zero => rfl
  | succ groups ih =>
    rw [computedAddress?, Bracketed.ofTokens?_relocated, computedAddress?]
    cases Bracketed.ofTokens? "(" ")" tokens with
    | none => rfl
    | some group =>
      have sums : (group.relocated move).inner.any (fun tok => tok.isPunct "+" || tok.isPunct "-") =
          group.inner.any (fun tok => tok.isPunct "+" || tok.isPunct "-") := by
        simp [Bracketed.relocated, List.any_map, Function.comp_def]
      simp only [Option.map_some, sums]
      split
      · rfl
      · exact ih group.rest

theorem pointerArithmetic?_relocated (joins : Span.KeepsJoins move) (place : Place) :
    pointerArithmetic? (place.relocated move) =
      (pointerArithmetic? place).map move := by
  simp only [pointerArithmetic?, Place.here_relocated, Token.isPunct_relocated,
    Place.previous_relocated, startsOperand_relocated, Place.after_relocated,
    computedAddress?_relocated]
  split
  · simp [Option.map_map, Function.comp_def, joins _ _]
  · rfl

theorem indexedWrite?_relocated (joins : Span.KeepsJoins move) (place : Place) :
    indexedWrite? (place.relocated move) = (indexedWrite? place).map move := by
  obtain ⟨before, here, after⟩ := place
  cases before with
  | nil => rfl
  | cons previous before =>
    have index := Bracketed.ofTokens?_relocated move "[" "]" (here :: after)
    rw [List.map_cons] at index
    simp only [indexedWrite?, Place.relocated, List.map_cons, Token.isIdent_relocated,
      Token.isPunct_relocated, index]
    split
    · cases Bracketed.ofTokens? "[" "]" (here :: after) with
      | none => rfl
      | some group =>
        have words : (group.relocated move).inner.any Token.isIdent =
            group.inner.any Token.isIdent := by
          simp [Bracketed.relocated, List.any_map, Function.comp_def]
        have assigns : (group.relocated move).rest.head?.any
              (fun tok => tok.isCode && assignments.contains tok.text) =
            group.rest.head?.any (fun tok => tok.isCode && assignments.contains tok.text) := by
          rw [Bracketed.relocated, List.head?_map]
          exact any_relocated move _ (fun _ => rfl) _
        simp only [Option.map_some, words, assigns]
        split
        · simp [Bracketed.relocated, joins _ _]
        · rfl
    · rfl

theorem filter_relocated (test : Place → Bool)
    (same : ∀ place, test (place.relocated move) = test place) (places : List Place) :
    (places.map (Place.relocated move)).filter test =
      (places.filter test).map (Place.relocated move) := by
  rw [List.filter_map]
  exact congrArg _ (List.filter_congr (fun place _ => same place))

theorem filter_format_relocated {test : List Token → Bool}
    (same : ∀ format : List Token, test (format.map (Token.relocated move)) = test format)
    (entries : List FormatPlace) (places : List Place) :
    (places.map (Place.relocated move)).filter (fun place => (formatOf? entries place).any test) =
      (places.filter (fun place => (formatOf? entries place).any test)).map
        (Place.relocated move) := by
  refine filter_relocated move _ (fun place => ?_) places
  rw [formatOf?_relocated]
  cases formatOf? entries place with
  | none => rfl
  | some format => exact same format

theorem map_here_relocated (places : List Place) :
    (places.map (Place.relocated move)).map (fun place => place.here.span) =
      (places.map (fun place => place.here.span)).map move := by
  simp [List.map_map, Function.comp_def]

theorem map_callSpan_relocated (joins : Span.KeepsJoins move) (places : List Place) :
    (places.map (Place.relocated move)).map (fun place => callSpan place place.arguments) =
      (places.map (fun place => callSpan place place.arguments)).map move := by
  simp [List.map_map, Function.comp_def, callSpan_relocated move joins]

theorem filterMap_all_relocated {spanOf : Place → Option Span}
    (same : ∀ place, spanOf (place.relocated move) = (spanOf place).map move)
    (tokens : List Token) :
    (Place.all (tokens.map (Token.relocated move))).filterMap spanOf =
      ((Place.all tokens).filterMap spanOf).map move := by
  rw [Place.all_relocated, List.filterMap_map, List.map_filterMap]
  exact congrArg (fun spanOf => List.filterMap spanOf _) (funext same)

theorem map_span_relocated (test : Token → Bool)
    (same : ∀ tok : Token, test (tok.relocated move) = test tok) (tokens : List Token) :
    ((tokens.map (Token.relocated move)).filter test).map Token.span =
      ((tokens.filter test).map Token.span).map move := by
  have tests : test ∘ Token.relocated move = test := funext same
  simp [List.filter_map, tests, List.map_map, Function.comp_def]

theorem spans_relocated (joins : Span.KeepsJoins move) (pattern : RiskPattern)
    (tokens : List Token) :
    spans pattern (tokens.map (Token.relocated move)) =
      (spans pattern tokens).map move := by
  have named (names : List String) :=
    filter_relocated move (callsOneOf names) (callsOneOf_relocated move names) (callPlaces tokens)
  cases pattern with
  | call names => simp only [spans, callPlaces_relocated, named, map_here_relocated]
  | formatArgument places =>
    simp only [spans, callPlaces_relocated, map_callSpan_relocated move joins,
      filter_format_relocated move (isVariableFormat_relocated move)]
  | unboundedScanf places =>
    simp only [spans, callPlaces_relocated, map_callSpan_relocated move joins,
      filter_format_relocated move (isUnboundedFormat_relocated move)]
  | uncheckedAllocation names =>
    have unchecked := filter_relocated move (fun place => !isCheckedAllocation place)
      (fun place => congrArg not (isCheckedAllocation_relocated move place))
    simp only [spans, callPlaces_relocated, named, unchecked, map_here_relocated]
  | allocationWithoutRelease allocators releasers =>
    simp only [spans, callPlaces_relocated, named, List.isEmpty_map, ← List.map_take,
      map_here_relocated]
    split <;> rfl
  | pointerArithmetic =>
    exact filterMap_all_relocated move (pointerArithmetic?_relocated move joins) tokens
  | indexedWrite =>
    exact filterMap_all_relocated move (indexedWrite?_relocated move joins) tokens
  | sensitiveName words =>
    have same (tok : Token) : isSensitive words (tok.relocated move) = isSensitive words tok := rfl
    exact map_span_relocated move _ same tokens
  | keyword words => exact map_span_relocated move _ (fun _ => rfl) tokens

theorem spans_moved (shift : Shift) (pattern : RiskPattern) (tokens : List Token) :
    spans pattern (tokens.map (Token.moved shift)) =
      (spans pattern tokens).map (Span.moved shift) :=
  spans_relocated (Span.moved shift) (Span.keepsJoins_moved shift) pattern tokens

end RiskMatch

/-- The rule of a finding and its severity. -/
def Finding.verdict (finding : Finding) : String × Severity :=
  (finding.patternId, finding.severity)

/-- Relocated tokens meet the same rules in the same order, whatever the text is. -/
theorem RiskTable.verdict_evaluate {move : Span → Span} (joins : Span.KeepsJoins move)
    (table : RiskTable) (cs other : List Char) (tokens : List Token)
    (function otherFunction : Option String) :
    (table.evaluate cs (tokens.map (Token.relocated move)) function).map Finding.verdict =
      (table.evaluate other tokens otherFunction).map Finding.verdict := by
  rw [evaluate, evaluate, List.map_flatMap, List.map_flatMap]
  refine congrArg (fun found => List.flatMap found table.rules) (funext fun rule => ?_)
  rw [RiskMatch.spans_relocated move joins, List.map_map, List.map_map, List.map_map]
  rfl

namespace Signals

variable (move : Span → Span)

theorem isShort_relocated (place : Place) : isShort (place.relocated move) = isShort place := by
  simp [isShort]

theorem returnsFailure_relocated (place : Place) :
    returnsFailure (place.relocated move) = returnsFailure place := by
  have texts : Token.text ∘ Token.relocated move = Token.text := rfl
  simp only [returnsFailure, Place.here_relocated, Token.isPunct_relocated, Place.after_relocated,
    List.map_map, texts]

theorem checksNull_relocated (place : Place) :
    checksNull (place.relocated move) = checksNull place := by
  simp only [checksNull, Place.here_relocated, Token.isPunct_relocated, Place.previous_relocated,
    Place.next_relocated, RiskMatch.any_relocated move isEquality (fun _ => rfl)]

/-- Relocated tokens give the same signals. -/
theorem ofTokens_relocated (body : List Token) :
    ofTokens (body.map (Token.relocated move)) = ofTokens body := by
  have magic : (body.map (Token.relocated move)).filter isMagic =
      (body.filter isMagic).map (Token.relocated move) := by
    rw [List.filter_map]
    rfl
  have short := RiskMatch.filter_relocated move isShort (isShort_relocated move) (Place.all body)
  have failures : returnsFailure ∘ Place.relocated move = returnsFailure :=
    funext (returnsFailure_relocated move)
  have nulls : checksNull ∘ Place.relocated move = checksNull := funext (checksNull_relocated move)
  simp only [ofTokens, Place.all_relocated, magic, short, List.map_map, List.any_map,
    List.countP_map, failures, nulls]
  rfl

theorem ofTokens_moved (shift : Shift) (body : List Token) :
    ofTokens (body.map (Token.moved shift)) = ofTokens body :=
  ofTokens_relocated (Span.moved shift) body

end Signals

end CSurvey
