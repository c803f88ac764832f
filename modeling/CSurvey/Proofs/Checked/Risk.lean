import CSurvey.Proofs.Checked.Allocation
import CSurvey.Proofs.Checked.Brackets
import CSurvey.Proofs.Checked.Conversion
import CSurvey.Proofs.Risk.Extent

/-!
# Risk rules by position

Each pattern of the catalog, matched on the positions of the tokens of one scope.
-/

namespace CSurvey.Checked

open RiskMatch (isVariableFormat)

/-- The positions among `calls` at which one of these functions is called. -/
def named (tokens : List Token) (calls : List Nat) (names : List String) : Checked (List Nat) :=
  select (fun position => (fun tok => names.contains tok.text) <$> item tokens position) calls

def spansAt (tokens : List Token) (positions : List Nat) : Checked (List Span) :=
  each (fun position => Token.span <$> item tokens position) positions

def formatCall (tokens : List Token) (places : List FormatPlace)
    (test : List Token → Checked Bool) (position : Nat) : Checked (Option Span) := do
  let name ← item tokens position
  match places.find? (fun entry => entry.1 == name.text) with
  | none => return none
  | some entry =>
    let ranges ← callArguments tokens position
    match ranges.args[entry.2]? with
    | none => return none
    | some range =>
      if ← test (← part tokens range.1 range.2) then
        let close ← item tokens ranges.close
        return some (name.span.join close.span)
      else return none

/-- Whether a format argument is there and is something other than string literals. -/
def isVariable (format : List Token) : Checked Bool :=
  .ok (!format.isEmpty && !format.all (fun tok => tok.kind == .string))

/-- Whether a format argument has a literal with a string conversion without width. -/
def isUnbounded : List Token → Checked Bool
  | [] => .ok false
  | tok :: rest => do
    if tok.kind == .string then
      if ← hasUnboundedConversion (← literalBody tok) then return true
    isUnbounded rest

/-- The last token of the address that a dereference computes from a position on. -/
def computedAddress (tokens : List Token) : (groups position : Nat) → Checked (Option Token)
  | 0, _ => .ok none
  | groups + 1, position => do
    if !Token.punctAt tokens[position]? "(" then return none
    match ← closePosition "(" ")" (fun _ => false) tokens position with
    | none => return none
    | some close =>
      let inner ← part tokens (position + 1) close
      if inner.any (fun tok => tok.isPunct "+" || tok.isPunct "-") then
        return some (← item tokens close)
      computedAddress tokens groups (close + 1)

def pointerArithmetic (tokens : List Token) (position : Nat) : Checked (Option Span) := do
  let tok ← item tokens position
  if !tok.isPunct "*" then return none
  if !RiskMatch.startsOperand (← behind tokens position) then return none
  let close ← computedAddress tokens 2 (position + 1)
  return close.map (fun close => tok.span.join close.span)

/-- The span of a write through an index that a position opens. -/
def indexedWrite (tokens : List Token) (position : Nat) : Checked (Option Span) := do
  let tok ← item tokens position
  if !tok.isPunct "[" then return none
  let previous ← item tokens (← minus position 1)
  if !(previous.isIdent || previous.isPunct "]" || previous.isPunct ")") then return none
  match ← closePosition "[" "]" (fun _ => false) tokens position with
  | none => return none
  | some close =>
    let index ← part tokens (position + 1) close
    let assigned := tokens[close + 1]?.any
      (fun tok => tok.isCode && RiskMatch.assignments.contains tok.text)
    if index.any Token.isIdent && assigned then
      let closing ← item tokens close
      return some (previous.span.join closing.span)
    else return none

def spans (pattern : RiskPattern) (tokens : List Token) (calls : List Nat) :
    Checked (List Span) :=
  match pattern with
  | .call names => do spansAt tokens (← named tokens calls names)
  | .formatArgument places => collect (formatCall tokens places isVariable) calls
  | .unboundedScanf places => collect (formatCall tokens places isUnbounded) calls
  | .uncheckedAllocation names => do
    let unchecked ← select (fun position => do
      let ranges ← callArguments tokens position
      return !(← allocationChecked tokens position ranges.close)) (← named tokens calls names)
    spansAt tokens unchecked
  | .allocationWithoutRelease allocators releasers => do
    let allocations ← named tokens calls allocators
    if allocations.isEmpty || !(← named tokens calls releasers).isEmpty then return []
    spansAt tokens [← item allocations 0]
  | .pointerArithmetic => collect (pointerArithmetic tokens) (List.range tokens.length)
  | .indexedWrite => collect (indexedWrite tokens) (List.range' 1 (tokens.length - 1))
  | .sensitiveName words =>
    .ok ((tokens.filter (RiskMatch.isSensitive words)).map Token.span)
  | .keyword words =>
    .ok ((tokens.filter (fun tok => tok.isCode && words.contains tok.text)).map Token.span)

/-- The findings among the tokens of one scope of a text. -/
def evaluate (table : RiskTable) (cs : List Char) (tokens : List Token)
    (function : Option String) : Checked (List Finding) := do
  let calls ← callPositions tokens
  let found ← each (fun (rule : RiskRule) =>
    List.map (rule.finding cs function) <$> spans rule.pattern tokens calls) table.rules
  return found.flatten

variable {tokens : List Token} {place : Place} {places : List Place}

theorem named_position (among : ∀ place ∈ places, place ∈ Place.all tokens)
    (names : List String) :
    named tokens (places.map Place.position) names =
      .ok ((places.filter (RiskMatch.callsOneOf names)).map Place.position) :=
  select_map (fun place member => by rw [item_position (among place member)]; rfl)

theorem spansAt_position (among : ∀ place ∈ places, place ∈ Place.all tokens) :
    spansAt tokens (places.map Place.position) =
      .ok (places.map (fun place => place.here.span)) :=
  each_map (fun place member => by rw [item_position (among place member)]; rfl)

theorem formatCall_position {formats : List FormatPlace} {test : List Token → Checked Bool}
    {passes : List Token → Bool} (member : place ∈ Place.all tokens)
    (calls : place.isCall = true)
    (same : ∀ format, (∀ tok ∈ format, tok ∈ tokens) → test format = .ok (passes format)) :
    formatCall tokens formats test place.position =
      .ok (if (RiskMatch.formatOf? formats place).any passes then
        some (RiskMatch.callSpan place place.arguments) else none) := by
  rw [formatCall, item_position member, ok_bind, RiskMatch.formatOf?]
  cases formats.find? (fun entry => entry.1 == place.here.text) with
  | none => rfl
  | some entry =>
    obtain ⟨ranges, read, spells⟩ := callArguments_spells member calls
    have close := item_eq_ok spells.close
    simp only [read, ok_bind, Option.bind_eq_bind, Option.bind_some]
    rcases spells.args.getElem? entry.2 with ⟨noRange, noArg⟩ | ⟨range, arg, here, argHere, holds⟩
    · simp only [noRange, noArg]
      rfl
    · have tested := same arg (fun tok inside => mem_of_part holds inside)
      simp only [here, argHere, holds, tested, close, ok_bind, Option.any_some]
      cases passes arg <;> rfl

theorem isVariable_eq (format : List Token) :
    isVariable format = .ok (RiskMatch.isVariableFormat format) := by
  rw [isVariable, RiskMatch.isVariableFormat]
  cases format with
  | nil => rfl
  | cons tok rest => simp [List.all_eq_not_any_not, bne]

theorem isUnbounded_eq {format : List Token} (quoted : ∀ tok ∈ format, tok.Quoted) :
    isUnbounded format = .ok (RiskMatch.isUnboundedFormat format) := by
  induction format with
  | nil => rfl
  | cons tok rest ih =>
    obtain ⟨here, later⟩ := List.forall_mem_cons.1 quoted
    rw [isUnbounded, literalBody_eq here, ok_bind, hasUnboundedConversion_eq, ih later]
    cases isString : tok.kind == .string <;>
      cases unbounded : CSurvey.hasUnboundedConversion tok.body <;>
      simp [RiskMatch.isUnboundedFormat, isString, unbounded]

theorem computedAddress_eq {front rest : List Token} (whole : tokens = front ++ rest)
    (groups : Nat) : computedAddress tokens groups front.length =
      .ok (RiskMatch.computedAddress? groups rest) := by
  induction groups generalizing front rest with
  | zero => rfl
  | succ groups ih =>
    rw [computedAddress, RiskMatch.computedAddress?]
    cases opens : Token.punctAt tokens[front.length]? "(" with
    | false =>
      have nothing : Bracketed.ofTokens? "(" ")" rest = none := by
        cases rest with
        | nil => rfl
        | cons first rest =>
          rw [getElem?_split whole rfl, Token.punctAt, Option.any_some] at opens
          rw [Bracketed.ofTokens?, if_neg (by simp [opens])]
      rw [nothing]
      rfl
    | true =>
      rw [closePosition_eq_ofTokens? whole opens]
      cases found : Bracketed.ofTokens? "(" ")" rest with
      | none => rfl
      | some group =>
        obtain ⟨inner, close, -, passed, past, length⟩ := item_group whole found
        simp only [Bool.not_true, Bool.false_eq_true, if_false, Option.map_some, ok_bind, inner,
          close]
        split
        · rfl
        · rw [← length]
          exact ih past

theorem pointerArithmetic_position (member : place ∈ Place.all tokens) :
    pointerArithmetic tokens place.position = .ok (RiskMatch.pointerArithmetic? place) := by
  obtain ⟨front, eq, length, -⟩ := Place.exists_front member
  have whole : tokens = (front ++ [place.here]) ++ place.after := by simp [eq]
  have past : (front ++ [place.here]).length = place.position + 1 := by simp [length]
  rw [pointerArithmetic, item_position member, ok_bind, behind_position member,
    RiskMatch.pointerArithmetic?, ← past, computedAddress_eq whole]
  simp only [ok_bind]
  cases place.here.isPunct "*" <;> cases RiskMatch.startsOperand place.previous <;> rfl

theorem indexedWrite_position (member : place ∈ Place.all tokens) (later : place.before ≠ []) :
    indexedWrite tokens place.position = .ok (RiskMatch.indexedWrite? place) := by
  obtain ⟨front, whole, length, before⟩ := Place.exists_front member
  obtain ⟨previous, earlier, nearest⟩ := List.exists_cons_of_ne_nil later
  have back : item tokens (place.position - 1) = .ok previous := by
    have split : tokens = earlier.reverse ++ previous :: place.here :: place.after := by
      rw [whole, ← List.reverse_reverse front, before, nearest]
      simp
    refine item_split split ?_
    rw [Place.position, nearest, List.length_cons, List.length_reverse, Nat.add_sub_cancel]
  have positive : 1 ≤ place.position := by
    rw [Place.position, nearest, List.length_cons]
    omega
  rw [indexedWrite, item_position member, ok_bind, minus_eq_ok positive, ok_bind, back, ok_bind,
    RiskMatch.indexedWrite?, nearest]
  simp only
  cases opens : place.here.isPunct "[" with
  | false =>
    have nothing : Bracketed.ofTokens? "[" "]" (place.here :: place.after) = none := by
      rw [Bracketed.ofTokens?, if_neg (by simp [opens])]
    rw [nothing]
    cases previous.isIdent || previous.isPunct "]" || previous.isPunct ")" <;> rfl
  | true =>
    have opensHere : Token.punctAt tokens[front.length]? "[" = true := by
      rw [getElem?_split whole rfl]
      exact opens
    rw [← length, closePosition_eq_ofTokens? whole opensHere]
    cases previous.isIdent || previous.isPunct "]" || previous.isPunct ")" with
    | false => rfl
    | true =>
      cases found : Bracketed.ofTokens? "[" "]" (place.here :: place.after) with
      | none => rfl
      | some group =>
        obtain ⟨inner, close, next, -⟩ := item_group whole found
        simp only [Bool.not_true, Bool.false_eq_true, if_false, if_true, Option.map_some, ok_bind,
          inner, close, next]
        split <;> rfl

theorem filterMap_indexedWrite? (tokens : List Token) :
    (Place.all tokens).filterMap RiskMatch.indexedWrite? =
      (Place.all tokens).tail.filterMap RiskMatch.indexedWrite? := by
  cases tokens <;> rfl

theorem mem_tail_all : ∀ place ∈ (Place.all tokens).tail, place.before ≠ [] := by
  cases tokens with
  | nil => simp [Place.all, Place.allFrom]
  | cons tok rest =>
    intro place member empty
    have kept := Place.mem_before_of_mem_allFrom member (List.mem_cons_self (a := tok) (l := []))
    rw [empty] at kept
    cases kept

theorem map_position_tail (tokens : List Token) :
    (Place.all tokens).tail.map Place.position = List.range' 1 (tokens.length - 1) := by
  rw [List.map_tail, Place.map_position_all, List.range_eq_range', List.tail_range', Nat.zero_add]

theorem filterMap_ite {α β : Type} (test : α → Bool) (f : α → β) (items : List α) :
    items.filterMap (fun member => if test member then some (f member) else none) =
      (items.filter test).map f := by
  induction items with
  | nil => rfl
  | cons first rest ih => cases here : test first <;> simp [here, ih]

theorem collect_formatCall {formats : List FormatPlace} {test : List Token → Checked Bool}
    {passes : List Token → Bool}
    (same : ∀ format, (∀ tok ∈ format, tok ∈ tokens) → test format = .ok (passes format)) :
    collect (formatCall tokens formats test) ((callPlaces tokens).map Place.position) =
      .ok (((callPlaces tokens).filter
        (fun place => (RiskMatch.formatOf? formats place).any passes)).map
        (fun place => RiskMatch.callSpan place place.arguments)) := by
  rw [← filterMap_ite]
  refine collect_map (fun place member => ?_)
  exact formatCall_position (Place.mem_all_of_mem_callPlaces place member)
    (List.mem_filter.1 member).2 same

theorem mem_all_of_mem_filter {test : Place → Bool} :
    ∀ place ∈ (callPlaces tokens).filter test, place ∈ Place.all tokens :=
  fun place inside => Place.mem_all_of_mem_callPlaces place (List.mem_of_mem_filter inside)

theorem unchecked_position (member : place ∈ callPlaces tokens) :
    (do
      let ranges ← callArguments tokens place.position
      return !(← allocationChecked tokens place.position ranges.close)) =
      (.ok (!RiskMatch.isCheckedAllocation place) : Checked Bool) := by
  have among := Place.mem_all_of_mem_callPlaces place member
  obtain ⟨ranges, read, spells⟩ := callArguments_spells among (List.mem_filter.1 member).2
  rw [read, ok_bind, allocationChecked_position among spells]
  rfl

theorem spans_eq (quoted : ∀ tok ∈ tokens, tok.Quoted) (pattern : RiskPattern) :
    spans pattern tokens ((callPlaces tokens).map Place.position) =
      .ok (RiskMatch.spans pattern tokens) := by
  have calls : ∀ place ∈ callPlaces tokens, place ∈ Place.all tokens :=
    Place.mem_all_of_mem_callPlaces
  cases pattern with
  | call names =>
    rw [spans, named_position calls, ok_bind]
    exact spansAt_position mem_all_of_mem_filter
  | formatArgument places =>
    exact collect_formatCall (fun format _ => isVariable_eq format)
  | unboundedScanf places =>
    exact collect_formatCall (fun format inside =>
      isUnbounded_eq (fun tok member => quoted tok (inside tok member)))
  | uncheckedAllocation names =>
    have unchecked : ∀ place ∈ (callPlaces tokens).filter (RiskMatch.callsOneOf names), _ = _ :=
      fun place inside => unchecked_position (List.mem_of_mem_filter inside)
    rw [spans, named_position calls, ok_bind, select_map unchecked, ok_bind]
    exact spansAt_position (fun place inside =>
      mem_all_of_mem_filter place (List.mem_of_mem_filter inside))
  | allocationWithoutRelease allocators releasers =>
    rw [spans, named_position calls, ok_bind, named_position calls, ok_bind]
    simp only [RiskMatch.spans]
    cases allocated : (callPlaces tokens).filter (RiskMatch.callsOneOf allocators) with
    | nil => simp
    | cons first others =>
      cases (callPlaces tokens).filter (RiskMatch.callsOneOf releasers) with
      | cons place rest => rfl
      | nil =>
        have here : first ∈ Place.all tokens :=
          mem_all_of_mem_filter first (allocated ▸ List.mem_cons_self ..)
        exact spansAt_position (List.forall_mem_singleton.2 here)
  | pointerArithmetic =>
    rw [spans, ← Place.map_position_all]
    exact collect_map (fun place => pointerArithmetic_position)
  | indexedWrite =>
    rw [spans, ← map_position_tail, RiskMatch.spans, filterMap_indexedWrite?]
    exact collect_map (fun place inside =>
      indexedWrite_position (List.mem_of_mem_tail inside) (mem_tail_all place inside))
  | sensitiveName words => rfl
  | keyword words => rfl

theorem evaluate_eq (table : RiskTable) (cs : List Char) (function : Option String)
    (quoted : ∀ tok ∈ tokens, tok.Quoted) :
    evaluate table cs tokens function = .ok (table.evaluate cs tokens function) := by
  rw [evaluate, callPositions_eq, ok_bind,
    each_eq_ok (fun rule _ => by rw [spans_eq quoted, ok_map]), ok_bind, RiskTable.evaluate,
    List.flatMap_def]
  rfl

end CSurvey.Checked
