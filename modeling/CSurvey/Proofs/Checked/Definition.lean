import CSurvey.Proofs.Checked.Body
import CSurvey.Proofs.Checked.Brackets
import CSurvey.Proofs.Checked.Call
import CSurvey.Proofs.Definition.Snippet
import CSurvey.Proofs.Token.Lines

/-!
# Definitions by position

The search for definitions, and the record of one, with every look at a token and
every cut of the text checked.
-/

namespace CSurvey

/-- Where the parts of a definition stand after its name. -/
structure DefinitionPlaces where
  closeParen : Nat
  openBrace : Nat
  closeBrace : Option Nat
deriving DecidableEq, Repr

namespace Definition

/-- Where the parts of a definition stand whose name has the given position. -/
def places (definition : Definition) (name : Nat) : DefinitionPlaces where
  closeParen := name + 2 + definition.params.length
  openBrace := name + 2 + definition.params.length + 1
  closeBrace := definition.closeBrace.map
    (fun _ => name + 2 + definition.params.length + 2 + definition.inner.length)

end Definition

namespace Checked

def firstFrom (tokens : List Token) (test : Token → Bool) :
    (steps position : Nat) → Checked (Option Nat)
  | 0, _ => .ok none
  | steps + 1, position => do
    let tok ← item tokens position
    if test tok then return some position
    firstFrom tokens test steps (position + 1)

def matchDefinition (tokens : List Token) (name : Nat) : Checked (Option DefinitionPlaces) := do
  if !Token.punctAt tokens[name + 1]? "(" then return none
  match ← closePosition "(" ")" endsParameters tokens (name + 1) with
  | none => return none
  | some closeParen =>
    let openBrace := closeParen + 1
    if !Token.punctAt tokens[openBrace]? Token.openBrace then return none
    let opening ← item tokens openBrace
    let closeBrace ← firstFrom tokens (Definition.closes opening.depth)
      (tokens.length - (openBrace + 1)) (openBrace + 1)
    return some ⟨closeParen, openBrace, closeBrace⟩

theorem firstFrom_eq {tokens front rest : List Token} (test : Token → Bool)
    (whole : tokens = front ++ rest) :
    firstFrom tokens test rest.length front.length =
      .ok ((rest.dropWhile (fun tok => !test tok)).head?.map
        (fun _ => front.length + (rest.takeWhile (fun tok => !test tok)).length)) := by
  induction rest generalizing front with
  | nil => rfl
  | cons tok rest ih =>
    have later := ih (by simp [whole] : tokens = (front ++ [tok]) ++ rest)
    rw [List.length_append, List.length_singleton] at later
    rw [List.length_cons, firstFrom, item_split whole rfl, ok_bind, later]
    cases passes : test tok
    · simp [passes, Nat.add_assoc, Nat.add_comm 1]
    · simp [passes]

section Match

variable {tokens front rest tail : List Token} {name openParen : Token}

theorem closePosition_params (whole : tokens = front ++ name :: openParen :: tail)
    (opens : openParen.isPunct "(" = true) :
    closePosition "(" ")" endsParameters tokens (front.length + 1) =
      .ok ((Definition.paramList 1 [] tail).map
        (fun found => front.length + 2 + found.1.length)) := by
  have split : tokens = (front ++ [name]) ++ openParen :: tail := by simp [whole]
  rw [← closeFrom_eq_paramList (Nat.le_refl 1)]
  simpa using @closePosition_of_isPunct "(" ")" endsParameters _ _ _ _ split opens

/-- The search for the end of a body looks at all tokens after the opening brace. -/
theorem firstFrom_after {before after : List Token} {tok : Token}
    (whole : tokens = before ++ tok :: after) (test : Token → Bool) :
    firstFrom tokens test (tokens.length - (before.length + 1)) (before.length + 1) =
      .ok ((after.dropWhile (fun tok => !test tok)).head?.map
        (fun _ => before.length + 1 + (after.takeWhile (fun tok => !test tok)).length)) := by
  have split : tokens = (before ++ [tok]) ++ after := by simp [whole]
  have steps : tokens.length - (before.length + 1) = after.length := by
    simp [split]
    omega
  have found := firstFrom_eq test split
  rwa [List.length_append, List.length_singleton, ← steps] at found

theorem matchDefinition_eq (whole : tokens = front ++ name :: rest) :
    matchDefinition tokens front.length =
      .ok ((Definition.ofTokens? rest).map (fun found => found.places front.length)) := by
  cases rest with
  | nil =>
    have atEnd : tokens[front.length + 1]? = none := by simp [whole]
    rw [matchDefinition, atEnd]
    rfl
  | cons openParen tail =>
    have next : tokens[front.length + 1]? = some openParen := getElem?_after_split whole rfl
    rw [matchDefinition, next, Definition.ofTokens?]
    by_cases opens : openParen.isPunct "(" = true
    · rw [if_pos opens, closePosition_params whole opens]
      cases list : Definition.paramList 1 [] tail with
      | none => simp [Token.punctAt, opens]
      | some found =>
        obtain ⟨params, closeParen, after⟩ := found
        obtain ⟨more, rfl, eq, -⟩ := Definition.paramList_eq_some list
        obtain rfl : params = more := by simpa using eq
        have split : tokens = (front ++ name :: openParen :: params) ++ closeParen :: after := by
          simp [whole]
        have length : (front ++ name :: openParen :: params).length =
            front.length + 2 + params.length := by
          simp
          omega
        have brace := getElem?_after_split split length
        cases after with
        | nil => simp [Token.punctAt, opens, brace]
        | cons openBrace body =>
          rw [List.head?_cons] at brace
          by_cases opensBody : openBrace.isPunct Token.openBrace = true
          · have wholeBody : tokens = (front ++ name :: openParen :: (params ++ [closeParen])) ++
                openBrace :: body := by simp [whole]
            have before : (front ++ name :: openParen :: (params ++ [closeParen])).length =
                front.length + 2 + params.length + 1 := by
              simp
              omega
            have closing := firstFrom_after wholeBody (Definition.closes openBrace.depth)
            rw [before] at closing
            simp [Token.punctAt, opens, brace, opensBody, item_eq_ok brace, closing,
              Definition.places]
          · simp [Token.punctAt, opens, brace, opensBody]
    · simp [Token.punctAt, opens]

end Match

end Checked

/-- Tokens between characters of a text, in order and apart. -/
structure Laid (cs : List Char) (tokens : List Token) : Prop where
  fits : ∀ tok ∈ tokens, tok.span.Fits cs
  long : ∀ tok ∈ tokens, tok.span.start < tok.span.stop
  apart : tokens.Pairwise (fun first second => first.span.stop ≤ second.span.start)

namespace Laid

variable {cs : List Char} {tokens front back : List Token} {mid tok : Token}

theorem sublist {part : List Token} (laid : Laid cs tokens) (sub : part.Sublist tokens) :
    Laid cs part where
  fits tok member := laid.fits tok (sub.subset member)
  long tok member := laid.long tok (sub.subset member)
  apart := laid.apart.sublist sub

theorem stop_le_start (laid : Laid cs tokens) (whole : tokens = front ++ mid :: back)
    (member : tok ∈ back) : mid.span.stop ≤ tok.span.start := by
  have apart := laid.apart
  rw [whole] at apart
  exact (List.pairwise_cons.1 (List.pairwise_append.1 apart).2.1).1 tok member

theorem start_le_start (laid : Laid cs tokens) (whole : tokens = front ++ mid :: back)
    (member : tok ∈ mid :: back) : mid.span.start ≤ tok.span.start := by
  rcases List.mem_cons.1 member with rfl | later
  · exact Nat.le_refl _
  · have after := laid.stop_le_start whole later
    have long := laid.long mid (by simp [whole])
    omega

end Laid

theorem laid_scan (text : String) : Laid text.toList (scan text) where
  fits _ member := fits_of_mem_scan member
  long _ member := start_lt_stop_of_mem_scan member
  apart := (layout_scan text).pairwise_stop_le_start

namespace Checked

/-- The position at which the return type before a name begins, at `start` or later. -/
def typeStart (tokens : List Token) (start : Nat) : (name : Nat) → Checked Nat
  | 0 => .ok 0
  | before + 1 =>
    if start < before + 1 then do
      let previous ← item tokens before
      if isTypeWord previous then typeStart tokens start before else return before + 1
    else .ok (before + 1)

def ending (cs : List Char) (tokens : List Token) (opening : Token) :
    Option Nat → Checked (Nat × Nat)
  | some position => do
    let brace ← item tokens position
    return (brace.span.stop, brace.span.endLine)
  | none => .ok (Text.byteLength cs, (tokens.getLast?.getD opening).span.endLine)

/-- The record of a definition whose declaration begins at position `start` or later. -/
def buildRecord (cs : List Char) (tokens : List Token) (start name : Nat)
    (places : DefinitionPlaces) (chunkId : Nat) : Checked FunctionRecord := do
  let nameToken ← item tokens name
  let first ← item tokens (← typeStart tokens start name)
  let opening ← item tokens places.openBrace
  let (stop, endLine) ← ending cs tokens opening places.closeBrace
  let inner ← part tokens (places.openBrace + 1) (places.closeBrace.getD tokens.length)
  let params ← part tokens (name + 2) places.closeParen
  let calls ← countCalls inner
  let body ← cut cs opening.span.start stop
  let metrics ← measure inner (opening.depth + 1) params body
  let closeParen ← item tokens places.closeParen
  let signature ← cut cs first.span.start closeParen.span.stop
  let returnType ← cut cs first.span.start nameToken.span.start
  let openParen ← item tokens (name + 1)
  let parameters ← cut cs openParen.span.stop closeParen.span.start
  let text ← cut cs first.span.start stop
  return {
    name := nameToken.text
    ordinal := 1
    signature := Text.collapse signature
    returnType := Text.collapse returnType
    params := Text.collapse parameters
    chunkId
    span := ⟨first.span.start, stop, first.span.line, endLine⟩
    body := ⟨opening.span.start, stop, opening.span.line, endLine⟩
    text := String.ofList text
    incomplete := places.closeBrace.isNone
    calls
    metrics := { metrics with callCount := calls.total } }

theorem typeStart_eq {tokens older before rest : List Token}
    (whole : tokens = older ++ (before.reverse ++ rest)) :
    typeStart tokens older.length (older.length + before.length) =
      .ok (older.length + (before.dropWhile isTypeWord).length) := by
  induction before generalizing rest with
  | nil =>
    rw [List.length_nil, Nat.add_zero, List.dropWhile_nil, List.length_nil, Nat.add_zero]
    cases length : older.length with
    | zero => rfl
    | succ count => rw [typeStart, if_neg (Nat.lt_irrefl _)]
  | cons tok before ih =>
    have split : tokens = (older ++ before.reverse) ++ tok :: rest := by simp [whole]
    have here := item_split split (by simp : _ = older.length + before.length)
    rw [List.length_cons, ← Nat.add_assoc, typeStart, if_pos (by omega), here, ok_bind,
      List.dropWhile_cons]
    split
    · exact ih (by simp [whole] : tokens = older ++ (before.reverse ++ tok :: rest))
    · rfl

section Parts

variable {tokens base back : List Token} {name : Token} {definition : Definition}
  (whole : tokens = base ++ name :: (definition.tokens ++ back))
include whole

theorem item_header :
    item tokens base.length = .ok name ∧
    item tokens (base.length + 1) = .ok definition.openParen ∧
    item tokens (definition.places base.length).closeParen = .ok definition.closeParen ∧
    item tokens (definition.places base.length).openBrace = .ok definition.openBrace := by
  have openParen : tokens = (base ++ [name]) ++ definition.openParen :: (definition.params ++
      definition.closeParen :: definition.openBrace :: (definition.bodyTokens ++ back)) := by
    simp [whole, Definition.tokens, Definition.header]
  have closeParen : tokens = (base ++ name :: definition.openParen :: definition.params) ++
      definition.closeParen :: definition.openBrace :: (definition.bodyTokens ++ back) := by
    simp [openParen]
  have openBrace : tokens = (base ++ name :: definition.openParen :: (definition.params ++
      [definition.closeParen])) ++ definition.openBrace :: (definition.bodyTokens ++ back) := by
    simp [openParen]
  refine ⟨item_split whole rfl, item_split openParen (by simp), item_split closeParen ?_,
    item_split openBrace ?_⟩ <;>
  · simp [Definition.places]
    omega

theorem part_params : part tokens (base.length + 2) (definition.places base.length).closeParen =
    .ok definition.params := by
  have split : tokens = (base ++ [name, definition.openParen]) ++ (definition.params ++
      (definition.closeParen :: definition.openBrace :: (definition.bodyTokens ++ back))) := by
    simp [whole, Definition.tokens, Definition.header]
  have middle := part_middle (base ++ [name, definition.openParen]) definition.params
    (definition.closeParen :: definition.openBrace :: (definition.bodyTokens ++ back))
  rw [← split] at middle
  simpa [Definition.places] using middle

theorem part_inner (atEnd : definition.closeBrace = none → back = []) :
    part tokens ((definition.places base.length).openBrace + 1)
      ((definition.places base.length).closeBrace.getD tokens.length) = .ok definition.inner := by
  have split : tokens = (base ++ name :: (definition.header ++ [definition.openBrace])) ++
      (definition.inner ++ (definition.closeBrace.toList ++ back)) := by
    simp [whole, Definition.tokens, Definition.bodyTokens]
  have length : (base ++ name :: (definition.header ++ [definition.openBrace])).length =
      (definition.places base.length).openBrace + 1 := by
    simp [Definition.places, Definition.header]
    omega
  have middle := part_middle (base ++ name :: (definition.header ++ [definition.openBrace]))
    definition.inner (definition.closeBrace.toList ++ back)
  rw [← split, length] at middle
  rw [← middle]
  cases brace : definition.closeBrace with
  | none =>
    have total := congrArg List.length split
    rw [atEnd brace, brace, Option.toList_none, List.append_nil, List.append_nil,
      List.length_append, length] at total
    simp [Definition.places, brace, total]
  | some close => simp [Definition.places, brace, Nat.add_assoc]

theorem ending_eq (cs : List Char) (atEnd : definition.closeBrace = none → back = []) :
    ending cs tokens definition.openBrace (definition.places base.length).closeBrace =
      .ok (definition.ending cs) := by
  have split : tokens = (base ++ name :: (definition.header ++ definition.openBrace ::
      definition.inner)) ++ (definition.closeBrace.toList ++ back) := by
    simp [whole, Definition.tokens, Definition.bodyTokens]
  cases brace : definition.closeBrace with
  | none =>
    rw [atEnd brace, brace, Option.toList_none, List.append_nil, List.append_nil] at split
    have last : tokens.getLast?.getD definition.openBrace = definition.lastToken := by
      rcases List.eq_nil_or_concat definition.inner with inner | ⟨before, last, inner⟩ <;>
        simp [split, inner, Definition.lastToken, brace, List.getLast?_cons]
    simp [Definition.places, Definition.ending, brace, ending, last]
  | some close =>
    rw [brace] at split
    have length : (base ++ name :: (definition.header ++ definition.openBrace ::
        definition.inner)).length =
        base.length + 2 + definition.params.length + 2 + definition.inner.length := by
      simp [Definition.header]
      omega
    simp [Definition.places, Definition.ending, brace, ending, item_split split length]

/-- The search goes on right after a definition. -/
theorem past_places (atEnd : definition.closeBrace = none → back = []) :
    (definition.places base.length).closeBrace.elim tokens.length (· + 1) =
      (base ++ name :: definition.tokens).length := by
  have total : (base ++ name :: definition.tokens).length =
      base.length + (definition.tokenCount + 1) := by
    rw [List.length_append, List.length_cons, Definition.length_tokens]
  cases brace : definition.closeBrace with
  | none =>
    rw [atEnd brace, List.append_nil] at whole
    simp [Definition.places, brace, whole]
  | some close =>
    simp [Definition.places, Definition.tokenCount, brace]
    omega

end Parts

section Record

variable {cs : List Char} {tokens front back : List Token} {site : Site} (laid : Laid cs tokens)
  (whole : tokens = front ++ (site.tokens ++ back))
include laid whole

theorem first_start_le {tok : Token} (member : tok ∈ site.tokens) :
    site.first.span.start ≤ tok.span.start := by
  obtain ⟨rest, header⟩ := site.headerTokens_eq
  have split : tokens = front ++ site.first :: (rest ++
      site.definition.openBrace :: site.definition.bodyTokens ++ back) := by
    simp [whole, Site.tokens_eq, header]
  apply laid.start_le_start split
  have inside := List.mem_append_left back member
  simpa [Site.tokens_eq, header] using inside

theorem openBrace_start_le_ending :
    site.definition.openBrace.span.start ≤ (site.definition.ending cs).1 := by
  have member : site.definition.openBrace ∈ tokens := by simp [whole, Site.tokens_eq]
  cases brace : site.definition.closeBrace with
  | none =>
    obtain ⟨before, after, rfl, length⟩ := (laid.fits _ member).1
    simp [Definition.ending, brace, ← length]
  | some close =>
    have split : tokens = (front ++ site.headerTokens) ++
        site.definition.openBrace :: (site.definition.inner ++ close :: back) := by
      simp [whole, Site.tokens_eq, Definition.bodyTokens, brace]
    have order := laid.start_le_start split
      (by simp : close ∈ site.definition.openBrace :: (site.definition.inner ++ close :: back))
    have long := laid.long close (by simp [split])
    simp only [Definition.ending, brace]
    omega

/-- The five cuts that a record is made of. -/
theorem cut_site :
    let first := site.first.span
    let definition := site.definition
    let opening := definition.openBrace.span
    let stop := (definition.ending cs).1
    cut cs first.start definition.closeParen.span.stop =
      .ok (Text.slice cs first.start definition.closeParen.span.stop) ∧
    cut cs first.start site.name.span.start =
      .ok (Text.slice cs first.start site.name.span.start) ∧
    cut cs definition.openParen.span.stop definition.closeParen.span.start =
      .ok (Text.slice cs definition.openParen.span.stop definition.closeParen.span.start) ∧
    cut cs opening.start stop = .ok (Text.slice cs opening.start stop) ∧
    cut cs first.start stop = .ok (Text.slice cs first.start stop) := by
  intro first definition opening stop
  have fits : ∀ tok ∈ site.tokens, tok.span.Fits cs :=
    fun tok member => laid.fits tok (by simp [whole, member])
  have own : ∀ tok ∈ definition.tokens, tok ∈ site.tokens :=
    fun tok member => by simp [Site.tokens, definition, member]
  have openParen : definition.openParen ∈ definition.tokens := by
    simp [Definition.tokens, Definition.header]
  have closeParen : definition.closeParen ∈ definition.tokens := by
    simp [Definition.tokens, Definition.header]
  have openBrace : definition.openBrace ∈ definition.tokens := by simp [Definition.tokens]
  have name : site.name ∈ site.tokens := by simp [Site.tokens]
  have firstIn : site.first ∈ site.tokens := by
    obtain ⟨rest, header⟩ := site.headerTokens_eq
    simp [Site.tokens_eq, header]
  have begins : Text.IsBoundary cs first.start := (fits _ firstIn).1
  have ends : Text.IsBoundary cs stop :=
    Definition.isBoundary_ending (fun tok member => fits tok (own tok member))
  have inside := openBrace_start_le_ending laid whole
  refine ⟨cut_eq_ok ?_ begins (fits _ (own _ closeParen)).2, cut_eq_ok ?_ begins (fits _ name).1,
    cut_eq_ok ?_ (fits _ (own _ openParen)).2 (fits _ (own _ closeParen)).1,
    cut_eq_ok inside (fits _ (own _ openBrace)).1 ends, cut_eq_ok ?_ begins ends⟩
  · have order := first_start_le laid whole (own _ closeParen)
    have long := laid.long definition.closeParen (by simp [whole, own _ closeParen])
    exact Nat.le_trans order (Nat.le_of_lt long)
  · exact first_start_le laid whole name
  · have split : tokens = (front ++ site.returnType ++ [site.name]) ++ definition.openParen ::
        (definition.params ++ definition.closeParen :: definition.openBrace ::
          (definition.bodyTokens ++ back)) := by
      simp [whole, Site.tokens, Definition.tokens, Definition.header, definition]
    exact laid.stop_le_start split (by simp)
  · exact Nat.le_trans (first_start_le laid whole (own _ openBrace)) inside

theorem buildRecord_eq (formed : site.Formed)
    (atEnd : site.definition.closeBrace = none → back = []) {start name : Nat}
    (length : (front ++ site.returnType).length = name)
    (begins : typeStart tokens start name = .ok front.length) (chunkId : Nat) :
    buildRecord cs tokens start name (site.definition.places name) chunkId =
      .ok (site.record cs chunkId) := by
  have split : tokens = (front ++ site.returnType) ++
      site.name :: (site.definition.tokens ++ back) := by
    simp [whole, Site.tokens]
  have firstHere : item tokens front.length = .ok site.first := by
    obtain ⟨rest, header⟩ := site.headerTokens_eq
    have split : tokens = front ++ site.first :: (rest ++ site.definition.openBrace ::
        (site.definition.bodyTokens ++ back)) := by
      simp [whole, Site.tokens_eq, header]
    exact item_split split rfl
  subst length
  obtain ⟨nameHere, openParen, closeParen, openBrace⟩ := item_header split
  obtain ⟨signature, returnType, params, body, text⟩ := cut_site laid whole
  have same : site.record cs chunkId = { site.record cs 0 with chunkId } := rfl
  rw [same, formed.record_eq, buildRecord, nameHere, ok_bind, begins, ok_bind, firstHere, ok_bind,
    openBrace]
  simp only [ok_bind, part_params split, part_inner split atEnd, ending_eq split cs atEnd,
    closeParen, openParen, countCalls_eq, signature, returnType, params, body, text, measure_eq,
    pure_eq_ok]
  simp [Definition.places]

end Record

/-- The definitions from a position on; the current declaration begins at `start`. -/
def extractFrom (cs : List Char) (tokens : List Token) (chunkId : Nat) :
    (steps start position : Nat) → Checked (List FunctionRecord)
  | 0, _, position => if position < tokens.length then .error .steps else .ok []
  | steps + 1, start, position =>
    if position < tokens.length then do
      let tok ← item tokens position
      let found ←
        if tok.depth == 0 && tok.isName then matchDefinition tokens position else .ok none
      match found with
      | some places =>
        let record ← buildRecord cs tokens start position places chunkId
        let next := places.closeBrace.elim tokens.length (· + 1)
        let more ← extractFrom cs tokens chunkId steps next next
        return record :: more
      | none =>
        let start := if endsDeclaration tok then position + 1 else start
        extractFrom cs tokens chunkId steps start (position + 1)
    else .ok []

/-- The definitions among the tokens of a text. -/
def extractFunctions (cs : List Char) (tokens : List Token) (chunkId : Nat) :
    Checked (List FunctionRecord) :=
  extractFrom cs (significant tokens) chunkId (significant tokens).length 0 0

theorem extractFrom_succ {cs : List Char} {tokens front rest : List Token} {tok : Token}
    (whole : tokens = front ++ tok :: rest) (chunkId steps start : Nat) :
    extractFrom cs tokens chunkId (steps + 1) start front.length =
      match (if tok.depth == 0 && tok.isName then Definition.ofTokens? rest else none) with
      | some found => do
        let places := found.places front.length
        let record ← buildRecord cs tokens start front.length places chunkId
        let next := places.closeBrace.elim tokens.length (· + 1)
        let more ← extractFrom cs tokens chunkId steps next next
        return record :: more
      | none =>
        let start := if endsDeclaration tok then front.length + 1 else start
        extractFrom cs tokens chunkId steps start (front.length + 1) := by
  have inside : front.length < tokens.length := by simp [whole]
  rw [extractFrom, if_pos inside, item_split whole rfl, ok_bind, matchDefinition_eq whole]
  by_cases named : (tok.depth == 0 && tok.isName) = true
  · rw [if_pos named, if_pos named, ok_bind]
    cases Definition.ofTokens? rest <;> rfl
  · rw [if_neg named, if_neg named]
    rfl

/-- The record is built of the return type found by walking back from the name. -/
theorem buildRecord_ofParts {cs : List Char} {tokens older before rest : List Token} {name : Token}
    {definition : Definition} (laid : Laid cs tokens)
    (whole : tokens = (older ++ before.reverse) ++ name :: (definition.tokens ++ rest))
    (formed : (Site.ofParts before name definition).Formed)
    (atEnd : definition.closeBrace = none → rest = []) (chunkId : Nat) :
    buildRecord cs tokens older.length (older ++ before.reverse).length
        (definition.places (older ++ before.reverse).length) chunkId =
      .ok ((Site.ofParts before name definition).record cs chunkId) := by
  have parts : (before.dropWhile isTypeWord).reverse ++ (before.takeWhile isTypeWord).reverse =
      before.reverse := by
    rw [← List.reverse_append, List.takeWhile_append_dropWhile]
  have wholeSite : tokens = (older ++ (before.dropWhile isTypeWord).reverse) ++
      ((Site.ofParts before name definition).tokens ++ rest) := by
    rw [whole, ← parts]
    simp [Site.tokens, Site.ofParts]
  have length : ((older ++ (before.dropWhile isTypeWord).reverse) ++
      (before.takeWhile isTypeWord).reverse).length = (older ++ before.reverse).length := by
    rw [List.append_assoc, parts]
  have begins := typeStart_eq (by rw [whole, List.append_assoc] :
    tokens = older ++ (before.reverse ++ name :: (definition.tokens ++ rest)))
  exact buildRecord_eq laid wholeSite formed atEnd length (by simpa using begins) chunkId

theorem extractFrom_eq {cs : List Char} {tokens older before rest : List Token}
    {sites : List Site} (laid : Laid cs tokens) (search : Sites before rest sites)
    (whole : tokens = older ++ (before.reverse ++ rest)) {steps : Nat}
    (enough : rest.length ≤ steps) (chunkId : Nat) :
    extractFrom cs tokens chunkId steps older.length (older ++ before.reverse).length =
      .ok (sites.map (fun site => site.record cs chunkId)) := by
  induction search generalizing older steps with
  | done before =>
    have atEnd : ¬ (older ++ before.reverse).length < tokens.length := by simp [whole]
    cases steps <;> rw [extractFrom, if_neg atEnd] <;> rfl
  | @site before name definition rest sites outside isName found tail ih =>
    obtain ⟨steps, rfl⟩ : ∃ less, steps = less + 1 := ⟨steps - 1, by simp at enough; omega⟩
    have split : tokens = (older ++ before.reverse) ++ name :: (definition.tokens ++ rest) := by
      simp [whole]
    have named : (name.depth == 0 && name.isName) = true := by simp [outside, isName]
    have all : Sites before (name :: (definition.tokens ++ rest))
        (Site.ofParts before name definition :: sites) := .site before outside isName found tail
    have atEnd : definition.closeBrace = none → rest = [] := by
      obtain ⟨-, ⟨left, eq, atEnd⟩, -⟩ := Definition.ofTokens?_eq_some found
      rwa [List.append_cancel_left eq]
    have record := buildRecord_ofParts laid split (all.formed (List.mem_cons_self ..)) atEnd chunkId
    have next := past_places split atEnd
    have past : tokens = (older ++ before.reverse ++ name :: definition.tokens) ++
        ([].reverse ++ rest) := by
      simp [split]
    have left : rest.length ≤ steps := by
      simp only [List.length_cons, List.length_append] at enough
      omega
    have later := ih past left
    rw [List.reverse_nil, List.append_nil] at later
    rw [extractFrom_succ split, if_pos named, found]
    simp only [record, ok_bind, next, later]
    rfl
  | @pass before rest tok sites other tail ih =>
    obtain ⟨steps, rfl⟩ : ∃ less, steps = less + 1 := ⟨steps - 1, by simp at enough; omega⟩
    have split : tokens = (older ++ before.reverse) ++ tok :: rest := by simp [whole]
    have enough : rest.length ≤ steps := by simpa using enough
    have nothing : (if (tok.depth == 0 && tok.isName) = true then Definition.ofTokens? rest
        else none) = none := by
      split
      · rename_i named
        simpa [startsDefinition, named] using other
      · rfl
    rw [extractFrom_succ split, nothing]
    cases ends : endsDeclaration tok with
    | true =>
      simp only [ends, if_true] at ih
      have past : tokens = (older ++ before.reverse ++ [tok]) ++ ([].reverse ++ rest) := by
        simp [whole]
      have later := ih past enough
      simpa [Nat.add_assoc] using later
    | false =>
      simp only [ends, Bool.false_eq_true, if_false] at ih
      have past : tokens = older ++ ((tok :: before).reverse ++ rest) := by simp [whole]
      have later := ih past enough
      simpa [Nat.add_assoc] using later

theorem extractFunctions_eq {cs : List Char} {tokens : List Token} (laid : Laid cs tokens)
    (chunkId : Nat) :
    extractFunctions cs tokens chunkId = .ok (CSurvey.extractFunctions cs tokens chunkId) := by
  obtain ⟨sites, search⟩ := Sites.exists_sites [] (significant tokens)
  have whole : significant tokens = [] ++ ([].reverse ++ significant tokens) := rfl
  have all := extractFrom_eq (laid.sublist (List.filter_sublist ..)) search whole (Nat.le_refl _)
    chunkId
  rw [extractFunctions, CSurvey.extractFunctions, search.definitionsFrom_eq]
  exact all

def fragmentRecord (name text : String) (tokens : List Token) : Checked FunctionRecord := do
  let calls ← countCalls (significant tokens)
  let metrics ← measure (significant tokens) 0 [] text.toList
  return { CSurvey.fragmentRecord name text tokens with
    calls
    metrics := { metrics with callCount := calls.total } }

theorem fragmentRecord_eq (name text : String) (tokens : List Token) :
    fragmentRecord name text tokens = .ok (CSurvey.fragmentRecord name text tokens) := by
  rw [fragmentRecord, countCalls_eq, ok_bind, measure_eq, ok_bind]
  rfl

end Checked

end CSurvey
