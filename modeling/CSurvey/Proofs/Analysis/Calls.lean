import CSurvey.Proofs.Analysis.Attribution
import CSurvey.Proofs.CallGraph.Edges
import CSurvey.Proofs.Token.Place

/-!
# The calls of a source

The calls of a function are read from the tokens between its braces alone, where the
first token has nothing before it and the last one nothing after it.  They are the
call sites of the whole source that lie in the body: what stands around the inner
tokens is a brace or nothing, and neither makes a call or takes one away.
-/

namespace CSurvey

namespace Place

/-- Whether the tokens before a name make it a member. -/
def accesses (before : List Token) : Bool :=
  Token.punctAt before.head? "." || Token.punctAt before.head? "->"

/-- Other tokens around a slice change none of its calls, if they do not access its first token and
do not open a parenthesis after its last one. -/
theorem map_here_calls_slice {one two back : List Token} (tokens : List Token)
    (same : accesses one = accesses two) (closed : Token.punctAt back.head? "(" = false) :
    (((allFrom one tokens).map (fun place =>
        { place with after := place.after ++ back })).filter isCall).map here =
      ((allFrom two tokens).filter isCall).map here := by
  induction tokens generalizing one two with
  | nil => rfl
  | cons tok rest ih =>
    have next : Token.punctAt (rest ++ back).head? "(" = Token.punctAt rest.head? "(" := by
      cases rest with
      | nil => rw [List.nil_append, closed, List.head?_nil]; rfl
      | cons head rest => rfl
    have head : isCall ⟨one, tok, rest ++ back⟩ = isCall ⟨two, tok, rest⟩ := by
      have first : isCall ⟨one, tok, rest ++ back⟩ =
        (tok.isName && Token.punctAt (rest ++ back).head? "(" && !accesses one) := rfl
      rw [first, next, same]
      rfl
    simp only [allFrom, List.map_cons, List.filter_cons, head]
    split
    · rw [List.map_cons, List.map_cons]
      exact congrArg _ (ih rfl)
    · exact ih rfl

theorem isName_of_mem_calls {places : List Place} {tok : Token}
    (member : tok ∈ (places.filter isCall).map here) :
    tok ∈ places.map here ∧ tok.isName = true := by
  obtain ⟨place, inCalls, rfl⟩ := List.mem_map.1 member
  obtain ⟨inPlaces, calls⟩ := List.mem_filter.1 inCalls
  rw [isCall, Bool.and_eq_true, Bool.and_eq_true] at calls
  exact ⟨List.mem_map_of_mem inPlaces, calls.1.1⟩

end Place

/-- The names of the calls among some tokens. -/
def callTokens (tokens : List Token) : List Token :=
  (callPlaces tokens).map Place.here

theorem callSites_eq (tokens : List Token) :
    callSites tokens = (callTokens tokens).map (fun tok => ⟨tok.text, tok.span⟩) := by
  rw [callSites, callTokens, List.map_map]
  rfl

/-- Whether the token at an index is a name before a parenthesis and not a member. -/
def callsAt (tokens : List Token) (index : Nat) : Bool :=
  tokens[index]?.any Token.isName && Token.punctAt tokens[index + 1]? "(" &&
    (index == 0 ||
      !(Token.punctAt tokens[index - 1]? "." || Token.punctAt tokens[index - 1]? "->"))

theorem callsAt_position {tokens : List Token} {place : Place} (member : place ∈ Place.all tokens) :
    callsAt tokens place.position = place.isCall := by
  have next := Place.getElem?_after member 0
  rw [Nat.zero_add, ← List.head?_eq_getElem?] at next
  rw [callsAt, Place.getElem?_position member, next, Option.any_some, Place.isCall, Place.next,
    Place.previous]
  refine congrArg _ ?_
  obtain ⟨front, whole, length, before⟩ := Place.exists_front member
  rw [← before, ← length, List.head?_reverse]
  rcases List.eq_nil_or_concat' front with rfl | ⟨front, last, rfl⟩
  · rfl
  · have behind : tokens[(front ++ [last]).length - 1]? = some last := by simp [whole]
    have notFirst : ((front ++ [last]).length == 0) = false := by simp
    rw [behind, notFirst, Bool.false_or, List.getLast?_concat]

theorem callSites_eq_filterMap (tokens : List Token) :
    callSites tokens = ((List.range tokens.length).filter (callsAt tokens)).filterMap
      (fun index => tokens[index]?.map (fun tok => ⟨tok.text, tok.span⟩)) := by
  have calls : ∀ place ∈ Place.all tokens, callsAt tokens place.position = place.isCall :=
    fun _ member => callsAt_position member
  rw [← Place.map_position_all, List.filter_map, List.filterMap_map,
    List.filter_congr (p := callsAt tokens ∘ Place.position) (q := Place.isCall) calls, callSites,
    callPlaces, ← List.filterMap_eq_map]
  refine List.filterMap_congr (fun place isCall => ?_)
  have member := (List.mem_filter.1 isCall).1
  rw [Function.comp_apply, Function.comp_apply, Place.getElem?_position member, Option.map_some]

theorem map_here_extended (before tokens after : List Token) :
    ((Place.allFrom before tokens).map (fun place =>
      { place with after := place.after ++ after })).map Place.here = tokens := by
  rw [List.map_map]
  exact Place.map_here_allFrom before tokens

theorem filter_callTokens_slice {before tokens after : List Token} {test : Token → Bool}
    (inside : ∀ tok ∈ tokens, test tok = true)
    (early : ∀ tok ∈ before, tok.isName = true → test tok = false)
    (late : ∀ tok ∈ after, tok.isName = true → test tok = false)
    (opened : Place.accesses before.reverse = false)
    (closed : Token.punctAt after.head? "(" = false) :
    (callTokens (before ++ (tokens ++ after))).filter test = callTokens tokens := by
  -- The calls around the slice all fail the test, those in it pass.
  have noneOutside : ∀ (places : List Place) (others : List Token), places.map Place.here = others →
      (∀ tok ∈ others, tok.isName = true → test tok = false) →
        ((places.filter Place.isCall).map Place.here).filter test = [] := by
    rintro places _ rfl apart
    rw [List.filter_eq_nil_iff]
    intro tok member
    obtain ⟨inPlaces, isName⟩ := Place.isName_of_mem_calls member
    rw [apart tok inPlaces isName]
    exact Bool.false_ne_true
  have allInside : (callTokens tokens).filter test = callTokens tokens := by
    rw [List.filter_eq_self]
    intro tok member
    have inPlaces := (Place.isName_of_mem_calls member).1
    rw [Place.map_here_all] at inPlaces
    exact inside tok inPlaces
  have accesses : Place.accesses (before.reverse ++ []) = Place.accesses [] := by
    rw [List.append_nil, opened]
    rfl
  rw [callTokens, callPlaces, Place.all, Place.allFrom_append, Place.allFrom_append]
  simp only [List.filter_append, List.map_append]
  rw [noneOutside _ _ (map_here_extended ..) early, noneOutside _ _ (Place.map_here_allFrom ..) late,
    Place.map_here_calls_slice tokens accesses closed, List.nil_append, List.append_nil]
  exact allInside

namespace Site.Formed

variable {text : String} {site : Site} {front back : List Token}
  (formed : site.Formed) (whole : significant (scan text) = front ++ (site.tokens ++ back))
include formed whole

theorem not_within_of_mem_front {tok : Token}
    (member : tok ∈ front ++ site.headerTokens ++ [site.definition.openBrace])
    (isName : tok.isName = true) :
    tok.span.within (site.record text.toList 0).body = false := by
  rcases List.mem_append.1 member with before | brace
  · have early := Site.start_lt_openBrace whole before
    rw [formed.record_eq]
    simp [Span.within, Nat.not_le.2 early]
  · rw [List.mem_singleton.1 brace,
      Token.isName_of_isPunct formed.definition.openBrace (by decide)] at isName
    cases isName

theorem within_of_mem_inner {tok : Token} (member : tok ∈ site.definition.inner) :
    tok.span.within (site.record text.toList 0).body = true := by
  have inBody : tok ∈ site.definition.openBrace :: site.definition.bodyTokens := by
    simp [Definition.bodyTokens, member]
  have ends := Site.stop_le_ending whole inBody
  have around : significant (scan text) = (front ++ site.headerTokens) ++
      site.definition.openBrace :: (site.definition.bodyTokens ++ back) := by
    simp [whole, Site.tokens_eq]
  have begins : site.definition.openBrace.span.start ≤ tok.span.start := by
    apply start_le_of_mem around
    rw [← List.cons_append]
    exact List.mem_append_left _ inBody
  rw [formed.record_eq]
  simp [Span.within, begins, ends]

variable (atEnd : site.definition.closeBrace = none → back = [])
include atEnd

theorem not_within_of_mem_back {tok : Token}
    (member : tok ∈ site.definition.closeBrace.toList ++ back) (isName : tok.isName = true) :
    tok.span.within (site.record text.toList 0).body = false := by
  rcases List.mem_append.1 member with brace | after
  · have closes := formed.definition.closeBrace tok (by simpa using brace)
    rw [Definition.closes, Bool.and_eq_true] at closes
    rw [Token.isName_of_isPunct closes.1 (by decide)] at isName
    cases isName
  · have late := (Site.start_lt_ending whole atEnd).2 tok after
    have kept : tok ∈ significant (scan text) := by simp [whole, after]
    have long := start_lt_stop_of_mem_scan (mem_significant.1 kept).1
    rw [formed.record_eq]
    have past : ¬ tok.span.stop ≤ (site.definition.ending text.toList).1 := by omega
    simp [Span.within, past]

theorem filter_callTokens :
    (callTokens (significant (scan text))).filter (fun tok =>
        tok.span.within (site.record text.toList 0).body) = callTokens site.definition.inner := by
  have parts : significant (scan text) =
      (front ++ site.headerTokens ++ [site.definition.openBrace]) ++
        (site.definition.inner ++ (site.definition.closeBrace.toList ++ back)) := by
    simp [whole, Site.tokens_eq, Definition.bodyTokens]
  rw [parts]
  -- An opening brace stands before the inner tokens, after them a closing one or nothing.
  refine filter_callTokens_slice (fun tok member => within_of_mem_inner formed whole member)
    (fun tok member => not_within_of_mem_front formed whole member)
    (fun tok member => not_within_of_mem_back formed whole atEnd member) ?_ ?_
  · have brace := formed.definition.openBrace
    have dot := Token.not_isPunct_of_isPunct brace (show Token.openBrace ≠ "." by decide)
    have arrow := Token.not_isPunct_of_isPunct brace (show Token.openBrace ≠ "->" by decide)
    simp [Place.accesses, Token.punctAt, dot, arrow]
  · cases closed : site.definition.closeBrace with
    | none =>
      rw [atEnd closed]
      rfl
    | some close =>
      have closes := formed.definition.closeBrace close closed
      rw [Definition.closes, Bool.and_eq_true] at closes
      exact Token.not_isPunct_of_isPunct closes.1 (by decide)

end Site.Formed

theorem exists_token_of_mem_callSites {tokens : List Token} {call : CallSite}
    (member : call ∈ callSites tokens) : ∃ tok ∈ tokens, tok.span = call.span := by
  rw [callSites_eq, List.mem_map] at member
  obtain ⟨tok, inCalls, rfl⟩ := member
  have inPlaces := (Place.isName_of_mem_calls inCalls).1
  rw [Place.map_here_all] at inPlaces
  exact ⟨tok, inPlaces, rfl⟩

theorem length_callSites_le (text : String) :
    (callSites (significant (scan text))).length ≤ Text.byteLength text.toList := by
  have calls : (callSites (significant (scan text))).length ≤ (significant (scan text)).length := by
    rw [callSites_eq, List.length_map, callTokens, List.length_map]
    refine Nat.le_trans (List.length_filter_le ..) ?_
    rw [← List.length_map Place.here, Place.map_here_all]
  have kept : (significant (scan text)).length ≤ (scan text).length := List.length_filter_le ..
  exact Nat.le_trans calls (Nat.le_trans kept (length_scan_le text))

namespace Chunk

section Function

variable {source : Source} {limit : Nat} {record : FunctionRecord}
  (member : record ∈ (ofSource source (scan source.text) limit).flatMap functions)
include member

theorem exists_calls :
    ∃ inner, record.calls = countCalls inner ∧
      record.metrics.callCount = record.calls.total ∧
      (callSites (significant (scan source.text))).filter (fun call =>
        call.span.within record.body) = callSites inner := by
  obtain ⟨site, front, back, formed, whole, atEnd, same⟩ := exists_site member
  have calls : record.calls = countCalls site.definition.inner :=
    congrArg FunctionRecord.calls same.symm
  have callCount : record.metrics.callCount = (countCalls site.definition.inner).total :=
    congrArg (fun record => record.metrics.callCount) same.symm
  have body : record.body = (site.record source.chars 0).body := by
    rw [same]
    rfl
  refine ⟨site.definition.inner, calls, calls ▸ callCount, ?_⟩
  rw [callSites_eq, callSites_eq, ← formed.filter_callTokens whole atEnd, List.filter_map, body]
  rfl

theorem count_calls (name : String) :
    record.calls.count name = (callSites (significant (scan source.text))).countP (fun call =>
      call.name == name && call.span.within record.body) := by
  obtain ⟨inner, calls, -, own⟩ := exists_calls member
  rw [calls, countCalls, Tally.count_ofNames, ← own, ← List.countP_filter, List.count_eq_countP,
    List.countP_map]
  rfl

theorem mem_names_calls {name : String} :
    name ∈ record.calls.names ↔
      ∃ call ∈ callSites (significant (scan source.text)),
        call.name = name ∧ call.span.within record.body = true := by
  obtain ⟨inner, calls, -, own⟩ := exists_calls member
  rw [calls, countCalls, Tally.mem_names_ofNames, ← own]
  simp only [List.mem_map, List.mem_filter]
  constructor
  · rintro ⟨call, ⟨isCall, within⟩, named⟩
    exact ⟨call, isCall, named, within⟩
  · rintro ⟨call, isCall, named, within⟩
    exact ⟨call, ⟨isCall, within⟩, named⟩

theorem sum_calls :
    (record.calls.entries.map (·.2)).sum =
      (callSites (significant (scan source.text))).countP (fun call =>
        call.span.within record.body) := by
  obtain ⟨inner, calls, -, own⟩ := exists_calls member
  rw [calls, countCalls, Tally.sum_ofNames, List.length_map, ← own, List.countP_eq_length_filter]

theorem callCount_eq :
    record.metrics.callCount = (callSites (significant (scan source.text))).countP (fun call =>
      call.span.within record.body) := by
  obtain ⟨inner, -, callCount, -⟩ := exists_calls member
  rw [callCount, Tally.total, sum_calls member]

theorem body_extent :
    record.span.start < record.body.start ∧ record.body.start < record.body.stop ∧
      record.body.stop = record.span.stop := by
  obtain ⟨site, front, back, formed, whole, atEnd, same⟩ := exists_site member
  have span : record.span = (site.record source.chars 0).span := by
    rw [same]
    rfl
  have body : record.body = (site.record source.chars 0).body := by
    rw [same]
    rfl
  rw [span, body]
  exact formed.record_extent whole atEnd

theorem name_ne_externalName : record.name ≠ externalName := by
  obtain ⟨site, -, -, formed, -, -, same⟩ := exists_site member
  have name : record.name = site.name.text := congrArg FunctionRecord.name same.symm
  have word := formed.isName
  intro external
  have notWord : isIdentifier externalName = false := by decide
  simp [Token.isName, Token.isIdent, ← name, external, notWord] at word

end Function

section Call

variable {source : Source} {limit : Nat} {call : CallSite}
  (isCall : call ∈ callSites (significant (scan source.text)))
include isCall

theorem not_within_body_of_within_span {record other : FunctionRecord}
    (member : record ∈ (ofSource source (scan source.text) limit).flatMap functions)
    (others : other ∈ (ofSource source (scan source.text) limit).flatMap functions)
    (different : record ≠ other) (begins : record.span.start ≤ call.span.start)
    (ends : call.span.start < record.span.stop) : call.span.within other.body = false := by
  obtain ⟨tok, kept, span⟩ := exists_token_of_mem_callSites isCall
  have long := start_lt_stop_of_mem_scan (mem_significant.1 kept).1
  have extent := body_extent others
  have symmetric : Std.Symm (fun one two : FunctionRecord =>
      one.span.stop ≤ two.span.start ∨ two.span.stop ≤ one.span.start) :=
    ⟨fun _ _ => Or.symm⟩
  have apart := ((pairwise_functions source limit).imp
    (S := fun one two => one.span.stop ≤ two.span.start ∨ two.span.stop ≤ one.span.start)
    (fun before => Or.inl before.2)).forall member others different
  rw [← Bool.not_eq_true, Span.within, Bool.and_eq_true, decide_eq_true_eq, decide_eq_true_eq]
  rw [span] at long
  omega

/-- No call lies in two bodies. -/
theorem pairwise_not_within (limit : Nat) :
    ((ofSource source (scan source.text) limit).flatMap functions).Pairwise
      (fun one other => ¬ (call.span.within one.body = true ∧
        call.span.within other.body = true)) := by
  obtain ⟨tok, kept, span⟩ := exists_token_of_mem_callSites isCall
  have long := start_lt_stop_of_mem_scan (mem_significant.1 kept).1
  rw [span] at long
  refine (pairwise_functions source limit).imp_of_mem ?_
  intro one other inFirst inSecond apart
  have first := body_extent inFirst
  have second := body_extent inSecond
  simp only [Span.within, Bool.and_eq_true, decide_eq_true_eq]
  omega

end Call

end Chunk

def callsBetween (source : Source) (records : List FunctionRecord) (caller callee : String) :
    Nat :=
  (callSites (significant (scan source.text))).countP (fun call => call.name == callee &&
    records.any (fun record => record.name == caller && call.span.within record.body))

section Graph

variable {source : Source} {limit : Nat} {records : List FunctionRecord}
  (functions : (Chunk.ofSource source (scan source.text) limit).flatMap Chunk.functions = records)
include functions

theorem makes_iff {caller callee : String} :
    CallGraph.Makes records caller callee ↔ 0 < callsBetween source records caller callee := by
  subst functions
  rw [callsBetween, List.countP_pos_iff, CallGraph.Makes]
  simp only [Bool.and_eq_true, beq_iff_eq, List.any_eq_true]
  constructor
  · rintro ⟨record, member, named, called⟩
    obtain ⟨call, isCall, callee, within⟩ := (Chunk.mem_names_calls member).1 called
    exact ⟨call, isCall, callee, record, member, named, within⟩
  · rintro ⟨call, isCall, callee, record, member, named, within⟩
    exact ⟨record, member, named,
      (Chunk.mem_names_calls member).2 ⟨call, isCall, callee, within⟩⟩

/-- The counts of the definitions of a name add up, since no call lies in two bodies. -/
theorem callCount_eq_callsBetween (caller callee : String) :
    CallGraph.callCount records caller callee = callsBetween source records caller callee := by
  subst functions
  rw [CallGraph.callCount, List.map_congr_left (fun record own =>
    Chunk.count_calls (List.mem_filter.1 own).1 callee), sum_countP]
  · refine List.countP_congr (fun call _ => ?_)
    simp only [List.any_eq_true, List.mem_filter, Bool.and_eq_true]
    constructor
    · rintro ⟨record, ⟨member, named⟩, called, within⟩
      exact ⟨called, record, member, named, within⟩
    · rintro ⟨called, record, member, named, within⟩
      exact ⟨record, ⟨member, named⟩, called, within⟩
  · intro call isCall
    refine ((Chunk.pairwise_not_within isCall limit).filter _).imp ?_
    intro one other apart
    simp only [Bool.and_eq_true]
    rintro ⟨first, second⟩
    exact apart ⟨first.2, second.2⟩

/-- A word that can measure a source can count its calls. -/
theorem recordedCalls_lt (fits : source.size < wordSize) :
    CallGraph.recordedCalls records < wordSize := by
  subst functions
  have few := length_callSites_le source.text
  have fewer := List.countP_le_length
    (p := fun call : CallSite => ((Chunk.ofSource source (scan source.text) limit).flatMap
      Chunk.functions).any (fun record => call.span.within record.body))
    (l := callSites (significant (scan source.text)))
  rw [CallGraph.recordedCalls, List.map_congr_left (fun record member =>
    Chunk.sum_calls member), sum_countP (fun call isCall =>
      Chunk.pairwise_not_within isCall limit)]
  rw [Source.size] at fits
  omega

theorem not_defined_externalName : ¬ CallGraph.Defined records externalName := by
  subst functions
  rintro ⟨record, member, external⟩
  exact Chunk.name_ne_externalName member external

end Graph

/-- The records of a source and their graph count its call sites. -/
structure CountsCalls (source : Source) (records : List FunctionRecord) (graph : CallGraph) :
    Prop where
  sites : callSites (significant (scan source.text)) =
    ((List.range (significant (scan source.text)).length).filter
      (callsAt (significant (scan source.text)))).filterMap (fun index =>
        (significant (scan source.text))[index]?.map (fun tok => ⟨tok.text, tok.span⟩))
  calls : ∀ record ∈ records, ∀ name,
    record.calls.count name = (callSites (significant (scan source.text))).countP (fun call =>
      call.name == name && call.span.within record.body)
  /-- The calls of a function are counted in a word, which is enough if it can number the bytes. -/
  callCount : source.size < wordSize → ∀ record ∈ records,
    record.metrics.callCount = (callSites (significant (scan source.text))).countP (fun call =>
      call.span.within record.body)
  /-- Calls in a header or outside all functions are in no body. -/
  header : ∀ call ∈ callSites (significant (scan source.text)), ∀ record ∈ records,
    record.span.start ≤ call.span.start → call.span.start < record.body.start →
      ∀ other ∈ records, call.span.within other.body = false
  outside : ∀ call ∈ callSites (significant (scan source.text)),
    (∀ record ∈ records, call.span.within record.span = false) →
      ∀ record ∈ records, call.span.within record.body = false
  /-- No call is in two bodies. -/
  once : ∀ call ∈ callSites (significant (scan source.text)),
    records.Pairwise (fun one other =>
      ¬ (call.span.within one.body = true ∧ call.span.within other.body = true))
  edge : ∀ caller callee, CallGraph.Defined records callee →
    ((∃ edge ∈ graph.edges, edge.caller = caller ∧ edge.callee = callee) ↔
      0 < callsBetween source records caller callee)
  edgeCount : source.size < wordSize → ∀ edge ∈ graph.edges,
    CallGraph.Defined records edge.callee →
      edge.count = callsBetween source records edge.caller edge.callee

/-- For a limit of at least one line, the chunks of a source and the graph of their functions count
its call sites, whatever the limit is. -/
theorem chunkSource_countsCalls (source : Source) {limit : Nat} (positive : 1 ≤ limit) :
    ∃ chunks, chunkSource source (scan source.text) limit = .ok chunks ∧
      CountsCalls source (chunks.flatMap Chunk.functions) (CallGraph.ofChunks chunks) := by
  refine ⟨Chunk.ofSource source (scan source.text) limit, chunkSource_eq source _ positive, ?_⟩
  rw [CallGraph.ofChunks]
  generalize functions :
    (Chunk.ofSource source (scan source.text) limit).flatMap Chunk.functions = records
  have named := not_defined_externalName functions
  constructor
  case sites => exact callSites_eq_filterMap _
  case calls =>
    subst functions
    exact fun record member name => Chunk.count_calls member name
  case callCount =>
    subst functions
    exact fun _ record member => Chunk.callCount_eq member
  case header =>
    subst functions
    intro call isCall record member begins ends other others
    have extent := Chunk.body_extent member
    by_cases same : record = other
    · subst same
      simp [Span.within, Nat.not_le.2 ends]
    · exact Chunk.not_within_body_of_within_span isCall member others same begins (by omega)
  case outside =>
    subst functions
    intro call isCall apart record member
    have extent := Chunk.body_extent member
    have notInside := apart record member
    rw [← Bool.not_eq_true, Span.within, Bool.and_eq_true, decide_eq_true_eq,
      decide_eq_true_eq] at notInside ⊢
    omega
  case once =>
    subst functions
    exact fun call isCall => Chunk.pairwise_not_within isCall limit
  case edge =>
    intro caller callee defined
    rw [CallGraph.exists_edge, CallGraph.calls_iff_of_defined named defined,
      makes_iff functions]
  case edgeCount =>
    intro _ edge member defined
    rw [(CallGraph.mem_edges.1 member).2.1,
      CallGraph.count_targets_of_defined named defined,
      callCount_eq_callsBetween functions]

/-- A call of a member, calls among arguments and one outside all functions. -/
theorem chunkSource_countsCalls_member :
    let source := Source.ofText
      "int f(int n) \x7b g(1); s.g(2); g(f(0)); \x7d\nint g() \x7b p->f() + h(); \x7d\ng(3);"
    1 ≤ 1 ∧ source.size < wordSize ∧
      ∃ chunks, chunkSource source (scan source.text) 1 = .ok chunks ∧
        CountsCalls source (chunks.flatMap Chunk.functions) (CallGraph.ofChunks chunks) ∧
        (callSites (significant (scan source.text))).map CallSite.name =
          ["f", "g", "g", "f", "g", "h", "g"] ∧
        (CallGraph.ofChunks chunks).edges.map (fun edge =>
          (edge.caller, edge.callee, edge.count)) =
            [("f", "f", 1), ("f", "g", 2), ("g", "<external>", 1)] := by
  intro source
  have positive : 1 ≤ 1 := by decide
  have fits : source.size < wordSize := by decide +kernel
  obtain ⟨chunks, made, counts⟩ := chunkSource_countsCalls source positive
  refine ⟨positive, fits, chunks, made, counts, by decide +kernel, ?_⟩
  rw [chunkSource_eq source _ positive] at made
  obtain rfl := Except.ok.inj made
  decide +kernel

end CSurvey
