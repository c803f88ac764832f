import CSurvey.Proofs.Analysis.Scope

/-!
# Records of a source

The functions of all chunks stand apart and in order, each in the bytes of its
own chunk.  The body of a function runs from a brace outside all braces to the
first brace that closes outside all braces; only at the end of the text can that
brace be missing, and then some brace stays open to the end.
-/

namespace CSurvey

namespace FunctionRecord

/-- The body runs from a brace outside all braces to the first later one that closes there. -/
def Closes (record : FunctionRecord) (tokens : List Token) : Prop :=
  ∃ front opening inner closing back,
    tokens = front ++ opening :: (inner ++ closing :: back) ∧
      opening.isPunct Token.openBrace = true ∧ opening.depth = 0 ∧
      Definition.closes 0 closing = true ∧
      (∀ tok ∈ inner, Definition.closes 0 tok = false) ∧
      record.body =
        ⟨opening.span.start, closing.span.stop, opening.span.line, closing.span.endLine⟩

/-- The body begins with a brace outside all braces, and from it on some brace is open. -/
def StaysOpen (record : FunctionRecord) (tokens : List Token) : Prop :=
  (∃ opening ∈ significant tokens, opening.isPunct Token.openBrace = true ∧
    opening.depth = 0 ∧ record.body.start = opening.span.start) ∧
  ∀ tok ∈ tokens, record.body.start ≤ tok.span.start → 0 < tok.depthAfter

theorem exists_of_getElem?_assignOrdinals {before : List String} {records : List FunctionRecord}
    {place : Nat} {record : FunctionRecord}
    (here : (assignOrdinals before records)[place]? = some record) :
    ∃ raw, records[place]? = some raw ∧ record = { raw with ordinal := record.ordinal } := by
  induction records generalizing before place with
  | nil => simp [assignOrdinals] at here
  | cons head rest ih =>
    rw [assignOrdinals] at here
    cases place with
    | zero =>
      obtain rfl := Option.some.inj here
      exact ⟨head, rfl, rfl⟩
    | succ place => exact ih here

theorem length_assignOrdinals (before : List String) (records : List FunctionRecord) :
    (assignOrdinals before records).length = records.length := by
  have names := congrArg List.length
    (map_assignOrdinals (f := name) (fun _ _ => rfl) before records)
  simpa using names

end FunctionRecord

theorem mem_of_start_le {text : String} {front back : List Token} {mid tok : Token}
    (whole : scan text = front ++ mid :: back) (member : tok ∈ scan text)
    (begins : mid.span.start ≤ tok.span.start) : tok ∈ mid :: back := by
  have sorted := pairwise_start_scan text
  rw [whole] at sorted member
  rcases List.mem_append.1 member with early | late
  · have before := (List.pairwise_append.1 sorted).2.2 tok early mid (List.mem_cons_self ..)
    omega
  · exact late

namespace Site.Formed

variable {text : String} {site : Site} {front back : List Token}
  (formed : site.Formed) (whole : significant (scan text) = front ++ (site.tokens ++ back))
include formed whole

theorem openBrace_depth : site.definition.openBrace.depth = 0 := by
  obtain ⟨_, nested⟩ := nested_scan text
  exact (formed.depth_eq_zero (whole ▸ nested.significant)).2

theorem closes_record {close : Token} (closed : site.definition.closeBrace = some close) :
    (site.record text.toList 0).Closes (significant (scan text)) := by
  have outside := formed.openBrace_depth whole
  have bodyTokens : site.definition.bodyTokens = site.definition.inner ++ [close] := by
    rw [Definition.bodyTokens, closed, Option.toList_some]
  have inner := formed.definition.inner
  have closing := formed.definition.closeBrace close closed
  rw [outside] at inner closing
  refine ⟨front ++ site.headerTokens, site.definition.openBrace, site.definition.inner, close,
    back, ?_, formed.definition.openBrace, outside, closing, inner, ?_⟩
  · rw [whole, Site.tokens_eq, bodyTokens]
    simp
  · rw [formed.record_eq]
    simp only [Definition.ending, closed]

theorem staysOpen_record (atEnd : back = []) (unclosed : site.definition.closeBrace = none) :
    (site.record text.toList 0).StaysOpen (scan text) := by
  have outside := formed.openBrace_depth whole
  have opening := formed.definition.openBrace
  have around : significant (scan text) =
      (front ++ site.headerTokens) ++ site.definition.openBrace :: site.definition.inner := by
    rw [whole, atEnd, Site.tokens_eq, Definition.bodyTokens, unclosed]
    simp
  have kept : site.definition.openBrace ∈ significant (scan text) := by simp [around]
  obtain ⟨before, after, inText, -, -, inAfter⟩ := exists_of_significant_eq around
  refine ⟨⟨_, kept, opening, outside, by rw [formed.record_eq]⟩, ?_⟩
  obtain ⟨last, nested⟩ := nested_scan text
  rw [inText] at nested
  obtain ⟨_, -, -, nested⟩ := Nested.append_iff.1 nested
  have oneOpen : site.definition.openBrace.depthAfter = 1 := by
    simp [Token.depthAfter, opening, directive_of_mem_significant kept, outside]
  rw [oneOpen] at nested
  -- A brace that closes is significant, and none among the significant tokens gets back to zero.
  have unclosedAfter : ∀ tok ∈ after, tok.isClosing = true → Definition.closes 0 tok = false := by
    intro tok member closing
    have keeps : tok.isSignificant = true := by
      by_contra other
      rw [Bool.not_eq_true] at other
      rw [Token.isClosing_of_not_isSignificant other] at closing
      cases closing
    have inside : tok ∈ site.definition.inner := by
      rw [← inAfter]
      exact mem_significant.2 ⟨member, keeps⟩
    rw [← outside]
    exact formed.definition.inner tok inside
  have deeper := (nested.lt_depthAfter Nat.zero_lt_one unclosedAfter).2
  intro tok member begins
  rw [formed.record_eq] at begins
  rcases List.mem_cons.1 (mem_of_start_le inText member begins) with rfl | later
  · omega
  · exact deeper tok later

/-- A header comes before its body, which has at least one byte and ends with the function. -/
theorem record_extent (atEnd : site.definition.closeBrace = none → back = []) :
    let record := site.record text.toList 0
    record.span.start < record.body.start ∧ record.body.start < record.body.stop ∧
      record.body.stop = record.span.stop := by
  have early := (Site.start_lt_ending whole atEnd).1 site.definition.openBrace
    (List.mem_cons_self ..)
  obtain ⟨others, header⟩ := site.headerTokens_eq
  have around : significant (scan text) = (front ++ site.headerTokens) ++
      site.definition.openBrace :: (site.definition.bodyTokens ++ back) := by
    rw [whole, Site.tokens_eq]
    simp
  have first : site.first ∈ front ++ site.headerTokens := by simp [header]
  rw [formed.record_eq]
  exact ⟨start_lt_of_mem_front around first, early, rfl⟩

end Site.Formed

namespace Chunk

/-- The bytes of a chunk hold a span. -/
def Covers (lines : LineIndex) (chunk : Chunk) (span : Span) : Prop :=
  (lines.linesRange chunk.startLine chunk.endLine).1 ≤ span.start ∧
    span.stop ≤ (lines.linesRange chunk.startLine chunk.endLine).2

variable {source : Source} {limit : Nat}

/-- The functions of all chunks stand apart and in order. -/
theorem pairwise_functions (source : Source) (limit : Nat) :
    ((ofSource source (scan source.text) limit).flatMap functions).Pairwise
      (fun first second => first.span.start < second.span.start ∧
        first.span.stop ≤ second.span.start) := by
  obtain ⟨sites, outside, tiling, records⟩ := exists_tiling source limit
  have apart : (significant (scan source.text)).Pairwise
      (fun first second => first.span.stop ≤ second.span.start) :=
    (layout_scan source.text).pairwise_stop_le_start.filter _
  have spans : ((ofSource source (scan source.text) limit).flatMap functions).map
      FunctionRecord.span = sites.map (fun site => (site.record source.chars 0).span) := by
    have same := congrArg (List.map FunctionRecord.span) records
    rwa [List.map_map, List.map_map] at same
  suffices (sites.map (fun site => (site.record source.chars 0).span)).Pairwise
      (fun first second => first.start < second.start ∧ first.stop ≤ second.start) by
    rw [← spans] at this
    exact List.pairwise_map.1 this
  apply List.pairwise_map.2
  apply (tiling.pairwise apart).imp_of_mem
  rintro first second inSites inSitesToo ⟨closed, before⟩
  obtain ⟨front, back, whole, atEnd⟩ := tiling.exists_context inSites
  have extent := (tiling.formed inSites).record_extent whole atEnd
  have stops : (first.record source.chars 0).span.stop ≤
      (second.record source.chars 0).span.start := by
    obtain ⟨close, brace⟩ := Option.ne_none_iff_exists'.1 closed
    rw [(tiling.formed inSites).record_eq, (tiling.formed inSitesToo).record_eq]
    simp only [Definition.ending, brace]
    exact before close (by simp [Site.tokens, Definition.tokens, Definition.bodyTokens, brace])
      second.first second.first_mem_tokens
  dsimp only [Source.chars] at extent stops ⊢
  omega

/-- The functions of a chunk are the definitions that its lines hold, in order. -/
theorem exists_sites_of_getElem? {index : Nat} {chunk : Chunk}
    (here : (ofSource source (scan source.text) limit)[index]? = some chunk) :
    ∃ bounds sites outside,
      (chunkBounds (scan source.text) source.lines.count limit)[index]? = some bounds ∧
      chunk.startLine = bounds.first ∧ chunk.endLine = bounds.last ∧
      Tiling (significant (tokensOf (scan source.text) bounds)) sites outside ∧
      sites.length = chunk.functions.length ∧
      ∀ (place : Nat) (record : FunctionRecord), chunk.functions[place]? = some record →
        ∃ site : Site, sites[place]? = some site ∧ record.chunkId = chunk.id ∧
          record.unnumbered = site.record source.chars 0 := by
  obtain ⟨names, bounds, found, startLine, endLine, functions⟩ := functions_of_getElem? here
  obtain ⟨sites, search⟩ := Sites.exists_sites []
    (significant (tokensOf (scan source.text) bounds))
  obtain ⟨outside, tiling⟩ := search.exists_tiling
  rw [extractFunctions, search.definitionsFrom_eq] at functions
  refine ⟨bounds, sites, outside, found, startLine, endLine, tiling, ?_, ?_⟩
  · rw [functions, FunctionRecord.length_assignOrdinals, List.length_map]
  · intro place record there
    rw [functions] at there
    obtain ⟨raw, inRaw, numbered⟩ := FunctionRecord.exists_of_getElem?_assignOrdinals there
    rw [List.getElem?_map] at inRaw
    obtain ⟨site, inSites, rfl⟩ := Option.map_eq_some_iff.1 inRaw
    refine ⟨site, inSites, ?_, ?_⟩
    · rw [numbered]
      rfl
    · rw [numbered]
      rfl

theorem significant_scan_eq {bounds : ChunkBounds} (positive : 1 ≤ bounds.first)
    (ordered : bounds.first ≤ bounds.last) (text : String) :
    significant (scan text) = significant (tokensUpTo (scan text) (bounds.first - 1)) ++
      (significant (tokensOf (scan text) bounds) ++
        significant (tokensAfter (scan text) bounds.last)) := by
  obtain ⟨first, last, incomplete⟩ := bounds
  obtain ⟨passed, rfl⟩ := Nat.exists_eq_add_of_le' positive
  dsimp only at ordered ⊢
  rw [Nat.add_sub_cancel, ← List.append_assoc, ← significant_append,
    tokensUpTo_append_tokensOf text (Nat.le_of_succ_le ordered), ← significant_append,
    tokensUpTo_append_tokensAfter (pairwise_line_scan text)]

/-- A definition of a chunk stands in the text as it stands in the chunk.  It lacks its closing
brace only if it is the last one of the last chunk. -/
theorem exists_context_of_getElem? {index place : Nat} {bounds : ChunkBounds} {sites : List Site}
    {outside : List Token} {site : Site}
    (found : (chunkBounds (scan source.text) source.lines.count limit)[index]? = some bounds)
    (tiling : Tiling (significant (tokensOf (scan source.text) bounds)) sites outside)
    (there : sites[place]? = some site) :
    ∃ front back, significant (scan source.text) = front ++ (site.tokens ++ back) ∧
      (site.definition.closeBrace = none → back = [] ∧ bounds.last = source.lines.count ∧
        index + 1 = (chunkBounds (scan source.text) source.lines.count limit).length ∧
        place + 1 = sites.length) := by
  have cover := ChunkBounds.cover_chunkBounds (scan source.text) source.lines.count limit
  have ⟨positive, ordered, _⟩ := cover.getElem? found
  have member := List.mem_of_getElem? there
  obtain ⟨front, back, inChunk, atEnd⟩ := tiling.exists_context member
  have whole := significant_scan_eq positive ordered source.text
  rw [inChunk] at whole
  refine ⟨significant (tokensUpTo (scan source.text) (bounds.first - 1)) ++ front,
    back ++ significant (tokensAfter (scan source.text) bounds.last), by simp [whole], ?_⟩
  intro unclosed
  have finished : bounds.last = source.lines.count := by
    rcases cover.ends (List.mem_of_getElem? found) with last | clean
    · exact last
    · obtain ⟨first, last, incomplete⟩ := bounds
      obtain ⟨passed, rfl⟩ := Nat.exists_eq_add_of_le' positive
      exact absurd unclosed
        (closeBrace_ne_none_of_clean (Nat.le_of_succ_le ordered) clean tiling member)
  have nothing : tokensAfter (scan source.text) bounds.last = [] := by
    rw [finished]
    exact tokensAfter_eq_nil (fun tok inText => line_le_count_of_mem_scan inText)
  refine ⟨by rw [atEnd unclosed, nothing]; rfl, finished, cover.length_eq found finished, ?_⟩
  -- All definitions before the last one are closed.
  obtain ⟨inside, rfl⟩ := List.getElem?_eq_some_iff.1 there
  have anyOrder : (significant (tokensOf (scan source.text) bounds)).Pairwise
      (fun _ _ => True) := List.pairwise_of_forall (fun _ _ => trivial)
  have closed := tiling.pairwise anyOrder
  rcases Nat.lt_or_ge (place + 1) sites.length with more | last
  · exact absurd unclosed
      (List.pairwise_iff_getElem.1 closed place (place + 1) inside more (Nat.lt_succ_self _)).1
  · omega

theorem covers_record {index : Nat} {chunk : Chunk} {bounds : ChunkBounds} {site : Site}
    (here : (ofSource source (scan source.text) limit)[index]? = some chunk)
    (found : (chunkBounds (scan source.text) source.lines.count limit)[index]? = some bounds)
    (startLine : chunk.startLine = bounds.first) (endLine : chunk.endLine = bounds.last)
    (formed : site.Formed)
    (inside : ∀ tok ∈ site.tokens, tok ∈ significant (tokensOf (scan source.text) bounds))
    (atEnd : site.definition.closeBrace = none → bounds.last = source.lines.count) :
    chunk.Covers source.lines (site.record source.chars 0).span ∧
      chunk.Covers source.lines (site.record source.chars 0).body := by
  have holds : ∀ tok ∈ site.tokens, chunk.Holds source.lines tok := by
    intro tok member
    exact holds_of_mem_tokensOf (List.mem_of_getElem? found)
      (mem_significant.1 (inside tok member)).1 startLine endLine
  have first := (holds _ site.first_mem_tokens).1
  have brace := (holds site.definition.openBrace (by simp [Site.tokens, Definition.tokens])).1
  have stops : (site.definition.ending source.chars).1 ≤
      (source.lines.linesRange chunk.startLine chunk.endLine).2 := by
    cases closed : site.definition.closeBrace with
    | none =>
      have whole : Text.firstLines source.lines.count source.chars = source.chars :=
        LineIndex.firstLines_count source.chars
      simp only [Definition.ending, closed]
      rw [linesRange_of_getElem? here, endLine, atEnd closed, whole]
    | some close =>
      simp only [Definition.ending, closed]
      exact (holds close (by
        simp [Site.tokens, Definition.tokens, Definition.bodyTokens, closed])).2
  rw [formed.record_eq]
  exact ⟨⟨first, stops⟩, ⟨brace, stops⟩⟩

theorem record_of_getElem? {index place : Nat} {chunk : Chunk} {record : FunctionRecord}
    (here : (ofSource source (scan source.text) limit)[index]? = some chunk)
    (there : chunk.functions[place]? = some record) :
    record.chunkId = chunk.id ∧
      record.span.start < record.body.start ∧ record.body.start < record.body.stop ∧
      record.body.stop = record.span.stop ∧
      chunk.Covers source.lines record.span ∧ chunk.Covers source.lines record.body ∧
      (record.incomplete = false → record.Closes (significant (scan source.text))) ∧
      (record.incomplete = true → record.StaysOpen (scan source.text) ∧
        index + 1 = (ofSource source (scan source.text) limit).length ∧
        place + 1 = chunk.functions.length) := by
  obtain ⟨bounds, sites, outside, found, startLine, endLine, tiling, total, functions⟩ :=
    exists_sites_of_getElem? here
  obtain ⟨site, inSites, chunkId, same⟩ := functions place record there
  have member := List.mem_of_getElem? inSites
  have formed := tiling.formed member
  obtain ⟨front, back, whole, last⟩ := exists_context_of_getElem? found tiling inSites
  have extent := formed.record_extent whole (fun unclosed => (last unclosed).1)
  have covers := covers_record here found startLine endLine formed
    (fun tok inside => tiling.mem_tokens member inside) (fun unclosed => (last unclosed).2.1)
  have incomplete : record.incomplete = site.definition.closeBrace.isNone := by
    have raw : record.unnumbered.incomplete = site.definition.closeBrace.isNone := by
      rw [same, formed.record_eq]
    exact raw
  have span : record.span = (site.record source.chars 0).span := by
    rw [← same]
    rfl
  have body : record.body = (site.record source.chars 0).body := by
    rw [← same]
    rfl
  refine ⟨chunkId, ?_, ?_, ?_, ?_, ?_, ?_, ?_⟩
  · rw [span, body]
    exact extent.1
  · rw [body]
    exact extent.2.1
  · rw [span, body]
    exact extent.2.2
  · rw [span]
    exact covers.1
  · rw [body]
    exact covers.2
  · intro complete
    rw [incomplete, Option.isNone_eq_false_iff, Option.isSome_iff_exists] at complete
    obtain ⟨close, closed⟩ := complete
    rw [FunctionRecord.Closes, body]
    exact formed.closes_record whole closed
  · intro unclosed
    rw [incomplete, Option.isNone_iff_eq_none] at unclosed
    obtain ⟨atEnd, -, lastChunk, lastPlace⟩ := last unclosed
    refine ⟨?_, ?_, ?_⟩
    · rw [FunctionRecord.StaysOpen, body]
      exact formed.staysOpen_record whole atEnd unclosed
    · rw [length_ofSource]
      exact lastChunk
    · rw [← total]
      exact lastPlace

/-- The definitions of one name are numbered from one over all chunks. -/
theorem map_ordinal_functions (source : Source) (limit : Nat) (name : String) :
    (((ofSource source (scan source.text) limit).flatMap functions).filter
        (fun record => record.name == name)).map FunctionRecord.ordinal =
      List.range' 1 (((ofSource source (scan source.text) limit).flatMap functions).countP
        (fun record => record.name == name)) := by
  rw [ofSource, flatMap_assignOrdinals]
  exact FunctionRecord.map_ordinal_assignOrdinals [] _ name

end Chunk

/-- For a limit of at least one line, the functions of all chunks stand apart and in order, and
each lies in the bytes of its chunk.  Its body runs to the first brace that closes outside all
braces, which can be missing only in the last function of the last chunk, and then some brace stays
open.  The definitions of one name are numbered from one, and all keys differ. -/
theorem chunkSource_separates_functions (source : Source) {limit : Nat} (positive : 1 ≤ limit) :
    ∃ chunks, chunkSource source (scan source.text) limit = .ok chunks ∧
      (chunks.flatMap Chunk.functions).Pairwise (fun first second =>
        first.span.start < second.span.start ∧ first.span.stop ≤ second.span.start) ∧
      (∀ (index : Nat) (chunk : Chunk), chunks[index]? = some chunk →
        ∀ (place : Nat) (record : FunctionRecord), chunk.functions[place]? = some record →
          record.chunkId = chunk.id ∧
          record.span.start < record.body.start ∧ record.body.start < record.body.stop ∧
          record.body.stop = record.span.stop ∧
          chunk.Covers source.lines record.span ∧ chunk.Covers source.lines record.body ∧
          (record.incomplete = false → record.Closes (significant (scan source.text))) ∧
          (record.incomplete = true → record.StaysOpen (scan source.text) ∧
            index + 1 = chunks.length ∧ place + 1 = chunk.functions.length)) ∧
      (∀ name, ((chunks.flatMap Chunk.functions).filter (fun record =>
          record.name == name)).map FunctionRecord.ordinal =
        List.range' 1 ((chunks.flatMap Chunk.functions).countP (fun record =>
          record.name == name))) ∧
      ((chunks.flatMap Chunk.functions).map FunctionRecord.key).Nodup := by
  refine ⟨Chunk.ofSource source (scan source.text) limit, chunkSource_eq source _ positive,
    Chunk.pairwise_functions source limit, ?_, Chunk.map_ordinal_functions source limit,
    Chunk.nodup_key_functions source limit⟩
  intro index chunk here place record there
  exact Chunk.record_of_getElem? here there

/-- Two functions of one name in chunks of one line each, the second of which is not closed. -/
theorem chunkSource_separates_functions_open_end :
    let source := Source.ofText "int f() \x7b\x7d\nint f() \x7b\n  g();"
    1 ≤ 1 ∧ ∃ chunks, chunkSource source (scan source.text) 1 = .ok chunks ∧
      chunks.map (fun chunk => chunk.functions.map (fun record =>
        (record.ordinal, record.span, record.incomplete))) =
        [[(1, ⟨0, 10, 1, 1⟩, false)], [(2, ⟨11, 27, 2, 3⟩, true)]] ∧
      ∀ chunk ∈ chunks, ∀ record ∈ chunk.functions, record.incomplete = true →
        record.StaysOpen (scan source.text) := by
  intro source
  have positive : 1 ≤ 1 := by decide
  obtain ⟨chunks, made, -, functions, -, -⟩ := chunkSource_separates_functions source positive
  refine ⟨positive, chunks, made, ?_, ?_⟩
  · rw [chunkSource_eq source _ positive] at made
    obtain rfl := Except.ok.inj made
    decide +kernel
  · intro chunk isChunk record isRecord unclosed
    obtain ⟨index, here⟩ := List.mem_iff_getElem?.1 isChunk
    obtain ⟨place, there⟩ := List.mem_iff_getElem?.1 isRecord
    have ⟨_, _, _, _, _, _, _, staysOpen⟩ := functions index chunk here place record there
    exact (staysOpen unclosed).1

end CSurvey
