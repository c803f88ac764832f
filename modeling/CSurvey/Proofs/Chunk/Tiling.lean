import CSurvey.Proofs.Chunk.Bounds
import CSurvey.Proofs.Token.Lines
import Mathlib.Logic.ExistsUnique

/-!
# Chunks tile a source

The chunks of a source are its planned bounds with text and functions filled in.
Their lines follow each other from the first line to the last, their texts make
up the source, and no token crosses from one into the next.
-/

namespace CSurvey

namespace Chunk

/-- The chunks of a source before the definitions of one name are numbered. -/
def drafts (source : Source) (tokens : List Token) (limit : Nat) : List Chunk :=
  (chunkBounds tokens source.lines.count limit).zipIdx.map (fun (bounds, index) =>
    ofBounds source.chars source.lines tokens limit (index + 1) bounds)

/-- The chunks of a source for a limit of at least one line. -/
def ofSource (source : Source) (tokens : List Token) (limit : Nat) : List Chunk :=
  assignOrdinals [] (drafts source tokens limit)

def outline (chunk : Chunk) : Chunk :=
  { chunk with functions := [] }

/-- Numbering definitions changes nothing but the functions of chunks. -/
theorem map_outline_assignOrdinals (before : List String) (chunks : List Chunk) :
    (assignOrdinals before chunks).map outline = chunks.map outline := by
  induction chunks generalizing before with
  | nil => rfl
  | cons chunk rest ih =>
    rw [assignOrdinals, List.map_cons, List.map_cons, ih]
    rfl

theorem map_outline_ofSource (source : Source) (tokens : List Token) (limit : Nat) :
    (ofSource source tokens limit).map outline = (drafts source tokens limit).map outline :=
  map_outline_assignOrdinals [] (drafts source tokens limit)

theorem length_ofSource (source : Source) (tokens : List Token) (limit : Nat) :
    (ofSource source tokens limit).length =
      (chunkBounds tokens source.lines.count limit).length := by
  have lengths := congrArg List.length (map_outline_ofSource source tokens limit)
  simpa [drafts] using lengths

theorem bounds_of_getElem? {source : Source} {tokens : List Token} {limit : Nat} {index : Nat}
    {chunk : Chunk} (here : (ofSource source tokens limit)[index]? = some chunk) :
    ∃ bounds, (chunkBounds tokens source.lines.count limit)[index]? = some bounds ∧
      chunk.id = index + 1 ∧ chunk.startLine = bounds.first ∧ chunk.endLine = bounds.last := by
  have outlines := congrArg (fun chunks : List Chunk => chunks[index]?)
    (map_outline_ofSource source tokens limit)
  rw [List.getElem?_map, here, List.getElem?_map] at outlines
  simp only [drafts, List.getElem?_map, List.getElem?_zipIdx, Option.map_map,
    Nat.zero_add] at outlines
  obtain ⟨bounds, found, eq⟩ := Option.map_eq_some_iff.1 outlines.symm
  exact ⟨bounds, found, (congrArg Chunk.id eq).symm, (congrArg Chunk.startLine eq).symm,
    (congrArg Chunk.endLine eq).symm⟩

theorem exists_mem_of_bounds {source : Source} {tokens : List Token} {limit : Nat}
    {bounds : ChunkBounds} (member : bounds ∈ chunkBounds tokens source.lines.count limit) :
    ∃ chunk ∈ ofSource source tokens limit,
      chunk.startLine = bounds.first ∧ chunk.endLine = bounds.last := by
  obtain ⟨index, found⟩ := List.mem_iff_getElem?.1 member
  have inside : index < (ofSource source tokens limit).length := by
    rw [length_ofSource]
    exact (List.getElem?_eq_some_iff.1 found).1
  have here := List.getElem?_eq_getElem inside
  obtain ⟨sameBounds, sameFound, -, startLine, endLine⟩ := bounds_of_getElem? here
  obtain rfl : bounds = sameBounds := Option.some.inj (found.symm.trans sameFound)
  exact ⟨_, List.mem_of_getElem? here, startLine, endLine⟩

theorem exists_bounds_of_mem {source : Source} {tokens : List Token} {limit : Nat}
    {chunk : Chunk} (member : chunk ∈ ofSource source tokens limit) :
    ∃ bounds ∈ chunkBounds tokens source.lines.count limit,
      chunk.startLine = bounds.first ∧ chunk.endLine = bounds.last := by
  obtain ⟨index, here⟩ := List.mem_iff_getElem?.1 member
  obtain ⟨bounds, found, -, startLine, endLine⟩ := bounds_of_getElem? here
  exact ⟨bounds, List.mem_of_getElem? found, startLine, endLine⟩

/-- The bytes of a chunk hold a token. -/
def Holds (lines : LineIndex) (chunk : Chunk) (tok : Token) : Prop :=
  (lines.linesRange chunk.startLine chunk.endLine).1 ≤ tok.span.start ∧
    tok.span.stop ≤ (lines.linesRange chunk.startLine chunk.endLine).2

end Chunk

theorem chunkSource_eq (source : Source) (tokens : List Token) {limit : Nat}
    (positive : 1 ≤ limit) :
    chunkSource source tokens limit = .ok (Chunk.ofSource source tokens limit) := by
  have notZero : limit ≠ 0 := by omega
  simp only [chunkSource, planChunks, if_neg notZero]
  rfl

namespace Chunk

variable {source : Source} {limit : Nat}

theorem flatMap_slice_of_cover (cs : List Char) {mayEnd : Nat → Prop} {count first : Nat}
    {all : List ChunkBounds} (positive : 1 ≤ first)
    (cover : ChunkBounds.Cover mayEnd count first all) :
    all.flatMap (fun bounds =>
        Text.slice cs ((LineIndex.ofChars cs).linesRange bounds.first bounds.last).1
          ((LineIndex.ofChars cs).linesRange bounds.first bounds.last).2) =
      Text.slice cs (Text.byteLength (Text.firstLines (first - 1) cs))
        (Text.byteLength (Text.firstLines count cs)) := by
  induction all generalizing first with
  | nil =>
    simp only [ChunkBounds.Cover] at cover
    subst cover
    simp [Text.slice]
  | cons head rest ih =>
    obtain ⟨rfl, lower, upper, -, tail⟩ := cover
    rw [List.flatMap_cons, ih (by omega) tail,
      LineIndex.linesRange_eq cs positive (Nat.le_trans positive lower), Nat.add_sub_cancel]
    exact Text.slice_append_slice
      (Text.firstLines_isPrefix_firstLines cs (by omega))
      (Text.firstLines_isPrefix_firstLines cs upper) (Text.firstLines_isPrefix count cs)

theorem join_rawText (source : Source) (tokens : List Token) (limit : Nat) :
    String.join ((ofSource source tokens limit).map Chunk.rawText) = source.text := by
  have texts := congrArg (List.map Chunk.rawText) (map_outline_ofSource source tokens limit)
  have outlined : Chunk.rawText ∘ Chunk.outline = Chunk.rawText := rfl
  have slices := flatMap_slice_of_cover source.chars (Nat.le_refl 1)
    (ChunkBounds.cover_chunkBounds tokens source.lines.count limit)
  have whole : Text.firstLines source.lines.count source.chars = source.chars :=
    LineIndex.firstLines_count source.chars
  have all : Text.slice source.chars 0 (Text.byteLength source.chars) = source.chars := by
    simpa using Text.slice_middle [] source.chars []
  rw [whole, Nat.sub_self, Text.firstLines_zero, Text.byteLength_nil, all] at slices
  rw [List.map_map, List.map_map, outlined] at texts
  rw [texts, ← String.toList_inj, String.toList_join, drafts, List.map_map, List.flatMap_map]
  refine Eq.trans ?_ slices
  conv => rhs; rw [← List.zipIdx_map_fst 0 (chunkBounds tokens source.lines.count limit)]
  rw [List.flatMap_map]
  exact congrArg (fun text => List.flatMap text _) (funext fun numbered => String.toList_ofList)

theorem rawText_of_mem {tokens : List Token} {chunk : Chunk}
    (member : chunk ∈ ofSource source tokens limit) :
    chunk.rawText = String.ofList (Text.slice source.chars
      (source.lines.linesRange chunk.startLine chunk.endLine).1
      (source.lines.linesRange chunk.startLine chunk.endLine).2) := by
  have outlined : chunk.outline ∈ (ofSource source tokens limit).map outline :=
    List.mem_map_of_mem member
  rw [map_outline_ofSource, drafts, List.map_map] at outlined
  obtain ⟨numbered, -, eq⟩ := List.mem_map.1 outlined
  have startLine : chunk.startLine = numbered.1.first := (congrArg Chunk.startLine eq).symm
  have endLine : chunk.endLine = numbered.1.last := (congrArg Chunk.endLine eq).symm
  rw [startLine, endLine]
  exact (congrArg Chunk.rawText eq).symm

theorem lines_of_getElem? {tokens : List Token} {index : Nat} {chunk : Chunk}
    (here : (ofSource source tokens limit)[index]? = some chunk) :
    chunk.id = index + 1 ∧ chunk.startLine ≤ chunk.endLine ∧
      (index = 0 → chunk.startLine = 1) ∧
      (index + 1 = (ofSource source tokens limit).length →
        chunk.endLine = source.lines.count) ∧
      ∀ next, (ofSource source tokens limit)[index + 1]? = some next →
        next.startLine = chunk.endLine + 1 := by
  obtain ⟨bounds, found, id, startLine, endLine⟩ := bounds_of_getElem? here
  have cover := ChunkBounds.cover_chunkBounds tokens source.lines.count limit
  obtain ⟨-, ordered, -, first, last, following⟩ := cover.getElem? found
  rw [startLine, endLine, length_ofSource]
  refine ⟨id, ordered, first, last, fun next there => ?_⟩
  obtain ⟨nextBounds, nextFound, -, nextStart, -⟩ := bounds_of_getElem? there
  rw [nextStart]
  exact (following nextBounds nextFound).1

/-- The bytes of a chunk are those that its last line adds to the lines before it. -/
theorem linesRange_of_getElem? {tokens : List Token} {index : Nat} {chunk : Chunk}
    (here : (ofSource source tokens limit)[index]? = some chunk) :
    source.lines.linesRange chunk.startLine chunk.endLine =
      (Text.byteLength (Text.firstLines (chunk.startLine - 1) source.chars),
        Text.byteLength (Text.firstLines chunk.endLine source.chars)) := by
  obtain ⟨bounds, found, -, startLine, endLine⟩ := bounds_of_getElem? here
  have cover := ChunkBounds.cover_chunkBounds tokens source.lines.count limit
  have ⟨positive, ordered, _⟩ := cover.getElem? found
  rw [startLine, endLine]
  exact LineIndex.linesRange_eq source.chars positive (Nat.le_trans positive ordered)

theorem endLine_lt_startLine {tokens : List Token} {first second : Nat}
    {firstChunk secondChunk : Chunk}
    (firstHere : (ofSource source tokens limit)[first]? = some firstChunk)
    (secondHere : (ofSource source tokens limit)[second]? = some secondChunk)
    (before : first < second) : firstChunk.endLine < secondChunk.startLine := by
  obtain ⟨firstBounds, firstFound, -, -, firstEnd⟩ := bounds_of_getElem? firstHere
  obtain ⟨secondBounds, secondFound, -, secondStart, -⟩ := bounds_of_getElem? secondHere
  have cover := ChunkBounds.cover_chunkBounds tokens source.lines.count limit
  obtain ⟨inside, rfl⟩ := List.getElem?_eq_some_iff.1 firstFound
  obtain ⟨otherInside, rfl⟩ := List.getElem?_eq_some_iff.1 secondFound
  rw [firstEnd, secondStart]
  exact List.pairwise_iff_getElem.1 cover.pairwise first second inside otherInside before

/-- Of two chunks that hold one token, none stands before the other. -/
theorem not_lt_of_holds {tok : Token} (member : tok ∈ scan source.text) {first second : Nat}
    {firstChunk secondChunk : Chunk}
    (firstHere : (ofSource source (scan source.text) limit)[first]? = some firstChunk)
    (secondHere : (ofSource source (scan source.text) limit)[second]? = some secondChunk)
    (firstHolds : firstChunk.Holds source.lines tok)
    (secondHolds : secondChunk.Holds source.lines tok) : ¬ first < second := by
  intro before
  have apart := endLine_lt_startLine firstHere secondHere before
  have stops := firstHolds.2
  have starts := secondHolds.1
  rw [linesRange_of_getElem? firstHere] at stops
  rw [linesRange_of_getElem? secondHere] at starts
  have inOrder := Text.byteLength_le_of_isPrefix
    (Text.firstLines_isPrefix_firstLines source.chars (Nat.le_sub_one_of_lt apart))
  have tokenLength := start_lt_stop_of_mem_scan member
  dsimp only at stops starts
  omega

theorem holds_of_mem_tokensOf {bounds : ChunkBounds} {tok : Token}
    (isBounds : bounds ∈ chunkBounds (scan source.text) source.lines.count limit)
    (member : tok ∈ tokensOf (scan source.text) bounds) {chunk : Chunk}
    (startLine : chunk.startLine = bounds.first) (endLine : chunk.endLine = bounds.last) :
    chunk.Holds source.lines tok := by
  have cover := ChunkBounds.cover_chunkBounds (scan source.text) source.lines.count limit
  simp only [tokensOf, List.mem_filter, Bool.and_eq_true, decide_eq_true_eq] at member
  obtain ⟨inText, begins, ends⟩ := member
  obtain ⟨index, found⟩ := List.mem_iff_getElem?.1 isBounds
  have ⟨positive, ordered, _⟩ := cover.getElem? found
  rw [Holds, startLine, endLine]
  refine linesRange_of_mem_scan inText positive begins ?_ ordered
  rcases cover.ends isBounds with last | clean
  · exact Or.inr (by rw [last]; exact Nat.le_refl _)
  · exact Or.inl (endLine_le_of_isCleanLine clean inText ends)

theorem exists_holds {tok : Token} (member : tok ∈ scan source.text) (limit : Nat) :
    ∃ chunk ∈ ofSource source (scan source.text) limit, chunk.Holds source.lines tok := by
  have cover := ChunkBounds.cover_chunkBounds (scan source.text) source.lines.count limit
  obtain ⟨bounds, isBounds, begins, ends⟩ := cover.exists_mem
    (line_pos_of_mem_scan member) (line_le_count_of_mem_scan member)
  obtain ⟨chunk, isChunk, startLine, endLine⟩ := exists_mem_of_bounds isBounds
  refine ⟨chunk, isChunk, holds_of_mem_tokensOf isBounds ?_ startLine endLine⟩
  simp [tokensOf, member, begins, ends]

end Chunk

/-- For a limit of at least one line, planning succeeds and the chunks of a source have the
planned lines.  They are numbered from 1, their lines follow each other from the first line to
the last, their texts are those of their lines and make up the text of the source, and each of its
tokens lies in the bytes of exactly one of them. -/
theorem chunkSource_tiles_source (source : Source) {limit : Nat} (positive : 1 ≤ limit) :
    ∃ bounds chunks,
      planChunks (scan source.text) source.lines.count limit = .ok bounds ∧
      chunkSource source (scan source.text) limit = .ok chunks ∧
      chunks.map (fun chunk => (chunk.startLine, chunk.endLine)) =
        bounds.map (fun bounds => (bounds.first, bounds.last)) ∧
      (chunks = [] ↔ source.text = "") ∧
      (∀ index chunk, chunks[index]? = some chunk →
        chunk.id = index + 1 ∧ chunk.startLine ≤ chunk.endLine ∧
        (index = 0 → chunk.startLine = 1) ∧
        (index + 1 = chunks.length → chunk.endLine = source.lines.count) ∧
        ∀ next, chunks[index + 1]? = some next → next.startLine = chunk.endLine + 1) ∧
      (∀ chunk ∈ chunks, chunk.rawText = String.ofList (Text.slice source.chars
        (source.lines.linesRange chunk.startLine chunk.endLine).1
        (source.lines.linesRange chunk.startLine chunk.endLine).2)) ∧
      String.join (chunks.map Chunk.rawText) = source.text ∧
      ∀ tok ∈ scan source.text, ∃! chunk, chunk ∈ chunks ∧ chunk.Holds source.lines tok := by
  refine ⟨chunkBounds (scan source.text) source.lines.count limit,
    Chunk.ofSource source (scan source.text) limit, ?_, chunkSource_eq source _ positive, ?_, ?_,
    fun index chunk here => Chunk.lines_of_getElem? here,
    fun chunk member => Chunk.rawText_of_mem member, Chunk.join_rawText source _ limit,
    fun tok member => ?_⟩
  · have notZero : limit ≠ 0 := by omega
    rw [planChunks, if_neg notZero]
  · refine List.ext_getElem? (fun index => ?_)
    rw [List.getElem?_map, List.getElem?_map]
    cases here : (Chunk.ofSource source (scan source.text) limit)[index]? with
    | none =>
      rw [List.getElem?_eq_none_iff, Chunk.length_ofSource] at here
      rw [List.getElem?_eq_none_iff.2 here]
      rfl
    | some chunk =>
      obtain ⟨bounds, found, -, startLine, endLine⟩ := Chunk.bounds_of_getElem? here
      rw [found, Option.map_some, Option.map_some, startLine, endLine]
  · have cover := ChunkBounds.cover_chunkBounds (scan source.text) source.lines.count limit
    have noLines : source.lines.count = 0 ↔ source.text = "" := by
      rw [Source.lines, LineIndex.ofText, LineIndex.count_eq_zero, String.toList_eq_nil_iff]
    rw [← List.length_eq_zero_iff, Chunk.length_ofSource, List.length_eq_zero_iff,
      cover.eq_nil_iff, ← noLines]
    omega
  · obtain ⟨chunk, isChunk, holds⟩ := Chunk.exists_holds member limit
    obtain ⟨index, here⟩ := List.mem_iff_getElem?.1 isChunk
    refine ⟨chunk, ⟨isChunk, holds⟩, ?_⟩
    rintro other ⟨isOther, otherHolds⟩
    obtain ⟨otherIndex, otherHere⟩ := List.mem_iff_getElem?.1 isOther
    have notBefore := Chunk.not_lt_of_holds member here otherHere holds otherHolds
    have notAfter := Chunk.not_lt_of_holds member otherHere here otherHolds holds
    obtain rfl : index = otherIndex := by omega
    exact Option.some.inj (otherHere.symm.trans here)

/-- Chunks of one line each, the last of which is a literal that takes the final line feed in. -/
theorem chunkSource_tiles_source_escaped_end :
    let source := Source.ofText "a;\n\"b\\\n"
    let literal : Token := ⟨.string, "\"b\\\n", ⟨3, 7, 2, 3⟩, 0, 0, false, false⟩
    1 ≤ 1 ∧ literal ∈ scan source.text ∧
      ∃ chunks, chunkSource source (scan source.text) 1 = .ok chunks ∧
        String.join (chunks.map Chunk.rawText) = source.text ∧
        ∃! chunk, chunk ∈ chunks ∧ chunk.Holds source.lines literal := by
  intro source literal
  have positive : 1 ≤ 1 := by decide
  have member : literal ∈ scan source.text := by decide +kernel
  obtain ⟨bounds, chunks, -, made, -, -, -, -, texts, held⟩ :=
    chunkSource_tiles_source source positive
  exact ⟨positive, member, chunks, made, texts, held literal member⟩

end CSurvey
