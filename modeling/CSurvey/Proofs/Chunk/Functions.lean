import CSurvey.Proofs.CallGraph.Forget
import CSurvey.Proofs.Chunk.Headers
import CSurvey.Proofs.Chunk.Tiling
import CSurvey.Proofs.Definition.Snippet
import CSurvey.Proofs.Definition.Tiling

/-!
# The functions of a source

The functions of all chunks, one after the other, are numbered as one list.
Chunk numbers apart, they are the definitions that are found among the tokens of
each run of lines.

Each chunk but the last ends where no brace is open, so its definitions are
closed, and the definitions of all chunks tile the tokens of the source.
-/

namespace CSurvey

namespace FunctionRecord

theorem assignOrdinals_perm {before other : List String} (same : before.Perm other)
    (records : List FunctionRecord) :
    assignOrdinals before records = assignOrdinals other records := by
  induction records generalizing before other with
  | nil => rfl
  | cons record rest ih =>
    rw [assignOrdinals, assignOrdinals, same.count_eq, ih (same.cons record.name)]

theorem assignOrdinals_append (before : List String) (front back : List FunctionRecord) :
    assignOrdinals before (front ++ back) =
      assignOrdinals before front ++ assignOrdinals (front.map name ++ before) back := by
  induction front generalizing before with
  | nil => rfl
  | cons record rest ih =>
    rw [List.cons_append, assignOrdinals, assignOrdinals, ih, List.cons_append, List.map_cons,
      assignOrdinals_perm List.perm_middle, List.cons_append]

/-- Numbering changes nothing but the ordinals. -/
theorem map_assignOrdinals {β : Type} {f : FunctionRecord → β}
    (same : ∀ record ordinal, f { record with ordinal } = f record) (before : List String)
    (records : List FunctionRecord) :
    (assignOrdinals before records).map f = records.map f := by
  induction records generalizing before with
  | nil => rfl
  | cons record rest ih => rw [assignOrdinals, List.map_cons, same, ih, List.map_cons]

theorem assignOrdinals_forgetChunk (before : List String) (records : List FunctionRecord) :
    assignOrdinals before (records.map forgetChunk) =
      (assignOrdinals before records).map forgetChunk := by
  induction records generalizing before with
  | nil => rfl
  | cons record rest ih =>
    rw [List.map_cons, assignOrdinals, assignOrdinals, List.map_cons, ← ih]
    rfl

end FunctionRecord

/-- The definitions found among some tokens do not depend on the number of the chunk. -/
theorem extractFunctions_forgetChunk (cs : List Char) (tokens : List Token) (chunkId : Nat) :
    (extractFunctions cs tokens chunkId).map FunctionRecord.forgetChunk =
      extractFunctions cs tokens 0 := by
  obtain ⟨sites, search⟩ := Sites.exists_sites [] (significant tokens)
  rw [extractFunctions, extractFunctions, search.definitionsFrom_eq, search.definitionsFrom_eq,
    List.map_map]
  rfl

namespace Chunk

theorem flatMap_assignOrdinals (before : List String) (chunks : List Chunk) :
    (assignOrdinals before chunks).flatMap functions =
      FunctionRecord.assignOrdinals before (chunks.flatMap functions) := by
  induction chunks generalizing before with
  | nil => rfl
  | cons chunk rest ih =>
    rw [assignOrdinals, List.flatMap_cons, List.flatMap_cons, ih,
      FunctionRecord.assignOrdinals_append]
    rfl

/-- The definitions in each of some runs of lines, numbered as one list. -/
def definitions (source : Source) (bounds : List ChunkBounds) : List FunctionRecord :=
  FunctionRecord.assignOrdinals [] (bounds.flatMap (fun bounds =>
    extractFunctions source.chars (tokensOf (scan source.text) bounds) 0))

theorem functions_ofSource (source : Source) (limit : Nat) :
    ((ofSource source (scan source.text) limit).flatMap functions).map
        FunctionRecord.forgetChunk =
      definitions source (chunkBounds (scan source.text) source.lines.count limit) := by
  rw [ofSource, flatMap_assignOrdinals, ← FunctionRecord.assignOrdinals_forgetChunk, drafts,
    definitions, List.flatMap_map, List.map_flatMap]
  conv => rhs; rw [← List.zipIdx_map_fst 0 (chunkBounds _ _ _), List.flatMap_map]
  congr 1
  exact congrArg (fun found => List.flatMap found _)
    (funext fun numbered => extractFunctions_forgetChunk ..)

end Chunk

theorem Site.Formed.closeBrace_ne_none {site : Site} (formed : site.Formed) {depth : Nat}
    {front : List Token} (nested : Nested depth (front ++ site.tokens) 0)
    (plain : ∀ tok ∈ site.definition.tokens, tok.directive = false) :
    site.definition.closeBrace ≠ none := by
  obtain ⟨_, -, nested⟩ := Nested.append_iff.1 nested
  obtain ⟨_, -, nested⟩ := Nested.append_iff.1 nested
  exact Definition.closeBrace_ne_none formed.found nested.2 plain

section Closed

variable {text : String} {passed last : Nat} {incomplete : Bool} {sites : List Site}
  {outside : List Token} {site : Site}

theorem closeBrace_ne_none_of_clean (ordered : passed ≤ last)
    (clean : isCleanLine (scan text) last = true)
    (tiling : Tiling (significant (Chunk.tokensOf (scan text) ⟨passed + 1, last, incomplete⟩))
      sites outside)
    (member : site ∈ sites) : site.definition.closeBrace ≠ none := by
  intro unclosed
  obtain ⟨front, back, inChunk, atEnd⟩ := tiling.exists_context member
  have plain : ∀ tok ∈ site.definition.tokens, tok.directive = false := by
    intro tok inside
    apply directive_of_mem_significant
    exact tiling.mem_tokens member (by simp [Site.tokens, inside])
  have nested := (nested_of_isCleanLine clean).significant
  rw [← tokensUpTo_append_tokensOf text ordered incomplete, significant_append, inChunk,
    atEnd unclosed, List.append_nil, ← List.append_assoc] at nested
  exact (tiling.formed member).closeBrace_ne_none nested plain unclosed

end Closed

namespace ChunkBounds

theorem Cover.exists_tiling {text : String} {count passed : Nat} {all : List ChunkBounds}
    (cover : Cover (fun line => isCleanLine (scan text) line = true) count (passed + 1) all)
    (bounded : ∀ tok ∈ scan text, tok.span.line ≤ count) :
    ∃ sites outside, Tiling (significant (tokensAfter (scan text) passed)) sites outside ∧
      ∀ cs, all.flatMap (fun bounds =>
        extractFunctions cs (Chunk.tokensOf (scan text) bounds) 0) =
          sites.map (fun site => site.record cs 0) := by
  induction all generalizing passed with
  | nil =>
    have finished : passed = count := Nat.succ.inj cover
    rw [finished, tokensAfter_eq_nil bounded]
    exact ⟨[], [], .gap [], fun _ => rfl⟩
  | cons head rest ih =>
    obtain ⟨first, last, incomplete⟩ := head
    obtain ⟨rfl, lower, upper, ends, tail⟩ := cover
    dsimp only at lower upper ends tail
    have ordered : passed ≤ last := Nat.le_of_succ_le lower
    obtain ⟨sites, search⟩ := Sites.exists_sites []
      (significant (Chunk.tokensOf (scan text) ⟨passed + 1, last, incomplete⟩))
    obtain ⟨outside, here⟩ := search.exists_tiling
    obtain ⟨more, others, later, records⟩ := ih tail
    refine ⟨sites ++ more, outside ++ others, ?_, ?_⟩
    · rw [tokensAfter_eq text ordered incomplete, significant_append]
      apply here.append later
      intro site member unclosed
      by_cases alone : rest = []
      · subst alone
        have finished : last = count := Nat.succ.inj tail
        rw [finished, tokensAfter_eq_nil bounded]
        rfl
      · exact absurd unclosed (closeBrace_ne_none_of_clean ordered (ends alone) here member)
    · intro cs
      rw [List.flatMap_cons, records cs, List.map_append, extractFunctions,
        search.definitionsFrom_eq]

end ChunkBounds

namespace FunctionRecord

/-- The record before the definitions of its file are numbered. -/
def unnumbered (record : FunctionRecord) : FunctionRecord :=
  { record with chunkId := 0, ordinal := 1 }

theorem map_unnumbered_assignOrdinals (before : List String) (records : List FunctionRecord) :
    (assignOrdinals before records).map unnumbered = records.map unnumbered :=
  map_assignOrdinals (fun _ _ => rfl) before records

end FunctionRecord

namespace Chunk

variable {source : Source} {limit : Nat}

theorem exists_tiling (source : Source) (limit : Nat) :
    ∃ sites outside, Tiling (significant (scan source.text)) sites outside ∧
      ((ofSource source (scan source.text) limit).flatMap functions).map
          FunctionRecord.unnumbered =
        sites.map (fun site => site.record source.chars 0) := by
  obtain ⟨sites, outside, tiling, records⟩ :=
    (ChunkBounds.cover_chunkBounds (scan source.text) source.lines.count limit).exists_tiling
      (fun tok member => line_le_count_of_mem_scan member)
  have all : tokensAfter (scan source.text) 0 = scan source.text := by
    apply List.filter_eq_self.2
    intro tok member
    exact decide_eq_true (line_pos_of_mem_scan member)
  rw [all] at tiling
  refine ⟨sites, outside, tiling, ?_⟩
  have forgotten : FunctionRecord.unnumbered ∘ FunctionRecord.forgetChunk =
      FunctionRecord.unnumbered := rfl
  have same := congrArg (List.map FunctionRecord.unnumbered) (functions_ofSource source limit)
  rw [List.map_map, forgotten, definitions, FunctionRecord.map_unnumbered_assignOrdinals,
    records, List.map_map] at same
  exact same

theorem exists_site {record : FunctionRecord}
    (member : record ∈ (ofSource source (scan source.text) limit).flatMap functions) :
    ∃ (site : Site) (front back : List Token), site.Formed ∧
      significant (scan source.text) = front ++ (site.tokens ++ back) ∧
      (site.definition.closeBrace = none → back = []) ∧
      site.record source.chars 0 = record.unnumbered := by
  obtain ⟨sites, outside, tiling, records⟩ := exists_tiling source limit
  have inSites : record.unnumbered ∈ sites.map (fun site => site.record source.chars 0) := by
    rw [← records]
    exact List.mem_map_of_mem member
  obtain ⟨site, isSite, same⟩ := List.mem_map.1 inSites
  obtain ⟨front, back, whole, atEnd⟩ := tiling.exists_context isSite
  exact ⟨site, front, back, tiling.formed isSite, whole, atEnd, same⟩

theorem exists_of_getElem?_assignOrdinals {before : List String} {chunks : List Chunk}
    {index : Nat} {chunk : Chunk} (here : (assignOrdinals before chunks)[index]? = some chunk) :
    ∃ names raw, chunks[index]? = some raw ∧
      chunk = { raw with functions := FunctionRecord.assignOrdinals names raw.functions } := by
  induction chunks generalizing before index with
  | nil => simp [assignOrdinals] at here
  | cons head rest ih =>
    rw [assignOrdinals] at here
    cases index with
    | zero => exact ⟨before, head, rfl, (Option.some.inj here).symm⟩
    | succ index => exact ih here

theorem functions_of_getElem? {tokens : List Token} {index : Nat} {chunk : Chunk}
    (here : (ofSource source tokens limit)[index]? = some chunk) :
    ∃ names bounds, (chunkBounds tokens source.lines.count limit)[index]? = some bounds ∧
      chunk.startLine = bounds.first ∧ chunk.endLine = bounds.last ∧
      chunk.functions = FunctionRecord.assignOrdinals names
        (extractFunctions source.chars (tokensOf tokens bounds) chunk.id) := by
  obtain ⟨names, raw, inDrafts, rfl⟩ := exists_of_getElem?_assignOrdinals here
  rw [drafts, List.getElem?_map, List.getElem?_zipIdx, Option.map_map] at inDrafts
  obtain ⟨bounds, found, rfl⟩ := Option.map_eq_some_iff.1 inDrafts
  exact ⟨names, bounds, found, rfl, rfl, rfl⟩

end Chunk

end CSurvey
