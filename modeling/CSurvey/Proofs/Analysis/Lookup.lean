import CSurvey.Proofs.Analysis.Keys
import CSurvey.Proofs.Analysis.Snippet
import CSurvey.Proofs.Search.Definitions
import Mathlib.Data.List.Nodup

/-!
# Which definition a name picks

A text that is analyzed as one function is cut into no chunks, and of its
definitions the first one of a given name is picked.  Every function of the source
is one of these definitions; its key picks it only if it is the first of its name.
-/

namespace CSurvey

section Sorted

variable {α : Type} {start : α → Nat} {items : List α}
  (sorted : items.Pairwise (fun first second => start first < start second))
include sorted

theorem eq_of_sorted {first second : α} (inFirst : first ∈ items) (inSecond : second ∈ items)
    (same : start first = start second) : first = second := by
  have distinct : (items.map start).Nodup :=
    List.pairwise_map.2 (sorted.imp (fun less => Nat.ne_of_lt less))
  exact List.inj_on_of_nodup_map distinct inFirst inSecond same

theorem start_le_of_find? {test : α → Bool} {item other : α} (found : items.find? test = some item)
    (member : other ∈ items) (passes : test other = true) : start item ≤ start other := by
  obtain ⟨-, front, back, rfl, fails⟩ := List.find?_eq_some_iff_append.1 found
  obtain ⟨-, later, -⟩ := List.pairwise_append.1 sorted
  rcases List.mem_append.1 member with early | late
  · exact absurd passes (by simpa using fails other early)
  · rcases List.mem_cons.1 late with rfl | behind
    · exact Nat.le_refl _
    · exact Nat.le_of_lt ((List.pairwise_cons.1 later).1 other behind)

end Sorted

namespace FunctionRecord

theorem key_of_first {record : FunctionRecord} (first : record.ordinal = 1) :
    record.key = record.name :=
  if_pos (Nat.le_of_eq first)

/-- The first definition of a name is numbered one. -/
theorem find?_assignOrdinals {before : List String} {name : String} (fresh : name ∉ before)
    (records : List FunctionRecord) :
    (assignOrdinals before records).find? (fun record => record.name == name) =
      (records.find? (fun record => record.name == name)).map
        (fun record => { record with ordinal := 1 }) := by
  induction records generalizing before with
  | nil => rfl
  | cons head rest ih =>
    rw [assignOrdinals, List.find?_cons, List.find?_cons]
    dsimp only
    by_cases same : head.name = name
    · subst same
      rw [beq_self_eq_true, List.count_eq_zero.2 fresh]
      rfl
    · rw [beq_eq_false_iff_ne.2 same]
      exact ih (by simp [Ne.symm same, fresh])

/-- No definition of that name in a text has its body earlier. -/
def IsFirstIn (record : FunctionRecord) (text : String) : Prop :=
  ∀ other ∈ extractFunctions text.toList (scan text) 0,
    other.name = record.name → record.body.start ≤ other.body.start

end FunctionRecord

/-- The bodies of definitions come in the order of the text. -/
theorem Tiling.pairwise_body {text : String} {sites : List Site} {outside : List Token}
    (tiling : Tiling (significant (scan text)) sites outside) :
    (sites.map (fun site => site.record text.toList 0)).Pairwise
      (fun first second => first.body.start < second.body.start) := by
  have sorted : (significant (scan text)).Pairwise
      (fun first second => first.span.start < second.span.start) :=
    (pairwise_start_scan text).filter _
  apply List.pairwise_map.2
  refine (tiling.pairwise sorted).imp ?_
  rintro first second ⟨-, before⟩
  exact before first.definition.openBrace (by simp [Site.tokens_eq])
    second.definition.openBrace (by simp [Site.tokens_eq])

theorem pairwise_body_extractFunctions (text : String) :
    (extractFunctions text.toList (scan text) 0).Pairwise
      (fun first second => first.body.start < second.body.start) := by
  obtain ⟨sites, search⟩ := Sites.exists_sites [] (significant (scan text))
  obtain ⟨outside, tiling⟩ := search.exists_tiling
  rw [extractFunctions, search.definitionsFrom_eq]
  exact Tiling.pairwise_body tiling

namespace Chunk

variable {source : Source} {limit : Nat} {record : FunctionRecord}

theorem pairwise_body_functions (source : Source) (limit : Nat) :
    ((ofSource source (scan source.text) limit).flatMap functions).Pairwise
      (fun first second => first.body.start < second.body.start) := by
  obtain ⟨sites, outside, tiling, records⟩ := exists_tiling source limit
  have bodies := tiling.pairwise_body
  rw [← Source.chars, ← records] at bodies
  exact List.Pairwise.of_map FunctionRecord.unnumbered (fun _ _ less => less) bodies

/-- The functions of all chunks are numbered as one list. -/
theorem functions_eq_assignOrdinals (source : Source) (limit : Nat) :
    (ofSource source (scan source.text) limit).flatMap functions =
      FunctionRecord.assignOrdinals []
        ((drafts source (scan source.text) limit).flatMap functions) := by
  rw [ofSource, flatMap_assignOrdinals]

section Member

variable (member : record ∈ (ofSource source (scan source.text) limit).flatMap functions)
include member

theorem exists_definition :
    ∃ definition ∈ extractFunctions source.chars (scan source.text) 0,
      definition.name = record.name ∧ definition.body = record.body := by
  obtain ⟨site, front, back, formed, whole, atEnd, same⟩ := exists_site member
  have found := Definition.ofTokens?_tokens formed.found atEnd
  have tokens : significant (scan source.text) =
      (front ++ site.returnType) ++ site.name :: (site.definition.tokens ++ back) := by
    simp [whole, Site.tokens]
  have starts : startsDefinition (site.name :: (site.definition.tokens ++ back)) = true := by
    simp [startsDefinition, formed.outside, formed.isName, found]
  refine ⟨site.definition.record source.chars (front ++ site.returnType).reverse site.name 0,
    mem_extractFunctions_of_isNameOf
      (isNameOf_iff.2 ⟨_, _, _, tokens, starts, found, rfl⟩), ?_, ?_⟩
  · have named := congrArg FunctionRecord.name same
    exact named
  · have bodies := congrArg FunctionRecord.body same
    exact bodies

/-- What is first of its name in the whole text is first of its name in the chunks. -/
theorem ordinal_of_isFirstIn (first : record.IsFirstIn source.text) : record.ordinal = 1 := by
  cases found : ((ofSource source (scan source.text) limit).flatMap functions).find?
      (fun other => other.name == record.name) with
  | none => simpa using List.find?_eq_none.1 found record member
  | some earliest =>
    have sorted := pairwise_body_functions source limit
    have named : earliest.name = record.name := by simpa using List.find?_some found
    have inSource := List.mem_of_find?_eq_some found
    obtain ⟨definition, inText, sameName, sameBody⟩ := exists_definition inSource
    have late := first definition inText (sameName.trans named)
    have early := start_le_of_find? sorted found member (by simp)
    rw [sameBody] at late
    obtain rfl := eq_of_sorted sorted inSource member (Nat.le_antisymm early late)
    rw [functions_eq_assignOrdinals, FunctionRecord.find?_assignOrdinals List.not_mem_nil] at found
    obtain ⟨_, -, rfl⟩ := Option.map_eq_some_iff.1 found
    rfl

end Member

end Chunk

/-- Definitions are numbered only after they were found. -/
theorem ordinal_of_mem_extractFunctions {cs : List Char} {tokens : List Token} {chunkId : Nat}
    {record : FunctionRecord} (member : record ∈ extractFunctions cs tokens chunkId) :
    record.ordinal = 1 := by
  obtain ⟨sites, search⟩ := Sites.exists_sites [] (significant tokens)
  rw [extractFunctions, search.definitionsFrom_eq] at member
  obtain ⟨site, -, rfl⟩ := List.mem_map.1 member
  rfl

namespace Analyzer

section Pick

variable {text : String} {definition : FunctionRecord}
  (member : definition ∈ extractFunctions text.toList (scan text) 0)
include member

/-- What is picked in a text with definitions: the first one of the given name, or else the first
of all. -/
theorem pickRecord_eq_getD (name : String) :
    pickRecord text (scan text) (some name) =
      ((extractFunctions text.toList (scan text) 0).find? (fun record => record.name == name)).getD
        ((extractFunctions text.toList (scan text) 0).headD default) := by
  have unchanged : ∀ record ∈ extractFunctions text.toList (scan text) 0,
      ({ record with ordinal := 1 } : FunctionRecord) = record := by
    intro record inText
    rw [← ordinal_of_mem_extractFunctions inText]
  obtain ⟨head, rest, records⟩ := List.exists_cons_of_ne_nil (List.ne_nil_of_mem member)
  rw [pickRecord]
  simp only [Option.bind_some, FunctionRecord.find?_assignOrdinals List.not_mem_nil]
  cases found : (extractFunctions text.toList (scan text) 0).find?
      (fun record => record.name == name) with
  | some picked => exact unchanged picked (List.mem_of_find?_eq_some found)
  | none =>
    have first := unchanged head (by simp [records])
    rw [records]
    exact first

theorem pickRecord_mem (name : String) :
    pickRecord text (scan text) (some name) ∈ extractFunctions text.toList (scan text) 0 := by
  rw [pickRecord_eq_getD member]
  cases found : (extractFunctions text.toList (scan text) 0).find?
      (fun record => record.name == name) with
  | some picked => exact List.mem_of_find?_eq_some found
  | none =>
    obtain ⟨head, rest, records⟩ := List.exists_cons_of_ne_nil (List.ne_nil_of_mem member)
    simp [records]

theorem pickRecord_first :
    (pickRecord text (scan text) (some definition.name)).name = definition.name ∧
      (pickRecord text (scan text) (some definition.name)).body.start ≤ definition.body.start := by
  rw [pickRecord_eq_getD member]
  cases found : (extractFunctions text.toList (scan text) 0).find?
      (fun record => record.name == definition.name) with
  | some picked =>
    exact ⟨by simpa using List.find?_some found,
      start_le_of_find? (pairwise_body_extractFunctions text) found member (by simp)⟩
  | none => simpa using List.find?_eq_none.1 found definition member

end Pick

variable {analyzer : Analyzer} {source : Source} {record : FunctionRecord}
  (member : record ∈ (analyzer.analysis source).functions)
include member

theorem ordinal_positive : 1 ≤ record.ordinal := by
  have functions : (analyzer.analysis source).functions =
      (Chunk.ofSource source (scan source.text) analyzer.maxChunkSize).flatMap Chunk.functions :=
    rfl
  rw [functions, Chunk.functions_eq_assignOrdinals] at member
  exact Nat.lt_of_le_of_lt (Nat.zero_le _) (FunctionRecord.exists_of_mem_assignOrdinals member).1

/-- The key of a function picks a record with that key exactly if the function is the first of its
name in the chunks, and the function itself exactly if it is the first of its name in the text. -/
theorem pickRecord_key :
    let picked := pickRecord source.text (scan source.text) (some record.key)
    (picked.key = record.key ↔ record.ordinal = 1) ∧
      (picked.key = record.key ∧ picked.body = record.body ↔ record.IsFirstIn source.text) := by
  intro picked
  obtain ⟨own, inText, sameName, sameBody⟩ := Chunk.exists_definition member
  have isPicked : picked ∈ extractFunctions source.text.toList (scan source.text) 0 :=
    pickRecord_mem inText record.key
  have byName : record.ordinal = 1 → picked =
      pickRecord source.text (scan source.text) (some record.name) := by
    intro ordinal
    rw [← FunctionRecord.key_of_first ordinal]
  have keys : picked.key = record.key ↔ record.ordinal = 1 := by
    constructor
    · intro same
      have plain : '#' ∉ record.name.toList := sameName ▸ plain_of_mem_extractFunctions inText
      have pickedOrdinal := ordinal_of_mem_extractFunctions isPicked
      have ordinals := (FunctionRecord.eq_of_key_eq (plain_of_mem_extractFunctions isPicked) plain
        (Nat.le_of_eq pickedOrdinal.symm) (ordinal_positive member) same).2
      exact ordinals.symm.trans pickedOrdinal
    · intro ordinal
      rw [FunctionRecord.key_of_first (ordinal_of_mem_extractFunctions isPicked),
        FunctionRecord.key_of_first ordinal, byName ordinal, ← sameName]
      exact (pickRecord_first inText).1
  refine ⟨keys, ?_, ?_⟩
  · rintro ⟨same, body⟩ other inTextToo named
    rw [← body, byName (keys.1 same), ← named]
    exact (pickRecord_first inTextToo).2
  · intro isFirst
    have ordinal := Chunk.ordinal_of_isFirstIn member isFirst
    have picks := byName ordinal
    rw [← sameName] at picks
    obtain ⟨named, early⟩ := pickRecord_first inText
    rw [← picks] at named early
    have late := isFirst picked isPicked (named.trans sameName)
    rw [← sameBody] at late ⊢
    have same := eq_of_sorted (pairwise_body_extractFunctions source.text) isPicked inText
      (Nat.le_antisymm early late)
    exact ⟨keys.2 ordinal, congrArg FunctionRecord.body same⟩

end Analyzer

end CSurvey
