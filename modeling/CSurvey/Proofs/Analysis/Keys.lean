import CSurvey.Proofs.Analysis.ChunkSize

/-!
# Keys tell functions apart

The names of functions are identifiers, which have no `#` in them, and definitions
of one name have different ordinals.  So no two functions of a source have the
same key, and what an analysis attributes to a key belongs to one function.
-/

namespace CSurvey

namespace FunctionRecord

/-- Numbering changes nothing but the ordinal, which counts from the names before. -/
theorem exists_of_mem_assignOrdinals {before : List String} {records : List FunctionRecord}
    {record : FunctionRecord} (member : record ∈ assignOrdinals before records) :
    before.count record.name < record.ordinal ∧
      ∃ raw ∈ records, record = { raw with ordinal := record.ordinal } := by
  induction records generalizing before with
  | nil => cases member
  | cons head rest ih =>
    rcases List.mem_cons.1 member with rfl | later
    · exact ⟨Nat.lt_succ_self _, head, List.mem_cons_self .., rfl⟩
    · obtain ⟨counted, raw, inRest, eq⟩ := ih later
      rw [List.count_cons] at counted
      exact ⟨by omega, raw, List.mem_cons_of_mem _ inRest, eq⟩

theorem pairwise_assignOrdinals (before : List String) (records : List FunctionRecord) :
    (assignOrdinals before records).Pairwise (fun first second =>
      first.name = second.name → first.ordinal < second.ordinal) := by
  induction records generalizing before with
  | nil => exact .nil
  | cons head rest ih =>
    refine List.pairwise_cons.2 ⟨fun second later same => ?_, ih _⟩
    have counted := (exists_of_mem_assignOrdinals later).1
    dsimp only at same ⊢
    rw [← same, List.count_cons_self] at counted
    exact counted

theorem map_ordinal_assignOrdinals (before : List String) (records : List FunctionRecord)
    (name : String) :
    ((assignOrdinals before records).filter (fun record => record.name == name)).map ordinal =
      List.range' (before.count name + 1)
        ((assignOrdinals before records).countP (fun record => record.name == name)) := by
  induction records generalizing before with
  | nil => rfl
  | cons head rest ih =>
    rw [assignOrdinals, List.filter_cons, List.countP_cons]
    dsimp only
    by_cases same : head.name = name
    · have found : (head.name == name) = true := beq_iff_eq.2 same
      rw [if_pos found, if_pos found, List.map_cons, ih, List.range'_succ, same,
        List.count_cons_self]
    · have other : ¬ (head.name == name) = true := by rwa [beq_iff_eq]
      rw [if_neg other, if_neg other, ih, List.count_cons_of_ne same]
      rfl

/-- What a key adds to the name. -/
def keySuffix (ordinal : Nat) : List Char :=
  if ordinal ≤ 1 then [] else '#' :: Nat.toDigits 10 ordinal

theorem toList_key (record : FunctionRecord) :
    record.key.toList = record.name.toList ++ keySuffix record.ordinal := by
  unfold key keySuffix
  split
  · rw [List.append_nil]
  · simp [toString, Nat.toList_repr]

theorem keySuffix_injective {first second : Nat} (firstPositive : 1 ≤ first)
    (secondPositive : 1 ≤ second) (same : keySuffix first = keySuffix second) :
    first = second := by
  unfold keySuffix at same
  split at same <;> split at same
  · omega
  · cases same
  · cases same
  · have digits := congrArg (fun digits => Nat.ofDigitChars 10 digits 0) (List.cons.inj same).2
    simpa using digits

theorem takeWhile_key {record : FunctionRecord} (plain : '#' ∉ record.name.toList) :
    record.key.toList.takeWhile (· != '#') = record.name.toList := by
  have inside : ∀ c ∈ record.name.toList, (c != '#') = true := by
    intro c member
    rw [bne_iff_ne]
    rintro rfl
    exact plain member
  rw [toList_key, List.takeWhile_append_of_pos inside]
  unfold keySuffix
  split <;> simp

theorem eq_of_key_eq {first second : FunctionRecord} (firstPlain : '#' ∉ first.name.toList)
    (secondPlain : '#' ∉ second.name.toList) (firstPositive : 1 ≤ first.ordinal)
    (secondPositive : 1 ≤ second.ordinal) (same : first.key = second.key) :
    first.name = second.name ∧ first.ordinal = second.ordinal := by
  have names : first.name.toList = second.name.toList := by
    rw [← takeWhile_key firstPlain, same, takeWhile_key secondPlain]
  have keys := congrArg String.toList same
  rw [toList_key, toList_key, names] at keys
  exact ⟨String.toList_inj.1 names,
    keySuffix_injective firstPositive secondPositive (List.append_cancel_left keys)⟩

theorem nodup_key {records : List FunctionRecord}
    (plain : ∀ record ∈ records, '#' ∉ record.name.toList) :
    ((assignOrdinals [] records).map key).Nodup := by
  refine List.pairwise_map.2 ((pairwise_assignOrdinals [] records).imp_of_mem ?_)
  intro first second firstMember secondMember grows same
  obtain ⟨firstCounted, firstRaw, firstIn, firstEq⟩ := exists_of_mem_assignOrdinals firstMember
  obtain ⟨secondCounted, secondRaw, secondIn, secondEq⟩ :=
    exists_of_mem_assignOrdinals secondMember
  obtain ⟨names, ordinals⟩ := eq_of_key_eq (by rw [firstEq]; exact plain firstRaw firstIn)
    (by rw [secondEq]; exact plain secondRaw secondIn) (by omega) (by omega) same
  have less := grows names
  omega

theorem filter_key {records : List FunctionRecord} (distinct : (records.map key).Nodup)
    {record : FunctionRecord} (member : record ∈ records) :
    records.filter (fun other => other.key == record.key) = [record] := by
  induction records with
  | nil => cases member
  | cons head rest ih =>
    obtain ⟨apart, distinct⟩ := List.pairwise_cons.1 (List.map_cons ▸ distinct)
    rcases List.mem_cons.1 member with rfl | later
    · rw [List.filter_cons, beq_self_eq_true, if_pos rfl, List.filter_eq_nil_iff.2]
      intro other inRest same
      exact apart _ (List.mem_map_of_mem inRest) (beq_iff_eq.1 same).symm
    · rw [List.filter_cons, beq_eq_false_iff_ne.2 (apart _ (List.mem_map_of_mem later)),
        if_neg Bool.false_ne_true, ih distinct later]

theorem filter_flatMap_key {β : Type} {records : List FunctionRecord}
    {found : FunctionRecord → List β} {keyOf : β → Option String}
    (attributed : ∀ record, ∀ item ∈ found record, keyOf item = some record.key)
    (distinct : (records.map key).Nodup) {record : FunctionRecord} (member : record ∈ records) :
    (records.flatMap found).filter (fun item => keyOf item == some record.key) =
      found record := by
  suffices selected : (records.flatMap found).filter (fun item => keyOf item == some record.key) =
      (records.filter (fun other => other.key == record.key)).flatMap found by
    rw [selected, filter_key distinct member, List.flatMap_singleton]
  clear distinct member
  induction records with
  | nil => rfl
  | cons head rest ih =>
    have keys : ∀ item ∈ found head,
        (keyOf item == some record.key) = (head.key == record.key) := by
      intro item inHead
      rw [attributed head item inHead]
      rfl
    rw [List.flatMap_cons, List.filter_append, ih, List.filter_cons, List.filter_congr keys]
    cases head.key == record.key <;> simp

end FunctionRecord

theorem not_mem_name_of_isIdentifier {word : String} (ident : isIdentifier word = true) :
    '#' ∉ word.toList := by
  intro member
  unfold isIdentifier at ident
  split at ident
  · simp_all
  · rename_i c rest eq
    rw [Bool.and_eq_true, List.all_eq_true] at ident
    rw [eq] at member
    rcases List.mem_cons.1 member with rfl | inRest
    · exact absurd ident.1 (by decide)
    · exact absurd (ident.2 _ inRest) (by decide)

theorem plain_of_mem_extractFunctions {cs : List Char} {tokens : List Token}
    {record : FunctionRecord} (member : record ∈ extractFunctions cs tokens 0) :
    '#' ∉ record.name.toList := by
  obtain ⟨sites, search⟩ := Sites.exists_sites [] (significant tokens)
  rw [extractFunctions, search.definitionsFrom_eq, List.mem_map] at member
  obtain ⟨site, found, rfl⟩ := member
  have named := (search.formed found).isName
  simp only [Token.isName, Token.isIdent, Bool.and_eq_true] at named
  exact not_mem_name_of_isIdentifier named.1.2

theorem Chunk.nodup_key_functions (source : Source) (limit : Nat) :
    (((ofSource source (scan source.text) limit).flatMap functions).map
      FunctionRecord.key).Nodup := by
  have keys := congrArg (List.map FunctionRecord.key) (functions_ofSource source limit)
  rw [List.map_map] at keys
  change (((ofSource source (scan source.text) limit).flatMap functions).map
    FunctionRecord.key) = _ at keys
  rw [keys]
  apply FunctionRecord.nodup_key
  intro record member
  obtain ⟨bounds, -, found⟩ := List.mem_flatMap.1 member
  exact plain_of_mem_extractFunctions found

namespace Analyzer

variable (analyzer : Analyzer) (source : Source)

theorem nodup_key_functions :
    ((analyzer.analysis source).functions.map FunctionRecord.key).Nodup :=
  Chunk.nodup_key_functions source analyzer.maxChunkSize

theorem function_of_mem_evaluate {table : RiskTable} {cs : List Char} {tokens : List Token}
    {function : Option String} {finding : Finding}
    (member : finding ∈ table.evaluate cs tokens function) : finding.function = function := by
  obtain ⟨rule, -, found⟩ := List.mem_flatMap.1 member
  obtain ⟨span, -, rfl⟩ := List.mem_map.1 found
  rfl

section Attributed

variable {analyzer source} {records : List FunctionRecord} {record : FunctionRecord}
  (distinct : (records.map FunctionRecord.key).Nodup) (member : record ∈ records)
include distinct member

theorem filter_findingsOf :
    (analyzer.findingsOf source records).filter
        (fun finding => finding.function == some record.key) =
      (analyzer.score source.chars (significant (scan source.text)) record).findings := by
  have outside : (analyzer.risk.evaluate source.chars (tokensOutside
      (records.map FunctionRecord.span) (significant (scan source.text))) none).filter
        (fun finding => finding.function == some record.key) = [] := by
    refine List.filter_eq_nil_iff.2 (fun finding found => ?_)
    rw [function_of_mem_evaluate found]
    simp
  rw [findingsOf, List.filter_append, outside, List.append_nil, List.flatMap_map]
  exact FunctionRecord.filter_flatMap_key (fun other finding found =>
    function_of_mem_evaluate found) distinct member

theorem filter_adviceOf :
    (analyzer.adviceOf source records).filter (fun advice => advice.function == record.key) =
      [(analyzer.score source.chars (significant (scan source.text)) record).advice].filter
        (fun advice => !advice.isEmpty) := by
  have commute (all : List Advice) (first second : Advice → Bool) :
      (all.filter first).filter second = (all.filter second).filter first := by
    rw [List.filter_filter, List.filter_filter]
    exact List.filter_congr (fun _ _ => Bool.and_comm ..)
  have keys : (fun advice : Advice => advice.function == record.key) ∘
      (ScoredFunction.advice ∘ analyzer.score source.chars (significant (scan source.text))) =
        fun other => other.key == record.key := rfl
  rw [adviceOf, List.map_map, commute, List.filter_map, keys,
    FunctionRecord.filter_key distinct member]
  rfl

end Attributed

theorem findingsIn_key {record : FunctionRecord}
    (member : record ∈ (analyzer.analysis source).functions) :
    (analyzer.analysis source).findingsIn record.key =
      (analyzer.score source.chars (significant (scan source.text)) record).findings := by
  rw [FileAnalysis.findingsIn, findings_analysis]
  exact filter_findingsOf (nodup_key_functions analyzer source) member

/-- The advice for the key of a function is that for its body, if it suggests anything. -/
theorem filter_advice_key {record : FunctionRecord}
    (member : record ∈ (analyzer.analysis source).functions) :
    (analyzer.analysis source).advice.filter (fun advice => advice.function == record.key) =
      [(analyzer.score source.chars (significant (scan source.text)) record).advice].filter
        (fun advice => !advice.isEmpty) := by
  rw [advice_analysis]
  exact filter_adviceOf (nodup_key_functions analyzer source) member

end Analyzer

end CSurvey
