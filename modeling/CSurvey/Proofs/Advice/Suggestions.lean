import CSurvey.Advice.Basic
import Mathlib.Data.List.Nodup

/-!
# Suggestions of an advice

Each rule of the table is looked at on its own, and makes one suggestion or none.  The
suggestions are then put in groups, one severity after another, which keeps the order of
the table in each group.
-/

namespace CSurvey

namespace Severity

theorem eq_of_weight_eq {first second : Severity} (same : first.weight = second.weight) :
    first = second := by
  cases first <;> cases second <;> first | rfl | cases same

theorem weight_max (first second : Severity) :
    (first.max second).weight = Nat.max first.weight second.weight := by
  rw [max]
  split
  · rename_i le
    exact (Nat.max_eq_right le).symm
  · rename_i greater
    exact (Nat.max_eq_left (Nat.le_of_not_le greater)).symm

theorem max_eq_or (first second : Severity) :
    first.max second = first ∨ first.max second = second := by
  rw [max]
  split
  · exact Or.inr rfl
  · exact Or.inl rfl

/-- A running maximum is one of what it has seen, and none of that is greater. -/
theorem foldl_max (first : Severity) (rest : List Severity) :
    rest.foldl max first ∈ first :: rest ∧
      ∀ other ∈ first :: rest, other.weight ≤ (rest.foldl max first).weight := by
  induction rest generalizing first with
  | nil => simp
  | cons second rest ih =>
    obtain ⟨member, bound⟩ := ih (first.max second)
    obtain ⟨boundMax, boundRest⟩ := List.forall_mem_cons.1 bound
    rw [weight_max] at boundMax
    rw [List.foldl_cons]
    constructor
    · rcases List.mem_cons.1 member with same | later
      · rw [same]
        rcases max_eq_or first second with isFirst | isSecond
        · simp [isFirst]
        · simp [isSecond]
      · exact List.mem_cons_of_mem _ (List.mem_cons_of_mem _ later)
    · refine List.forall_mem_cons.2 ⟨?_, List.forall_mem_cons.2 ⟨?_, boundRest⟩⟩
      · exact Nat.le_trans (Nat.le_max_left ..) boundMax
      · exact Nat.le_trans (Nat.le_max_right ..) boundMax

theorem worst?_eq_none {severities : List Severity} : worst? severities = none ↔ severities = [] := by
  cases severities <;> simp [worst?]

theorem worst?_eq_some {severities : List Severity} {severity : Severity} :
    worst? severities = some severity ↔
      severity ∈ severities ∧ ∀ other ∈ severities, other.weight ≤ severity.weight := by
  cases severities with
  | nil => simp [worst?]
  | cons first rest =>
    obtain ⟨member, bound⟩ := foldl_max first rest
    rw [worst?, Option.some.injEq]
    constructor
    · rintro rfl
      exact ⟨member, bound⟩
    · rintro ⟨isMember, isBound⟩
      exact eq_of_weight_eq (Nat.le_antisymm (isBound _ member) (bound _ isMember))

/-- The order of a list does not matter for its most severe. -/
theorem worst?_perm {first second : List Severity} (same : first.Perm second) :
    worst? first = worst? second := by
  refine Option.ext (fun severity => ?_)
  rw [worst?_eq_some, worst?_eq_some]
  simp only [same.mem_iff]

section Groups

variable {α β : Type} {severity : α → Severity}

/-- One severity after another, the most severe first. -/
def groups (severity : α → Severity) (items : List α) : List α :=
  all.reverse.flatMap (fun here => items.filter (fun item => severity item == here))

/-- Groups for different severities hold what is of one of these severities. -/
theorem flatMap_filter_perm {severities : List Severity} (apart : severities.Nodup)
    (items : List α) :
    (severities.flatMap (fun here => items.filter (fun item => severity item == here))).Perm
      (items.filter (fun item => severities.contains (severity item))) := by
  induction severities with
  | nil => simp
  | cons here severities ih =>
    obtain ⟨new, apart⟩ := List.nodup_cons.1 apart
    have both := List.filter_append_perm (fun item => severity item == here)
      (items.filter (fun item => (here :: severities).contains (severity item)))
    rw [List.filter_filter, List.filter_filter] at both
    refine List.Perm.trans ?_ both
    have others : items.filter (fun item => !(severity item == here) &&
        (here :: severities).contains (severity item)) =
          items.filter (fun item => severities.contains (severity item)) := by
      refine List.filter_congr (fun item _ => ?_)
      by_cases same : severity item = here
      · simp [same, new]
      · simp [same]
    have these : items.filter (fun item => (severity item == here) &&
        (here :: severities).contains (severity item)) =
          items.filter (fun item => severity item == here) := by
      refine List.filter_congr (fun item _ => ?_)
      by_cases same : severity item = here <;> simp [same]
    rw [others, these, List.flatMap_cons]
    exact (ih apart).append_left _

theorem groups_perm (items : List α) : (groups severity items).Perm items := by
  have whole : (groups severity items).Perm
      (items.filter (fun item => all.reverse.contains (severity item))) :=
    flatMap_filter_perm (by decide) items
  have every : items.filter (fun item => all.reverse.contains (severity item)) = items := by
    refine List.filter_eq_self.2 (fun item _ => ?_)
    cases severity item <;> rfl
  rwa [every] at whole

theorem groups_map (f : β → α) (items : List β) :
    groups severity (items.map f) = (groups (severity ∘ f) items).map f := by
  simp only [groups, List.map_flatMap, List.filter_map]
  rfl

/-- What is more severe comes first, and what is as severe stays in order. -/
theorem pairwise_groups {precedes : α → α → Prop} {items : List α}
    (ordered : items.Pairwise precedes) :
    (groups severity items).Pairwise (fun first second =>
      (severity second).weight < (severity first).weight ∨
        severity second = severity first ∧ precedes first second) := by
  refine List.pairwise_flatMap.2 ⟨fun here _ => ?_, ?_⟩
  · refine (ordered.filter _).imp_of_mem (fun {first second} isFirst isSecond before => ?_)
    have firstHere := beq_iff_eq.1 (List.mem_filter.1 isFirst).2
    have secondHere := beq_iff_eq.1 (List.mem_filter.1 isSecond).2
    exact Or.inr ⟨secondHere.trans firstHere.symm, before⟩
  · have falling : all.reverse.Pairwise (fun higher lower => lower.weight < higher.weight) := by
      decide
    refine falling.imp (fun {higher lower} less first isFirst second isSecond => Or.inl ?_)
    rwa [beq_iff_eq.1 (List.mem_filter.1 isFirst).2, beq_iff_eq.1 (List.mem_filter.1 isSecond).2]

end Groups

end Severity

namespace Priority

variable {count : Nat}

theorem ofCount_eq_low : ofCount count = low ↔ count < 2 := by
  grind [ofCount]

theorem ofCount_eq_medium : ofCount count = medium ↔ count = 2 ∨ count = 3 := by
  grind [ofCount]

theorem ofCount_eq_high : ofCount count = high ↔ 3 < count := by
  grind [ofCount]

end Priority

namespace Advice

/-- What makes a suggestion due holds of a function. -/
def Holds (input : Input) (thresholds : Thresholds) : SuggestionCause → Prop
  | .findings ids => ∃ finding ∈ input.findings, finding.patternId ∈ ids
  | .metricAbove metric => metric.limit thresholds < metric.value input.metrics
  | .magicNumbers => input.signals.magicNumbers ≠ []
  | .shortIdentifiers => input.signals.shortIdentifiers ≠ []
  | .noErrorPath =>
    5 ≤ input.metrics.lineCount ∧ input.signals.returnsErrorCode = false ∧
      input.signals.usesErrno = false ∧ input.signals.nullChecks = 0

/-- The findings of some rules, in the order in which they are given. -/
def Input.findingsOf (input : Input) (ids : List String) : List Finding :=
  input.findings.filter (fun finding => ids.contains finding.patternId)

def place (id : String) : Nat :=
  (SuggestionRule.all.map SuggestionRule.id).idxOf id

/-- What a suggestion says is what its rule has to say about a function. -/
structure Meets (input : Input) (thresholds : Thresholds) (rule : SuggestionRule)
    (suggestion : Suggestion) : Prop where
  id : suggestion.id = rule.id
  title : suggestion.title = rule.title
  detail : suggestion.detail = rule.detail
  holds : Holds input thresholds rule.cause
  /-- A suggestion for findings is as severe as the worst of them, and lists them all. -/
  found : ∀ ids, rule.cause = .findings ids →
    (∃ finding ∈ input.findingsOf ids, finding.severity = suggestion.severity) ∧
    (∀ finding ∈ input.findingsOf ids, finding.severity.weight ≤ suggestion.severity.weight) ∧
    suggestion.triggers = (input.findingsOf ids).map (fun finding =>
      s!"finding {finding.patternId} at line {finding.span.line}")
  other : (∀ ids, rule.cause ≠ .findings ids) →
    suggestion.severity = rule.severity ∧ suggestion.triggers.length = 1

/-- An advice is what the table has to say about a function. -/
structure Follows (input : Input) (thresholds : Thresholds) (advice : Advice) : Prop where
  function : advice.function = input.function
  once : (advice.suggestions.map Suggestion.id).Nodup
  due : ∀ rule ∈ SuggestionRule.all,
    rule.id ∈ advice.suggestions.map Suggestion.id ↔ Holds input thresholds rule.cause
  meets : ∀ suggestion ∈ advice.suggestions,
    ∃ rule ∈ SuggestionRule.all, Meets input thresholds rule suggestion
  /-- By severity, and by the table within a severity. -/
  ordered : advice.suggestions.Pairwise (fun first second =>
    second.severity.weight < first.severity.weight ∨
      second.severity = first.severity ∧ place first.id < place second.id)
  score : (advice.improvementScore : Int) = max 0 (100 - 15 * (advice.suggestions.length : Int))
  low : advice.priority = .low ↔ advice.suggestions.length < 2
  medium : advice.priority = .medium ↔
    advice.suggestions.length = 2 ∨ advice.suggestions.length = 3
  high : advice.priority = .high ↔ 3 < advice.suggestions.length

section Rule

variable {input : Input} {thresholds : Thresholds} {rule : SuggestionRule}

theorem triggers_ne_nil :
    triggers input thresholds rule ≠ [] ↔ Holds input thresholds rule.cause := by
  rw [triggers]
  cases rule.cause with
  | findings ids => simp [Holds, List.filter_eq_nil_iff]
  | metricAbove metric => simp [Holds]
  | magicNumbers => simp [Holds]
  | shortIdentifiers => simp [Holds]
  | noErrorPath =>
    have long : errorPathLines ≤ input.metrics.lineCount ↔ 5 ≤ input.metrics.lineCount := Iff.rfl
    simp [Holds, long, Signals.lacksErrorPath, and_assoc]

theorem isSome_suggestion? :
    (suggestion? input thresholds rule).isSome ↔ Holds input thresholds rule.cause := by
  rw [← triggers_ne_nil, suggestion?, Option.isSome_map, Option.isSome_iff_ne_none, ne_eq,
    Severity.worst?_eq_none, List.map_eq_nil_iff]

theorem triggers_of_not_findings (other : ∀ ids, rule.cause ≠ .findings ids)
    (due : triggers input thresholds rule ≠ []) :
    ∃ text, triggers input thresholds rule = [(rule.severity, text)] := by
  rw [triggers] at due ⊢
  cases isCause : rule.cause with
  | findings ids => exact absurd isCause (other ids)
  | metricAbove metric =>
    simp only [isCause] at due ⊢
    split at due
    · exact ⟨_, if_pos ‹_›⟩
    · exact absurd rfl due
  | magicNumbers =>
    simp only [isCause] at due ⊢
    split at due
    · exact absurd rfl due
    · exact ⟨_, if_neg ‹_›⟩
  | shortIdentifiers =>
    simp only [isCause] at due ⊢
    split at due
    · exact absurd rfl due
    · exact ⟨_, if_neg ‹_›⟩
  | noErrorPath =>
    simp only [isCause] at due ⊢
    split at due
    · exact ⟨_, if_pos ‹_›⟩
    · exact absurd rfl due

theorem meets_of_suggestion? {suggestion : Suggestion}
    (made : suggestion? input thresholds rule = some suggestion) :
    Meets input thresholds rule suggestion := by
  have holds : Holds input thresholds rule.cause :=
    isSome_suggestion?.1 (by rw [made]; rfl)
  obtain ⟨severity, worst, rfl⟩ := Option.map_eq_some_iff.1 made
  exact {
    id := rfl
    title := rfl
    detail := rfl
    holds
    found := fun ids isCause => by
      have due : triggers input thresholds rule = (input.findingsOf ids).map (fun finding =>
          (finding.severity, s!"finding {finding.patternId} at line {finding.span.line}")) := by
        rw [triggers, isCause]
        rfl
      rw [due, List.map_map, Severity.worst?_eq_some] at worst
      obtain ⟨member, bound⟩ := worst
      refine ⟨List.mem_map.1 member, fun finding isOne => ?_, ?_⟩
      · exact bound _ (List.mem_map_of_mem isOne)
      · rw [due, List.map_map]
        rfl
    other := fun notFindings => by
      obtain ⟨text, due⟩ := triggers_of_not_findings notFindings (triggers_ne_nil.2 holds)
      rw [due] at worst ⊢
      exact ⟨(Option.some.inj worst).symm, rfl⟩ }

end Rule

theorem bySeverity_eq (suggestions : List Suggestion) :
    bySeverity suggestions = Severity.groups Suggestion.severity suggestions :=
  rfl

section Table

variable (input : Input) (thresholds : Thresholds)

theorem mem_suggestions {suggestion : Suggestion} :
    suggestion ∈ (advise input thresholds).suggestions ↔
      ∃ rule ∈ SuggestionRule.all, suggestion? input thresholds rule = some suggestion := by
  rw [advise, bySeverity_eq, (Severity.groups_perm _).mem_iff, List.mem_filterMap]

theorem nodup_ids : (SuggestionRule.all.map SuggestionRule.id).Nodup := by
  decide +kernel

/-- Before they are put in groups, the suggestions stand in the order of the table. -/
theorem pairwise_place :
    (SuggestionRule.all.filterMap (suggestion? input thresholds)).Pairwise
      (fun first second => place first.id < place second.id) := by
  have ordered : (SuggestionRule.all.map SuggestionRule.id).Pairwise (fun first second =>
      place first < place second) := by
    refine List.pairwise_iff_getElem.2 (fun first second isFirst isSecond before => ?_)
    rwa [place, place, nodup_ids.idxOf_getElem, nodup_ids.idxOf_getElem]
  replace ordered := List.pairwise_map.1 ordered
  refine List.pairwise_filterMap.2 (ordered.imp ?_)
  intro first second before one isOne other isOther
  rwa [(meets_of_suggestion? isOne).id, (meets_of_suggestion? isOther).id]

theorem follows_advise : Follows input thresholds (advise input thresholds) where
  function := rfl
  once := by
    have apart : ((SuggestionRule.all.filterMap (suggestion? input thresholds)).map
        Suggestion.id).Nodup := by
      refine List.pairwise_map.2 ((pairwise_place input thresholds).imp ?_)
      intro first second before same
      exact Nat.lt_irrefl _ (same ▸ before)
    exact ((Severity.groups_perm _).map Suggestion.id).nodup_iff.2 apart
  due rule inTable := by
    rw [← isSome_suggestion?, List.mem_map]
    constructor
    · rintro ⟨suggestion, member, same⟩
      obtain ⟨other, inTableToo, made⟩ := (mem_suggestions input thresholds).1 member
      have isRule : other = rule := List.inj_on_of_nodup_map nodup_ids inTableToo inTable
        ((meets_of_suggestion? made).id.symm.trans same)
      rw [← isRule, made]
      rfl
    · intro isSome
      obtain ⟨suggestion, made⟩ := Option.isSome_iff_exists.1 isSome
      exact ⟨suggestion, (mem_suggestions input thresholds).2 ⟨rule, inTable, made⟩,
        (meets_of_suggestion? made).id⟩
  meets suggestion member := by
    obtain ⟨rule, inTable, made⟩ := (mem_suggestions input thresholds).1 member
    exact ⟨rule, inTable, meets_of_suggestion? made⟩
  ordered := Severity.pairwise_groups (pairwise_place input thresholds)
  score := by
    simp only [advise]
    omega
  low := Priority.ofCount_eq_low
  medium := Priority.ofCount_eq_medium
  high := Priority.ofCount_eq_high

end Table

end Advice

end CSurvey
