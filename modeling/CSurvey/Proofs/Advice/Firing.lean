import CSurvey.Proofs.Advice.Suggestions
import CSurvey.Proofs.Sorted
import Mathlib.Data.List.FinRange
import Mathlib.Data.List.Forall2

/-!
# Rules that fire

Advice can be gathered one trigger at a time: a trigger is added to what its rule has so
far, and the severity rises to the greatest seen.  What has been gathered is in no order.
Sorted by severity and by the table it gives the suggestions, and so neither the order in
which it is kept nor that of the findings tells which suggestions are made.
-/

namespace CSurvey.Advice

/-- What the rule at a place of the table has gathered. -/
structure Fired where
  place : Fin SuggestionRule.all.length
  severity : Severity
  triggers : List String
deriving DecidableEq, Repr

namespace Fired

/-- One more trigger, which can raise the severity. -/
def add (fired : Fired) (trigger : Severity × String) : Fired :=
  { fired with
    severity := fired.severity.max trigger.1
    triggers := fired.triggers ++ [trigger.2] }

/-- The more severe first, and by the table within a severity. -/
def precedes (first second : Fired) : Bool :=
  second.severity.weight < first.severity.weight ||
    (second.severity.weight == first.severity.weight && first.place ≤ second.place)

def suggestion (fired : Fired) : Suggestion :=
  let rule := SuggestionRule.all[fired.place]
  { id := rule.id, title := rule.title, detail := rule.detail, severity := fired.severity
    triggers := fired.triggers }

theorem precedes_total (first second : Fired) :
    precedes first second = true ∨ precedes second first = true := by
  simp only [precedes, Bool.or_eq_true, Bool.and_eq_true, beq_iff_eq, decide_eq_true_eq,
    Fin.le_def]
  omega

theorem precedes_trans (first second third : Fired) (before : precedes first second = true)
    (after : precedes second third = true) : precedes first third = true := by
  simp only [precedes, Bool.or_eq_true, Bool.and_eq_true, beq_iff_eq, decide_eq_true_eq,
    Fin.le_def] at before after ⊢
  omega

end Fired

def fire (place : Fin SuggestionRule.all.length) (gathered : List Fired)
    (trigger : Severity × String) : List Fired :=
  if gathered.any (fun fired => fired.place == place) then
    gathered.map (fun fired => if fired.place == place then fired.add trigger else fired)
  else ⟨place, trigger.1, [trigger.2]⟩ :: gathered

/-- All that the rules of the table gather for a function. -/
def fireAll (input : Input) (thresholds : Thresholds) : List Fired :=
  (List.finRange SuggestionRule.all.length).foldl (fun gathered place =>
    (triggers input thresholds SuggestionRule.all[place]).foldl (fire place) gathered) []

/-- What a rule has gathered after some triggers. -/
def fired? (place : Fin SuggestionRule.all.length) (triggers : List (Severity × String)) :
    Option Fired :=
  (Severity.worst? (triggers.map (·.1))).map (fun severity =>
    ⟨place, severity, triggers.map (·.2)⟩)

section Firing

variable {place : Fin SuggestionRule.all.length} {gathered : List Fired}

theorem fire_cons {fired : Fired} (new : ∀ other ∈ gathered, other.place ≠ fired.place)
    (trigger : Severity × String) :
    fire fired.place (fired :: gathered) trigger = fired.add trigger :: gathered := by
  have others : gathered.map (fun other =>
      if other.place == fired.place then other.add trigger else other) = gathered :=
    (List.map_congr_left (fun other member => if_neg (by simpa using new other member))).trans
      (List.map_id gathered)
  rw [fire, if_pos (by simp), List.map_cons, if_pos (by simp), others]

theorem foldl_fire_cons {fired : Fired} (new : ∀ other ∈ gathered, other.place ≠ fired.place)
    (triggers : List (Severity × String)) :
    triggers.foldl (fire fired.place) (fired :: gathered) =
      ⟨fired.place, (triggers.map (·.1)).foldl Severity.max fired.severity,
        fired.triggers ++ triggers.map (·.2)⟩ :: gathered := by
  induction triggers generalizing fired with
  | nil => simp
  | cons trigger triggers ih =>
    have later := ih (show ∀ other ∈ gathered, other.place ≠ (fired.add trigger).place from new)
    rw [List.foldl_cons, fire_cons new]
    exact later.trans (by simp [Fired.add])

/-- The triggers of one rule make one entry, if there are any. -/
theorem foldl_fire (new : ∀ fired ∈ gathered, fired.place ≠ place)
    (triggers : List (Severity × String)) :
    triggers.foldl (fire place) gathered = (fired? place triggers).toList ++ gathered := by
  cases triggers with
  | nil => rfl
  | cons trigger triggers =>
    have first : fire place gathered trigger = ⟨place, trigger.1, [trigger.2]⟩ :: gathered :=
      if_neg (by simpa using new)
    have later := foldl_fire_cons
      (show ∀ other ∈ gathered, other.place ≠ (Fired.mk place trigger.1 [trigger.2]).place from new)
      triggers
    rw [List.foldl_cons, first]
    exact later

theorem foldl_places (input : Input) (thresholds : Thresholds)
    {places : List (Fin SuggestionRule.all.length)} (apart : places.Nodup)
    (new : ∀ fired ∈ gathered, fired.place ∉ places) :
    places.foldl (fun gathered place =>
        (triggers input thresholds SuggestionRule.all[place]).foldl (fire place) gathered)
      gathered =
    (places.filterMap (fun place =>
      fired? place (triggers input thresholds SuggestionRule.all[place]))).reverse ++
        gathered := by
  induction places generalizing gathered with
  | nil => rfl
  | cons place places ih =>
    obtain ⟨notLater, apart⟩ := List.nodup_cons.1 apart
    rw [List.foldl_cons, foldl_fire (fun fired member same =>
      new fired member (same ▸ List.mem_cons_self ..))]
    have newLater : ∀ fired ∈ (fired? place
        (triggers input thresholds SuggestionRule.all[place])).toList ++ gathered,
        fired.place ∉ places := by
      intro fired member
      rcases List.mem_append.1 member with isNew | earlier
      · obtain ⟨severity, -, rfl⟩ := Option.map_eq_some_iff.1 (Option.mem_toList.1 isNew)
        exact notLater
      · exact fun later => new fired earlier (List.mem_cons_of_mem _ later)
    rw [ih apart newLater, List.filterMap_cons]
    cases fired? place (triggers input thresholds SuggestionRule.all[place]) <;> simp

end Firing

section Table

variable (input : Input) (thresholds : Thresholds)

/-- What the rules gather, in the order of the table. -/
def firedInTable : List Fired :=
  (List.finRange SuggestionRule.all.length).filterMap (fun place =>
    fired? place (triggers input thresholds SuggestionRule.all[place]))

theorem fireAll_perm : (fireAll input thresholds).Perm (firedInTable input thresholds) := by
  have all : fireAll input thresholds = (firedInTable input thresholds).reverse ++ [] :=
    foldl_places input thresholds (List.nodup_finRange _) (fun _ nothing => nomatch nothing)
  rw [all, List.append_nil]
  exact List.reverse_perm _

theorem map_suggestion_firedInTable :
    (firedInTable input thresholds).map Fired.suggestion =
      SuggestionRule.all.filterMap (suggestion? input thresholds) := by
  have table : (List.finRange SuggestionRule.all.length).map (fun place =>
      SuggestionRule.all[place]) = SuggestionRule.all :=
    List.map_getElem_finRange SuggestionRule.all
  conv_rhs => rw [← table]
  rw [firedInTable, List.map_filterMap, List.filterMap_map]
  refine List.filterMap_congr (fun place _ => ?_)
  rw [fired?, Option.map_map]
  rfl

theorem pairwise_place_firedInTable :
    (firedInTable input thresholds).Pairwise (fun first second => first.place < second.place) := by
  refine List.pairwise_filterMap.2 ((List.pairwise_lt_finRange _).imp ?_)
  intro first second before one isOne other isOther
  obtain ⟨severity, -, rfl⟩ := Option.map_eq_some_iff.1 isOne
  obtain ⟨severity, -, rfl⟩ := Option.map_eq_some_iff.1 isOther
  exact before

/-- In whatever order what has been gathered is given, sorting it gives the suggestions. -/
theorem sort_fired {gathered : List Fired}
    (same : gathered.Perm (fireAll input thresholds)) :
    (Sorted.sort Fired.precedes gathered).map Fired.suggestion =
      (advise input thresholds).suggestions := by
  have strict : (Severity.groups Fired.severity (firedInTable input thresholds)).Pairwise
      (fun first second => Fired.precedes second first = false) := by
    refine (Severity.pairwise_groups (pairwise_place_firedInTable input thresholds)).imp ?_
    intro first second before
    simp only [Fired.precedes, Bool.or_eq_false_iff, Bool.and_eq_false_iff, beq_eq_false_iff_ne,
      decide_eq_false_iff_not, Fin.le_def]
    rcases before with less | ⟨severity, before⟩
    · omega
    · rw [severity]
      omega
  have sorted : Sorted.sort Fired.precedes gathered =
      Severity.groups Fired.severity (firedInTable input thresholds) :=
    Sorted.sort_of_perm Fired.precedes_total Fired.precedes_trans
      (same.trans ((fireAll_perm input thresholds).trans (Severity.groups_perm _).symm)) strict
  rw [sorted, advise, bySeverity_eq, ← map_suggestion_firedInTable, Severity.groups_map]
  rfl

end Table

/-- Two suggestions that differ at most in the order of their triggers. -/
structure SameButOrder (first second : Suggestion) : Prop where
  id : first.id = second.id
  title : first.title = second.title
  detail : first.detail = second.detail
  severity : first.severity = second.severity
  triggers : first.triggers.Perm second.triggers

section Shuffled

variable {input : Input} {findings : List Finding} (same : input.findings.Perm findings)
  (thresholds : Thresholds)
include same

theorem triggers_perm (rule : SuggestionRule) :
    (triggers input thresholds rule).Perm (triggers { input with findings } thresholds rule) := by
  rw [triggers, triggers]
  cases rule.cause with
  | findings ids => exact (same.filter _).map _
  | metricAbove metric => exact .refl _
  | magicNumbers => exact .refl _
  | shortIdentifiers => exact .refl _
  | noErrorPath => exact .refl _

theorem suggestion?_rel (rule : SuggestionRule) :
    Option.Rel SameButOrder (suggestion? input thresholds rule)
      (suggestion? { input with findings } thresholds rule) := by
  have due := triggers_perm same thresholds rule
  rw [suggestion?, suggestion?, Severity.worst?_perm (due.map (·.1))]
  cases Severity.worst? _ with
  | none => exact .none
  | some severity => exact .some ⟨rfl, rfl, rfl, rfl, due.map _⟩

theorem suggestions_forall₂ :
    List.Forall₂ SameButOrder (advise input thresholds).suggestions
      (advise { input with findings } thresholds).suggestions := by
  have made : List.Forall₂ SameButOrder
      (SuggestionRule.all.filterMap (suggestion? input thresholds))
      (SuggestionRule.all.filterMap (suggestion? { input with findings } thresholds)) := by
    refine List.rel_filterMap (R := Eq) ?_ (List.forall₂_refl _)
    rintro rule _ rfl
    exact suggestion?_rel same thresholds rule
  have grouped (severity : Severity) : List.Forall₂ SameButOrder
      ((SuggestionRule.all.filterMap (suggestion? input thresholds)).filter
        (fun suggestion => suggestion.severity == severity))
      ((SuggestionRule.all.filterMap (suggestion? { input with findings } thresholds)).filter
        (fun suggestion => suggestion.severity == severity)) := by
    refine List.rel_filter (fun first second alike => ?_) made
    simp only [alike.severity]
  have groups (severities : List Severity) : List.Forall₂ SameButOrder
      (severities.flatMap (fun severity =>
        (SuggestionRule.all.filterMap (suggestion? input thresholds)).filter
          (fun suggestion => suggestion.severity == severity)))
      (severities.flatMap (fun severity =>
        (SuggestionRule.all.filterMap (suggestion? { input with findings } thresholds)).filter
          (fun suggestion => suggestion.severity == severity))) := by
    induction severities with
    | nil => exact .nil
    | cons severity severities ih => exact List.rel_append (grouped severity) ih
  exact groups Severity.all.reverse

end Shuffled

/-- The advice for a function has each suggestion of the table that is due, once and at its
severity, in order; it comes out the same however what fires is kept, and when the findings are
given in another order only that of the triggers changes. -/
theorem advise_follows_table (input : Input) (thresholds : Thresholds) :
    Follows input thresholds (advise input thresholds) ∧
    (∀ gathered, gathered.Perm (fireAll input thresholds) →
      (Sorted.sort Fired.precedes gathered).map Fired.suggestion =
        (advise input thresholds).suggestions) ∧
    ∀ findings, input.findings.Perm findings →
      let shuffled := advise { input with findings } thresholds
      shuffled.function = (advise input thresholds).function ∧
      List.Forall₂ SameButOrder (advise input thresholds).suggestions shuffled.suggestions ∧
      shuffled.improvementScore = (advise input thresholds).improvementScore ∧
      shuffled.priority = (advise input thresholds).priority := by
  refine ⟨follows_advise input thresholds, fun gathered => sort_fired input thresholds,
    fun findings same => ?_⟩
  have alike := suggestions_forall₂ same thresholds
  refine ⟨rfl, alike, ?_, ?_⟩
  · exact congrArg (fun count => 100 - 15 * count) alike.length_eq.symm
  · exact congrArg Priority.ofCount alike.length_eq.symm

/-- Two findings of one rule, the second more severe, one of another rule whose severity has been
lowered, and a function that is one line too long. -/
theorem advise_follows_table_shuffled :
    let finding (id : String) (severity : Severity) (line : Nat) : Finding :=
      ⟨id, "", severity, ⟨0, 1, line, line⟩, "", "", "", none⟩
    let copy := finding "unbounded-copy" .high 3
    let shell := finding "command-injection" .low 5
    let read := finding "unbounded-read" .critical 7
    let input : Input := ⟨"f", { Metrics.zero with lineCount := 51 }, [copy, shell, read],
      ⟨[], [], true, false, 0⟩⟩
    let findings := [read, shell, copy]
    let advice := advise input Thresholds.standard
    let shuffled := advise { input with findings } Thresholds.standard
    input.findings.Perm findings ∧
      advice.suggestions.map (fun suggestion =>
          (suggestion.id, suggestion.severity, suggestion.triggers)) =
        [("bound-buffer-operations", .critical,
            ["finding unbounded-copy at line 3", "finding unbounded-read at line 7"]),
          ("split-function", .medium, ["line_count 51 > 50"]),
          ("remove-shell-execution", .low, ["finding command-injection at line 5"])] ∧
      advice.improvementScore = 55 ∧ advice.priority = .medium ∧
      (Sorted.sort Fired.precedes (fireAll input Thresholds.standard).reverse).map
        Fired.suggestion = advice.suggestions ∧
      List.Forall₂ SameButOrder advice.suggestions shuffled.suggestions ∧
      shuffled.improvementScore = advice.improvementScore := by
  intro finding copy shell read input findings advice shuffled
  have same : input.findings.Perm findings := List.reverse_perm findings
  obtain ⟨-, sorted, alike⟩ := advise_follows_table input Thresholds.standard
  obtain ⟨-, suggestions, score, -⟩ := alike findings same
  exact ⟨same, by decide +kernel, by decide +kernel, by decide +kernel,
    sorted _ (List.reverse_perm _), suggestions, score⟩

end CSurvey.Advice
