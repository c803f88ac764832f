import CSurvey.Walk
import Mathlib.Logic.Relation

/-!
# What a walk meets

A walk meets exactly the nodes to which paths lead from its roots.  Everything
that it meets ends such a path, since each round only follows edges.  Conversely
no edge leaves what it has met: each round meets the target of an edge that was
not met before, so the walk can go on only as long as there are such edges.
-/

namespace CSurvey.Walk

open Relation (ReflTransGen)

variable {α : Type} [DecidableEq α] {edges : List (α × α)} {met : List (α × Nat)}
  {frontier : List α}

/-- An edge leads from the first node to the second. -/
def Leads (edges : List (α × α)) (source target : α) : Prop :=
  (source, target) ∈ edges

theorem mem_successors {source target : α} :
    target ∈ successors edges source ↔ Leads edges source target := by
  simp [successors, Leads]

theorem isMet_iff {node : α} : isMet met node = true ↔ node ∈ met.map (·.1) := by
  simp [isMet]

theorem isMet_append {next : List α} {level : Nat} {node : α} :
    isMet (met ++ next.map (fun node => (node, level))) node = true ↔
      isMet met node = true ∨ node ∈ next := by
  simp [isMet, List.any_append]

theorem mem_newlyMet {node : α} :
    node ∈ newlyMet edges met frontier ↔
      (∃ source ∈ frontier, Leads edges source node) ∧ isMet met node = false := by
  simp only [newlyMet, List.mem_eraseDups, List.mem_filter, List.mem_flatMap, mem_successors,
    Bool.not_eq_true']

theorem isMet_rounds {count level : Nat} {node : α} (earlier : isMet met node = true) :
    isMet (rounds edges count level frontier met) node = true := by
  induction count generalizing level frontier met with
  | zero => exact earlier
  | succ count ih =>
    rw [rounds]
    split
    · exact earlier
    · exact ih (isMet_append.2 (Or.inl earlier))

theorem exists_path_of_isMet_rounds {roots : List α} {count level : Nat}
    (fromRoots : ∀ node, isMet met node = true →
      ∃ root ∈ roots, ReflTransGen (Leads edges) root node)
    (among : ∀ node ∈ frontier, isMet met node = true) :
    ∀ node, isMet (rounds edges count level frontier met) node = true →
      ∃ root ∈ roots, ReflTransGen (Leads edges) root node := by
  induction count generalizing level frontier met with
  | zero => exact fromRoots
  | succ count ih =>
    rw [rounds]
    split
    · exact fromRoots
    · refine ih ?_ (fun node member => isMet_append.2 (Or.inr member))
      intro node metNow
      rcases isMet_append.1 metNow with earlier | new
      · exact fromRoots node earlier
      · obtain ⟨⟨source, inFrontier, leads⟩, -⟩ := mem_newlyMet.1 new
        obtain ⟨root, isRoot, path⟩ := fromRoots source (among source inFrontier)
        exact ⟨root, isRoot, path.tail leads⟩

/-- The edges whose targets are not met. -/
def ahead (edges : List (α × α)) (met : List (α × Nat)) : List (α × α) :=
  edges.filter (fun edge => !isMet met edge.2)

theorem mem_ahead {source target : α} :
    (source, target) ∈ ahead edges met ↔ Leads edges source target ∧ isMet met target = false := by
  simp [ahead, Leads]

/-- A round that meets a node leaves fewer edges ahead. -/
theorem length_ahead_lt (level : Nat) {node : α} (new : node ∈ newlyMet edges met frontier) :
    (ahead edges (met ++ (newlyMet edges met frontier).map (fun node => (node, level)))).length <
      (ahead edges met).length := by
  generalize isNext : newlyMet edges met frontier = next at new ⊢
  have fewer : ahead edges (met ++ next.map (fun node => (node, level))) =
      (ahead edges met).filter (fun edge =>
        !isMet (met ++ next.map (fun node => (node, level))) edge.2) := by
    rw [ahead, ahead, List.filter_filter]
    refine List.filter_congr (fun edge _ => ?_)
    cases earlier : isMet met edge.2 with
    | false => simp
    | true => simp [isMet_append.2 (Or.inl earlier)]
  rw [fewer]
  rw [← isNext] at new
  obtain ⟨⟨source, -, leads⟩, notMet⟩ := mem_newlyMet.1 new
  refine List.length_filter_lt_length_iff_exists.2 ⟨(source, node), ?_, ?_⟩
  · exact mem_ahead.2 ⟨leads, notMet⟩
  · rw [isNext] at new
    simp [isMet_append.2 (Or.inr new)]

theorem closed_rounds {count level : Nat} (enough : (ahead edges met).length ≤ count)
    (closed : ∀ source target, isMet met source = true → Leads edges source target →
      source ∈ frontier ∨ isMet met target = true) :
    ∀ source target, isMet (rounds edges count level frontier met) source = true →
      Leads edges source target →
        isMet (rounds edges count level frontier met) target = true := by
  -- Only edges from the frontier can leave what is met; each round moves it on.
  induction count generalizing level frontier met with
  | zero =>
    intro source target _ leads
    have nothing := List.length_eq_zero_iff.1 (Nat.le_zero.1 enough)
    cases here : isMet met target with
    | true => exact here
    | false =>
      have inAhead := mem_ahead.2 ⟨leads, here⟩
      rw [nothing] at inAhead
      cases inAhead
  | succ count ih =>
    rw [rounds]
    split
    · rename_i finished
      intro source target metSource leads
      cases here : isMet met target with
      | true => rfl
      | false =>
        have inFrontier := (closed source target metSource leads).resolve_right (by simp [here])
        have new := mem_newlyMet.2 ⟨⟨source, inFrontier, leads⟩, here⟩
        rw [List.isEmpty_iff.1 finished] at new
        cases new
    · rename_i more
      rw [List.isEmpty_iff] at more
      obtain ⟨node, new⟩ := List.exists_mem_of_ne_nil _ more
      refine ih ?_ ?_
      · have fewer := length_ahead_lt (level + 1) new
        omega
      · intro source target metSource leads
        rcases isMet_append.1 metSource with earlier | inNext
        · refine Or.inr (isMet_append.2 ?_)
          cases here : isMet met target with
          | true => exact Or.inl rfl
          | false =>
            have inFrontier := (closed source target earlier leads).resolve_right (by simp [here])
            exact Or.inr (mem_newlyMet.2 ⟨⟨source, inFrontier, leads⟩, here⟩)
        · exact Or.inl inNext

/-- Each round adds nodes of the next level. -/
theorem level_le_of_mem_rounds {count level : Nat}
    (earlier : ∀ entry ∈ met, entry.2 ≤ level) :
    ∀ entry ∈ rounds edges count level frontier met, entry.2 ≤ level + count := by
  induction count generalizing level frontier met with
  | zero => exact earlier
  | succ count ih =>
    rw [rounds]
    split
    · exact fun entry member => Nat.le_trans (earlier entry member) (Nat.le_add_right ..)
    · intro entry member
      have metNow : ∀ entry ∈ met ++ (newlyMet edges met frontier).map
          (fun node => (node, level + 1)), entry.2 ≤ level + 1 := by
        intro entry member
        rcases List.mem_append.1 member with old | new
        · exact Nat.le_succ_of_le (earlier entry old)
        · obtain ⟨node, -, rfl⟩ := List.mem_map.1 new
          exact Nat.le_refl _
      have bound := ih metNow entry member
      omega

theorem depth_levels_le (edges : List (α × α)) (roots : List α) :
    depth (levels edges roots) ≤ edges.length := by
  have atStart : ∀ entry ∈ roots.eraseDups.map (fun node => (node, 0)), entry.2 ≤ 0 := by
    simp
  refine List.foldlRecOn (motive := (· ≤ edges.length)) _ max (Nat.zero_le _) ?_
  intro largest small level member
  obtain ⟨entry, isMet, rfl⟩ := List.mem_map.1 member
  have bound := level_le_of_mem_rounds atStart entry isMet
  rw [Nat.zero_add] at bound
  exact Nat.max_le.2 ⟨small, bound⟩

/-- A walk meets exactly the nodes to which paths lead from its roots. -/
theorem mem_reachable {roots : List α} {node : α} :
    node ∈ reachable edges roots ↔ ∃ root ∈ roots, ReflTransGen (Leads edges) root node := by
  have start : ∀ node : α,
      isMet (roots.eraseDups.map (fun node => (node, 0))) node = true ↔ node ∈ roots := by
    simp [isMet]
  rw [reachable, ← isMet_iff, levels]
  constructor
  · intro metNow
    refine exists_path_of_isMet_rounds ?_ ?_ node metNow
    · intro root isRoot
      exact ⟨root, (start root).1 isRoot, .refl⟩
    · intro root isRoot
      exact (start root).2 (List.mem_eraseDups.1 isRoot)
  · rintro ⟨root, isRoot, path⟩
    induction path with
    | refl => exact isMet_rounds ((start root).2 isRoot)
    | tail _ leads ih =>
      refine closed_rounds (List.length_filter_le ..) ?_ _ _ ih leads
      intro source _ metSource _
      exact Or.inl (List.mem_eraseDups.2 ((start source).1 metSource))

end CSurvey.Walk
