import CSurvey.Proofs.Engine.Feedback
import CSurvey.Proofs.Wire.Mapping

/-!
# Drawing a mapping

An engine that is given a mapping from names to lists of names as a graph draws all
its names and calls, unless the mapping lists nothing for the name `edges`.  Such a
mapping is taken for a graph without edges, and its calls and most of its names are
lost without a fault.
-/

namespace CSurvey.Engine

theorem dispatch_renderDiagram (engine : Engine) {value : Json} {input : GraphInput}
    (read : GraphInput.ofSource? value = some input) {maxNodes : Nat} (small : maxNodes < wordSize)
    (disk : Disk) (history : History) (time : String) :
    (engine.dispatch disk history time "render_diagram"
        (.obj [("graph", value), ("max_nodes", .nat maxNodes)])).1 =
      ((Diagram.render input engine.chartKind maxNodes).map (fun diagram =>
        (⟨diagram, none, none⟩ : DiagramResponse))).map
          (fun response => (Response.renderDiagram response).answer) := by
  rw [show "render_diagram" = Operation.renderDiagram.name from rfl,
    dispatch_of_read (diagramRequest_graph read small)]
  cases drawn : Diagram.render input engine.chartKind maxNodes <;>
    simp [run, renderDiagram, drawn, Except.map, bind, Except.bind, pure, Except.pure]

theorem render_counts_iff {input : GraphInput} (fits : input.total < wordSize) (kind : ChartKind)
    (maxNodes names calls : Nat) :
    (∃ response : DiagramResponse,
        (Diagram.render input kind maxNodes).map (fun diagram =>
          (⟨diagram, none, none⟩ : DiagramResponse)) = .ok response ∧
        response.diagram.totalNodes = names ∧ response.diagram.edgeTotal? = some calls) ↔
      1 ≤ maxNodes ∧ {name | input.Mentions name}.ncard = names ∧ input.total = calls := by
  obtain ⟨draws, fails⟩ := Diagram.render_accountsFor input kind fits
  rcases Nat.eq_zero_or_pos maxNodes with rfl | positive
  · simp [fails, Except.map]
  · obtain ⟨diagram, drawn, -, accounts⟩ := draws maxNodes positive
    simp only [drawn, Except.map, Except.ok.injEq, exists_eq_left', accounts.totalNodes,
      accounts.edgeTotal, Option.some.injEq, Nat.succ_le_of_lt positive, true_and]

/-- A mapping is drawn with all names that it mentions and all calls that it lists exactly if the
diagram may have a node and the mapping has no empty list for the name `edges`. -/
theorem renderDiagram_mapping_iff (libraries : Libraries) {settings : Settings}
    (valid : settings.validate = .ok ()) {mapping : NameMapping}
    (distinct : (mapping.map (·.1)).Nodup)
    (fits : mapping.calls < wordSize) {maxNodes : Nat} (small : maxNodes < wordSize) :
    ∃ engine, ofSettings libraries settings = .ok engine ∧
      ∃ outcome : Except Fault DiagramResponse,
      (∀ disk history time, (engine.dispatch disk history time "render_diagram"
          (.obj [("graph", mapping.toJson), ("max_nodes", .nat maxNodes)])).1 =
        outcome.map (fun response => (Response.renderDiagram response).answer)) ∧
      ((∃ response, outcome = .ok response ∧
          response.diagram.totalNodes = {name | mapping.Mentions name}.ncard ∧
          response.diagram.edgeTotal? = some mapping.calls) ↔
        1 ≤ maxNodes ∧ ("edges", []) ∉ mapping) := by
  obtain ⟨engine, made, -⟩ := exists_ofSettings libraries valid
  refine ⟨engine, made, ?_⟩
  by_cases member : ("edges", []) ∈ mapping
  · obtain ⟨nodes, read, among⟩ := NameMapping.ofSource?_toJson_of_mem distinct member
    have noCalls : GraphInput.total ⟨nodes, []⟩ = 0 := rfl
    refine ⟨_, engine.dispatch_renderDiagram read small, ?_⟩
    rw [render_counts_iff (by rw [noCalls]; exact Nat.lt_of_le_of_lt (Nat.zero_le _) small),
      noCalls]
    simp only [member, not_true, and_false, iff_false, not_and]
    intro _ names calls
    exact NameMapping.ncard_mentions_ne member (among.imp_right (fun inside => ⟨_, inside⟩))
      calls.symm names
  · have read := NameMapping.ofSource?_toJson distinct member
    have total : (GraphInput.ofAdjacency
        (Sorted.sort (fun first second => first.1 ≤ second.1) mapping)).total = mapping.calls :=
      (NameMapping.total_ofAdjacency _).trans (NameMapping.calls_perm (Sorted.sort_perm ..))
    refine ⟨_, engine.dispatch_renderDiagram read small, ?_⟩
    rw [render_counts_iff (total ▸ fits), NameMapping.ncard_mentions_sort, total]
    simp [member]

/-- A call made twice, and a name that is a field of other graphs. -/
theorem renderDiagram_mapping_iff_nodes :
    let mapping : NameMapping := [("main", ["init", "nodes", "init"]), ("nodes", ["main"])]
    let libraries := Libraries.refusing "no reason"
    Settings.standard.validate = .ok () ∧ (mapping.map (·.1)).Nodup ∧ mapping.calls < wordSize ∧
      10 < wordSize ∧ ∃ engine, ofSettings libraries Settings.standard = .ok engine ∧
        ∃ response : DiagramResponse,
          engine.Answers .renderDiagram [("graph", mapping.toJson), ("max_nodes", .nat 10)]
            (Response.renderDiagram response).answer ∧
          response.diagram.totalNodes = {name | mapping.Mentions name}.ncard ∧
          response.diagram.edgeTotal? = some 4 := by
  intro mapping libraries
  have distinct : (mapping.map (·.1)).Nodup := by decide
  have fits : mapping.calls < wordSize := by decide +kernel
  have small : 10 < wordSize := by decide +kernel
  obtain ⟨engine, made, outcome, answers, counts⟩ :=
    renderDiagram_mapping_iff libraries Settings.validate_standard distinct fits small
  obtain ⟨response, rfl, names, calls⟩ := counts.2 ⟨by decide, by decide⟩
  exact ⟨Settings.validate_standard, distinct, fits, small, engine, made, response, answers, names,
    calls⟩

/-- Three names and a call, of which nothing is drawn. -/
theorem renderDiagram_loses_mapping :
    let mapping : NameMapping := [("edges", []), ("main", ["init"])]
    let libraries := Libraries.refusing "no reason"
    (∀ name ∈ ["edges", "main", "init"], mapping.Mentions name) ∧ mapping.calls = 1 ∧
      ∃ engine, ofSettings libraries Settings.standard = .ok engine ∧ ∃ response : DiagramResponse,
        engine.Answers .renderDiagram [("graph", mapping.toJson), ("max_nodes", .nat 10)]
          (Response.renderDiagram response).answer ∧
        response.diagram.totalNodes = 0 ∧ response.diagram.edgeTotal? = some 0 := by
  intro mapping libraries
  obtain ⟨engine, made, -⟩ := exists_ofSettings libraries Settings.validate_standard
  have read : GraphInput.ofSource? mapping.toJson = some ⟨[], []⟩ := rfl
  have small : 10 < wordSize := by decide +kernel
  refine ⟨by simp [NameMapping.Mentions, mapping], rfl, engine, made,
    ⟨Diagram.draw ⟨[], []⟩ engine.chartKind 10, none, none⟩,
    engine.dispatch_renderDiagram read small, rfl, rfl⟩

end CSurvey.Engine
