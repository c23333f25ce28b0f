import NousKernel.CriticalPath

/-!
The order in which a scheduled program is executed: the critical path, then the other nodes
by their priority.
-/

set_option autoImplicit false

namespace NousKernel

namespace CriticalPathScheduler

open AgentProgramCompiler Results

variable {orders : HashOrders} {steps : List AgentStep} {scheduled : ScheduledProgram}

/-- The nodes that are not on the critical path, by their priority. -/
def others (program : AgentExecutionGraph) : List String :=
  Ranking.sortDescending (fun id => (priority program id : Int))
    ((program.graph.nodes.map (·.nodeId)).filter (· ∉ program.criticalPath))

theorem schedule_ok (done : schedule orders steps = .ok scheduled) :
    compile {} orders steps = .ok scheduled.graph ∧
      scheduled.executionOrder = scheduled.graph.criticalPath ++ others scheduled.graph := by
  simp only [schedule, bind_ok, pure, Except.pure, Except.ok.injEq] at done
  obtain ⟨program, compiled, rfl⟩ := done
  refine ⟨compiled, ?_⟩
  simp only [others, Ranking.sortDescending, Int.ofNat_le]

theorem mem_others {program : AgentExecutionGraph} {id : String} : id ∈ others program ↔
    id ∈ program.graph.nodes.map (·.nodeId) ∧ id ∉ program.criticalPath := by
  rw [others, (Ranking.sortDescending_perm _ _).mem_iff, List.mem_filter, decide_eq_true_eq]

/-- The critical path of a program: it repeats no node, and edges lead forward on it. -/
structure Forward (program : AgentExecutionGraph) : Prop where
  unique : program.criticalPath.Nodup
  inside : ∀ id ∈ program.criticalPath, id ∈ program.graph.nodes.map (·.nodeId)
  forward : ∀ first ∈ program.criticalPath, ∀ second ∈ program.criticalPath,
    ExecutionGraph.Joins program.graph first second →
      Kahn.Before program.criticalPath first second

theorem compiled_some_node {compiler : AgentProgramCompiler} {program : AgentExecutionGraph}
    (compiled : compile compiler orders steps = .ok program) (some_step : steps ≠ []) :
    ∃ id, id ∈ program.graph.nodes.map (·.nodeId) := by
  obtain ⟨ordered, perm, _, ids, _⟩ := compiled_joins compiled
  obtain ⟨step, listed⟩ := List.exists_mem_of_ne_nil steps some_step
  rw [ids]
  exact ⟨_, List.mem_flatMap.mpr ⟨step, perm.mem_iff.mpr listed, firstId_mem step⟩⟩

theorem compiled_forward {compiler : AgentProgramCompiler} {program : AgentExecutionGraph}
    (compiled : compile compiler orders steps = .ok program) (some_step : steps ≠ [])
    (free : ¬Clash compiler steps) : Forward program := by
  have distinct := (compiled_nodup_iff compiled).mpr free
  have joins : Kahn.Edge (ends program.graph.edges) = ExecutionGraph.Joins program.graph := by
    funext first second
    exact propext edge_ends
  have acyclic : ∀ id, ¬Relation.TransGen (ExecutionGraph.Joins program.graph) id id :=
    Kahn.acyclic_of_before distinct fun _ _ => compiled_before compiled
  have founded : WellFounded (Kahn.Edge (ends program.graph.edges)) := by
    rw [Kahn.wellFounded_iff, Kahn.Acyclic, joins]
    exact acyclic
  obtain ⟨path, _⟩ := compile_fields compiler compiled
  obtain ⟨id, listed⟩ := compiled_some_node compiled some_step
  rcases computeCriticalPath_spec orders.nodes (compiled_between compiled).inside with
    ⟨_, critical⟩ | ⟨cyclic, _⟩
  · rw [← path] at critical
    obtain ⟨_, way⟩ := critical.ends
    have chain := way.chain
    rw [joins] at chain
    obtain ⟨unique, forward⟩ := Kahn.chain_forward acyclic chain
    exact ⟨unique, fun id listed => (critical.inside id listed).1, forward⟩
  · exact absurd (founded.apply id) (cyclic id listed)

/-- The order is the critical path and then the other nodes by priority: an edge leads forward
where its source is on the critical path, or where neither end is and the target is not of a
higher priority. -/
structure Prioritised (scheduled : ScheduledProgram) : Prop where
  complete : scheduled.executionOrder.Perm (scheduled.graph.graph.nodes.map (·.nodeId))
  critical : ∃ rest, scheduled.executionOrder = scheduled.graph.criticalPath ++ rest ∧
    rest.Pairwise fun first second =>
      priority scheduled.graph second ≤ priority scheduled.graph first
  forward : ∀ edge ∈ scheduled.graph.graph.edges,
    (Kahn.Before scheduled.executionOrder edge.fromNodeId edge.toNodeId ↔
      edge.fromNodeId ∈ scheduled.graph.criticalPath ∨
        (edge.toNodeId ∉ scheduled.graph.criticalPath ∧
          priority scheduled.graph edge.toNodeId ≤ priority scheduled.graph edge.fromNodeId))

theorem others_pairwise (program : AgentExecutionGraph) :
    (others program).Pairwise fun first second =>
      priority program second ≤ priority program first := by
  have sorted := Ranking.sortDescending_pairwise (fun id => (priority program id : Int))
    ((program.graph.nodes.map (·.nodeId)).filter (· ∉ program.criticalPath))
  exact sorted.imp Int.ofNat_le.mp

/-- Among the others, a node stands before another of no higher priority that it leads to. -/
theorem others_before {program : AgentExecutionGraph} {first second : String}
    (before : Kahn.Before (program.graph.nodes.map (·.nodeId)) first second)
    (off : first ∉ program.criticalPath) (off' : second ∉ program.criticalPath)
    (level : priority program second ≤ priority program first) :
    Kahn.Before (others program) first second := by
  have kept := (Kahn.before_iff_sublist.mp before).filter (· ∉ program.criticalPath)
  simp only [List.filter_cons, off, off', not_false_eq_true, decide_true, if_true,
    List.filter_nil] at kept
  exact Kahn.before_iff_sublist.mpr
    (Ranking.sortDescending_stable _ (Int.ofNat_le.mpr level) kept)

theorem Forward.complete {program : AgentExecutionGraph} (path : Forward program)
    (distinct : (program.graph.nodes.map (·.nodeId)).Nodup) :
    (program.criticalPath ++ others program).Perm (program.graph.nodes.map (·.nodeId)) := by
  have apart : List.Disjoint program.criticalPath (others program) :=
    fun _ one other => (mem_others.mp other).2 one
  have rest : (others program).Nodup :=
    (Ranking.sortDescending_perm _ _).nodup_iff.mpr (distinct.filter _)
  refine (List.perm_ext_iff_of_nodup (path.unique.append rest apart) distinct).mpr ?_
  intro id
  rw [List.mem_append, mem_others]
  constructor
  · rintro (on | ⟨listed, _⟩)
    · exact path.inside id on
    · exact listed
  · intro listed
    by_cases on : id ∈ program.criticalPath
    · exact .inl on
    · exact .inr ⟨listed, on⟩

/-- Off the critical path, the priorities decide which end of an edge comes first. -/
theorem others_before_iff {program : AgentExecutionGraph}
    (unique : (program.criticalPath ++ others program).Nodup) {first second : String}
    (before : Kahn.Before (program.graph.nodes.map (·.nodeId)) first second)
    (off : first ∉ program.criticalPath) (off' : second ∉ program.criticalPath) :
    Kahn.Before (program.criticalPath ++ others program) first second ↔
      priority program second ≤ priority program first := by
  have one := mem_others.mpr ⟨before.mem.1, off⟩
  have other := mem_others.mpr ⟨before.mem.2, off'⟩
  constructor
  · intro forward
    have different : first ≠ second := by
      rintro rfl
      exact forward.asymm unique forward
    rcases Kahn.before_total one other different with level | swapped
    · exact List.pairwise_iff_forall_sublist.mp (others_pairwise _)
        (Kahn.before_iff_sublist.mp level)
    · exact absurd (swapped.append_left _) (forward.asymm unique)
  · intro level
    exact (others_before before off off' level).append_left _

theorem schedule_prioritised (orders : HashOrders) (steps : List AgentStep)
    (scheduled : ScheduledProgram) (some_step : steps ≠ []) (free : ¬Clash {} steps)
    (done : schedule orders steps = .ok scheduled) : Prioritised scheduled := by
  obtain ⟨compiled, same⟩ := schedule_ok done
  have path := compiled_forward compiled some_step free
  have distinct := (compiled_nodup_iff compiled).mpr free
  have complete := path.complete distinct
  have unique := complete.nodup_iff.mpr distinct
  rw [← same] at complete
  refine ⟨complete, ⟨_, same, others_pairwise _⟩, ?_⟩
  intro edge listed
  have joined : ExecutionGraph.Joins scheduled.graph.graph edge.fromNodeId edge.toNodeId :=
    ⟨edge, listed, rfl, rfl⟩
  have before := compiled_before compiled joined
  rw [same]
  by_cases on : edge.fromNodeId ∈ scheduled.graph.criticalPath
  · refine iff_of_true ?_ (.inl on)
    by_cases on' : edge.toNodeId ∈ scheduled.graph.criticalPath
    · exact (path.forward _ on _ on' joined).append_right _
    · exact Kahn.before_append on (mem_others.mpr ⟨before.mem.2, on'⟩)
  · by_cases on' : edge.toNodeId ∈ scheduled.graph.criticalPath
    · have rest := mem_others.mpr ⟨before.mem.1, on⟩
      refine iff_of_false ((Kahn.before_append on' rest).asymm unique) ?_
      rintro (early | ⟨off, _⟩)
      · exact on early
      · exact off on'
    · rw [or_iff_right on, and_iff_right on']
      exact others_before_iff unique before on on'

/-- A short step joins the critical path. -/
def joiningSteps : List AgentStep :=
  [plainStep "a" .Generate [], plainStep "b" .Retrieve [], plainStep "c" .Think ["a", "b"]]

theorem schedule_prioritised_joining :
    ∃ scheduled, schedule .listed joiningSteps = .ok scheduled ∧ Prioritised scheduled :=
  ⟨_, rfl, schedule_prioritised .listed joiningSteps _ (List.cons_ne_nil _ _) (by decide) rfl⟩

/-- The order is one in which the nodes can be executed. -/
structure Executable (scheduled : ScheduledProgram) : Prop where
  complete : scheduled.executionOrder.Perm (scheduled.graph.graph.nodes.map (·.nodeId))
  forward : ∀ edge ∈ scheduled.graph.graph.edges,
    Kahn.Before scheduled.executionOrder edge.fromNodeId edge.toNodeId

theorem schedule_backward : ¬∀ (orders : HashOrders) (steps : List AgentStep)
    (scheduled : ScheduledProgram),
    schedule orders steps = .ok scheduled → Executable scheduled := by
  intro executes
  obtain ⟨scheduled, done, distinct, on, off, listed⟩ :
      ∃ scheduled, schedule .listed joiningSteps = .ok scheduled ∧
        (scheduled.graph.graph.nodes.map (·.nodeId)).Nodup ∧
        "c-think" ∈ scheduled.graph.criticalPath ∧
        ("b-retrieve" ∈ scheduled.graph.graph.nodes.map (·.nodeId) ∧
          "b-retrieve" ∉ scheduled.graph.criticalPath) ∧
        onSuccess "b-retrieve" "c-think" ∈ scheduled.graph.graph.edges :=
    ⟨_, rfl, by decide, by decide, by decide, .tail _ (.tail _ (.head _))⟩
  have executable := executes .listed joiningSteps scheduled done
  have unique := executable.complete.nodup_iff.mpr distinct
  have swapped : Kahn.Before scheduled.executionOrder "c-think" "b-retrieve" := by
    rw [(schedule_ok done).2]
    exact Kahn.before_append on (mem_others.mpr off)
  exact swapped.asymm unique (executable.forward _ listed)

end CriticalPathScheduler

end NousKernel
