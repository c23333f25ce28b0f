import NousKernel.Compilation

/-!
The graphs of compiled programs: whether they are well formed, where compensations stand in
them, and what becomes of required approvals.
-/

set_option autoImplicit false

namespace NousKernel

namespace AgentProgramCompiler

variable {compiler : AgentProgramCompiler} {steps ordered : List AgentStep}

/-! ### Ways through a graph -/

def ExecutionGraph.Joins (graph : ExecutionGraph) (first second : String) : Prop :=
  ∃ edge ∈ graph.edges, edge.fromNodeId = first ∧ edge.toNodeId = second

theorem mem_nodeIds {step : AgentStep} (listed : step ∈ ordered) {node : PhaseNode}
    (own : node ∈ stepToPhaseNodes compiler step) : node.nodeId ∈ nodeIds compiler ordered := by
  refine List.mem_flatMap.mpr ⟨step, listed, ?_⟩
  rw [← nodeIds_eq]
  exact List.mem_map_of_mem own

theorem lastId_mem (step : AgentStep) :
    lastId compiler step ∈ (suffixes compiler step).map (step.id ++ ·) := by
  rw [← nodeIds_eq]
  exact List.mem_map_of_mem (List.getLast_mem _)

theorem firstId_mem (step : AgentStep) :
    firstId compiler step ∈ (suffixes compiler step).map (step.id ++ ·) := by
  rw [← nodeIds_eq]
  exact List.mem_map_of_mem (List.head_mem _)

theorem Adjacent.before {nodes : List PhaseNode} {first second : String}
    (adjacent : Adjacent nodes first second) :
    Kahn.Before (nodes.map (·.nodeId)) first second := by
  obtain ⟨front, one, other, back, rfl, rfl, rfl⟩ := adjacent
  refine ⟨front.map (·.nodeId), other.nodeId :: back.map (·.nodeId), ?_, List.mem_cons_self⟩
  rw [List.map_append, List.map_cons, List.map_cons]

/-- Every edge leads forward in the list of the nodes. -/
theorem Linked.before (inOrder : InOrder ordered) {first second : String}
    (linked : Linked compiler ordered first second) :
    Kahn.Before (nodeIds compiler ordered) first second := by
  cases linked with
  | @inside step _ _ listed adjacent =>
      obtain ⟨front, back, rfl⟩ := List.append_of_mem listed
      have own := adjacent.before
      rw [nodeIds_eq] at own
      rw [nodeIds, List.flatMap_append, List.flatMap_cons]
      exact (own.append_right _).append_left _
  | @across step other listed before depends =>
      obtain ⟨front, back, rfl⟩ := List.append_of_mem listed
      have named := inOrder.closed front step back rfl _ depends
      obtain ⟨same, held, equal⟩ := List.mem_map.mp named
      rw [← inOrder.unique (List.mem_append_left _ held) before equal]
      rw [nodeIds, List.flatMap_append, List.flatMap_cons]
      refine Kahn.before_append ?_ (List.mem_append_left _ (firstId_mem step))
      exact List.mem_flatMap.mpr ⟨same, held, lastId_mem same⟩

theorem joins_iff (inOrder : InOrder ordered) {first second : String} {edges : List PhaseEdge}
    (same : edges = (buildOf compiler ordered).edges) :
    (∃ edge ∈ edges, edge.fromNodeId = first ∧ edge.toNodeId = second) ↔
      Linked compiler ordered first second := by
  subst same
  constructor
  · rintro ⟨edge, listed, rfl, rfl⟩
    obtain ⟨one, other, linked, rfl⟩ := (mem_buildOf_edges inOrder edge).mp listed
    exact linked
  · intro linked
    exact ⟨_, (mem_buildOf_edges inOrder _).mpr ⟨first, second, linked, rfl⟩, rfl, rfl⟩

theorem Adjacent.mono {nodes : List PhaseNode} {node : PhaseNode} {first second : String}
    (adjacent : Adjacent nodes first second) : Adjacent (node :: nodes) first second :=
  adjacent_cons.mpr (.inr adjacent)

/-- Inside a list of nodes, the first leads to every node. -/
theorem head_leads (nodes : List PhaseNode) (head : PhaseNode) :
    ∀ node ∈ head :: nodes,
      Relation.ReflTransGen (Adjacent (head :: nodes)) head.nodeId node.nodeId := by
  induction nodes generalizing head with
  | nil =>
      intro node listed
      rw [List.mem_singleton.mp listed]
  | cons next nodes ih =>
      intro node listed
      rcases List.mem_cons.mp listed with rfl | later
      · exact .refl
      · have onward : Relation.ReflTransGen (Adjacent (head :: next :: nodes)) next.nodeId
            node.nodeId :=
          Relation.ReflTransGen.mono (fun _ _ => Adjacent.mono) _ _ (ih next node later)
        exact .head (adjacent_cons.mpr (.inl ⟨rfl, next, nodes, rfl, rfl⟩)) onward

/-- And every node to the last. -/
theorem leads_last (nodes : List PhaseNode) (head : PhaseNode) :
    ∀ node ∈ head :: nodes, Relation.ReflTransGen (Adjacent (head :: nodes)) node.nodeId
      ((head :: nodes).getLast (List.cons_ne_nil head nodes)).nodeId := by
  induction nodes generalizing head with
  | nil =>
      intro node listed
      rw [List.mem_singleton.mp listed]
      exact .refl
  | cons next nodes ih =>
      intro node listed
      rw [List.getLast_cons (List.cons_ne_nil next nodes)]
      have lift {first second : String} :
          Relation.ReflTransGen (Adjacent (next :: nodes)) first second →
          Relation.ReflTransGen (Adjacent (head :: next :: nodes)) first second :=
        Relation.ReflTransGen.mono (fun _ _ => Adjacent.mono) _ _
      rcases List.mem_cons.mp listed with rfl | later
      · have onward := lift (ih next next List.mem_cons_self)
        exact .head (adjacent_cons.mpr (.inl ⟨rfl, next, nodes, rfl, rfl⟩)) onward
      · exact lift (ih next node later)

theorem first_leads {step : AgentStep} (listed : step ∈ ordered) {node : PhaseNode}
    (own : node ∈ stepToPhaseNodes compiler step) :
    Relation.ReflTransGen (Linked compiler ordered) (firstId compiler step) node.nodeId := by
  have lift : ∀ first second, Adjacent (stepToPhaseNodes compiler step) first second →
      Linked compiler ordered first second := fun _ _ adjacent => .inside listed adjacent
  cases phases : stepToPhaseNodes compiler step with
  | nil => exact absurd phases (stepToPhaseNodes_ne_nil compiler step)
  | cons head nodes =>
      rw [phases] at own lift
      have same : firstId compiler step = head.nodeId := by simp only [firstId, phases, List.head_cons]
      rw [same]
      exact Relation.ReflTransGen.mono lift _ _ (head_leads nodes head node own)

theorem leads_lastId {step : AgentStep} (listed : step ∈ ordered) {node : PhaseNode}
    (own : node ∈ stepToPhaseNodes compiler step) :
    Relation.ReflTransGen (Linked compiler ordered) node.nodeId (lastId compiler step) := by
  have lift : ∀ first second, Adjacent (stepToPhaseNodes compiler step) first second →
      Linked compiler ordered first second := fun _ _ adjacent => .inside listed adjacent
  cases phases : stepToPhaseNodes compiler step with
  | nil => exact absurd phases (stepToPhaseNodes_ne_nil compiler step)
  | cons head nodes =>
      rw [phases] at own lift
      have same : lastId compiler step =
          ((head :: nodes).getLast (List.cons_ne_nil head nodes)).nodeId := by
        simp only [lastId, phases]
      rw [same]
      exact Relation.ReflTransGen.mono lift _ _ (leads_last nodes head node own)

/-- Every node of a dependency leads to every node of its dependents. -/
theorem depends_leads {first second : AgentStep} (one : first ∈ ordered) (other : second ∈ ordered)
    (depends : first.id ∈ second.dependsOn) {node target : PhaseNode}
    (own : node ∈ stepToPhaseNodes compiler first)
    (aim : target ∈ stepToPhaseNodes compiler second) :
    Relation.TransGen (Linked compiler ordered) node.nodeId target.nodeId :=
  Relation.TransGen.trans_left
    (Relation.TransGen.trans_right (leads_lastId one own) (.single (.across other one depends)))
    (first_leads other aim)

/-! ### Well-formed graphs -/

/-- The shape of the graph of a program. -/
structure WellFormed (compiler : AgentProgramCompiler) (steps : List AgentStep)
    (graph : ExecutionGraph) : Prop where
  distinct : (graph.nodes.map (·.nodeId)).Nodup
  acyclic : ∀ id, ¬Relation.TransGen (ExecutionGraph.Joins graph) id id
  endpoints : ∀ edge ∈ graph.edges, edge.fromNodeId ∈ graph.nodes.map (·.nodeId) ∧
    edge.toNodeId ∈ graph.nodes.map (·.nodeId)
  paths : ∀ first ∈ steps, ∀ second ∈ steps, first.id ∈ second.dependsOn →
    ∀ node ∈ stepToPhaseNodes compiler first, ∀ target ∈ stepToPhaseNodes compiler second,
      Relation.TransGen (ExecutionGraph.Joins graph) node.nodeId target.nodeId

theorem compiled_joins {orders : HashOrders} {program : AgentExecutionGraph}
    (compiled : compile compiler orders steps = .ok program) :
    ∃ ordered : List AgentStep, ordered.Perm steps ∧ InOrder ordered ∧
      program.graph.nodes.map (·.nodeId) = nodeIds compiler ordered ∧
      ExecutionGraph.Joins program.graph = Linked compiler ordered := by
  obtain ⟨ordered, perm, inOrder, nodes, edges⟩ := compile_ok compiler compiled
  refine ⟨ordered, perm, inOrder, by rw [nodes, buildOf_nodeIds], ?_⟩
  funext first second
  exact propext (joins_iff inOrder edges)

theorem Linked.of_subset {first second : String} (inside : ordered ⊆ steps)
    (linked : Linked compiler ordered first second) : Linked compiler steps first second := by
  cases linked with
  | inside listed adjacent => exact .inside (inside listed) adjacent
  | across listed before depends => exact .across (inside listed) (inside before) depends

theorem linked_perm (perm : ordered.Perm steps) : Linked compiler ordered = Linked compiler steps := by
  funext first second
  exact propext ⟨Linked.of_subset perm.subset, Linked.of_subset perm.symm.subset⟩

theorem joins_compiled {orders : HashOrders} {program : AgentExecutionGraph}
    (compiled : compile compiler orders steps = .ok program) :
    ExecutionGraph.Joins program.graph = Linked compiler steps := by
  obtain ⟨ordered, perm, _, _, joins⟩ := compiled_joins compiled
  rw [joins, linked_perm perm]

theorem mem_compiled_nodes {orders : HashOrders} {program : AgentExecutionGraph}
    (compiled : compile compiler orders steps = .ok program) {node : PhaseNode} :
    node ∈ program.graph.nodes ↔ ∃ step ∈ steps, node ∈ stepToPhaseNodes compiler step := by
  obtain ⟨ordered, perm, _, nodes, _⟩ := compile_ok compiler compiled
  simp only [nodes, buildOf_nodes, List.mem_flatMap, perm.mem_iff]

/-- Every edge of a program leads forward in the list of its nodes. -/
theorem compiled_before {orders : HashOrders} {program : AgentExecutionGraph}
    (compiled : compile compiler orders steps = .ok program) {first second : String}
    (joined : ExecutionGraph.Joins program.graph first second) :
    Kahn.Before (program.graph.nodes.map (·.nodeId)) first second := by
  obtain ⟨ordered, _, inOrder, ids, joins⟩ := compiled_joins compiled
  rw [ids]
  rw [joins] at joined
  exact joined.before inOrder

theorem compiled_nodup_iff {orders : HashOrders} {program : AgentExecutionGraph}
    (compiled : compile compiler orders steps = .ok program) :
    (program.graph.nodes.map (·.nodeId)).Nodup ↔ ¬Clash compiler steps := by
  obtain ⟨ordered, perm, inOrder, ids, _⟩ := compiled_joins compiled
  rw [ids, nodeIds_nodup inOrder, Clash.perm perm]

/-- A compiled graph is well formed exactly where no check takes the name of another node. -/
theorem compiled_well_formed_iff (orders : HashOrders) (program : AgentExecutionGraph)
    (compiled : compile compiler orders steps = .ok program) :
    WellFormed compiler steps program.graph ↔ ¬Clash compiler steps := by
  rw [← compiled_nodup_iff compiled]
  constructor
  · exact WellFormed.distinct
  · intro distinct
    refine ⟨distinct, ?_, ?_, ?_⟩
    · exact Kahn.acyclic_of_before distinct fun _ _ => compiled_before compiled
    · intro edge listed
      exact (compiled_before compiled ⟨edge, listed, rfl, rfl⟩).mem
    · intro first one second other depends node own target aim
      rw [joins_compiled compiled]
      exact depends_leads one other depends own aim

def pairSteps : List AgentStep :=
  [plainStep "b" .Generate ["a"], { plainStep "a" .Think [] with requiresVerification := true }]

theorem compiled_well_formed_pair :
    ∃ program, compile {} .listed pairSteps = .ok program ∧
      (WellFormed {} pairSteps program.graph ↔ ¬Clash {} pairSteps) :=
  ⟨_, rfl, compiled_well_formed_iff .listed _ rfl⟩

/-- The check of `s` and the step `s-auto` become nodes of one name. -/
def clashingSteps : List AgentStep :=
  [{ plainStep "s" .Think [] with requiresVerification := true }, plainStep "s-auto" .Verify ["s"]]

theorem compiled_node_ids_repeat : ¬∀ (compiler : AgentProgramCompiler) (orders : HashOrders)
    (steps : List AgentStep) (program : AgentExecutionGraph),
    compile compiler orders steps = .ok program → WellFormed compiler steps program.graph := by
  intro wellFormed
  have formed := wellFormed {} .listed clashingSteps _ rfl
  exact absurd formed.distinct (by decide)

/-! ### Compensations -/

def ExecutionGraph.Succeeds (graph : ExecutionGraph) (first second : String) : Prop :=
  ∃ edge ∈ graph.edges, edge.fromNodeId = first ∧ edge.toNodeId = second ∧
    edge.condition = some .OnSuccess

/-- The compensation of a tool call is not on the way of its success. -/
structure CompensationApart (compiler : AgentProgramCompiler) (steps : List AgentStep)
    (graph : ExecutionGraph) : Prop where
  unreached : ∀ step ∈ steps, step.stepType = .ToolCall → step.sideEffectsReversible = true →
    ∀ tool ∈ stepToPhaseNodes compiler step, ∀ compensation,
      tool.config.compensationPhaseId = some compensation →
        ¬Relation.ReflTransGen (ExecutionGraph.Succeeds graph) tool.nodeId compensation
  dependents : ∀ step ∈ steps, step.stepType = .ToolCall → step.sideEffectsReversible = true →
    ∀ dependent ∈ steps, step.id ∈ dependent.dependsOn →
      (∃ source ∈ stepToPhaseNodes compiler step, ∃ target ∈ stepToPhaseNodes compiler dependent,
        (source.phaseType = .ToolExecute ∨ source.phaseType = .Verify) ∧
          ExecutionGraph.Joins graph source.nodeId target.nodeId) ∧
      ∀ source ∈ stepToPhaseNodes compiler step, ∀ target ∈ stepToPhaseNodes compiler dependent,
        ExecutionGraph.Joins graph source.nodeId target.nodeId → source.phaseType ≠ .Compensate

/-- The compensation is the node after the one of the tool. -/
theorem reversible_pair (compiler : AgentProgramCompiler) {step : AgentStep}
    (tool : step.stepType = .ToolCall) (reversible : step.sideEffectsReversible = true) :
    ∃ front call compensation back,
      stepToPhaseNodes compiler step = front ++ call :: compensation :: back ∧
        call.config.compensationPhaseId = some compensation.nodeId := by
  simp only [stepToPhaseNodes, stepNodes, tool, reversible, if_true, List.append_assoc,
    List.singleton_append]
  exact ⟨_, _, _, _, rfl, rfl⟩

theorem succeeds_of_linked (inOrder : InOrder ordered) {graph : ExecutionGraph}
    (same : graph.edges = (buildOf compiler ordered).edges) {first second : String}
    (linked : Linked compiler ordered first second) :
    ExecutionGraph.Succeeds graph first second := by
  refine ⟨onSuccess first second, ?_, rfl, rfl, rfl⟩
  rw [same]
  exact (mem_buildOf_edges inOrder _).mpr ⟨first, second, linked, rfl⟩

/-- A tool call with reversible side effects leads to its compensation when it succeeds. -/
theorem compensation_apart_iff (orders : HashOrders) (program : AgentExecutionGraph)
    (compiled : compile compiler orders steps = .ok program) :
    CompensationApart compiler steps program.graph ↔
      ∀ step ∈ steps, ¬(step.stepType = .ToolCall ∧ step.sideEffectsReversible = true) := by
  obtain ⟨ordered, perm, inOrder, _, edges⟩ := compile_ok compiler compiled
  constructor
  · rintro apart step listed ⟨tool, reversible⟩
    obtain ⟨front, call, compensation, back, split, named⟩ :=
      reversible_pair compiler tool reversible
    have own : call ∈ stepToPhaseNodes compiler step := by
      rw [split]
      simp
    have linked : Linked compiler ordered call.nodeId compensation.nodeId :=
      .inside (perm.mem_iff.mpr listed) ⟨front, call, compensation, back, split, rfl, rfl⟩
    exact apart.unreached step listed tool reversible call own _ named
      (.single (succeeds_of_linked inOrder edges linked))
  · intro none
    refine ⟨?_, ?_⟩
    · intro step listed tool reversible
      exact absurd ⟨tool, reversible⟩ (none step listed)
    · intro step listed tool reversible
      exact absurd ⟨tool, reversible⟩ (none step listed)

/-- A tool call whose effects stay, and what is made of its result. -/
def toolSteps : List AgentStep :=
  [{ plainStep "t" .ToolCall [] with hasSideEffects := true }, plainStep "g" .Generate ["t"]]

theorem compensation_apart_tool :
    ∃ program, compile {} .listed toolSteps = .ok program ∧
      CompensationApart {} toolSteps program.graph :=
  ⟨_, rfl, (compensation_apart_iff .listed _ rfl).mpr (by decide)⟩

/-- A tool call whose effects can be taken back. -/
def reversibleSteps : List AgentStep :=
  [{ plainStep "t" .ToolCall [] with sideEffectsReversible := true }, plainStep "g" .Generate ["t"]]

theorem compensation_on_success : ¬∀ (compiler : AgentProgramCompiler) (orders : HashOrders)
    (steps : List AgentStep) (program : AgentExecutionGraph),
    compile compiler orders steps = .ok program →
      CompensationApart compiler steps program.graph := by
  intro separated
  have apart := separated {} .listed reversibleSteps _ rfl
  refine apart.unreached _ List.mem_cons_self rfl rfl _ List.mem_cons_self "t-compensate" rfl ?_
  exact .single ⟨onSuccess "t-tool" "t-compensate", List.mem_cons_self, rfl, rfl, rfl⟩

/-! ### Approvals -/

theorem no_approval_marker (step : AgentStep) :
    ∀ node ∈ stepToPhaseNodes compiler step,
      node.config.qualityVerifierPhaseId ≠ some "approval" := by
  have longer (suffix : String) (long : 8 < suffix.length) : step.id ++ suffix ≠ "approval" := by
    intro same
    have lengths := congrArg String.length same
    rw [String.length_append] at lengths
    have short : "approval".length = 8 := by decide
    omega
  have retry := longer "-verify-retry" (by decide)
  have verifier := longer "-verifier" (by decide)
  unfold stepToPhaseNodes stepNodes
  cases step.stepType <;> cases compiler.autoCheckpoint && step.hasSideEffects <;>
    cases step.sideEffectsReversible <;>
    cases compiler.autoVerify && step.requiresVerification <;> simp [retry, verifier]

theorem validate_node (compiler : AgentProgramCompiler) {step : AgentStep} :
    (∃ node ∈ stepToPhaseNodes compiler step, node.phaseType = .Validate) ↔
      step.stepType = .Approval := by
  unfold stepToPhaseNodes stepNodes
  cases step.stepType <;> cases compiler.autoCheckpoint && step.hasSideEffects <;>
    cases step.sideEffectsReversible <;>
    cases compiler.autoVerify && step.requiresVerification <;> simp

/-- A step with side effects of its own. -/
def Effectful (step : AgentStep) : Prop :=
  step.stepType = .Commit ∨ step.stepType = .Compensate ∨
    (step.stepType = .ToolCall ∧ step.hasSideEffects = true)

theorem effect_node (compiler : AgentProgramCompiler) {step : AgentStep} :
    (∃ node ∈ stepToPhaseNodes compiler step, node.config.hasSideEffects = true) ↔
      Effectful step := by
  unfold stepToPhaseNodes stepNodes Effectful
  cases step.stepType <;> cases compiler.autoCheckpoint <;> cases step.hasSideEffects <;>
    cases step.sideEffectsReversible <;>
    cases compiler.autoVerify && step.requiresVerification <;> simp

theorem approvalBoundaries_zero {orders : HashOrders} {program : AgentExecutionGraph}
    (compiled : compile compiler orders steps = .ok program) : program.approvalBoundaries = 0 := by
  obtain ⟨_, _, _, boundaries⟩ := compile_fields compiler compiled
  have none_marked : program.graph.nodes.countP
      (·.config.qualityVerifierPhaseId = some "approval") = 0 := by
    rw [List.countP_eq_zero]
    intro node listed
    obtain ⟨step, _, own⟩ := (mem_compiled_nodes compiled).mp listed
    simpa using no_approval_marker step node own
  rw [boundaries, none_marked, Nat.zero_mod]

/-- A node that a node without incoming edges leads to. -/
def Grounded (compiler : AgentProgramCompiler) (steps : List AgentStep) (id : String) : Prop :=
  ∃ source ∈ nodeIds compiler steps, (∀ first, ¬Linked compiler steps first source) ∧
    Relation.ReflTransGen (Linked compiler steps) source id

theorem nodeIds_perm (perm : ordered.Perm steps) :
    (nodeIds compiler ordered).Perm (nodeIds compiler steps) := perm.flatMap_right _

/-- Where the names are distinct, every node is reached. -/
theorem grounded_of_free (inOrder : InOrder ordered) (free : ¬Clash compiler ordered) :
    ∀ id ∈ nodeIds compiler ordered, Grounded compiler ordered id := by
  have unique := (nodeIds_nodup inOrder).mpr free
  intro id
  induction position : (nodeIds compiler ordered).idxOf id using Nat.strong_induction_on
    generalizing id with
  | _ position ih =>
      intro listed
      by_cases source : ∀ first, ¬Linked compiler ordered first id
      · exact ⟨id, listed, source, .refl⟩
      · obtain ⟨first, linked⟩ : ∃ first, Linked compiler ordered first id := by
          simpa using source
        have before := linked.before inOrder
        have earlier := before.idxOf_lt unique
        rw [position] at earlier
        obtain ⟨source, known, free, path⟩ := ih _ earlier first rfl before.mem.1
        exact ⟨source, known, free, path.tail linked⟩

/-- A node that no edge leads to. -/
def ExecutionGraph.Source (graph : ExecutionGraph) (id : String) : Prop :=
  id ∈ graph.nodes.map (·.nodeId) ∧ ∀ first, ¬ExecutionGraph.Joins graph first id

/-- Every approval is counted, and the effects of a step that requires one wait for it. -/
structure ApprovalGated (compiler : AgentProgramCompiler) (steps : List AgentStep)
    (program : AgentExecutionGraph) : Prop where
  counted : program.approvalBoundaries = program.graph.nodes.countP (·.phaseType = .Validate)
  gated : ∀ step ∈ steps, step.requiresApproval = true →
    ∀ node ∈ stepToPhaseNodes compiler step, node.config.hasSideEffects = true →
      ∀ source path, ExecutionGraph.Source program.graph source →
        (source :: path).IsChain (ExecutionGraph.Joins program.graph) →
        (source :: path).getLast? = some node.nodeId →
          ∃ gate ∈ program.graph.nodes, gate.phaseType = .Validate ∧ gate.nodeId ∈ source :: path

/-- What a program is without, for its approvals to be counted and its effects to be gated. -/
def NoApprovals (compiler : AgentProgramCompiler) (steps : List AgentStep) : Prop :=
  (∀ step ∈ steps, step.stepType ≠ .Approval) ∧
    ∀ step ∈ steps, step.requiresApproval = true →
      ∀ node ∈ stepToPhaseNodes compiler step, node.config.hasSideEffects = true →
        ¬Grounded compiler steps node.nodeId

/-- Where the names of the nodes are distinct, a step that requires an approval has no effects. -/
theorem noApprovals_iff (inOrder : InOrder ordered) (perm : ordered.Perm steps)
    (free : ¬Clash compiler steps) :
    NoApprovals compiler steps ↔ (∀ step ∈ steps, step.stepType ≠ .Approval) ∧
      ∀ step ∈ steps, step.requiresApproval = true → ¬Effectful step := by
  have grounded : ∀ step ∈ steps, ∀ node ∈ stepToPhaseNodes compiler step,
      Grounded compiler steps node.nodeId := by
    intro step listed node own
    have known := mem_nodeIds (perm.mem_iff.mpr listed) own
    obtain ⟨source, member, start, way⟩ :=
      grounded_of_free inOrder (free ∘ (Clash.perm perm).mp) node.nodeId known
    rw [linked_perm perm] at start way
    exact ⟨source, (nodeIds_perm perm).mem_iff.mp member, start, way⟩
  refine and_congr_right fun _ => ?_
  constructor
  · intro ungrounded step listed requires effectful
    obtain ⟨node, own, effect⟩ := (effect_node compiler).mpr effectful
    exact ungrounded step listed requires node own effect (grounded step listed node own)
  · intro effectless step listed requires node own effect
    exact absurd ((effect_node compiler).mp ⟨node, own, effect⟩) (effectless step listed requires)

/-- Approvals are neither counted nor inserted. -/
theorem approvals_gated_iff (orders : HashOrders) (program : AgentExecutionGraph)
    (compiled : compile compiler orders steps = .ok program) :
    (ApprovalGated compiler steps program ↔ NoApprovals compiler steps) ∧
    (¬Clash compiler steps →
      (ApprovalGated compiler steps program ↔ (∀ step ∈ steps, step.stepType ≠ .Approval) ∧
        ∀ step ∈ steps, step.requiresApproval = true → ¬Effectful step)) := by
  obtain ⟨ordered, perm, inOrder, names, _⟩ := compiled_joins compiled
  have ids : ∀ id, id ∈ program.graph.nodes.map (·.nodeId) ↔ id ∈ nodeIds compiler steps := by
    intro id
    rw [names, (nodeIds_perm perm).mem_iff]
  have joins := joins_compiled compiled
  have gates : (∃ gate ∈ program.graph.nodes, gate.phaseType = .Validate) ↔
      ∃ step ∈ steps, step.stepType = .Approval := by
    simp only [mem_compiled_nodes compiled, ← validate_node compiler]
    constructor
    · rintro ⟨gate, ⟨step, listed, own⟩, validates⟩
      exact ⟨step, listed, gate, own, validates⟩
    · rintro ⟨step, listed, gate, own, validates⟩
      exact ⟨gate, ⟨step, listed, own⟩, validates⟩
  have counts : program.approvalBoundaries =
        program.graph.nodes.countP (·.phaseType = .Validate) ↔
      ∀ step ∈ steps, step.stepType ≠ .Approval := by
    rw [approvalBoundaries_zero compiled, eq_comm, List.countP_eq_zero]
    simpa using not_congr gates
  have exactly : ApprovalGated compiler steps program ↔ NoApprovals compiler steps := by
    constructor
    · rintro ⟨counted, gated⟩
      have none := counts.mp counted
      refine ⟨none, ?_⟩
      rintro step listed requires node own effect ⟨source, known, free, way⟩
      obtain ⟨path, chain, last⟩ := List.exists_isChain_cons_of_relationReflTransGen way
      have start : ExecutionGraph.Source program.graph source := by
        refine ⟨(ids source).mpr known, ?_⟩
        rw [joins]
        exact free
      rw [← joins] at chain
      obtain ⟨gate, listed', validates, _⟩ := gated step listed requires node own effect source
        path start chain (by rw [List.getLast?_eq_getLast_of_ne_nil (List.cons_ne_nil _ _), last])
      obtain ⟨step, listed, approval⟩ := gates.mp ⟨gate, listed', validates⟩
      exact none step listed approval
    · rintro ⟨none, ungrounded⟩
      refine ⟨counts.mpr none, ?_⟩
      rintro step listed requires node own effect source path ⟨known, free⟩ chain last
      rw [joins] at chain free
      rw [List.getLast?_eq_getLast_of_ne_nil (List.cons_ne_nil _ _), Option.some.injEq] at last
      have way := List.relationReflTransGen_of_exists_isChain_cons path chain last
      exact absurd ⟨source, (ids source).mp known, free, way⟩
        (ungrounded step listed requires node own effect)
  exact ⟨exactly, fun free => exactly.trans (noApprovals_iff inOrder perm free)⟩

/-- The step that requires an approval has no effects, and the one with effects requires none. -/
def draftSteps : List AgentStep :=
  [{ plainStep "g" .Generate [] with requiresApproval := true }, plainStep "c" .Commit ["g"]]

theorem approvals_gated_draft :
    ∃ program, compile {} .listed draftSteps = .ok program ∧
      ApprovalGated {} draftSteps program := by
  refine ⟨_, rfl, ((approvals_gated_iff .listed _ rfl).2 (by decide)).mpr ⟨by decide, ?_⟩⟩
  unfold Effectful
  decide

/-- An approval, and a commit that requires one and does not wait for it. -/
def approvalSteps : List AgentStep :=
  [plainStep "a" .Approval [], { plainStep "c" .Commit [] with requiresApproval := true }]

theorem approvals_uncounted : ¬∀ (compiler : AgentProgramCompiler) (orders : HashOrders)
    (steps : List AgentStep) (program : AgentExecutionGraph),
    compile compiler orders steps = .ok program → ApprovalGated compiler steps program := by
  intro gates
  have gated := gates {} .listed approvalSteps _ rfl
  exact absurd gated.counted (by decide)

end AgentProgramCompiler

end NousKernel
