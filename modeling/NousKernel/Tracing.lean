import Mathlib.Data.List.Nodup
import NousKernel.Feasibility

/-!
The scheduler core and its decision trace (`nous-scheduler/src/core.rs`) under any
configuration. The trace checks a node as a whole, the placement its pairs.
-/

set_option autoImplicit false

namespace NousKernel

inductive SchedulerPolicySet where
  | deterministic
  | stateAware
  | adaptive
  deriving DecidableEq, Repr

structure SchedulerCoreConfig where
  policySet : SchedulerPolicySet := .deterministic
  learningAuthorized : Bool := false
  deriving DecidableEq, Repr

namespace SchedulerCoreConfig

def effectivePolicySet (config : SchedulerCoreConfig) : SchedulerPolicySet :=
  if config.policySet = .adaptive ∧ config.learningAuthorized = false then .deterministic
  else config.policySet

/-- The policy that the core places with. -/
def policyKind (config : SchedulerCoreConfig) : PolicyKind :=
  match config.effectivePolicySet with
  | .deterministic => .weightedSum
  | .stateAware => .criticalPath
  | .adaptive => .contextualBandit

end SchedulerCoreConfig

/-- The debug name. -/
def SchedulerPolicySet.name : SchedulerPolicySet → String
  | deterministic => "Deterministic"
  | stateAware => "StateAware"
  | adaptive => "Adaptive"

/-- The trace, where the reason of a placement is its formatted text and left out. -/
structure PlacementTrace where
  policy : String
  candidates : List String
  rejections : List CandidateRejection
  selected : Option String
  selectedProvider : Option String
  selectedModel : Option String
  fallbackCandidate : Option String
  capabilityMatch : String
  reason : Option String
  expectedCompletionMs : Option Nat
  expectedCompletion : Option ExpectedCompletionTime
  resourceSnapshot : ResourceVector
  deriving DecidableEq, Repr

def tracedCandidates (workload : WorkloadSpec) (nodes : List NodeInfo) : List String :=
  (nodes.filter fun node => (rejectionOf workload node).isNone).map (·.nodeId)

def tracedRejections (workload : WorkloadSpec) (nodes : List NodeInfo) : List CandidateRejection :=
  nodes.filterMap fun node =>
    (rejectionOf workload node).map fun reason => { candidate := node.nodeId, reason }

def traceOf (policy : String) (placement : Option PolicyPlacement) (workload : WorkloadSpec)
    (nodes : List NodeInfo) : PlacementTrace where
  policy
  candidates := tracedCandidates workload nodes
  rejections := tracedRejections workload nodes
  selected := placement.map (·.nodeId)
  selectedProvider := placement.map (·.engineId)
  selectedModel := placement.map (·.modelRevision)
  fallbackCandidate := (tracedCandidates workload nodes).find? fun candidate =>
    some candidate != placement.map (·.nodeId)
  capabilityMatch :=
    if placement.isSome then "all hard capability constraints satisfied"
    else "no candidate satisfied every hard capability constraint"
  reason := if placement.isSome then none
    else some "no feasible candidate passed hard constraints"
  expectedCompletionMs := placement.map (·.expectedCompletion.totalMs)
  expectedCompletion := placement.map (·.expectedCompletion)
  resourceSnapshot := ((placement.bind fun item =>
    nodes.find? (·.nodeId == item.nodeId)).map (·.allocatable)).getD {}

namespace SchedulerCore

def place (config : SchedulerCoreConfig) (setup : PolicySetup) (workload : WorkloadSpec)
    (nodes : List NodeInfo) : Option PolicyPlacement :=
  PlacementScheduler.place (config.policyKind.policy setup) workload nodes

/-- `SchedulerCore::place_with_trace`. -/
def placeWithTrace (config : SchedulerCoreConfig) (setup : PolicySetup) (workload : WorkloadSpec)
    (nodes : List NodeInfo) : Option PolicyPlacement × PlacementTrace :=
  (place config setup workload nodes,
    traceOf config.effectivePolicySet.name (place config setup workload nodes) workload nodes)

end SchedulerCore

/-- The trace under the default weights has the same candidates and rejections. -/
theorem placeWithTrace_traced (workload : WorkloadSpec) (nodes : List NodeInfo) :
    (placeWithTrace workload nodes).2.candidates = tracedCandidates workload nodes ∧
      (placeWithTrace workload nodes).2.rejections = tracedRejections workload nodes :=
  ⟨rfl, rfl⟩

/-! ### What the trace checks -/

/-- The checks of the trace: of the node, and of its devices and engines apart. -/
structure Traceable (workload : WorkloadSpec) (node : NodeInfo) : Prop
    extends NodeFeasible workload node where
  devices : node.devices ≠ []
  healthy : ∃ engine ∈ node.engines, engine.healthy = true
  capable : ∀ required ∈ workload.requiredCapabilities, ∃ engine ∈ node.engines,
    engine.healthy = true ∧ required ∈ engine.capabilities

/-- One device and one engine of the node pass the checks of a pair. -/
def HasPair (workload : WorkloadSpec) (node : NodeInfo) : Prop :=
  ∃ device ∈ node.devices, ∃ engine ∈ node.engines, PairFeasible workload device engine

/-- The workload can be placed on the node. -/
def Placeable (workload : WorkloadSpec) (node : NodeInfo) : Prop :=
  NodeFeasible workload node ∧ HasPair workload node

section Traces

variable {workload : WorkloadSpec} {nodes : List NodeInfo} {node : NodeInfo}

theorem Placeable.traceable (placeable : Placeable workload node) : Traceable workload node := by
  obtain ⟨passes, device, inDevices, engine, inEngines, pair⟩ := placeable
  exact ⟨passes, List.ne_nil_of_mem inDevices, ⟨engine, inEngines, pair.healthy⟩,
    fun required asked => ⟨engine, inEngines, pair.healthy, pair.capable required asked⟩⟩

theorem rejectionOf_none_iff : rejectionOf workload node = none ↔ Traceable workload node := by
  have away : (workload.modelRequirements.routing = .localOnly ∧ node.isLocal = false) ↔
      ¬ (workload.modelRequirements.routing = .localOnly → node.isLocal = true) := by
    rw [Classical.not_imp, Bool.not_eq_true]
  have unhealthy : (node.engines.all fun engine => !engine.healthy) = true ↔
      ¬ ∃ engine ∈ node.engines, engine.healthy = true := by
    simp
  have incapable : (!workload.requiredCapabilities.all fun required => node.engines.any fun engine =>
      engine.healthy && engine.capabilities.any (· == required)) = true ↔
        ¬ ∀ required ∈ workload.requiredCapabilities, ∃ engine ∈ node.engines,
          engine.healthy = true ∧ required ∈ engine.capabilities := by
    simp
  unfold rejectionOf
  constructor
  · intro accepted
    split at accepted
    · cases accepted
    · rename_i schedulable
      split at accepted
      · cases accepted
      · rename_i near
        split at accepted
        · cases accepted
        · rename_i devices
          split at accepted
          · cases accepted
          · split at accepted
            · cases accepted
            · rename_i healthy
              split at accepted
              · cases accepted
              · rename_i capable
                split at accepted
                · cases accepted
                · rename_i fits
                  refine ⟨⟨?_, ?_, ?_⟩, ?_, ?_, ?_⟩
                  · simpa using schedulable
                  · exact not_not.mp (away.not.mp near)
                  · simpa using fits
                  · simpa using devices
                  · exact not_not.mp (unhealthy.not.mp healthy)
                  · exact not_not.mp (incapable.not.mp capable)
  · intro traceable
    obtain ⟨engine, inEngines, _⟩ := traceable.healthy
    have engines : node.engines.isEmpty = false := by
      rw [List.isEmpty_eq_false_iff]
      exact List.ne_nil_of_mem inEngines
    have devices : node.devices.isEmpty = false := by
      rw [List.isEmpty_eq_false_iff]
      exact traceable.devices
    rw [if_neg (by simp [traceable.schedulable]), if_neg (away.not.mpr (not_not.mpr traceable.nearby)),
      if_neg (by simp [devices]), if_neg (by simp [engines]),
      if_neg (unhealthy.not.mpr (not_not.mpr traceable.healthy)),
      if_neg (incapable.not.mpr (not_not.mpr traceable.capable)), if_neg (by simp [traceable.fits])]

theorem mem_tracedCandidates {id : String} :
    id ∈ tracedCandidates workload nodes ↔
      ∃ node ∈ nodes, node.nodeId = id ∧ Traceable workload node := by
  simp only [tracedCandidates, List.mem_map, List.mem_filter, Option.isNone_iff_eq_none,
    rejectionOf_none_iff]
  constructor
  · rintro ⟨node, ⟨member, traceable⟩, same⟩
    exact ⟨node, member, same, traceable⟩
  · rintro ⟨node, member, same, traceable⟩
    exact ⟨node, ⟨member, traceable⟩, same⟩

/-- The rejections under an id that no node has. -/
theorem rejections_of_others {id : String} (others : ∀ node ∈ nodes, node.nodeId ≠ id) :
    (tracedRejections workload nodes).filter (fun rejection => rejection.candidate = id) = [] := by
  apply List.filter_eq_nil_iff.mpr
  intro rejection member
  obtain ⟨node, inNodes, made⟩ := List.mem_filterMap.mp member
  obtain ⟨reason, _, rfl⟩ := Option.map_eq_some_iff.mp made
  simpa using others node inNodes

/-- A node that is not traceable is rejected once where ids are distinct. -/
theorem rejections_once (distinct : (nodes.map (·.nodeId)).Nodup) (member : node ∈ nodes)
    (refused : ¬ Traceable workload node) :
    ((tracedRejections workload nodes).filter fun rejection =>
      rejection.candidate = node.nodeId).length = 1 := by
  obtain ⟨front, back, rfl⟩ := List.append_of_mem member
  rw [List.map_append, List.map_cons, List.nodup_append] at distinct
  obtain ⟨_, later, apart⟩ := distinct
  have inFront : ∀ other ∈ front, other.nodeId ≠ node.nodeId := fun other found =>
    apart _ (List.mem_map_of_mem found) _ (.head _)
  have inBack : ∀ other ∈ back, other.nodeId ≠ node.nodeId := by
    intro other found same
    exact (List.nodup_cons.mp later).1 (List.mem_map.mpr ⟨other, found, same⟩)
  obtain ⟨reason, rejected⟩ : ∃ reason, rejectionOf workload node = some reason :=
    Option.ne_none_iff_exists'.mp fun none => refused (rejectionOf_none_iff.mp none)
  have split : tracedRejections workload (front ++ node :: back) =
      tracedRejections workload front ++
        ⟨node.nodeId, reason⟩ :: tracedRejections workload back := by
    simp [tracedRejections, rejected]
  rw [split, List.filter_append, List.filter_cons_of_pos (by simp), rejections_of_others inFront,
    rejections_of_others inBack]
  rfl

end Traces

/-! ### What the trace explains -/

/-- The trace explains the placement: its candidates are the nodes that the workload can be
placed on, the others are rejected once each, the selected node is a candidate, and the
fallback is another node the workload can be placed on. -/
structure Explains (workload : WorkloadSpec) (nodes : List NodeInfo)
    (result : Option PolicyPlacement × PlacementTrace) : Prop where
  candidates : ∀ id, id ∈ result.2.candidates ↔
    ∃ node ∈ nodes, node.nodeId = id ∧ Placeable workload node
  rejections : ∀ node ∈ nodes, ¬ Placeable workload node →
    (result.2.rejections.filter fun rejection => rejection.candidate = node.nodeId).length = 1
  selected : result.2.selected.isSome = true ↔ result.1.isSome = true
  selected_mem : ∀ id, result.2.selected = some id → id ∈ result.2.candidates
  fallback : ∀ id, result.2.fallbackCandidate = some id →
    result.2.selected ≠ some id ∧ ∃ node ∈ nodes, node.nodeId = id ∧ Placeable workload node

/-- The selected node is a candidate, whatever the checks of the trace leave out. -/
theorem traced_selected {config : SchedulerCoreConfig} {setup : PolicySetup}
    {workload : WorkloadSpec} {nodes : List NodeInfo} {id : String}
    (selected : (SchedulerCore.place config setup workload nodes).map (·.nodeId) = some id) :
    ∃ node ∈ nodes, node.nodeId = id ∧ Placeable workload node := by
  obtain ⟨placement, placed, rfl⟩ := Option.map_eq_some_iff.mp selected
  obtain ⟨node, inNodes, device, inDevices, engine, inEngines, nodeId, _, _, feasible, _⟩ :=
    placeSelected_feasible (fun _ _ => PolicyKind.selected_mem) placed
  exact ⟨node, inNodes, nodeId, feasible.toNodeFeasible, device, inDevices, engine, inEngines,
    feasible.toPairFeasible⟩

/-- The trace explains the placement exactly when each node that passes its checks also
has a device and an engine that pass those of a pair. -/
theorem trace_explains_iff (config : SchedulerCoreConfig) (setup : PolicySetup)
    (workload : WorkloadSpec) (nodes : List NodeInfo) (distinct : (nodes.map (·.nodeId)).Nodup) :
    Explains workload nodes (SchedulerCore.placeWithTrace config setup workload nodes) ↔
      ∀ node ∈ nodes, Traceable workload node → HasPair workload node := by
  constructor
  · intro explains node member traceable
    have listed := mem_tracedCandidates.mpr ⟨node, member, rfl, traceable⟩
    obtain ⟨other, inNodes, same, placeable⟩ := (explains.candidates node.nodeId).mp listed
    have identical : other = node :=
      List.inj_on_of_nodup_map distinct inNodes member same
    exact identical ▸ placeable.2
  · intro paired
    have placeable : ∀ node ∈ nodes, (Traceable workload node ↔ Placeable workload node) :=
      fun node member => ⟨fun traceable => ⟨traceable.toNodeFeasible, paired node member traceable⟩,
        Placeable.traceable⟩
    have candidates : ∀ id, id ∈ tracedCandidates workload nodes ↔
        ∃ node ∈ nodes, node.nodeId = id ∧ Placeable workload node := by
      intro id
      rw [mem_tracedCandidates]
      constructor
      · rintro ⟨node, member, same, traceable⟩
        exact ⟨node, member, same, (placeable node member).mp traceable⟩
      · rintro ⟨node, member, same, able⟩
        exact ⟨node, member, same, able.traceable⟩
    refine ⟨candidates, ?_, ?_, ?_, ?_⟩
    · intro node member unplaceable
      exact rejections_once distinct member fun traceable =>
        unplaceable ((placeable node member).mp traceable)
    · show ((SchedulerCore.place config setup workload nodes).map _).isSome = true ↔ _
      rw [Option.isSome_map]
      rfl
    · intro id selected
      exact (candidates id).mpr (traced_selected selected)
    · intro id fallback
      refine ⟨?_, (candidates id).mp (List.mem_of_find?_eq_some fallback)⟩
      intro selected
      have different := List.find?_some fallback
      rw [bne_iff_ne] at different
      exact different selected.symm

/-- The first node is rejected, and the second one is selected. -/
theorem trace_explains_second : Explains cudaWorkload servingNodes
    (SchedulerCore.placeWithTrace {} levelSetup cudaWorkload servingNodes) := by
  apply (trace_explains_iff {} levelSetup cudaWorkload servingNodes (by decide)).mpr
  intro node member traceable
  rcases List.mem_pair.mp member with rfl | rfl
  · exact absurd traceable.fits (by decide)
  · refine ⟨_, .head _, _, .head _, rfl, ?_, .inr ⟨.cuda, .tail _ (.head _), ?_⟩, ?_⟩
    · decide
    · decide +kernel
    · decide

/-- A workload that needs device memory. -/
def deviceWorkload : WorkloadSpec := { minimum := { deviceMemoryBytes := 2048 } }

/-- No device of the node has the memory, and the trace names the node as a candidate. -/
theorem trace_misleads :
    ¬ Explains deviceWorkload [sampleNode { deviceMemoryBytes := 4096 } 1024]
      (SchedulerCore.placeWithTrace {} levelSetup deviceWorkload
        [sampleNode { deviceMemoryBytes := 4096 } 1024]) := by
  intro explains
  have listed := (explains.candidates "node-1").mp (by decide +kernel)
  obtain ⟨node, member, _, _, device, inDevices, _, _, pair⟩ := listed
  rw [List.mem_singleton.mp member] at inDevices
  rw [List.mem_singleton.mp inDevices] at pair
  exact absurd pair.vram (by decide)

end NousKernel
