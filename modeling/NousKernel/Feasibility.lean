import NousKernel.Policies

/-!
What the policies keep of feasibility: a placement passes the hard constraints, and how
far a selection honours the filter of its own policy.
-/

set_option autoImplicit false

namespace NousKernel

/-! ### Sound placement -/

/-- One vector is within another in every dimension. -/
structure ResourceVector.Within (required capacity : ResourceVector) : Prop where
  cpuCoresMillis : required.cpuCoresMillis ≤ capacity.cpuCoresMillis
  cpuTimeUs : required.cpuTimeUs ≤ capacity.cpuTimeUs
  ramBytes : required.ramBytes ≤ capacity.ramBytes
  pinnedRamBytes : required.pinnedRamBytes ≤ capacity.pinnedRamBytes
  deviceMemoryBytes : required.deviceMemoryBytes ≤ capacity.deviceMemoryBytes
  kvCacheBytes : required.kvCacheBytes ≤ capacity.kvCacheBytes
  storageBytes : required.storageBytes ≤ capacity.storageBytes
  memoryBandwidthBps : required.memoryBandwidthBps ≤ capacity.memoryBandwidthBps
  interconnectBandwidthBps : required.interconnectBandwidthBps ≤ capacity.interconnectBandwidthBps
  networkBandwidthBps : required.networkBandwidthBps ≤ capacity.networkBandwidthBps
  powerMilliwatts : required.powerMilliwatts ≤ capacity.powerMilliwatts
  thermalBudgetMillic : required.thermalBudgetMillic ≤ capacity.thermalBudgetMillic
  timeBudgetUs : required.timeBudgetUs ≤ capacity.timeBudgetUs

theorem ResourceVector.fitsWithin_iff {self capacity : ResourceVector} :
    self.fitsWithin capacity = true ↔ self.Within capacity := by
  simp only [fitsWithin, Bool.and_eq_true, decide_eq_true_eq]
  constructor
  · rintro ⟨⟨⟨⟨⟨⟨⟨⟨⟨⟨⟨⟨h1, h2⟩, h3⟩, h4⟩, h5⟩, h6⟩, h7⟩, h8⟩, h9⟩, h10⟩, h11⟩, h12⟩, h13⟩
    exact ⟨h1, h2, h3, h4, h5, h6, h7, h8, h9, h10, h11, h12, h13⟩
  · rintro ⟨h1, h2, h3, h4, h5, h6, h7, h8, h9, h10, h11, h12, h13⟩
    exact ⟨⟨⟨⟨⟨⟨⟨⟨⟨⟨⟨⟨h1, h2⟩, h3⟩, h4⟩, h5⟩, h6⟩, h7⟩, h8⟩, h9⟩, h10⟩, h11⟩, h12⟩, h13⟩

/-- A selection out of the candidates places on a pair that passes the constraints. -/
theorem placeSelected_feasible {select : List SchedulerCandidate → Option SchedulerCandidate}
    {workload : WorkloadSpec} {nodes : List NodeInfo} {placement : PolicyPlacement}
    (member : ∀ candidates c, select candidates = some c → c ∈ candidates)
    (placed : placeSelected select workload nodes = some placement) :
    ∃ node ∈ nodes, ∃ device ∈ node.devices, ∃ engine ∈ node.engines,
      node.nodeId = placement.nodeId ∧ device.deviceId = placement.deviceId ∧
      engine.engineId = placement.engineId ∧ Feasible workload node device engine ∧
      placement.resourcesReserved = workload.minimum := by
  obtain ⟨c, selected, rfl⟩ := Option.map_eq_some_iff.mp placed
  obtain ⟨node, inNodes, listed⟩ := List.mem_flatMap.mp (member _ _ selected)
  obtain ⟨passes, device, inDevices, engine, inEngines, found⟩ := mem_nodeCandidates.mp listed
  obtain ⟨nodeId, deviceId, engineId, required, _⟩ := candidateOf_spec found
  have pair := candidateOf_isSome_iff.mp (Option.isSome_of_eq_some found)
  exact ⟨node, inNodes, device, inDevices, engine, inEngines, nodeId.symm, deviceId.symm,
    engineId.symm, ⟨passes, pair⟩, required⟩

/-- Whatever the policy, its scores and its sort are, a placement passes every hard
constraint and reserves the minimum. -/
theorem placement_sound (kind : PolicyKind) (setup : PolicySetup) (workload : WorkloadSpec)
    (nodes : List NodeInfo) (placement : PolicyPlacement)
    (placed : PlacementScheduler.place (kind.policy setup) workload nodes = some placement) :
    ∃ node ∈ nodes, ∃ device ∈ node.devices, ∃ engine ∈ node.engines,
      node.nodeId = placement.nodeId ∧ device.deviceId = placement.deviceId ∧
      engine.engineId = placement.engineId ∧
      node.connectionState.schedulable = true ∧
      (workload.modelRequirements.routing = .localOnly → node.isLocal = true) ∧
      workload.minimum.Within node.allocatable ∧
      engine.healthy = true ∧
      (∀ required ∈ workload.requiredCapabilities, required ∈ engine.capabilities) ∧
      (workload.allowedDeviceTypes = [] ∨
        ∃ type ∈ workload.allowedDeviceTypes, type.lowercase = toLowercase device.deviceType) ∧
      workload.minimum.deviceMemoryBytes ≤ device.freeVram ∧
      placement.resourcesReserved = workload.minimum := by
  obtain ⟨node, inNodes, device, inDevices, engine, inEngines, nodeId, deviceId, engineId,
    feasible, reserved⟩ := placeSelected_feasible (fun _ _ => PolicyKind.selected_mem) placed
  exact ⟨node, inNodes, device, inDevices, engine, inEngines, nodeId, deviceId, engineId,
    feasible.schedulable, feasible.nearby, ResourceVector.fitsWithin_iff.mp feasible.fits,
    feasible.healthy, feasible.capable, feasible.deviceType, feasible.vram, reserved⟩

/-- A node with one device and one engine. -/
def sampleNode (allocatable : ResourceVector) (freeVram : Nat) : NodeInfo where
  nodeId := "node-1"
  allocatable
  devices := [⟨"gpu-1", "cuda", freeVram, 0⟩]
  engines := [⟨"engine-1", ["model-1"], 0, 1, ["chat"], true, 0, 0, 0, 100, 60, 0⟩]
  isLocal := true
  connectionState := .connected

/-- All scores are zero, and the sort leaves the candidates in place. -/
def levelSetup : PolicySetup where
  score := fun _ => 0#64
  sorting := ⟨id, fun _ => .rfl⟩
  cached := fun _ => true

theorem levelSetup_finite (c : SchedulerCandidate) : (levelSetup.score c).isFinite = true :=
  show Binary64.isFinite 0#64 = true by decide

/-- A workload that needs a capability, a type of device and memory on the device. -/
def cudaWorkload : WorkloadSpec where
  requiredCapabilities := ["chat"]
  allowedDeviceTypes := [.metal, .cuda]
  minimum := { deviceMemoryBytes := 2048 }

/-- Of these nodes only the second one has the memory. -/
def servingNodes : List NodeInfo :=
  [sampleNode { deviceMemoryBytes := 1024 } 1024,
    { sampleNode { deviceMemoryBytes := 4096 } 4096 with nodeId := "node-2" }]

theorem placement_sound_second : ∃ placement,
    PlacementScheduler.place (PolicyKind.policy levelSetup .weightedSum) cudaWorkload
      servingNodes = some placement ∧ placement.nodeId = "node-2" ∧
    (∃ node ∈ servingNodes, node.nodeId = "node-2" ∧
      cudaWorkload.minimum.Within node.allocatable) ∧
    placement.resourcesReserved = cudaWorkload.minimum := by
  have placed : PlacementScheduler.place (PolicyKind.policy levelSetup .weightedSum) cudaWorkload
      servingNodes = some (placementOf servingNodes
        { nodeId := "node-2", deviceId := "gpu-1", engineId := "engine-1", modelRevision := ""
          resourcesAvailable := { deviceMemoryBytes := 4096 }
          resourcesRequired := { deviceMemoryBytes := 2048 }
          estimatedTtftMs := 200, estimatedTps := 60, estimatedCostMicrocents := 0
          estimatedQuality := 7 / 10, kvCacheHitRate := 0, engineLoad := (0 : Nat) / max (1 : Nat) 1
          deviceUtilization := 0 }) := by
    decide +kernel
  obtain ⟨node, member, _, _, _, _, same, _, _, _, _, fits, _, _, _, _, reserved⟩ :=
    placement_sound .weightedSum levelSetup cudaWorkload servingNodes _ placed
  exact ⟨_, placed, rfl, ⟨node, member, same, fits⟩, reserved⟩

/-! ### Complete placement -/

/-- A pair of some node passes the hard constraints. -/
def HasFeasible (workload : WorkloadSpec) (nodes : List NodeInfo) : Prop :=
  ∃ node ∈ nodes, ∃ device ∈ node.devices, ∃ engine ∈ node.engines,
    Feasible workload node device engine

/-- Nothing is required in the dimensions that a candidate's vector leaves out. -/
structure ResourceVector.Narrow (required : ResourceVector) : Prop where
  cpuTimeUs : required.cpuTimeUs = 0
  pinnedRamBytes : required.pinnedRamBytes = 0
  storageBytes : required.storageBytes = 0
  memoryBandwidthBps : required.memoryBandwidthBps = 0
  interconnectBandwidthBps : required.interconnectBandwidthBps = 0
  networkBandwidthBps : required.networkBandwidthBps = 0
  powerMilliwatts : required.powerMilliwatts = 0
  thermalBudgetMillic : required.thermalBudgetMillic = 0
  timeBudgetUs : required.timeBudgetUs = 0

/-- The policies whose selection goes through their filter. -/
def PolicyKind.filters : PolicyKind → Prop
  | .fifo | .pareto => True
  | _ => False

section Complete

variable {workload : WorkloadSpec} {nodes : List NodeInfo} {setup : PolicySetup}

/-- The second test, on the rebuilt vector, asks for nothing in nine dimensions. -/
theorem fits_iff_narrow {node : NodeInfo} {device : DevicePlacementInfo}
    {engine : EnginePlacementInfo} {c : SchedulerCandidate}
    (feasible : Feasible workload node device engine)
    (found : candidateOf workload node device engine = some c) :
    c.fits = true ↔ workload.minimum.Narrow := by
  obtain ⟨_, _, _, required, available⟩ := candidateOf_spec found
  have within := ResourceVector.fitsWithin_iff.mp feasible.fits
  rw [SchedulerCandidate.fits, ResourceVector.fitsWithin_iff, required, available]
  constructor
  · intro fits
    exact ⟨Nat.le_zero.mp fits.cpuTimeUs, Nat.le_zero.mp fits.pinnedRamBytes,
      Nat.le_zero.mp fits.storageBytes, Nat.le_zero.mp fits.memoryBandwidthBps,
      Nat.le_zero.mp fits.interconnectBandwidthBps, Nat.le_zero.mp fits.networkBandwidthBps,
      Nat.le_zero.mp fits.powerMilliwatts, Nat.le_zero.mp fits.thermalBudgetMillic,
      Nat.le_zero.mp fits.timeBudgetUs⟩
  · intro narrow
    exact ⟨within.cpuCoresMillis, Nat.le_of_eq narrow.cpuTimeUs, within.ramBytes,
      Nat.le_of_eq narrow.pinnedRamBytes, feasible.vram, within.kvCacheBytes,
      Nat.le_of_eq narrow.storageBytes, Nat.le_of_eq narrow.memoryBandwidthBps,
      Nat.le_of_eq narrow.interconnectBandwidthBps, Nat.le_of_eq narrow.networkBandwidthBps,
      Nat.le_of_eq narrow.powerMilliwatts, Nat.le_of_eq narrow.thermalBudgetMillic,
      Nat.le_of_eq narrow.timeBudgetUs⟩

/-- Some candidate passes the second test exactly when the minimum is narrow. -/
theorem exists_fits_iff :
    (∃ c ∈ nodes.flatMap (nodeCandidates workload), c.fits = true) ↔
      HasFeasible workload nodes ∧ workload.minimum.Narrow := by
  constructor
  · rintro ⟨c, member, fits⟩
    obtain ⟨node, inNodes, listed⟩ := List.mem_flatMap.mp member
    obtain ⟨passes, device, inDevices, engine, inEngines, found⟩ := mem_nodeCandidates.mp listed
    have feasible : Feasible workload node device engine :=
      ⟨passes, candidateOf_isSome_iff.mp (Option.isSome_of_eq_some found)⟩
    exact ⟨⟨node, inNodes, device, inDevices, engine, inEngines, feasible⟩,
      (fits_iff_narrow feasible found).mp fits⟩
  · rintro ⟨⟨node, inNodes, device, inDevices, engine, inEngines, feasible⟩, narrow⟩
    have some : (candidateOf workload node device engine).isSome = true :=
      candidateOf_isSome_iff.mpr feasible.toPairFeasible
    obtain ⟨c, found⟩ := Option.isSome_iff_exists.mp some
    refine ⟨c, ?_, (fits_iff_narrow feasible found).mpr narrow⟩
    exact List.mem_flatMap.mpr ⟨node, inNodes,
      mem_nodeCandidates.mpr ⟨feasible.toNodeFeasible, device, inDevices, engine, inEngines, found⟩⟩

/-- When a policy with finite scores selects. -/
theorem PolicyKind.selects_iff (kind : PolicyKind) {candidates : List SchedulerCandidate}
    (finite : ∀ c ∈ candidates, (setup.score c).isFinite = true) :
    ((kind.policy setup).select candidates).selected.isSome = true ↔
      candidates ≠ [] ∧ (kind.filters → ∃ c ∈ candidates, c.fits = true) := by
  have ofFirst : ∀ {outside fallback}, (Policy.selectFirst (indicesWhere SchedulerCandidate.fits)
      outside fallback candidates).selected.isSome = true ↔
        candidates ≠ [] ∧ (True → ∃ c ∈ candidates, c.fits = true) := by
    intro outside fallback
    rw [← Option.ne_none_iff_isSome, ne_eq, Policy.selectFirst_none_iff]
    constructor
    · intro some
      have fitting : ∃ c ∈ candidates, c.fits = true := by
        by_contra none
        exact some fun c member => by simpa using fun fits => none ⟨c, member, fits⟩
      obtain ⟨c, member, fits⟩ := fitting
      exact ⟨List.ne_nil_of_mem member, fun _ => ⟨c, member, fits⟩⟩
    · rintro ⟨_, fitting⟩ none
      obtain ⟨c, member, fits⟩ := fitting trivial
      rw [none c member] at fits
      cases fits
  have ofSorted : ∀ {fallback}, (Policy.selectSorted setup.sorting fallback
      candidates).selected.isSome = true ↔
        candidates ≠ [] ∧ (False → ∃ c ∈ candidates, c.fits = true) := by
    intro fallback
    rw [← Option.ne_none_iff_isSome, Policy.selectSorted, ne_eq, Sorting.head_none_iff]
    exact ⟨fun nonempty => ⟨nonempty, False.elim⟩, And.left⟩
  cases kind with
  | fifo | pareto => exact ofFirst
  | weightedSum =>
      have all : candidates.filter (fun c => (setup.score c).exceeds .negInfinity) = candidates :=
        List.filter_eq_self.mpr fun c member => Binary64.exceeds_negInfinity (finite c member)
      rw [policy, Policy.weightedSum_selected, all, ← Option.ne_none_iff_isSome, ne_eq,
        Ranking.first_none_iff]
      exact ⟨fun nonempty => ⟨nonempty, False.elim⟩, And.left⟩
  | priority | multiplicative | cacheAware | deadlineAware | criticalPath | contextualBandit =>
      exact ofSorted

/-- When a policy with finite scores places. -/
theorem place_isSome_iff (kind : PolicyKind)
    (finite : ∀ c ∈ nodes.flatMap (nodeCandidates workload), (setup.score c).isFinite = true) :
    (PlacementScheduler.place (kind.policy setup) workload nodes).isSome = true ↔
      HasFeasible workload nodes ∧ (kind.filters → workload.minimum.Narrow) := by
  rw [PlacementScheduler.place, placeSelected, Option.isSome_map, kind.selects_iff finite,
    candidates_nonempty_iff, exists_fits_iff]
  exact ⟨fun both => ⟨both.1, fun filters => (both.2 filters).2⟩,
    fun both => ⟨both.1, fun filters => ⟨both.1, both.2 filters⟩⟩⟩

end Complete

/-- A policy with finite scores places exactly what is feasible, unless it is one of the
two that filter, a pair is feasible and the minimum is not narrow. Outside that all
policies agree, and there two do not. -/
theorem placement_complete_iff (workload : WorkloadSpec) (nodes : List NodeInfo) :
    (∀ (kind : PolicyKind) (setup : PolicySetup),
      (∀ c ∈ nodes.flatMap (nodeCandidates workload), (setup.score c).isFinite = true) →
      (((PlacementScheduler.place (kind.policy setup) workload nodes).isSome = true ↔
          HasFeasible workload nodes) ↔
        (kind.filters → HasFeasible workload nodes → workload.minimum.Narrow))) ∧
    ((∀ (kind kind' : PolicyKind) (setup setup' : PolicySetup),
        (∀ c ∈ nodes.flatMap (nodeCandidates workload), (setup.score c).isFinite = true) →
        (∀ c ∈ nodes.flatMap (nodeCandidates workload), (setup'.score c).isFinite = true) →
        ((PlacementScheduler.place (kind.policy setup) workload nodes).isSome = true ↔
          (PlacementScheduler.place (kind'.policy setup') workload nodes).isSome = true)) ↔
      (HasFeasible workload nodes → workload.minimum.Narrow)) := by
  constructor
  · intro kind setup finite
    rw [place_isSome_iff kind finite]
    constructor
    · intro complete filters feasible
      exact (complete.mpr feasible).2 filters
    · intro narrow
      exact ⟨And.left, fun feasible => ⟨feasible, fun filters => narrow filters feasible⟩⟩
  · constructor
    · intro agree feasible
      have finite : ∀ c ∈ nodes.flatMap (nodeCandidates workload),
          (levelSetup.score c).isFinite = true := fun c _ => levelSetup_finite c
      have same := agree .fifo .multiplicative levelSetup levelSetup finite finite
      rw [place_isSome_iff _ finite, place_isSome_iff _ finite] at same
      exact (same.mpr ⟨feasible, False.elim⟩).2 trivial
    · intro narrow kind kind' setup setup' finite finite'
      rw [place_isSome_iff kind finite, place_isSome_iff kind' finite']
      exact ⟨fun both => ⟨both.1, fun _ => narrow both.1⟩, fun both => ⟨both.1, fun _ => narrow both.1⟩⟩

/-- A workload that needs storage. -/
def storedWorkload : WorkloadSpec := { minimum := { storageBytes := 1 } }

theorem placement_complete_sample :
    (∃ node ∈ [sampleNode { storageBytes := 1 } 1024], ∃ device ∈ node.devices,
      ∃ engine ∈ node.engines, Feasible storedWorkload node device engine) ∧
    ¬ ((PlacementScheduler.place (PolicyKind.policy levelSetup .fifo) storedWorkload
        [sampleNode { storageBytes := 1 } 1024]).isSome = true ↔
      HasFeasible storedWorkload [sampleNode { storageBytes := 1 } 1024]) := by
  have feasible : HasFeasible storedWorkload [sampleNode { storageBytes := 1 } 1024] :=
    ⟨_, .head _, _, .head _, _, .head _, ⟨⟨rfl, nofun, rfl⟩, rfl, nofun, .inl rfl, Nat.zero_le _⟩⟩
  refine ⟨feasible, ?_⟩
  rw [(placement_complete_iff storedWorkload [sampleNode { storageBytes := 1 } 1024]).1 .fifo
    levelSetup fun c _ => levelSetup_finite c]
  intro narrow
  cases (narrow trivial feasible).storageBytes

/-- The policy that filters refuses what is feasible. -/
theorem placement_incomplete :
    ¬ ∀ (kind : PolicyKind) (setup : PolicySetup),
      (∀ c ∈ [sampleNode { storageBytes := 1 } 1024].flatMap (nodeCandidates storedWorkload),
        (setup.score c).isFinite = true) →
      ((PlacementScheduler.place (kind.policy setup) storedWorkload
          [sampleNode { storageBytes := 1 } 1024]).isSome = true ↔
        HasFeasible storedWorkload [sampleNode { storageBytes := 1 } 1024]) := by
  intro complete
  have feasible : HasFeasible storedWorkload [sampleNode { storageBytes := 1 } 1024] :=
    ⟨_, .head _, _, .head _, _, .head _, ⟨⟨rfl, nofun, rfl⟩, rfl, nofun, .inl rfl, Nat.zero_le _⟩⟩
  have placed := (complete .fifo levelSetup fun c _ => levelSetup_finite c).mpr feasible
  rw [place_isSome_iff .fifo fun c _ => levelSetup_finite c] at placed
  cases (placed.2 trivial).storageBytes

/-! ### Honouring the filter -/

/-- The selection is a candidate that the filter accepts, and none where it accepts none. -/
def SchedulerPolicy.Honours (policy : SchedulerPolicy) (candidates : List SchedulerCandidate) :
    Prop :=
  (∀ c, (policy.select candidates).selected = some c →
    ∃ index ∈ policy.filter candidates, candidates[index]? = some c) ∧
  (policy.filter candidates = [] → (policy.select candidates).selected = none)

/-- The check of a policy's filter. -/
def PolicyKind.accepts (cached : SchedulerCandidate → Bool) : PolicyKind → SchedulerCandidate → Bool
  | .priority, _ => true
  | .cacheAware, c => c.fits && cached c
  | _, c => c.fits

/-- The candidates whose scores a policy compares. -/
def PolicyKind.contenders (score : SchedulerCandidate → Binary64)
    (candidates : List SchedulerCandidate) : PolicyKind → List SchedulerCandidate
  | .weightedSum => candidates.filter fun c => (score c).exceeds .negInfinity
  | _ => candidates

/-- The order in which a policy compares scores. -/
def PolicyKind.rank (score : SchedulerCandidate → Binary64) : PolicyKind → SchedulerCandidate → Int
  | .weightedSum, c => (score c).numberKey
  | _, c => (score c).totalKey

section Honours

variable {score : SchedulerCandidate → Binary64} {cached : SchedulerCandidate → Bool}
  {candidates : List SchedulerCandidate}

theorem PolicyKind.filter_eq (kind : PolicyKind) (setup : PolicySetup) :
    (kind.policy setup).filter = indicesWhere (kind.accepts setup.cached) := by
  cases kind <;> rfl

theorem PolicyKind.honours_iff (kind : PolicyKind) (setup : PolicySetup) :
    (kind.policy setup).Honours candidates ↔
      ∀ c, ((kind.policy setup).select candidates).selected = some c →
        kind.accepts setup.cached c = true := by
  unfold SchedulerPolicy.Honours
  rw [kind.filter_eq]
  constructor
  · rintro ⟨honours, _⟩ c selected
    obtain ⟨index, listed, there⟩ := honours c selected
    obtain ⟨d, here, accepted⟩ := mem_indicesWhere.mp listed
    rw [there, Option.some.injEq] at here
    exact here ▸ accepted
  · intro accepted
    have honours : ∀ c, ((kind.policy setup).select candidates).selected = some c →
        ∃ index ∈ indicesWhere (kind.accepts setup.cached) candidates,
          candidates[index]? = some c := by
      intro c selected
      obtain ⟨index, there⟩ := List.getElem?_of_mem (selected_mem selected)
      exact ⟨index, mem_indicesWhere.mpr ⟨c, there, accepted c selected⟩, there⟩
    refine ⟨honours, ?_⟩
    intro empty
    cases selected : ((kind.policy setup).select candidates).selected with
    | none => rfl
    | some c =>
        obtain ⟨index, listed, _⟩ := honours c selected
        rw [empty] at listed
        cases listed

/-- A policy that does not filter selects the first of the best of its contenders. -/
theorem PolicyKind.selected_eq (kind : PolicyKind) (score : SchedulerCandidate → Binary64)
    (cached : SchedulerCandidate → Bool) (unfiltered : ¬ kind.filters) :
    ((kind.policy (.scored score cached)).select candidates).selected =
      Ranking.first (kind.rank score) (kind.contenders score candidates) := by
  have ofSorted : ∀ {fallback}, (Policy.selectSorted (.byScore score) fallback
      candidates).selected = Ranking.first (fun c => (score c).totalKey) candidates :=
    Ranking.head_sortDescending _ candidates
  cases kind with
  | fifo | pareto => exact absurd trivial unfiltered
  | weightedSum => exact Policy.weightedSum_selected score candidates
  | priority | multiplicative | cacheAware | deadlineAware | criticalPath | contextualBandit =>
      exact ofSorted

end Honours

/-- A candidate without enough memory. -/
def tightCandidate : SchedulerCandidate where
  nodeId := "node-1"
  deviceId := "gpu-1"
  engineId := "engine-1"
  modelRevision := "model-1"
  resourcesAvailable := { deviceMemoryBytes := 1024 }
  resourcesRequired := { deviceMemoryBytes := 2048 }
  estimatedTtftMs := 200
  estimatedTps := 60
  estimatedCostMicrocents := 0
  estimatedQuality := 7 / 10
  kvCacheHitRate := 0
  engineLoad := 0
  deviceUtilization := 0

end NousKernel
