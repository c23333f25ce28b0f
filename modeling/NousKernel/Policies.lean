import NousKernel.Placement
import NousKernel.Ranking

/-!
The baseline policies (`nous-scheduler/src/policy.rs`) and placement under any of them.
A policy's arithmetic is a parameter: its scores are any floats, and a sort that
compares them is any rearrangement.
-/

set_option autoImplicit false

namespace NousKernel

/-! ### The policies -/

inductive FallbackStrategy where
  | tryNextBest
  | degradeModel
  | queueAndWait
  | reject
  deriving DecidableEq, Repr

/-- The interval of the score, which is arithmetic on it that nothing reads, is left out. -/
structure ScheduleDecision where
  selected : Option SchedulerCandidate
  candidates : List SchedulerCandidate
  rejections : List (Nat × String)
  scoreBreakdown : List (String × Binary64)
  isOutOfDistribution : Bool
  fallbackStrategy : FallbackStrategy

structure SchedulerPolicy where
  name : String
  filter : List SchedulerCandidate → List Nat
  select : List SchedulerCandidate → ScheduleDecision

/-- The filters of the source: the indices of the candidates that pass a check. -/
def indicesWhere (accepts : SchedulerCandidate → Bool) (candidates : List SchedulerCandidate) :
    List Nat :=
  (candidates.zipIdx.filter fun item => accepts item.1).map (·.2)

theorem mem_indicesWhere {accepts : SchedulerCandidate → Bool}
    {candidates : List SchedulerCandidate} {index : Nat} :
    index ∈ indicesWhere accepts candidates ↔
      ∃ c, candidates[index]? = some c ∧ accepts c = true := by
  simp only [indicesWhere, List.mem_map, List.mem_filter, Prod.exists, exists_eq_right,
    List.mk_mem_zipIdx_iff_getElem?]

/-- `c.resources_required.fits_within(&c.resources_available)`. -/
def SchedulerCandidate.fits (c : SchedulerCandidate) : Bool :=
  c.resourcesRequired.fitsWithin c.resourcesAvailable

/-- What `sort_by` makes of candidates, whatever its comparisons say. -/
structure Sorting where
  arrange : List SchedulerCandidate → List SchedulerCandidate
  perm : ∀ candidates, (arrange candidates).Perm candidates

/-- `candidates.sort_by(|a, b| score(b).total_cmp(&score(a)))` where each candidate has one
score. -/
def Sorting.byScore (score : SchedulerCandidate → Binary64) : Sorting where
  arrange := Ranking.sortDescending fun c => (score c).totalKey
  perm candidates := List.mergeSort_perm candidates _

theorem Sorting.head_none_iff {sorting : Sorting} {candidates : List SchedulerCandidate} :
    (sorting.arrange candidates).head? = none ↔ candidates = [] := by
  rw [List.head?_eq_none_iff]
  constructor
  · intro empty
    have same := sorting.perm candidates
    rw [empty] at same
    exact List.nil_perm.mp same
  · rintro rfl
    exact List.perm_nil.mp (sorting.perm [])

namespace Policy

/-- The policies that pick the first candidate of their filter. -/
def selectFirst (filter : List SchedulerCandidate → List Nat) (isOutOfDistribution : Bool)
    (fallbackStrategy : FallbackStrategy) (candidates : List SchedulerCandidate) :
    ScheduleDecision where
  selected := (filter candidates).head?.bind fun index => candidates[index]?
  candidates
  rejections := []
  scoreBreakdown := []
  isOutOfDistribution
  fallbackStrategy

/-- The policies that sort all candidates and pick the first. -/
def selectSorted (sorting : Sorting) (fallbackStrategy : FallbackStrategy)
    (candidates : List SchedulerCandidate) : ScheduleDecision where
  selected := (sorting.arrange candidates).head?
  candidates := sorting.arrange candidates
  rejections := []
  scoreBreakdown := []
  isOutOfDistribution := false
  fallbackStrategy

def fifo : SchedulerPolicy where
  name := "FIFO"
  filter := indicesWhere SchedulerCandidate.fits
  select := selectFirst (indicesWhere SchedulerCandidate.fits) false .tryNextBest

/-- The filter of this policy takes every candidate. -/
def priority (sorting : Sorting) : SchedulerPolicy where
  name := "Priority"
  filter := indicesWhere fun _ => true
  select := selectSorted sorting .queueAndWait

/-- One round of the loop: the best score, from negative infinity on, and its candidate. -/
def exceedBest (score : SchedulerCandidate → Binary64)
    (best : Binary64 × Option SchedulerCandidate) (c : SchedulerCandidate) :
    Binary64 × Option SchedulerCandidate :=
  if (score c).exceeds best.1 then (score c, some c) else best

/-- The breakdown is a map by node id: a later insertion replaces an earlier one. -/
def insertScore (breakdown : List (String × Binary64)) (nodeId : String) (score : Binary64) :
    List (String × Binary64) :=
  (nodeId, score) :: breakdown.filter fun entry => entry.1 ≠ nodeId

def weightedSum (score : SchedulerCandidate → Binary64) : SchedulerPolicy where
  name := "WeightedSum"
  filter := indicesWhere SchedulerCandidate.fits
  select candidates :=
    { selected := (candidates.foldl (exceedBest score) (.negInfinity, none)).2
      candidates
      rejections := []
      scoreBreakdown := candidates.foldl (fun map c => insertScore map c.nodeId (score c)) []
      isOutOfDistribution := false
      fallbackStrategy := .tryNextBest }

def multiplicative (sorting : Sorting) : SchedulerPolicy where
  name := "Multiplicative"
  filter := indicesWhere SchedulerCandidate.fits
  select := selectSorted sorting .tryNextBest

def pareto : SchedulerPolicy where
  name := "Pareto"
  filter := indicesWhere SchedulerCandidate.fits
  select := selectFirst (indicesWhere SchedulerCandidate.fits) true .degradeModel

/-- `cached` is `c.kv_cache_hit_rate >= self.min_cache_hit_rate`. -/
def cacheAware (cached : SchedulerCandidate → Bool) (sorting : Sorting) : SchedulerPolicy where
  name := "CacheAware"
  filter := indicesWhere fun c => c.fits && cached c
  select := selectSorted sorting .tryNextBest

def deadlineAware (sorting : Sorting) : SchedulerPolicy where
  name := "DeadlineAware"
  filter := indicesWhere SchedulerCandidate.fits
  select := selectSorted sorting .degradeModel

def criticalPath (sorting : Sorting) : SchedulerPolicy where
  name := "CriticalPathAware"
  filter := indicesWhere SchedulerCandidate.fits
  select := selectSorted sorting .tryNextBest

def contextualBandit (sorting : Sorting) : SchedulerPolicy where
  name := "ContextualBandit"
  filter := indicesWhere SchedulerCandidate.fits
  select := selectSorted sorting .tryNextBest

end Policy

inductive PolicyKind where
  | fifo
  | priority
  | weightedSum
  | multiplicative
  | pareto
  | cacheAware
  | deadlineAware
  | criticalPath
  | contextualBandit
  deriving DecidableEq, Repr

/-- What the outcome of a policy depends on besides the candidates: the scores that the
loop compares, the sort, and the cache test. -/
structure PolicySetup where
  score : SchedulerCandidate → Binary64
  sorting : Sorting
  cached : SchedulerCandidate → Bool

/-- A setup in which the sort goes by the scores. -/
def PolicySetup.scored (score : SchedulerCandidate → Binary64)
    (cached : SchedulerCandidate → Bool) : PolicySetup where
  score
  sorting := .byScore score
  cached

def PolicyKind.policy (setup : PolicySetup) : PolicyKind → SchedulerPolicy
  | .fifo => Policy.fifo
  | .priority => Policy.priority setup.sorting
  | .weightedSum => Policy.weightedSum setup.score
  | .multiplicative => Policy.multiplicative setup.sorting
  | .pareto => Policy.pareto
  | .cacheAware => Policy.cacheAware setup.cached setup.sorting
  | .deadlineAware => Policy.deadlineAware setup.sorting
  | .criticalPath => Policy.criticalPath setup.sorting
  | .contextualBandit => Policy.contextualBandit setup.sorting

/-! ### What a policy selects -/

namespace Policy

variable {candidates : List SchedulerCandidate} {c : SchedulerCandidate}

theorem selectFirst_spec {accepts : SchedulerCandidate → Bool} {isOutOfDistribution : Bool}
    {fallbackStrategy : FallbackStrategy}
    (found : (selectFirst (indicesWhere accepts) isOutOfDistribution fallbackStrategy
      candidates).selected = some c) :
    ∃ index ∈ indicesWhere accepts candidates, candidates[index]? = some c := by
  obtain ⟨index, head, there⟩ := Option.bind_eq_some_iff.mp found
  exact ⟨index, List.mem_of_head? head, there⟩

theorem selectFirst_none_iff {accepts : SchedulerCandidate → Bool} {isOutOfDistribution : Bool}
    {fallbackStrategy : FallbackStrategy} :
    (selectFirst (indicesWhere accepts) isOutOfDistribution fallbackStrategy
      candidates).selected = none ↔ ∀ c ∈ candidates, accepts c = false := by
  constructor
  · intro unselected c member
    by_contra accepted
    obtain ⟨index, there⟩ := List.getElem?_of_mem member
    have listed : index ∈ indicesWhere accepts candidates :=
      mem_indicesWhere.mpr ⟨c, there, by simpa using accepted⟩
    cases head : (indicesWhere accepts candidates).head? with
    | none =>
        rw [List.head?_eq_none_iff.mp head] at listed
        cases listed
    | some least =>
        obtain ⟨d, here, _⟩ := mem_indicesWhere.mp (List.mem_of_head? head)
        rw [selectFirst, head, Option.bind_some, here] at unselected
        cases unselected
  · intro refused
    cases selected : (selectFirst (indicesWhere accepts) isOutOfDistribution fallbackStrategy
      candidates).selected with
    | none => rfl
    | some c =>
        obtain ⟨index, listed, there⟩ := selectFirst_spec selected
        obtain ⟨d, here, accepted⟩ := mem_indicesWhere.mp listed
        rw [refused d (List.mem_of_getElem? here)] at accepted
        cases accepted

theorem foldl_exceedBest (score : SchedulerCandidate → Binary64) (best : Binary64)
    (kept : Option SchedulerCandidate) (candidates : List SchedulerCandidate)
    (number : best.isNaN = false)
    (below : ∀ c, kept = some c → score c = best ∧ best.exceeds .negInfinity = true)
    (lowest : kept = none → best = .negInfinity) :
    (candidates.foldl (exceedBest score) (best, kept)).2 =
      (candidates.filter fun c => (score c).exceeds .negInfinity).foldl
        (Ranking.keepBest fun c => (score c).numberKey) kept := by
  induction candidates generalizing best kept with
  | nil => rfl
  | cons c rest ih =>
      rw [List.foldl_cons, exceedBest]
      by_cases more : (score c).exceeds best = true
      · have numbers := Binary64.exceeds_iff.mp more
        have counts : (score c).exceeds .negInfinity = true := by
          cases kept with
          | none => rw [← lowest rfl]; exact more
          | some b =>
              have above := Binary64.exceeds_iff.mp (below b rfl).2
              apply Binary64.exceeds_iff.mpr
              exact ⟨numbers.1, Binary64.negInfinity_isNaN, Int.lt_trans above.2.2 numbers.2.2⟩
        rw [if_pos more, ih (score c) (some c) numbers.1 ?_ nofun,
          List.filter_cons_of_pos (by simpa using counts), List.foldl_cons]
        · congr 1
          cases kept with
          | none => rfl
          | some b =>
              have less : (score b).numberKey < (score c).numberKey := by
                rw [(below b rfl).1]
                exact numbers.2.2
              exact (if_pos less).symm
        · intro d same
          cases same
          exact ⟨rfl, counts⟩
      · rw [if_neg more, ih best kept number below lowest]
        by_cases counts : (score c).exceeds .negInfinity = true
        · rw [List.filter_cons_of_pos (by simpa using counts), List.foldl_cons]
          congr 1
          cases kept with
          | none =>
              rw [lowest rfl] at more
              exact absurd counts more
          | some b =>
              have less : ¬ (score b).numberKey < (score c).numberKey := by
                rw [(below b rfl).1]
                intro less
                exact more (Binary64.exceeds_iff.mpr
                  ⟨(Binary64.exceeds_iff.mp counts).1, number, less⟩)
              exact (if_neg less).symm
        · rw [List.filter_cons_of_neg (by simpa using counts)]

/-- The loop finds the first of the best among the scores above negative infinity. -/
theorem weightedSum_selected (score : SchedulerCandidate → Binary64)
    (candidates : List SchedulerCandidate) :
    ((weightedSum score).select candidates).selected =
      Ranking.first (fun c => (score c).numberKey)
        (candidates.filter fun c => (score c).exceeds .negInfinity) := by
  rw [← Ranking.foldl_keepBest_none]
  exact foldl_exceedBest score .negInfinity none candidates Binary64.negInfinity_isNaN nofun
    fun _ => rfl

end Policy

section Selects

variable {setup : PolicySetup} {candidates : List SchedulerCandidate}

/-- Every policy selects one of its candidates. -/
theorem PolicyKind.selected_mem {kind : PolicyKind} {c : SchedulerCandidate}
    (found : ((kind.policy setup).select candidates).selected = some c) : c ∈ candidates := by
  have ofSorted : ∀ {fallback}, (Policy.selectSorted setup.sorting fallback
      candidates).selected = some c → c ∈ candidates :=
    fun sorted => (setup.sorting.perm candidates).mem_iff.mp (List.mem_of_head? sorted)
  cases kind with
  | fifo | pareto =>
      obtain ⟨index, _, there⟩ := Policy.selectFirst_spec found
      exact List.mem_of_getElem? there
  | weightedSum =>
      rw [policy, Policy.weightedSum_selected] at found
      exact List.mem_of_mem_filter (Ranking.first_mem _ found)
  | priority | multiplicative | cacheAware | deadlineAware | criticalPath | contextualBandit =>
      exact ofSorted found

end Selects

/-! ### Placement -/

inductive KVCachePlacement where
  | onDevice
  | remote
  | shared
  | stateless
  deriving DecidableEq, Repr

/-- A placement without the text of its reasons. -/
structure PolicyPlacement where
  nodeId : String
  deviceId : String
  engineId : String
  modelRevision : String
  tensorParallelism : Nat
  pipelineParallelism : Nat
  kvCachePlacement : KVCachePlacement
  resourcesReserved : ResourceVector
  expectedCompletion : ExpectedCompletionTime
  deriving DecidableEq, Repr

def placementOf (nodes : List NodeInfo) (c : SchedulerCandidate) : PolicyPlacement where
  nodeId := c.nodeId
  deviceId := c.deviceId
  engineId := c.engineId
  modelRevision := c.modelRevision
  tensorParallelism := 1
  pipelineParallelism := 1
  kvCachePlacement := if 1 / 2 < c.kvCacheHitRate then .shared else .onDevice
  resourcesReserved := c.resourcesRequired
  expectedCompletion := expectedCompletion nodes c

def placeSelected (select : List SchedulerCandidate → Option SchedulerCandidate)
    (workload : WorkloadSpec) (nodes : List NodeInfo) : Option PolicyPlacement :=
  (select (nodes.flatMap (nodeCandidates workload))).map (placementOf nodes)

/-- `PlacementScheduler::place`. -/
def PlacementScheduler.place (policy : SchedulerPolicy) (workload : WorkloadSpec)
    (nodes : List NodeInfo) : Option PolicyPlacement :=
  placeSelected (fun candidates => (policy.select candidates).selected) workload nodes

/-- The placement by the default weights is the one whose selection they make. -/
theorem place_placed (workload : WorkloadSpec) (nodes : List NodeInfo) :
    (NousKernel.place workload nodes).map (fun decision => (decision.nodeId, decision.deviceId,
      decision.engineId, decision.resourcesReserved, decision.expectedCompletion)) =
    (placeSelected WeightedSumPolicy.select workload nodes).map (fun placed => (placed.nodeId,
      placed.deviceId, placed.engineId, placed.resourcesReserved, placed.expectedCompletion)) := by
  rw [NousKernel.place, placeSelected, Option.map_map, Option.map_map]
  rfl

/-- The hard constraints on a node. -/
structure NodeFeasible (workload : WorkloadSpec) (node : NodeInfo) : Prop where
  schedulable : node.connectionState.schedulable = true
  nearby : workload.modelRequirements.routing = .localOnly → node.isLocal = true
  fits : workload.minimum.fitsWithin node.allocatable = true

/-- The hard constraints on a device and an engine of one node. -/
structure PairFeasible (workload : WorkloadSpec) (device : DevicePlacementInfo)
    (engine : EnginePlacementInfo) : Prop where
  healthy : engine.healthy = true
  capable : ∀ required ∈ workload.requiredCapabilities, required ∈ engine.capabilities
  deviceType : workload.allowedDeviceTypes = [] ∨
    ∃ kind ∈ workload.allowedDeviceTypes, kind.lowercase = toLowercase device.deviceType
  vram : workload.minimum.deviceMemoryBytes ≤ device.freeVram

structure Feasible (workload : WorkloadSpec) (node : NodeInfo) (device : DevicePlacementInfo)
    (engine : EnginePlacementInfo) : Prop
    extends NodeFeasible workload node, PairFeasible workload device engine

section Feasible

variable {workload : WorkloadSpec} {node : NodeInfo} {device : DevicePlacementInfo}
  {engine : EnginePlacementInfo} {c : SchedulerCandidate}

/-- A pair has a candidate exactly when it passes its checks. -/
theorem candidateOf_isSome_iff :
    (candidateOf workload node device engine).isSome = true ↔
      PairFeasible workload device engine := by
  have capable : (workload.requiredCapabilities.all fun required =>
      engine.capabilities.any (· == required)) = true ↔
        ∀ required ∈ workload.requiredCapabilities, required ∈ engine.capabilities := by
    simp only [List.all_eq_true, List.any_eq_true, beq_iff_eq, exists_eq_right]
  have deviceType : (workload.allowedDeviceTypes.isEmpty ||
      workload.allowedDeviceTypes.any fun kind => kind.lowercase == toLowercase device.deviceType) =
        true ↔ workload.allowedDeviceTypes = [] ∨
          ∃ kind ∈ workload.allowedDeviceTypes, kind.lowercase = toLowercase device.deviceType := by
    simp only [Bool.or_eq_true, List.isEmpty_iff, List.any_eq_true, beq_iff_eq]
  unfold candidateOf
  constructor
  · intro some
    split at some
    · cases some
    · rename_i healthy
      split at some
      · cases some
      · rename_i capabilities
        dsimp only at some
        split at some
        · cases some
        · rename_i allowed
          split at some
          · cases some
          · rename_i enough
            constructor
            · simpa using healthy
            · exact capable.mp (by simpa using capabilities)
            · apply deviceType.mp
              rw [Bool.not_eq_true', Bool.not_eq_false] at allowed
              exact allowed
            · exact Nat.le_of_not_lt enough
  · intro pair
    rw [if_neg (by simp [pair.healthy]), if_neg (by simp [capable.mpr pair.capable])]
    dsimp only
    rw [if_neg (by simp [deviceType.mpr pair.deviceType]), if_neg (Nat.not_lt.mpr pair.vram)]
    rfl

/-- What a candidate takes over from its pair. -/
theorem candidateOf_spec (found : candidateOf workload node device engine = some c) :
    c.nodeId = node.nodeId ∧ c.deviceId = device.deviceId ∧ c.engineId = engine.engineId ∧
      c.resourcesRequired = workload.minimum ∧
      c.resourcesAvailable =
        { deviceMemoryBytes := device.freeVram
          ramBytes := node.allocatable.ramBytes
          kvCacheBytes := node.allocatable.kvCacheBytes
          cpuCoresMillis := node.allocatable.cpuCoresMillis } := by
  unfold candidateOf at found
  split at found
  · cases found
  · split at found
    · cases found
    · dsimp only at found
      split at found
      · cases found
      · split at found
        · cases found
        · cases found
          exact ⟨rfl, rfl, rfl, rfl, rfl⟩

theorem mem_nodeCandidates :
    c ∈ nodeCandidates workload node ↔ NodeFeasible workload node ∧
      ∃ device ∈ node.devices, ∃ engine ∈ node.engines,
        candidateOf workload node device engine = some c := by
  unfold nodeCandidates
  by_cases schedulable : node.connectionState.schedulable = true
  · rw [if_neg (by simp [schedulable])]
    by_cases away : workload.modelRequirements.routing = .localOnly ∧ node.isLocal = false
    · rw [if_pos away]
      apply iff_of_false List.not_mem_nil
      rintro ⟨feasible, _⟩
      have here := feasible.nearby away.1
      rw [away.2] at here
      cases here
    · rw [if_neg away]
      by_cases fits : workload.minimum.fitsWithin node.allocatable = true
      · have nearby : workload.modelRequirements.routing = .localOnly → node.isLocal = true :=
          fun only => by simpa using fun other => away ⟨only, other⟩
        rw [if_neg (by simp [fits])]
        simp only [List.mem_flatMap, List.mem_filterMap]
        exact ⟨fun pairs => ⟨⟨schedulable, nearby, fits⟩, pairs⟩, And.right⟩
      · rw [if_pos (by simp [fits])]
        exact iff_of_false List.not_mem_nil fun passes => fits passes.1.fits
  · rw [if_pos (by simp [schedulable])]
    exact iff_of_false List.not_mem_nil fun passes => schedulable passes.1.schedulable

/-- There are candidates exactly when a pair of a node passes all checks. -/
theorem candidates_nonempty_iff {nodes : List NodeInfo} :
    nodes.flatMap (nodeCandidates workload) ≠ [] ↔
      ∃ node ∈ nodes, ∃ device ∈ node.devices, ∃ engine ∈ node.engines,
        Feasible workload node device engine := by
  constructor
  · intro nonempty
    obtain ⟨c, member⟩ := List.exists_mem_of_ne_nil _ nonempty
    obtain ⟨node, inNodes, listed⟩ := List.mem_flatMap.mp member
    obtain ⟨passes, device, inDevices, engine, inEngines, found⟩ := mem_nodeCandidates.mp listed
    have pair := candidateOf_isSome_iff.mp (Option.isSome_of_eq_some found)
    exact ⟨node, inNodes, device, inDevices, engine, inEngines, ⟨passes, pair⟩⟩
  · rintro ⟨node, inNodes, device, inDevices, engine, inEngines, feasible⟩
    have some : (candidateOf workload node device engine).isSome = true :=
      candidateOf_isSome_iff.mpr feasible.toPairFeasible
    obtain ⟨c, found⟩ := Option.isSome_iff_exists.mp some
    apply List.ne_nil_of_mem (a := c)
    exact List.mem_flatMap.mpr ⟨node, inNodes,
      mem_nodeCandidates.mpr
      ⟨feasible.toNodeFeasible, device, inDevices, engine, inEngines, found⟩⟩

end Feasible

end NousKernel
