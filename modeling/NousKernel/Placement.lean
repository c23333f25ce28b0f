import Mathlib.Algebra.Order.Ring.Unbundled.Rat
import Mathlib.Data.Rat.Defs
import NousKernel.Admission
import NousKernel.RuntimeApi

/-!
Global placement (`nous-scheduler/src/placement.rs`), the default policy
(`WeightedSumPolicy` of `policy.rs`) and the scheduler core with its decision
trace (`core.rs`). The `f64` measurements and scores are rationals. The trace
keeps the arguments of the formatted reason, not its rendering.
-/

set_option autoImplicit false

namespace NousKernel

inductive NodeConnectionState where
  | connected
  | degraded
  | offline
  | reconnecting
  deriving DecidableEq, Repr

def NodeConnectionState.schedulable : NodeConnectionState → Bool
  | connected | degraded => true
  | offline | reconnecting => false

/-- `format!("node is {:?}", state).to_lowercase()`. -/
def NodeConnectionState.rejection : NodeConnectionState → String
  | connected => "node is connected"
  | degraded => "node is degraded"
  | offline => "node is offline"
  | reconnecting => "node is reconnecting"

structure DevicePlacementInfo where
  deviceId : String
  deviceType : String
  freeVram : Nat
  utilization : Rat
  deriving DecidableEq, Repr

structure EnginePlacementInfo where
  engineId : String
  loadedModels : List String
  activeRequests : Nat
  maxBatchSize : Nat
  capabilities : List String
  healthy : Bool
  queueDepth : Nat
  modelLoadMs : Nat
  stateTransferMs : Nat
  estimatedExecutionMs : Nat
  estimatedTps : Rat
  kvCacheHitRate : Rat
  deriving DecidableEq, Repr

structure NodeInfo where
  nodeId : String
  allocatable : ResourceVector
  devices : List DevicePlacementInfo
  engines : List EnginePlacementInfo
  isLocal : Bool
  connectionState : NodeConnectionState
  deriving DecidableEq, Repr

structure SchedulerCandidate where
  nodeId : String
  deviceId : String
  engineId : String
  modelRevision : String
  resourcesAvailable : ResourceVector
  resourcesRequired : ResourceVector
  estimatedTtftMs : Nat
  estimatedTps : Rat
  estimatedCostMicrocents : Nat
  estimatedQuality : Rat
  kvCacheHitRate : Rat
  engineLoad : Rat
  deviceUtilization : Rat
  deriving DecidableEq, Repr

structure ExpectedCompletionTime where
  queueDelayMs : Nat := 0
  modelLoadMs : Nat := 0
  stateTransferMs : Nat := 0
  executionEstimateMs : Nat := 0
  totalMs : Nat := 0
  deriving DecidableEq, Repr

/-- The arguments of the placement's formatted `reasoning`. -/
structure PlacementReason where
  engineId : String
  deviceId : String
  score : Option Rat
  kvHit : Rat
  load : Rat
  deriving DecidableEq, Repr

structure PlacementDecision where
  nodeId : String
  deviceId : String
  engineId : String
  modelRevision : String
  resourcesReserved : ResourceVector
  expectedCompletion : ExpectedCompletionTime
  reasoning : PlacementReason
  deriving DecidableEq, Repr

/-- `DeviceType`'s debug name in lower case, to compare with a device's. -/
def DeviceType.lowercase : DeviceType → String
  | unspecified => "unspecified"
  | cpu => "cpu"
  | cuda => "cuda"
  | rocm => "rocm"
  | vulkan => "vulkan"
  | openVino => "openvino"
  | metal => "metal"
  | sycl => "sycl"
  | cann => "cann"
  | qnn => "qnn"
  | dsp => "dsp"
  | fpga => "fpga"
  | npu => "npu"
  | remote => "remote"

/-- `str::to_lowercase`, as far as a comparison with ASCII letters can tell: of the characters
beyond ASCII only the Kelvin sign has an ASCII letter as its lower case, and the others stay. -/
def toLowercase (text : String) : String :=
  String.ofList (text.toList.map fun c => if c = Char.ofNat 0x212a then 'k' else c.toLower)

/-- The candidate of one device and engine of a node, if the pair passes the
hard constraints. -/
def candidateOf (workload : WorkloadSpec) (node : NodeInfo) (device : DevicePlacementInfo)
    (engine : EnginePlacementInfo) : Option SchedulerCandidate :=
  if !engine.healthy then none
  else if !workload.requiredCapabilities.all (fun required =>
      engine.capabilities.any (· == required)) then none
  else
    let matchingModel := engine.loadedModels.find? fun model =>
      workload.modelRequirements.allowedModelFamilies.any (containsText model)
    let deviceOk := workload.allowedDeviceTypes.isEmpty ||
      workload.allowedDeviceTypes.any (fun kind => kind.lowercase == toLowercase device.deviceType)
    if !deviceOk then none
    else if device.freeVram < workload.minimum.deviceMemoryBytes then none
    else some
      { nodeId := node.nodeId
        deviceId := device.deviceId
        engineId := engine.engineId
        modelRevision := matchingModel.getD ""
        resourcesAvailable :=
          { deviceMemoryBytes := device.freeVram
            ramBytes := node.allocatable.ramBytes
            kvCacheBytes := node.allocatable.kvCacheBytes
            cpuCoresMillis := node.allocatable.cpuCoresMillis }
        resourcesRequired := workload.minimum
        estimatedTtftMs := if device.deviceType = "cpu" then 2000 else 200
        estimatedTps := engine.estimatedTps
        estimatedCostMicrocents := if node.isLocal then 0 else 1000
        estimatedQuality := if matchingModel.isSome then 9 / 10 else 7 / 10
        kvCacheHitRate := engine.kvCacheHitRate
        engineLoad := engine.activeRequests / max engine.maxBatchSize 1
        deviceUtilization := device.utilization }

def nodeCandidates (workload : WorkloadSpec) (node : NodeInfo) : List SchedulerCandidate :=
  if !node.connectionState.schedulable then []
  else if workload.modelRequirements.routing = .localOnly ∧ node.isLocal = false then []
  else if !workload.minimum.fitsWithin node.allocatable then []
  else node.devices.flatMap fun device => node.engines.filterMap (candidateOf workload node device)

namespace WeightedSumPolicy

/-- The default weights, with each dimension normalized as in the source. -/
def score (c : SchedulerCandidate) : Rat :=
  1 / 4 * (1 / (1 + c.estimatedTtftMs / 1000))
    + 1 / 5 * (min c.estimatedTps 100 / 100)
    + 3 / 20 * (1 / (1 + c.estimatedCostMicrocents / 1000000))
    + 1 / 5 * c.estimatedQuality
    + 1 / 10 * c.kvCacheHitRate
    + 1 / 10 * (1 - c.engineLoad)

/-- The selection loop: `none` is negative infinity with no index yet. -/
def best : Option (Rat × SchedulerCandidate) → List SchedulerCandidate →
    Option (Rat × SchedulerCandidate)
  | found, [] => found
  | none, c :: rest => best (some (score c, c)) rest
  | some (bestScore, kept), c :: rest =>
      if bestScore < score c then best (some (score c, c)) rest
      else best (some (bestScore, kept)) rest

def select (candidates : List SchedulerCandidate) : Option SchedulerCandidate :=
  (best none candidates).map (·.2)

/-- The breakdown is a map by node id: a later candidate of a node replaces the
score of an earlier one. -/
def scoreBreakdown (candidates : List SchedulerCandidate) (nodeId : String) : Option Rat :=
  (candidates.reverse.find? (·.nodeId == nodeId)).map score

end WeightedSumPolicy

def expectedCompletion (nodes : List NodeInfo) (c : SchedulerCandidate) :
    ExpectedCompletionTime :=
  match (nodes.find? (·.nodeId == c.nodeId)).bind (fun node =>
      node.engines.find? (·.engineId == c.engineId)) with
  | none => { totalMs := u64Max }
  | some engine =>
      let queueDelayMs := min (engine.queueDepth * engine.estimatedExecutionMs) u64Max
      let modelLoadMs :=
        if engine.loadedModels.any (· == c.modelRevision) then 0 else engine.modelLoadMs
      { queueDelayMs
        modelLoadMs
        stateTransferMs := engine.stateTransferMs
        executionEstimateMs := engine.estimatedExecutionMs
        totalMs := saturatingAdd (saturatingAdd (saturatingAdd queueDelayMs modelLoadMs)
          engine.stateTransferMs) engine.estimatedExecutionMs }

/-- `SchedulerCore::place` under the default configuration, whose effective
policy set is `Deterministic`. -/
def place (workload : WorkloadSpec) (nodes : List NodeInfo) : Option PlacementDecision :=
  let candidates := nodes.flatMap (nodeCandidates workload)
  (WeightedSumPolicy.select candidates).map fun c =>
    { nodeId := c.nodeId
      deviceId := c.deviceId
      engineId := c.engineId
      modelRevision := c.modelRevision
      resourcesReserved := c.resourcesRequired
      expectedCompletion := expectedCompletion nodes c
      reasoning :=
        { engineId := c.engineId
          deviceId := c.deviceId
          score := WeightedSumPolicy.scoreBreakdown candidates c.nodeId
          kvHit := c.kvCacheHitRate
          load := c.engineLoad } }

structure CandidateRejection where
  candidate : String
  reason : String
  deriving DecidableEq, Repr

/-- The reason of a decision: a placement's arguments or a fixed text. -/
inductive TraceReason where
  | placement (reasoning : PlacementReason)
  | text (message : String)
  deriving DecidableEq, Repr

structure DecisionTrace where
  policy : String
  candidates : List String
  rejections : List CandidateRejection
  selected : Option String
  selectedProvider : Option String
  selectedModel : Option String
  fallbackCandidate : Option String
  capabilityMatch : String
  reason : TraceReason
  expectedCompletionMs : Option Nat
  expectedCompletion : Option ExpectedCompletionTime
  resourceSnapshot : ResourceVector
  deriving DecidableEq, Repr

/-- Why the trace rejects a node, in the order the trace checks. -/
def rejectionOf (workload : WorkloadSpec) (node : NodeInfo) : Option String :=
  if !node.connectionState.schedulable then some node.connectionState.rejection
  else if workload.modelRequirements.routing = .localOnly ∧ node.isLocal = false then
    some "privacy requires local execution"
  else if node.devices.isEmpty then some "no device is available"
  else if node.engines.isEmpty then some "no provider engine is available"
  else if node.engines.all (fun engine => !engine.healthy) then
    some "all provider engines are unhealthy"
  else if !workload.requiredCapabilities.all (fun required =>
      node.engines.any (fun engine =>
        engine.healthy && engine.capabilities.any (· == required))) then
    some "required provider capability is unavailable"
  else if !workload.minimum.fitsWithin node.allocatable then
    some "minimum resources exceed allocatable resources"
  else none

def placeWithTrace (workload : WorkloadSpec) (nodes : List NodeInfo) :
    Option PlacementDecision × DecisionTrace :=
  let decision := place workload nodes
  let candidates := (nodes.filter fun node => (rejectionOf workload node).isNone).map (·.nodeId)
  let rejections := nodes.filterMap fun node =>
    (rejectionOf workload node).map fun reason => { candidate := node.nodeId, reason }
  let selected := decision.map (·.nodeId)
  (decision,
    { policy := "Deterministic"
      candidates
      rejections
      selected
      selectedProvider := decision.map (·.engineId)
      selectedModel := decision.map (·.modelRevision)
      fallbackCandidate := candidates.find? fun candidate => some candidate != selected
      capabilityMatch :=
        if decision.isSome then "all hard capability constraints satisfied"
        else "no candidate satisfied every hard capability constraint"
      reason := match decision with
        | some item => .placement item.reasoning
        | none => .text "no feasible candidate passed hard constraints"
      expectedCompletionMs := decision.map (·.expectedCompletion.totalMs)
      expectedCompletion := decision.map (·.expectedCompletion)
      resourceSnapshot := ((decision.bind fun item =>
        nodes.find? (·.nodeId == item.nodeId)).map (·.allocatable)).getD {} })

end NousKernel
