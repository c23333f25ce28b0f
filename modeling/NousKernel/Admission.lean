import Mathlib.Algebra.Ring.Int.Defs
import Mathlib.Algebra.Ring.Nat
import Mathlib.Data.List.Infix

/-!
Resource vectors and domains (`nous-types/src/resource.rs`), the workload
specification the runtime derives from a request (`nous-types/src/workload.rs`),
and the admission controller (`nous-resource/src/admission.rs`). Quantities are
`u64` in the source. Subtraction saturates at zero there as it does on `Nat`.
-/

set_option autoImplicit false

namespace NousKernel

def u64Max : Nat := 2 ^ 64 - 1

def saturatingAdd (a b : Nat) : Nat := min (a + b) u64Max

structure ResourceVector where
  cpuCoresMillis : Nat := 0
  cpuTimeUs : Nat := 0
  ramBytes : Nat := 0
  pinnedRamBytes : Nat := 0
  deviceMemoryBytes : Nat := 0
  kvCacheBytes : Nat := 0
  storageBytes : Nat := 0
  memoryBandwidthBps : Nat := 0
  interconnectBandwidthBps : Nat := 0
  networkBandwidthBps : Nat := 0
  powerMilliwatts : Nat := 0
  thermalBudgetMillic : Nat := 0
  timeBudgetUs : Nat := 0
  deriving DecidableEq, Repr

namespace ResourceVector

def fitsWithin (self capacity : ResourceVector) : Bool :=
  self.cpuCoresMillis ≤ capacity.cpuCoresMillis
    && self.cpuTimeUs ≤ capacity.cpuTimeUs
    && self.ramBytes ≤ capacity.ramBytes
    && self.pinnedRamBytes ≤ capacity.pinnedRamBytes
    && self.deviceMemoryBytes ≤ capacity.deviceMemoryBytes
    && self.kvCacheBytes ≤ capacity.kvCacheBytes
    && self.storageBytes ≤ capacity.storageBytes
    && self.memoryBandwidthBps ≤ capacity.memoryBandwidthBps
    && self.interconnectBandwidthBps ≤ capacity.interconnectBandwidthBps
    && self.networkBandwidthBps ≤ capacity.networkBandwidthBps
    && self.powerMilliwatts ≤ capacity.powerMilliwatts
    && self.thermalBudgetMillic ≤ capacity.thermalBudgetMillic
    && self.timeBudgetUs ≤ capacity.timeBudgetUs

def sub (self rhs : ResourceVector) : ResourceVector where
  cpuCoresMillis := self.cpuCoresMillis - rhs.cpuCoresMillis
  cpuTimeUs := self.cpuTimeUs - rhs.cpuTimeUs
  ramBytes := self.ramBytes - rhs.ramBytes
  pinnedRamBytes := self.pinnedRamBytes - rhs.pinnedRamBytes
  deviceMemoryBytes := self.deviceMemoryBytes - rhs.deviceMemoryBytes
  kvCacheBytes := self.kvCacheBytes - rhs.kvCacheBytes
  storageBytes := self.storageBytes - rhs.storageBytes
  memoryBandwidthBps := self.memoryBandwidthBps - rhs.memoryBandwidthBps
  interconnectBandwidthBps := self.interconnectBandwidthBps - rhs.interconnectBandwidthBps
  networkBandwidthBps := self.networkBandwidthBps - rhs.networkBandwidthBps
  powerMilliwatts := self.powerMilliwatts - rhs.powerMilliwatts
  thermalBudgetMillic := self.thermalBudgetMillic - rhs.thermalBudgetMillic
  timeBudgetUs := self.timeBudgetUs - rhs.timeBudgetUs

instance : Sub ResourceVector := ⟨sub⟩

end ResourceVector

structure ResourceDomain where
  domainId : String
  parentDomainId : Option String
  capacity : ResourceVector
  allocated : ResourceVector
  reserved : ResourceVector

namespace ResourceDomain

def available (domain : ResourceDomain) : ResourceVector :=
  domain.capacity - domain.allocated - domain.reserved

def canFit (domain : ResourceDomain) (request : ResourceVector) : Bool :=
  request.fitsWithin domain.available

end ResourceDomain

inductive SchedulingClass where
  | system
  | deadline
  | interactive
  | batch
  | background
  | maintenance
  deriving DecidableEq, Repr

/-- `format!("{:?}", class).to_lowercase()`. -/
def SchedulingClass.lowercase : SchedulingClass → String
  | system => "system"
  | deadline => "deadline"
  | interactive => "interactive"
  | batch => "batch"
  | background => "background"
  | maintenance => "maintenance"

inductive RoutingPreference where
  | any
  | localOnly
  | localPreferred
  | lowestLatency
  | lowestCost
  | highestQuality
  deriving DecidableEq, Repr

inductive DeviceType where
  | unspecified
  | cpu
  | cuda
  | rocm
  | vulkan
  | openVino
  | metal
  | sycl
  | cann
  | qnn
  | dsp
  | fpga
  | npu
  | remote
  deriving DecidableEq, Repr

structure ModelRequirements where
  allowedModelFamilies : List String := []
  routing : RoutingPreference := .any
  deriving DecidableEq, Repr

structure SecurityRequirements where
  allowNetworkAccess : Bool := false
  allowedHosts : List String := []
  allowFileAccess : Bool := false
  allowedPaths : List String := []
  deriving DecidableEq, Repr

/-- The fields of `WorkloadSpec` that admission, placement or the runtime read. -/
structure WorkloadSpec where
  workloadId : String := ""
  idempotencyKey : String := ""
  principalId : String := ""
  namespaceName : String := ""
  goal : String := ""
  modelRequirements : ModelRequirements := {}
  requiredCapabilities : List String := []
  allowedDeviceTypes : List DeviceType := []
  securityRequirements : SecurityRequirements := {}
  minimum : ResourceVector := {}
  schedulingClass : SchedulingClass := .interactive
  deadlineUs : Int := 0
  deriving DecidableEq, Repr

inductive AdmissionDecision where
  | admitted
  | rejected (reason : String) (missingRequirements : List String)
  | infeasible (reason : String) (required capacity : ResourceVector)
  deriving DecidableEq, Repr

structure AdmissionController where
  systemDomain : ResourceDomain

namespace AdmissionController

def validateSecurity (sec : SecurityRequirements) : List String :=
  (if sec.allowNetworkAccess && sec.allowedHosts.isEmpty then
    ["Network access allowed but no allowed_hosts specified"] else []) ++
  (if sec.allowFileAccess && sec.allowedPaths.isEmpty then
    ["File access allowed but no allowed_paths specified"] else [])

def missingResources (required available : ResourceVector) : List String :=
  (if available.ramBytes < required.ramBytes then
    ["RAM: need " ++ toString required.ramBytes ++ " bytes, have " ++
      toString available.ramBytes ++ " bytes"] else []) ++
  (if available.deviceMemoryBytes < required.deviceMemoryBytes then
    ["VRAM: need " ++ toString required.deviceMemoryBytes ++ " bytes, have " ++
      toString available.deviceMemoryBytes ++ " bytes"] else []) ++
  (if available.kvCacheBytes < required.kvCacheBytes then
    ["KV Cache: need " ++ toString required.kvCacheBytes ++ " bytes, have " ++
      toString available.kvCacheBytes ++ " bytes"] else [])

/-- `AdmissionController::admit`. The clock is read only for a positive deadline. -/
def admitWorkload (controller : AdmissionController) (spec : WorkloadSpec) (nowUs : Int) :
    AdmissionDecision :=
  let domain := controller.systemDomain
  if 0 < spec.deadlineUs ∧ spec.deadlineUs < nowUs then
    .rejected ("Deadline expired: deadline=" ++ toString spec.deadlineUs ++ "us, now=" ++
      toString nowUs ++ "us (" ++ toString (nowUs - spec.deadlineUs) ++ "us past)")
      ["valid_deadline"]
  else if !spec.minimum.fitsWithin domain.capacity then
    .infeasible "Required resources exceed system capacity" spec.minimum domain.capacity
  else if !domain.canFit spec.minimum then
    .rejected "Insufficient resources" (missingResources spec.minimum domain.available)
  else if !(validateSecurity spec.securityRequirements).isEmpty then
    .rejected "Security requirements not met" (validateSecurity spec.securityRequirements)
  else .admitted

end AdmissionController

end NousKernel
