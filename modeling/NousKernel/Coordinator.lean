import NousKernel.Executor

/-!
`KernelRuntime` (`nous-kernel-core/src/coordinator.rs`): one execution from
admission to the release of its lease, continuity plans with failover, and
recovery at boot. The two lock-poisoning branches are left out: no holder of the
active map's lock panics.
-/

set_option autoImplicit false

namespace NousKernel

open Resumption

structure RuntimeExecution where
  workloadId : String
  receipt : OperationReceipt
  decisionTrace : DecisionTrace
  deriving DecidableEq

/-! ### Admission and placement -/

/-- The capacity of the local kernel, and of its one reference node. -/
def localCapacity : ResourceVector where
  cpuCoresMillis := 4000
  ramBytes := 8 * 1024 * 1024 * 1024
  networkBandwidthBps := u64Max

def admission : AdmissionController where
  systemDomain :=
    { domainId := "local-kernel"
      parentDomainId := none
      capacity := localCapacity
      allocated := {}
      reserved := {} }

def workloadFor (request : OperationRequest) : WorkloadSpec where
  workloadId := request.workloadId
  idempotencyKey := request.operationId
  principalId := "kernel-runtime"
  namespaceName := "default"
  goal := request.input
  minimum := { cpuCoresMillis := 1, ramBytes := 1024 * 1024 }
  modelRequirements :=
    { allowedModelFamilies := if request.model = "" then [] else [request.model] }

def referenceNode (request : OperationRequest) : NodeInfo where
  nodeId := "local-reference"
  allocatable := localCapacity
  devices := [{ deviceId := "host-cpu", deviceType := "cpu", freeVram := 0, utilization := 0 }]
  engines :=
    [{ engineId := request.backend
       loadedModels := [if request.model = "" then request.backend else request.model]
       activeRequests := 0
       maxBatchSize := 1
       capabilities := ["chat"]
       healthy := true
       queueDepth := 0
       modelLoadMs := 0
       stateTransferMs := 0
       estimatedExecutionMs := 1
       estimatedTps := 1
       kvCacheHitRate := 0 }]
  isLocal := true
  connectionState := .connected

def replayTrace : DecisionTrace where
  policy := "JournalReplay"
  candidates := []
  rejections := []
  selected := none
  selectedProvider := none
  selectedModel := none
  fallbackCandidate := none
  capabilityMatch := "replayed from durable committed receipt"
  reason := .text "returned a previously committed operation receipt"
  expectedCompletionMs := none
  expectedCompletion := none
  resourceSnapshot := {}

def latestDecisionTrace (operationId : String) : Fallible (Option DecisionTrace) := do
  let entries ← journalError (Task.readFrom 0)
  return (entries.reverse.find? fun entry =>
    entry.objectType == "SchedulerDecision" && entry.objectId == operationId).bind
      (·.payload.trace?)

/-- Admission, placement and the journaled decision. The clock of `admit` is
never read: the workload of a request has no deadline. -/
def schedule (request : OperationRequest) (nowUs : Int) :
    Fallible (PlacementDecision × DecisionTrace) :=
  match admission.admitWorkload (workloadFor request) nowUs with
  | .rejected reason _ => throw (.admission reason)
  | .infeasible reason _ _ => throw (.admission reason)
  | .admitted =>
      match placeWithTrace (workloadFor request) [referenceNode request] with
      | (none, _) => throw (.scheduling "no provider placement passed hard constraints")
      | (some placement, trace) => do
          append request .observation "SchedulerDecision" "SELECTED" (.trace trace)
            (scheduleKey request.operationId)
          return (placement, trace)

theorem admission_admits (request : OperationRequest) (nowUs : Int) :
    admission.admitWorkload (workloadFor request) nowUs = .admitted := by
  rfl

theorem reference_placed (request : OperationRequest) :
    ∃ placement trace, placeWithTrace (workloadFor request) [referenceNode request] =
      (some placement, trace) ∧ placement.nodeId = "local-reference" ∧
        placement.deviceId = "host-cpu" := by
  refine ⟨_, _, rfl, rfl, rfl⟩

/-- Every request is admitted, and placed on the one device of the reference node. -/
theorem schedule_eq (request : OperationRequest) (nowUs : Int) :
    ∃ placement trace, schedule request nowUs = (do
      append request .observation "SchedulerDecision" "SELECTED" (.trace trace)
        (scheduleKey request.operationId)
      return (placement, trace)) ∧
        placement.nodeId = "local-reference" ∧ placement.deviceId = "host-cpu" := by
  obtain ⟨placement, trace, placed, node, device⟩ := reference_placed request
  refine ⟨placement, trace, ?_, node, device⟩
  unfold schedule
  rw [admission_admits, placed]

/-! ### The lease -/

def fencingFailure : KernelError := .resource "new resource lease failed fencing validation"

/-- The journaled grant and its fencing check. A failure of either gives the
lease back in memory only. -/
def activateLease (request : OperationRequest) (fenced : FencedLease) : Fallible FencedLease :=
  ExceptT.mk do
    match ← (append request .commit "ResourceLease" "ACTIVE" (.fencedLease fenced)
        (grantKey request.operationId fenced.lease.leaseId)).run with
    | .error error =>
        let _ ← Task.release fenced.lease.leaseId
        return .error error
    | .ok () =>
        if ← Task.authorize fenced.lease.leaseId fenced.fencingToken then
          return .ok fenced
        else
          let _ ← Task.release fenced.lease.leaseId
          return .error fencingFailure

def grantLease (request : OperationRequest) (placement : PlacementDecision) :
    Fallible FencedLease := do
  let fenced ← resourceError (Task.grantFenced request.workloadId "kernel-runtime"
    placement.resourcesReserved placement.nodeId placement.deviceId true)
  activateLease request fenced

/-! ### Bookkeeping after an execution -/

/-- `bookkeeping_error = Some(error)`: the later error wins. -/
def overrideError {α : Type} (bookkeeping : Option KernelError) :
    Except KernelError α → Option KernelError
  | .ok _ => bookkeeping
  | .error error => some error

/-- `bookkeeping_error.get_or_insert(error)`: the earlier error wins. -/
def getOrInsert {α : Type} (bookkeeping : Option KernelError) :
    Except KernelError α → Option KernelError
  | .ok _ => bookkeeping
  | .error error => some (bookkeeping.getD error)

def failureCode : Except KernelError OperationReceipt → Option String
  | .ok _ => none
  | .error error => some error.code

def executionOutcome (failureCode : Option String) : String :=
  if failureCode.isSome then "FAILED" else "COMPLETED"

/-- The entry of `ExecutionProfileStore::record`. -/
def profileEntry (profile : ExecutionProfile) : Entry where
  sequence := 0
  workloadId := profile.workloadId
  entryType := .observation
  objectType := "ExecutionProfile"
  objectId := profile.operationId ++ ":" ++ profile.provider ++ ":" ++
    executionOutcome profile.failureCode
  previousPhase := none
  newPhase := executionOutcome profile.failureCode
  generation := 1
  payload := .profile profile
  fencingToken := ""
  actor := "kernel-runtime"
  idempotencyKey := some (profileKey profile.operationId profile.provider
    (executionOutcome profile.failureCode))
  timestampUs := profile.recordedAtUs

def recordProfile (profile : ExecutionProfile) : Fallible Unit := do
  let recordedAtUs ← lift Task.now
  let _ ← journalError (Task.append (profileEntry { profile with recordedAtUs }))
  return ()

/-- `format!("{:?}", domain).to_lowercase()`. -/
def ProviderRuntimeClass.lowercase : ProviderRuntimeClass → String
  | .remote => "remote"
  | .local => "local"
  | .edge => "edge"
  | .reference => "reference"
  | .unknown => "unknown"

def failurePayload (error : KernelError) : Payload :=
  .failure error.code error.category error.retryable error.sourceComponent

/-- The two entries of a failed execution. -/
def recordFailure (request : OperationRequest) (bookkeeping : Option KernelError) :
    Except KernelError OperationReceipt → Task (Option KernelError)
  | .ok _ => return bookkeeping
  | .error error => do
      let aborted ← (append request .abort "Operation" error.code (failurePayload error)
        (abortKey request.operationId request.snapshot.providerRevision)).run
      let observed ← (append request .observation "OperationFailure" error.code
        (failurePayload error) (failureKey request.operationId)).run
      return overrideError (overrideError bookkeeping aborted) observed

def finalPhase : Except KernelError OperationReceipt → EntryType × String
  | .ok _ => (.commit, "COMPLETED")
  | .error (.cancelled _) => (.commit, "CANCELLED")
  | .error _ => (.transition, "FAILED")

theorem finalPhase_ne_intent (execution : Except KernelError OperationReceipt) :
    (finalPhase execution).1 ≠ .intent := by
  unfold finalPhase
  split <;> simp

/-- The final workload entry, and the release of the lease in memory and in the
journal. -/
def closeLease (request : OperationRequest) (leaseId : String) (final : EntryType × String)
    (bookkeeping : Option KernelError) : Task (Option KernelError) := do
  let closed ← (append request final.1 "Workload" final.2
    (.workload request.workloadId final.2) (workloadKey request.operationId final.2)).run
  let released ← (resourceError (Task.release leaseId)).run
  let journaled ← (append request .commit "ResourceLease" "RELEASED" (.leaseReleased leaseId)
    (releaseKey request.operationId leaseId)).run
  return getOrInsert (getOrInsert (getOrInsert bookkeeping closed) released) journaled

/-- All that follows an execution: its profile, the failure entries, the release
of its lease, and the result. -/
def settle (request : OperationRequest) (leaseId : String) (trace : DecisionTrace)
    (profile : ExecutionProfile) (execution : Except KernelError OperationReceipt) :
    Task (Except KernelError RuntimeExecution) := do
  let profiled ← (recordProfile profile).run
  Task.activeRemove request.workloadId
  let bookkeeping ← recordFailure request (overrideError none profiled) execution
  let bookkeeping ← closeLease request leaseId (finalPhase execution) bookkeeping
  match bookkeeping with
  | some error => return .error error
  | none => return execution.map fun receipt => ⟨request.workloadId, receipt, trace⟩

/-! ### One execution -/

def elapsedMs (started finished : Int) : Nat := ((finished - started) / 1000).toNat

/-- The part of an execution that runs under an authorized lease. -/
def executeLeased (request : OperationRequest) (recovered : Bool) (admittedStarted : Int)
    (placement : PlacementDecision) (trace : DecisionTrace) (fenced : FencedLease) :
    Fallible RuntimeExecution := ExceptT.mk do
  let cancellation ← Task.newCancellation
  Task.activeInsert request.workloadId ⟨request.operationId, request, cancellation⟩
  let executionStarted ← Task.now
  let queued ← Task.now
  let execution ← (executeCancellable request cancellation).run
  let executed ← Task.now
  settle request fenced.lease.leaseId trace
    { operationId := request.operationId
      workloadId := request.workloadId
      taskClass := (workloadFor request).schedulingClass.lowercase
      model := request.model
      provider := request.snapshot.providerRevision
      executionDomain := request.executionDomain.lowercase
      device := placement.deviceId
      latencyMs := elapsedMs executionStarted executed
      queueLatencyMs := elapsedMs admittedStarted queued
      recoveryLatencyMs := if recovered then some (elapsedMs admittedStarted queued) else none
      failureCode := failureCode execution
      recovered := recovered
      recordedAtUs := 0 }
    execution

def executeInternal (request : OperationRequest) (recovered : Bool) :
    Fallible RuntimeExecution := do
  let admittedStarted ← lift Task.now
  match request.validateSensitiveReferences with
  | .error reason => throw (.admission reason)
  | .ok () => do
      if (← lift Task.kernelState) = .shuttingDown then
        throw .shuttingDown
      else
        match ← committedReceipt request with
        | some receipt => do
            let trace ← latestDecisionTrace request.operationId
            return ⟨request.workloadId, receipt, trace.getD replayTrace⟩
        | none => do
            let (placement, trace) ← schedule request admittedStarted
            let fenced ← grantLease request placement
            executeLeased request recovered admittedStarted placement trace fenced

def failureOf {α : Type} : Except KernelError α → Option KernelError
  | .ok _ => none
  | .error error => some error

/-- `executeInternal` with its start and its result noted in the history. -/
def attempt (request : OperationRequest) (recovered : Bool) : Fallible RuntimeExecution :=
  ExceptT.mk do
    Task.attempt request
    let result ← (executeInternal request recovered).run
    Task.finish request (failureOf result)
    return result

def execute (request : OperationRequest) : Fallible RuntimeExecution := attempt request false

end NousKernel
