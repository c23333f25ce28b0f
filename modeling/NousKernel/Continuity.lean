import NousKernel.Coordinator

/-!
`KernelRuntime::execute_continuously` and what it records, `KernelRuntime::cancel`
and `KernelRuntime::shutdown` (`nous-kernel-core/src/coordinator.rs`).
-/

set_option autoImplicit false

namespace NousKernel

open Resumption

structure ContinuityExecution where
  workloadId : String
  processIdentity : String
  completedSteps : List RuntimeExecution
  failovers : List FailoverRecord
  deriving DecidableEq

def recordRebind (request : OperationRequest) (fromProvider : String) (failure : KernelError)
    (compatibility : CompatibilityReport) : Fallible Unit := do
  append request .intent "Operation" "REBOUND" (.request request)
    (rebindKey request.operationId request.snapshot.providerRevision)
  append request .observation "ProviderRebind" "SELECTED"
    (.rebind fromProvider request.snapshot.providerRevision failure.code compatibility)
    (providerRebindKey request.operationId request.snapshot.providerRevision)

def recordCandidateOutcome (request : OperationRequest) (provider phase reason : String) :
    Fallible Unit :=
  append request .observation "ProviderCandidate" phase (.candidate provider reason)
    (candidateKey request.operationId provider phase)

def probeProvider (probe : ProviderProbeRequest) : Fallible ProviderProbeReport :=
  match probe.validateSensitiveReferences with
  | .error reason => throw (.admission reason)
  | .ok () => ExceptT.mk (Task.providerProbe probe)

def probeOf (candidate : FailoverCandidate) : ProviderProbeRequest where
  provider := candidate.capabilities.provider
  backend := candidate.request.backend
  executionDomain := candidate.request.executionDomain
  model := candidate.request.model
  endpoint := candidate.request.endpoint
  credentialEnv := candidate.request.credentialEnv
  providerEntrypoint := candidate.request.providerEntrypoint
  timeoutMs := candidate.request.timeoutMs

/-- A reference provider is taken at its manifest, any other one is probed. -/
def effectiveCapabilities (candidate : FailoverCandidate) : Fallible ModelCapabilityManifest :=
  if candidate.capabilities.runtimeClass = .reference then
    return candidate.capabilities
  else do
    let report ← probeProvider (probeOf candidate)
    return report.capabilities

/-- The locals of the candidate loop. -/
structure StepProgress where
  lastFailure : Option (String × KernelError) := none
  lastRejection : Option KernelError := none
  lastOutcomeWasRejection : Bool := false
  failovers : List FailoverRecord

def rejected (step : ContinuityStep) (report : CompatibilityReport) : Bool :=
  report.classification == .incompatible ||
    (report.classification == .degraded && !step.allowDegraded)

/-- After a failure a compatible provider counts as a rebind. -/
def reclassify (lastFailure : Option (String × KernelError)) (report : CompatibilityReport) :
    CompatibilityReport :=
  if lastFailure.isSome && report.classification == .compatible then
    { classification := .rebindable
      reasons := report.reasons ++
        ["provider rebind required; kernel state remains authoritative"] }
  else report

/-- The rebind entries of a candidate that follows a failed one. -/
def rebindAfter (stepId : String) (candidate : FailoverCandidate) (toProvider : String)
    (report : CompatibilityReport) (progress : StepProgress) : Fallible StepProgress :=
  match progress.lastFailure with
  | none => return progress
  | some (failedProvider, error) => do
      recordRebind candidate.request failedProvider error report
      return { progress with failovers := progress.failovers ++
        [{ stepId, fromProvider := failedProvider, toProvider
           failureCode := error.code, compatibility := report }] }

/-- What one candidate leads to: the step is done, or the next candidate's turn
comes. An error that ends the plan is thrown. -/
def tryCandidate (plan : ContinuityPlan) (step : ContinuityStep) (operationId : String)
    (candidate : FailoverCandidate) (progress : StepProgress) :
    Fallible (Option RuntimeExecution × StepProgress) := do
  recordCandidateOutcome candidate.request candidate.capabilities.provider "EVALUATING"
    "candidate entered compatibility pipeline"
  ExceptT.mk (pure (validateContinuityCandidate plan step.stepId operationId candidate.request
    candidate.capabilities))
  match ← resultOf (effectiveCapabilities candidate) with
  | .error error =>
      if error.retryable then do
        recordCandidateOutcome candidate.request candidate.capabilities.provider "UNAVAILABLE"
          error.code
        return (none, { progress with
          lastFailure := some (candidate.capabilities.provider, error)
          lastOutcomeWasRejection := false })
      else throw error
  | .ok effective =>
      let report := assessCompatibility step.requirements effective
      if rejected step report then do
        recordCandidateOutcome candidate.request effective.provider "INCOMPATIBLE"
          (", ".intercalate report.reasons)
        return (none, { progress with
          lastRejection := some (.scheduling ("provider '" ++ effective.provider ++
            "' failed compatibility gate: " ++ ", ".intercalate report.reasons))
          lastOutcomeWasRejection := true })
      else do
        let progress ← rebindAfter step.stepId candidate effective.provider
          (reclassify progress.lastFailure report) progress
        match ← resultOf (execute candidate.request) with
        | .ok execution => return (some execution, progress)
        | .error error =>
            if error.retryable then do
              recordCandidateOutcome candidate.request candidate.capabilities.provider
                "EXECUTION_FAILED" error.code
              return (none, { progress with
                lastFailure := some (candidate.capabilities.provider, error)
                lastOutcomeWasRejection := false })
            else throw error

def tryCandidates (plan : ContinuityPlan) (step : ContinuityStep) (operationId : String) :
    List FailoverCandidate → StepProgress →
      Fallible (Option RuntimeExecution × StepProgress)
  | [], progress => return (none, progress)
  | candidate :: rest, progress => do
      match ← tryCandidate plan step operationId candidate progress with
      | (some execution, progress) => return (some execution, progress)
      | (none, progress) => tryCandidates plan step operationId rest progress

/-- The error of a step that no candidate completed. -/
def stepFailure (step : ContinuityStep) (progress : StepProgress) : KernelError :=
  let failure := progress.lastFailure.map (·.2)
  let last := if progress.lastOutcomeWasRejection then progress.lastRejection <|> failure
    else failure <|> progress.lastRejection
  last.getD (.scheduling ("step '" ++ step.stepId ++
    "' has no compatible provider after evaluating " ++ toString step.candidates.length ++
      " candidates"))

def runStep (plan : ContinuityPlan) (step : ContinuityStep) (failovers : List FailoverRecord) :
    Fallible (RuntimeExecution × List FailoverRecord) :=
  match step.candidates with
  | [] => throw (.scheduling ("step '" ++ step.stepId ++ "' has no provider candidate"))
  | first :: rest => do
      match ← committedReceipt first.request with
      | some receipt => return (⟨plan.workloadId, receipt, replayTrace⟩, failovers)
      | none => do
          match ← tryCandidates plan step first.request.operationId (first :: rest)
              { failovers } with
          | (some execution, progress) => return (execution, progress.failovers)
          | (none, progress) => throw (stepFailure step progress)

def runSteps (plan : ContinuityPlan) :
    List ContinuityStep → List RuntimeExecution → List FailoverRecord →
      Fallible ContinuityExecution
  | [], completedSteps, failovers =>
      return { workloadId := plan.workloadId, processIdentity := plan.processIdentity
               completedSteps, failovers }
  | step :: rest, completedSteps, failovers => do
      let (execution, failovers) ← runStep plan step failovers
      runSteps plan rest (completedSteps ++ [execution]) failovers

def executeContinuously (plan : ContinuityPlan) : Fallible ContinuityExecution :=
  if plan.workloadId = "" ∨ plan.processIdentity = "" then
    throw (.admission "continuity plan requires workload and process identities")
  else runSteps plan plan.steps [] []

def cancel (workloadId : String) : Fallible String := do
  match ← lift (Task.activeGet workloadId) with
  | none => throw (.cancelled (workloadId ++ " is not active"))
  | some operation => do
      append operation.request .transition "Workload" "CANCELLATION_REQUESTED"
        (.cancellation workloadId operation.operationId) (cancellationKey operation.operationId)
      lift (Task.cancelToken operation.cancellation)
      return operation.operationId

/-- The source cancels under the lock of the active map. Here other calls may fall
between two cancellations. -/
def cancelOperations : List ActiveOperation → Task Unit
  | [] => return ()
  | operation :: rest => do
      Task.cancelToken operation.cancellation
      cancelOperations rest

/-- The loop that waits for the active map to be empty. A sleep takes at least its
ten milliseconds, so the deadline comes before the polls run out. -/
def awaitIdle (deadline : Int) : Nat → Fallible Unit
  | 0 => throw .shuttingDown
  | polls + 1 => do
      if ← lift Task.activeEmpty then
        return ()
      else if deadline ≤ (← lift Task.now) then
        throw .shuttingDown
      else do
        lift (Task.sleep 10000)
        awaitIdle deadline polls

def shutdown (timeoutUs : Nat) : Fallible Unit := do
  lift Task.coreShutdown
  let operations ← lift Task.activeOperations
  lift (cancelOperations operations)
  let started ← lift Task.now
  awaitIdle (started + timeoutUs) (timeoutUs / 10000 + 2)

end NousKernel
