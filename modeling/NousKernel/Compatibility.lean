import NousKernel.RuntimeApi

/-!
Capability manifests and the compatibility gate of a failover candidate
(`nous-kernel-core/src/provider.rs`), and the continuity plan
(`continuity.rs`).
-/

set_option autoImplicit false

namespace NousKernel

inductive CapabilitySupport where
  | supported
  | unsupported
  | unknown
  deriving DecidableEq, Repr

structure ModelCapabilityManifest where
  provider : String
  backend : String
  model : String
  runtimeClass : ProviderRuntimeClass
  chat : CapabilitySupport
  streaming : CapabilitySupport
  tools : CapabilitySupport
  structuredOutput : CapabilitySupport
  vision : CapabilitySupport
  embedding : CapabilitySupport
  reasoning : CapabilitySupport
  localExecution : CapabilitySupport
  contextLength : Option Nat
  privacyLocal : Bool
  deriving DecidableEq, Repr

structure ProviderProbeReport where
  reachable : Bool
  latencyMs : Nat
  availableModels : List String
  capabilities : ModelCapabilityManifest
  warnings : List String
  deriving DecidableEq, Repr

structure ModelCompatibilityRequirements where
  chat : Bool
  streaming : Bool
  tools : Bool
  structuredOutput : Bool
  vision : Bool
  embedding : Bool
  reasoning : Bool
  minContextLength : Nat
  localOnly : Bool
  deriving DecidableEq, Repr

inductive ModelCompatibility where
  | compatible
  | rebindable
  | degraded
  | incompatible
  deriving DecidableEq, Repr

structure CompatibilityReport where
  classification : ModelCompatibility
  reasons : List String
  deriving DecidableEq, Repr

/-- The seven capability checks, in the order of the source's table. -/
def capabilityChecks (requirements : ModelCompatibilityRequirements)
    (manifest : ModelCapabilityManifest) : List (Bool × CapabilitySupport × String) :=
  [(requirements.chat, manifest.chat, "chat"),
   (requirements.streaming, manifest.streaming, "streaming"),
   (requirements.tools, manifest.tools, "tools"),
   (requirements.structuredOutput, manifest.structuredOutput, "structured_output"),
   (requirements.vision, manifest.vision, "vision"),
   (requirements.embedding, manifest.embedding, "embedding"),
   (requirements.reasoning, manifest.reasoning, "reasoning")]

def incompatibleReasons (requirements : ModelCompatibilityRequirements)
    (manifest : ModelCapabilityManifest) : List String :=
  ((capabilityChecks requirements manifest).filter fun check =>
      check.1 && check.2.1 == .unsupported).map (fun check =>
        "missing " ++ check.2.2 ++ " capability") ++
  (if requirements.localOnly &&
      (!manifest.privacyLocal || manifest.localExecution != .supported) then
    ["privacy policy requires local execution"] else []) ++
  (match manifest.contextLength with
    | some length =>
        if length < requirements.minContextLength then
          ["context length " ++ toString length ++ " is below required " ++
            toString requirements.minContextLength] else []
    | none => [])

def unknownReasons (requirements : ModelCompatibilityRequirements)
    (manifest : ModelCapabilityManifest) : List String :=
  ((capabilityChecks requirements manifest).filter fun check =>
      check.1 && check.2.1 == .unknown).map (fun check =>
        check.2.2 ++ " capability is unverified") ++
  (if manifest.contextLength = none ∧ 0 < requirements.minContextLength then
    ["context length is unverified"] else [])

def assessCompatibility (requirements : ModelCompatibilityRequirements)
    (manifest : ModelCapabilityManifest) : CompatibilityReport where
  classification :=
    if !(incompatibleReasons requirements manifest).isEmpty then .incompatible
    else if !(unknownReasons requirements manifest).isEmpty then .degraded
    else .compatible
  reasons := incompatibleReasons requirements manifest ++ unknownReasons requirements manifest

structure FailoverCandidate where
  request : OperationRequest
  capabilities : ModelCapabilityManifest
  deriving DecidableEq, Repr

structure ContinuityStep where
  stepId : String
  requirements : ModelCompatibilityRequirements
  allowDegraded : Bool
  candidates : List FailoverCandidate
  deriving DecidableEq, Repr

structure ContinuityPlan where
  workloadId : String
  processIdentity : String
  steps : List ContinuityStep
  deriving DecidableEq, Repr

structure FailoverRecord where
  stepId : String
  fromProvider : String
  toProvider : String
  failureCode : String
  compatibility : CompatibilityReport
  deriving DecidableEq, Repr

/-- A candidate must keep the plan's workload, the step and the step's operation,
and its request must name the backend and model of its manifest. -/
def validateContinuityCandidate (plan : ContinuityPlan) (stepId operationId : String)
    (request : OperationRequest) (capabilities : ModelCapabilityManifest) :
    Except KernelError Unit :=
  if request.workloadId ≠ plan.workloadId ∨ request.stepId ≠ stepId ∨
      request.operationId ≠ operationId then
    .error (.admission
      "failover candidates must preserve workload, step, and operation identities")
  else if capabilities.backend ≠ request.backend ∨
      (request.model ≠ "" ∧ capabilities.model ≠ request.model) then
    .error (.admission "candidate request does not match its capability manifest")
  else .ok ()

end NousKernel
