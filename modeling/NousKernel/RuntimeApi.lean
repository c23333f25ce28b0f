import Mathlib.Algebra.Ring.Int.Defs
import Mathlib.Algebra.Ring.Nat
import Mathlib.Data.List.Infix

/-!
The request, receipt and error types of the runtime boundary
(`nous-types/src/runtime_api.rs`, `nous-kernel-core/src/lib.rs`) and the checks a
request passes before anything is journaled.
-/

set_option autoImplicit false

namespace NousKernel

inductive ProviderRuntimeClass where
  | remote
  | local
  | edge
  | reference
  | unknown
  deriving DecidableEq, Repr

inductive DeliverySemantics where
  | atMostOnce
  | atLeastOnce
  | idempotent
  | compensatable
  | externalCommit
  | reconcilable
  | unknown
  deriving DecidableEq, Repr

structure SemanticExecutionSnapshot where
  modelRevision : String
  providerRevision : String
  promptRevision : String
  toolRevision : String
  knowledgeRevision : String
  policyRevision : String
  capabilityRevision : String
  contextRevision : String
  deriving DecidableEq, Repr

structure OperationRequest where
  operationId : String
  workloadId : String
  stepId : String
  backend : String
  executionDomain : ProviderRuntimeClass
  model : String
  endpoint : String
  credentialEnv : String
  providerEntrypoint : String
  input : String
  delivery : DeliverySemantics
  snapshot : SemanticExecutionSnapshot
  timeoutMs : Nat
  deriving DecidableEq, Repr

structure ProviderProbeRequest where
  provider : String
  backend : String
  executionDomain : ProviderRuntimeClass
  model : String
  endpoint : String
  credentialEnv : String
  providerEntrypoint : String
  timeoutMs : Nat
  deriving DecidableEq, Repr

structure OperationReceipt where
  operationId : String
  inputDigest : String
  outputDigest : String
  snapshotDigest : String
  providerRevision : String
  result : String
  completedAtUs : Int
  deriving DecidableEq, Repr

inductive KernelState where
  | starting
  | recovering
  | ready
  | degraded
  | failed
  | shuttingDown
  deriving DecidableEq, Repr

inductive KernelError where
  | journal (message : String)
  | provider (message : String)
  | serialization (message : String)
  | unsafeRecovery (operationId : String)
  | cancelled (operationId : String)
  | deadlineExceeded (operationId : String)
  | admission (reason : String)
  | scheduling (reason : String)
  | resource (message : String)
  | shuttingDown
  deriving DecidableEq, Repr

namespace KernelError

def code : KernelError → String
  | journal _ => "JOURNAL_ERROR"
  | provider _ => "PROVIDER_ERROR"
  | serialization _ => "SERIALIZATION_ERROR"
  | unsafeRecovery _ => "UNSAFE_RECOVERY"
  | cancelled _ => "OPERATION_CANCELLED"
  | deadlineExceeded _ => "DEADLINE_EXCEEDED"
  | admission _ => "ADMISSION_DENIED"
  | scheduling _ => "NO_FEASIBLE_PLACEMENT"
  | resource _ => "RESOURCE_ERROR"
  | shuttingDown => "KERNEL_SHUTTING_DOWN"

def category : KernelError → String
  | journal _ | serialization _ => "state"
  | provider _ => "provider"
  | unsafeRecovery _ | cancelled _ | deadlineExceeded _ | shuttingDown => "execution"
  | admission _ | resource _ => "resource"
  | scheduling _ => "scheduler"

def retryable : KernelError → Bool
  | provider _ | resource _ | deadlineExceeded _ => true
  | _ => false

def sourceComponent : KernelError → String
  | journal _ | serialization _ => "nous-state"
  | provider _ => "provider-runtime"
  | scheduling _ => "nous-scheduler"
  | admission _ | resource _ => "nous-resource"
  | unsafeRecovery _ | cancelled _ | deadlineExceeded _ | shuttingDown => "nous-kernel-core"

/-- `KernelError::to_string`. -/
def display : KernelError → String
  | .journal message => "journal error: " ++ message
  | .provider message => "provider process error: " ++ message
  | .serialization message => "serialization error: " ++ message
  | .unsafeRecovery operationId => "unsafe recovery for operation " ++ operationId
  | .cancelled operationId => "operation cancelled: " ++ operationId
  | .deadlineExceeded operationId => "operation deadline exceeded: " ++ operationId
  | .admission reason => "admission denied: " ++ reason
  | .scheduling reason => "scheduling failed: " ++ reason
  | .resource message => "resource error: " ++ message
  | .shuttingDown => "kernel is shutting down"

end KernelError

/-- The codes of `nous-types/src/error.rs` that the modelled components return. -/
inductive ErrorCode where
  | notFound
  | alreadyExists
  | permissionDenied
  | failedPrecondition
  | internal
  | dataLoss
  | workloadConflict
  | resourceInsufficient
  | leaseExpired
  | leaseConflict
  | securityPolicy
  deriving DecidableEq, Repr

def ErrorCode.name : ErrorCode → String
  | notFound => "NotFound"
  | alreadyExists => "AlreadyExists"
  | permissionDenied => "PermissionDenied"
  | failedPrecondition => "FailedPrecondition"
  | internal => "Internal"
  | dataLoss => "DataLoss"
  | workloadConflict => "WorkloadConflict"
  | resourceInsufficient => "ResourceInsufficient"
  | leaseExpired => "LeaseExpired"
  | leaseConflict => "LeaseConflict"
  | securityPolicy => "SecurityPolicy"

structure NousError where
  code : ErrorCode
  message : String
  deriving DecidableEq, Repr

/-- `NousError::to_string`. -/
def NousError.display (error : NousError) : String := error.code.name ++ ": " ++ error.message

def isAsciiAlphabetic (c : Char) : Bool :=
  ('a' ≤ c && c ≤ 'z') || ('A' ≤ c && c ≤ 'Z')

def isAsciiDigit (c : Char) : Bool := '0' ≤ c && c ≤ '9'

def isAsciiAlphanumeric (c : Char) : Bool := isAsciiAlphabetic c || isAsciiDigit c

/-- `str::contains`. -/
def containsText (text part : String) : Bool := part.toList <:+: text.toList

/-- `str::len` counts bytes. -/
def byteLength (s : String) : Nat := s.utf8ByteSize

def validateCredentialReference (reference : String) : Except String Unit :=
  match reference.toList with
  | [] => .ok ()
  | first :: characters =>
      if (first == '_' || isAsciiAlphabetic first) && byteLength reference ≤ 128 &&
          characters.all (fun character => character == '_' || isAsciiAlphanumeric character) then
        .ok ()
      else
        .error "credential must be an environment-variable name, not a credential value"

/-- `str::split_once` at a separator of several characters. -/
def splitOnce (separator : List Char) : List Char → Option (List Char × List Char)
  | [] => if separator = [] then some ([], []) else none
  | c :: rest =>
      if separator <+: c :: rest then some ([], (c :: rest).drop separator.length)
      else (splitOnce separator rest).map fun parts => (c :: parts.1, parts.2)

def validateEndpointReference (endpoint : String) : Except String Unit :=
  if endpoint.toList = [] then .ok ()
  else if '?' ∈ endpoint.toList ∨ '#' ∈ endpoint.toList then
    .error "endpoint must not contain query parameters or fragments"
  else
    -- The authority is what stands between "://" and the next '/'.
    let authority := match splitOnce "://".toList endpoint.toList with
      | some (_, value) => value.takeWhile (· ≠ '/')
      | none => []
    if authority = [] ∨ '@' ∈ authority then
      .error "endpoint is invalid or contains user information"
    else .ok ()

/-- The segments between '/' characters. -/
def segments : List Char → List (List Char)
  | [] => [[]]
  | c :: rest =>
      if c = '/' then [] :: segments rest
      else match segments rest with
        | [] => [[c]]
        | first :: others => (c :: first) :: others

/-- `Component::ParentDir` of a Unix path is a segment equal to "..". -/
def validateProviderEntrypoint (entrypoint : String) : Except String Unit :=
  if entrypoint.toList = [] then .ok ()
  else if ['.', '.'] ∈ segments entrypoint.toList then
    .error "provider entrypoint must not traverse parent directories"
  else if '\x00' ∈ entrypoint.toList then
    .error "provider entrypoint contains a null byte"
  else .ok ()

def validateReferences (credentialEnv endpoint providerEntrypoint : String) :
    Except String Unit := do
  validateCredentialReference credentialEnv
  validateEndpointReference endpoint
  validateProviderEntrypoint providerEntrypoint

def OperationRequest.validateSensitiveReferences (request : OperationRequest) :
    Except String Unit :=
  validateReferences request.credentialEnv request.endpoint request.providerEntrypoint

def ProviderProbeRequest.validateSensitiveReferences (request : ProviderProbeRequest) :
    Except String Unit :=
  validateReferences request.credentialEnv request.endpoint request.providerEntrypoint

end NousKernel
