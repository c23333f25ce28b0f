import NousKernel.Results
import NousKernel.Json
import NousKernel.Storage

/-!
The contracts of extensions (`nous-types/src/open_runtime.rs`): what an admission,
an approval, an execution and a revocation carry, the checks they pass, and what the
kernel decides. A `BTreeMap` is an `ExtTreeMap`, whose list is in the order of the keys.
-/

set_option autoImplicit false

namespace NousKernel

open Results

abbrev TextMap (V : Type) : Type := Std.ExtTreeMap String V

structure RuntimeContractError where
  contract : String
  field : String
  message : String
  deriving DecidableEq

def RuntimeContractError.display (error : RuntimeContractError) : String :=
  "invalid " ++ error.contract ++ " field '" ++ error.field ++ "': " ++ error.message

/-- The check passes, or the field is reported. -/
def check (passes : Bool) (contract field message : String) : Except RuntimeContractError Unit :=
  if passes then .ok () else .error ⟨contract, field, message⟩

theorem check_ok {passes : Bool} {contract field message : String} :
    check passes contract field message = .ok () ↔ passes = true := by
  cases passes <;> simp [check]

/-- `char::is_whitespace`. -/
def isWhitespace (c : Char) : Bool :=
  (9 ≤ c.toNat && c.toNat ≤ 13) || c.toNat = 0x20 || c.toNat = 0x85 || c.toNat = 0xa0 ||
    c.toNat = 0x1680 || (0x2000 ≤ c.toNat && c.toNat ≤ 0x200a) || c.toNat = 0x2028 ||
    c.toNat = 0x2029 || c.toNat = 0x202f || c.toNat = 0x205f || c.toNat = 0x3000

/-- `value.trim().is_empty()`. -/
def isBlank (value : String) : Bool := value.toList.all isWhitespace

theorem isBlank_append {first : String} (rest : String) (solid : isBlank first = false) :
    isBlank (first ++ rest) = false := by
  rw [isBlank, String.toList_append, List.all_append]
  rw [isBlank] at solid
  rw [solid, Bool.false_and]

def required (contract field value : String) : Except RuntimeContractError Unit :=
  check (!isBlank value) contract field "must not be empty"

theorem required_ok {contract field value : String} :
    required contract field value = .ok () ↔ isBlank value = false := by
  rw [required, check_ok, Bool.not_eq_true']

def openRuntimeSchemaVersion : Nat := 1

def schema (contract : String) (version : Nat) : Except RuntimeContractError Unit :=
  check (version = openRuntimeSchemaVersion) contract "schema_version"
    ("expected " ++ toString openRuntimeSchemaVersion ++ ", found " ++ toString version)

theorem schema_ok {contract : String} {version : Nat} :
    schema contract version = .ok () ↔ version = openRuntimeSchemaVersion := by
  rw [schema, check_ok, decide_eq_true_eq]

def isAsciiLowercase (c : Char) : Bool := 'a' ≤ c && c ≤ 'z'

def capabilitySegment (segment : List Char) : Bool :=
  segment ≠ [] && segment.all fun c => isAsciiLowercase c || isAsciiDigit c || c = '_' || c = '-'

def capabilityName (value : String) : Bool :=
  (value.toList.splitOn '.').all capabilitySegment && '.' ∈ value.toList

/-- `is_ascii_hexdigit` and not `is_ascii_uppercase`. -/
def isLowerHexDigit (c : Char) : Bool := isAsciiDigit c || ('a' ≤ c && c ≤ 'f')

/-- The check of a digest, written out at each use in the source. -/
def lowercaseDigest (value : String) : Bool :=
  byteLength value = 71 && "sha256:".toList.isPrefixOf value.toList &&
    (value.toList.drop 7).all isLowerHexDigit

/-- No value of a scope is empty or holds a NUL. -/
def scopeValues (scope : List String) : Bool :=
  !scope.any fun item => item = "" || '\x00' ∈ item.toList

structure ExtensionCapabilityRequest where
  capability : String
  access : String
  scope : List String
  reason : String
  required : Bool
  deriving DecidableEq

structure ExtensionAdmissionRequest where
  schemaVersion : Nat
  extensionId : String
  version : String
  contentDigest : String
  sourceFormat : String
  compatibilityLevel : Nat
  kinds : List String
  capabilityRequests : List ExtensionCapabilityRequest
  executor : String
  metadata : TextMap String
  deriving DecidableEq

structure ExtensionAdmissionDecision where
  admitted : Bool
  extensionId : String
  normalizedDigest : String
  requestedCapabilities : List String
  grantedCapabilities : List String
  deniedCapabilities : List String
  approvalRequired : Bool
  executorConstraints : TextMap String
  scopeConstraints : TextMap (List String)
  policyVersion : String
  decisionReason : String
  receiptId : String
  deriving DecidableEq

structure ExtensionAuthorizationRequest where
  admission : ExtensionAdmissionRequest
  admissionReceiptId : String
  approvalId : String
  approvedCapabilities : List String
  deriving DecidableEq

structure ExtensionExecutionRequest where
  schemaVersion : Nat
  operationId : String
  extensionId : String
  contentDigest : String
  authorizationReceiptId : String
  capability : String
  operation : String
  parameterHash : String
  executor : String
  scope : List String
  deriving DecidableEq

structure ExtensionExecutionPermit where
  allowed : Bool
  operationId : String
  actor : String
  extensionId : String
  contentDigest : String
  authorizationReceiptId : String
  capability : String
  operation : String
  parameterHash : String
  executor : String
  policyVersion : String
  decisionReason : String
  issuedAtUs : Int
  permitId : String
  deriving DecidableEq

structure ExtensionRevocationRequest where
  schemaVersion : Nat
  extensionId : String
  contentDigest : String
  authorizationReceiptId : String
  reason : String
  deriving DecidableEq

def ExtensionCapabilityRequest.validate (request : ExtensionCapabilityRequest) :
    Except RuntimeContractError Unit := do
  check (capabilityName request.capability) "ExtensionAdmissionRequest"
    "capability_requests.capability" "must be a namespaced capability identifier"
  check (request.access ∈ ["read", "write", "execute", "connect", "use"])
    "ExtensionAdmissionRequest" "capability_requests.access"
    "must be read, write, execute, connect, or use"
  check (scopeValues request.scope) "ExtensionAdmissionRequest" "capability_requests.scope"
    "must contain non-empty, NUL-free values"

namespace ExtensionAdmissionRequest

def supplyChainDigests : List String :=
  ["normalized_ir_digest", "sbom_digest", "provenance_digest", "signature_digest"]

def allowedKinds : List String :=
  ["skill", "tool", "plugin", "provider", "agent", "template", "pack"]

def validate (request : ExtensionAdmissionRequest) : Except RuntimeContractError Unit := do
  let contract := "ExtensionAdmissionRequest"
  schema contract request.schemaVersion
  required contract "extension_id" request.extensionId
  required contract "version" request.version
  required contract "source_format" request.sourceFormat
  check (request.compatibilityLevel ≤ 5) contract "compatibility_level" "must be between C0 and C5"
  check (lowercaseDigest request.contentDigest) contract "content_digest"
    "must be a lowercase sha256 digest"
  check (request.metadata["authority"]? = some "none") contract "metadata.authority"
    "must be none at admission"
  check (request.metadata["supply_chain_verified"]? = some "true") contract
    "metadata.supply_chain_verified" "must confirm local evidence verification"
  supplyChainDigests.forM fun field =>
    check (lowercaseDigest (request.metadata[field]?.getD "")) contract
      "metadata.supply_chain_digest" (field ++ " must be a lowercase sha256 digest")
  check (request.metadata["signature_status"]? = some "Unsigned" ||
      request.metadata["signature_status"]? = some "Verified") contract
    "metadata.signature_status" "must be Unsigned or cryptographically Verified"
  check (request.kinds ≠ [] && request.kinds.all (· ∈ allowedKinds)) contract "kinds"
    "must contain known extension kinds"
  check (request.kinds.Nodup) contract "kinds" "must not contain duplicates"
  request.capabilityRequests.forM (·.validate)
  check (!("plugin" ∈ request.kinds && request.executor = "")) contract "executor"
    "code-bearing plugins must select a governed executor class"

/-- The capabilities that are requested, in the order of the requests. -/
def requested (request : ExtensionAdmissionRequest) : List String :=
  request.capabilityRequests.map (·.capability)

end ExtensionAdmissionRequest

def ExtensionAuthorizationRequest.validate (request : ExtensionAuthorizationRequest) :
    Except RuntimeContractError Unit := do
  request.admission.validate
  let contract := "ExtensionAuthorizationRequest"
  required contract "admission_receipt_id" request.admissionReceiptId
  required contract "approval_id" request.approvalId
  check (request.approvedCapabilities.Nodup &&
      request.approvedCapabilities.all (· ∈ request.admission.requested))
    contract "approved_capabilities" "must be a unique subset of requested capabilities"

def ExtensionExecutionRequest.validate (request : ExtensionExecutionRequest) :
    Except RuntimeContractError Unit := do
  let contract := "ExtensionExecutionRequest"
  schema contract request.schemaVersion
  required contract "operation_id" request.operationId
  required contract "extension_id" request.extensionId
  required contract "authorization_receipt_id" request.authorizationReceiptId
  required contract "operation" request.operation
  check (capabilityName request.capability) contract "capability"
    "must be a namespaced capability identifier"
  check (lowercaseDigest request.contentDigest) contract "content_digest"
    "must be a lowercase sha256 digest"
  check (lowercaseDigest request.parameterHash) contract "parameter_hash"
    "must be a lowercase sha256 digest"
  check (scopeValues request.scope) contract "scope" "must contain non-empty, NUL-free values"

def ExtensionRevocationRequest.validate (request : ExtensionRevocationRequest) :
    Except RuntimeContractError Unit := do
  let contract := "ExtensionRevocationRequest"
  schema contract request.schemaVersion
  required contract "extension_id" request.extensionId
  required contract "authorization_receipt_id" request.authorizationReceiptId
  check (lowercaseDigest request.contentDigest) contract "content_digest"
    "must be a lowercase sha256 digest"

/-! ### What the checks ensure -/

theorem ExtensionAdmissionRequest.validate_ok {request : ExtensionAdmissionRequest}
    (valid : request.validate = .ok ()) :
    isBlank request.extensionId = false ∧ lowercaseDigest request.contentDigest = true ∧
      ∀ capability ∈ request.requested, capabilityName capability = true := by
  simp only [validate, checks_ok, check_ok, required_ok, forM_ok] at valid
  obtain ⟨_, identity, _, _, _, digest, _, _, _, _, _, _, requests, _⟩ := valid
  refine ⟨identity, digest, ?_⟩
  intro capability asked
  obtain ⟨item, listed, rfl⟩ := List.mem_map.mp asked
  have passes := requests item listed
  simp only [ExtensionCapabilityRequest.validate, checks_ok, check_ok] at passes
  exact passes.1

theorem ExtensionAuthorizationRequest.validate_ok {request : ExtensionAuthorizationRequest}
    (valid : request.validate = .ok ()) :
    request.admission.validate = .ok () ∧
      ∀ capability ∈ request.approvedCapabilities, capability ∈ request.admission.requested := by
  simp only [validate, checks_ok, check_ok, Bool.and_eq_true, List.all_eq_true,
    decide_eq_true_eq] at valid
  exact ⟨valid.1, valid.2.2.2.2⟩

end NousKernel
