import Mathlib.Data.Option.Basic
import NousKernel.OpenRuntime
import NousKernel.Transcript

/-!
The extension methods of `dispatch_request` (`daemon/nousd/src/main.rs`): admission,
approval, execution and revocation. Each method checks its request, reads the entries
of the extension, decides, and appends its decision. The journal is not held between
the read and the append. A payload that the journal stores is the value it encodes.
-/

set_option autoImplicit false

namespace NousKernel

open Resumption

/-! ### Requests and outcomes -/

inductive ExtensionPayload where
  | decision (made : ExtensionAdmissionDecision)
  | permit (issued : ExtensionExecutionPermit)
  deriving DecidableEq

/-- The error of `serde_json::from_slice::<ExtensionAdmissionDecision>` on a permit, whose
first field is unknown. -/
def notADecision : String :=
  "unknown field `allowed`, expected one of `admitted`, `extension_id`, `normalized_digest`, " ++
    "`requested_capabilities`, `granted_capabilities`, `denied_capabilities`, " ++
    "`approval_required`, `executor_constraints`, `scope_constraints`, `policy_version`, " ++
    "`decision_reason`, `receipt_id` at line 1 column 10"

/-- `serde_json::from_slice::<ExtensionAdmissionDecision>`. -/
def ExtensionPayload.asDecision : ExtensionPayload → Except String ExtensionAdmissionDecision
  | .decision made => .ok made
  | .permit _ => .error notADecision

abbrev ExtensionEntry : Type := JournalEntry ExtensionPayload

/-- The method and what its payload parses to, or the error of the parser. -/
inductive ExtensionMethod where
  | admitExtension (payload : Except String ExtensionAdmissionRequest)
  | authorizeExtension (payload : Except String ExtensionAuthorizationRequest)
  | authorizeExtensionExecution (payload : Except String ExtensionExecutionRequest)
  | revokeExtension (payload : Except String ExtensionRevocationRequest)

structure NkiRequest where
  method : ExtensionMethod
  principalId : String
  idempotencyKey : String

structure NkiErrorBody where
  code : String
  message : String
  failedPhase : String
  cause : String
  retryable : Bool
  recommendedDelayMs : Nat
  deriving DecidableEq

inductive NkiOutcome where
  | success (payload : ExtensionPayload)
  | error (error : NkiErrorBody)
  deriving DecidableEq

def nkiError (code message : String) (retryable : Bool) : NkiOutcome :=
  .error ⟨code, message, "EXECUTE", "", retryable, if retryable then 250 else 0⟩

/-! ### Digests of the decisions -/

def Json.texts (values : List String) : Json := .arr (values.map .str)

def ExtensionCapabilityRequest.toJson (request : ExtensionCapabilityRequest) : Json :=
  .obj [("access", .str request.access), ("capability", .str request.capability),
    ("reason", .str request.reason), ("required", .bool request.required),
    ("scope", Json.texts request.scope)]

def ExtensionAdmissionRequest.toJson (request : ExtensionAdmissionRequest) : Json :=
  .obj [("capability_requests", .arr (request.capabilityRequests.map (·.toJson))),
    ("compatibility_level", .num request.compatibilityLevel),
    ("content_digest", .str request.contentDigest),
    ("executor", .str request.executor),
    ("extension_id", .str request.extensionId),
    ("kinds", Json.texts request.kinds),
    ("metadata", .obj (request.metadata.toList.map fun (key, value) => (key, .str value))),
    ("schema_version", .num request.schemaVersion),
    ("source_format", .str request.sourceFormat),
    ("version", .str request.version)]

def ExtensionExecutionRequest.toJson (request : ExtensionExecutionRequest) : Json :=
  .obj [("authorization_receipt_id", .str request.authorizationReceiptId),
    ("capability", .str request.capability),
    ("content_digest", .str request.contentDigest),
    ("executor", .str request.executor),
    ("extension_id", .str request.extensionId),
    ("operation", .str request.operation),
    ("operation_id", .str request.operationId),
    ("parameter_hash", .str request.parameterHash),
    ("schema_version", .num request.schemaVersion),
    ("scope", Json.texts request.scope)]

/-- `&digest_bytes(&material)[..24]`, the material as `serde_json::to_vec` writes it. -/
def shortDigest (material : Json) : String :=
  String.ofList ((hexDigest (asBytes material.text)).toList.take 24)

def admissionMaterial (extension : ExtensionAdmissionRequest) (principalId : String) : Json :=
  .obj [("extension", extension.toJson), ("policy", .str "extension-admission-v1"),
    ("principal", .str principalId)]

def admissionReceipt (extension : ExtensionAdmissionRequest) (principalId : String) : String :=
  "admission-" ++ shortDigest (admissionMaterial extension principalId)

def ExtensionAuthorizationRequest.material (request : ExtensionAuthorizationRequest) : Json :=
  .obj [("admission_receipt", .str request.admissionReceiptId),
    ("approval", .str request.approvalId), ("approved", Json.texts request.approvedCapabilities),
    ("digest", .str request.admission.contentDigest)]

def ExtensionAuthorizationRequest.receipt (request : ExtensionAuthorizationRequest) : String :=
  "authorization-" ++ shortDigest request.material

def permitMaterial (execution : ExtensionExecutionRequest) (principalId idempotencyKey : String) :
    Json :=
  .obj [("execution", execution.toJson), ("idempotency_key", .str idempotencyKey),
    ("principal", .str principalId)]

def permitReceipt (execution : ExtensionExecutionRequest) (principalId idempotencyKey : String) :
    String :=
  "extension-permit-" ++ shortDigest (permitMaterial execution principalId idempotencyKey)

def revocationMaterial (revocation : ExtensionRevocationRequest) (principalId : String) : Json :=
  .obj [("authorization_receipt", .str revocation.authorizationReceiptId),
    ("digest", .str revocation.contentDigest), ("principal", .str principalId),
    ("reason", .str revocation.reason)]

def revocationReceipt (revocation : ExtensionRevocationRequest) (principalId : String) : String :=
  "revocation-" ++ shortDigest (revocationMaterial revocation principalId)

theorem Json.texts_injective : Function.Injective Json.texts := by
  intro first second same
  exact List.map_injective_iff.mpr (fun _ _ => Json.str.inj) (Json.arr.inj same)

theorem ExtensionCapabilityRequest.toJson_injective :
    Function.Injective ExtensionCapabilityRequest.toJson := by
  rintro ⟨capability, access, scope, reason, needed⟩ ⟨capability', access', scope', reason', needed'⟩
    same
  simp only [toJson, Json.obj.injEq, List.cons.injEq, Prod.mk.injEq, Json.str.injEq,
    Json.bool.injEq, true_and, and_true] at same
  obtain ⟨rfl, rfl, rfl, rfl, scopes⟩ := same
  rw [Json.texts_injective scopes]

theorem ExtensionAdmissionRequest.toJson_injective :
    Function.Injective ExtensionAdmissionRequest.toJson := by
  rintro ⟨schemaVersion, extensionId, version, contentDigest, sourceFormat, level, kinds, requests,
    executor, metadata⟩ ⟨schemaVersion', extensionId', version', contentDigest', sourceFormat',
    level', kinds', requests', executor', metadata'⟩ same
  simp only [toJson, Json.obj.injEq, List.cons.injEq, Prod.mk.injEq, Json.str.injEq,
    Json.num.injEq, Json.arr.injEq, true_and, and_true] at same
  obtain ⟨asked, rfl, rfl, rfl, rfl, texts, entries, rfl, rfl, rfl⟩ := same
  have pairs : Function.Injective fun pair : String × String => (pair.1, Json.str pair.2) := by
    rintro ⟨key, value⟩ ⟨key', value'⟩ equal
    simpa using equal
  rw [List.map_injective_iff.mpr ExtensionCapabilityRequest.toJson_injective asked,
    Json.texts_injective texts,
    Std.ExtTreeMap.toList_inj.mp (List.map_injective_iff.mpr pairs entries)]

theorem ExtensionExecutionRequest.toJson_injective :
    Function.Injective ExtensionExecutionRequest.toJson := by
  rintro ⟨schemaVersion, operationId, extensionId, contentDigest, receiptId, capability, operation,
    parameterHash, executor, scope⟩ ⟨schemaVersion', operationId', extensionId', contentDigest',
    receiptId', capability', operation', parameterHash', executor', scope'⟩ same
  simp only [toJson, Json.obj.injEq, List.cons.injEq, Prod.mk.injEq, Json.str.injEq,
    Json.num.injEq, true_and, and_true] at same
  obtain ⟨rfl, rfl, rfl, rfl, rfl, rfl, rfl, rfl, rfl, scopes⟩ := same
  rw [Json.texts_injective scopes]

theorem admissionMaterial_inj {first second : ExtensionAdmissionRequest}
    {principalId principalId' : String}
    (same : admissionMaterial first principalId = admissionMaterial second principalId') :
    first = second ∧ principalId = principalId' := by
  simp only [admissionMaterial, Json.obj.injEq, List.cons.injEq, Prod.mk.injEq, Json.str.injEq,
    true_and, and_true] at same
  exact ⟨ExtensionAdmissionRequest.toJson_injective same.1, same.2⟩

theorem ExtensionAuthorizationRequest.material_inj {first second : ExtensionAuthorizationRequest}
    (same : first.material = second.material) :
    first.admissionReceiptId = second.admissionReceiptId ∧ first.approvalId = second.approvalId ∧
      first.approvedCapabilities = second.approvedCapabilities := by
  simp only [material, Json.obj.injEq, List.cons.injEq, Prod.mk.injEq, Json.str.injEq, true_and,
    and_true] at same
  exact ⟨same.1, same.2.1, Json.texts_injective same.2.2.1⟩

theorem permitMaterial_inj {first second : ExtensionExecutionRequest}
    {principalId principalId' idempotencyKey idempotencyKey' : String}
    (same : permitMaterial first principalId idempotencyKey =
      permitMaterial second principalId' idempotencyKey') :
    first = second ∧ principalId = principalId' ∧ idempotencyKey = idempotencyKey' := by
  simp only [permitMaterial, Json.obj.injEq, List.cons.injEq, Prod.mk.injEq, Json.str.injEq,
    true_and, and_true] at same
  exact ⟨ExtensionExecutionRequest.toJson_injective same.1, same.2.2, same.2.1⟩

/-! ### Decisions and their entries -/

def extensionWorkload (extensionId : String) : String := "extension::" ++ extensionId

/-- The idempotency key that a decision has in the journal. -/
def extensionKey (extensionId contentDigest act key : String) : String :=
  "extension:" ++ extensionId ++ ":" ++ contentDigest ++ ":" ++ act ++ ":" ++ key

def admissionType : String := "ExtensionAdmissionDecision"

def authorizationType : String := "ExtensionAuthorizationDecision"

def permitType : String := "ExtensionExecutionPermit"

def revocationType : String := "ExtensionRevocationDecision"

section Admission

variable (extension : ExtensionAdmissionRequest) (principalId : String)

def ExtensionAdmissionRequest.scopeConstraints : TextMap (List String) :=
  (∅ : TextMap (List String)).insertMany
    (extension.capabilityRequests.map fun item => (item.capability, item.scope))

def ExtensionAdmissionRequest.executorConstraints : TextMap String :=
  let constraints := ((∅ : TextMap String).insert "authority" "none").insert "network"
    "deny_by_default"
  if extension.executor = "" then constraints
  else (constraints.insert "isolation" "strict").insert "executor" extension.executor

def admissionDecision : ExtensionAdmissionDecision where
  admitted := true
  extensionId := extension.extensionId
  normalizedDigest := extension.contentDigest
  requestedCapabilities := extension.requested
  grantedCapabilities := []
  deniedCapabilities := []
  approvalRequired := extension.requested ≠ []
  executorConstraints := extension.executorConstraints
  scopeConstraints := extension.scopeConstraints
  policyVersion := "extension-admission-v1"
  decisionReason := if extension.requested = [] then "admitted_without_runtime_authority"
    else "capability_approval_required"
  receiptId := admissionReceipt extension principalId

def admissionEntry (idempotencyKey : String) : ExtensionEntry where
  sequence := 0
  workloadId := extensionWorkload extension.extensionId
  entryType := .commit
  objectType := admissionType
  objectId := admissionReceipt extension principalId
  previousPhase := none
  newPhase := if extension.requested = [] then "ADMITTED" else "APPROVAL_REQUIRED"
  generation := 1
  payload := .decision (admissionDecision extension principalId)
  fencingToken := extension.contentDigest
  actor := principalId
  idempotencyKey := some
    (extensionKey extension.extensionId extension.contentDigest "admit" idempotencyKey)
  timestampUs := 0

end Admission

section Authorization

variable (authorization : ExtensionAuthorizationRequest) (prior : ExtensionAdmissionDecision)

/-- The requested capabilities that are not approved. -/
def ExtensionAuthorizationRequest.remaining : List String :=
  authorization.admission.requested.filter (· ∉ authorization.approvedCapabilities)

def authorizationDecision : ExtensionAdmissionDecision where
  admitted := true
  extensionId := authorization.admission.extensionId
  normalizedDigest := authorization.admission.contentDigest
  requestedCapabilities := authorization.admission.requested
  grantedCapabilities := authorization.approvedCapabilities
  deniedCapabilities := []
  approvalRequired := authorization.remaining ≠ []
  executorConstraints := prior.executorConstraints
  scopeConstraints := prior.scopeConstraints
  policyVersion := "extension-authorization-v1"
  decisionReason := if authorization.remaining = [] then "approved_capabilities_bound"
    else "partial_approval_requires_review"
  receiptId := authorization.receipt

def authorizationEntry (principalId : String) : ExtensionEntry where
  sequence := 0
  workloadId := extensionWorkload authorization.admission.extensionId
  entryType := .commit
  objectType := authorizationType
  objectId := authorization.receipt
  previousPhase := some "APPROVAL_REQUIRED"
  newPhase := if authorization.remaining = [] then "AUTHORIZED" else "PARTIALLY_AUTHORIZED"
  generation := 2
  payload := .decision (authorizationDecision authorization prior)
  fencingToken := authorization.admission.contentDigest
  actor := principalId
  idempotencyKey := some (extensionKey authorization.admission.extensionId
    authorization.admission.contentDigest "authorize" authorization.approvalId)
  timestampUs := 0

end Authorization

section Execution

variable (execution : ExtensionExecutionRequest) (principalId idempotencyKey : String) (now : Int)

def executionPermit : ExtensionExecutionPermit where
  allowed := true
  operationId := execution.operationId
  actor := principalId
  extensionId := execution.extensionId
  contentDigest := execution.contentDigest
  authorizationReceiptId := execution.authorizationReceiptId
  capability := execution.capability
  operation := execution.operation
  parameterHash := execution.parameterHash
  executor := execution.executor
  policyVersion := "extension-execution-v1"
  decisionReason := "authorized_capability_bound"
  issuedAtUs := now
  permitId := permitReceipt execution principalId idempotencyKey

def permitEntry : ExtensionEntry where
  sequence := 0
  workloadId := extensionWorkload execution.extensionId
  entryType := .commit
  objectType := permitType
  objectId := permitReceipt execution principalId idempotencyKey
  previousPhase := some "AUTHORIZED"
  newPhase := "EXECUTION_PERMITTED"
  generation := 3
  payload := .permit (executionPermit execution principalId idempotencyKey now)
  fencingToken := execution.contentDigest
  actor := principalId
  idempotencyKey := some
    (extensionKey execution.extensionId execution.contentDigest "execute" idempotencyKey)
  timestampUs := 0

end Execution

section Revocation

variable (revocation : ExtensionRevocationRequest) (prior : ExtensionAdmissionDecision)
  (principalId idempotencyKey : String)

def revocationKey : String :=
  extensionKey revocation.extensionId revocation.contentDigest "revoke" idempotencyKey

def revocationDecision : ExtensionAdmissionDecision where
  admitted := true
  extensionId := revocation.extensionId
  normalizedDigest := revocation.contentDigest
  requestedCapabilities := prior.requestedCapabilities
  grantedCapabilities := []
  deniedCapabilities := prior.grantedCapabilities
  approvalRequired := prior.requestedCapabilities ≠ []
  executorConstraints := prior.executorConstraints.insert "authority" "none"
  scopeConstraints := prior.scopeConstraints
  policyVersion := "extension-revocation-v1"
  decisionReason := "authority_revoked"
  receiptId := revocationReceipt revocation principalId

def revocationEntry : ExtensionEntry where
  sequence := 0
  workloadId := extensionWorkload revocation.extensionId
  entryType := .commit
  objectType := revocationType
  objectId := revocationReceipt revocation principalId
  previousPhase := some "AUTHORIZED"
  newPhase := "REVOKED"
  generation := 4
  payload := .decision (revocationDecision revocation prior principalId)
  fencingToken := revocation.contentDigest
  actor := principalId
  idempotencyKey := some (revocationKey revocation idempotencyKey)
  timestampUs := 0

end Revocation

/-! ### What the entries of an extension say -/

/-- The last entry that fits. -/
def findLast (fits : ExtensionEntry → Bool) (entries : List ExtensionEntry) :
    Option ExtensionEntry :=
  entries.reverse.find? fits

/-- The admission that an approval names, if it is an admission of the same request by
whoever made it. -/
def findAdmission (authorization : ExtensionAuthorizationRequest)
    (entries : List ExtensionEntry) : Option ExtensionAdmissionDecision := do
  let entry ← findLast (fun entry => entry.entryType = .commit &&
    entry.objectType = admissionType && entry.objectId = authorization.admissionReceiptId) entries
  guard (entry.objectId = admissionReceipt authorization.admission entry.actor)
  let prior ← entry.payload.asDecision.toOption
  guard (prior.extensionId = authorization.admission.extensionId &&
    prior.normalizedDigest = authorization.admission.contentDigest)
  return prior

/-- An approval or a revocation. -/
def ExtensionEntry.decides (entry : ExtensionEntry) : Bool :=
  entry.entryType = .commit &&
    (entry.objectType = authorizationType || entry.objectType = revocationType)

/-- The authorization that an execution names, if it is the last decision and grants the
capability. -/
def findAuthorization (execution : ExtensionExecutionRequest) (entries : List ExtensionEntry) :
    Option ExtensionAdmissionDecision := do
  let entry ← findLast ExtensionEntry.decides entries
  guard (entry.objectId = execution.authorizationReceiptId)
  let authorization ← entry.payload.asDecision.toOption
  guard (authorization.extensionId = execution.extensionId &&
    authorization.normalizedDigest = execution.contentDigest &&
    execution.capability ∈ authorization.grantedCapabilities)
  return authorization

/-- The scope and the executor of an execution are within its authorization. -/
def withinAuthorization (execution : ExtensionExecutionRequest)
    (authorization : ExtensionAdmissionDecision) : Bool :=
  let allowedScope := authorization.scopeConstraints[execution.capability]?.getD []
  let requiredExecutor := authorization.executorConstraints["executor"]?.getD ""
  execution.scope.all (· ∈ allowedScope) &&
    (requiredExecutor = "" || execution.executor = requiredExecutor)

/-- An earlier revocation under the same key. -/
def findReplay (revocation : ExtensionRevocationRequest) (idempotencyKey : String)
    (entries : List ExtensionEntry) : Option ExtensionEntry :=
  findLast (fun entry => entry.entryType = .commit && entry.objectType = revocationType &&
    entry.idempotencyKey = some (revocationKey revocation idempotencyKey)) entries

/-- The authorization that a revocation names, if it is the last decision. -/
def findRevocable (revocation : ExtensionRevocationRequest) (entries : List ExtensionEntry) :
    Option ExtensionAdmissionDecision := do
  let entry ← findLast ExtensionEntry.decides entries
  guard (entry.objectType = authorizationType &&
    entry.objectId = revocation.authorizationReceiptId)
  let prior ← entry.payload.asDecision.toOption
  guard (prior.extensionId = revocation.extensionId &&
    prior.normalizedDigest = revocation.contentDigest)
  return prior

theorem findLast_snoc (fits : ExtensionEntry → Bool) (entries : List ExtensionEntry)
    (entry : ExtensionEntry) :
    findLast fits (entries ++ [entry]) =
      if fits entry then some entry else findLast fits entries := by
  unfold findLast
  rw [List.reverse_append, List.reverse_singleton, List.singleton_append, List.find?_cons]
  cases fits entry <;> rfl

theorem findLast_append (fits : ExtensionEntry → Bool) (first second : List ExtensionEntry) :
    findLast fits (first ++ second) = (findLast fits second).or (findLast fits first) := by
  unfold findLast
  rw [List.reverse_append, List.find?_append]

theorem findLast_some {fits : ExtensionEntry → Bool} {entries : List ExtensionEntry}
    {entry : ExtensionEntry} (found : findLast fits entries = some entry) :
    entry ∈ entries ∧ fits entry = true :=
  ⟨List.mem_reverse.mp (List.mem_of_find?_eq_some found), List.find?_some found⟩

/-- The last of a longer list is that of the list where the rest has none. -/
theorem findLast_old {fits : ExtensionEntry → Bool} {entries more : List ExtensionEntry}
    (none : ∀ entry ∈ more, fits entry = false) :
    findLast fits (entries ++ more) = findLast fits entries := by
  rw [findLast_append]
  cases found : findLast fits more with
  | none => rfl
  | some entry =>
      obtain ⟨member, passes⟩ := findLast_some found
      rw [none entry member] at passes
      cases passes

theorem ExtensionEntry.decides_iff {entry : ExtensionEntry} :
    entry.decides = true ↔ entry.entryType = .commit ∧
      (entry.objectType = authorizationType ∨ entry.objectType = revocationType) := by
  simp [ExtensionEntry.decides]

theorem asDecision_toOption {payload : ExtensionPayload} {decision : ExtensionAdmissionDecision} :
    payload.asDecision.toOption = some decision ↔ payload = .decision decision := by
  cases payload with
  | decision made => simp [ExtensionPayload.asDecision, Except.toOption]
  | permit issued => simp [ExtensionPayload.asDecision, Except.toOption]

theorem findAdmission_iff {authorization : ExtensionAuthorizationRequest}
    {entries : List ExtensionEntry} {prior : ExtensionAdmissionDecision} :
    findAdmission authorization entries = some prior ↔
      ∃ entry, findLast (fun entry => entry.entryType = .commit &&
          entry.objectType = admissionType &&
          entry.objectId = authorization.admissionReceiptId) entries = some entry ∧
        entry.objectId = admissionReceipt authorization.admission entry.actor ∧
        entry.payload = .decision prior ∧
        prior.extensionId = authorization.admission.extensionId ∧
        prior.normalizedDigest = authorization.admission.contentDigest := by
  simp [findAdmission, Option.bind_eq_some_iff, asDecision_toOption]

theorem findAuthorization_iff {execution : ExtensionExecutionRequest}
    {entries : List ExtensionEntry} {authorization : ExtensionAdmissionDecision} :
    findAuthorization execution entries = some authorization ↔
      ∃ entry, findLast ExtensionEntry.decides entries = some entry ∧
        entry.objectId = execution.authorizationReceiptId ∧
        entry.payload = .decision authorization ∧
        authorization.extensionId = execution.extensionId ∧
        authorization.normalizedDigest = execution.contentDigest ∧
        execution.capability ∈ authorization.grantedCapabilities := by
  simp [findAuthorization, Option.bind_eq_some_iff, asDecision_toOption, and_assoc]

theorem findRevocable_iff {revocation : ExtensionRevocationRequest}
    {entries : List ExtensionEntry} {prior : ExtensionAdmissionDecision} :
    findRevocable revocation entries = some prior ↔
      ∃ entry, findLast ExtensionEntry.decides entries = some entry ∧
        entry.objectType = authorizationType ∧
        entry.objectId = revocation.authorizationReceiptId ∧
        entry.payload = .decision prior ∧
        prior.extensionId = revocation.extensionId ∧
        prior.normalizedDigest = revocation.contentDigest := by
  simp [findRevocable, Option.bind_eq_some_iff, asDecision_toOption, and_assoc]

/-! ### The methods -/

inductive DispatchCall where
  | readWorkload (workloadId : String)
  | utcNow
  | append (entry : ExtensionEntry)

abbrev DispatchCall.Answer : DispatchCall → Type
  | .readWorkload _ => Except NousError (List ExtensionEntry)
  | .utcNow => Int
  | .append _ => Except NousError Nat

/-- The journal of the daemon and the time. -/
structure DispatchWorld where
  journal : Journal ExtensionPayload
  clock : Int

/-- How far the clock moves, and whether the store fails. -/
structure DispatchChoice where
  elapsed : Nat
  storage : Option NousError

def dispatchMachine : Machine DispatchCall DispatchCall.Answer DispatchWorld DispatchChoice where
  answer
    | .readWorkload workloadId, w, choice =>
        (match choice.storage with
          | some error => .error error
          | none => .ok (w.journal.readWorkload workloadId),
          { w with clock := w.clock + choice.elapsed })
    | .utcNow, w, choice =>
        (w.clock + choice.elapsed, { w with clock := w.clock + choice.elapsed })
    | .append entry, w, choice =>
        let now := w.clock + (choice.elapsed : Int)
        ((w.journal.offer entry choice.storage now).1,
          { journal := (w.journal.offer entry choice.storage now).2, clock := now })

/-- An error ends the connection: there is no outcome. -/
abbrev DispatchM : Type → Type := ExceptT NousError (Prog DispatchCall DispatchCall.Answer)

namespace DispatchM

def readWorkload (workloadId : String) : DispatchM (List ExtensionEntry) :=
  ExceptT.mk (Prog.perform (DispatchCall.readWorkload workloadId))

def utcNow : DispatchM Int := ExceptT.lift (Prog.perform DispatchCall.utcNow)

/-- Append the decision and return it. -/
def conclude (entry : ExtensionEntry) : DispatchM NkiOutcome := do
  let _ ← ExceptT.mk (Prog.perform (DispatchCall.append entry))
  return .success entry.payload

end DispatchM

open DispatchM

def admitExtension (request : NkiRequest) (extension : ExtensionAdmissionRequest) :
    DispatchM NkiOutcome :=
  match extension.validate with
  | .ok () => conclude (admissionEntry extension request.principalId request.idempotencyKey)
  | .error error => return nkiError "EXTENSION_ADMISSION_DENIED" error.display false

def authorizeExtension (request : NkiRequest) (authorization : ExtensionAuthorizationRequest) :
    DispatchM NkiOutcome :=
  match authorization.validate with
  | .ok () => do
      let entries ← readWorkload (extensionWorkload authorization.admission.extensionId)
      match findAdmission authorization entries with
      | some prior => conclude (authorizationEntry authorization prior request.principalId)
      | none =>
          return nkiError "EXTENSION_ADMISSION_NOT_FOUND"
            "matching admission receipt and digest are required" false
  | .error error => return nkiError "EXTENSION_AUTHORIZATION_DENIED" error.display false

def authorizeExtensionExecution (request : NkiRequest) (execution : ExtensionExecutionRequest) :
    DispatchM NkiOutcome :=
  match execution.validate with
  | .ok () => do
      let entries ← readWorkload (extensionWorkload execution.extensionId)
      match findAuthorization execution entries with
      | some authorization =>
          if withinAuthorization execution authorization then do
            let now ← utcNow
            conclude (permitEntry execution request.principalId request.idempotencyKey now)
          else
            return nkiError "EXTENSION_EXECUTION_DENIED"
              "executor or scope exceeds the Kernel authorization" false
      | none =>
          return nkiError "EXTENSION_EXECUTION_DENIED"
            "matching authorization receipt, digest, and capability are required" false
  | .error error => return nkiError "EXTENSION_EXECUTION_DENIED" error.display false

def revokeExtension (request : NkiRequest) (revocation : ExtensionRevocationRequest) :
    DispatchM NkiOutcome :=
  match revocation.validate with
  | .ok () => do
      let entries ← readWorkload (extensionWorkload revocation.extensionId)
      match findReplay revocation request.idempotencyKey entries with
      | some entry =>
          match entry.payload.asDecision with
          | .ok decision => return .success (.decision decision)
          | .error error => return nkiError "EXTENSION_REVOCATION_STATE_INVALID" error false
      | none =>
          match findRevocable revocation entries with
          | some prior =>
              conclude (revocationEntry revocation prior request.principalId request.idempotencyKey)
          | none =>
              return nkiError "EXTENSION_AUTHORIZATION_NOT_FOUND"
                "matching active authorization receipt and digest are required" false
  | .error error => return nkiError "EXTENSION_REVOCATION_DENIED" error.display false

def dispatchRequest (request : NkiRequest) : DispatchM NkiOutcome :=
  match request.method with
  | .admitExtension (.ok extension) => admitExtension request extension
  | .admitExtension (.error error) => return nkiError "INVALID_EXTENSION_ADMISSION" error false
  | .authorizeExtension (.ok authorization) => authorizeExtension request authorization
  | .authorizeExtension (.error error) =>
      return nkiError "INVALID_EXTENSION_AUTHORIZATION" error false
  | .authorizeExtensionExecution (.ok execution) => authorizeExtensionExecution request execution
  | .authorizeExtensionExecution (.error error) =>
      return nkiError "INVALID_EXTENSION_EXECUTION" error false
  | .revokeExtension (.ok revocation) => revokeExtension request revocation
  | .revokeExtension (.error error) => return nkiError "INVALID_EXTENSION_REVOCATION" error false

end NousKernel
