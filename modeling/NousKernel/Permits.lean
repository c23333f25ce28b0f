import NousKernel.Dispatching

/-!
What stands behind an execution permit. The kernel knows an extension only through
three requests that are submitted apart: its admission, its approval and its
execution. The receipts tie them together.
-/

set_option autoImplicit false

namespace NousKernel

open Results

/-! ### The constraints of an admission -/

/-- The scope that is kept for a capability is that of a request for it. -/
theorem scopeConstraints_some {extension : ExtensionAdmissionRequest} {capability : String}
    {scope : List String} (found : extension.scopeConstraints[capability]? = some scope) :
    ∃ item ∈ extension.capabilityRequests, item.capability = capability ∧ item.scope = scope := by
  rw [ExtensionAdmissionRequest.scopeConstraints, Std.ExtTreeMap.getElem?_insertMany_list,
    List.findSomeRev?_eq_findSome?_reverse, Std.ExtTreeMap.getElem?_empty, Option.or_none] at found
  obtain ⟨⟨key, value⟩, member, fits⟩ := List.exists_of_findSome?_eq_some found
  obtain ⟨item, listed, same⟩ := List.mem_map.mp (List.mem_reverse.mp member)
  cases same
  dsimp only at fits
  split at fits
  · rename_i equal
    exact ⟨item, listed, Std.LawfulEqCmp.eq_of_compare equal, Option.some.inj fits⟩
  · cases fits

theorem executorConstraints_executor {extension : ExtensionAdmissionRequest}
    (named : extension.executor ≠ "") :
    extension.executorConstraints["executor"]? = some extension.executor := by
  simp [ExtensionAdmissionRequest.executorConstraints, named]

/-! ### Permits -/

/-- An execution is covered by an admission of the extension and an approval of it. -/
structure Warranted (clock : Int) (turns : List DispatchTurn)
    (execution : ExtensionExecutionRequest) (extension : ExtensionAdmissionRequest)
    (authorization : ExtensionAuthorizationRequest) : Prop where
  extensionId : extension.extensionId = execution.extensionId
  contentDigest : extension.contentDigest = execution.contentDigest
  admitted : ∃ admitter ∈ turns, admitter.request.method = .admitExtension (.ok extension) ∧
    ∃ sequence now, Journal.stamp sequence now (admissionEntry extension
      admitter.request.principalId admitter.request.idempotencyKey) ∈ entriesAfter clock turns
  approved : ∃ approver ∈ turns, approver.request.method = .authorizeExtension (.ok authorization) ∧
    ∃ prior sequence now, findLast ExtensionEntry.decides
      (extensionEntries clock turns execution.extensionId) = some (Journal.stamp sequence now
        (authorizationEntry authorization prior approver.request.principalId))
  receipt : authorization.receipt = execution.authorizationReceiptId
  admission : authorization.admission = extension
  capability : execution.capability ∈ authorization.approvedCapabilities
  requested : ∀ capability ∈ authorization.approvedCapabilities, capability ∈ extension.requested
  scope : ∀ item ∈ execution.scope, ∃ request ∈ extension.capabilityRequests,
    request.capability = execution.capability ∧ item ∈ request.scope
  executor : extension.executor ≠ "" → execution.executor = extension.executor

section Permit

variable {clock : Int} {turns : List DispatchTurn} {turn : DispatchTurn}

/-- A permit is filed for an execution that names the last decision. -/
theorem permit_files {permit : ExtensionExecutionPermit}
    (granted : (handle (dispatched clock turns) turn).1 = .ok (.success (.permit permit))) :
    ∃ execution authorization now,
      turn.request.method = .authorizeExtensionExecution (.ok execution) ∧
      permit = executionPermit execution turn.request.principalId turn.request.idempotencyKey now ∧
      findAuthorization execution (extensionEntries clock turns execution.extensionId) =
        some authorization ∧
      withinAuthorization execution authorization = true := by
  have effect := handled (dispatched clock turns) turn
  rw [granted] at effect
  generalize (handle (dispatched clock turns) turn).2.journal = journal at effect
  generalize result : Except.ok (NkiOutcome.success (.permit permit)) = outcome at effect
  cases effect with
  | refused _ fails => exact absurd result.symm (fails _)
  | replayed _ _ _ _ _ => cases result
  | filed entry now files =>
      cases files with
      | permit execution authorization issued asked _ found within =>
          cases result
          exact ⟨execution, authorization, issued, asked, rfl, found, within⟩
      | admission | authorization | revocation => cases result

/-- The last decision, if it grants a capability, is an authorization, and of the
extension it is filed under. -/
theorem granting_authorization {extensionId : String} {entry : ExtensionEntry}
    {decision : ExtensionAdmissionDecision} {capability : String}
    (last : findLast ExtensionEntry.decides (extensionEntries clock turns extensionId) = some entry)
    (payload : entry.payload = .decision decision)
    (grants : capability ∈ decision.grantedCapabilities) :
    ∃ front approver authorization prior,
      FiledBy clock turns front approver
        (authorizationEntry authorization prior approver.request.principalId) entry ∧
      approver.request.method = .authorizeExtension (.ok authorization) ∧
      authorization.validate = .ok () ∧
      findAdmission authorization
        (extensionEntries clock front authorization.admission.extensionId) = some prior ∧
      decision = authorizationDecision authorization prior := by
  obtain ⟨member, decides⟩ := findLast_some last
  have inside : entry ∈ entriesAfter clock turns := (Journal.mem_readWorkload.mp member).1
  obtain ⟨front, approver, bare, filed⟩ := filedBy clock turns inside
  have kind : entry.objectType = authorizationType := by
    rcases (ExtensionEntry.decides_iff.mp decides).2 with approval | revocation
    · exact approval
    · -- A revocation grants nothing.
      rw [filed.objectType] at revocation
      obtain ⟨sequence, now, stored⟩ := filed.stored
      cases filed.files with
      | admission => exact absurd revocation (show admissionType ≠ revocationType by decide)
      | authorization => exact absurd revocation (show authorizationType ≠ revocationType by decide)
      | permit => exact absurd revocation (show permitType ≠ revocationType by decide)
      | revocation =>
          rw [stored] at payload
          cases payload
          cases grants
  obtain ⟨authorization, prior, asked, valid, found, rfl⟩ := filed.authorization kind
  obtain ⟨sequence, now, rfl⟩ := filed.stored
  exact ⟨front, approver, authorization, prior, filed, asked, valid, found,
    (ExtensionPayload.decision.inj payload).symm⟩

end Permit

/-- Every permit is covered: by an admission that was journaled before it, and by the
last decision on the extension, an approval of that very admission. -/
theorem permits_warranted (clock : Int) (turns : List DispatchTurn) (turn : DispatchTurn)
    (free : CollisionFree (admissionMaterials turns)) (permit : ExtensionExecutionPermit)
    (granted : (handle (dispatched clock turns) turn).1 = .ok (.success (.permit permit))) :
    ∃ execution extension authorization now,
      turn.request.method = .authorizeExtensionExecution (.ok execution) ∧
      permit = executionPermit execution turn.request.principalId turn.request.idempotencyKey now ∧
      Warranted clock turns execution extension authorization := by
  obtain ⟨execution, decision, now, asked, issued, found, within⟩ := permit_files granted
  obtain ⟨entry, last, receipt, payload, identity, digest, capability⟩ :=
    findAuthorization_iff.mp found
  obtain ⟨front, approver, authorization, prior, filed, approves, valid, admission, rfl⟩ :=
    granting_authorization last payload capability
  obtain ⟨early, admitter, admitted, before, member, admits, rfl, _⟩ :=
    found_admitted free filed.front_prefix filed.mem approves admission
  obtain ⟨sequence, stamped, rfl⟩ := filed.stored
  obtain ⟨sequence', stamped', rfl⟩ := before.stored
  simp only [withinAuthorization, Bool.and_eq_true, Bool.or_eq_true, List.all_eq_true,
    decide_eq_true_eq] at within
  refine ⟨execution, authorization.admission, authorization, now, asked, issued,
    identity, digest, ?_, ?_, receipt, rfl, capability,
    (ExtensionAuthorizationRequest.validate_ok valid).2, ?_, ?_⟩
  · exact ⟨admitter, filed.front_prefix.subset before.mem, admits, _, _,
      (entriesAfter_mono clock filed.front_prefix).subset member⟩
  · exact ⟨approver, filed.mem, approves, _, _, _, last⟩
  · intro item inside
    have allowed := within.1 item inside
    cases kept : authorization.admission.scopeConstraints[execution.capability]? with
    | none =>
        simp [authorizationDecision, admissionDecision, kept] at allowed
    | some scope =>
        obtain ⟨request, listed, named, rfl⟩ := scopeConstraints_some kept
        simp only [authorizationDecision, admissionDecision, kept, Option.getD_some] at allowed
        exact ⟨request, listed, named, allowed⟩
  · intro named
    have required : (authorizationDecision authorization (admissionDecision
        authorization.admission admitter.request.principalId)).executorConstraints["executor"]? =
        some authorization.admission.executor := executorConstraints_executor named
    rw [required, Option.getD_some] at within
    exact within.2.resolve_left named

/-! ### A tool that reads files -/

def toolDigest : String := "sha256:" ++ String.ofList (List.replicate 64 'a')

def toolExtension : ExtensionAdmissionRequest where
  schemaVersion := 1
  extensionId := "file-tool"
  version := "1.0.0"
  contentDigest := toolDigest
  sourceFormat := "native"
  compatibilityLevel := 5
  kinds := ["tool"]
  capabilityRequests := [⟨"files.read", "read", ["/data"], "reads its input", true⟩]
  executor := "sandbox"
  metadata := (∅ : TextMap String).insertMany [("authority", "none"),
    ("supply_chain_verified", "true"), ("normalized_ir_digest", toolDigest),
    ("sbom_digest", toolDigest), ("provenance_digest", toolDigest),
    ("signature_digest", toolDigest), ("signature_status", "Unsigned")]

def toolApproval (approvalId : String) : ExtensionAuthorizationRequest where
  admission := toolExtension
  admissionReceiptId := admissionReceipt toolExtension "admin"
  approvalId := approvalId
  approvedCapabilities := ["files.read"]

def toolExecution (approvalId : String) : ExtensionExecutionRequest where
  schemaVersion := 1
  operationId := "op-1"
  extensionId := "file-tool"
  contentDigest := toolDigest
  authorizationReceiptId := (toolApproval approvalId).receipt
  capability := "files.read"
  operation := "read"
  parameterHash := toolDigest
  executor := "sandbox"
  scope := ["/data"]

theorem toolDigest_valid : lowercaseDigest toolDigest = true := by decide +kernel

theorem toolExtension_valid : toolExtension.validate = .ok () := by
  simp only [ExtensionAdmissionRequest.validate, checks_ok, check_ok, required_ok, schema_ok,
    forM_ok]
  have digests : ∀ field ∈ ExtensionAdmissionRequest.supplyChainDigests,
      toolExtension.metadata[field]? = some toolDigest := by decide +kernel
  refine ⟨rfl, ?_, ?_, ?_, ?_, toolDigest_valid, ?_, ?_, ?_, ?_, ?_, ?_, ?_, ?_⟩
  case refine_7 =>
    intro field listed
    rw [digests field listed]
    exact toolDigest_valid
  all_goals decide +kernel

theorem toolApproval_valid {approvalId : String} (named : isBlank approvalId = false) :
    (toolApproval approvalId).validate = .ok () := by
  simp only [ExtensionAuthorizationRequest.validate, checks_ok, check_ok, required_ok]
  refine ⟨toolExtension_valid, isBlank_append _ (by decide), named, ?_⟩
  show (decide (["files.read"] : List String).Nodup &&
    ["files.read"].all fun capability => decide (capability ∈ ["files.read"])) = true
  decide

theorem toolExecution_valid (approvalId : String) :
    (toolExecution approvalId).validate = .ok () := by
  simp only [ExtensionExecutionRequest.validate, checks_ok, check_ok, required_ok, schema_ok]
  refine ⟨rfl, ?_, ?_, isBlank_append _ (by decide), ?_, ?_, toolDigest_valid, toolDigest_valid, ?_⟩
  · show isBlank "op-1" = false
    decide
  · show isBlank "file-tool" = false
    decide
  · show isBlank "read" = false
    decide
  · show capabilityName "files.read" = true
    decide +kernel
  · show scopeValues ["/data"] = true
    decide +kernel

def toolAdmit : NkiRequest := ⟨.admitExtension (.ok toolExtension), "admin", "key-1"⟩

def toolAuthorize (approvalId : String) : NkiRequest :=
  ⟨.authorizeExtension (.ok (toolApproval approvalId)), "admin", "key-1"⟩

def toolExecute (approvalId : String) : NkiRequest :=
  ⟨.authorizeExtensionExecution (.ok (toolExecution approvalId)), "admin", "key-1"⟩

theorem tool_admitted : ∃ sequence now, entriesAfter 0 [⟨toolAdmit, calm⟩] =
    [Journal.stamp sequence now (admissionEntry toolExtension "admin" "key-1")] := by
  have admits : handle (dispatched 0 []) ⟨toolAdmit, calm⟩ = _ :=
    handle_admits rfl toolExtension_valid
  obtain ⟨sequence, filed⟩ := entriesAfter_filed (congrArg Prod.snd admits) rfl List.not_mem_nil
  exact ⟨sequence, _, filed⟩

section Tool

variable {turns : List DispatchTurn} {approvalId : String} {rows : List ExtensionEntry}
  {admitted entry : ExtensionEntry}

/-- The entry of the admission of the tool. -/
def IsToolAdmission (entry : ExtensionEntry) : Prop :=
  ∃ sequence now, entry =
    Journal.stamp sequence now (admissionEntry toolExtension "admin" "key-1")

/-- The entry of an approval of the tool. -/
def IsToolApproval (approvalId : String) (entry : ExtensionEntry) : Prop :=
  ∃ sequence now, entry = Journal.stamp sequence now (authorizationEntry (toolApproval approvalId)
    (admissionDecision toolExtension "admin") "admin")

/-- The admission of the tool is found where it is the only one. -/
theorem tool_findAdmission (entries : entriesAfter 0 turns = admitted :: rows)
    (tool : IsToolAdmission admitted) (others : ∀ row ∈ rows, row.objectType ≠ admissionType) :
    findAdmission (toolApproval approvalId) (extensionEntries 0 turns "file-tool") =
      some (admissionDecision toolExtension "admin") := by
  obtain ⟨sequence, now, rfl⟩ := tool
  have split : extensionEntries 0 turns "file-tool" =
      [Journal.stamp sequence now (admissionEntry toolExtension "admin" "key-1")] ++
        rows.filter (fun entry => entry.workloadId = extensionWorkload "file-tool") := by
    show (entriesAfter 0 turns).filter _ = _
    rw [entries]
    exact List.filter_cons_of_pos (decide_eq_true rfl)
  apply findAdmission_iff.mpr
  refine ⟨Journal.stamp sequence now (admissionEntry toolExtension "admin" "key-1"), ?_, rfl, rfl,
    rfl, rfl⟩
  rw [split, findLast_old]
  · apply (findLast_snoc _ [] _).trans
    apply if_pos
    simp only [Bool.and_eq_true, decide_eq_true_eq]
    exact ⟨⟨rfl, rfl⟩, rfl⟩
  · intro row member
    simp [others row (List.mem_of_mem_filter member)]

/-- The last entry is the last decision where it is an approval of the tool. -/
theorem tool_last (entries : entriesAfter 0 turns = rows ++ [entry])
    (approved : IsToolApproval approvalId entry) :
    findLast ExtensionEntry.decides (extensionEntries 0 turns "file-tool") = some entry := by
  obtain ⟨sequence, now, rfl⟩ := approved
  have split : extensionEntries 0 turns "file-tool" =
      rows.filter (fun entry => entry.workloadId = extensionWorkload "file-tool") ++
        [Journal.stamp sequence now (authorizationEntry (toolApproval approvalId)
          (admissionDecision toolExtension "admin") "admin")] := by
    show (entriesAfter 0 turns).filter _ = _
    rw [entries, List.filter_append]
    exact congrArg _ (List.filter_cons_of_pos (decide_eq_true rfl))
  rw [split, findLast_snoc]
  apply if_pos
  exact ExtensionEntry.decides_iff.mpr ⟨rfl, .inl rfl⟩

/-- An approval of the tool that is its last decision is found. -/
theorem tool_findAuthorization (entries : entriesAfter 0 turns = rows ++ [entry])
    (approved : IsToolApproval approvalId entry) :
    findAuthorization (toolExecution approvalId) (extensionEntries 0 turns "file-tool") =
      some (authorizationDecision (toolApproval approvalId)
        (admissionDecision toolExtension "admin")) := by
  have last := tool_last entries approved
  obtain ⟨sequence, now, rfl⟩ := approved
  exact findAuthorization_iff.mpr ⟨_, last, rfl, rfl, rfl, rfl, .head _⟩

theorem tool_within : withinAuthorization (toolExecution approvalId)
    (authorizationDecision (toolApproval approvalId) (admissionDecision toolExtension "admin")) =
      true := by
  show ((["/data"] : List String).all fun item =>
      item ∈ toolExtension.scopeConstraints["files.read"]?.getD []) &&
    (toolExtension.executorConstraints["executor"]?.getD "" = "" ||
      "sandbox" = toolExtension.executorConstraints["executor"]?.getD "") = true
  decide +kernel

theorem tool_approved (entries : entriesAfter 0 turns = admitted :: rows)
    (tool : IsToolAdmission admitted) (others : ∀ row ∈ rows, row.objectType ≠ admissionType)
    (named : isBlank approvalId = false)
    (fresh : (extensionKey "file-tool" toolDigest "authorize" approvalId) ∉
      keysOf (entriesAfter 0 turns)) :
    ∃ approved, IsToolApproval approvalId approved ∧
      entriesAfter 0 (turns ++ [⟨toolAuthorize approvalId, calm⟩]) =
        entriesAfter 0 turns ++ [approved] := by
  have authorizes : handle (dispatched 0 turns) ⟨toolAuthorize approvalId, calm⟩ = _ :=
    handle_authorizes rfl (toolApproval_valid named) (tool_findAdmission entries tool others)
  obtain ⟨sequence, filed⟩ := entriesAfter_filed (congrArg Prod.snd authorizes) rfl fresh
  exact ⟨_, ⟨sequence, _, rfl⟩, filed⟩

end Tool

/-- The tool is admitted and approved. -/
def toolTurns : List DispatchTurn :=
  [⟨toolAdmit, calm⟩, ⟨toolAuthorize "approval-1", calm⟩]

theorem toolTurns_entries : ∃ admitted approved, IsToolAdmission admitted ∧
    IsToolApproval "approval-1" approved ∧ entriesAfter 0 toolTurns = [admitted, approved] := by
  obtain ⟨sequence, now, entries⟩ := tool_admitted
  have fresh : extensionKey "file-tool" toolDigest "authorize" "approval-1" ∉
      keysOf (entriesAfter 0 [⟨toolAdmit, calm⟩]) := by
    rw [entries]
    show _ ∉ [extensionKey "file-tool" toolDigest "admit" "key-1"]
    decide +kernel
  obtain ⟨approved, approval, filed⟩ := tool_approved entries ⟨sequence, now, rfl⟩
    (fun row absent => absurd absent List.not_mem_nil) (by decide) fresh
  rw [entries] at filed
  exact ⟨_, approved, ⟨sequence, now, rfl⟩, approval, filed⟩

theorem permits_warranted_tool : ∃ permit,
    (handle (dispatched 0 toolTurns) ⟨toolExecute "approval-1", calm⟩).1 =
      .ok (.success (.permit permit)) ∧
    ∃ execution extension authorization now,
      (toolExecute "approval-1").method = .authorizeExtensionExecution (.ok execution) ∧
      permit = executionPermit execution "admin" "key-1" now ∧
      Warranted 0 toolTurns execution extension authorization := by
  obtain ⟨admitted, approved, _, approval, entries⟩ := toolTurns_entries
  have permits : handle (dispatched 0 toolTurns) ⟨toolExecute "approval-1", calm⟩ = _ :=
    handle_permits rfl (toolExecution_valid _)
      (tool_findAuthorization (show entriesAfter 0 toolTurns = [admitted] ++ [approved] from entries)
        approval) tool_within
  have granted := congrArg Prod.fst permits
  refine ⟨_, granted, permits_warranted 0 toolTurns ⟨toolExecute "approval-1", calm⟩ ?_ _ granted⟩
  -- Everybody is the same principal and submits the same extension.
  have single : ∀ material ∈ admissionMaterials toolTurns,
      material = admissionMaterial toolExtension "admin" := by
    simp [admissionMaterials, toolTurns, toolAdmit, toolAuthorize, NkiRequest.admission?,
      toolApproval]
  intro first inFirst second inSecond _
  rw [single first inFirst, single second inSecond]

end NousKernel
