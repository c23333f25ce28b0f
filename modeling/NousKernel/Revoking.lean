import NousKernel.OnRecord

/-!
What a revocation does to the authorization it names. The kernel grants an execution
when the authorization it names is the last decision on its extension. A revocation
whose journal key was used before answers without a new entry, whatever it names.
-/

set_option autoImplicit false

namespace NousKernel

open Results

/-- The authorization is the last decision on an extension, and grants something. -/
def InForce (clock : Int) (turns : List DispatchTurn) (receipt : String) : Prop :=
  ∃ extensionId entry decision,
    findLast ExtensionEntry.decides (extensionEntries clock turns extensionId) = some entry ∧
    entry.objectType = authorizationType ∧ entry.objectId = receipt ∧
    entry.payload = .decision decision ∧ decision.grantedCapabilities ≠ []

/-- The entries that some more requests file. -/
def entriesBetween (clock : Int) (turns more : List DispatchTurn) : List ExtensionEntry :=
  (entriesAfter clock (turns ++ more)).drop (entriesAfter clock turns).length

/-- No permit names the authorization unless it is journaled again. -/
def Dead (clock : Int) (turns : List DispatchTurn) (receipt : String) : Prop :=
  ∀ more turn permit,
    (∀ entry ∈ entriesBetween clock turns more,
      ¬ (entry.objectType = authorizationType ∧ entry.objectId = receipt)) →
    (handle (dispatched clock (turns ++ more)) turn).1 = .ok (.success (.permit permit)) →
    permit.authorizationReceiptId ≠ receipt

section Standing

variable {clock : Int} {turns more : List DispatchTurn} {turn : DispatchTurn} {receipt : String}

theorem entriesAfter_between (clock : Int) (turns more : List DispatchTurn) :
    entriesAfter clock (turns ++ more) =
      entriesAfter clock turns ++ entriesBetween clock turns more := by
  obtain ⟨rest, same⟩ := entriesAfter_mono clock (List.prefix_append turns more)
  rw [entriesBetween, ← same, List.drop_left]

/-- A permit names an authorization that stands. -/
theorem permit_inForce {permit : ExtensionExecutionPermit}
    (granted : (handle (dispatched clock turns) turn).1 = .ok (.success (.permit permit))) :
    InForce clock turns permit.authorizationReceiptId := by
  obtain ⟨execution, decision, now, _, rfl, found, _⟩ := permit_files granted
  obtain ⟨entry, last, receipt, payload, _, _, capability⟩ := findAuthorization_iff.mp found
  obtain ⟨_, _, _, _, filed, _, _, _, rfl⟩ := granting_authorization last payload capability
  exact ⟨execution.extensionId, entry, _, last, filed.objectType, receipt, payload,
    List.ne_nil_of_mem capability⟩

/-- An authorization that stands later and was not journaled meanwhile stood before. -/
theorem InForce.before (inForce : InForce clock (turns ++ more) receipt)
    (none : ∀ entry ∈ entriesBetween clock turns more,
      ¬ (entry.objectType = authorizationType ∧ entry.objectId = receipt)) :
    InForce clock turns receipt := by
  obtain ⟨extensionId, entry, decision, last, kind, id, payload, grants⟩ := inForce
  refine ⟨extensionId, entry, decision, ?_, kind, id, payload, grants⟩
  have split : extensionEntries clock (turns ++ more) extensionId =
      extensionEntries clock turns extensionId ++ (entriesBetween clock turns more).filter
        (fun entry => entry.workloadId = extensionWorkload extensionId) := by
    show (entriesAfter clock (turns ++ more)).filter _ = _
    rw [entriesAfter_between, List.filter_append]
    rfl
  rw [split, findLast_append] at last
  cases found : findLast ExtensionEntry.decides ((entriesBetween clock turns more).filter
      (fun entry => entry.workloadId = extensionWorkload extensionId)) with
  | none => rwa [found, Option.none_or] at last
  | some new =>
      rw [found, Option.some_or, Option.some.injEq] at last
      have member := List.mem_of_mem_filter (findLast_some found).1
      exact absurd ⟨last ▸ kind, last ▸ id⟩ (none new member)

/-- An execution of an authorization that stands. -/
def executionOf (authorization : ExtensionAuthorizationRequest) (capability executor : String) :
    ExtensionExecutionRequest where
  schemaVersion := openRuntimeSchemaVersion
  operationId := "operation"
  extensionId := authorization.admission.extensionId
  contentDigest := authorization.admission.contentDigest
  authorizationReceiptId := authorization.receipt
  capability := capability
  operation := "run"
  parameterHash := authorization.admission.contentDigest
  executor := executor
  scope := []

theorem executionOf_valid {authorization : ExtensionAuthorizationRequest} {capability : String}
    (executor : String) (valid : authorization.validate = .ok ())
    (approved : capability ∈ authorization.approvedCapabilities) :
    (executionOf authorization capability executor).validate = .ok () := by
  obtain ⟨admission, requested⟩ := ExtensionAuthorizationRequest.validate_ok valid
  obtain ⟨identity, digest, names⟩ := ExtensionAdmissionRequest.validate_ok admission
  simp only [ExtensionExecutionRequest.validate, checks_ok, check_ok, required_ok, schema_ok]
  refine ⟨rfl, ?_, identity, isBlank_append _ (by decide), ?_,
    names capability (requested capability approved), digest, digest, rfl⟩
  · show isBlank "operation" = false
    decide
  · show isBlank "run" = false
    decide

/-- An authorization that stands is granted a permit. -/
theorem InForce.permits (inForce : InForce clock turns receipt) :
    ∃ turn permit, (handle (dispatched clock turns) turn).1 = .ok (.success (.permit permit)) ∧
      permit.authorizationReceiptId = receipt := by
  obtain ⟨extensionId, entry, decision, last, _, rfl, payload, grants⟩ := inForce
  obtain ⟨capability, granted⟩ := List.exists_mem_of_ne_nil _ grants
  obtain ⟨front, approver, authorization, prior, filed, _, valid, _, rfl⟩ :=
    granting_authorization last payload granted
  obtain ⟨member, _⟩ := findLast_some last
  have workload := (Journal.mem_readWorkload.mp member).2
  obtain ⟨sequence, now, rfl⟩ := filed.stored
  have identity : authorization.admission.extensionId = extensionId :=
    (String.append_right_inj _).mp workload
  subst identity
  have found : findAuthorization (executionOf authorization capability
      (prior.executorConstraints["executor"]?.getD ""))
      (extensionEntries clock turns authorization.admission.extensionId) =
        some (authorizationDecision authorization prior) :=
    findAuthorization_iff.mpr ⟨_, last, rfl, rfl, rfl, rfl, granted⟩
  have within : withinAuthorization (executionOf authorization capability
      (prior.executorConstraints["executor"]?.getD ""))
      (authorizationDecision authorization prior) = true := by
    simp [withinAuthorization, executionOf, authorizationDecision]
  have permits : handle (dispatched clock turns) ⟨⟨.authorizeExtensionExecution (.ok
      (executionOf authorization capability (prior.executorConstraints["executor"]?.getD ""))),
      "runtime", "key"⟩, calm⟩ = _ :=
    handle_permits rfl (executionOf_valid _ valid granted) found within
  exact ⟨_, _, congrArg Prod.fst permits, rfl⟩

/-- An authorization is dead exactly when it does not stand. -/
theorem dead_iff : Dead clock turns receipt ↔ ¬ InForce clock turns receipt := by
  constructor
  · intro dead inForce
    obtain ⟨turn, permit, granted, named⟩ := inForce.permits
    refine dead [] turn permit ?_ (by rwa [List.append_nil]) named
    intro entry member
    rw [entriesBetween, List.append_nil, List.drop_length] at member
    cases member
  · intro fallen more turn permit none granted named
    have later := permit_inForce granted
    rw [named] at later
    exact fallen (later.before none)

end Standing

/-! ### One revocation -/

section Revocation

variable {clock : Int} {turns : List DispatchTurn} {turn : DispatchTurn} {receipt : String}
  {revocation : ExtensionRevocationRequest} {payload : ExtensionPayload}

/-- Under an unused key a revocation that succeeds files a decision after the
authorization it names. -/
theorem revocation_filed (asked : turn.request.method = .revokeExtension (.ok revocation))
    (granted : (handle (dispatched clock turns) turn).1 = .ok (.success payload))
    (unused : revocationKey revocation turn.request.idempotencyKey ∉
      keysOf (entriesAfter clock turns)) :
    ∃ prior sequence now, findRevocable revocation
        (extensionEntries clock turns revocation.extensionId) = some prior ∧
      entriesAfter clock (turns ++ [turn]) = entriesAfter clock turns ++
        [Journal.stamp sequence now (revocationEntry revocation prior turn.request.principalId
          turn.request.idempotencyKey)] := by
  have effect := handled (dispatched clock turns) turn
  unfold entriesAfter
  rw [dispatched_snoc]
  generalize (handle (dispatched clock turns) turn).2.journal = journal at effect ⊢
  rw [granted] at effect
  generalize result : Except.ok (NkiOutcome.success payload) = outcome at effect
  cases effect with
  | refused _ fails => exact absurd result.symm (fails _)
  | replayed other entry decision asked' found =>
      rw [asked] at asked'
      cases asked'
      obtain ⟨member, fits⟩ := findLast_some found
      simp only [Bool.and_eq_true, decide_eq_true_eq] at fits
      have inside : entry ∈ entriesAfter clock turns := (Journal.mem_readWorkload.mp member).1
      exact absurd (mem_keysOf.mpr ⟨entry, inside, fits.2⟩) unused
  | filed bare now files =>
      cases files with
      | revocation other prior asked' _ _ found =>
          rw [asked] at asked'
          cases asked'
          refine ⟨prior, (dispatched clock turns).journal.nextSequence, now, found, ?_⟩
          exact (Journal.append_entries _ now rfl).trans (if_neg unused)
      | admission _ asked' _ | authorization _ _ asked' _ _ | permit _ _ _ asked' _ _ _ =>
          rw [asked] at asked'
          cases asked'

/-- Authorizations with one receipt are filed under one extension. -/
theorem authorization_workload (digests : Digests turns) {one two : ExtensionEntry}
    (inOne : one ∈ entriesAfter clock turns) (inTwo : two ∈ entriesAfter clock turns)
    (kindOne : one.objectType = authorizationType) (kindTwo : two.objectType = authorizationType)
    (id : one.objectId = two.objectId) : one.workloadId = two.workloadId := by
  obtain ⟨front, approver, bare, filed⟩ := filedBy clock turns inOne
  obtain ⟨front', approver', bare', filed'⟩ := filedBy clock turns inTwo
  obtain ⟨authorization, prior, asked, _, _, rfl⟩ := filed.authorization kindOne
  obtain ⟨authorization', prior', asked', _, _, rfl⟩ := filed'.authorization kindTwo
  obtain ⟨sequence, now, rfl⟩ := filed.stored
  obtain ⟨sequence', now', rfl⟩ := filed'.stored
  have same : SameContent approver.request approver'.request := by
    apply digests.sameContent filed.offers filed'.offers
    · rw [asked, asked']
      rfl
    · exact id
    · rw [asked']
      rfl
  simp only [SameContent, asked, asked'] at same
  subst same
  rfl

/-- A revocation that is filed ends what it names. -/
theorem revocation_ends (digests : Digests turns)
    (asked : turn.request.method = .revokeExtension (.ok revocation))
    (granted : (handle (dispatched clock turns) turn).1 = .ok (.success payload))
    (unused : revocationKey revocation turn.request.idempotencyKey ∉
      keysOf (entriesAfter clock turns)) :
    ¬ InForce clock (turns ++ [turn]) revocation.authorizationReceiptId := by
  rintro ⟨extensionId, entry, decision, last, kind, id, payload, grants⟩
  obtain ⟨prior, sequence, now, found, filed⟩ := revocation_filed asked granted unused
  generalize stored : Journal.stamp sequence now (revocationEntry revocation prior
    turn.request.principalId turn.request.idempotencyKey) = revoked at filed
  have split : extensionEntries clock (turns ++ [turn]) extensionId =
      extensionEntries clock turns extensionId ++
        [revoked].filter (fun entry => entry.workloadId = extensionWorkload extensionId) := by
    show (entriesAfter clock (turns ++ [turn])).filter _ = _
    rw [filed, List.filter_append]
    rfl
  have workload : revoked.workloadId = extensionWorkload revocation.extensionId := by
    rw [← stored]
    rfl
  by_cases own : revoked.workloadId = extensionWorkload extensionId
  · -- The revocation is the last decision on its extension.
    have decides : ExtensionEntry.decides revoked = true := by
      rw [← stored]
      exact ExtensionEntry.decides_iff.mpr ⟨rfl, .inr rfl⟩
    rw [split, List.filter_singleton, decide_eq_true own, cond_true, findLast_snoc,
      if_pos decides, Option.some.injEq] at last
    rw [← last, ← stored] at kind
    exact absurd kind (show revocationType ≠ authorizationType by decide)
  · -- Another extension cannot have the authorization.
    rw [split, List.filter_singleton, decide_eq_false own, cond_false, List.append_nil] at last
    obtain ⟨named, lastNamed, kindNamed, idNamed, _, _, _⟩ := findRevocable_iff.mp found
    obtain ⟨inside, other⟩ := Journal.mem_readWorkload.mp (findLast_some last).1
    obtain ⟨inside', mine⟩ := Journal.mem_readWorkload.mp (findLast_some lastNamed).1
    have same := authorization_workload digests inside' inside kindNamed kind
      (idNamed.trans id.symm)
    exact own (workload.trans (mine.symm.trans (same.trans other)))

/-- Where the key is used, a revocation changes nothing. -/
theorem revocation_absorbed (asked : turn.request.method = .revokeExtension (.ok revocation))
    (used : revocationKey revocation turn.request.idempotencyKey ∈
      keysOf (entriesAfter clock turns)) :
    entriesAfter clock (turns ++ [turn]) = entriesAfter clock turns := by
  rcases turn_cases clock turns turn with same | ⟨_, _, filed, _⟩
  · exact same
  · have key : turn.request.journalKey =
        some (revocationKey revocation turn.request.idempotencyKey) := by
      simp [NkiRequest.journalKey, asked]
    exact absurd used (filed.unused _ key)

end Revocation

/-- After a revocation that succeeds, the authorization it names is dead exactly when
the journal key of the revocation was unused, or when no extension had that
authorization in force anyway. -/
theorem revocation_kills_iff (clock : Int) (turns : List DispatchTurn) (turn : DispatchTurn)
    (revocation : ExtensionRevocationRequest) (payload : ExtensionPayload)
    (digests : Digests turns) (asked : turn.request.method = .revokeExtension (.ok revocation))
    (granted : (handle (dispatched clock turns) turn).1 = .ok (.success payload)) :
    Dead clock (turns ++ [turn]) revocation.authorizationReceiptId ↔
      revocationKey revocation turn.request.idempotencyKey ∉ keysOf (entriesAfter clock turns) ∨
        ¬ InForce clock turns revocation.authorizationReceiptId := by
  rw [dead_iff]
  by_cases used : revocationKey revocation turn.request.idempotencyKey ∈
      keysOf (entriesAfter clock turns)
  · have unchanged : ∀ extensionId, extensionEntries clock (turns ++ [turn]) extensionId =
        extensionEntries clock turns extensionId := fun _ =>
      congrArg (List.filter _) (revocation_absorbed asked used)
    have same : InForce clock (turns ++ [turn]) revocation.authorizationReceiptId ↔
        InForce clock turns revocation.authorizationReceiptId := by
      simp only [InForce, unchanged]
    rw [same]
    exact ⟨.inr, fun either => either.resolve_left (not_not.mpr used)⟩
  · exact ⟨fun _ => .inl used, fun _ => revocation_ends digests asked granted used⟩

/-! ### Revocations of the tool -/

def toolRevocation (approvalId : String) : ExtensionRevocationRequest where
  schemaVersion := 1
  extensionId := "file-tool"
  contentDigest := toolDigest
  authorizationReceiptId := (toolApproval approvalId).receipt
  reason := "retired"

theorem toolRevocation_valid (approvalId : String) :
    (toolRevocation approvalId).validate = .ok () := by
  simp only [ExtensionRevocationRequest.validate, checks_ok, check_ok, required_ok, schema_ok]
  refine ⟨rfl, ?_, isBlank_append _ (by decide), toolDigest_valid⟩
  show isBlank "file-tool" = false
  decide

def toolRevoke (approvalId : String) : NkiRequest :=
  ⟨.revokeExtension (.ok (toolRevocation approvalId)), "admin", "key-1"⟩

/-- The key of a revocation does not depend on what it revokes. -/
theorem toolRevocation_key (approvalId : String) :
    revocationKey (toolRevocation approvalId) "key-1" =
      extensionKey "file-tool" toolDigest "revoke" "key-1" := rfl

section Tool

variable {turns : List DispatchTurn} {approvalId : String} {rows : List ExtensionEntry}
  {entry : ExtensionEntry}

/-- The entry of a revocation of the tool. -/
def IsToolRevocation (approvalId : String) (entry : ExtensionEntry) : Prop :=
  ∃ sequence now, entry = Journal.stamp sequence now (revocationEntry (toolRevocation approvalId)
    (authorizationDecision (toolApproval approvalId) (admissionDecision toolExtension "admin"))
    "admin" "key-1")

theorem tool_inForce (entries : entriesAfter 0 turns = rows ++ [entry])
    (approved : IsToolApproval approvalId entry) :
    InForce 0 turns (toolApproval approvalId).receipt := by
  have last := tool_last entries approved
  obtain ⟨sequence, now, rfl⟩ := approved
  exact ⟨"file-tool", _, _, last, rfl, rfl, rfl, List.cons_ne_nil _ _⟩

theorem tool_findRevocable (entries : entriesAfter 0 turns = rows ++ [entry])
    (approved : IsToolApproval approvalId entry) :
    findRevocable (toolRevocation approvalId) (extensionEntries 0 turns "file-tool") =
      some (authorizationDecision (toolApproval approvalId)
        (admissionDecision toolExtension "admin")) := by
  have last := tool_last entries approved
  obtain ⟨sequence, now, rfl⟩ := approved
  exact findRevocable_iff.mpr ⟨_, last, rfl, rfl, rfl, rfl, rfl⟩

theorem tool_findReplay
    (fresh : extensionKey "file-tool" toolDigest "revoke" "key-1" ∉ keysOf (entriesAfter 0 turns)) :
    findReplay (toolRevocation approvalId) "key-1" (extensionEntries 0 turns "file-tool") =
      none := by
  apply List.find?_eq_none.mpr
  intro row listed fits
  simp only [Bool.and_eq_true, decide_eq_true_eq] at fits
  have inside := (Journal.mem_readWorkload.mp (List.mem_reverse.mp listed)).1
  exact fresh (mem_keysOf.mpr ⟨row, inside, fits.2⟩)

/-- Under an unused key a revocation of the approval that was last succeeds and is filed. -/
theorem tool_revoked (entries : entriesAfter 0 turns = rows ++ [entry])
    (approved : IsToolApproval approvalId entry)
    (fresh : extensionKey "file-tool" toolDigest "revoke" "key-1" ∉ keysOf (entriesAfter 0 turns)) :
    ∃ payload revoked, (handle (dispatched 0 turns) ⟨toolRevoke approvalId, calm⟩).1 =
        .ok (.success payload) ∧ IsToolRevocation approvalId revoked ∧
      entriesAfter 0 (turns ++ [⟨toolRevoke approvalId, calm⟩]) =
        entriesAfter 0 turns ++ [revoked] := by
  have revokes : handle (dispatched 0 turns) ⟨toolRevoke approvalId, calm⟩ = _ :=
    handle_revokes rfl (toolRevocation_valid approvalId) (tool_findReplay fresh)
      (tool_findRevocable entries approved)
  obtain ⟨sequence, filed⟩ := entriesAfter_filed (congrArg Prod.snd revokes) rfl fresh
  exact ⟨_, _, congrArg Prod.fst revokes, ⟨sequence, _, rfl⟩, filed⟩

/-- After a revocation and one more approval, the same key answers the old revocation. -/
theorem tool_replayed {revoked : ExtensionEntry} {first : String}
    (entries : entriesAfter 0 turns = rows ++ [revoked] ++ [entry])
    (revocation : IsToolRevocation first revoked) (approved : IsToolApproval approvalId entry) :
    ∃ payload, handle (dispatched 0 turns) ⟨toolRevoke approvalId, calm⟩ =
      (.ok (.success payload), dispatched 0 turns) := by
  have kinds : revoked.workloadId = extensionWorkload "file-tool" ∧
      entry.workloadId = extensionWorkload "file-tool" ∧ entry.objectType = authorizationType := by
    obtain ⟨sequence, now, rfl⟩ := revocation
    obtain ⟨sequence', now', rfl⟩ := approved
    exact ⟨rfl, rfl, rfl⟩
  have split : extensionEntries 0 turns "file-tool" =
      (rows.filter fun entry => entry.workloadId = extensionWorkload "file-tool") ++ [revoked] ++
        [entry] := by
    show (entriesAfter 0 turns).filter _ = _
    rw [entries, List.filter_append, List.filter_append, List.filter_singleton,
      List.filter_singleton, decide_eq_true kinds.1, decide_eq_true kinds.2.1, cond_true, cond_true]
  have found : findReplay (toolRevocation approvalId) "key-1"
      (extensionEntries 0 turns "file-tool") = some revoked := by
    rw [findReplay, split, findLast_snoc, if_neg, findLast_snoc, if_pos]
    · obtain ⟨sequence, now, rfl⟩ := revocation
      simp only [Bool.and_eq_true, decide_eq_true_eq]
      exact ⟨⟨rfl, rfl⟩, congrArg some ((toolRevocation_key first).trans
        (toolRevocation_key approvalId).symm)⟩
    · simp only [Bool.and_eq_true, decide_eq_true_eq, kinds.2.2]
      rintro ⟨⟨_, kind⟩, _⟩
      exact absurd kind (by decide)
  obtain ⟨sequence, now, rfl⟩ := revocation
  exact ⟨_, handle_replays rfl (toolRevocation_valid approvalId) found rfl⟩

theorem IsToolAdmission.key (tool : IsToolAdmission entry) :
    entry.idempotencyKey = some (extensionKey "file-tool" toolDigest "admit" "key-1") := by
  obtain ⟨sequence, now, rfl⟩ := tool
  rfl

theorem IsToolApproval.key (approved : IsToolApproval approvalId entry) :
    entry.idempotencyKey = some (extensionKey "file-tool" toolDigest "authorize" approvalId) := by
  obtain ⟨sequence, now, rfl⟩ := approved
  rfl

theorem IsToolRevocation.key (revoked : IsToolRevocation approvalId entry) :
    entry.idempotencyKey = some (extensionKey "file-tool" toolDigest "revoke" "key-1") := by
  obtain ⟨sequence, now, rfl⟩ := revoked
  rfl

end Tool

/-- The tool was admitted and approved, and its revocation is filed. -/
theorem toolTurns_revoked : ∃ admitted approved revoked payload,
    IsToolAdmission admitted ∧ IsToolApproval "approval-1" approved ∧
    IsToolRevocation "approval-1" revoked ∧
    extensionKey "file-tool" toolDigest "revoke" "key-1" ∉ keysOf (entriesAfter 0 toolTurns) ∧
    (handle (dispatched 0 toolTurns) ⟨toolRevoke "approval-1", calm⟩).1 = .ok (.success payload) ∧
    entriesAfter 0 (toolTurns ++ [⟨toolRevoke "approval-1", calm⟩]) =
      [admitted, approved, revoked] := by
  obtain ⟨admitted, approved, tool, approval, entries⟩ := toolTurns_entries
  have fresh : extensionKey "file-tool" toolDigest "revoke" "key-1" ∉
      keysOf (entriesAfter 0 toolTurns) := by
    rw [entries]
    simp only [keysOf, List.filterMap_cons, tool.key, approval.key, List.filterMap_nil]
    decide +kernel
  obtain ⟨payload, revoked, granted, revocation, filed⟩ := tool_revoked
    (show entriesAfter 0 toolTurns = [admitted] ++ [approved] from entries) approval fresh
  rw [entries] at filed
  exact ⟨admitted, approved, revoked, payload, tool, approval, revocation, fresh, granted, filed⟩

/-- The first revocation under its key kills the approval it names. -/
theorem revocation_kills_tool :
    Dead 0 (toolTurns ++ [⟨toolRevoke "approval-1", calm⟩]) (toolApproval "approval-1").receipt := by
  obtain ⟨_, _, _, payload, _, _, _, fresh, granted, _⟩ := toolTurns_revoked
  exact (revocation_kills_iff 0 toolTurns ⟨toolRevoke "approval-1", calm⟩
    (toolRevocation "approval-1") payload toolTurns_digests rfl granted).mpr (.inl fresh)

/-- The tool is approved, revoked and approved again. -/
def renewedTurns : List DispatchTurn :=
  toolTurns ++ [⟨toolRevoke "approval-1", calm⟩] ++ [⟨toolAuthorize "approval-2", calm⟩]

/-- A revocation of the second approval under the key of the first succeeds, and the
second approval stays alive. -/
theorem revocation_survived :
    ∃ payload, (handle (dispatched 0 renewedTurns) ⟨toolRevoke "approval-2", calm⟩).1 =
        .ok (.success payload) ∧
      ¬ Dead 0 (renewedTurns ++ [⟨toolRevoke "approval-2", calm⟩])
        (toolApproval "approval-2").receipt := by
  obtain ⟨admitted, approved, revoked, _, tool, approval, revocation, _, _, entries⟩ :=
    toolTurns_revoked
  have others : ∀ row ∈ [approved, revoked], row.objectType ≠ admissionType := by
    obtain ⟨sequence, now, rfl⟩ := approval
    obtain ⟨sequence', now', rfl⟩ := revocation
    rw [List.forall_mem_cons, List.forall_mem_singleton]
    exact ⟨show authorizationType ≠ admissionType by decide,
      show revocationType ≠ admissionType by decide⟩
  have fresh : extensionKey "file-tool" toolDigest "authorize" "approval-2" ∉
      keysOf (entriesAfter 0 (toolTurns ++ [⟨toolRevoke "approval-1", calm⟩])) := by
    rw [entries]
    simp only [keysOf, List.filterMap_cons, tool.key, approval.key, revocation.key,
      List.filterMap_nil]
    decide +kernel
  obtain ⟨renewed, renewal, filed⟩ := tool_approved entries tool others (by decide) fresh
  have grown : entriesAfter 0 renewedTurns = [admitted, approved] ++ [revoked] ++ [renewed] := by
    rw [entries] at filed
    exact filed
  obtain ⟨payload, replays⟩ := tool_replayed grown revocation renewal
  refine ⟨payload, congrArg Prod.fst replays, ?_⟩
  have unchanged : entriesAfter 0 (renewedTurns ++ [⟨toolRevoke "approval-2", calm⟩]) =
      [admitted, approved] ++ [revoked] ++ [renewed] := by
    rw [← grown, entriesAfter, entriesAfter, dispatched_snoc, replays]
  rw [dead_iff, not_not]
  exact tool_inForce unchanged renewal

end NousKernel
