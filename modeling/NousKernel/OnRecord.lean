import NousKernel.Permits

/-!
Decisions on record. The key of a decision in the journal is made of a key or an
approval id that the client chooses, and its receipt of the whole request. Where a
key is used again, the append keeps the old entry and the answer is the new decision.
-/

set_option autoImplicit false

namespace NousKernel

open Results

/-- The object type under which a method files its decisions. -/
def ExtensionMethod.objectType : ExtensionMethod → String
  | admitExtension _ => admissionType
  | authorizeExtension _ => authorizationType
  | authorizeExtensionExecution _ => permitType
  | revokeExtension _ => revocationType

def ExtensionMethod.isRevocation : ExtensionMethod → Bool
  | revokeExtension _ => true
  | _ => false

namespace ExtensionPayload

/-- The receipt id or the permit id. -/
def receipt : ExtensionPayload → String
  | decision made => made.receiptId
  | permit issued => issued.permitId

/-- The payload without the time of issue. -/
def timeless : ExtensionPayload → ExtensionPayload
  | decision made => .decision made
  | permit issued => .permit { issued with issuedAtUs := 0 }

end ExtensionPayload

/-- An answer is backed by an entry with its type, its id and its content. -/
def Backed (clock : Int) (turns : List DispatchTurn) (request : NkiRequest)
    (payload : ExtensionPayload) : Prop :=
  ∃ entry ∈ entriesAfter clock turns, entry.objectType = request.method.objectType ∧
    entry.objectId = payload.receipt ∧ entry.payload.timeless = payload.timeless

/-- Two requests for one decision: an admission of one extension by one principal, one
approval, or one execution by one principal under one key. -/
def SameContent (first second : NkiRequest) : Prop :=
  match first.method, second.method with
  | .admitExtension (.ok one), .admitExtension (.ok two) =>
      one = two ∧ first.principalId = second.principalId
  | .authorizeExtension (.ok one), .authorizeExtension (.ok two) => one = two
  | .authorizeExtensionExecution (.ok one), .authorizeExtensionExecution (.ok two) =>
      one = two ∧ first.principalId = second.principalId ∧
        first.idempotencyKey = second.idempotencyKey
  | _, _ => False

/-- An earlier request for the same decision succeeded under an unused key. -/
def RepeatsDecision (clock : Int) (turns : List DispatchTurn) (request : NkiRequest) : Prop :=
  ∃ front earlier payload, front ++ [earlier] <+: turns ∧ SameContent earlier.request request ∧
    (handle (dispatched clock front) earlier).1 = .ok (.success payload) ∧
    Unused clock front earlier.request

/-! ### What is filed for an answer -/

section Filed

variable {clock : Int} {turns front : List DispatchTurn} {turn : DispatchTurn}
  {request : NkiRequest} {entries : List ExtensionEntry} {bare entry : ExtensionEntry}
  {payload : ExtensionPayload}

theorem Files.record (files : Files request entries bare) :
    bare.objectType = request.method.objectType ∧ bare.objectId = bare.payload.receipt := by
  cases files with
  | admission _ asked _ | authorization _ _ asked _ _ | permit _ _ _ asked _ _ _
  | revocation _ _ asked _ _ _ =>
      rw [asked]
      exact ⟨rfl, rfl⟩

/-- A decision that is answered is offered to the journal. -/
theorem success_files
    (granted : (handle (dispatched clock turns) turn).1 = .ok (.success payload))
    (decides : turn.request.method.isRevocation = false) :
    ∃ bare now, Files turn.request
        ((dispatched clock turns).journal.readWorkload bare.workloadId) bare ∧
      payload = bare.payload ∧
      (dispatched clock (turns ++ [turn])).journal =
        ((dispatched clock turns).journal.append bare now).2 := by
  have effect := handled (dispatched clock turns) turn
  rw [dispatched_snoc]
  generalize (handle (dispatched clock turns) turn).2.journal = journal at effect ⊢
  rw [granted] at effect
  generalize result : Except.ok (NkiOutcome.success payload) = outcome at effect
  cases effect with
  | refused _ fails => exact absurd result.symm (fails _)
  | replayed _ _ _ asked _ =>
      rw [asked] at decides
      cases decides
  | filed bare now files =>
      cases result
      exact ⟨bare, now, files, rfl, rfl⟩

/-- Under an unused key the decision is stored. -/
theorem success_stored
    (granted : (handle (dispatched clock turns) turn).1 = .ok (.success payload))
    (decides : turn.request.method.isRevocation = false)
    (unused : Unused clock turns turn.request) :
    ∃ bare sequence now, Files turn.request
        ((dispatched clock turns).journal.readWorkload bare.workloadId) bare ∧
      payload = bare.payload ∧
      Journal.stamp sequence now bare ∈ entriesAfter clock (turns ++ [turn]) := by
  obtain ⟨bare, now, files, content, journal⟩ := success_files granted decides
  obtain ⟨key, keyed, own⟩ := files.key
  refine ⟨bare, (dispatched clock turns).journal.nextSequence, now, files, content, ?_⟩
  have fresh : key ∉ keysOf (dispatched clock turns).journal.entries := unused key own
  rw [entriesAfter, journal, Journal.append_entries key now keyed, if_neg fresh]
  exact List.mem_append_right _ (.head _)

theorem backed_of_unused
    (granted : (handle (dispatched clock turns) turn).1 = .ok (.success payload))
    (decides : turn.request.method.isRevocation = false)
    (unused : Unused clock turns turn.request) :
    Backed clock (turns ++ [turn]) turn.request payload := by
  obtain ⟨bare, sequence, now, files, rfl, stored⟩ := success_stored granted decides unused
  exact ⟨_, stored, files.record.1, files.record.2, rfl⟩

end Filed

/-! ### Receipts and contents -/

def NkiRequest.authorization? (request : NkiRequest) : Option ExtensionAuthorizationRequest :=
  match request.method with
  | .authorizeExtension (.ok authorization) => some authorization
  | _ => none

def NkiRequest.execution? (request : NkiRequest) : Option ExtensionExecutionRequest :=
  match request.method with
  | .authorizeExtensionExecution (.ok execution) => some execution
  | _ => none

/-- What is hashed for the approvals. -/
def authorizationMaterials (turns : List DispatchTurn) : List Json :=
  turns.filterMap fun turn => turn.request.authorization?.map (·.material)

/-- What is hashed for the permits. -/
def permitMaterials (turns : List DispatchTurn) : List Json :=
  turns.filterMap fun turn => turn.request.execution?.map fun execution =>
    permitMaterial execution turn.request.principalId turn.request.idempotencyKey

/-- The digests of a run are collision-free, kind by kind. -/
structure Digests (turns : List DispatchTurn) : Prop where
  admissions : CollisionFree (admissionMaterials turns)
  authorizations : CollisionFree (authorizationMaterials turns)
  permits : CollisionFree (permitMaterials turns)

/-- A request among the turns offers an entry to the journal. -/
structure Offers (clock : Int) (turns front : List DispatchTurn) (turn : DispatchTurn)
    (bare : ExtensionEntry) : Prop where
  before : front ++ [turn] <+: turns
  files : Files turn.request ((dispatched clock front).journal.readWorkload bare.workloadId) bare

section Contents

variable {clock : Int} {turns front front' : List DispatchTurn} {turn turn' : DispatchTurn}
  {bare bare' entry : ExtensionEntry}

theorem FiledBy.offers (filed : FiledBy clock turns front turn bare entry) :
    Offers clock turns front turn bare :=
  ⟨filed.before, filed.files⟩

theorem Offers.mem (offers : Offers clock turns front turn bare) : turn ∈ turns :=
  offers.before.subset (List.mem_append_right _ (.head _))

theorem Offers.front_prefix (offers : Offers clock turns front turn bare) : front <+: turns :=
  (List.prefix_append front [turn]).trans offers.before

/-- Approvals of one admission receipt are of one extension, and find the same
constraints. -/
theorem Digests.admission (digests : Digests turns) (first : front <+: turns)
    (second : front' <+: turns) (member : turn ∈ turns) (member' : turn' ∈ turns)
    {one two : ExtensionAuthorizationRequest} {prior prior' : ExtensionAdmissionDecision}
    (asked : turn.request.method = .authorizeExtension (.ok one))
    (asked' : turn'.request.method = .authorizeExtension (.ok two))
    (found : findAdmission one (extensionEntries clock front one.admission.extensionId) =
      some prior)
    (found' : findAdmission two (extensionEntries clock front' two.admission.extensionId) =
      some prior')
    (same : one.admissionReceiptId = two.admissionReceiptId) :
    one.admission = two.admission ∧
      prior.executorConstraints = prior'.executorConstraints ∧
      prior.scopeConstraints = prior'.scopeConstraints := by
  obtain ⟨_, admitter, _, filed, _, _, rfl, receipt⟩ :=
    found_admitted digests.admissions first member asked found
  obtain ⟨_, admitter', _, filed', _, _, rfl, receipt'⟩ :=
    found_admitted digests.admissions second member' asked' found'
  have submits : turn.request.admission? = some one.admission := by
    simp [NkiRequest.admission?, asked]
  have submits' : turn'.request.admission? = some two.admission := by
    simp [NkiRequest.admission?, asked']
  rw [receipt, receipt'] at same
  have extension := (digests.admissions.admission member member' (first.subset filed.mem)
    (second.subset filed'.mem) submits submits' same).1
  refine ⟨extension, ?_, ?_⟩
  · exact congrArg ExtensionAdmissionRequest.executorConstraints extension
  · exact congrArg ExtensionAdmissionRequest.scopeConstraints extension

/-- Requests with one content offer one decision. -/
theorem SameContent.decision (same : SameContent turn.request turn'.request)
    (digests : Digests turns) (offers : Offers clock turns front turn bare)
    (offers' : Offers clock turns front' turn' bare') :
    bare.objectId = bare'.objectId ∧ bare.payload.timeless = bare'.payload.timeless := by
  cases offers.files with
  | admission one asked _ =>
      cases offers'.files with
      | admission two asked' _ =>
          simp only [SameContent, asked, asked'] at same
          obtain ⟨rfl, actor⟩ := same
          simp [admissionEntry, actor]
      | _ => simp_all [SameContent]
  | authorization one prior asked _ found =>
      cases offers'.files with
      | authorization two prior' asked' _ found' =>
          simp only [SameContent, asked, asked'] at same
          subst same
          obtain ⟨_, executors, scopes⟩ := digests.admission offers.front_prefix
            offers'.front_prefix offers.mem offers'.mem asked asked' found found' rfl
          simp [authorizationEntry, authorizationDecision, executors, scopes]
      | _ => simp_all [SameContent]
  | permit one _ now asked _ _ _ =>
      cases offers'.files with
      | permit two _ now' asked' _ _ _ =>
          simp only [SameContent, asked, asked'] at same
          obtain ⟨rfl, actor, key⟩ := same
          simp [permitEntry, executionPermit, ExtensionPayload.timeless, actor, key]
      | _ => simp_all [SameContent]
  | revocation _ _ asked _ _ _ => simp_all [SameContent]

theorem ExtensionMethod.objectType_ne :
    admissionType ≠ authorizationType ∧ admissionType ≠ permitType ∧
      admissionType ≠ revocationType ∧ authorizationType ≠ permitType ∧
      authorizationType ≠ revocationType ∧ permitType ≠ revocationType := by
  decide

/-- Decisions of one kind with one id are of requests with one content. -/
theorem Digests.sameContent (digests : Digests turns)
    (offers : Offers clock turns front turn bare) (offers' : Offers clock turns front' turn' bare')
    (kind : turn.request.method.objectType = turn'.request.method.objectType)
    (id : bare.objectId = bare'.objectId)
    (decides : turn'.request.method.isRevocation = false) :
    SameContent turn.request turn'.request := by
  have apart := ExtensionMethod.objectType_ne
  cases offers.files with
  | admission one asked _ =>
      cases offers'.files with
      | admission two asked' _ =>
          have submits : turn.request.admission? = some one := by
            simp [NkiRequest.admission?, asked]
          have submits' : turn'.request.admission? = some two := by
            simp [NkiRequest.admission?, asked']
          have same := digests.admissions.admission offers.mem offers'.mem offers.mem offers'.mem
            submits submits' id
          simpa only [SameContent, asked, asked'] using same
      | _ => simp_all [ExtensionMethod.objectType]
  | authorization one prior asked _ found =>
      cases offers'.files with
      | authorization two prior' asked' _ found' =>
          have texts := digests.authorizations _ (List.mem_filterMap.mpr ⟨turn, offers.mem,
            by simp only [NkiRequest.authorization?, asked, Option.map_some]⟩) _
            (List.mem_filterMap.mpr ⟨turn', offers'.mem,
              by simp only [NkiRequest.authorization?, asked', Option.map_some]⟩)
            ((String.append_right_inj _).mp id)
          obtain ⟨receipts, approvals, capabilities⟩ :=
            ExtensionAuthorizationRequest.material_inj (Json.text_injective texts)
          have extension := (digests.admission offers.front_prefix offers'.front_prefix offers.mem
            offers'.mem asked asked' found found' receipts).1
          simp only [SameContent, asked, asked']
          obtain ⟨admission, receipt, approval, approved⟩ := one
          obtain ⟨admission', receipt', approval', approved'⟩ := two
          cases receipts
          cases approvals
          cases capabilities
          cases extension
          rfl
      | _ => simp_all [ExtensionMethod.objectType]
  | permit one _ now asked _ _ _ =>
      cases offers'.files with
      | permit two _ now' asked' _ _ _ =>
          have texts := digests.permits _ (List.mem_filterMap.mpr ⟨turn, offers.mem,
            by simp only [NkiRequest.execution?, asked, Option.map_some]⟩) _
            (List.mem_filterMap.mpr ⟨turn', offers'.mem,
              by simp only [NkiRequest.execution?, asked', Option.map_some]⟩)
            ((String.append_right_inj _).mp id)
          simpa only [SameContent, asked, asked'] using
            permitMaterial_inj (Json.text_injective texts)
      | _ => simp_all [ExtensionMethod.objectType]
  | revocation _ _ asked _ _ _ =>
      cases offers'.files with
      | revocation _ _ asked' _ _ _ =>
          rw [asked'] at decides
          cases decides
      | _ => simp_all [ExtensionMethod.objectType]

end Contents

/-! ### Every answer -/

section Answers

variable {clock : Int} {turns front : List DispatchTurn} {turn : DispatchTurn}
  {payload : ExtensionPayload}

/-- A decision that is repeated is backed by the entry of the first time. -/
theorem backed_of_repeats (digests : Digests turns) (before : front ++ [turn] <+: turns)
    (granted : (handle (dispatched clock front) turn).1 = .ok (.success payload))
    (decides : turn.request.method.isRevocation = false)
    (repeats : RepeatsDecision clock front turn.request) :
    Backed clock (front ++ [turn]) turn.request payload := by
  obtain ⟨start, earlier, first, within, same, succeeded, unused⟩ := repeats
  have longer : start ++ [earlier] <+: turns :=
    (within.trans (List.prefix_append front [turn])).trans before
  obtain ⟨bare', now', files', rfl, _⟩ := success_files granted decides
  have early : earlier.request.method.isRevocation = false := by
    unfold SameContent at same
    split at same <;> first | exact same.elim | simp [ExtensionMethod.isRevocation, *]
  obtain ⟨bare, sequence, now, files, _, stored⟩ := success_stored succeeded early unused
  obtain ⟨id, content⟩ := same.decision digests ⟨longer, files⟩ ⟨before, files'⟩
  refine ⟨_, (entriesAfter_mono clock (within.trans (List.prefix_append front [turn]))).subset
    stored, ?_, id.trans files'.record.2, content⟩
  show bare.objectType = _
  rw [files.record.1]
  unfold SameContent at same
  split at same <;> first | exact same.elim | simp [ExtensionMethod.objectType, *]

/-- What backs an answer was filed for it or for the same decision before. -/
theorem unused_or_repeats (digests : Digests turns) (before : front ++ [turn] <+: turns)
    (granted : (handle (dispatched clock front) turn).1 = .ok (.success payload))
    (decides : turn.request.method.isRevocation = false)
    (backed : Backed clock (front ++ [turn]) turn.request payload) :
    Unused clock front turn.request ∨ RepeatsDecision clock front turn.request := by
  obtain ⟨entry, member, kind, id, content⟩ := backed
  rcases turn_cases clock front turn with same | ⟨_, _, filed, _⟩
  · obtain ⟨start, earlier, bare, filed⟩ := filedBy clock front (same ▸ member)
    obtain ⟨bare', now, files', rfl, _⟩ := success_files granted decides
    have shorter : front <+: turns := (List.prefix_append front [turn]).trans before
    obtain ⟨sequence, stamped, rfl⟩ := filed.stored
    refine .inr ⟨start, earlier, bare.payload, filed.before, ?_, filed.succeeded, filed.unused⟩
    refine digests.sameContent (filed.later shorter).offers ⟨before, files'⟩ ?_
      (id.trans files'.record.2.symm) decides
    exact filed.files.record.1.symm.trans kind
  · exact .inl filed.unused

end Answers

/-- Every decision that is answered is on record exactly when each request that is
answered so has an unused journal key, or repeats an earlier one whose decision was
filed. -/
theorem decisions_on_record_iff (clock : Int) (turns : List DispatchTurn)
    (digests : Digests turns) :
    (∀ front turn payload, front ++ [turn] <+: turns →
      turn.request.method.isRevocation = false →
      (handle (dispatched clock front) turn).1 = .ok (.success payload) →
      Backed clock (front ++ [turn]) turn.request payload) ↔
    ∀ front turn payload, front ++ [turn] <+: turns →
      turn.request.method.isRevocation = false →
      (handle (dispatched clock front) turn).1 = .ok (.success payload) →
      Unused clock front turn.request ∨ RepeatsDecision clock front turn.request := by
  constructor
  · intro backed front turn payload before decides granted
    exact unused_or_repeats digests before granted decides
      (backed front turn payload before decides granted)
  · intro condition front turn payload before decides granted
    rcases condition front turn payload before decides granted with unused | repeats
    · exact backed_of_unused granted decides unused
    · exact backed_of_repeats digests before granted decides repeats

theorem toolTurns_digests : Digests toolTurns := by
  have alone : ∀ (materials : List Json) (only : Json),
      (∀ material ∈ materials, material = only) → CollisionFree materials := by
    intro materials only single first inFirst second inSecond _
    rw [single first inFirst, single second inSecond]
  constructor
  · apply alone _ (admissionMaterial toolExtension "admin")
    simp [admissionMaterials, toolTurns, toolAdmit, toolAuthorize, NkiRequest.admission?,
      toolApproval]
  · apply alone _ (toolApproval "approval-1").material
    simp [authorizationMaterials, toolTurns, toolAdmit, toolAuthorize, NkiRequest.authorization?]
  · intro first absent
    simp [permitMaterials, toolTurns, toolAdmit, toolAuthorize, NkiRequest.execution?] at absent

/-- An admission and its approval are on record. -/
theorem decisions_on_record_tool : Digests toolTurns ∧
    ∀ front turn payload, front ++ [turn] <+: toolTurns →
      turn.request.method.isRevocation = false →
      (handle (dispatched 0 front) turn).1 = .ok (.success payload) →
      Backed 0 (front ++ [turn]) turn.request payload := by
  apply And.intro toolTurns_digests
  apply (decisions_on_record_iff 0 toolTurns toolTurns_digests).mpr
  intro front turn payload before _ _
  apply Or.inl
  match front with
  | [] =>
      intro key _ absent
      exact List.not_mem_nil absent
  | [first] =>
      obtain ⟨rfl, rest⟩ := List.cons_prefix_cons.mp before
      obtain ⟨rfl, _⟩ := List.cons_prefix_cons.mp rest
      obtain ⟨sequence, now, entries⟩ := tool_admitted
      intro key own
      rw [entries]
      cases own
      show _ ∉ [extensionKey "file-tool" toolDigest "admit" "key-1"]
      decide +kernel
  | first :: second :: others =>
      have lengths := before.length_le
      simp [toolTurns] at lengths

/-- The tool with another request under the same identity. -/
def widerExtension : ExtensionAdmissionRequest :=
  { toolExtension with
    capabilityRequests := toolExtension.capabilityRequests ++
      [⟨"files.write", "write", ["/data"], "writes its output", false⟩] }

theorem widerExtension_valid : widerExtension.validate = .ok () := by
  have tool := toolExtension_valid
  simp only [ExtensionAdmissionRequest.validate, checks_ok] at tool ⊢
  obtain ⟨c1, c2, c3, c4, c5, c6, c7, c8, c9, c10, c11, c12, _, c14⟩ := tool
  refine ⟨c1, c2, c3, c4, c5, c6, c7, c8, c9, c10, c11, c12, ?_, c14⟩
  decide +kernel

def widerAdmit : NkiRequest := ⟨.admitExtension (.ok widerExtension), "admin", "key-1"⟩

/-- The second admission is answered, and the only entry is that of the first. -/
theorem decision_off_record :
    (handle (dispatched 0 [⟨toolAdmit, calm⟩]) ⟨widerAdmit, calm⟩).1 =
      .ok (.success (.decision (admissionDecision widerExtension "admin"))) ∧
    ¬ Backed 0 [⟨toolAdmit, calm⟩, ⟨widerAdmit, calm⟩] widerAdmit
      (.decision (admissionDecision widerExtension "admin")) := by
  have admits : handle (dispatched 0 [⟨toolAdmit, calm⟩]) ⟨widerAdmit, calm⟩ = _ :=
    handle_admits rfl widerExtension_valid
  refine ⟨congrArg Prod.fst admits, ?_⟩
  rintro ⟨entry, member, _, _, content⟩
  obtain ⟨sequence, now, entries⟩ := tool_admitted
  have unchanged : entriesAfter 0 [⟨toolAdmit, calm⟩, ⟨widerAdmit, calm⟩] =
      entriesAfter 0 [⟨toolAdmit, calm⟩] := by
    have used : extensionKey "file-tool" toolDigest "admit" "key-1" ∈
        keysOf (entriesAfter 0 [⟨toolAdmit, calm⟩]) := by
      rw [entries]
      exact List.mem_singleton_self _
    have absorbed := entriesAfter_absorbed (congrArg Prod.snd admits) rfl used
    exact absorbed
  rw [unchanged, entries, List.mem_singleton] at member
  subst member
  have requested : toolExtension.requested = widerExtension.requested :=
    congrArg ExtensionAdmissionDecision.requestedCapabilities
      (ExtensionPayload.decision.inj content)
  exact absurd requested (by decide +kernel)

end NousKernel
