import NousKernel.Ledger

/-!
The law of a kernel's history when one task runs at a time: what every entry,
provider invocation and finished attempt owes to the events before it. The
executions keep the law call by call. What runs of any length satisfy then
follows from the law alone.
-/

set_option autoImplicit false

namespace NousKernel

/-- The journal a history leaves behind. -/
def entriesOf (history : List Event) : List Entry :=
  history.filterMap fun event => match event with
    | .appended entry => some entry
    | _ => none

@[simp] theorem entriesOf_nil : entriesOf [] = [] := rfl

@[simp] theorem entriesOf_append (first second : List Event) :
    entriesOf (first ++ second) = entriesOf first ++ entriesOf second := by
  simp [entriesOf]

@[simp] theorem entriesOf_appended (entry : Entry) : entriesOf [.appended entry] = [entry] := rfl

theorem mem_entriesOf {history : List Event} {entry : Entry} :
    entry ∈ entriesOf history ↔ .appended entry ∈ history := by
  induction history with
  | nil => simp
  | cons event rest ih =>
      rw [← List.singleton_append, entriesOf_append, List.mem_append, ih]
      cases event <;> simp [entriesOf]

/-- An event of the inside of an attempt. -/
def Event.inner : Event → Bool
  | .attempt _ | .finished .. | .restarted => false
  | _ => true

/-- The entries the runtime writes, one constructor for each append of the
source. `Input` holds of the requests that were submitted. -/
inductive Written (Input : OperationRequest → Prop) : Entry → Prop
  | schedule (r : OperationRequest) (trace : DecisionTrace) (known : Input r) :
      Written Input (entryOf r .observation "SchedulerDecision" "SELECTED" (.trace trace)
        (scheduleKey r.operationId))
  | active (r : OperationRequest) (fenced : FencedLease) (known : Input r)
      (hyphenated : ':' ∉ fenced.lease.leaseId.toList) :
      Written Input (entryOf r .commit "ResourceLease" "ACTIVE" (.fencedLease fenced)
        (grantKey r.operationId fenced.lease.leaseId))
  | intent (r : OperationRequest) (known : Input r) :
      Written Input (entryOf r .intent "Operation" "PENDING" (.request r)
        (intentKey r.operationId))
  | receipt (r : OperationRequest) (receipt : OperationReceipt) (known : Input r) :
      Written Input (entryOf r .observation "OperationReceipt" "RECEIVED" (.receipt receipt)
        (receiptKey r.operationId))
  | commit (r : OperationRequest) (receipt : OperationReceipt) (known : Input r) :
      Written Input (entryOf r .commit "StepCommit" "COMMITTED" (.receipt receipt)
        (commitKey r.operationId))
  | profile (r : OperationRequest) (profile : ExecutionProfile) (known : Input r)
      (operation : profile.operationId = r.operationId)
      (workload : profile.workloadId = r.workloadId)
      (provider : profile.provider = r.snapshot.providerRevision) :
      Written Input (profileEntry profile)
  | abort (r : OperationRequest) (error : KernelError) (known : Input r) :
      Written Input (entryOf r .abort "Operation" error.code (failurePayload error)
        (abortKey r.operationId r.snapshot.providerRevision))
  | failure (r : OperationRequest) (error : KernelError) (known : Input r) :
      Written Input (entryOf r .observation "OperationFailure" error.code (failurePayload error)
        (failureKey r.operationId))
  | workload (r : OperationRequest) (execution : Except KernelError OperationReceipt)
      (known : Input r) :
      Written Input (entryOf r (finalPhase execution).1 "Workload" (finalPhase execution).2
        (.workload r.workloadId (finalPhase execution).2)
        (workloadKey r.operationId (finalPhase execution).2))
  | released (r : OperationRequest) (leaseId : String) (known : Input r) :
      Written Input (entryOf r .commit "ResourceLease" "RELEASED" (.leaseReleased leaseId)
        (releaseKey r.operationId leaseId))
  | rebound (r : OperationRequest) (known : Input r) :
      Written Input (entryOf r .intent "Operation" "REBOUND" (.request r)
        (rebindKey r.operationId r.snapshot.providerRevision))
  | providerRebind (r : OperationRequest) (fromProvider failureCode : String)
      (compatibility : CompatibilityReport) (known : Input r) :
      Written Input (entryOf r .observation "ProviderRebind" "SELECTED"
        (.rebind fromProvider r.snapshot.providerRevision failureCode compatibility)
        (providerRebindKey r.operationId r.snapshot.providerRevision))
  | candidate (r : OperationRequest) (provider phase reason : String) (known : Input r)
      (listed : phase ∈ ["EVALUATING", "UNAVAILABLE", "INCOMPATIBLE", "EXECUTION_FAILED"]) :
      Written Input (entryOf r .observation "ProviderCandidate" phase
        (.candidate provider reason) (candidateKey r.operationId provider phase))
  | revoked (r : OperationRequest) (leaseId token reason lease : String) (known : Input r) :
      Written Input (entryOf r .commit "ResourceLease" "REVOKED"
        (.leaseRevoked leaseId token reason) (revokeKey r.operationId lease))

theorem Written.mono {Input Input' : OperationRequest → Prop} {entry : Entry}
    (written : Written Input entry) (more : ∀ r, Input r → Input' r) : Written Input' entry := by
  cases written with
  | schedule r trace known => exact .schedule r trace (more r known)
  | active r fenced known hyphenated => exact .active r fenced (more r known) hyphenated
  | intent r known => exact .intent r (more r known)
  | receipt r receipt known => exact .receipt r receipt (more r known)
  | commit r receipt known => exact .commit r receipt (more r known)
  | profile r profile known operation workload provider =>
      exact .profile r profile (more r known) operation workload provider
  | abort r error known => exact .abort r error (more r known)
  | failure r error known => exact .failure r error (more r known)
  | workload r execution known => exact .workload r execution (more r known)
  | released r leaseId known => exact .released r leaseId (more r known)
  | rebound r known => exact .rebound r (more r known)
  | providerRebind r fromProvider failureCode compatibility known =>
      exact .providerRebind r fromProvider failureCode compatibility (more r known)
  | candidate r provider phase reason known listed =>
      exact .candidate r provider phase reason (more r known) listed
  | revoked r leaseId token reason lease known =>
      exact .revoked r leaseId token reason lease (more r known)

/-- A written entry as the journal stores it. -/
def Recorded (Input : OperationRequest → Prop) (entry : Entry) : Prop :=
  ∃ written sequence now, Written Input written ∧ entry = Journal.stamp sequence now written

/-- The history `now` is inside an attempt of `r` that began after `start`. -/
structure Underway (start : List Event) (r : OperationRequest) (since now : List Event) :
    Prop where
  split : now = start ++ .attempt r :: since
  inner : ∀ event ∈ since, event.inner = true

/-- The write-ahead order: a first intent belongs to an attempt, a receipt needs
the intent, and a commit needs the lease, the intent and the receipt it commits. -/
structure Ordered (history : List Event) (entry : Entry) : Prop where
  inside : entry.entryType = .intent → entry.newPhase = "PENDING" →
    ∃ start r since, Underway start r since history ∧ r.operationId = entry.objectId
  receipt : entry.objectType = "OperationReceipt" →
    intentKey entry.objectId ∈ keysOf (entriesOf history)
  lease : entry.objectType = "StepCommit" →
    ∃ leaseId, grantKey entry.objectId leaseId ∈ keysOf (entriesOf history)
  intent : entry.objectType = "StepCommit" → intentKey entry.objectId ∈ keysOf (entriesOf history)
  same : entry.objectType = "StepCommit" → ∀ r : OperationRequest,
    r.workloadId = entry.workloadId → r.operationId = entry.objectId →
      receivedIn r (entriesOf history) = entry.payload.receipt? ∨
        (receivedIn r (entriesOf history) = none ∧
          receiptKey entry.objectId ∈ keysOf (entriesOf history))

/-- A provider invocation: the intent is journaled, no receipt is, and the
operation is pending exactly if it was when the attempt began or the attempt's
own intent is the journaled one. -/
structure Invokes (r : OperationRequest) (history : List Event) : Prop where
  intended : (ledgerIn r (entriesOf history)).intentUsed = true
  unreceived : (ledgerIn r (entriesOf history)).received = none
  pending : ∃ start since, Underway start r since history ∧
    ((ledgerIn r (entriesOf history)).pending ≠ none ↔
      (ledgerIn r (entriesOf start)).intentUsed = false ∨
        (ledgerIn r (entriesOf start)).pending ≠ none)

/-- A failed attempt whose appends all succeeded leaves its operation pending
only if it stopped before it ran and found it pending, or its abort was absorbed. -/
structure Fails (r : OperationRequest) (start since history : List Event) : Prop where
  early : .registered r ∉ since →
    (ledgerIn r (entriesOf history)).pending = (ledgerIn r (entriesOf start)).pending
  ran : .registered r ∈ since → (ledgerIn r (entriesOf history)).pending ≠ none →
    (ledgerIn r (entriesOf start)).abortUsed = true ∧
      ((ledgerIn r (entriesOf start)).intentUsed = false ∨
        (ledgerIn r (entriesOf start)).pending ≠ none)

/-- What an event owes to the history before it. -/
def Law (Input : OperationRequest → Prop) (history : List Event) : Event → Prop
  | .appended entry => Recorded Input entry ∧ Ordered history entry
  | .attempt r => Input r
  | .invoked r => Input r ∧ Invokes r history
  | .finished r failure => Input r ∧ ∃ start since, Underway start r since history ∧
      (failure ≠ none → (∀ entry, .refused entry ∉ since) → Fails r start since history)
  | _ => True

/-- Histories that keep the law from a base on. -/
inductive Lawful (Input : OperationRequest → Prop) (base : List Event) : List Event → Prop
  | start : Lawful Input base base
  | next (history : List Event) (event : Event) (lawful : Lawful Input base history)
      (law : Law Input history event) : Lawful Input base (history ++ [event])

end NousKernel
