import NousKernel.History

/-!
The footprint of each program: which calls an attempt of a request and the two
phases of recovery can make, whatever the world answers. It holds in any
company, so both the sequential and the concurrent results use it.
-/

set_option autoImplicit false

namespace NousKernel

open Resumption Resumption.Prog

/-! ### Calls -/

inductive RowKind where
  | note
  | grant
  | receipt
  | commit
  | abort
  deriving DecidableEq

/-- The entries of an attempt of `r`. A note is neither a grant, a receipt, a
commit nor an abort. -/
inductive Row (r : OperationRequest) : RowKind → Entry → Prop
  | schedule (trace : DecisionTrace) :
      Row r .note (entryOf r .observation "SchedulerDecision" "SELECTED" (.trace trace)
        (scheduleKey r.operationId))
  | active (fenced : FencedLease) (hyphenated : ':' ∉ fenced.lease.leaseId.toList) :
      Row r .grant (entryOf r .commit "ResourceLease" "ACTIVE" (.fencedLease fenced)
        (grantKey r.operationId fenced.lease.leaseId))
  | intent :
      Row r .note (entryOf r .intent "Operation" "PENDING" (.request r) (intentKey r.operationId))
  | profile (profile : ExecutionProfile) (operation : profile.operationId = r.operationId)
      (workload : profile.workloadId = r.workloadId)
      (provider : profile.provider = r.snapshot.providerRevision) :
      Row r .note (profileEntry profile)
  | failure (error : KernelError) :
      Row r .note (entryOf r .observation "OperationFailure" error.code (failurePayload error)
        (failureKey r.operationId))
  | workload (execution : Except KernelError OperationReceipt) :
      Row r .note (entryOf r (finalPhase execution).1 "Workload" (finalPhase execution).2
        (.workload r.workloadId (finalPhase execution).2)
        (workloadKey r.operationId (finalPhase execution).2))
  | released (leaseId : String) :
      Row r .note (entryOf r .commit "ResourceLease" "RELEASED" (.leaseReleased leaseId)
        (releaseKey r.operationId leaseId))
  | receipt (receipt : OperationReceipt) :
      Row r .receipt (entryOf r .observation "OperationReceipt" "RECEIVED" (.receipt receipt)
        (receiptKey r.operationId))
  | commit (receipt : OperationReceipt) :
      Row r .commit (entryOf r .commit "StepCommit" "COMMITTED" (.receipt receipt)
        (commitKey r.operationId))
  | abort (error : KernelError) :
      Row r .abort (entryOf r .abort "Operation" error.code (failurePayload error)
        (abortKey r.operationId r.snapshot.providerRevision))

theorem Row.written {r : OperationRequest} {kind : RowKind} {entry : Entry}
    (row : Row r kind entry) : Written (· = r) entry := by
  cases row with
  | schedule trace => exact .schedule r trace rfl
  | active fenced hyphenated => exact .active r fenced rfl hyphenated
  | intent => exact .intent r rfl
  | profile profile operation workload provider =>
      exact .profile r profile rfl operation workload provider
  | failure error => exact .failure r error rfl
  | workload execution => exact .workload r execution rfl
  | released leaseId => exact .released r leaseId rfl
  | receipt receipt => exact .receipt r receipt rfl
  | commit receipt => exact .commit r receipt rfl
  | abort error => exact .abort r error rfl

theorem Row.keyed {r : OperationRequest} {kind : RowKind} {entry : Entry}
    (row : Row r kind entry) : ∃ key, entry.idempotencyKey = some key := by
  cases row <;> exact ⟨_, rfl⟩

/-- Notes only. -/
def Notes (kind : RowKind) : Prop := kind = .note

theorem notes_note : Notes .note := rfl

def Grants (kind : RowKind) : Prop := kind = .grant

theorem grants_grant : Grants .grant := rfl

/-- What the executor journals: its intent, receipt and commit. -/
def Effects (kind : RowKind) : Prop := kind = .note ∨ kind = .receipt ∨ kind = .commit

/-- What is journaled once an execution has ended: notes, and its abort. -/
def Endings (kind : RowKind) : Prop := kind = .note ∨ kind = .abort

/-- Neither a receipt nor a commit. -/
def Plain (kind : RowKind) : Prop := kind = .note ∨ kind = .grant ∨ kind = .abort

/-- The calls of an attempt of `r` that appends rows of these kinds only and
touches the leases only if it may. -/
inductive Acts (r : OperationRequest) (Kinds : RowKind → Prop) (leases : Prop) : Call → Prop
  | now : Acts r Kinds leases .now
  | kernelState : Acts r Kinds leases .kernelState
  | readWorkload (workloadId : String) : Acts r Kinds leases (.readWorkload workloadId)
  | readFrom (fromSequence : Nat) : Acts r Kinds leases (.readFrom fromSequence)
  | append (kind : RowKind) (entry : Entry) (row : Row r kind entry) (allowed : Kinds kind) :
      Acts r Kinds leases (.append entry)
  | newCancellation : Acts r Kinds leases .newCancellation
  | isCancelled (token : Nat) : Acts r Kinds leases (.isCancelled token)
  | activeInsert (workloadId : String) (operation : ActiveOperation)
      (same : operation.request = r) : Acts r Kinds leases (.activeInsert workloadId operation)
  | activeRemove (workloadId : String) : Acts r Kinds leases (.activeRemove workloadId)
  | providerExecute (token : Nat) : Acts r Kinds leases (.providerExecute r token)
  | providerOutcome : Acts r Kinds leases (.providerOutcome r)
  | attempt : Acts r Kinds leases (.attempt r)
  | finish (failure : Option KernelError) : Acts r Kinds leases (.finish r failure)
  | grantFenced (allowed : leases) (principalId : String) (resources : ResourceVector)
      (nodeId deviceId : String) (renewable : Bool) :
      Acts r Kinds leases
        (.grantFenced r.workloadId principalId resources nodeId deviceId renewable)
  | authorize (allowed : leases) (leaseId token : String) :
      Acts r Kinds leases (.authorize leaseId token)
  | release (allowed : leases) (leaseId : String) : Acts r Kinds leases (.release leaseId)

/-- All the calls of an attempt of `r`. -/
def Concerns (r : OperationRequest) : Call → Prop := Acts r (fun _ => True) True

theorem Acts.mono {r : OperationRequest} {Kinds Kinds' : RowKind → Prop} {leases leases' : Prop}
    (kinds : ∀ kind, Kinds kind → Kinds' kind) (more : leases → leases') (call : Call)
    (acts : Acts r Kinds leases call) : Acts r Kinds' leases' call := by
  cases acts with
  | append kind entry row allowed => exact .append kind entry row (kinds kind allowed)
  | activeInsert workloadId operation same => exact .activeInsert workloadId operation same
  | grantFenced allowed => exact .grantFenced (more allowed) ..
  | authorize allowed => exact .authorize (more allowed) ..
  | release allowed => exact .release (more allowed) ..
  | _ => constructor

theorem Acts.concerns {r : OperationRequest} {Kinds : RowKind → Prop} {leases : Prop} (call : Call)
    (acts : Acts r Kinds leases call) : Concerns r call :=
  acts.mono (fun _ _ => trivial) (fun _ => trivial)

/-- What the answers satisfy: a lease id is a uuid, and a provider answers as it
may. -/
def Honest (Outcome : Except KernelError OperationReceipt → Prop) :
    (call : Call) → Answer call → Prop
  | .grantFenced .., .ok fenced => ':' ∉ fenced.lease.leaseId.toList
  | .providerOutcome _, outcome => Outcome outcome
  | _, _ => True

theorem honest_answer {Outcome : Except KernelError OperationReceipt → Prop} (call : Call)
    (w : World) (choice : Choice) (fair : Outcome choice.outcome) :
    Honest Outcome call (kernelAnswer call w choice).1 := by
  cases call with
  | grantFenced workloadId principalId resources nodeId deviceId renewable =>
      simp only [kernelAnswer, World.grantFenced, LeaseManager.grantFenced]
      split
      · trivial
      · exact w.uuids.hyphenated w.drawn
  | providerOutcome request => exact fair
  | _ => trivial

/-- The errors an execution can end with: the provider's, or the kernel's own
about the journal, a cancellation or the lease manager. -/
def Raised (Outcome : Except KernelError OperationReceipt → Prop) (error : KernelError) : Prop :=
  Outcome (.error error) ∨ (∃ reason, error = .journal reason) ∨
    (∃ operationId, error = .cancelled operationId) ∨
      ∃ cause : NousError, error = .resource cause.display

/-- An error that an execution can end with. -/
def EndsWith {α : Type} (Outcome : Except KernelError OperationReceipt → Prop)
    (result : Except KernelError α) : Prop :=
  ∀ error, result = .error error → Raised Outcome error

theorem EndsWith.ok {α : Type} {Outcome : Except KernelError OperationReceipt → Prop} (value : α) :
    EndsWith Outcome (.ok value) := fun _ failed => by cases failed

theorem EndsWith.error {α : Type} {Outcome : Except KernelError OperationReceipt → Prop}
    {error : KernelError} (raised : Raised Outcome error) :
    EndsWith (α := α) Outcome (.error error) := by
  intro other same
  cases same
  exact raised

/-! ### Rules -/

section Rules

variable {Mine : Call → Prop} {α : Type} {r : OperationRequest} {Kinds : RowKind → Prop}
  {leases : Prop} {Outcome : Except KernelError OperationReceipt → Prop}

theorem calls_perform {call : Call} {post : Answer call → Prop} (mine : Mine call)
    (next : ∀ answer, Honest Outcome call answer → post answer) :
    (perform call).Calls (Honest Outcome) Mine post :=
  ⟨mine, next⟩

theorem calls_mapError {ε : Type} {convert : ε → KernelError} {task : Task (Except ε α)}
    {post : Except KernelError α → Prop}
    (calls : task.Calls (Honest Outcome) Mine fun result =>
      match result with
      | .ok value => post (.ok value)
      | .error error => post (.error (convert error))) :
    (mapError convert task).run.Calls (Honest Outcome) Mine post := by
  refine Calls.bind (calls.mono (fun _ => id) ?_)
  intro result ending
  cases result with
  | ok value => exact ending
  | error error => exact ending

theorem calls_journaled {entry : Entry} {kind : RowKind} (row : Row r kind entry)
    (allowed : Kinds kind) :
    (do let _ ← journalError (Task.append entry); return () : Fallible Unit).run.Calls
      (Honest Outcome) (Acts r Kinds leases) (EndsWith Outcome) := by
  refine Calls.bindExcept (calls_mapError (calls_perform (.append kind entry row allowed) ?_))
  intro answer _
  cases answer with
  | ok sequence => exact .ok ()
  | error error => exact .error (.inr (.inl ⟨_, rfl⟩))

theorem calls_append {entryType : EntryType} {objectType phase key : String} {payload : Payload}
    {kind : RowKind} (row : Row r kind (entryOf r entryType objectType phase payload key))
    (allowed : Kinds kind) :
    (append r entryType objectType phase payload key).run.Calls (Honest Outcome)
      (Acts r Kinds leases) (EndsWith Outcome) :=
  calls_journaled row allowed

/-- An append, and then the rest of the program. -/
theorem calls_append_bind {β : Type} {entryType : EntryType} {objectType phase key : String}
    {payload : Payload} {kind : RowKind} {next : Unit → Fallible β}
    {post : Except KernelError β → Prop}
    (row : Row r kind (entryOf r entryType objectType phase payload key)) (allowed : Kinds kind)
    (rest : (next ()).run.Calls (Honest Outcome) (Acts r Kinds leases) post)
    (failed : ∀ error, Raised Outcome error → post (.error error)) :
    (append r entryType objectType phase payload key >>= next).run.Calls (Honest Outcome)
      (Acts r Kinds leases) post := by
  refine Calls.bindExcept ((calls_append row allowed).mono (fun _ => id) ?_)
  intro result ends
  cases result with
  | ok value => exact rest
  | error error => exact failed error (ends error rfl)

/-- A lookup: one read, and a value computed from it. -/
theorem calls_lookup {γ : Type} (task : Task (Except NousError (List Entry)))
    (reads : task.Calls (Honest Outcome) Mine fun _ => True) (find : List Entry → γ) :
    (do let entries ← journalError task; return find entries : Fallible γ).run.Calls
      (Honest Outcome) Mine (EndsWith Outcome) := by
  refine Calls.bindExcept (calls_mapError (reads.mono (fun _ => id) ?_))
  intro result _
  cases result with
  | ok entries => exact .ok _
  | error error => exact .error (.inr (.inl ⟨_, rfl⟩))

theorem calls_readWorkload (workloadId : String) :
    (Task.readWorkload workloadId).Calls (Honest Outcome) (Acts r Kinds leases) fun _ => True :=
  calls_perform (.readWorkload workloadId) fun _ _ => trivial

theorem calls_readFrom (fromSequence : Nat) :
    (Task.readFrom fromSequence).Calls (Honest Outcome) (Acts r Kinds leases) fun _ => True :=
  calls_perform (.readFrom fromSequence) fun _ _ => trivial

end Rules

/-! ### One attempt -/

section Attempt

variable (r : OperationRequest) {Outcome : Except KernelError OperationReceipt → Prop}

theorem calls_schedule (nowUs : Int) :
    (schedule r nowUs).run.Calls (Honest Outcome) (Acts r Notes False) (EndsWith Outcome) := by
  obtain ⟨placement, trace, placed, -, -⟩ := schedule_eq r nowUs
  rw [placed]
  exact calls_append_bind (.schedule trace) rfl (.ok _) fun _ => .error

theorem calls_receiptFor (cancellation : Nat) :
    (receiptFor r cancellation).run.Calls (Honest Outcome) (Acts r Effects False)
      (EndsWith Outcome) := by
  refine Calls.bindExcept ((calls_lookup _ (calls_readWorkload _) _).mono (fun _ => id) ?_)
  rintro (error | received) ends
  · exact .error (ends error rfl)
  cases received with
  | some receipt => exact .ok receipt
  | none =>
      refine Calls.bindLift (calls_perform (.providerExecute cancellation) fun _ _ => ?_)
      refine Calls.bindExcept (calls_perform .providerOutcome fun outcome fair => ?_)
      cases outcome with
      | error error => exact .error (.inl fair)
      | ok receipt =>
          exact calls_append_bind (.receipt receipt) (.inr (.inl rfl)) (.ok receipt) fun _ => .error

theorem calls_executeCancellable (cancellation : Nat) :
    (executeCancellable r cancellation).run.Calls (Honest Outcome) (Acts r Effects False)
      (EndsWith Outcome) := by
  refine Calls.bindExcept ((calls_lookup _ (calls_readWorkload _) _).mono (fun _ => id) ?_)
  rintro (error | committed) ends
  · exact .error (ends error rfl)
  cases committed with
  | some receipt => exact .ok receipt
  | none =>
      refine calls_append_bind .intent (.inl rfl) ?_ fun _ => .error
      refine Calls.bindLift (calls_perform (.isCancelled cancellation) fun stopped _ => ?_)
      cases stopped with
      | true => exact .error (.inr (.inr (.inl ⟨_, rfl⟩)))
      | false =>
          refine Calls.bindExcept ((calls_receiptFor r cancellation).mono (fun _ => id) ?_)
          rintro (error | receipt) ends
          · exact .error (ends error rfl)
          · exact calls_append_bind (.commit receipt) (.inr (.inr rfl)) (.ok receipt) fun _ => .error

theorem calls_recordProfile (profile : ExecutionProfile)
    (operation : profile.operationId = r.operationId)
    (workload : profile.workloadId = r.workloadId)
    (provider : profile.provider = r.snapshot.providerRevision) :
    (recordProfile profile).run.Calls (Honest Outcome) (Acts r Notes False)
      (EndsWith Outcome) := by
  refine Calls.bindLift (calls_perform .now fun recordedAtUs _ => ?_)
  exact calls_journaled (.profile { profile with recordedAtUs } operation workload provider) rfl

/-- Bookkeeping notes only errors that an execution can end with. -/
def Noted (Outcome : Except KernelError OperationReceipt → Prop)
    (bookkeeping : Option KernelError) : Prop :=
  ∀ error, bookkeeping = some error → Raised Outcome error

theorem Noted.overrideError {α : Type} {bookkeeping : Option KernelError}
    {result : Except KernelError α} (noted : Noted Outcome bookkeeping)
    (ends : EndsWith Outcome result) : Noted Outcome (overrideError bookkeeping result) := by
  cases result with
  | ok value => exact noted
  | error error =>
      intro other same
      cases same
      exact ends error rfl

theorem Noted.getOrInsert {α : Type} {bookkeeping : Option KernelError}
    {result : Except KernelError α} (noted : Noted Outcome bookkeeping)
    (ends : EndsWith Outcome result) : Noted Outcome (getOrInsert bookkeeping result) := by
  cases result with
  | ok value => exact noted
  | error error =>
      intro other same
      cases bookkeeping with
      | some first =>
          cases same
          exact noted first rfl
      | none =>
          cases same
          exact ends error rfl

theorem calls_recordFailure {bookkeeping : Option KernelError} (noted : Noted Outcome bookkeeping)
    (execution : Except KernelError OperationReceipt) :
    (recordFailure r bookkeeping execution).Calls (Honest Outcome)
      (Acts r Endings False) (Noted Outcome) := by
  cases execution with
  | ok receipt => exact noted
  | error error =>
      refine Calls.bind ((calls_append (.abort error) (.inr rfl)).mono (fun _ => id)
        fun aborted abortEnds => ?_)
      exact Calls.bind ((calls_append (.failure error) (.inl rfl)).mono (fun _ => id)
        fun observed failureEnds => (noted.overrideError abortEnds).overrideError failureEnds)

theorem calls_closeWorkload (execution : Except KernelError OperationReceipt) :
    (append r (finalPhase execution).1 "Workload" (finalPhase execution).2
      (.workload r.workloadId (finalPhase execution).2)
      (workloadKey r.operationId (finalPhase execution).2)).run.Calls (Honest Outcome)
        (Acts r Notes False) (EndsWith Outcome) :=
  calls_append (.workload execution) rfl

theorem calls_closeLease (leaseId : String) (execution : Except KernelError OperationReceipt)
    {bookkeeping : Option KernelError} (noted : Noted Outcome bookkeeping) :
    (closeLease r leaseId (finalPhase execution) bookkeeping).Calls (Honest Outcome)
      (Acts r Notes True) (Noted Outcome) := by
  refine Calls.bind ((calls_closeWorkload r execution).mono
    (Acts.mono (fun _ => id) False.elim) fun closed closedEnds => ?_)
  refine Calls.bind (calls_mapError (calls_perform (.release trivial leaseId) fun answer _ => ?_))
  have released : ∀ result : Except KernelError Unit, EndsWith Outcome result →
      (do
        let journaled ← (append r .commit "ResourceLease" "RELEASED" (.leaseReleased leaseId)
          (releaseKey r.operationId leaseId)).run
        return getOrInsert (getOrInsert (getOrInsert bookkeeping closed) result) journaled :
          Task (Option KernelError)).Calls (Honest Outcome) (Acts r Notes True)
            (Noted Outcome) := fun result ends =>
    Calls.bind ((calls_append (.released leaseId) notes_note).mono (fun _ => id) fun journaled last =>
      ((noted.getOrInsert closedEnds).getOrInsert ends).getOrInsert last)
  cases answer with
  | ok value => exact released _ (.ok _)
  | error error => exact released _ (.error (.inr (.inr (.inr ⟨error, rfl⟩))))

/-- A result is returned only for an execution that has one. -/
theorem calls_settle (leaseId : String) (trace : DecisionTrace) (profile : ExecutionProfile)
    {execution : Except KernelError OperationReceipt} (ends : EndsWith Outcome execution)
    (operation : profile.operationId = r.operationId)
    (workload : profile.workloadId = r.workloadId)
    (provider : profile.provider = r.snapshot.providerRevision) :
    (settle r leaseId trace profile execution).Calls (Honest Outcome)
      (Acts r Endings True) fun result =>
        EndsWith Outcome result ∧ ∀ done, result = .ok done → execution = .ok done.receipt := by
  refine Calls.bind ((calls_recordProfile r profile operation workload provider).mono
    (Acts.mono (fun _ => .inl) False.elim) fun profiled profileEnds => ?_)
  refine Calls.bind (calls_perform (.activeRemove _) fun _ _ => ?_)
  have clean : Noted Outcome none := fun _ some => by cases some
  refine Calls.bind ((calls_recordFailure r (clean.overrideError profileEnds) execution).mono
    (Acts.mono (fun _ => id) False.elim) fun failed noted => ?_)
  refine Calls.bind ((calls_closeLease r leaseId execution noted).mono
    (Acts.mono (fun _ => .inl) id) fun closed noted => ?_)
  cases closed with
  | some error => exact ⟨.error (noted error rfl), fun done returned => by cases returned⟩
  | none =>
      cases execution with
      | error error => exact ⟨.error (ends error rfl), fun done returned => by cases returned⟩
      | ok receipt =>
          refine ⟨.ok _, fun done returned => ?_⟩
          cases returned
          rfl

theorem calls_grantLease (placement : PlacementDecision) :
    (grantLease r placement).run.Calls (Honest Outcome) (Acts r Grants True)
      fun _ => True := by
  refine Calls.bindExcept (calls_mapError (calls_perform (.grantFenced trivial ..) ?_))
  intro granted fair
  cases granted with
  | error error => trivial
  | ok fenced =>
      refine Calls.bind ((calls_append (.active fenced fair) grants_grant).mono (fun _ => id) ?_)
      rintro (error | ⟨⟩) _
      · exact Calls.bind (calls_perform (.release trivial _) fun _ _ => trivial)
      · refine Calls.bind (calls_perform (.authorize trivial _ _) fun valid _ => ?_)
        cases valid with
        | true => trivial
        | false => exact Calls.bind (calls_perform (.release trivial _) fun _ _ => trivial)

theorem calls_executeLeased (recovered : Bool) (admittedStarted : Int)
    (placement : PlacementDecision) (trace : DecisionTrace) (fenced : FencedLease) :
    (executeLeased r recovered admittedStarted placement trace fenced).run.Calls (Honest Outcome)
      (Concerns r) fun _ => True := by
  refine Calls.bind (calls_perform .newCancellation fun cancellation _ => ?_)
  refine Calls.bind (calls_perform (.activeInsert _ _ rfl) fun _ _ => ?_)
  refine Calls.bind (calls_perform .now fun started _ => ?_)
  refine Calls.bind (calls_perform .now fun queued _ => ?_)
  refine Calls.bind ((calls_executeCancellable r cancellation).mono Acts.concerns
    fun execution ends => ?_)
  refine Calls.bind (calls_perform .now fun executed _ => ?_)
  exact (calls_settle r _ _ _ ends rfl rfl rfl).mono Acts.concerns fun _ _ => trivial

theorem calls_executeInternal (recovered : Bool) :
    (executeInternal r recovered).run.Calls (Honest Outcome) (Concerns r) fun _ => True := by
  refine Calls.bindLift (calls_perform .now fun admitted _ => ?_)
  cases r.validateSensitiveReferences with
  | error reason => trivial
  | ok _ =>
      refine Calls.bindLift (calls_perform .kernelState fun state _ => ?_)
      split
      · trivial
      · refine Calls.bindExcept ((calls_lookup _ (calls_readWorkload _) _).mono (fun _ => id) ?_)
        rintro (error | committed) _
        · trivial
        cases committed with
        | some receipt =>
            refine Calls.bindExcept ((calls_lookup _ (calls_readFrom _) _).mono (fun _ => id) ?_)
            rintro (error | trace) _ <;> trivial
        | none =>
            refine Calls.bindExcept ((calls_schedule r admitted).mono Acts.concerns ?_)
            rintro (error | ⟨placement, trace⟩) _
            · trivial
            refine Calls.bindExcept ((calls_grantLease r placement).mono Acts.concerns ?_)
            rintro (error | fenced) _
            · trivial
            exact calls_executeLeased r recovered admitted placement trace fenced

theorem calls_attempt (recovered : Bool) :
    (attempt r recovered).run.Calls (Honest Outcome) (Concerns r) fun _ => True := by
  refine Calls.bind (calls_perform .attempt fun _ _ => ?_)
  refine Calls.bind ((calls_executeInternal r recovered).mono (fun _ => id) fun result _ => ?_)
  exact Calls.bind (calls_perform (.finish _) fun _ _ => trivial)

end Attempt

/-! ### What an attempt adds to the journal -/

section Rows

variable {r : OperationRequest} {w : World}

/-- Only an append changes the journal. -/
theorem answer_journal {call : Call} (choice : Choice) (other : ∀ entry, call ≠ .append entry) :
    (kernelAnswer call w choice).2.journal = w.journal := by
  cases call with
  | append entry => exact absurd rfl (other entry)
  | grantFenced workloadId principalId resources nodeId deviceId renewable =>
      simp only [kernelAnswer, World.grantFenced]
      split <;> rfl
  | _ => rfl

/-- The world after an append: refused or absorbed, with the journal unchanged,
or stored under a new key. -/
theorem answer_append_cases (entry : Entry) (choice : Choice) {key : String}
    (keyed : entry.idempotencyKey = some key) :
    ((kernelAnswer (.append entry) w choice).2.journal = w.journal ∧
      ((kernelAnswer (.append entry) w choice).2.history = w.history ++ [.refused entry] ∧
          (∃ error, (kernelAnswer (.append entry) w choice).1 = .error error) ∨
        (kernelAnswer (.append entry) w choice).2.history = w.history ++ [.absorbed entry] ∧
          key ∈ keysOf w.journal.entries)) ∨
    (key ∉ keysOf w.journal.entries ∧ ∃ sequence now,
      (kernelAnswer (.append entry) w choice).2.journal.entries =
          w.journal.entries ++ [Journal.stamp sequence now entry] ∧
        (kernelAnswer (.append entry) w choice).2.history =
          w.history ++ [.appended (Journal.stamp sequence now entry)]) := by
  have free : w.journal.absorber entry = none ↔ key ∉ keysOf w.journal.entries := by
    simp [Journal.absorber_none_iff, keyed, Journal.keys]
  simp only [kernelAnswer, World.append]
  cases choice.storage with
  | some error => exact .inl ⟨rfl, .inl ⟨rfl, error, rfl⟩⟩
  | none =>
      cases found : w.journal.absorber entry with
      | some sequence =>
          refine .inl ⟨?_, .inr ⟨?_, ?_⟩⟩
          · simp [World.record, Journal.append_absorbed _ found]
          · simp [World.record, found]
          · by_contra unused
            rw [free.mpr unused] at found
            cases found
      | none =>
          refine .inr ⟨free.mp found, w.journal.nextSequence, w.clock + choice.elapsed, ?_, ?_⟩
          · simp [World.record, World.tick, Journal.append_inserted _ found]
          · simp [World.record, World.tick, found]

/-- No call rewrites the history. -/
theorem answer_history (call : Call) (choice : Choice) :
    ∃ more, (kernelAnswer call w choice).2.history = w.history ++ more := by
  cases call with
  | append entry =>
      simp only [kernelAnswer, World.append]
      cases choice.storage with
      | some error => exact ⟨[_], rfl⟩
      | none => exact ⟨[_], rfl⟩
  | grantFenced workloadId principalId resources nodeId deviceId renewable =>
      simp only [kernelAnswer, World.grantFenced]
      split
      · exact ⟨[_], rfl⟩
      · exact ⟨[], by simp⟩
  | authorize | activeInsert | providerExecute | attempt | finish => exact ⟨[_], rfl⟩
  | _ => exact ⟨[], by simp [kernelAnswer]⟩

/-- A row of an attempt of `r` as the journal stores it. -/
def Stored (r : OperationRequest) (entry : Entry) : Prop :=
  ∃ kind written sequence now, Row r kind written ∧ entry = Journal.stamp sequence now written

theorem Stored.recorded {entry : Entry} (stored : Stored r entry) : Recorded (· = r) entry := by
  obtain ⟨kind, written, sequence, now, row, rfl⟩ := stored
  exact ⟨written, sequence, now, row.written, rfl⟩

/-- The journal has grown by rows of an attempt of `r`. -/
def Grown (r : OperationRequest) (entries : List Entry) (w : World) : Prop :=
  ∃ more, w.journal.entries = entries ++ more ∧ ∀ entry ∈ more, Stored r entry

theorem Grown.answer {entries : List Entry} {call : Call} (concerns : Concerns r call)
    (grown : Grown r entries w) (choice : Choice) :
    Grown r entries (kernelAnswer call w choice).2 := by
  obtain ⟨more, rows, mine⟩ := grown
  have quiet : (∀ entry, call ≠ .append entry) →
      Grown r entries (kernelAnswer call w choice).2 := fun other =>
    ⟨more, by rw [answer_journal choice other, rows], mine⟩
  cases concerns with
  | append kind entry row _ =>
      obtain ⟨key, keyed⟩ := row.keyed
      rcases answer_append_cases (w := w) entry choice keyed with
        ⟨same, -⟩ | ⟨-, sequence, now, longer, -⟩
      · exact ⟨more, same ▸ rows, mine⟩
      · refine ⟨more ++ [Journal.stamp sequence now entry],
          by rw [longer, rows, List.append_assoc], fun other member => ?_⟩
        rcases List.mem_append.mp member with old | last
        · exact mine other old
        · exact ⟨kind, entry, _, _, row, List.mem_singleton.mp last⟩
  | _ => exact quiet (by simp)

theorem attempt_grown (recovered : Bool) (pick : Call → World → Choice) :
    Grown r w.journal.entries ((attempt r recovered).run.runWith kernel pick w).2 := by
  have calls : (attempt r recovered).run.Calls (Honest fun _ => True) (Concerns r) fun _ => True :=
    calls_attempt r recovered
  exact (calls.runWith kernel (fun call now concerns grown =>
    ⟨honest_answer call now _ trivial, grown.answer concerns _⟩) ⟨[], by simp, by simp⟩).2

/-- The commit key of an operation is on its own rows only. The key of an abort
ends with the provider revision, which may be any text. -/
theorem Row.commitKey_own {kind : RowKind} {entry : Entry} (row : Row r kind entry)
    (tidy : kind ≠ .abort) {operationId : String}
    (keyed : entry.idempotencyKey = some (commitKey operationId)) :
    operationId = r.operationId := by
  have reversed := congrArg (Option.map fun text => text.toList.reverse) keyed
  cases row with
  | commit receipt =>
      have same := Option.some.inj keyed
      simpa [commitKey, operationKey, ← String.toList_inj] using same.symm
  | abort error => exact absurd rfl tidy
  | workload execution =>
      unfold finalPhase at reversed
      split at reversed <;> simp [entryOf, workloadKey, commitKey, operationKey] at reversed
  | profile profile =>
      simp only [profileEntry, executionOutcome] at reversed
      split at reversed <;> simp [profileKey, commitKey, operationKey] at reversed
  | _ =>
      simp [entryOf, scheduleKey, grantKey, intentKey, failureKey, releaseKey, receiptKey,
        commitKey, operationKey] at reversed

/-- A key of the operation that ends otherwise than those of the receipt and the
commit, on an entry that is neither. -/
theorem Row.plain {kind : RowKind} {entry : Entry} (row : Row r kind entry) (plain : Plain kind) :
    entry.objectType ≠ "OperationReceipt" ∧ entry.objectType ≠ "StepCommit" ∧
      ∃ key, entry.idempotencyKey = some key ∧ key ≠ receiptKey r.operationId ∧
        key ≠ commitKey r.operationId := by
  cases row with
  | receipt => simp [Plain] at plain
  | commit => simp [Plain] at plain
  | profile profile operation =>
      refine ⟨by simp [profileEntry], by simp [profileEntry], _, rfl, ?_⟩
      simp [profileKey, operation, receiptKey, commitKey, operationKey_eq_iff]
  | _ =>
      refine ⟨by simp [entryOf], by simp [entryOf], _, rfl, ?_⟩
      simp [scheduleKey, grantKey, intentKey, failureKey, workloadKey, releaseKey, abortKey,
        receiptKey, commitKey, operationKey_eq_iff]

end Rows

/-! ### Recovery -/

/-- The appends of the revocation: `REVOKED` entries for requests of the scan. -/
inductive Revokes (requests : AList (fun _ : String => OperationRequest)) : Call → Prop
  | append (workloadId : String) (r : OperationRequest)
      (found : requests.lookup workloadId = some r) (leaseId token reason lease : String) :
      Revokes requests (.append (entryOf r .commit "ResourceLease" "REVOKED"
        (.leaseRevoked leaseId token reason) (revokeKey r.operationId lease)))

section Recovery

variable {Outcome : Except KernelError OperationReceipt → Prop}

theorem calls_revokeLeases (requests : AList (fun _ : String => OperationRequest))
    (orphans : List (String × String × FencedLease)) :
    (revokeLeases requests orphans).run.Calls (Honest Outcome) (Revokes requests)
      fun _ => True := by
  induction orphans with
  | nil => trivial
  | cons orphan rest ih =>
      refine Calls.bindExcept ?_
      unfold revokeLease
      cases found : requests.lookup orphan.2.1 with
      | none => trivial
      | some r =>
          refine Calls.bindExcept (calls_mapError (calls_perform
            (.append orphan.2.1 r found _ _ _ _) fun answer _ => ?_))
          cases answer with
          | ok sequence => exact ih
          | error error => trivial

theorem calls_recoverPending (pending : List OperationRequest)
    (recovered : List RuntimeExecution) :
    (recoverPending pending recovered).run.Calls (Honest Outcome)
      (fun call => ∃ r ∈ pending, Concerns r call) fun _ => True := by
  induction pending generalizing recovered with
  | nil => trivial
  | cons r rest ih =>
      unfold recoverPending
      split
      · refine Calls.bindExcept ((calls_attempt r true).mono
          (fun call concerns => ⟨r, .head _, concerns⟩) ?_)
        rintro (error | execution) _
        · trivial
        · refine (ih _).mono ?_ fun _ => id
          rintro call ⟨other, member, concerns⟩
          exact ⟨other, .tail _ member, concerns⟩
      · trivial

end Recovery

end NousKernel
