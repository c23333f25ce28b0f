import Mathlib.Data.List.TakeWhile
import NousKernel.Pending

/-!
Recovery at boot, with a storage that works and a prompt clock: which leases it
revokes, which pending operations it completes, and in which cases the order of
the hash map decides.
-/

set_option autoImplicit false

namespace NousKernel

open Resumption Resumption.Discipline Resumption.Prog

/-- An environment that never fails the storage and answers within the life of a
lease. -/
structure Steady (pick : Call → World → Choice) : Prop where
  reliable : ∀ call w, (pick call w).storage = none
  prompt : ∀ entry w leaseId token later,
    (pick (.append entry) w).elapsed + (pick (.authorize leaseId token) later).elapsed < 30000000

theorem Steady.storage {pick : Call → World → Choice} (steady : Steady pick) :
    Reliable (Picks pick) := by
  rintro call w choice rfl
  exact steady.reliable call w

theorem Steady.clock {pick : Call → World → Choice} (steady : Steady pick) :
    Prompt (Picks pick) := by
  rintro entry w choice rfl leaseId token later next rfl
  exact steady.prompt entry w leaseId token later

/-! ### Revocation -/

/-- An entry that revokes a lease. -/
def Revocation (entry : Entry) : Prop :=
  entry.objectType = "ResourceLease" ∧
    ∃ operationId leaseId, entry.idempotencyKey = some (revokeKey operationId leaseId)

/-- Revocation went on from `w` to `later`: only entries that revoke were added,
and no provider was invoked. -/
structure Revoking (w later : World) : Prop where
  process : SameProcess w later
  linked : Linked w → Linked later
  entries : ∃ more, later.journal.entries = w.journal.entries ++ more ∧
    ∀ entry ∈ more, Revocation entry
  history : ∃ more, later.history = w.history ++ more ∧ ∀ q, .invoked q ∉ more

theorem Revoking.refl (w : World) : Revoking w w where
  process := .refl w
  linked := id
  entries := ⟨[], by simp, by simp⟩
  history := ⟨[], by simp, by simp⟩

theorem Revoking.trans {a b c : World} (first : Revoking a b) (second : Revoking b c) :
    Revoking a c where
  process := first.process.trans second.process
  linked := fun linked => second.linked (first.linked linked)
  entries := by
    obtain ⟨more, grown, revoke⟩ := first.entries
    obtain ⟨next, longer, revoke'⟩ := second.entries
    refine ⟨more ++ next, by rw [longer, grown, List.append_assoc], ?_⟩
    intro entry member
    rcases List.mem_append.mp member with old | new
    · exact revoke entry old
    · exact revoke' entry new
  history := by
    obtain ⟨more, grown, quiet⟩ := first.history
    obtain ⟨next, longer, quiet'⟩ := second.history
    refine ⟨more ++ next, by rw [longer, grown, List.append_assoc], fun q member => ?_⟩
    rcases List.mem_append.mp member with old | new
    · exact quiet q old
    · exact quiet' q new

theorem Revoking.tick (w : World) (elapsed : Nat) : Revoking w (w.tick elapsed) where
  process := .tick w elapsed
  linked := id
  entries := ⟨[], by simp, by simp⟩
  history := ⟨[], by simp, by simp⟩

theorem Revoking.append {w : World} (elapsed : Nat) {entry : Entry} (revokes : Revocation entry) :
    Revoking w ((w.tick elapsed).append entry none).2 where
  process := ⟨rfl, rfl, rfl, rfl⟩
  linked linked := linked_append (w := w.tick elapsed) linked entry none
  entries := by
    cases found : w.journal.absorber entry with
    | some sequence =>
        exact ⟨[], by simp [World.append, World.record, Journal.append_absorbed _ found], by simp⟩
    | none =>
        refine ⟨[_], by simp [World.append, World.record, Journal.append_inserted _ found]; rfl, ?_⟩
        intro other member
        rw [List.mem_singleton] at member
        rw [member]
        exact revokes
  history := by
    refine ⟨[_], rfl, fun q member => ?_⟩
    rw [List.mem_singleton] at member
    split at member <;> cases member

section Revoke

variable {pick : Call → World → Choice} {order : MapOrder} {w : World}

theorem append_runWith (reliable : ∀ call w, (pick call w).storage = none)
    (r : OperationRequest) (entryType : EntryType) (objectType phase : String) (payload : Payload)
    (key : String) :
    ∃ elapsed, (append r entryType objectType phase payload key).run.runWith kernel pick w =
      (.ok (), ((w.tick elapsed).append (entryOf r entryType objectType phase payload key)
        none).2) := by
  refine ⟨(pick (.append (entryOf r entryType objectType phase payload key)) w).elapsed, ?_⟩
  have storage := reliable (.append (entryOf r entryType objectType phase payload key)) w
  unfold append
  rw [runWith_bindExcept]
  simp only [journalError, mapError, Task.append, ExceptT.run_mk, perform_bind, runWith_call,
    kernel, kernelAnswer, storage]
  rfl

theorem readFrom_runWith (reliable : ∀ call w, (pick call w).storage = none) :
    ∃ elapsed, (journalError (Task.readFrom 0)).run.runWith kernel pick w =
      (.ok w.journal.entries, w.tick elapsed) := by
  refine ⟨(pick (.readFrom 0) w).elapsed, ?_⟩
  have storage := reliable (.readFrom 0) w
  simp only [journalError, mapError, Task.readFrom, ExceptT.run_mk, perform_bind, runWith_call,
    kernel, kernelAnswer, storage, storageRead, World.tick_journal, Journal.readFrom_zero]
  rfl

/-- Every lease of the list has an intent of its workload. -/
def Revocable (requests : AList (fun _ : String => OperationRequest))
    (orphans : List (String × String × FencedLease)) : Prop :=
  ∀ orphan ∈ orphans, requests.lookup orphan.2.1 ≠ none

theorem revokeLeases_runWith (reliable : ∀ call w, (pick call w).storage = none)
    (requests : AList (fun _ : String => OperationRequest))
    (orphans : List (String × String × FencedLease)) :
    Revoking w ((revokeLeases requests orphans).run.runWith kernel pick w).2 ∧
      (((revokeLeases requests orphans).run.runWith kernel pick w).1 = .ok () ↔
        Revocable requests orphans) := by
  induction orphans generalizing w with
  | nil => exact ⟨.refl w, by simp [revokeLeases, Revocable]⟩
  | cons orphan rest ih =>
      unfold revokeLeases revokeLease
      cases found : requests.lookup orphan.2.1 with
      | none =>
          refine ⟨.refl w, ?_⟩
          rw [runWith_bindExcept]
          simp [Revocable, found]
      | some r =>
          obtain ⟨elapsed, taken⟩ := append_runWith (w := w) reliable r .commit "ResourceLease"
            "REVOKED" (.leaseRevoked orphan.1 orphan.2.2.fencingToken
              "runtime recovery invalidated an orphaned lease")
            (revokeKey r.operationId orphan.2.2.lease.leaseId)
          obtain ⟨revoking, fine⟩ := ih
            (w := ((w.tick elapsed).append (entryOf r .commit "ResourceLease" "REVOKED"
              (.leaseRevoked orphan.1 orphan.2.2.fencingToken
                "runtime recovery invalidated an orphaned lease")
              (revokeKey r.operationId orphan.2.2.lease.leaseId)) none).2)
          simp only [runWith_bindExcept, taken]
          refine ⟨(Revoking.append elapsed ⟨rfl, _, _, rfl⟩).trans revoking, ?_⟩
          rw [fine]
          simp [Revocable, found]

/-- Entries that revoke leave the pending operations alone. -/
theorem pendingMap_revocations (entries more : List Entry)
    (revoke : ∀ entry ∈ more, Revocation entry) :
    pendingMap (entries ++ more) = pendingMap entries := by
  induction more using List.reverseRecOn with
  | nil => simp
  | append_singleton more last ih =>
      have kind := (revoke last (by simp)).1
      rw [← List.append_assoc, pendingMap_snoc,
        ih fun entry member => revoke entry (List.mem_append_left _ member)]
      simp [pendingStep, kind]

theorem Revoking.pendingValues {later : World} (revoking : Revoking w later) :
    pendingValues later.journal.entries = pendingValues w.journal.entries := by
  obtain ⟨more, grown, revoke⟩ := revoking.entries
  unfold NousKernel.pendingValues
  rw [grown, pendingMap_revocations _ _ revoke]

theorem revokeOrphanedLeases_runWith (reliable : ∀ call w, (pick call w).storage = none)
    (order : MapOrder) (w : World) :
    Revoking w ((revokeOrphanedLeases order).run.runWith kernel pick w).2 ∧
      (((revokeOrphanedLeases order).run.runWith kernel pick w).1 = .ok () ↔
        Revocable (scanLeases w.journal.entries).requests
          (scanLeases w.journal.entries).orphans) := by
  obtain ⟨elapsed, read⟩ := readFrom_runWith (w := w) reliable
  obtain ⟨revoking, fine⟩ := revokeLeases_runWith (w := w.tick elapsed) reliable
    (scanLeases w.journal.entries).requests (order.leases (scanLeases w.journal.entries).orphans)
  unfold revokeOrphanedLeases
  rw [runWith_bindExcept, read]
  refine ⟨(Revoking.tick w elapsed).trans revoking, fine.trans ?_⟩
  simp only [Revocable, (order.leasesPerm _).mem_iff]

/-- Recovery stops at a lease that it cannot revoke, or goes on with the pending
operations of the journal it was started on. -/
theorem recover_runWith (steady : Steady pick) (order : MapOrder) (w : World) :
    ∃ later, Revoking w later ∧
      (¬ Revocable (scanLeases w.journal.entries).requests
          (scanLeases w.journal.entries).orphans →
        ∃ error, (recover order).run.runWith kernel pick w = (.error error, later)) ∧
      (Revocable (scanLeases w.journal.entries).requests
          (scanLeases w.journal.entries).orphans →
        (recover order).run.runWith kernel pick w =
          (recoverPending (order.pending (pendingValues w.journal.entries)) []).run.runWith
            kernel pick later) := by
  obtain ⟨revoking, fine⟩ := revokeOrphanedLeases_runWith steady.reliable order w
  unfold recover
  simp only [runWith_bindExcept]
  generalize (revokeOrphanedLeases order).run.runWith kernel pick w = ending at revoking fine
  obtain ⟨error | ⟨⟩, later⟩ := ending
  · refine ⟨later, revoking, fun _ => ⟨error, rfl⟩, fun revocable => ?_⟩
    cases fine.mpr revocable
  · obtain ⟨elapsed, read⟩ := readFrom_runWith (w := later) steady.reliable
    refine ⟨later.tick elapsed, revoking.trans (.tick later elapsed),
      fun stuck => absurd (fine.mp rfl) stuck, fun _ => ?_⟩
    simp only [pendingOperations, runWith_bindExcept, read]
    rw [← revoking.pendingValues]
    rfl

end Revoke

/-! ### One pending operation -/

/-- A process that recovery can start from. -/
structure Ready (w : World) : Prop where
  linked : Linked w
  fresh : Fresh w
  running : w.state ≠ .shuttingDown

theorem Ready.restart {w : World} (reached : Reached w) : Ready w.restart where
  linked := (Reached.restart reached).linked
  fresh := .restart w
  running := by simp [World.restart]

theorem Ready.revoking {w later : World} (ready : Ready w) (revoking : Revoking w later) :
    Ready later where
  linked := revoking.linked ready.linked
  fresh := (Restored.of_same revoking.process).fresh ready.fresh
  running := revoking.process.state ▸ ready.running

/-- The providers answer by operation. -/
def Assigns (pick : Call → World → Choice)
    (outcome : String → Except KernelError OperationReceipt) : Prop :=
  ∀ r w, (pick (.providerOutcome r) w).outcome = outcome r.operationId

/-- An attempt of `r` on this journal returns a result. -/
def completes (outcome : String → Except KernelError OperationReceipt) (entries : List Entry)
    (r : OperationRequest) : Bool :=
  r.validateSensitiveReferences.isOk &&
    ((committedIn r entries).isSome || (receivedIn r entries).isSome ||
      (outcome r.operationId).isOk)

section Attempts

variable {pick : Call → World → Choice} {outcome : String → Except KernelError OperationReceipt}
  {w : World} {r : OperationRequest}

theorem attempt_invalid {reason : String} (invalid : r.validateSensitiveReferences = .error reason)
    (recovered : Bool) :
    ((attempt r recovered).run.runWith kernel pick w).1 = .error (.admission reason) := by
  simp [attempt, executeInternal, invalid, runWith_bind, lift]

theorem attempt_ready (pick : Call → World → Choice) (r : OperationRequest) (ready : Ready w)
    (recovered : Bool) :
    Ready ((attempt r recovered).run.runWith kernel pick w).2 := by
  obtain ⟨valid, restored, -⟩ :=
    attempt_runWith (fun _ => True) r pick recovered trivial ready.linked
  exact ⟨valid.linked, restored.fresh ready.fresh, restored.state ▸ ready.running⟩

/-- An attempt returns a result exactly if its references are valid and a receipt
is at hand or comes from the provider. -/
theorem attempt_isOk (ready : Ready w) (steady : Steady pick) (assigns : Assigns pick outcome)
    (recovered : Bool) :
    ((attempt r recovered).run.runWith kernel pick w).1.isOk =
      completes outcome w.journal.entries r := by
  obtain ⟨-, -, -, concluded⟩ :=
    attempt_runWith (fun _ => True) r pick recovered trivial ready.linked
  cases references : r.validateSensitiveReferences with
  | error reason =>
      rw [attempt_invalid references]
      simp [completes, references, Except.isOk, Except.toBool]
  | ok _ =>
      generalize (attempt r recovered).run.runWith kernel pick w = ending at concluded
      obtain ⟨error | execution, later⟩ := ending
      · rcases concluded with broken | ⟨-, rejected⟩ | ⟨reason, l', -, executed⟩
        · exact absurd steady.storage broken
        · rcases rejected (.inl ⟨steady.clock, ready.fresh⟩) with refused | stopping
          · exact absurd references refused
          · exact absurd stopping ready.running
        · obtain ⟨uncommitted, unreceived, ⟨v, choice, rfl, failed⟩, -⟩ :=
            executed.error steady.storage (fun stale => stale ready.fresh)
          rw [assigns] at failed
          have absent : committedIn r w.journal.entries = none := uncommitted
          have missing : receivedIn r w.journal.entries = none := unreceived
          simp [completes, references, absent, missing, failed, Except.isOk, Except.toBool]
      · rcases concluded.ok with ⟨committed, -⟩ | ⟨-, received, -⟩ |
          ⟨-, -, ⟨v, choice, rfl, answered⟩, -⟩
        · have found : committedIn r w.journal.entries = some execution.receipt := committed
          simp [completes, references, found, Except.isOk, Except.toBool]
        · have found : receivedIn r w.journal.entries = some execution.receipt := received
          simp [completes, references, found, Except.isOk, Except.toBool]
        · rw [assigns] at answered
          simp [completes, references, answered, Except.isOk, Except.toBool]

/-- The operation has a step commit. -/
def commits (operationId : String) (entries : List Entry) : Bool :=
  entries.any (isStepCommit operationId)

theorem commits_append (operationId : String) (first second : List Entry) :
    commits operationId (first ++ second) =
      (commits operationId first || commits operationId second) := by
  simp [commits]

theorem commits_of_committedIn {entries : List Entry} (committed : committedIn r entries ≠ none) :
    commits r.operationId entries = true := by
  obtain ⟨receipt, found⟩ := Option.ne_none_iff_exists'.mp committed
  obtain ⟨entry, member, type, kind, -, operation, -⟩ := committedIn_origin found
  exact List.any_eq_true.mpr ⟨entry, member, by simp [isStepCommit, type, kind, operation]⟩

@[simp] theorem Ledger.abort_commitUsed (l : Ledger) : l.abort.commitUsed = l.commitUsed := by
  unfold Ledger.abort
  split <;> rfl

@[simp] theorem Ledger.intend_abortUsed (l : Ledger) (q : OperationRequest) :
    (l.intend q).abortUsed = l.abortUsed := by
  unfold Ledger.intend
  split <;> rfl

@[simp] theorem Ledger.receive_abortUsed (l : Ledger) (receipt : OperationReceipt) :
    (l.receive receipt).abortUsed = l.abortUsed := by
  unfold Ledger.receive
  split <;> rfl

@[simp] theorem Ledger.commit_abortUsed (l : Ledger) (receipt : OperationReceipt) :
    (l.commit receipt).abortUsed = l.abortUsed := by
  unfold Ledger.commit
  split <;> rfl

theorem Concluded.commitUsed {Allowed : Call → World → Choice → Prop} {later : World}
    {error : KernelError} (reliable : Reliable Allowed) (fresh : Fresh w)
    (concluded : Concluded Allowed r w (.error error) later) :
    (ledgerIn r later.journal.entries).commitUsed =
      (ledgerIn r w.journal.entries).commitUsed := by
  rcases concluded with broken | ⟨same, -⟩ | ⟨reason, l', moved, executed⟩
  · exact absurd reliable broken
  · rw [same]
  · obtain ⟨-, -, -, rfl⟩ := executed.error reliable (fun stale => stale fresh)
    rw [moved]
    simp

theorem Concluded.abortUsed {Allowed : Call → World → Choice → Prop} {later : World}
    {execution : RuntimeExecution} (concluded : Concluded Allowed r w (.ok execution) later) :
    (ledgerIn r later.journal.entries).abortUsed = (ledgerIn r w.journal.entries).abortUsed := by
  rcases concluded.ok with ⟨-, same⟩ | ⟨-, -, moved⟩ | ⟨-, -, -, moved⟩
  · rw [same]
  · rw [moved]
    simp
  · rw [moved]
    simp

/-- Rows of one operation do not change the receipts of another. -/
theorem receipts_foreign {q : OperationRequest} (entries : List Entry) {more : List Entry}
    (other : q.operationId ≠ r.operationId) (rows : ∀ entry ∈ more, Recorded (· = r) entry) :
    committedIn q (entries ++ more) = committedIn q entries ∧
      receivedIn q (entries ++ more) = receivedIn q entries := by
  induction more using List.reverseRecOn with
  | nil => simp
  | append_singleton more last ih =>
      obtain ⟨sameCommit, sameReceipt⟩ :=
        ih fun entry member => rows entry (List.mem_append_left _ member)
      rw [← List.append_assoc, committedIn_snoc, receivedIn_snoc, sameCommit, sameReceipt]
      constructor
      · refine if_neg fun found => other ?_
        obtain ⟨_, -, rfl, -, object, -⟩ := (rows last (by simp)).stepCommit found.2.2.1
        exact found.2.2.2.symm.trans object
      · refine if_neg fun found => other ?_
        obtain ⟨_, -, rfl, -, object, -⟩ := (rows last (by simp)).operationReceipt found.2.2.1
        exact found.2.2.2.symm.trans object

/-- A row that was added carries a new key. -/
theorem key_new {j : Journal Payload} {entries more : List Entry} {entry : Entry} {key : String}
    (grown : j.entries = entries ++ more) (member : entry ∈ more)
    (keyed : entry.idempotencyKey = some key) :
    key ∈ keysOf j.entries ∧ key ∉ keysOf entries := by
  have unique := j.unique
  rw [grown, keysOf_append, List.nodup_append] at unique
  have added : key ∈ keysOf more := mem_keysOf.mpr ⟨entry, member, keyed⟩
  refine ⟨?_, fun old => unique.2.2 key old key added rfl⟩
  rw [grown, keysOf_append]
  exact List.mem_append_right _ added

/-- The step commits after an attempt: those before it, and its own if it returns
a result and the commit key was free. -/
theorem attempt_commits (ready : Ready w) (steady : Steady pick) (assigns : Assigns pick outcome)
    (recovered : Bool) (operationId : String) :
    commits operationId ((attempt r recovered).run.runWith kernel pick w).2.journal.entries ↔
      commits operationId w.journal.entries ∨
        (operationId = r.operationId ∧ completes outcome w.journal.entries r ∧
          commitKey r.operationId ∉ keysOf w.journal.entries) := by
  obtain ⟨-, -, -, concluded⟩ :=
    attempt_runWith (fun _ => True) r pick recovered trivial ready.linked
  obtain ⟨more, grown, rows⟩ := attempt_grown (r := r) (w := w) recovered pick
  have ended := attempt_isOk (r := r) ready steady assigns recovered
  generalize (attempt r recovered).run.runWith kernel pick w = ending at concluded grown ended
  obtain ⟨result, later⟩ := ending
  simp only at grown ended concluded ⊢
  rw [← ended, grown, commits_append, Bool.or_eq_true]
  constructor
  · rintro (old | new)
    · exact .inl old
    obtain ⟨entry, member, step⟩ := List.any_eq_true.mp new
    simp only [isStepCommit, Bool.and_eq_true, decide_eq_true_eq] at step
    obtain ⟨q, -, rfl, -, operation, -, -, keyed⟩ := (rows entry member).recorded.stepCommit step.1.2
    rw [operation] at keyed
    obtain ⟨used, unused⟩ := key_new grown member keyed
    refine .inr ⟨step.2.symm.trans operation, ?_, unused⟩
    cases result with
    | ok execution => rfl
    | error error =>
        have same := concluded.commitUsed steady.storage ready.fresh
        simp [ledgerIn, used, unused] at same
  · rintro (old | ⟨rfl, returned, unused⟩)
    · exact .inl old
    rw [← Bool.or_eq_true, ← commits_append, ← grown]
    cases result with
    | error error => cases returned
    | ok execution =>
        refine commits_of_committedIn ?_
        have free : (ledgerIn r w.journal.entries).commitUsed = false := by
          simpa [ledgerIn] using unused
        rw [show committedIn r later.journal.entries =
          (ledgerIn r later.journal.entries).committed from rfl]
        rcases concluded.ok with ⟨committed, same⟩ | ⟨-, -, moved⟩ | ⟨-, -, -, moved⟩
        · simp [same, committed]
        · simp [moved, Ledger.commit, free]
        · simp [moved, Ledger.commit, free]

/-- An attempt that returns a result leaves the other operations as they were. -/
theorem attempt_foreign (pick : Call → World → Choice)
    (outcome : String → Except KernelError OperationReceipt) (ready : Ready w) (recovered : Bool)
    {q : OperationRequest}
    (other : q.operationId ≠ r.operationId)
    (returned : ((attempt r recovered).run.runWith kernel pick w).1.isOk = true) :
    completes outcome ((attempt r recovered).run.runWith kernel pick w).2.journal.entries q =
        completes outcome w.journal.entries q ∧
      (commitKey q.operationId ∈
          keysOf ((attempt r recovered).run.runWith kernel pick w).2.journal.entries ↔
        commitKey q.operationId ∈ keysOf w.journal.entries) := by
  obtain ⟨-, -, -, concluded⟩ :=
    attempt_runWith (fun _ => True) r pick recovered trivial ready.linked
  obtain ⟨more, grown, rows⟩ := attempt_grown (r := r) (w := w) recovered pick
  generalize (attempt r recovered).run.runWith kernel pick w = ending at concluded grown returned
  obtain ⟨error | execution, later⟩ := ending
  · cases returned
  simp only at grown concluded ⊢
  have same := receipts_foreign w.journal.entries other fun entry member =>
    (rows entry member).recorded
  refine ⟨by simp [completes, grown, same], ?_⟩
  rw [grown, keysOf_append, List.mem_append]
  refine ⟨fun used => used.resolve_right fun added => ?_, .inl⟩
  obtain ⟨entry, member, keyed⟩ := mem_keysOf.mp added
  obtain ⟨kind, written, sequence, now, row, rfl⟩ := rows entry member
  by_cases tidy : kind = .abort
  · subst tidy
    cases row with
    | abort error =>
        obtain ⟨used, unused⟩ := key_new grown member rfl
        have kept := concluded.abortUsed
        simp [ledgerIn, used, unused] at kept
  · exact other (row.commitKey_own tidy keyed)

end Attempts

/-! ### All pending operations -/

/-- Recovery takes the request up, and its attempt returns a result. -/
def recoverable (outcome : String → Except KernelError OperationReceipt) (entries : List Entry)
    (r : OperationRequest) : Bool :=
  r.delivery.repeatable && completes outcome entries r

section Pending

variable {pick : Call → World → Choice} {outcome : String → Except KernelError OperationReceipt}
  {w : World}

theorem takeWhile_congr {α : Type} {p q : α → Bool} {values : List α}
    (same : ∀ value ∈ values, p value = q value) : values.takeWhile p = values.takeWhile q := by
  induction values with
  | nil => rfl
  | cons value rest ih =>
      simp only [List.takeWhile_cons, same value (.head _),
        ih fun other member => same other (.tail _ member)]

/-- The step commits after the loop of recovery: those before it, and those of
the requests up to the first one that cannot be recovered. -/
theorem recoverPending_commits (ready : Ready w) (steady : Steady pick)
    (assigns : Assigns pick outcome) (pending : List OperationRequest)
    (distinct : (pending.map (·.operationId)).Nodup) (recovered : List RuntimeExecution)
    (operationId : String) :
    commits operationId
        ((recoverPending pending recovered).run.runWith kernel pick w).2.journal.entries ↔
      commits operationId w.journal.entries ∨
        ∃ r ∈ pending.takeWhile (recoverable outcome w.journal.entries),
          r.operationId = operationId ∧ commitKey operationId ∉ keysOf w.journal.entries := by
  induction pending generalizing w recovered with
  | nil => simp [recoverPending]
  | cons r rest ih =>
      rw [List.map_cons, List.nodup_cons] at distinct
      unfold recoverPending
      cases repeatable : r.delivery.repeatable with
      | false => simp [recoverable, repeatable]
      | true =>
          simp only [if_true, runWith_bindExcept]
          have ended := attempt_isOk (r := r) ready steady assigns true
          have added := attempt_commits (r := r) ready steady assigns true operationId
          have still := attempt_ready pick r ready true
          have foreign : ∀ q ∈ rest, _ := fun q member returned =>
            attempt_foreign pick outcome (q := q) (r := r) ready true
              (fun same => distinct.1 (same ▸ List.mem_map_of_mem member)) returned
          generalize (attempt r true).run.runWith kernel pick w = ending at ended added still foreign
          obtain ⟨error | execution, later⟩ := ending
          · have stuck : recoverable outcome w.journal.entries r = false := by
              rw [recoverable, ← ended]
              simp [Except.isOk, Except.toBool]
            have failed : completes outcome w.journal.entries r = false := ended.symm
            simp [stuck, added, failed]
          · have taken : recoverable outcome w.journal.entries r = true := by
              rw [recoverable, ← ended, repeatable]
              rfl
            have completed : completes outcome w.journal.entries r = true := ended.symm
            have same : rest.takeWhile (recoverable outcome later.journal.entries) =
                rest.takeWhile (recoverable outcome w.journal.entries) :=
              takeWhile_congr fun q member => by
                rw [recoverable, recoverable, (foreign q member rfl).1]
            have keys : ∀ q ∈ rest.takeWhile (recoverable outcome w.journal.entries),
                q.operationId = operationId → (commitKey operationId ∉ keysOf later.journal.entries ↔
                  commitKey operationId ∉ keysOf w.journal.entries) := by
              rintro q member rfl
              exact not_congr (foreign q ((List.takeWhile_prefix _).subset member) rfl).2
            rw [ih still distinct.2, added, same, List.takeWhile_cons, taken, or_assoc]
            refine or_congr_right ⟨?_, ?_⟩
            · rintro (⟨rfl, -, unused⟩ | ⟨q, member, rfl, unused⟩)
              · exact ⟨r, .head _, rfl, unused⟩
              · exact ⟨q, .tail _ member, rfl, (keys q member rfl).mp unused⟩
            · rintro ⟨q, member, rfl, unused⟩
              rcases List.mem_cons.mp member with rfl | tail
              · exact .inl ⟨rfl, completed, unused⟩
              · exact .inr ⟨q, tail, rfl, (keys q tail rfl).mpr unused⟩

/-- Revocation changes no receipt. -/
theorem Revoking.receipts {later : World} (revoking : Revoking w later) (r : OperationRequest) :
    committedIn r later.journal.entries = committedIn r w.journal.entries ∧
      receivedIn r later.journal.entries = receivedIn r w.journal.entries := by
  obtain ⟨more, grown, revoke⟩ := revoking.entries
  rw [grown]
  clear grown revoking
  induction more using List.reverseRecOn with
  | nil => simp
  | append_singleton more last ih =>
      have kind := (revoke last (by simp)).1
      obtain ⟨sameCommit, sameReceipt⟩ :=
        ih fun entry member => revoke entry (List.mem_append_left _ member)
      rw [← List.append_assoc, committedIn_snoc, receivedIn_snoc, sameCommit, sameReceipt]
      simp [kind]

/-- Revocation adds no step commit and takes no commit key. -/
theorem Revoking.commits {later : World} (revoking : Revoking w later) (operationId : String) :
    NousKernel.commits operationId later.journal.entries =
        NousKernel.commits operationId w.journal.entries ∧
      (commitKey operationId ∈ keysOf later.journal.entries ↔
        commitKey operationId ∈ keysOf w.journal.entries) := by
  obtain ⟨more, grown, revoke⟩ := revoking.entries
  have none : NousKernel.commits operationId more = false := by
    simp only [NousKernel.commits, List.any_eq_false]
    intro entry member
    simp [isStepCommit, (revoke entry member).1]
  have unused : commitKey operationId ∉ keysOf more := by
    intro used
    obtain ⟨entry, member, keyed⟩ := mem_keysOf.mp used
    obtain ⟨-, other, leaseId, revokes⟩ := revoke entry member
    have texts := congrArg (fun key => key.map fun text => text.toList.reverse)
      (keyed.symm.trans revokes)
    simp [commitKey, revokeKey, operationKey] at texts
  rw [grown, commits_append, none, keysOf_append, List.mem_append]
  simp [unused]

theorem pendingValues_distinct (entries : List Entry) :
    ((pendingValues entries).map (·.operationId)).Nodup := by
  have keys : (pendingValues entries).map (·.operationId) = (pendingMap entries).keys := by
    simp only [pendingValues, List.map_map, AList.keys, List.keys]
    refine List.map_congr_left fun entry member => ?_
    exact (pendingIn_origin (AList.mem_lookup_iff.mpr member)).1
  rw [keys]
  exact (pendingMap entries).keys_nodup

/-- The step commits after recovery. -/
theorem recover_commits (ready : Ready w) (steady : Steady pick) (assigns : Assigns pick outcome)
    (order : MapOrder) (operationId : String) :
    commits operationId ((recover order).run.runWith kernel pick w).2.journal.entries ↔
      commits operationId w.journal.entries ∨
        Revocable (scanLeases w.journal.entries).requests
            (scanLeases w.journal.entries).orphans ∧
          ∃ r ∈ (order.pending (pendingValues w.journal.entries)).takeWhile
              (recoverable outcome w.journal.entries),
            r.operationId = operationId ∧ commitKey operationId ∉ keysOf w.journal.entries := by
  obtain ⟨later, revoking, stuck, free⟩ := recover_runWith steady order w
  obtain ⟨sameCommits, sameKey⟩ := revoking.commits operationId
  by_cases revocable : Revocable (scanLeases w.journal.entries).requests
      (scanLeases w.journal.entries).orphans
  · have same : recoverable outcome later.journal.entries =
        recoverable outcome w.journal.entries := by
      funext r
      obtain ⟨committed, received⟩ := revoking.receipts r
      simp [recoverable, completes, committed, received]
    have distinct : ((order.pending (pendingValues w.journal.entries)).map
        (·.operationId)).Nodup :=
      ((order.pendingPerm _).map _).nodup_iff.mpr (pendingValues_distinct _)
    rw [free revocable, recoverPending_commits (ready.revoking revoking) steady assigns _ distinct,
      sameCommits, same, sameKey]
    simp [revocable]
  · obtain ⟨error, ended⟩ := stuck revocable
    simp [ended, sameCommits, revocable]

end Pending

/-- The order that brings one request to the front. -/
def MapOrder.leading (r : OperationRequest) : MapOrder where
  leases values := values
  pending values := if r ∈ values then r :: values.erase r else values
  leasesPerm := MapOrder.inserted.leasesPerm
  pendingPerm values := by
    by_cases member : r ∈ values
    · rw [if_pos member]
      exact (List.perm_cons_erase member).symm
    · rw [if_neg member]

section Order

variable {pick : Call → World → Choice} {outcome : String → Except KernelError OperationReceipt}
  {w : World}

/-- Where recovery can choose between a pending operation that it would commit
and one that stops it, the order decides. -/
theorem order_decides (ready : Ready w) (steady : Steady pick) (assigns : Assigns pick outcome)
    (revocable : Revocable (scanLeases w.journal.entries).requests
      (scanLeases w.journal.entries).orphans)
    {good bad : OperationRequest} (goodPending : good ∈ pendingValues w.journal.entries)
    (badPending : bad ∈ pendingValues w.journal.entries)
    (recovers : recoverable outcome w.journal.entries good = true)
    (stops : recoverable outcome w.journal.entries bad = false)
    (uncommitted : commits good.operationId w.journal.entries = false)
    (unused : commitKey good.operationId ∉ keysOf w.journal.entries) :
    commits good.operationId
        ((recover (.leading good)).run.runWith kernel pick w).2.journal.entries = true ∧
      commits good.operationId
        ((recover (.leading bad)).run.runWith kernel pick w).2.journal.entries = false := by
  constructor
  · rw [recover_commits ready steady assigns]
    refine .inr ⟨revocable, good, ?_, rfl, unused⟩
    simp [MapOrder.leading, goodPending, recovers]
  · rw [← Bool.not_eq_true, recover_commits ready steady assigns]
    simp [MapOrder.leading, badPending, stops, uncommitted]

end Order

/-- The operations with a step commit after recovery are the same for every
order exactly if recovery stops before the pending operations, or can recover all
of them, or has none to commit. -/
theorem recovery_order_irrelevant_iff {w : World} (reached : Reached w)
    (pick : Call → World → Choice) (outcome : String → Except KernelError OperationReceipt)
    (steady : Steady pick) (assigns : Assigns pick outcome) :
    (∀ first second operationId,
      commits operationId ((recover first).run.runWith kernel pick w.restart).2.journal.entries =
        commits operationId
          ((recover second).run.runWith kernel pick w.restart).2.journal.entries) ↔
      ¬ Revocable (scanLeases w.journal.entries).requests (scanLeases w.journal.entries).orphans ∨
      (∀ r ∈ pendingValues w.journal.entries, recoverable outcome w.journal.entries r = true) ∨
      ∀ r ∈ pendingValues w.journal.entries, recoverable outcome w.journal.entries r = true →
        commits r.operationId w.journal.entries = true ∨
          commitKey r.operationId ∈ keysOf w.journal.entries := by
  have ready : Ready w.restart := .restart reached
  constructor
  · intro same
    by_contra mixed
    simp only [not_or, not_not, not_forall, Bool.not_eq_true] at mixed
    obtain ⟨revocable, ⟨bad, badPending, stops⟩, good, goodPending, recovers, uncommitted,
      unused⟩ := mixed
    obtain ⟨yes, no⟩ := order_decides ready steady assigns revocable goodPending badPending
      recovers stops uncommitted unused
    rw [same (.leading good) (.leading bad), no] at yes
    cases yes
  · intro settled first second operationId
    have carry : ∀ order other : MapOrder,
        commits operationId
          ((recover order).run.runWith kernel pick w.restart).2.journal.entries = true →
        commits operationId
          ((recover other).run.runWith kernel pick w.restart).2.journal.entries = true := by
      intro order other
      rw [recover_commits ready steady assigns order, recover_commits ready steady assigns other]
      rintro (old | ⟨revocable, r, taken, rfl, unused⟩)
      · exact .inl old
      have pending : r ∈ pendingValues w.journal.entries :=
        (order.pendingPerm _).mem_iff.mp ((List.takeWhile_prefix _).subset taken)
      rcases settled with stuck | all | none
      · exact absurd revocable stuck
      · refine .inr ⟨revocable, r, ?_, rfl, unused⟩
        have whole : (other.pending (pendingValues w.journal.entries)).takeWhile
            (recoverable outcome w.journal.entries) =
              other.pending (pendingValues w.journal.entries) :=
          List.takeWhile_eq_self_iff.mpr fun q member =>
            all q ((other.pendingPerm _).mem_iff.mp member)
        exact whole.symm ▸ (other.pendingPerm _).mem_iff.mpr pending
      · rcases none r pending (List.mem_takeWhile_imp taken) with old | used
        · exact .inl old
        · exact absurd used unused
    rw [Bool.eq_iff_iff]
    exact ⟨carry first second, carry second first⟩

theorem Reached.session {w : World} (reached : Reached w) (steps : List (Command × List Choice)) :
    Reached (w.session steps) := by
  induction steps generalizing w with
  | nil => exact reached
  | cons step rest ih =>
      refine ih (w := w.perform step.1 step.2) ?_
      simp only [World.perform]
      split
      · exact .restart (reached.run _ _)
      · exact reached.run _ _

/-- An environment in which every provider answers, with a receipt of its operation. -/
def steadily (result : String) : Call → World → Choice
  | .providerOutcome r, _ => answering (sampleReceipt r.operationId result)
  | _, _ => {}

theorem steadily_steady (result : String) : Steady (steadily result) where
  reliable call w := by cases call <;> rfl
  prompt _ _ _ _ _ := by simp [steadily]

theorem steadily_assigns (result : String) :
    Assigns (steadily result) fun operationId => .ok (sampleReceipt operationId result) :=
  fun _ _ => rfl

/-- An operation that crashed when its intent was journaled. -/
def crashedOperation (operationId workloadId : String) (delivery : DeliverySemantics) :
    Command × List Choice :=
  (.execute (sampleRequest operationId workloadId "revision-1" delivery), List.replicate 14 failing)

/-- An unsafe operation and a safe one, both pending. -/
def mixedCrashes : World :=
  booted sampleUuids 0 [crashedOperation "operation-1" "workload-1" .atMostOnce,
    crashedOperation "operation-2" "workload-2" .idempotent]

/-- The safe operation is committed if it comes first, and not if the unsafe one
does. -/
theorem recovery_order_decides :
    ¬ ∀ w, Reached w → ∀ pick outcome, Steady pick → Assigns pick outcome →
      ∀ first second operationId,
        commits operationId ((recover first).run.runWith kernel pick w.restart).2.journal.entries =
          commits operationId
            ((recover second).run.runWith kernel pick w.restart).2.journal.entries := by
  intro indifferent
  have same := indifferent mixedCrashes (.session (.boot _ _) _)
    (steadily "result") _ (steadily_steady _) (steadily_assigns _)
    (.leading (sampleRequest "operation-1" "workload-1" "revision-1" .atMostOnce))
    (.leading (sampleRequest "operation-2" "workload-2" "revision-1" .idempotent)) "operation-2"
  revert same
  decide +kernel

/-- Two operations that may be delivered again, both pending. -/
def safeCrashes : World :=
  booted sampleUuids 0 [crashedOperation "operation-1" "workload-1" .idempotent,
    crashedOperation "operation-2" "workload-2" .reconcilable]

theorem recovery_order_irrelevant_pair :
    (pendingValues safeCrashes.journal.entries).length = 2 ∧
    ∀ first second operationId,
      commits operationId ((recover first).run.runWith kernel (steadily "result")
          safeCrashes.restart).2.journal.entries =
        commits operationId ((recover second).run.runWith kernel (steadily "result")
          safeCrashes.restart).2.journal.entries := by
  have recovers : ∀ r ∈ pendingValues safeCrashes.journal.entries,
      recoverable (fun operationId => .ok (sampleReceipt operationId "result"))
        safeCrashes.journal.entries r = true := by
    decide +kernel
  exact ⟨by decide +kernel, (recovery_order_irrelevant_iff (.session (.boot _ _) _) _ _
    (steadily_steady _) (steadily_assigns _)).mpr (.inr (.inl recovers))⟩

/-! ### A recorded receipt -/

/-- A recorded receipt stays recorded. -/
theorem receivedIn_kept {Input : OperationRequest → Prop} {r : OperationRequest}
    {entries : List Entry} {entry : Entry} (received : receivedIn r entries ≠ none)
    (recorded : Recorded Input entry) : receivedIn r (entries ++ [entry]) ≠ none := by
  rw [receivedIn_snoc]
  split
  · rename_i found
    obtain ⟨-, receipt, -, -, -, -, carried, -⟩ := recorded.operationReceipt found.2.2.1
    simp [carried, Payload.receipt?]
  · exact received

/-- Attempts of one request invoke no provider once its receipt is recorded. -/
theorem Lawful.no_invocation {r : OperationRequest} {base history : List Event}
    (lawful : Lawful (· = r) base history) (received : receivedIn r (entriesOf base) ≠ none) :
    receivedIn r (entriesOf history) ≠ none ∧
      ∃ more, history = base ++ more ∧ ∀ q, .invoked q ∉ more := by
  induction lawful with
  | start => exact ⟨received, [], by simp, by simp⟩
  | next history event lawful law ih =>
      obtain ⟨still, more, grown, quiet⟩ := ih
      refine ⟨?_, more ++ [event], by rw [grown, List.append_assoc], fun q member => ?_⟩
      · rw [entriesOf_append]
        cases event with
        | appended entry => exact receivedIn_kept still law.1
        | _ => simpa [entriesOf] using still
      · rcases List.mem_append.mp member with old | last
        · exact quiet q old
        · rw [List.mem_singleton] at last
          subst last
          obtain ⟨rfl, invokes⟩ := law
          exact still invokes.unreceived

/-- An attempt of an operation whose receipt is recorded commits it without its
provider. -/
theorem attempt_reuses {w : World} {r : OperationRequest} {receipt : OperationReceipt}
    {pick : Call → World → Choice} (ready : Ready w) (steady : Steady pick)
    (received : receivedIn r w.journal.entries = some receipt)
    (uncommitted : committedIn r w.journal.entries = none)
    (unused : commitKey r.operationId ∉ keysOf w.journal.entries)
    (references : r.validateSensitiveReferences = .ok ()) (recovered : Bool) :
    ∃ execution later, (attempt r recovered).run.runWith kernel pick w = (.ok execution, later) ∧
      execution.receipt = receipt ∧ committedIn r later.journal.entries = some receipt ∧
      ∃ more, later.history = w.history ++ more ∧ ∀ q, .invoked q ∉ more := by
  obtain ⟨valid, -, -, concluded⟩ := attempt_runWith (· = r) r pick recovered rfl ready.linked
  have silent := valid.lawful.no_invocation (r := r)
    (by rw [← show w.journal.entries = entriesOf w.history from ready.linked, received]; simp)
  have uncommittedHere : (ledgerIn r w.journal.entries).committed = none := uncommitted
  have receivedHere : (ledgerIn r w.journal.entries).received = some receipt := received
  generalize (attempt r recovered).run.runWith kernel pick w = ending at concluded silent
  obtain ⟨error | execution, later⟩ := ending
  · rcases concluded with broken | ⟨-, rejected⟩ | ⟨reason, l', -, executed⟩
    · exact absurd steady.storage broken
    · rcases rejected (.inl ⟨steady.clock, ready.fresh⟩) with refused | stopping
      · exact absurd references refused
      · exact absurd stopping ready.running
    · obtain ⟨-, unreceived, -⟩ := executed.error steady.storage (fun stale => stale ready.fresh)
      simp [receivedHere] at unreceived
  · refine ⟨execution, later, rfl, ?_⟩
    rcases concluded.ok with ⟨committed, -⟩ | ⟨-, same, moved⟩ | ⟨-, unreceived, -⟩
    · simp [uncommittedHere] at committed
    · have free : (ledgerIn r w.journal.entries).commitUsed = false := by
        simpa [ledgerIn] using unused
      have equal : execution.receipt = receipt := by simpa [receivedHere] using same.symm
      refine ⟨equal, ?_, silent.2⟩
      rw [show committedIn r later.journal.entries =
        (ledgerIn r later.journal.entries).committed from rfl, moved]
      simp [Ledger.commit, free, equal]
    · simp [receivedHere] at unreceived

/-- The only pending operation, whose receipt is recorded and not committed.
Recovery commits it without its provider if its delivery may be repeated, and
otherwise refuses it, without a commit and without its provider. -/
theorem recorded_receipt_recovered {w : World} (reached : Reached w) (r : OperationRequest)
    (receipt : OperationReceipt) (alone : pendingValues w.journal.entries = [r])
    (received : receivedIn r w.journal.entries = some receipt)
    (uncommitted : committedIn r w.journal.entries = none)
    (unused : commitKey r.operationId ∉ keysOf w.journal.entries)
    (references : r.validateSensitiveReferences = .ok ())
    (revocable : Revocable (scanLeases w.journal.entries).requests
      (scanLeases w.journal.entries).orphans)
    (order : MapOrder) (pick : Call → World → Choice) (steady : Steady pick) :
    ∃ result later more, (recover order).run.runWith kernel pick w.restart = (result, later) ∧
      later.history = w.restart.history ++ more ∧ (∀ q, .invoked q ∉ more) ∧
      (r.delivery.repeatable = true →
        result.isOk = true ∧ committedIn r later.journal.entries = some receipt) ∧
      (r.delivery.repeatable = false → result = .error (.unsafeRecovery r.operationId) ∧
        ∀ operationId,
          commits operationId later.journal.entries = commits operationId w.journal.entries) := by
  have ready : Ready w.restart := .restart reached
  obtain ⟨revoked, revoking, -, free⟩ := recover_runWith steady order w.restart
  have single : order.pending (pendingValues w.restart.journal.entries) = [r] :=
    List.perm_singleton.mp (alone ▸ order.pendingPerm (pendingValues w.restart.journal.entries))
  obtain ⟨more, grown, quiet⟩ := revoking.history
  rw [free revocable, single]
  unfold recoverPending
  cases repeatable : r.delivery.repeatable with
  | false =>
      exact ⟨_, revoked, more, rfl, grown, quiet, by simp, fun _ =>
        ⟨rfl, fun operationId => (revoking.commits operationId).1⟩⟩
  | true =>
      obtain ⟨sameCommit, sameReceipt⟩ := revoking.receipts r
      obtain ⟨execution, later, ended, -, committed, next, longer, quiet'⟩ :=
        attempt_reuses (r := r) (ready.revoking revoking) steady (sameReceipt.trans received)
          (sameCommit.trans uncommitted)
          (fun used => unused ((revoking.commits r.operationId).2.mp used)) references true
      simp only [if_true, runWith_bindExcept, ended]
      refine ⟨_, later, more ++ next, rfl, by rw [longer, grown, List.append_assoc], ?_,
        fun _ => ⟨rfl, committed⟩, by simp⟩
      intro q member
      rcases List.mem_append.mp member with old | new
      · exact quiet q old
      · exact quiet' q new

/-- A crash between the receipt and the commit of operation-1. -/
def receivedCrash (delivery : DeliverySemantics) : World :=
  booted sampleUuids 0
    [(.execute (sampleRequest "operation-1" "workload-1" "revision-1" delivery),
      List.replicate 19 (answering (sampleReceipt "operation-1" "result")))]

theorem recorded_receipt_recovered_idempotent :
    ∃ result later, (recover .inserted).run.runWith kernel
        (steadily "other") (receivedCrash .idempotent).restart =
          (result, later) ∧
      committedIn (sampleRequest "operation-1" "workload-1" "revision-1" .idempotent)
        later.journal.entries = some (sampleReceipt "operation-1" "result") := by
  obtain ⟨result, later, more, ended, -, -, repeated, -⟩ :=
    recorded_receipt_recovered (w := receivedCrash .idempotent) (.session (.boot _ _) _)
      (sampleRequest "operation-1" "workload-1" "revision-1" .idempotent)
      (sampleReceipt "operation-1" "result") (by decide +kernel) (by decide +kernel)
      (by decide +kernel) (by decide +kernel) (by decide +kernel)
      (by unfold Revocable; decide +kernel) .inserted
      (steadily "other") (steadily_steady _)
  exact ⟨result, later, ended, (repeated rfl).2⟩

/-- The receipt of an operation that may be delivered at most once stays without
a commit. -/
theorem recorded_receipt_refused :
    ¬ ∀ w, Reached w → ∀ r receipt, pendingValues w.journal.entries = [r] →
      receivedIn r w.journal.entries = some receipt → committedIn r w.journal.entries = none →
      commitKey r.operationId ∉ keysOf w.journal.entries →
      r.validateSensitiveReferences = .ok () →
      Revocable (scanLeases w.journal.entries).requests (scanLeases w.journal.entries).orphans →
      ∀ order pick, Steady pick →
        committedIn r ((recover order).run.runWith kernel pick w.restart).2.journal.entries =
          some receipt := by
  intro completed
  have committed := completed (receivedCrash .atMostOnce) (.session (.boot _ _) _)
    (sampleRequest "operation-1" "workload-1" "revision-1" .atMostOnce)
    (sampleReceipt "operation-1" "result") (by decide +kernel) (by decide +kernel)
    (by decide +kernel) (by decide +kernel) (by decide +kernel)
    (by unfold Revocable; decide +kernel) .inserted
    (steadily "other") (steadily_steady _)
  revert committed
  decide +kernel

end NousKernel
