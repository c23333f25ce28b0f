import NousKernel.Retracing

/-!
What the journal says of the last attempt of an operation. The final phase of its
workload and its execution profile are journaled under keys that name the outcome,
so each outcome is stored once per operation, and a repeated one leaves the rows of
the attempt between in the last place.
-/

set_option autoImplicit false

namespace NousKernel

open Resumption

/-! ### What is read back -/

/-- The phases that `finalPhase` journals. -/
def finalPhases : List String := ["COMPLETED", "FAILED", "CANCELLED"]

/-- The last final phase of the workload of an operation. -/
def workloadPhase (operationId : String) (entries : List Entry) : Option String :=
  (entries.reverse.find? fun entry => entry.objectType == "Workload" &&
    entry.objectId == operationId && finalPhases.contains entry.newPhase).map (·.newPhase)

def Payload.profile? : Payload → Option ExecutionProfile
  | profile value => some value
  | _ => none

/-- `ExecutionProfileStore::list`. The text of the parser is left out of the error. -/
def listProfiles (entries : List Entry) : Except NousError (List ExecutionProfile) :=
  (entries.filter fun entry => entry.objectType = "ExecutionProfile").mapM fun entry =>
    match entry.payload.profile? with
    | some profile => .ok profile
    | none => .error ⟨.dataLoss, "Invalid execution profile"⟩

/-- The profile that `GET_WORKLOAD` answers with. -/
def getWorkload (workloadId : String) (entries : List Entry) :
    Except NousError (Option ExecutionProfile) := do
  let profiles ← listProfiles entries
  return profiles.reverse.find? fun profile => profile.workloadId = workloadId

/-! ### Rows that change nothing of it -/

/-- A row under a key of its own that is neither a final phase nor a profile. -/
structure Neutral (r : OperationRequest) (entry : Entry) : Prop where
  workload : entry.objectType ≠ "Workload"
  profile : entry.objectType ≠ "ExecutionProfile"
  keyed : ∃ key, entry.idempotencyKey = some key ∧
    (∀ phase, key ≠ workloadKey r.operationId phase) ∧
    ∀ provider outcome, key ≠ profileKey r.operationId provider outcome

section Neutrality

variable {r : OperationRequest} {entry : Entry}

/-- A suffix whose key is that of neither a final phase nor a profile. -/
theorem neutral_entry {entryType : EntryType} {objectType phase suffix : String}
    {payload : Payload} (workload : objectType ≠ "Workload")
    (profile : objectType ≠ "ExecutionProfile") (mark : Char)
    (starts : suffix.toList.head? = some mark) (other : mark ≠ 'w' ∧ mark ≠ 'p') :
    Neutral r (entryOf r entryType objectType phase payload
      (operationKey r.operationId suffix)) := by
  refine ⟨workload, profile, _, rfl, fun phase same => ?_, fun provider outcome same => ?_⟩
  · have suffixes := (operationKey_eq_iff _ _ _).mp same
    rw [suffixes] at starts
    simp at starts
    exact other.1 starts.symm
  · have suffixes := (operationKey_eq_iff _ _ _).mp same
    rw [suffixes] at starts
    simp at starts
    exact other.2 starts.symm

theorem neutral_schedule : Neutral r (scheduleRow r) :=
  neutral_entry (by decide) (by decide) 's' rfl (by decide)

theorem neutral_intent : Neutral r (entryOf r .intent "Operation" "PENDING" (.request r)
    (intentKey r.operationId)) :=
  neutral_entry (by decide) (by decide) 'i' rfl (by decide)

theorem neutral_receipt (receipt : OperationReceipt) :
    Neutral r (entryOf r .observation "OperationReceipt" "RECEIVED" (.receipt receipt)
      (receiptKey r.operationId)) :=
  neutral_entry (by decide) (by decide) 'r' rfl (by decide)

theorem neutral_commit (receipt : OperationReceipt) :
    Neutral r (entryOf r .commit "StepCommit" "COMMITTED" (.receipt receipt)
      (commitKey r.operationId)) :=
  neutral_entry (by decide) (by decide) 'c' rfl (by decide)

theorem neutral_failure (error : KernelError) :
    Neutral r (entryOf r .observation "OperationFailure" error.code (failurePayload error)
      (failureKey r.operationId)) :=
  neutral_entry (by decide) (by decide) 'f' rfl (by decide)

theorem neutral_abort (error : KernelError) :
    Neutral r (entryOf r .abort "Operation" error.code (failurePayload error)
      (abortKey r.operationId r.snapshot.providerRevision)) :=
  neutral_entry (by decide) (by decide) 'a' (by simp) (by decide)

theorem neutral_released (leaseId : String) :
    Neutral r (entryOf r .commit "ResourceLease" "RELEASED" (.leaseReleased leaseId)
      (releaseKey r.operationId leaseId)) :=
  neutral_entry (by decide) (by decide) 'l' (by simp) (by decide)

theorem neutral_grant {kind : RowKind} (row : Row r kind entry) (grant : kind = .grant) :
    Neutral r entry := by
  cases row with
  | active fenced hyphenated => exact neutral_entry (by decide) (by decide) 'l' (by simp) (by decide)
  | _ => cases grant

/-- A call that appends, if anything, a neutral row. -/
def Mutes (r : OperationRequest) (call : Call) : Prop :=
  ∀ entry, call = .append entry → Neutral r entry

/-- The journal has grown by neutral rows. -/
def Muted (r : OperationRequest) (entries last : List Entry) : Prop :=
  ∃ more, last = entries ++ more ∧ ∀ entry ∈ more, Neutral r entry

theorem Neutral.stamp (neutral : Neutral r entry) (sequence : Nat) (now : Int) :
    Neutral r (Journal.stamp sequence now entry) :=
  ⟨neutral.workload, neutral.profile, neutral.keyed⟩

theorem Muted.refl (entries : List Entry) : Muted r entries entries := ⟨[], by simp, by simp⟩

theorem Muted.trans {first second third : List Entry} (before : Muted r first second)
    (after : Muted r second third) : Muted r first third := by
  obtain ⟨more, rows, neutral⟩ := before
  obtain ⟨next, others, neutral'⟩ := after
  refine ⟨more ++ next, by rw [others, rows, List.append_assoc], fun entry member => ?_⟩
  rcases List.mem_append.mp member with old | new
  · exact neutral entry old
  · exact neutral' entry new

theorem Muted.answer {entries : List Entry} {w : World} {call : Call}
    (muted : Muted r entries w.journal.entries) (mutes : Mutes r call) (choice : Choice) :
    Muted r entries (kernelAnswer call w choice).2.journal.entries := by
  by_cases appends : ∃ entry, call = .append entry
  · obtain ⟨entry, rfl⟩ := appends
    have neutral := mutes entry rfl
    obtain ⟨key, keyed, -⟩ := neutral.keyed
    rcases answer_append_cases (w := w) entry choice keyed with
      ⟨same, -⟩ | ⟨-, sequence, now, longer, -⟩
    · rw [same]
      exact muted
    · apply muted.trans
      refine ⟨_, longer, fun other member => ?_⟩
      rw [List.mem_singleton.mp member]
      exact neutral.stamp sequence now
  · rw [answer_journal choice fun entry same => appends ⟨entry, same⟩]
    exact muted

theorem Calls.muted {α : Type} {p : Task α} {post : α → Prop} {w later : World}
    {choices : List Choice} {ending : Option (α × List Choice)}
    (calls : p.Calls (Honest fun _ => True) (Mutes r) post)
    (ran : p.run kernel w choices = (ending, later)) :
    Muted r w.journal.entries later.journal.entries := by
  rw [← show (p.run kernel w choices).2 = later from congrArg Prod.snd ran]
  exact (Prog.Calls.run kernel (fun now => Muted r w.journal.entries now.journal.entries) calls
    (fun call now choice _ mutes muted =>
      ⟨honest_answer call now choice trivial, muted.answer mutes choice⟩) (.refl _)).1

end Neutrality

/-! ### The first stage -/

section Reaching

variable {r : OperationRequest}

theorem Acts.mutes {call : Call} {leases : Prop}
    (acts : Acts r Grants leases call) : Mutes r call := by
  rintro entry rfl
  cases acts with
  | append kind entry row allowed => exact neutral_grant row allowed

/-- A fallible part that journals at most a grant, and then the rest. -/
theorem mutes_then {α β : Type} {x : Fallible α} {f : α → Fallible β}
    {post : Except KernelError α → Prop}
    (head : x.run.Calls (Honest fun _ => True) (Acts r Grants True) post)
    (next : ∀ value, (f value).run.Calls (Honest fun _ => True) (Mutes r) fun _ => True) :
    (x >>= f).run.Calls (Honest fun _ => True) (Mutes r) fun _ => True := by
  apply Prog.Calls.bindExcept
  apply head.mono fun _ => Acts.mutes
  intro outcome _
  cases outcome with
  | error error => trivial
  | ok value => exact next value

/-- A part that cannot fail and journals at most a grant, and then the rest. -/
theorem mutes_lift {α β : Type} {p : Task α} {f : α → Fallible β}
    (head : p.Calls (Honest fun _ => True) (Acts r Grants True) fun _ => True)
    (next : ∀ value, (f value).run.Calls (Honest fun _ => True) (Mutes r) fun _ => True) :
    (lift p >>= f).run.Calls (Honest fun _ => True) (Mutes r) fun _ => True := by
  apply Prog.Calls.bindLift
  exact head.mono (fun _ => Acts.mutes) fun value _ => next value

theorem mutes_append {entryType : EntryType} {objectType phase key : String} {payload : Payload}
    (neutral : Neutral r (entryOf r entryType objectType phase payload key)) :
    (append r entryType objectType phase payload key).run.Calls (Honest fun _ => True)
      (Mutes r) fun _ => True := by
  have mutes : Mutes r (.append (entryOf r entryType objectType phase payload key)) := by
    intro entry same
    cases same
    exact neutral
  refine Prog.Calls.bindExcept (calls_mapError (calls_perform mutes fun answer _ => ?_))
  cases answer with
  | ok sequence => trivial
  | error error => trivial

/-- A neutral row, and then the rest. -/
theorem mutes_append_then {β : Type} {entryType : EntryType} {objectType phase key : String}
    {payload : Payload} {f : Unit → Fallible β}
    (neutral : Neutral r (entryOf r entryType objectType phase payload key))
    (next : (f ()).run.Calls (Honest fun _ => True) (Mutes r) fun _ => True) :
    (append r entryType objectType phase payload key >>= f).run.Calls (Honest fun _ => True)
      (Mutes r) fun _ => True := by
  apply Prog.Calls.bindExcept
  apply (mutes_append neutral).mono fun _ => id
  intro outcome _
  cases outcome with
  | error error => trivial
  | ok _ => exact next

theorem mutes_receiptFor (cancellation : Nat) :
    (receiptFor r cancellation).run.Calls (Honest fun _ => True) (Mutes r) fun _ => True := by
  apply mutes_then (calls_lookup _ (calls_readWorkload _) _)
  intro received
  cases received with
  | some receipt => trivial
  | none =>
      apply mutes_lift (calls_perform (.providerExecute cancellation) fun _ _ => trivial)
      intro _
      apply mutes_then (show (ExceptT.mk (Task.providerOutcome r)).run.Calls _ (Acts r Grants True)
        fun _ => True from calls_perform .providerOutcome fun _ _ => trivial)
      intro receipt
      exact mutes_append_then (neutral_receipt receipt) trivial

theorem mutes_executeCancellable (cancellation : Nat) :
    (executeCancellable r cancellation).run.Calls (Honest fun _ => True) (Mutes r)
      fun _ => True := by
  apply mutes_then (calls_lookup _ (calls_readWorkload _) _)
  intro committed
  cases committed with
  | some receipt => trivial
  | none =>
      apply mutes_append_then neutral_intent
      apply mutes_lift (calls_perform (.isCancelled cancellation) fun _ _ => trivial)
      intro stopped
      cases stopped with
      | true => trivial
      | false =>
          apply Prog.Calls.bindExcept
          apply (mutes_receiptFor cancellation).mono fun _ => id
          intro obtained _
          cases obtained with
          | error error => trivial
          | ok receipt => exact mutes_append_then (neutral_commit receipt) trivial

theorem mutes_executionUnder {recovered : Bool} (admittedStarted : Int)
    (placement : PlacementDecision) (trace : DecisionTrace) (fenced : FencedLease) :
    (executionUnder r recovered admittedStarted placement trace fenced).Calls
      (Honest fun _ => True) (Mutes r) fun _ => True := by
  have mutes : ∀ {call : Call}, Acts r Grants False call → Mutes r call := Acts.mutes
  refine Prog.Calls.bind (calls_perform (mutes .newCancellation) fun cancellation _ => ?_)
  refine Prog.Calls.bind (calls_perform (mutes (.activeInsert _ _ rfl)) fun _ _ => ?_)
  refine Prog.Calls.bind (calls_perform (mutes .now) fun started _ => ?_)
  refine Prog.Calls.bind (calls_perform (mutes .now) fun queued _ => ?_)
  refine Prog.Calls.bind ((mutes_executeCancellable cancellation).mono (fun _ => id)
    fun execution _ => ?_)
  exact Prog.Calls.bind (calls_perform (mutes .now) fun executed _ => trivial)

theorem mutes_reachExecution (recovered : Bool) :
    (reachExecution r recovered).run.Calls (Honest fun _ => True) (Mutes r) fun _ => True := by
  apply mutes_lift (calls_perform .now fun _ _ => trivial)
  intro admitted
  cases r.validateSensitiveReferences with
  | error reason => trivial
  | ok _ =>
      apply mutes_lift (calls_perform .kernelState fun _ _ => trivial)
      intro state
      split
      · trivial
      · apply mutes_then (calls_lookup _ (calls_readWorkload _) _)
        intro committed
        cases committed with
        | some receipt =>
            exact mutes_then (calls_lookup _ (calls_readFrom _) _)
              fun _ => trivial
        | none =>
            obtain ⟨placement, scheduled⟩ := schedule_row r admitted
            rw [scheduled, bind_assoc]
            apply mutes_append_then neutral_schedule
            rw [pure_bind]
            apply mutes_then (calls_grantLease r placement)
            intro fenced
            apply Prog.Calls.bindLift
            exact (mutes_executionUnder admitted placement (decisionTrace r) fenced).mono
              (fun _ => id) fun _ _ => trivial

end Reaching

/-! ### The second stage -/

section Settling

variable {r : OperationRequest} {w later : World} {choices rest : List Choice}

theorem mutes_recordFailure (bookkeeping : Option KernelError)
    (execution : Except KernelError OperationReceipt) :
    (recordFailure r bookkeeping execution).Calls (Honest fun _ => True) (Mutes r)
      fun _ => True := by
  cases execution with
  | ok receipt => trivial
  | error error =>
      refine Prog.Calls.bind ((mutes_append (neutral_abort error)).mono (fun _ => id)
        fun aborted _ => ?_)
      exact Prog.Calls.bind ((mutes_append (neutral_failure error)).mono (fun _ => id)
        fun observed _ => trivial)

theorem recordProfile_filed {profile : ExecutionProfile} {result : Except KernelError Unit}
    (ran : (recordProfile profile).run.run kernel w choices = (some (result, rest), later))
    (sure : result = .ok () ∨ ∀ choice ∈ choices, choice.storage = none) :
    ∃ recordedAtUs now, now.journal = w.journal ∧
      Filed now (profileEntry { profile with recordedAtUs })
        (profileKey profile.operationId profile.provider (executionOutcome profile.failureCode))
        later := by
  cases choices with
  | nil => cases ran
  | cons choice choices =>
      refine ⟨(kernelAnswer .now w choice).1, (kernelAnswer .now w choice).2, rfl, ?_⟩
      have others : result = .ok () ∨ ∀ other ∈ choices, other.storage = none :=
        sure.imp_right fun stored other member => stored other (.tail _ member)
      exact journaled_filed rfl ran others

/-- The profile is of the operation and names the end of its execution. -/
structure Reports (r : OperationRequest) (execution : Except KernelError OperationReceipt)
    (profile : ExecutionProfile) : Prop where
  operation : profile.operationId = r.operationId
  workload : profile.workloadId = r.workloadId
  provider : profile.provider = r.snapshot.providerRevision
  failure : profile.failureCode = failureCode execution

/-- The errors of the journal and of the leases, in an execution or after it. -/
def KernelError.isBookkeeping : KernelError → Bool
  | .journal _ => true
  | .resource _ => true
  | _ => false

/-- The result is that of the execution, and no failure of the journal or of a lease. -/
def Delivered (execution : Except KernelError OperationReceipt)
    (result : Except KernelError RuntimeExecution) : Prop :=
  failureOf result = failureOf execution ∧
    ∀ error, failureOf result = some error → error.isBookkeeping = false

theorem overrideError_none {α : Type} {bookkeeping : Option KernelError}
    {result : Except KernelError α} :
    overrideError bookkeeping result = none ↔ bookkeeping = none ∧ ∃ value, result = .ok value := by
  cases result <;> simp [overrideError]

theorem getOrInsert_none {α : Type} {bookkeeping : Option KernelError}
    {result : Except KernelError α} :
    getOrInsert bookkeeping result = none ↔ bookkeeping = none ∧ ∃ value, result = .ok value := by
  cases result <;> simp [getOrInsert]

/-- Only errors of the bookkeeping are noted. -/
def Internal (bookkeeping : Option KernelError) : Prop :=
  ∀ error, bookkeeping = some error → error.isBookkeeping = true

theorem Internal.overrideError {α : Type} {bookkeeping : Option KernelError}
    {result : Except KernelError α} (internal : Internal bookkeeping)
    (raised : Internal (failureOf result)) : Internal (overrideError bookkeeping result) := by
  cases result with
  | ok value => exact internal
  | error error => exact raised

theorem Internal.getOrInsert {α : Type} {bookkeeping : Option KernelError}
    {result : Except KernelError α} (internal : Internal bookkeeping)
    (raised : Internal (failureOf result)) : Internal (getOrInsert bookkeeping result) := by
  cases result with
  | ok value => exact internal
  | error error =>
      cases bookkeeping with
      | none => exact raised
      | some first => exact internal

theorem journaled_internal {entry : Entry} {result : Except KernelError Unit}
    (ran : (do let _ ← journalError (Task.append entry); return () : Fallible Unit).run.run kernel w
      choices = (some (result, rest), later)) : Internal (failureOf result) := by
  cases choices with
  | nil => cases ran
  | cons choice choices =>
      rw [journaled_run, Prod.mk.injEq] at ran
      obtain ⟨taken, -⟩ := ran
      intro error failed
      cases answer : (kernelAnswer (.append entry) w choice).1 with
      | ok sequence =>
          rw [answer] at taken
          cases taken
          cases failed
      | error reason =>
          rw [answer] at taken
          cases taken
          cases failed
          rfl

theorem recordProfile_internal {profile : ExecutionProfile} {result : Except KernelError Unit}
    (ran : (recordProfile profile).run.run kernel w choices = (some (result, rest), later)) :
    Internal (failureOf result) := by
  cases choices with
  | nil => cases ran
  | cons choice choices => exact journaled_internal ran

theorem released_run {leaseId : String} (choice : Choice) :
    (resourceError (Task.release leaseId)).run.run kernel w (choice :: choices) =
      (some (match (kernelAnswer (.release leaseId) w choice).1 with
        | .ok value => .ok value
        | .error error => .error (.resource error.display), choices),
        (kernelAnswer (.release leaseId) w choice).2) := by
  unfold resourceError mapError
  rw [ExceptT.run_mk, Prog.run_bind]
  have took : (Task.release leaseId).run kernel w (choice :: choices) =
      (some ((kernelAnswer (.release leaseId) w choice).1, choices),
        (kernelAnswer (.release leaseId) w choice).2) := rfl
  rw [took]
  cases (kernelAnswer (.release leaseId) w choice).1 with
  | ok value => rfl
  | error error => rfl

theorem released_internal {leaseId : String} {result : Except KernelError Unit}
    (ran : (resourceError (Task.release leaseId)).run.run kernel w choices =
      (some (result, rest), later)) : Internal (failureOf result) := by
  cases choices with
  | nil => cases ran
  | cons choice choices =>
      rw [released_run, Prod.mk.injEq] at ran
      obtain ⟨taken, -⟩ := ran
      intro error failed
      cases answer : (kernelAnswer (.release leaseId) w choice).1 with
      | ok value =>
          rw [answer] at taken
          cases taken
          cases failed
      | error reason =>
          rw [answer] at taken
          cases taken
          cases failed
          rfl

theorem recordFailure_internal {bookkeeping noted : Option KernelError}
    {execution : Except KernelError OperationReceipt}
    (ran : (recordFailure r bookkeeping execution).run kernel w choices =
      (some (noted, rest), later)) :
    (Internal bookkeeping → Internal noted) ∧ (noted = none → bookkeeping = none) := by
  cases execution with
  | ok receipt =>
      cases ran
      exact ⟨id, id⟩
  | error error =>
      unfold recordFailure at ran
      obtain ⟨aborted, c₁, w₁, first, ran⟩ := Prog.run_bind_some kernel ran
      obtain ⟨observed, c₂, w₂, second, ran⟩ := Prog.run_bind_some kernel ran
      cases ran
      constructor
      · intro internal
        exact (internal.overrideError (journaled_internal first)).overrideError
          (journaled_internal second)
      · intro clean
        exact (overrideError_none.mp (overrideError_none.mp clean).1).1

/-- The rows of an attempt's end: its profile, its neutral rows, its final phase. Either
the storage could not fail, or the result is not one of the bookkeeping, and then every
row was acknowledged. -/
theorem settle_ran {ended : Ended} {result : Except KernelError RuntimeExecution}
    (profiled : Profiled r ended)
    (ran : (ended.settle r).run kernel w choices = (some (result, rest), later))
    (sure : (∀ choice ∈ choices, choice.storage = none) ∨ Delivered ended.execution result) :
    ∃ profile now noted closing closed,
      Reports r ended.execution profile ∧ now.journal = w.journal ∧
      Filed now (profileEntry profile)
        (profileKey r.operationId r.snapshot.providerRevision
          (executionOutcome (failureCode ended.execution))) noted ∧
      Muted r noted.journal.entries closing.journal.entries ∧
      Filed closing (entryOf r (finalPhase ended.execution).1 "Workload"
        (finalPhase ended.execution).2 (.workload r.workloadId (finalPhase ended.execution).2)
        (workloadKey r.operationId (finalPhase ended.execution).2))
        (workloadKey r.operationId (finalPhase ended.execution).2) closed ∧
      Muted r closed.journal.entries later.journal.entries := by
  unfold Ended.settle settle at ran
  obtain ⟨recorded, c₁, w₁, first, ran⟩ := Prog.run_bind_some kernel ran
  obtain ⟨_, c₂, w₂, removed, ran⟩ := Prog.run_bind_some kernel ran
  obtain ⟨failed, c₃, w₃, failure, ran⟩ := Prog.run_bind_some kernel ran
  obtain ⟨bookkeeping, c₄, w₄, closes, ran⟩ := Prog.run_bind_some kernel ran
  have returned : w₄ = later ∧
      ∀ error, bookkeeping = some error → failureOf result = some error := by
    cases bookkeeping with
    | some error =>
        cases ran
        exact ⟨rfl, fun other same => same⟩
    | none =>
        cases ran
        exact ⟨rfl, fun other same => by cases same⟩
  obtain ⟨rfl, returned⟩ := returned
  unfold closeLease at closes
  obtain ⟨closing, c₅, w₅, final, closes⟩ := Prog.run_bind_some kernel closes
  obtain ⟨released, c₆, w₆, release, closes⟩ := Prog.run_bind_some kernel closes
  obtain ⟨journaled, c₇, w₇, last, closes⟩ := Prog.run_bind_some kernel closes
  cases closes
  obtain ⟨noted, settled⟩ := recordFailure_internal failure
  have acknowledged : Delivered ended.execution result →
      recorded = .ok () ∧ closing = .ok () := by
    intro delivered
    have clean : getOrInsert (getOrInsert (getOrInsert failed closing) released) journaled =
        none := by
      apply Option.eq_none_iff_forall_not_mem.mpr
      intro error member
      have outward := delivered.2 error (returned error member)
      have none : Internal none := fun other absurd => by cases absurd
      have inward : Internal (getOrInsert (getOrInsert (getOrInsert failed closing) released)
          journaled) :=
        (((noted (none.overrideError (recordProfile_internal first))).getOrInsert
          (journaled_internal final)).getOrInsert (released_internal release)).getOrInsert
            (journaled_internal last)
      rw [inward error member] at outward
      cases outward
    obtain ⟨clean₁, -⟩ := getOrInsert_none.mp clean
    obtain ⟨clean₂, -⟩ := getOrInsert_none.mp clean₁
    obtain ⟨clean₃, ⟨⟩, closed⟩ := getOrInsert_none.mp clean₂
    obtain ⟨-, ⟨⟩, profiled⟩ := overrideError_none.mp (settled clean₃)
    exact ⟨profiled, closed⟩
  have profileSure : recorded = .ok () ∨ ∀ choice ∈ choices, choice.storage = none :=
    sure.symm.imp_left fun delivered => (acknowledged delivered).1
  have closingSure : closing = .ok () ∨ ∀ choice ∈ c₃, choice.storage = none := by
    apply sure.symm.imp (fun delivered => (acknowledged delivered).2)
    intro stored choice member
    exact stored choice ((Prog.run_suffix kernel first).mem ((Prog.run_suffix kernel removed).mem
      ((Prog.run_suffix kernel failure).mem member)))
  obtain ⟨recordedAtUs, now, same, filed⟩ := recordProfile_filed first profileSure
  have keys : profileKey ended.profile.operationId ended.profile.provider
      (executionOutcome ended.profile.failureCode) = profileKey r.operationId
        r.snapshot.providerRevision (executionOutcome (failureCode ended.execution)) := by
    rw [profiled.operation, profiled.provider, profiled.failure]
  have removes : w₂.journal = w₁.journal := Calls.still (r := r)
    (calls_perform (.activeRemove _) fun _ _ => trivial) removed
  have releasing : (resourceError (Task.release ended.leaseId)).run.Calls (Honest fun _ => True)
      (Acts r (fun _ => False) True) fun _ => True := by
    refine calls_mapError (calls_perform (.release trivial _) fun answer _ => ?_)
    cases answer <;> trivial
  have releases : w₆.journal = w₅.journal := Calls.still releasing release
  refine ⟨{ ended.profile with recordedAtUs }, now, w₁, w₃, w₅, ⟨profiled.operation, profiled.workload,
    profiled.provider, profiled.failure⟩, same, keys ▸ filed, ?_, ?_, ?_⟩
  · rw [← removes]
    exact Calls.muted (mutes_recordFailure _ _) failure
  · exact journaled_filed rfl final closingSure
  · rw [← releases]
    exact Calls.muted (mutes_append (neutral_released _)) last

end Settling

/-! ### The rows that are read -/

section Views

variable {r : OperationRequest} {entries last : List Entry} {entry : Entry}

theorem workloadPhase_snoc (operationId : String) (entries : List Entry) (entry : Entry) :
    workloadPhase operationId (entries ++ [entry]) =
      if entry.objectType = "Workload" ∧ entry.objectId = operationId ∧
          entry.newPhase ∈ finalPhases then some entry.newPhase
      else workloadPhase operationId entries := by
  unfold workloadPhase
  rw [List.reverse_append, List.reverse_singleton, List.singleton_append, List.find?_cons]
  by_cases matched : entry.objectType = "Workload" ∧ entry.objectId = operationId ∧
      entry.newPhase ∈ finalPhases
  · rw [if_pos matched]
    simp [matched.1, matched.2.1, matched.2.2]
  · rw [if_neg matched]
    have other : (entry.objectType == "Workload" && entry.objectId == operationId &&
        finalPhases.contains entry.newPhase) = false := by
      simpa [and_assoc] using matched
    rw [other]

/-- The profile of a row. -/
def profileOf (entry : Entry) : Option ExecutionProfile :=
  if entry.objectType = "ExecutionProfile" then entry.payload.profile? else none

def newestProfile (workloadId : String) (entries : List Entry) : Option ExecutionProfile :=
  (entries.filterMap profileOf).reverse.find? fun profile => profile.workloadId = workloadId

theorem newestProfile_snoc (workloadId : String) (entries : List Entry) (entry : Entry) :
    newestProfile workloadId (entries ++ [entry]) =
      match profileOf entry with
      | some profile =>
          if profile.workloadId = workloadId then some profile
          else newestProfile workloadId entries
      | none => newestProfile workloadId entries := by
  unfold newestProfile
  rw [List.filterMap_append]
  cases found : profileOf entry with
  | none => simp [found]
  | some profile =>
      simp only [List.filterMap_cons, found, List.filterMap_nil, List.reverse_append,
        List.reverse_singleton, List.singleton_append, List.find?_cons]
      by_cases same : profile.workloadId = workloadId
      · simp [same]
      · simp [same]

theorem Recorded.profiled {Input : OperationRequest → Prop} (recorded : Recorded Input entry)
    (kind : entry.objectType = "ExecutionProfile") :
    ∃ profile, entry.payload = .profile profile ∧ profile.workloadId = entry.workloadId := by
  obtain ⟨written, sequence, now, shape, rfl⟩ := recorded
  cases shape with
  | profile r profile known operation workload provider => exact ⟨profile, rfl, rfl⟩
  | _ => simp [Journal.stamp, entryOf] at kind

theorem listProfiles_eq (formed : ∀ entry ∈ entries, entry.objectType = "ExecutionProfile" →
      ∃ profile, entry.payload = .profile profile) :
    listProfiles entries = .ok (entries.filterMap profileOf) := by
  unfold listProfiles
  induction entries with
  | nil => rfl
  | cons entry rest ih =>
      have tail := ih fun other member => formed other (.tail _ member)
      by_cases kind : entry.objectType = "ExecutionProfile"
      · obtain ⟨profile, carried⟩ := formed entry (.head _) kind
        have own : profileOf entry = some profile := by
          simp [profileOf, kind, carried, Payload.profile?]
        rw [List.filter_cons, if_pos (by simpa using kind), List.mapM_cons, tail,
          List.filterMap_cons, own, carried]
        rfl
      · have none : profileOf entry = none := by simp [profileOf, kind]
        rw [List.filter_cons, if_neg (by simpa using kind), tail, List.filterMap_cons, none]

/-- In a journal of the runtime's rows the list of profiles is read without an error. -/
theorem getWorkload_eq {w : World} (own : Own w) (workloadId : String) :
    getWorkload workloadId w.journal.entries =
      .ok (newestProfile workloadId w.journal.entries) := by
  have formed : ∀ entry ∈ w.journal.entries, entry.objectType = "ExecutionProfile" →
      ∃ profile, entry.payload = .profile profile := by
    intro entry member kind
    obtain ⟨profile, carried, -⟩ := (own entry member).profiled kind
    exact ⟨profile, carried⟩
  rw [getWorkload, listProfiles_eq formed]
  rfl

/-- A row that is neither a final phase of the operation nor a profile of the workload. -/
structure Quiet (r : OperationRequest) (entry : Entry) : Prop where
  workload : entry.objectType = "Workload" → entry.objectId ≠ r.operationId
  profile : ∀ profile, profileOf entry = some profile → profile.workloadId ≠ r.workloadId

theorem Neutral.quiet (neutral : Neutral r entry) : Quiet r entry := by
  refine ⟨fun kind => absurd kind neutral.workload, fun profile found => ?_⟩
  rw [profileOf, if_neg neutral.profile] at found
  cases found

/-- Rows of other objects leave the phase. -/
theorem workloadPhase_kept {operationId : String} (entries : List Entry) {more : List Entry}
    (other : ∀ entry ∈ more, entry.objectType = "Workload" → entry.objectId ≠ operationId) :
    workloadPhase operationId (entries ++ more) = workloadPhase operationId entries := by
  induction more using List.reverseRecOn with
  | nil => simp
  | append_singleton more entry ih =>
      have phases := ih fun other' member => other other' (List.mem_append_left _ member)
      have last := other entry (by simp)
      rw [← List.append_assoc, workloadPhase_snoc,
        if_neg fun matched => last matched.1 matched.2.1, phases]

/-- Quiet rows change nothing of what is read. -/
theorem quiet_views (entries : List Entry) {more : List Entry}
    (quiet : ∀ entry ∈ more, Quiet r entry) :
    workloadPhase r.operationId (entries ++ more) = workloadPhase r.operationId entries ∧
      newestProfile r.workloadId (entries ++ more) = newestProfile r.workloadId entries := by
  constructor
  · exact workloadPhase_kept entries fun entry member => (quiet entry member).workload
  · induction more using List.reverseRecOn with
    | nil => simp
    | append_singleton more entry ih =>
        have profiles := ih fun other member => quiet other (List.mem_append_left _ member)
        have last : Quiet r entry := quiet entry (by simp)
        rw [← List.append_assoc, newestProfile_snoc]
        cases found : profileOf entry with
        | none => exact profiles
        | some profile =>
            dsimp only
            rw [if_neg (last.profile profile found), profiles]

theorem Muted.views (muted : Muted r entries last) :
    workloadPhase r.operationId last = workloadPhase r.operationId entries ∧
      newestProfile r.workloadId last = newestProfile r.workloadId entries := by
  obtain ⟨more, rfl, neutral⟩ := muted
  exact quiet_views entries fun entry member => (neutral entry member).quiet

theorem Muted.keys (muted : Muted r entries last) {key : String}
    (closing : (∃ phase, key = workloadKey r.operationId phase) ∨
      ∃ provider outcome, key = profileKey r.operationId provider outcome) :
    key ∈ keysOf last ↔ key ∈ keysOf entries := by
  obtain ⟨more, rfl, neutral⟩ := muted
  rw [keysOf_append, List.mem_append, or_iff_left]
  intro used
  obtain ⟨entry, member, keyed⟩ := List.mem_filterMap.mp used
  obtain ⟨own, ownKeyed, phases, profiles⟩ := (neutral entry member).keyed
  rw [ownKeyed, Option.some.injEq] at keyed
  subst keyed
  rcases closing with ⟨phase, same⟩ | ⟨provider, outcome, same⟩
  · exact phases phase same
  · exact profiles provider outcome same

theorem Filed.rows {w later : World} {key : String} (filed : Filed w entry key later) :
    ∃ sequence now, later.journal.entries =
      if key ∈ keysOf w.journal.entries then w.journal.entries
      else w.journal.entries ++ [Journal.stamp sequence now entry] := by
  rcases filed with ⟨used, same⟩ | ⟨free, sequence, now, longer⟩
  · have taken : key ∈ keysOf w.journal.entries := used
    exact ⟨0, 0, by rw [if_pos taken, same]⟩
  · have unused : key ∉ keysOf w.journal.entries := free
    exact ⟨sequence, now, by rw [if_neg unused, longer]⟩

/-- The other keys of the journal stay as they are. -/
theorem Filed.other_key {w later : World} {key other : String}
    (keyed : entry.idempotencyKey = some key) (differ : other ≠ key)
    (filed : Filed w entry key later) :
    other ∈ keysOf later.journal.entries ↔ other ∈ keysOf w.journal.entries := by
  obtain ⟨sequence, now, rows⟩ := filed.rows
  rw [rows]
  split
  · rfl
  · rw [keysOf_snoc _ (Journal.stamp sequence now entry) key keyed, List.mem_append,
      List.mem_singleton, or_iff_left differ]

theorem finalPhase_mem (execution : Except KernelError OperationReceipt) :
    (finalPhase execution).2 ∈ finalPhases := by
  unfold finalPhase
  split <;> simp [finalPhases]

theorem Filed.workloadPhase {w later : World} (final : EntryType × String)
    (listed : final.2 ∈ finalPhases)
    (filed : Filed w (entryOf r final.1 "Workload" final.2 (.workload r.workloadId final.2)
      (workloadKey r.operationId final.2)) (workloadKey r.operationId final.2) later) :
    (NousKernel.workloadPhase r.operationId later.journal.entries =
      if workloadKey r.operationId final.2 ∈ keysOf w.journal.entries then
        NousKernel.workloadPhase r.operationId w.journal.entries
      else some final.2) ∧
      newestProfile r.workloadId later.journal.entries =
        newestProfile r.workloadId w.journal.entries := by
  obtain ⟨sequence, now, rows⟩ := filed.rows
  rw [rows]
  split
  · exact ⟨rfl, rfl⟩
  · rw [workloadPhase_snoc, newestProfile_snoc]
    exact ⟨if_pos ⟨rfl, rfl, listed⟩, rfl⟩

theorem Filed.newestProfile {w later : World} {profile : ExecutionProfile} {key : String}
    (own : profile.workloadId = r.workloadId) (filed : Filed w (profileEntry profile) key later) :
    (NousKernel.newestProfile r.workloadId later.journal.entries =
      if key ∈ keysOf w.journal.entries then
        NousKernel.newestProfile r.workloadId w.journal.entries
      else some profile) ∧
      NousKernel.workloadPhase r.operationId later.journal.entries =
        NousKernel.workloadPhase r.operationId w.journal.entries := by
  obtain ⟨sequence, now, rows⟩ := filed.rows
  rw [rows]
  split
  · exact ⟨rfl, rfl⟩
  · rw [workloadPhase_snoc, newestProfile_snoc]
    refine ⟨if_pos own, if_neg fun matched => ?_⟩
    have kind : "ExecutionProfile" = "Workload" := matched.1
    exact absurd kind (by decide)

end Views

/-! ### The last attempt -/

section Finished

variable {r : OperationRequest} {recovered : Bool} {w later last : World} {ended : Ended}

/-- An attempt of `r` from `w` reached the executor, whose execution ended, and came to its
own end with a storage that took the closing rows. -/
def Finishes (r : OperationRequest) (recovered : Bool) (w : World) (ended : Ended)
    (later : World) : Prop :=
  ∃ first choices mid rest result last,
    (reachExecution r recovered).run.run kernel (kernelAnswer (.attempt r) w first).2 choices =
      (some (.ok (.inr ended), rest), mid) ∧
    (∀ choice ∈ rest, choice.storage = none) ∧
    (attempt r recovered).run.run kernel w (first :: choices) = (some (result, last), later)

/-- The last final phase and the newest profile name how an execution ended. -/
def Names (r : OperationRequest) (execution : Except KernelError OperationReceipt)
    (entries : List Entry) : Prop :=
  workloadPhase r.operationId entries = some (finalPhase execution).2 ∧
    ∃ profile, getWorkload r.workloadId entries = .ok (some profile) ∧
      profile.operationId = r.operationId ∧ profile.failureCode = failureCode execution

/-- The storage can still take the outcome of an execution, or the journal ends with it:
the key of its final phase is free or the last final phase is the same, and likewise
its profile. -/
def Nameable (r : OperationRequest) (execution : Except KernelError OperationReceipt)
    (entries : List Entry) : Prop :=
  (workloadKey r.operationId (finalPhase execution).2 ∉ keysOf entries ∨
    workloadPhase r.operationId entries = some (finalPhase execution).2) ∧
  (profileKey r.operationId r.snapshot.providerRevision
      (executionOutcome (failureCode execution)) ∉ keysOf entries ∨
    ∃ profile, getWorkload r.workloadId entries = .ok (some profile) ∧
      profile.operationId = r.operationId ∧ profile.failureCode = failureCode execution)

/-- What an attempt whose closing rows were taken leaves to be read. -/
theorem attempt_views {first : Choice} {choices rest spare : List Choice} {mid : World}
    {result : Except KernelError RuntimeExecution}
    (reached : (reachExecution r recovered).run.run kernel
      (kernelAnswer (.attempt r) w first).2 choices = (some (.ok (.inr ended), rest), mid))
    (ran : (attempt r recovered).run.run kernel w (first :: choices) =
      (some (result, spare), later))
    (sure : (∀ choice ∈ rest, choice.storage = none) ∨ Delivered ended.execution result) :
    (workloadPhase r.operationId later.journal.entries =
      if workloadKey r.operationId (finalPhase ended.execution).2 ∈ keysOf w.journal.entries then
        workloadPhase r.operationId w.journal.entries
      else some (finalPhase ended.execution).2) ∧
    ∃ profile, Reports r ended.execution profile ∧
      newestProfile r.workloadId later.journal.entries =
        if profileKey r.operationId r.snapshot.providerRevision
            (executionOutcome (failureCode ended.execution)) ∈ keysOf w.journal.entries then
          newestProfile r.workloadId w.journal.entries
        else some profile := by
  obtain ⟨first', others, next, ending, same, executed, journal⟩ := attempt_ran ran
  cases same
  rw [executeInternal_stages, Prog.run_bindExcept, reached] at executed
  obtain ⟨-, -, profiled, -⟩ := reach_ran reached
  obtain ⟨profile, now, noted, closing, closed, reports, same, filed, between, final, after⟩ :=
    settle_ran profiled executed sure
  have opening : Muted r (kernelAnswer (.attempt r) w first).2.journal.entries
      mid.journal.entries := Calls.muted (mutes_reachExecution recovered) reached
  have before : Muted r w.journal.entries now.journal.entries := by
    rw [same]
    exact opening
  obtain ⟨phases, profiles⟩ := before.views
  obtain ⟨profiles₁, phases₁⟩ := filed.newestProfile reports.workload
  obtain ⟨phases₂, profiles₂⟩ := between.views
  obtain ⟨phases₃, profiles₃⟩ := final.workloadPhase _ (finalPhase_mem ended.execution)
  obtain ⟨phases₄, profiles₄⟩ := after.views
  have keyed : (profileEntry profile).idempotencyKey = some (profileKey r.operationId
      r.snapshot.providerRevision (executionOutcome (failureCode ended.execution))) := by
    rw [← reports.operation, ← reports.provider, ← reports.failure]
    rfl
  have phaseKey : workloadKey r.operationId (finalPhase ended.execution).2 ∈
      keysOf closing.journal.entries ↔ workloadKey r.operationId (finalPhase ended.execution).2 ∈
        keysOf w.journal.entries := by
    rw [between.keys (.inl ⟨_, rfl⟩), filed.other_key keyed (by
      simp [workloadKey, profileKey, operationKey_eq_iff]), before.keys (.inl ⟨_, rfl⟩)]
  have ownKey : profileKey r.operationId r.snapshot.providerRevision
      (executionOutcome (failureCode ended.execution)) ∈ keysOf now.journal.entries ↔
        profileKey r.operationId r.snapshot.providerRevision
          (executionOutcome (failureCode ended.execution)) ∈ keysOf w.journal.entries :=
    before.keys (.inr ⟨_, _, rfl⟩)
  rw [journal]
  constructor
  · rw [phases₄, phases₃, phases₂, phases₁, phases]
    simp only [phaseKey]
  · refine ⟨profile, reports, ?_⟩
    rw [profiles₄, profiles₃, profiles₂, profiles₁, profiles]
    simp only [ownKey]

/-- After an attempt that reached the executor, and until another one of the operation
journals its end, the last final phase and the profile that `GET_WORKLOAD` answers
with name the outcome of the attempt exactly if its keys were free, or the rows that
were last before it named the same outcome. -/
theorem last_outcome_named_iff (uuids : UuidSource) (clock : Int)
    (served : Relation.ReflTransGen Serves (.boot uuids clock) w)
    (finishes : Finishes r recovered w ended later)
    (after : Relation.ReflTransGen Serves later last) {more : List Entry}
    (rows : last.journal.entries = later.journal.entries ++ more)
    (quiet : ∀ entry ∈ more, Quiet r entry) :
    Names r ended.execution last.journal.entries ↔
      Nameable r ended.execution w.journal.entries := by
  have own : Own w := (own_boot uuids clock).served served
  obtain ⟨first, choices, mid, rest, result, spare, reached, stored, ran⟩ := finishes
  have ownLast : Own last := (own.attempt ran).served after
  obtain ⟨phase, profile, reports, newest⟩ := attempt_views reached ran (.inl stored)
  obtain ⟨phases, profiles⟩ := quiet_views (r := r) later.journal.entries quiet
  rw [← rows] at phases profiles
  unfold Names Nameable
  rw [phases, phase, getWorkload_eq ownLast, getWorkload_eq own, profiles, newest]
  apply and_congr
  · split
    · rename_i used
      exact ⟨.inr, fun named => named.resolve_left (absurd used)⟩
    · rename_i free
      exact ⟨fun _ => .inl free, fun _ => rfl⟩
  · split
    · rename_i used
      exact ⟨.inr, fun named => named.resolve_left (absurd used)⟩
    · rename_i free
      exact ⟨fun _ => .inl free, fun _ => ⟨profile, rfl, reports.operation, reports.failure⟩⟩

end Finished

/-- The choices of an attempt whose provider ends so. -/
def endingWith (outcome : Except KernelError OperationReceipt) : Choice := { outcome }

/-- The first stage of such an attempt. -/
def reachedWith (w : World) (outcome : Except KernelError OperationReceipt) :
    Option (Except KernelError (RuntimeExecution ⊕ Ended) × List Choice) × World :=
  (reachExecution (requestBy "backend-1") false).run.run kernel
    (kernelAnswer (.attempt (requestBy "backend-1")) w (endingWith outcome)).2
    (List.replicate 39 (endingWith outcome))

def attemptedWith (w : World) (outcome : Except KernelError OperationReceipt) :
    Option (Except KernelError RuntimeExecution × List Choice) × World :=
  (attempt (requestBy "backend-1") false).run.run kernel w
    (endingWith outcome :: List.replicate 39 (endingWith outcome))

/-- How its execution ended. -/
def endOf : Option (Except KernelError (RuntimeExecution ⊕ Ended) × List Choice) →
    Option (Except KernelError OperationReceipt)
  | some (.ok (.inr ended), _) => some ended.execution
  | _ => none

theorem finishes_with (w : World) (outcome : Except KernelError OperationReceipt)
    (reached : endOf (reachedWith w outcome).1 = some outcome)
    (returned : (attemptedWith w outcome).1.isSome = true) :
    ∃ ended, Finishes (requestBy "backend-1") false w ended (attemptedWith w outcome).2 ∧
      ended.execution = outcome := by
  generalize ending : reachedWith w outcome = run at reached
  obtain ⟨_ | ⟨error | replay | ended, rest⟩, mid⟩ := run
  · cases reached
  · cases reached
  · cases reached
  · obtain ⟨⟨result, last⟩, same⟩ := Option.isSome_iff_exists.mp returned
    have stored : ∀ choice ∈ rest, choice.storage = none := by
      intro choice member
      have given := (Prog.run_suffix kernel ending).mem member
      rw [List.eq_of_mem_replicate given]
      rfl
    refine ⟨ended, ⟨endingWith outcome, _, mid, rest, result, last, ending, stored, ?_⟩,
      Option.some.inj reached⟩
    rw [← same]
    rfl

/-- A second attempt that fails like the first: its rows are absorbed, and name its outcome. -/
theorem last_outcome_named_again :
    ∃ ended later, Finishes (requestBy "backend-1") false (failedBy "backend-1") ended later ∧
      Names (requestBy "backend-1") ended.execution later.journal.entries := by
  obtain ⟨ended, finishes, same⟩ := finishes_with (failedBy "backend-1")
    (.error (.provider "provider unavailable")) (by decide +kernel) (by decide +kernel)
  have phase : workloadPhase "operation-1" (failedBy "backend-1").journal.entries =
      some "FAILED" := by decide +kernel
  have newest : ((getWorkload "workload-1" (failedBy "backend-1").journal.entries).toOption.map
      fun found => found.map fun profile => (profile.operationId, profile.failureCode)) =
        some (some ("operation-1", some "PROVIDER_ERROR")) := by decide +kernel
  have profiled : ∃ profile, getWorkload "workload-1" (failedBy "backend-1").journal.entries =
      .ok (some profile) ∧ profile.operationId = "operation-1" ∧
        profile.failureCode = some "PROVIDER_ERROR" := by
    revert newest
    cases getWorkload "workload-1" (failedBy "backend-1").journal.entries with
    | error error => exact nofun
    | ok found =>
        cases found with
        | none => exact nofun
        | some profile =>
            intro newest
            have both := Option.some.inj (Option.some.inj newest)
            exact ⟨profile, rfl, congrArg Prod.fst both, congrArg Prod.snd both⟩
  have nameable : Nameable (requestBy "backend-1") ended.execution
      (failedBy "backend-1").journal.entries := by
    rw [same]
    exact ⟨.inr phase, .inr profiled⟩
  exact ⟨ended, _, finishes, (last_outcome_named_iff sampleUuids 0 (booted_serves _ _ _) finishes
    .refl (List.append_nil _).symm (by simp)).mpr nameable⟩

/-- A failure, and then a cancellation: the profile of the failure stays the newest. -/
theorem last_outcome_stale :
    ¬ ∀ (uuids : UuidSource) (clock : Int) (w : World),
      Relation.ReflTransGen Serves (.boot uuids clock) w →
      ∀ (r : OperationRequest) (recovered : Bool) (ended : Ended) (later : World),
        Finishes r recovered w ended later → Names r ended.execution later.journal.entries := by
  intro named
  obtain ⟨ended, finishes, same⟩ := finishes_with (failedBy "backend-1")
    (.error (.cancelled "operation-1")) (by decide +kernel) (by decide +kernel)
  obtain ⟨-, profile, found, -, code⟩ :=
    named sampleUuids 0 _ (booted_serves _ _ _) _ _ ended _ finishes
  have stale : ((getWorkload "workload-1" (attemptedWith (failedBy "backend-1")
      (.error (.cancelled "operation-1"))).2.journal.entries).toOption.map fun found =>
        found.map (·.failureCode)) = some (some (some "PROVIDER_ERROR")) := by decide +kernel
  have read : getWorkload "workload-1" (attemptedWith (failedBy "backend-1")
    (.error (.cancelled "operation-1"))).2.journal.entries = .ok (some profile) := found
  rw [read] at stale
  have stored : some (some profile.failureCode) = some (some (some "PROVIDER_ERROR")) := stale
  rw [code, same] at stored
  exact absurd stored (by decide)

end NousKernel
