import NousKernel.Footprint
import NousKernel.Session

/-!
An attempt in two stages: up to the end of the execution, and the bookkeeping that
follows it. A replay has no second stage.
-/

set_option autoImplicit false

namespace NousKernel

open Resumption

/-- What the first stage leaves to the bookkeeping. -/
structure Ended where
  leaseId : String
  trace : DecisionTrace
  profile : ExecutionProfile
  execution : Except KernelError OperationReceipt

/-- The execution under a lease. -/
def executionUnder (request : OperationRequest) (recovered : Bool) (admittedStarted : Int)
    (placement : PlacementDecision) (trace : DecisionTrace) (fenced : FencedLease) :
    Task Ended := do
  let cancellation ← Task.newCancellation
  Task.activeInsert request.workloadId ⟨request.operationId, request, cancellation⟩
  let executionStarted ← Task.now
  let queued ← Task.now
  let execution ← (executeCancellable request cancellation).run
  let executed ← Task.now
  return {
    leaseId := fenced.lease.leaseId
    trace
    profile :=
      { operationId := request.operationId
        workloadId := request.workloadId
        taskClass := (workloadFor request).schedulingClass.lowercase
        model := request.model
        provider := request.snapshot.providerRevision
        executionDomain := request.executionDomain.lowercase
        device := placement.deviceId
        latencyMs := elapsedMs executionStarted executed
        queueLatencyMs := elapsedMs admittedStarted queued
        recoveryLatencyMs := if recovered then some (elapsedMs admittedStarted queued) else none
        failureCode := failureCode execution
        recovered := recovered
        recordedAtUs := 0 }
    execution }

/-- The first stage: a replay, or an execution that has ended. -/
def reachExecution (request : OperationRequest) (recovered : Bool) :
    Fallible (RuntimeExecution ⊕ Ended) := do
  let admittedStarted ← lift Task.now
  match request.validateSensitiveReferences with
  | .error reason => throw (.admission reason)
  | .ok () => do
      if (← lift Task.kernelState) = .shuttingDown then
        throw .shuttingDown
      else
        match ← committedReceipt request with
        | some receipt => do
            let trace ← latestDecisionTrace request.operationId
            return .inl ⟨request.workloadId, receipt, trace.getD replayTrace⟩
        | none => do
            let (placement, trace) ← schedule request admittedStarted
            let fenced ← grantLease request placement
            let ended ← lift (executionUnder request recovered admittedStarted placement trace fenced)
            return .inr ended

/-- The second stage. -/
def Ended.settle (request : OperationRequest) (ended : Ended) :
    Task (Except KernelError RuntimeExecution) :=
  NousKernel.settle request ended.leaseId ended.trace ended.profile ended.execution

def afterReaching (request : OperationRequest) :
    RuntimeExecution ⊕ Ended → Fallible RuntimeExecution
  | .inl replay => return replay
  | .inr ended => ExceptT.mk (ended.settle request)

theorem executeLeased_stages (request : OperationRequest) (recovered : Bool) (admittedStarted : Int)
    (placement : PlacementDecision) (trace : DecisionTrace) (fenced : FencedLease) :
    executeLeased request recovered admittedStarted placement trace fenced =
      (do
        let ended ← lift (executionUnder request recovered admittedStarted placement trace fenced)
        afterReaching request (.inr ended)) := by
  apply ExceptT.ext
  rw [lift, ExceptT.run_bind_lift]
  unfold executeLeased executionUnder
  simp only [ExceptT.run_mk, bind_assoc, pure_bind]
  rfl

theorem executeInternal_stages (request : OperationRequest) (recovered : Bool) :
    executeInternal request recovered =
      reachExecution request recovered >>= afterReaching request := by
  unfold executeInternal reachExecution
  simp only [bind_assoc]
  congr 1
  funext admitted
  cases request.validateSensitiveReferences with
  | error reason => rfl
  | ok _ =>
      simp only [bind_assoc]
      congr 1
      funext state
      by_cases stopping : state = .shuttingDown
      · rw [if_pos stopping, if_pos stopping]
        rfl
      · rw [if_neg stopping, if_neg stopping]
        simp only [bind_assoc]
        congr 1
        funext committed
        cases committed with
        | some receipt => simp only [bind_assoc, pure_bind]; rfl
        | none =>
            simp only [bind_assoc, pure_bind, executeLeased_stages]

/-! ### The run of an attempt -/

section Runs

variable {r : OperationRequest} {recovered : Bool} {w later : World} {choices rest : List Choice}

/-- An attempt that returned: its first and last call only note it in the history. -/
theorem attempt_ran {result : Except KernelError RuntimeExecution}
    (ran : (attempt r recovered).run.run kernel w choices = (some (result, rest), later)) :
    ∃ first others next mid, choices = first :: others ∧
      (executeInternal r recovered).run.run kernel (kernelAnswer (.attempt r) w first).2 others =
        (some (result, next :: rest), mid) ∧ later.journal = mid.journal := by
  cases choices with
  | nil => cases ran
  | cons first others =>
      have split : ((executeInternal r recovered).run >>= fun result =>
          Task.finish r (failureOf result) >>= fun _ => .done result).run kernel
            (kernelAnswer (.attempt r) w first).2 others = (some (result, rest), later) := ran
      obtain ⟨result', between, mid, executed, finished⟩ := Prog.run_bind_some kernel split
      cases between with
      | nil => cases finished
      | cons next between =>
          cases finished
          exact ⟨first, others, next, mid, rfl, executed, rfl⟩

/-- Calls without an append leave the journal. -/
theorem Calls.still {α : Type} {p : Task α} {post : α → Prop}
    {ending : Option (α × List Choice)}
    (calls : p.Calls (Honest fun _ => True) (Acts r (fun _ => False) True) post)
    (ran : p.run kernel w choices = (ending, later)) : later.journal = w.journal := by
  rw [← show (p.run kernel w choices).2 = later from congrArg Prod.snd ran]
  refine (Prog.Calls.run kernel (fun now => now.journal = w.journal) calls ?_ rfl).1
  intro call now choice _ acts same
  refine ⟨honest_answer call now choice trivial, ?_⟩
  apply (answer_journal choice ?_).trans same
  rintro entry rfl
  cases acts with
  | append kind entry row allowed => exact allowed

/-- Calls of an attempt only add its rows. -/
theorem Calls.grown {α : Type} {p : Task α} {post : α → Prop}
    {ending : Option (α × List Choice)}
    (calls : p.Calls (Honest fun _ => True) (Concerns r) post)
    (ran : p.run kernel w choices = (ending, later)) : Grown r w.journal.entries later := by
  rw [← show (p.run kernel w choices).2 = later from congrArg Prod.snd ran]
  exact (Prog.Calls.run kernel (Grown r w.journal.entries) calls
    (fun call now choice _ concerns grown =>
    ⟨honest_answer call now choice trivial, grown.answer concerns choice⟩)
    ⟨[], by simp, by simp⟩).1

theorem Calls.extends {α : Type} {p : Task α} {post : α → Prop}
    {ending : Option (α × List Choice)}
    (calls : p.Calls (Honest fun _ => True) (Concerns r) post)
    (ran : p.run kernel w choices = (ending, later)) :
    w.journal.entries <+: later.journal.entries := by
  obtain ⟨more, rows, -⟩ := Calls.grown calls ran
  exact ⟨more, rows.symm⟩

/-- The trace of the placement of a request. -/
def decisionTrace (request : OperationRequest) : DecisionTrace :=
  (placeWithTrace (workloadFor request) [referenceNode request]).2

/-- The row of a placement. -/
def scheduleRow (request : OperationRequest) : Entry :=
  entryOf request .observation "SchedulerDecision" "SELECTED" (.trace (decisionTrace request))
    (scheduleKey request.operationId)

theorem schedule_row (request : OperationRequest) (nowUs : Int) :
    ∃ placement, schedule request nowUs = (do
      append request .observation "SchedulerDecision" "SELECTED" (.trace (decisionTrace request))
        (scheduleKey request.operationId)
      return (placement, decisionTrace request)) := by
  obtain ⟨placement, trace, placed, -, -⟩ := reference_placed request
  have same : decisionTrace request = trace := congrArg Prod.snd placed
  refine ⟨placement, ?_⟩
  unfold schedule
  rw [admission_admits, placed, same]

theorem journaled_run {entry : Entry} (choice : Choice) :
    (do let _ ← journalError (Task.append entry); return () : Fallible Unit).run.run kernel w
        (choice :: choices) =
      (some (match (kernelAnswer (.append entry) w choice).1 with
        | .ok _ => .ok ()
        | .error error => .error (.journal error.display), choices),
        (kernelAnswer (.append entry) w choice).2) := by
  unfold journalError
  rw [Prog.run_bindExcept]
  unfold mapError
  rw [ExceptT.run_mk, Prog.run_bind]
  have took : (Task.append entry).run kernel w (choice :: choices) =
      (some ((kernelAnswer (.append entry) w choice).1, choices),
        (kernelAnswer (.append entry) w choice).2) := rfl
  rw [took]
  cases (kernelAnswer (.append entry) w choice).1 with
  | ok sequence => rfl
  | error error => rfl

/-- What an append leaves when the storage takes it: its key was in use, or the row is
the last one. -/
def Filed (w : World) (entry : Entry) (key : String) (later : World) : Prop :=
  (key ∈ w.journal.keys ∧ later.journal = w.journal) ∨
    key ∉ w.journal.keys ∧ ∃ sequence now,
      later.journal.entries = w.journal.entries ++ [Journal.stamp sequence now entry]

/-- An append that was acknowledged, or that the storage could not fail. -/
theorem journaled_filed {entry : Entry} {key : String} {result : Except KernelError Unit}
    (keyed : entry.idempotencyKey = some key)
    (ran : (do let _ ← journalError (Task.append entry); return () : Fallible Unit).run.run kernel w
      choices = (some (result, rest), later))
    (sure : result = .ok () ∨ ∀ choice ∈ choices, choice.storage = none) :
    Filed w entry key later := by
  cases choices with
  | nil => cases ran
  | cons choice choices =>
      rw [journaled_run, Prod.mk.injEq] at ran
      obtain ⟨taken, rfl⟩ := ran
      rcases answer_append_cases (w := w) entry choice keyed with
        ⟨same, ⟨-, error, refused⟩ | ⟨-, used⟩⟩ | ⟨free, sequence, now, longer, -⟩
      · rw [refused] at taken
        rcases sure with rfl | stored
        · cases taken
        · have storage := stored choice (.head _)
          simp [kernelAnswer, World.append, storage] at refused
      · exact .inl ⟨used, same⟩
      · exact .inr ⟨free, sequence, now, longer⟩

/-- The journal after the scheduling of an attempt from `entries`: the row of its placement
is there, or its key was in use. -/
def Scheduled (r : OperationRequest) (entries last : List Entry) : Prop :=
  (scheduleKey r.operationId ∈ keysOf entries ∧ entries <+: last) ∨
    scheduleKey r.operationId ∉ keysOf entries ∧ ∃ sequence now,
      entries ++ [Journal.stamp sequence now (scheduleRow r)] <+: last

theorem Scheduled.extends {entries last longer : List Entry} (scheduled : Scheduled r entries last)
    (grown : last <+: longer) : Scheduled r entries longer := by
  rcases scheduled with ⟨used, start⟩ | ⟨free, sequence, now, start⟩
  · exact .inl ⟨used, start.trans grown⟩
  · exact .inr ⟨free, sequence, now, start.trans grown⟩

theorem schedule_ran {nowUs : Int} {placed : PlacementDecision × DecisionTrace}
    (ran : (schedule r nowUs).run.run kernel w choices = (some (.ok placed, rest), later)) :
    placed.2 = decisionTrace r ∧ Scheduled r w.journal.entries later.journal.entries := by
  obtain ⟨placement, program⟩ := schedule_row r nowUs
  rw [program] at ran
  obtain ⟨_, between, mid, appended, returned⟩ := Prog.run_bindExcept_ok kernel ran
  cases returned
  refine ⟨rfl, ?_⟩
  rcases journaled_filed rfl appended (.inl rfl) with ⟨used, same⟩ | ⟨free, sequence, now, longer⟩
  · exact .inl ⟨used, by rw [same]⟩
  · exact .inr ⟨free, sequence, now, by rw [longer]; exact List.prefix_refl _⟩

/-- The profile is that of the request and the execution. -/
structure Profiled (r : OperationRequest) (ended : Ended) : Prop where
  operation : ended.profile.operationId = r.operationId
  workload : ended.profile.workloadId = r.workloadId
  provider : ended.profile.provider = r.snapshot.providerRevision
  failure : ended.profile.failureCode = failureCode ended.execution

theorem calls_executionUnder (recovered : Bool) (admittedStarted : Int) (placement : PlacementDecision)
    (trace : DecisionTrace) (fenced : FencedLease) :
    (executionUnder r recovered admittedStarted placement trace fenced).Calls (Honest fun _ => True)
      (Concerns r) fun ended => ended.trace = trace ∧ Profiled r ended := by
  refine Prog.Calls.bind (calls_perform .newCancellation fun cancellation _ => ?_)
  refine Prog.Calls.bind (calls_perform (.activeInsert _ _ rfl) fun _ _ => ?_)
  refine Prog.Calls.bind (calls_perform .now fun started _ => ?_)
  refine Prog.Calls.bind (calls_perform .now fun queued _ => ?_)
  refine Prog.Calls.bind ((calls_executeCancellable r cancellation).mono Acts.concerns
    fun execution _ => ?_)
  exact Prog.Calls.bind (calls_perform .now fun executed _ => ⟨rfl, ⟨rfl, rfl, rfl, rfl⟩⟩)

/-- What the calls say of a result holds of the result of a run. -/
theorem Calls.returned {α : Type} {p : Task α} {post : α → Prop} {Mine : Call → Prop} {value : α}
    (calls : p.Calls (Honest fun _ => True) Mine post)
    (ran : p.run kernel w choices = (some (value, rest), later)) : post value :=
  (Prog.Calls.run kernel (fun _ => True) calls
    (fun call now choice _ _ _ => ⟨honest_answer call now choice trivial, trivial⟩)
    trivial).2 value rest (congrArg Prod.fst ran)

theorem committedReceipt_ran {committed : Option OperationReceipt}
    (ran : (committedReceipt r).run.run kernel w choices =
      (some (.ok committed, rest), later)) : committed = committedIn r w.journal.entries := by
  cases choices with
  | nil => cases ran
  | cons choice choices =>
      obtain ⟨elapsed, storage, outcome, probe⟩ := choice
      cases storage with
      | some error => cases ran
      | none =>
          cases ran
          rfl

/-- What `latest_decision_trace` finds. -/
def latestTrace (operationId : String) (entries : List Entry) : Option DecisionTrace :=
  (entries.reverse.find? fun entry =>
    entry.objectType == "SchedulerDecision" && entry.objectId == operationId).bind
      (·.payload.trace?)

theorem latestDecisionTrace_ran {operationId : String} {trace : Option DecisionTrace}
    (ran : (latestDecisionTrace operationId).run.run kernel w choices =
      (some (.ok trace, rest), later)) : trace = latestTrace operationId w.journal.entries := by
  cases choices with
  | nil => cases ran
  | cons choice choices =>
      obtain ⟨elapsed, storage, outcome, probe⟩ := choice
      cases storage with
      | some error => cases ran
      | none =>
          cases ran
          simp [latestTrace]

/-- What the first stage of an attempt from `entries` ends with. -/
def Reaches (r : OperationRequest) (entries last : List Entry) :
    RuntimeExecution ⊕ Ended → Prop
  | .inl replay => committedIn r entries = some replay.receipt ∧
      replay.decisionTrace = (latestTrace r.operationId entries).getD replayTrace
  | .inr ended => committedIn r entries = none ∧ ended.trace = decisionTrace r ∧
      Profiled r ended ∧ Scheduled r entries last

theorem reach_ran {outcome : RuntimeExecution ⊕ Ended}
    (ran : (reachExecution r recovered).run.run kernel w choices =
      (some (.ok outcome, rest), later)) :
    Reaches r w.journal.entries later.journal.entries outcome := by
  unfold reachExecution at ran
  obtain ⟨admitted, c₁, w₁, ticked, ran⟩ := Prog.run_bindLift_ok kernel ran
  have same₁ := Calls.still (r := r) (calls_perform .now fun _ _ => trivial) ticked
  cases valid : r.validateSensitiveReferences with
  | error reason =>
      rw [valid] at ran
      cases ran
  | ok _ =>
      rw [valid] at ran
      obtain ⟨state, c₂, w₂, asked, ran⟩ := Prog.run_bindLift_ok kernel ran
      have same₂ := Calls.still (r := r)
        (calls_perform .kernelState fun _ _ => trivial) asked
      by_cases stopping : state = .shuttingDown
      · rw [if_pos stopping] at ran
        cases ran
      · rw [if_neg stopping] at ran
        obtain ⟨committed, c₃, w₃, looked, ran⟩ := Prog.run_bindExcept_ok kernel ran
        have same₃ := Calls.still (r := r)
          (calls_lookup _ (calls_readWorkload _) _) looked
        have journal : w₃.journal = w.journal := same₃.trans (same₂.trans same₁)
        have found := committedReceipt_ran looked
        rw [← same₃, journal] at found
        cases committed with
        | some receipt =>
            obtain ⟨trace, c₄, w₄, traced, ran⟩ := Prog.run_bindExcept_ok kernel ran
            have told := latestDecisionTrace_ran traced
            rw [journal] at told
            cases ran
            exact ⟨found.symm, by rw [told]⟩
        | none =>
            obtain ⟨⟨placement, trace⟩, c₄, w₄, scheduled, ran⟩ := Prog.run_bindExcept_ok kernel ran
            obtain ⟨fenced, c₅, w₅, granted, ran⟩ := Prog.run_bindExcept_ok kernel ran
            obtain ⟨last, c₆, w₆, executed, ran⟩ := Prog.run_bindLift_ok kernel ran
            cases ran
            obtain ⟨same, schedules⟩ := schedule_ran scheduled
            have grants := Calls.extends ((calls_grantLease r placement).mono Acts.concerns
              fun _ => id) granted
            have calls := calls_executionUnder (r := r) recovered admitted placement trace fenced
            rw [journal] at schedules
            obtain ⟨own, profiled⟩ := Calls.returned calls executed
            refine ⟨found.symm, own.trans same, profiled, ?_⟩
            exact schedules.extends (grants.trans (Calls.extends calls executed))

theorem settle_trace {ended : Ended} {execution : RuntimeExecution}
    (ran : (ended.settle r).run kernel w choices = (some (.ok execution, rest), later)) :
    execution.decisionTrace = ended.trace := by
  unfold Ended.settle settle at ran
  obtain ⟨profiled, c₁, w₁, -, ran⟩ := Prog.run_bind_some kernel ran
  obtain ⟨_, c₂, w₂, -, ran⟩ := Prog.run_bind_some kernel ran
  obtain ⟨noted, c₃, w₃, -, ran⟩ := Prog.run_bind_some kernel ran
  obtain ⟨closed, c₄, w₄, -, ran⟩ := Prog.run_bind_some kernel ran
  cases closed with
  | some error => cases ran
  | none =>
      cases finished : ended.execution with
      | error error =>
          rw [finished] at ran
          cases ran
      | ok receipt =>
          rw [finished] at ran
          cases ran
          rfl

theorem settle_extends {ended : Ended} {ending : Option (Except KernelError RuntimeExecution × _)}
    (profiled : Profiled r ended)
    (ran : (ended.settle r).run kernel w choices = (ending, later)) :
    w.journal.entries <+: later.journal.entries := by
  have ends : EndsWith (fun _ => True) ended.execution := fun _ _ => .inl trivial
  exact Calls.extends ((calls_settle (r := r) ended.leaseId ended.trace ended.profile ends
    profiled.operation profiled.workload profiled.provider).mono Acts.concerns fun _ => id) ran

/-- An attempt that returned a result: a replay, or the two stages. -/
theorem attempt_returned {execution : RuntimeExecution}
    (ran : (attempt r recovered).run.run kernel w choices =
      (some (.ok execution, rest), later)) :
    (committedIn r w.journal.entries = some execution.receipt ∧ execution.decisionTrace =
      (latestTrace r.operationId w.journal.entries).getD replayTrace) ∨
    committedIn r w.journal.entries = none ∧ execution.decisionTrace = decisionTrace r ∧
      Scheduled r w.journal.entries later.journal.entries := by
  obtain ⟨first, others, next, mid, -, executed, journal⟩ := attempt_ran ran
  rw [executeInternal_stages] at executed
  obtain ⟨outcome, between, reached, reaching, settled⟩ := Prog.run_bindExcept_ok kernel executed
  have reaches := reach_ran reaching
  cases outcome with
  | inl replay =>
      cases settled
      exact .inl reaches
  | inr ended =>
      obtain ⟨uncommitted, own, profiled, scheduled⟩ := reaches
      refine .inr ⟨uncommitted, (settle_trace settled).trans own, ?_⟩
      rw [journal]
      exact scheduled.extends (settle_extends profiled settled)

end Runs

end NousKernel
