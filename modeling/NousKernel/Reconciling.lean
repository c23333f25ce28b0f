import NousKernel.Aftermath
import NousKernel.Replay

/-!
What the replay of the journal says of a workload that the runtime has finished. The
runtime files the final phase under the operation, and with phases of its own: only
`FAILED` is a terminal phase of the replay that is not a commit.
-/

set_option autoImplicit false

namespace NousKernel

open Resumption

/-- The recovery state takes the workload for finished. -/
structure RecoveryState.Finished (state : RecoveryState) (workloadId : String) : Prop where
  active : workloadId ∉ state.activeWorkloads
  interrupted : workloadId ∉ state.interruptedWorkloads
  leased : workloadId ∉ state.leasedWorkloads
  phase : ∃ phase, state.workloadPhases.lookup workloadId = some phase ∧
    isTerminalName phase = true

/-! ### The replay of the runtime's rows -/

/-- The final phases, as the runtime writes them. -/
inductive Final : EntryType → String → Prop
  | completed : Final .commit "COMPLETED"
  | cancelled : Final .commit "CANCELLED"
  | failed : Final .transition "FAILED"

theorem final_finalPhase (execution : Except KernelError OperationReceipt) :
    Final (finalPhase execution).1 (finalPhase execution).2 := by
  unfold finalPhase
  split
  · exact .completed
  · exact .cancelled
  · exact .failed

theorem Final.listed {entryType : EntryType} {phase : String} (final : Final entryType phase) :
    phase ∈ finalPhases := by
  cases final <;> decide

/-- What the replay makes of a final phase. -/
theorem Final.terminal {entryType : EntryType} {phase : String} (final : Final entryType phase) :
    (isTerminalName phase = false ↔ phase = "COMPLETED") ∧ isActiveName phase = false ∧
      (entryType = .commit ↔ phase = "COMPLETED" ∨ phase = "CANCELLED") := by
  cases final <;> decide

theorem Recorded.final {Input : OperationRequest → Prop} {entry : Entry}
    (recorded : Recorded Input entry) (kind : entry.objectType = "Workload") :
    Final entry.entryType entry.newPhase := by
  obtain ⟨written, sequence, now, shape, rfl⟩ := recorded
  cases shape with
  | workload r execution known => exact final_finalPhase execution
  | _ => simp [Journal.stamp, entryOf, profileEntry] at kind

/-- What a replay of the runtime's rows says of an object: its last final phase, which
nothing but a failure ends. -/
structure Reflects (state : RecoveryState) (objectId : String) (last : Option String) : Prop where
  phase : state.workloadPhases.lookup objectId = last
  active : objectId ∈ state.activeWorkloads ↔ last = some "COMPLETED"
  interrupted : objectId ∉ state.interruptedWorkloads
  leased : objectId ∈ state.leasedWorkloads ↔
    last = some "COMPLETED" ∨ last = some "CANCELLED"
  listed : ∀ phase, last = some phase → phase ∈ finalPhases

theorem lookup_replayEntry (state : RecoveryState) (entry : Entry) (objectId : String) :
    (state.replayEntry entry).workloadPhases.lookup objectId =
      if entry.objectType = "Workload" ∧ entry.objectId = objectId then some entry.newPhase
      else state.workloadPhases.lookup objectId := by
  have tracked : ∀ other : RecoveryState,
      (((other.trackActive entry).trackInterrupted entry).trackLeased entry).workloadPhases =
        other.workloadPhases := by
    intro other
    simp only [RecoveryState.trackActive, RecoveryState.trackInterrupted,
      RecoveryState.trackLeased, apply_ite RecoveryState.workloadPhases, ite_self]
  unfold RecoveryState.replayEntry
  by_cases workload : entry.objectType = "Workload"
  · rw [if_pos workload, tracked]
    by_cases own : entry.objectId = objectId
    · rw [if_pos ⟨workload, own⟩, own, AList.lookup_insert]
    · rw [if_neg fun both => own both.2, AList.lookup_insert_ne (Ne.symm own)]
  · rw [if_neg workload, if_neg fun both => workload both.1]

theorem reflects_replayed {entries : List Entry}
    (own : ∀ entry ∈ entries, entry.objectType = "Workload" →
      Final entry.entryType entry.newPhase) (objectId : String) :
    Reflects (RecoveryState.replayed entries) objectId (workloadPhase objectId entries) := by
  induction entries using List.reverseRecOn with
  | nil =>
      constructor <;> simp [RecoveryState.replayed, RecoveryState.blank, workloadPhase]
  | append_singleton entries entry ih =>
      have before := ih fun other member => own other (List.mem_append_left _ member)
      rw [RecoveryState.replayed_append, workloadPhase_snoc]
      by_cases concerns : entry.objectType = "Workload" ∧ entry.objectId = objectId
      · have final := own entry (by simp) concerns.1
        obtain ⟨terminal, idle, commit⟩ := final.terminal
        rw [if_pos ⟨concerns.1, concerns.2, final.listed⟩]
        constructor
        case phase => rw [lookup_replayEntry, if_pos concerns]
        case active =>
          rw [RecoveryState.mem_active_replayEntry, if_pos concerns, terminal, Option.some.injEq]
        case interrupted =>
          rw [RecoveryState.mem_interrupted_replayEntry, if_pos concerns]
          simp [idle, before.interrupted]
        case leased =>
          rw [RecoveryState.mem_leased_replayEntry, if_pos concerns, terminal, commit,
            Option.some.injEq, Option.some.injEq]
          constructor
          · rintro (done | ⟨completed, -⟩)
            · exact done
            · exact .inl completed
          · exact .inl
        case listed =>
          intro phase same
          cases same
          exact final.listed
      · rw [if_neg fun matched => concerns ⟨matched.1, matched.2.1⟩]
        constructor
        case phase => rw [lookup_replayEntry, if_neg concerns, before.phase]
        case active => rw [RecoveryState.mem_active_replayEntry, if_neg concerns, before.active]
        case interrupted =>
          rw [RecoveryState.mem_interrupted_replayEntry, if_neg concerns]
          exact before.interrupted
        case leased => rw [RecoveryState.mem_leased_replayEntry, if_neg concerns, before.leased]
        case listed => exact before.listed

/-- Only an object whose last final phase is a failure is taken for finished. -/
theorem Reflects.finished_iff {state : RecoveryState} {objectId : String} {last : Option String}
    (reflects : Reflects state objectId last) :
    state.Finished objectId ↔ last = some "FAILED" := by
  constructor
  · intro finished
    obtain ⟨phase, found, -⟩ := finished.phase
    rw [reflects.phase] at found
    have idle : last ≠ some "COMPLETED" := fun same => finished.active (reflects.active.mpr same)
    have free : last ≠ some "CANCELLED" := fun same =>
      finished.leased (reflects.leased.mpr (.inr same))
    have listed := reflects.listed phase found
    simp only [finalPhases, List.mem_cons, List.not_mem_nil, or_false] at listed
    rcases listed with rfl | rfl | rfl
    · exact absurd found idle
    · exact found
    · exact absurd found free
  · intro failed
    subst failed
    constructor
    case active => simp [reflects.active]
    case interrupted => exact reflects.interrupted
    case leased => simp [reflects.leased]
    case phase => exact ⟨"FAILED", reflects.phase, by decide⟩

/-! ### A call that returned -/

/-- A call of `execute` from `w` that returned: the receipt of an earlier commit, or the
result of an execution of its own, which is given. -/
inductive ReturnedCall (r : OperationRequest) (w later : World) :
    Option (Except KernelError OperationReceipt) → Prop
  | replay (first : Choice) (choices rest spare : List Choice) (mid : World)
      (execution : RuntimeExecution) (result : Except KernelError RuntimeExecution)
      (reached : (reachExecution r false).run.run kernel
        (kernelAnswer (.attempt r) w first).2 choices = (some (.ok (.inl execution), rest), mid))
      (ran : (execute r).run.run kernel w (first :: choices) = (some (result, spare), later)) :
      ReturnedCall r w later none
  | executed (first : Choice) (choices rest spare : List Choice) (mid : World) (ended : Ended)
      (result : Except KernelError RuntimeExecution)
      (reached : (reachExecution r false).run.run kernel
        (kernelAnswer (.attempt r) w first).2 choices = (some (.ok (.inr ended), rest), mid))
      (ran : (execute r).run.run kernel w (first :: choices) = (some (result, spare), later))
      (delivered : Delivered ended.execution result) : ReturnedCall r w later (some ended.execution)

/-- The last row of the replay about the workload will be a failure: the call journals
one, or it journals no phase of the workload and a failure is the last one already. -/
def Reconciled (r : OperationRequest) (execution : Option (Except KernelError OperationReceipt))
    (entries : List Entry) : Prop :=
  match execution with
  | some execution =>
      if r.operationId = r.workloadId ∧
          workloadKey r.operationId (finalPhase execution).2 ∉ keysOf entries then
        (finalPhase execution).2 = "FAILED"
      else workloadPhase r.workloadId entries = some "FAILED"
  | none => workloadPhase r.workloadId entries = some "FAILED"

section Returned

variable {r : OperationRequest} {w later : World}
  {execution : Option (Except KernelError OperationReceipt)}

theorem Stored.object {entry : Entry} (stored : Stored r entry)
    (kind : entry.objectType = "Workload") : entry.objectId = r.operationId := by
  obtain ⟨_, written, sequence, now, row, rfl⟩ := stored
  cases row with
  | workload execution => rfl
  | _ => simp [Journal.stamp, entryOf, profileEntry] at kind

/-- The phase of another object is not the call's to change. -/
theorem ReturnedCall.other (returns : ReturnedCall r w later execution)
    (differ : r.operationId ≠ r.workloadId) :
    workloadPhase r.workloadId later.journal.entries =
      workloadPhase r.workloadId w.journal.entries := by
  have grown : Grown r w.journal.entries later := by
    cases returns with
    | replay first choices rest spare mid execution result reached ran =>
        exact Calls.grown (calls_attempt r false) ran
    | executed first choices rest spare mid ended result reached ran delivered =>
        exact Calls.grown (calls_attempt r false) ran
  obtain ⟨more, rows, mine⟩ := grown
  rw [rows]
  apply workloadPhase_kept
  intro entry member kind same
  exact differ ((mine entry member).object kind ▸ same)

theorem ReturnedCall.phase (returns : ReturnedCall r w later execution) :
    workloadPhase r.workloadId later.journal.entries = some "FAILED" ↔
      Reconciled r execution w.journal.entries := by
  by_cases same : r.operationId = r.workloadId
  · cases returns with
    | replay first choices rest spare mid execution result reached ran =>
        obtain ⟨first', others, next, ending, here, executed, journal⟩ := attempt_ran ran
        cases here
        rw [executeInternal_stages, Prog.run_bindExcept, reached] at executed
        cases executed
        have opening : Muted r (kernelAnswer (.attempt r) w first).2.journal.entries
            mid.journal.entries := Calls.muted (mutes_reachExecution false) reached
        have kept := opening.views.1
        rw [same] at kept
        rw [journal, kept]
        rfl
    | executed first choices rest spare mid ended result reached ran delivered =>
        obtain ⟨phase, -⟩ := attempt_views reached ran (.inr delivered)
        rw [same] at phase
        unfold Reconciled
        rw [phase]
        by_cases used : workloadKey r.workloadId (finalPhase ended.execution).2 ∈
            keysOf w.journal.entries
        · simp [used, same]
        · simp [used, same]
  · rw [returns.other same]
    unfold Reconciled
    cases execution with
    | none => rfl
    | some execution => simp only [same, false_and, if_false]

end Returned

/-- After a call has returned the replay takes its workload for finished exactly when
the call journals a failure under the workload's own id, or leaves one in the last place. -/
theorem replay_finished_iff (uuids : UuidSource) (clock : Int) {w later : World}
    (served : Relation.ReflTransGen Serves (.boot uuids clock) w) {r : OperationRequest}
    {execution : Option (Except KernelError OperationReceipt)}
    (returns : ReturnedCall r w later execution) :
    (∃ state, replayJournal later.journal none = .ok state ∧ state.Finished r.workloadId) ↔
      Reconciled r execution w.journal.entries := by
  have own : Own later := by
    cases returns with
    | replay first choices rest spare mid execution result reached ran =>
        exact ((own_boot uuids clock).served served).attempt ran
    | executed first choices rest spare mid ended result reached ran delivered =>
        exact ((own_boot uuids clock).served served).attempt ran
  have reflects := reflects_replayed (fun entry member => (own entry member).final) r.workloadId
  have read : replayJournal later.journal none =
      .ok (RecoveryState.replayed later.journal.entries) := by
    rw [replayJournal, Journal.readFrom_zero]
  rw [read, ← returns.phase, ← reflects.finished_iff]
  constructor
  · rintro ⟨state, same, finished⟩
    cases same
    exact finished
  · exact fun finished => ⟨_, rfl, finished⟩

/-- A first call of `execute` whose provider ends so. -/
def firstCall (r : OperationRequest) (outcome : Except KernelError OperationReceipt) :
    Option (Except KernelError RuntimeExecution × List Choice) × World :=
  (execute r).run.run kernel (.boot sampleUuids 0)
    (endingWith outcome :: List.replicate 39 (endingWith outcome))

def firstReach (r : OperationRequest) (outcome : Except KernelError OperationReceipt) :
    Option (Except KernelError (RuntimeExecution ⊕ Ended) × List Choice) × World :=
  (reachExecution r false).run.run kernel
    (kernelAnswer (.attempt r) (.boot sampleUuids 0) (endingWith outcome)).2
    (List.replicate 39 (endingWith outcome))

theorem returns_first {r : OperationRequest} {outcome : Except KernelError OperationReceipt}
    (reached : endOf (firstReach r outcome).1 = some outcome)
    (returned : ((firstCall r outcome).1.map fun ended => failureOf ended.1) =
      some (failureOf outcome))
    (outward : ∀ error, failureOf outcome = some error → error.isBookkeeping = false) :
    ReturnedCall r (.boot sampleUuids 0) (firstCall r outcome).2 (some outcome) := by
  generalize ending : firstReach r outcome = run at reached
  obtain ⟨_ | ⟨error | replay | ended, rest⟩, mid⟩ := run
  · cases reached
  · cases reached
  · cases reached
  · obtain ⟨⟨result, spare⟩, found, same⟩ := Option.map_eq_some_iff.mp returned
    have own : ended.execution = outcome := Option.some.inj reached
    subst own
    refine .executed (endingWith ended.execution) _ rest spare mid ended result ending
      (Prod.ext found rfl) ⟨same, ?_⟩
    intro error failed
    exact outward error (same ▸ failed)

/-- An operation under the id of its workload. -/
def namesake : OperationRequest := { requestBy "backend-1" with operationId := "workload-1" }

theorem replay_finished_namesake :
    ∃ later, ReturnedCall namesake (.boot sampleUuids 0) later
        (some (.error (.provider "provider unavailable"))) ∧
      ((∃ state, replayJournal later.journal none = .ok state ∧ state.Finished "workload-1") ↔
        Reconciled namesake (some (.error (.provider "provider unavailable"))) []) := by
  have returns := @returns_first namesake (.error (.provider "provider unavailable"))
    (by decide +kernel) (by decide +kernel) (by intro error failed; cases failed; rfl)
  exact ⟨_, returns, replay_finished_iff sampleUuids 0 .refl returns⟩

/-- The provider answers the first call: the replay knows no phase of the workload. -/
theorem replay_unfinished :
    ¬ ∀ (uuids : UuidSource) (clock : Int) (w : World),
      Relation.ReflTransGen Serves (.boot uuids clock) w →
      ∀ (r : OperationRequest) (execution : Option (Except KernelError OperationReceipt))
        (later : World), ReturnedCall r w later execution →
        ∃ state, replayJournal later.journal none = .ok state ∧ state.Finished r.workloadId := by
  intro finishes
  have returns := @returns_first (requestBy "backend-1") (.ok (sampleReceipt "operation-1" "first"))
    (by decide +kernel) (by decide +kernel) (by intro error failed; cases failed)
  obtain ⟨state, read, finished⟩ := finishes sampleUuids 0 _ .refl _ _ _ returns
  obtain ⟨phase, found, -⟩ := finished.phase
  have unknown : ((replayJournal (firstCall (requestBy "backend-1")
      (.ok (sampleReceipt "operation-1" "first"))).2.journal none).toOption.map fun state =>
        state.workloadPhases.lookup "workload-1") = some none := by decide +kernel
  rw [read] at unknown
  have none : some (state.workloadPhases.lookup "workload-1") = some none := unknown
  rw [show state.workloadPhases.lookup "workload-1" = some phase from found] at none
  exact absurd none (by simp)

end NousKernel
