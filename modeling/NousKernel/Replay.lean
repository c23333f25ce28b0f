import Mathlib.Data.List.AList
import Mathlib.Data.List.Chain
import NousKernel.Journal

/-!
Crash recovery from the journal (`nous-state/src/recovery.rs`) and the lifecycle
of a workload (`nous-types/src/workload.rs`). The three lists of the recovery state
are kept by different rules, and each is compared with what the last entries of a
workload say.
-/

set_option autoImplicit false

namespace NousKernel

variable {P : Type}

namespace Lifecycle

/-- The seventeen phases of `nous-types`; the journal keys of the coordinator know
three of its own. -/
inductive WorkloadPhase where
  | created
  | validating
  | validated
  | rejected
  | admitted
  | placed
  | preparing
  | running
  | quiescing
  | checkpointing
  | checkpointed
  | recovering
  | succeeded
  | failed
  | cancelled
  | lost
  | quarantined
  deriving DecidableEq, Repr

namespace WorkloadPhase

/-- The name of a phase in the journal. -/
def name : WorkloadPhase → String
  | created => "CREATED"
  | validating => "VALIDATING"
  | validated => "VALIDATED"
  | rejected => "REJECTED"
  | admitted => "ADMITTED"
  | placed => "PLACED"
  | preparing => "PREPARING"
  | running => "RUNNING"
  | quiescing => "QUIESCING"
  | checkpointing => "CHECKPOINTING"
  | checkpointed => "CHECKPOINTED"
  | recovering => "RECOVERING"
  | succeeded => "SUCCEEDED"
  | failed => "FAILED"
  | cancelled => "CANCELLED"
  | lost => "LOST"
  | quarantined => "QUARANTINED"

def isTerminal : WorkloadPhase → Bool
  | rejected | succeeded | failed | cancelled | lost | quarantined => true
  | _ => false

def canTransitionTo (phase target : WorkloadPhase) : Bool :=
  phase == target ||
    match phase, target with
    | created, validating | created, cancelled
    | validating, validated | validating, rejected
    | validated, admitted | validated, rejected
    | admitted, placed | admitted, cancelled
    | placed, preparing | placed, cancelled
    | preparing, running | preparing, failed | preparing, cancelled
    | running, quiescing | running, checkpointing | running, succeeded
    | running, failed | running, cancelled | running, lost
    | quiescing, checkpointing | quiescing, succeeded | quiescing, failed | quiescing, cancelled
    | checkpointing, checkpointed | checkpointing, failed
    | checkpointed, running | checkpointed, recovering | checkpointed, cancelled
    | recovering, running | recovering, failed | recovering, cancelled
    | failed, recovering | failed, quarantined
    | lost, recovering => true
    | _, _ => false

end WorkloadPhase

end Lifecycle

/-- `is_terminal` of the replay loop. -/
def isTerminalName (phase : String) : Bool :=
  phase ∈ ["REJECTED", "SUCCEEDED", "FAILED", "CANCELLED", "LOST", "QUARANTINED"]

/-- `is_active_phase` of the replay loop. -/
def isActiveName (phase : String) : Bool :=
  phase ∈ ["ADMITTED", "PLACED", "PREPARING", "RUNNING", "QUIESCING", "CHECKPOINTING",
    "RECOVERING"]

structure RecoveryState where
  workloadPhases : AList (fun _ : String => String)
  workloadGenerations : AList (fun _ : String => Nat)
  activeWorkloads : List String
  interruptedWorkloads : List String
  leasedWorkloads : List String
  entriesReplayed : Nat
  maxSequence : Nat

namespace RecoveryState

def blank : RecoveryState where
  workloadPhases := ∅
  workloadGenerations := ∅
  activeWorkloads := []
  interruptedWorkloads := []
  leasedWorkloads := []
  entriesReplayed := 0
  maxSequence := 0

/-- `Vec::push` under a `contains` check. -/
def pushNew (id : String) (ids : List String) : List String :=
  if id ∈ ids then ids else ids ++ [id]

/-- `Vec::retain(|id| id != ..)`. -/
def without (id : String) (ids : List String) : List String := ids.filter (· ≠ id)

/-- The removal or the insertion that comes first in the loop body. -/
def trackActive (state : RecoveryState) (entry : JournalEntry P) : RecoveryState :=
  if isTerminalName entry.newPhase then
    { state with
      activeWorkloads := without entry.objectId state.activeWorkloads
      interruptedWorkloads := without entry.objectId state.interruptedWorkloads
      leasedWorkloads := without entry.objectId state.leasedWorkloads }
  else { state with activeWorkloads := pushNew entry.objectId state.activeWorkloads }

def trackInterrupted (state : RecoveryState) (entry : JournalEntry P) : RecoveryState :=
  if isActiveName entry.newPhase then
    { state with interruptedWorkloads := pushNew entry.objectId state.interruptedWorkloads }
  else state

def trackLeased (state : RecoveryState) (entry : JournalEntry P) : RecoveryState :=
  if entry.entryType = .commit then
    { state with leasedWorkloads := pushNew entry.objectId state.leasedWorkloads }
  else state

/-- One turn of the replay loop. -/
def replayEntry (state : RecoveryState) (entry : JournalEntry P) : RecoveryState :=
  let counted := { state with
    entriesReplayed := state.entriesReplayed + 1
    maxSequence := entry.sequence }
  if entry.objectType = "Workload" then
    ((({ counted with
      workloadPhases := counted.workloadPhases.insert entry.objectId entry.newPhase
      workloadGenerations := counted.workloadGenerations.insert entry.objectId entry.generation
        }).trackActive entry).trackInterrupted entry).trackLeased entry
  else counted

def replayed (entries : List (JournalEntry P)) : RecoveryState := entries.foldl replayEntry blank

end RecoveryState

/-- The read of the journal may fail. -/
def replayJournal (journal : Journal P) (storage : Option NousError) :
    Except NousError RecoveryState :=
  match storage with
  | some error => .error error
  | none => .ok (RecoveryState.replayed (journal.readFrom 0))

inductive RecoveryAction where
  | resume (workloadId lastPhase : String)
  | restart (workloadId : String)
  | markLost (workloadId : String)
  | markFailed (workloadId reason : String)
  deriving DecidableEq, Repr

def RecoveryAction.workloadId : RecoveryAction → String
  | resume workloadId _ => workloadId
  | restart workloadId => workloadId
  | markLost workloadId => workloadId
  | markFailed workloadId _ => workloadId

/-- The body of the loop over the interrupted workloads. -/
def recoveryAction (state : RecoveryState) (workloadId : String) : RecoveryAction :=
  let currentPhase := (state.workloadPhases.lookup workloadId).getD "UNKNOWN"
  if workloadId ∈ state.leasedWorkloads ∨
      currentPhase ∈ ["ADMITTED", "PLACED", "PREPARING"] then
    .resume workloadId currentPhase
  else .markLost workloadId

def computeRecoveryActions (state : RecoveryState) : List RecoveryAction :=
  state.interruptedWorkloads.map (recoveryAction state)

def RecoveryState.recover (journal : Journal P) (storage : Option NousError) :
    Except NousError (RecoveryState × List RecoveryAction) := do
  let state ← replayJournal journal storage
  return (state, computeRecoveryActions state)

open Lifecycle (WorkloadPhase)

/-- The entries of the journal about one workload. -/
def concerning (workloadId : String) (entries : List (JournalEntry P)) :
    List (JournalEntry P) :=
  entries.filter fun entry => entry.objectType = "Workload" ∧ entry.objectId = workloadId

def phasesOf (workloadId : String) (entries : List (JournalEntry P)) : List String :=
  (concerning workloadId entries).map (·.newPhase)

def lastPhase (workloadId : String) (entries : List (JournalEntry P)) : Option String :=
  (phasesOf workloadId entries).getLast?

/-- The entries of the workload carry phase names, in an order that
`can_transition_to` allows. -/
def Phased (workloadId : String) (entries : List (JournalEntry P)) : Prop :=
  ∃ phases : List WorkloadPhase, phasesOf workloadId entries = phases.map (·.name) ∧
    phases.IsChain fun phase target => phase.canTransitionTo target = true

theorem concerning_append (workloadId : String) (first second : List (JournalEntry P)) :
    concerning workloadId (first ++ second) =
      concerning workloadId first ++ concerning workloadId second :=
  List.filter_append ..

theorem concerning_own {workloadId : String} {entry : JournalEntry P}
    (own : entry.objectType = "Workload" ∧ entry.objectId = workloadId)
    (entries : List (JournalEntry P)) :
    concerning workloadId (entries ++ [entry]) = concerning workloadId entries ++ [entry] := by
  rw [concerning_append]
  congr 1
  simp [concerning, own]

theorem concerning_other {workloadId : String} {entry : JournalEntry P}
    (other : ¬ (entry.objectType = "Workload" ∧ entry.objectId = workloadId))
    (entries : List (JournalEntry P)) :
    concerning workloadId (entries ++ [entry]) = concerning workloadId entries := by
  rw [concerning_append]
  have nothing : concerning workloadId [entry] = [] := by
    simp only [concerning, List.filter_cons, other, decide_false, List.filter_nil]
    rfl
  rw [nothing, List.append_nil]

namespace RecoveryState

@[simp] theorem mem_pushNew {id other : String} {ids : List String} :
    other ∈ pushNew id ids ↔ other = id ∨ other ∈ ids := by
  unfold pushNew
  split
  · rename_i present
    constructor
    · exact .inr
    · rintro (rfl | member)
      · exact present
      · exact member
  · rw [List.mem_append, List.mem_singleton, or_comm]

@[simp] theorem mem_without {id other : String} {ids : List String} :
    other ∈ without id ids ↔ other ∈ ids ∧ other ≠ id := by
  simp [without]

theorem nodup_pushNew {ids : List String} (id : String) (nodup : ids.Nodup) :
    (pushNew id ids).Nodup := by
  unfold pushNew
  split
  · exact nodup
  · rename_i absent
    rw [List.nodup_append]
    refine ⟨nodup, List.nodup_singleton id, ?_⟩
    intro old member new last same
    rw [List.mem_singleton] at last
    exact absent (last ▸ same ▸ member)

theorem nodup_without {ids : List String} (id : String) (nodup : ids.Nodup) :
    (without id ids).Nodup := nodup.filter _

/-! ### What one entry does to the lists -/

section Steps

variable {state : RecoveryState} {entry : JournalEntry P} {workloadId : String}

theorem mem_active_replayEntry :
    workloadId ∈ (state.replayEntry entry).activeWorkloads ↔
      if entry.objectType = "Workload" ∧ entry.objectId = workloadId then
        isTerminalName entry.newPhase = false
      else workloadId ∈ state.activeWorkloads := by
  by_cases workload : entry.objectType = "Workload"
  · by_cases own : entry.objectId = workloadId
    · cases terminal : isTerminalName entry.newPhase <;>
        simp [replayEntry, workload, own, trackActive, trackInterrupted, trackLeased, terminal,
          apply_ite activeWorkloads]
    · have other : workloadId ≠ entry.objectId := fun same => own same.symm
      cases terminal : isTerminalName entry.newPhase <;>
        simp [replayEntry, workload, own, other, trackActive, trackInterrupted, trackLeased,
          terminal, apply_ite activeWorkloads]
  · simp [replayEntry, workload]

theorem mem_interrupted_replayEntry :
    workloadId ∈ (state.replayEntry entry).interruptedWorkloads ↔
      if entry.objectType = "Workload" ∧ entry.objectId = workloadId then
        isActiveName entry.newPhase = true ∨
          isTerminalName entry.newPhase = false ∧ workloadId ∈ state.interruptedWorkloads
      else workloadId ∈ state.interruptedWorkloads := by
  by_cases workload : entry.objectType = "Workload"
  · by_cases own : entry.objectId = workloadId
    · cases terminal : isTerminalName entry.newPhase <;>
        cases active : isActiveName entry.newPhase <;>
        simp [replayEntry, workload, own, trackActive, trackInterrupted, trackLeased, terminal,
          active, apply_ite interruptedWorkloads]
    · have other : workloadId ≠ entry.objectId := fun same => own same.symm
      cases terminal : isTerminalName entry.newPhase <;>
        cases active : isActiveName entry.newPhase <;>
        simp [replayEntry, workload, own, other, trackActive, trackInterrupted, trackLeased,
          terminal, active, apply_ite interruptedWorkloads]
  · simp [replayEntry, workload]

theorem mem_leased_replayEntry :
    workloadId ∈ (state.replayEntry entry).leasedWorkloads ↔
      if entry.objectType = "Workload" ∧ entry.objectId = workloadId then
        entry.entryType = .commit ∨
          isTerminalName entry.newPhase = false ∧ workloadId ∈ state.leasedWorkloads
      else workloadId ∈ state.leasedWorkloads := by
  by_cases workload : entry.objectType = "Workload"
  · by_cases own : entry.objectId = workloadId
    · cases terminal : isTerminalName entry.newPhase <;>
        by_cases commit : entry.entryType = .commit <;>
        simp [replayEntry, workload, own, trackActive, trackInterrupted, trackLeased, terminal,
          commit, apply_ite leasedWorkloads]
    · have other : workloadId ≠ entry.objectId := fun same => own same.symm
      cases terminal : isTerminalName entry.newPhase <;>
        by_cases commit : entry.entryType = .commit <;>
        simp [replayEntry, workload, own, other, trackActive, trackInterrupted, trackLeased,
          terminal, commit, apply_ite leasedWorkloads]
  · simp [replayEntry, workload]

structure Listed (state : RecoveryState) : Prop where
  active : state.activeWorkloads.Nodup
  interrupted : state.interruptedWorkloads.Nodup
  leased : state.leasedWorkloads.Nodup

theorem Listed.replayEntry (listed : Listed state) (entry : JournalEntry P) :
    Listed (state.replayEntry entry) := by
  have tracked : ∀ other : RecoveryState, Listed other → Listed (other.trackActive entry) := by
    intro other kept
    unfold trackActive
    split
    · exact ⟨nodup_without _ kept.active, nodup_without _ kept.interrupted,
        nodup_without _ kept.leased⟩
    · exact ⟨nodup_pushNew _ kept.active, kept.interrupted, kept.leased⟩
  have interrupted : ∀ other : RecoveryState, Listed other →
      Listed (other.trackInterrupted entry) := by
    intro other kept
    unfold trackInterrupted
    split
    · exact ⟨kept.active, nodup_pushNew _ kept.interrupted, kept.leased⟩
    · exact kept
  have leased : ∀ other : RecoveryState, Listed other → Listed (other.trackLeased entry) := by
    intro other kept
    unfold trackLeased
    split
    · exact ⟨kept.active, kept.interrupted, nodup_pushNew _ kept.leased⟩
    · exact kept
  unfold RecoveryState.replayEntry
  split
  · apply leased
    apply interrupted
    apply tracked
    exact ⟨listed.active, listed.interrupted, listed.leased⟩
  · exact ⟨listed.active, listed.interrupted, listed.leased⟩

end Steps

theorem replayed_append (entries : List (JournalEntry P)) (entry : JournalEntry P) :
    replayed (entries ++ [entry]) = (replayed entries).replayEntry entry := by
  simp [replayed, List.foldl_append]

theorem listed_replayed (entries : List (JournalEntry P)) : Listed (replayed entries) := by
  induction entries using List.reverseRecOn with
  | nil => exact ⟨List.nodup_nil, List.nodup_nil, List.nodup_nil⟩
  | append_singleton entries entry ih =>
      rw [replayed_append]
      exact ih.replayEntry entry

/-! ### What a whole replay leaves -/

/-- Active are the workloads whose last entry is not terminal. -/
theorem mem_active_replayed {entries : List (JournalEntry P)} {workloadId : String} :
    workloadId ∈ (replayed entries).activeWorkloads ↔
      ∃ last, (concerning workloadId entries).getLast? = some last ∧
        isTerminalName last.newPhase = false := by
  induction entries using List.reverseRecOn with
  | nil => simp [replayed, blank, concerning]
  | append_singleton entries entry ih =>
      rw [replayed_append, mem_active_replayEntry]
      split
      · rename_i own
        simp [concerning_own own]
      · rename_i other
        rw [concerning_other other, ih]

/-- Leased but not active are the workloads whose last entry is a terminal commit:
the loop takes the workload out and then puts it back. -/
theorem mem_leased_replayed {entries : List (JournalEntry P)} {workloadId : String} :
    workloadId ∈ (replayed entries).leasedWorkloads →
      workloadId ∈ (replayed entries).activeWorkloads ∨
      ∃ last, (concerning workloadId entries).getLast? = some last ∧ last.entryType = .commit ∧
        isTerminalName last.newPhase = true := by
  induction entries using List.reverseRecOn with
  | nil => simp [replayed, blank]
  | append_singleton entries entry ih =>
      rw [replayed_append, mem_leased_replayEntry, mem_active_replayEntry]
      split
      · rename_i own
        intro leased
        rw [concerning_own own]
        cases terminal : isTerminalName entry.newPhase with
        | false => exact .inl rfl
        | true =>
            have commit : entry.entryType = .commit := by
              rcases leased with commit | ⟨open', _⟩
              · exact commit
              · rw [terminal] at open'
                cases open'
            exact .inr ⟨entry, by simp, commit, terminal⟩
      · rename_i other
        rw [concerning_other other]
        exact ih

theorem leased_of_commit {entries : List (JournalEntry P)} {workloadId : String}
    {last : JournalEntry P} (found : (concerning workloadId entries).getLast? = some last)
    (commit : last.entryType = .commit) : workloadId ∈ (replayed entries).leasedWorkloads := by
  induction entries using List.reverseRecOn with
  | nil => simp [concerning] at found
  | append_singleton entries entry ih =>
      rw [replayed_append, mem_leased_replayEntry]
      split
      · rename_i own
        rw [concerning_own own, List.getLast?_concat, Option.some.injEq] at found
        rw [found]
        exact .inl commit
      · rename_i other
        rw [concerning_other other] at found
        exact ih found

end RecoveryState

/-! ### Phases that neither interrupt nor end a workload -/

namespace Lifecycle.WorkloadPhase

theorem isTerminalName_name (phase : WorkloadPhase) :
    isTerminalName phase.name = phase.isTerminal := by
  cases phase <;> rfl

theorem isActiveName_name (phase : WorkloadPhase) : isActiveName phase.name = true ↔
    phase ∈ [admitted, placed, preparing, running, quiescing, checkpointing, recovering] := by
  cases phase <;> decide

theorem name_inj {first second : WorkloadPhase} (same : first.name = second.name) :
    first = second := by
  cases first <;> cases second <;> first | rfl | exact absurd same (by decide)

/-- A phase before the admission. -/
def early (phase : WorkloadPhase) : Bool := phase ∈ [created, validating, validated]

/-- The phases the replay loop neither enters as interrupted nor removes. -/
theorem early_or_checkpointed {phase : WorkloadPhase} (idle : isActiveName phase.name = false)
    (open' : isTerminalName phase.name = false) : phase.early = true ∨ phase = checkpointed := by
  cases phase
  case created | validating | validated => exact .inl rfl
  case checkpointed => exact .inr rfl
  case rejected | succeeded | failed | cancelled | lost | quarantined =>
    exact absurd open' (by decide)
  all_goals exact absurd idle (by decide)

theorem early_idle {phase : WorkloadPhase} (early : phase.early = true) :
    isActiveName phase.name = false ∧ phase ≠ checkpointed := by
  cases phase
  case created | validating | validated => exact ⟨by decide, by decide⟩
  all_goals cases early

/-- Nothing leads back to a phase before the admission. -/
theorem early_of_canTransitionTo {phase target : WorkloadPhase}
    (allowed : phase.canTransitionTo target = true) (early : target.early = true) :
    phase.early = true := by
  cases target
  case created | validating | validated =>
    cases phase
    case created | validating | validated => rfl
    all_goals cases allowed
  all_goals cases early

theorem canTransitionTo_checkpointed {phase : WorkloadPhase}
    (allowed : phase.canTransitionTo checkpointed = true) :
    phase = checkpointing ∨ phase = checkpointed := by
  cases phase
  case checkpointing => exact .inl rfl
  case checkpointed => exact .inr rfl
  all_goals cases allowed

/-- The last phase is an active one, or a checkpoint that the workload has worked
its way to. -/
def Interrupted (phases : List WorkloadPhase) : Prop :=
  ∃ last, phases.getLast? = some last ∧ (isActiveName last.name = true ∨
    last = checkpointed ∧ ∃ phase ∈ phases, phase ≠ checkpointed)

theorem not_interrupted_of_early {phases : List WorkloadPhase} {last : WorkloadPhase}
    (found : phases.getLast? = some last) (early : last.early = true) : ¬ Interrupted phases := by
  rintro ⟨other, same, active | ⟨checkpoint, _⟩⟩
  · rw [found, Option.some.injEq] at same
    rw [← same, (early_idle early).1] at active
    cases active
  · rw [found, Option.some.injEq] at same
    exact (early_idle early).2 (same.trans checkpoint)

theorem interrupted_concat_checkpointed {phases : List WorkloadPhase}
    (allowed : ∀ phase ∈ phases.getLast?, phase.canTransitionTo checkpointed = true) :
    Interrupted (phases ++ [checkpointed]) ↔ Interrupted phases := by
  have reduced : Interrupted (phases ++ [checkpointed]) ↔
      ∃ phase ∈ phases, phase ≠ checkpointed := by
    have idle : isActiveName checkpointed.name = false := by decide
    simp [Interrupted, idle]
  rw [reduced]
  constructor
  · rintro ⟨phase, member, other⟩
    cases found : phases.getLast? with
    | none =>
        rw [List.getLast?_eq_none_iff.mp found] at member
        cases member
    | some last =>
        refine ⟨last, found, ?_⟩
        rcases canTransitionTo_checkpointed (allowed last found) with rfl | rfl
        · exact .inl (by decide)
        · exact .inr ⟨rfl, phase, member, other⟩
  · rintro ⟨last, found, active | ⟨_, earlier⟩⟩
    · refine ⟨last, List.mem_of_getLast? found, ?_⟩
      rintro rfl
      exact absurd active (by decide)
    · exact earlier

/-- One more phase changes the verdict as the replay loop changes its list. -/
theorem interrupted_concat {phases : List WorkloadPhase} {target : WorkloadPhase}
    (allowed : ∀ phase ∈ phases.getLast?, phase.canTransitionTo target = true) :
    Interrupted (phases ++ [target]) ↔ isActiveName target.name = true ∨
      isTerminalName target.name = false ∧ Interrupted phases := by
  by_cases active : isActiveName target.name = true
  · have last : (phases ++ [target]).getLast? = some target := List.getLast?_concat
    simp only [active, true_or, iff_true]
    exact ⟨target, last, .inl active⟩
  · rw [Bool.not_eq_true] at active
    simp only [active, Bool.false_eq_true, false_or]
    cases terminal : isTerminalName target.name with
    | true =>
        have other : target ≠ checkpointed := by
          rintro rfl
          exact absurd terminal (by decide)
        simp [Interrupted, active, other]
    | false =>
        simp only [true_and]
        rcases early_or_checkpointed active terminal with early | rfl
        · -- Before the admission neither side holds.
          have after : ¬ Interrupted (phases ++ [target]) :=
            not_interrupted_of_early List.getLast?_concat early
          have before : ¬ Interrupted phases := by
            rintro ⟨last, found, reason⟩
            have first := early_of_canTransitionTo (allowed last found) early
            exact not_interrupted_of_early found first ⟨last, found, reason⟩
          exact iff_of_false after before
        · exact interrupted_concat_checkpointed allowed

end Lifecycle.WorkloadPhase

namespace RecoveryState

theorem mem_interrupted_replayed {entries : List (JournalEntry P)} {workloadId : String}
    {phases : List WorkloadPhase}
    (carried : phasesOf workloadId entries = phases.map (·.name))
    (allowed : phases.IsChain fun phase target => phase.canTransitionTo target = true) :
    workloadId ∈ (replayed entries).interruptedWorkloads ↔ WorkloadPhase.Interrupted phases := by
  induction entries using List.reverseRecOn generalizing phases with
  | nil =>
      have none : phases = [] := List.map_eq_nil_iff.mp carried.symm
      simp [replayed, blank, none, WorkloadPhase.Interrupted]
  | append_singleton entries entry ih =>
      rw [replayed_append, mem_interrupted_replayEntry]
      split
      · rename_i own
        rw [phasesOf, concerning_own own, List.map_append] at carried
        obtain ⟨front, final, rfl, fronts, finals⟩ := List.map_eq_append_iff.mp carried.symm
        obtain ⟨target, rfl, named⟩ := List.map_eq_singleton_iff.mp finals
        obtain ⟨before, _, link⟩ := List.isChain_append.mp allowed
        have name : entry.newPhase = target.name := named.symm
        rw [name, ih fronts.symm before]
        exact (WorkloadPhase.interrupted_concat fun phase last => link phase last target rfl).symm
      · rename_i other
        rw [phasesOf, concerning_other other] at carried
        exact ih carried allowed

/-- What the recovery state should say about the journal. -/
structure Reconstructs (entries : List (JournalEntry P)) (state : RecoveryState) : Prop where
  active : ∀ workloadId, workloadId ∈ state.activeWorkloads ↔
    ∃ phase : WorkloadPhase, lastPhase workloadId entries = some phase.name ∧
      phase.isTerminal = false
  interrupted : ∀ workloadId, workloadId ∈ state.interruptedWorkloads ↔
    ∃ phase : WorkloadPhase, lastPhase workloadId entries = some phase.name ∧
      phase ∈ [.admitted, .placed, .preparing, .running, .quiescing, .checkpointing, .recovering]
  leased : ∀ workloadId ∈ state.leasedWorkloads, workloadId ∈ state.activeWorkloads
  listed : Listed state
  actions : (computeRecoveryActions state).map (·.workloadId) = state.interruptedWorkloads

/-- No workload has come to a checkpoint and stopped there, and none has ended with
a commit. -/
structure Unparked (entries : List (JournalEntry P)) : Prop where
  checkpointed : ∀ workloadId,
    lastPhase workloadId entries = some WorkloadPhase.checkpointed.name →
    ∀ phase ∈ phasesOf workloadId entries, phase = WorkloadPhase.checkpointed.name
  committed : ∀ workloadId last, (concerning workloadId entries).getLast? = some last →
    last.entryType = .commit → isTerminalName last.newPhase = false

theorem actions_workloadId (state : RecoveryState) :
    (computeRecoveryActions state).map (·.workloadId) = state.interruptedWorkloads := by
  have own : ∀ workloadId, (recoveryAction state workloadId).workloadId = workloadId := by
    intro workloadId
    simp only [recoveryAction]
    split <;> rfl
  rw [computeRecoveryActions, List.map_map]
  calc state.interruptedWorkloads.map _ = state.interruptedWorkloads.map id :=
        List.map_congr_left fun workloadId _ => own workloadId
    _ = state.interruptedWorkloads := List.map_id _

section Journal

variable {entries : List (JournalEntry P)} {workloadId : String} {phases : List WorkloadPhase}

theorem lastPhase_name (carried : phasesOf workloadId entries = phases.map (·.name))
    {phase : WorkloadPhase} :
    lastPhase workloadId entries = some phase.name ↔ phases.getLast? = some phase := by
  rw [lastPhase, carried, List.getLast?_map]
  constructor
  · intro found
    obtain ⟨last, here, same⟩ := Option.map_eq_some_iff.mp found
    rw [here, WorkloadPhase.name_inj same]
  · intro found
    rw [found]
    rfl

theorem active_iff (phased : Phased workloadId entries) :
    workloadId ∈ (replayed entries).activeWorkloads ↔
      ∃ phase : WorkloadPhase, lastPhase workloadId entries = some phase.name ∧
        phase.isTerminal = false := by
  obtain ⟨phases, carried, _⟩ := phased
  rw [mem_active_replayed]
  constructor
  · rintro ⟨last, found, open'⟩
    have named : lastPhase workloadId entries = some last.newPhase := by
      rw [lastPhase, phasesOf, List.getLast?_map, found]
      rfl
    have among : last.newPhase ∈ phases.map (·.name) := by
      rw [← carried]
      exact List.mem_of_getLast? named
    obtain ⟨phase, _, same⟩ := List.mem_map.mp among
    refine ⟨phase, by rw [named, same], ?_⟩
    rw [← WorkloadPhase.isTerminalName_name, same]
    exact open'
  · rintro ⟨phase, named, open'⟩
    rw [lastPhase, phasesOf, List.getLast?_map] at named
    obtain ⟨last, found, same⟩ := Option.map_eq_some_iff.mp named
    refine ⟨last, found, ?_⟩
    rw [same, WorkloadPhase.isTerminalName_name]
    exact open'

/-- The list of interrupted workloads is right about a workload unless it has come
to a checkpoint and stopped there. -/
theorem interrupted_iff (phased : Phased workloadId entries) :
    (workloadId ∈ (replayed entries).interruptedWorkloads ↔
      ∃ phase : WorkloadPhase, lastPhase workloadId entries = some phase.name ∧
        phase ∈ [.admitted, .placed, .preparing, .running, .quiescing, .checkpointing,
          .recovering]) ↔
    (lastPhase workloadId entries = some WorkloadPhase.checkpointed.name →
      ∀ phase ∈ phasesOf workloadId entries, phase = WorkloadPhase.checkpointed.name) := by
  obtain ⟨phases, carried, allowed⟩ := phased
  simp only [mem_interrupted_replayed carried allowed, lastPhase_name carried,
    ← WorkloadPhase.isActiveName_name]
  have parked : (∀ phase ∈ phasesOf workloadId entries, phase = WorkloadPhase.checkpointed.name) ↔
      ∀ phase ∈ phases, phase = .checkpointed := by
    rw [carried, List.forall_mem_map]
    exact forall₂_congr fun phase _ =>
      ⟨WorkloadPhase.name_inj, fun same => congrArg WorkloadPhase.name same⟩
  rw [parked]
  constructor
  · intro exact' last phase member
    by_contra other
    obtain ⟨found, here, active⟩ := exact'.mp ⟨_, last, .inr ⟨rfl, phase, member, other⟩⟩
    rw [last, Option.some.injEq] at here
    rw [← here] at active
    exact absurd active (by decide)
  · intro unparked
    constructor
    · rintro ⟨last, found, active | ⟨rfl, phase, member, other⟩⟩
      · exact ⟨last, found, active⟩
      · exact absurd (unparked found phase member) other
    · rintro ⟨last, found, active⟩
      exact ⟨last, found, .inl active⟩

end Journal

/-- The replay reconstructs the state at the crash exactly for the journals in which
no workload has stopped at a checkpoint it worked its way to, and none has ended
with a commit. -/
theorem replay_reconstructs_iff (journal : Journal P)
    (phased : ∀ workloadId, Phased workloadId journal.entries) :
    (∃ state, replayJournal journal none = .ok state ∧ Reconstructs journal.entries state) ↔
      Unparked journal.entries := by
  have result : replayJournal journal none = .ok (replayed journal.entries) := by
    rw [replayJournal, Journal.readFrom_zero]
  rw [result]
  constructor
  · rintro ⟨state, same, right⟩
    cases same
    refine ⟨fun workloadId => (interrupted_iff (phased workloadId)).mp
      (right.interrupted workloadId), ?_⟩
    intro workloadId last found commit
    have active := right.leased workloadId (leased_of_commit found commit)
    obtain ⟨final, here, open'⟩ := mem_active_replayed.mp active
    rw [found, Option.some.injEq] at here
    rw [here]
    exact open'
  · intro unparked
    refine ⟨_, rfl, fun workloadId => active_iff (phased workloadId),
      fun workloadId => (interrupted_iff (phased workloadId)).mpr (unparked.checkpointed workloadId),
      ?_, listed_replayed _, actions_workloadId _⟩
    intro workloadId leased
    rcases mem_leased_replayed leased with active | ⟨last, found, commit, terminal⟩
    · exact active
    · rw [unparked.committed workloadId last found commit] at terminal
      cases terminal

/-- A property of every workload is one of those the journal names and of those it
says nothing about. -/
theorem forall_workload {entries : List (JournalEntry P)} {motive : String → Prop}
    (present : ∀ workloadId ∈ entries.map (·.objectId), motive workloadId)
    (absent : ∀ workloadId, concerning workloadId entries = [] → motive workloadId)
    (workloadId : String) : motive workloadId := by
  by_cases named : workloadId ∈ entries.map (·.objectId)
  · exact present workloadId named
  · apply absent
    rw [concerning, List.filter_eq_nil_iff]
    intro entry member own
    exact named (List.mem_map.mpr ⟨entry, member, (of_decide_eq_true own).2⟩)

theorem phased_of_concerning_nil {entries : List (JournalEntry P)} {workloadId : String}
    (nothing : concerning workloadId entries = []) : Phased workloadId entries :=
  ⟨[], by rw [phasesOf, nothing]; rfl, .nil⟩

/-- An entry that a transition of a workload leaves. -/
def phaseEntry (workloadId : String) (entryType : EntryType) (phase : WorkloadPhase)
    (generation : Nat) : JournalEntry Unit where
  sequence := 0
  workloadId := workloadId
  entryType := entryType
  objectType := "Workload"
  objectId := workloadId
  previousPhase := none
  newPhase := phase.name
  generation := generation
  payload := ()
  fencingToken := "node-1:1"
  actor := "test"
  idempotencyKey := none
  timestampUs := 0

def journalOf (entries : List (JournalEntry Unit)) : Journal Unit :=
  entries.foldl (fun journal entry => (journal.append entry 1).2) Journal.empty

/-- A workload that was running under a lease at the crash. -/
def runningJournal : Journal Unit :=
  journalOf [phaseEntry "w-1" .intent .preparing 1, phaseEntry "w-1" .commit .running 2]

theorem replay_reconstructs_running :
    ∃ state, replayJournal runningJournal none = .ok state ∧
      Reconstructs runningJournal.entries state := by
  have named : runningJournal.entries.map (·.objectId) = ["w-1", "w-1"] := by decide
  have phased : ∀ workloadId, Phased workloadId runningJournal.entries := by
    apply forall_workload
    · rw [named]
      intro workloadId member
      obtain rfl : workloadId = "w-1" := by simpa using member
      exact ⟨[.preparing, .running], by decide, by decide⟩
    · exact fun workloadId nothing => phased_of_concerning_nil nothing
  rw [replay_reconstructs_iff runningJournal phased]
  constructor
  · apply forall_workload
    · rw [named]
      intro workloadId member
      obtain rfl : workloadId = "w-1" := by simpa using member
      decide
    · intro workloadId nothing
      simp [lastPhase, phasesOf, nothing]
  · apply forall_workload
    · rw [named]
      intro workloadId member
      obtain rfl : workloadId = "w-1" := by simpa using member
      have last : (concerning "w-1" runningJournal.entries).getLast?.map (·.newPhase) =
          some "RUNNING" := by decide
      intro entry found commit
      rw [found, Option.map_some, Option.some.injEq] at last
      rw [last]
      decide
    · intro workloadId nothing
      simp [nothing]

/-- One workload waits at a checkpoint, another has committed its success. -/
def parkedJournal : Journal Unit :=
  journalOf [phaseEntry "w-1" .transition .running 1, phaseEntry "w-1" .transition .checkpointing 2,
    phaseEntry "w-1" .transition .checkpointed 3, phaseEntry "w-2" .transition .running 1,
    phaseEntry "w-2" .commit .succeeded 2]

theorem replay_parked : (∀ workloadId, Phased workloadId parkedJournal.entries) ∧
    ¬ ∃ state, replayJournal parkedJournal none = .ok state ∧
      Reconstructs parkedJournal.entries state := by
  constructor
  · have named : parkedJournal.entries.map (·.objectId) = ["w-1", "w-1", "w-1", "w-2", "w-2"] := by
      decide
    apply forall_workload
    · rw [named]
      intro workloadId member
      obtain rfl | rfl : workloadId = "w-1" ∨ workloadId = "w-2" := by simpa using member
      · exact ⟨[.running, .checkpointing, .checkpointed], by decide, by decide⟩
      · exact ⟨[.running, .succeeded], by decide, by decide⟩
    · exact fun workloadId nothing => phased_of_concerning_nil nothing
  · rintro ⟨state, same, right⟩
    cases same
    -- The workload at the checkpoint is still listed as interrupted.
    obtain ⟨phase, last, active⟩ := (right.interrupted "w-1").mp (by decide)
    have checkpoint : lastPhase "w-1" parkedJournal.entries =
        some WorkloadPhase.checkpointed.name := by decide
    rw [checkpoint, Option.some.injEq] at last
    rw [← WorkloadPhase.name_inj last] at active
    exact absurd active (by decide)

end RecoveryState

end NousKernel
