import NousKernel.Provenance
import NousKernel.Stages

/-!
Which decision trace a replay returns. The trace of an attempt is journaled under a
key of its operation, so only the first one of an operation is stored, while a later
attempt with another backend or model can be the one that commits.
-/

set_option autoImplicit false

namespace NousKernel

open Resumption

/-! ### Runs in any order -/

/-- One step of a kernel: a call of one of its tasks, after which the journal holds the
runtime's own rows, or a crash and a new process. -/
inductive Serves : World → World → Prop
  | call (w : World) (call : Call) (choice : Choice)
      (own : ∀ entry ∈ (kernelAnswer call w choice).2.journal.entries,
        Recorded (fun _ => True) entry) : Serves w (kernelAnswer call w choice).2
  | restart (w : World) : Serves w w.restart

/-- Every row is one that the runtime writes. -/
def Own (w : World) : Prop := ∀ entry ∈ w.journal.entries, Recorded (fun _ => True) entry

section Steps

variable {w later : World}

theorem answer_extends (call : Call) (choice : Choice) :
    w.journal.entries <+: (kernelAnswer call w choice).2.journal.entries := by
  by_cases appends : ∃ entry, call = .append entry
  · obtain ⟨entry, rfl⟩ := appends
    simp only [kernelAnswer, World.append]
    cases choice.storage with
    | some error => exact List.prefix_refl _
    | none =>
        cases found : w.journal.absorber entry with
        | some sequence =>
            simp [World.record, World.tick, Journal.append_absorbed _ found]
        | none => simp [World.record, World.tick, Journal.append_inserted _ found]
  · rw [answer_journal choice fun entry same => appends ⟨entry, same⟩]

theorem Serves.extends (serves : Serves w later) : w.journal.entries <+: later.journal.entries := by
  cases serves with
  | call call choice own => exact answer_extends call choice
  | restart => exact List.prefix_refl _

theorem served_extends (served : Relation.ReflTransGen Serves w later) :
    w.journal.entries <+: later.journal.entries := by
  induction served with
  | refl => exact List.prefix_refl _
  | tail before step ih => exact ih.trans step.extends

theorem Own.served (own : Own w) (served : Relation.ReflTransGen Serves w later) : Own later := by
  induction served with
  | refl => exact own
  | tail before step ih =>
      cases step with
      | call call choice rows => exact rows
      | restart => exact ih

theorem own_boot (uuids : UuidSource) (clock : Int) : Own (.boot uuids clock) := by
  intro entry member
  cases member

/-- A command of a session, completed or interrupted, is such steps. -/
theorem perform_serves {command : Command} (valid : Sound (fun _ => True) [] w)
    (choices : List Choice) : Relation.ReflTransGen Serves w (w.perform command choices) := by
  have chain : Relation.ReflTransGen Serves w (command.task.run kernel w choices).2 := by
    have safe : (sequential (fun _ => True) [] fun _ _ _ => True).Safe _ command.task w :=
      safe_command closed_of_empty fun r _ => trivial
    have steps := safe.run_steps (fun _ => rfl) choices (fun _ _ _ _ => trivial) valid
    refine steps.lift id fun before after step => ?_
    obtain ⟨sound, call, choice, rfl⟩ := step
    exact .call before call choice sound.recorded
  show Relation.ReflTransGen Serves w (if _ then _ else _)
  split
  · exact chain.tail (.restart _)
  · exact chain

theorem session_serves (steps : List (Command × List Choice)) (fresh : Fresh w)
    (valid : Sound (fun _ => True) [] w) : Relation.ReflTransGen Serves w (w.session steps) := by
  induction steps generalizing w with
  | nil => exact .refl
  | cons step rest ih =>
      obtain ⟨kept, ready⟩ := perform_sound valid fresh (fun _ _ => trivial) step.2
      exact (perform_serves valid step.2).trans (ih ready kept)

/-- The worlds of a session are among those of a kernel that serves. -/
theorem booted_serves (uuids : UuidSource) (clock : Int) (steps : List (Command × List Choice)) :
    Relation.ReflTransGen Serves (.boot uuids clock) (booted uuids clock steps) :=
  session_serves steps (.boot uuids clock) (boot_sound uuids clock)

end Steps

/-! ### The row of a decision -/

section Rows

variable {entries : List Entry} {entry : Entry} {operationId : String} {trace : DecisionTrace}

/-- A scheduler decision is under the schedule key of its operation. -/
theorem Recorded.scheduled {Input : OperationRequest → Prop} (recorded : Recorded Input entry)
    (kind : entry.objectType = "SchedulerDecision") :
    entry.idempotencyKey = some (scheduleKey entry.objectId) ∧
      ∃ trace, entry.payload = .trace trace := by
  obtain ⟨written, sequence, now, shape, rfl⟩ := recorded
  cases shape with
  | schedule r trace known => exact ⟨rfl, trace, rfl⟩
  | profile => simp [Journal.stamp, profileEntry] at kind
  | _ => simp [Journal.stamp, entryOf] at kind

/-- The trace that is found is on a row of the operation. -/
theorem latestTrace_origin (found : latestTrace operationId entries = some trace) :
    ∃ entry ∈ entries, entry.objectType = "SchedulerDecision" ∧ entry.objectId = operationId ∧
      entry.payload = .trace trace := by
  obtain ⟨entry, first, carried⟩ := Option.bind_eq_some_iff.mp found
  have matched := List.find?_some first
  simp only [Bool.and_eq_true, beq_iff_eq] at matched
  refine ⟨entry, List.mem_reverse.mp (List.mem_of_find?_eq_some first), matched.1, matched.2, ?_⟩
  cases payload : entry.payload <;> simp_all [Payload.trace?]

/-- In a journal of the runtime's rows an operation has one decision. -/
theorem latestTrace_eq {w : World} (own : Own w) (member : entry ∈ w.journal.entries)
    (kind : entry.objectType = "SchedulerDecision") (carried : entry.payload = .trace trace) :
    latestTrace entry.objectId w.journal.entries = some trace := by
  cases found : w.journal.entries.reverse.find? fun other =>
      other.objectType == "SchedulerDecision" && other.objectId == entry.objectId with
  | none =>
      have absent := List.find?_eq_none.mp found entry (List.mem_reverse.mpr member)
      simp [kind] at absent
  | some row =>
      have matched := List.find?_some found
      simp only [Bool.and_eq_true, beq_iff_eq] at matched
      have inside := List.mem_reverse.mp (List.mem_of_find?_eq_some found)
      have rowKey := ((own row inside).scheduled matched.1).1
      rw [matched.2] at rowKey
      have same := keyed_unique w.journal.unique inside member rowKey
        ((own entry member).scheduled kind).1
      rw [latestTrace, found, same, Option.bind_some, carried]
      rfl

end Rows

/-! ### What the trace depends on -/

/-- The one candidate for the placement of a request. -/
theorem reference_candidate (r : OperationRequest) :
    ∃ c, nodeCandidates (workloadFor r) (referenceNode r) = [c] ∧ c.engineId = r.backend ∧
      c.modelRevision = ([if r.model = "" then r.backend else r.model].find? fun model =>
        (if r.model = "" then [] else [r.model]).any (containsText model)).getD "" :=
  ⟨_, rfl, rfl, rfl⟩

theorem decisionTrace_selected (r : OperationRequest) :
    (decisionTrace r).selectedProvider = some r.backend ∧
      (decisionTrace r).selectedModel = some r.model := by
  obtain ⟨c, candidates, engine, revision⟩ := reference_candidate r
  have placed : (WeightedSumPolicy.select
      ([referenceNode r].flatMap (nodeCandidates (workloadFor r)))) = some c := by
    rw [List.flatMap_singleton, candidates]
    rfl
  have model : c.modelRevision = r.model := by
    by_cases unnamed : r.model = ""
    · rw [revision, if_pos unnamed, if_pos unnamed, unnamed]
      rfl
    · have found : containsText r.model r.model = true := by simp [containsText]
      rw [revision, if_neg unnamed, if_neg unnamed]
      simp [found]
  constructor
  · show Option.map _ (place (workloadFor r) [referenceNode r]) = _
    rw [place, placed, ← engine]
    rfl
  · show Option.map _ (place (workloadFor r) [referenceNode r]) = _
    rw [place, placed, ← model]
    rfl

/-- The trace of a placement names the backend and the model, and depends on nothing
else of the request. -/
theorem decisionTrace_eq_iff (q r : OperationRequest) :
    decisionTrace q = decisionTrace r ↔ q.backend = r.backend ∧ q.model = r.model := by
  constructor
  · intro same
    have providers := congrArg DecisionTrace.selectedProvider same
    have models := congrArg DecisionTrace.selectedModel same
    rw [(decisionTrace_selected q).1, (decisionTrace_selected r).1] at providers
    rw [(decisionTrace_selected q).2, (decisionTrace_selected r).2] at models
    exact ⟨Option.some.inj providers, Option.some.inj models⟩
  · rintro ⟨backend, model⟩
    cases q
    cases r
    dsimp only at backend model
    subst backend model
    rfl

theorem decisionTrace_ne_replay (r : OperationRequest) : decisionTrace r ≠ replayTrace := by
  intro same
  have policies : (decisionTrace r).policy = replayTrace.policy := congrArg _ same
  exact absurd (show "Deterministic" = "JournalReplay" from policies) (by decide)

/-! ### What a replay returns -/

/-- The journal can still take the decision of an attempt of `r`, or holds it: the
schedule key of the operation is free, or it is on a row with this trace. -/
def Attributable (r : OperationRequest) (w : World) : Prop :=
  scheduleKey r.operationId ∉ w.journal.keys ∨
    ∃ entry ∈ w.journal.entries, entry.objectType = "SchedulerDecision" ∧
      entry.objectId = r.operationId ∧ entry.payload = .trace (decisionTrace r)

/-- A key of a journal stays on its row. -/
theorem key_kept {entries : List Entry} {j : Journal Payload} {row : Entry} {key : String}
    (used : key ∈ keysOf entries) (grown : entries <+: j.entries) (member : row ∈ j.entries)
    (keyed : row.idempotencyKey = some key) : row ∈ entries := by
  obtain ⟨old, inside, same⟩ := List.mem_filterMap.mp used
  rw [← keyed_unique j.unique (grown.subset inside) member same keyed]
  exact inside

theorem traced_iff {r : OperationRequest} {w last : World} {entries : List Entry} (own : Own last)
    (scheduled : Scheduled r w.journal.entries entries) (grown : entries <+: last.journal.entries) :
    (latestTrace r.operationId last.journal.entries).getD replayTrace = decisionTrace r ↔
      Attributable r w := by
  rcases scheduled with ⟨used, start⟩ | ⟨free, sequence, now, start⟩
  · have whole := start.trans grown
    constructor
    · intro same
      cases found : latestTrace r.operationId last.journal.entries with
      | none =>
          rw [found] at same
          exact absurd same.symm (decisionTrace_ne_replay r)
      | some trace =>
          rw [found] at same
          cases same
          obtain ⟨row, member, kind, operation, carried⟩ := latestTrace_origin found
          obtain ⟨keyed, -⟩ := (own row member).scheduled kind
          rw [operation] at keyed
          exact .inr ⟨row, key_kept used whole member keyed, kind, operation, carried⟩
    · rintro (free | ⟨row, member, kind, operation, carried⟩)
      · exact absurd used free
      · have found := latestTrace_eq own (whole.subset member) kind carried
        rw [operation] at found
        rw [found]
        rfl
  · have member : Journal.stamp sequence now (scheduleRow r) ∈ last.journal.entries :=
      (start.trans grown).subset (by simp)
    have found : latestTrace r.operationId last.journal.entries = some (decisionTrace r) :=
      latestTrace_eq own member rfl rfl
    rw [found]
    exact ⟨fun _ => .inl free, fun _ => rfl⟩

/-- An attempt journals rows of the runtime only. -/
theorem Own.attempt {r : OperationRequest} {recovered : Bool} {w later : World}
    {choices rest : List Choice} {result : Except KernelError RuntimeExecution} (own : Own w)
    (ran : (attempt r recovered).run.run kernel w choices = (some (result, rest), later)) :
    Own later := by
  obtain ⟨more, rows, stored⟩ := Calls.grown (calls_attempt r recovered) ran
  intro entry member
  rw [rows] at member
  rcases List.mem_append.mp member with old | new
  · exact own entry old
  · obtain ⟨written, sequence, now, shape, same⟩ := (stored entry new).recorded
    exact ⟨written, sequence, now, shape.mono fun _ _ => trivial, same⟩

theorem Own.committed_later {r : OperationRequest} {w last : World} {receipt : OperationReceipt}
    (own : Own last) (grown : w.journal.entries <+: last.journal.entries)
    (committed : committedIn r w.journal.entries = some receipt) :
    committedIn r last.journal.entries = some receipt :=
  committedIn_later committed grown fun entry member => (own entry member).keyedCommit

/-- A replay of a committed operation returns the trace of the attempt that committed it
exactly if that attempt found the schedule key of the operation free, or on a row with
its own trace. The attempts before and after it, the crashes and restarts, and the
other calls in between are any. -/
theorem replayed_trace_iff (uuids : UuidSource) (clock : Int) {w : World}
    (served : Relation.ReflTransGen Serves (.boot uuids clock) w) (q : OperationRequest)
    (recovered : Bool) {choices rest : List Choice} {execution : RuntimeExecution} {later : World}
    (returned : (attempt q recovered).run.run kernel w choices =
      (some (.ok execution, rest), later))
    (uncommitted : committedIn q w.journal.entries = none)
    (committed : committedIn q later.journal.entries ≠ none) {last : World}
    (after : Relation.ReflTransGen Serves later last) (r : OperationRequest)
    (workload : r.workloadId = q.workloadId) (operation : r.operationId = q.operationId)
    {choices' rest' : List Choice} {replayed : RuntimeExecution} {final : World}
    (replays : (execute r).run.run kernel last choices' = (some (.ok replayed, rest'), final)) :
    replayed.decisionTrace = execution.decisionTrace ↔ Attributable q w := by
  have own : Own later := ((own_boot uuids clock).served served).attempt returned
  have ownLast : Own last := own.served after
  have same : SameIds q r := ⟨workload, operation⟩
  rcases attempt_returned returned with ⟨early, -⟩ | ⟨-, traced, scheduled⟩
  · rw [uncommitted] at early
    cases early
  obtain ⟨receipt, found⟩ := Option.ne_none_iff_exists'.mp committed
  have still := ownLast.committed_later (served_extends after) found
  rcases attempt_returned replays with ⟨-, told⟩ | ⟨absent, -⟩
  · rw [told, traced, operation]
    exact traced_iff ownLast scheduled (served_extends after)
  · rw [same.committedIn, still] at absent
    cases absent

/-- Operation-1 for workload-1 by this backend. -/
def requestBy (backend : String) : OperationRequest :=
  { sampleRequest "operation-1" "workload-1" "revision-1" .idempotent with backend := backend }

/-- A kernel on which an attempt by this backend has failed. -/
def failedBy (backend : String) : World :=
  booted sampleUuids 0 [(.execute (requestBy backend), List.replicate 40 failing)]

/-- An attempt by another backend, whose provider answers. -/
def committedBy (failed backend : String) :
    Option (Except KernelError RuntimeExecution × List Choice) × World :=
  (attempt (requestBy backend) false).run.run kernel (failedBy failed)
    (List.replicate 40 (answering (sampleReceipt "operation-1" "result")))

/-- The operation once more. -/
def replayedBy (failed backend : String) :
    Option (Except KernelError RuntimeExecution × List Choice) × World :=
  (execute (requestBy backend)).run.run kernel (committedBy failed backend).2
    (List.replicate 40 failing)

/-- A retry with the same backend. -/
theorem replayed_trace_retry :
    ∃ execution rest later replayed rest' final,
      committedBy "backend-1" "backend-1" = (some (.ok execution, rest), later) ∧
      replayedBy "backend-1" "backend-1" = (some (.ok replayed, rest'), final) ∧
        (replayed.decisionTrace = execution.decisionTrace ↔
          Attributable (requestBy "backend-1") (failedBy "backend-1")) := by
  have commits : (committedBy "backend-1" "backend-1").1.map (fun result => result.1.isOk) =
      some true := by decide +kernel
  have replays : (replayedBy "backend-1" "backend-1").1.map (fun result => result.1.isOk) =
      some true := by decide +kernel
  obtain ⟨execution, rest, later, first⟩ := returned_ok commits
  obtain ⟨replayed, rest', final, second⟩ := returned_ok replays
  have committed : committedIn (requestBy "backend-1")
      (committedBy "backend-1" "backend-1").2.journal.entries ≠ none := by decide +kernel
  have last : (committedBy "backend-1" "backend-1").2 = later := congrArg Prod.snd first
  rw [last] at committed
  refine ⟨execution, rest, later, replayed, rest', final, first, second, ?_⟩
  rw [replayedBy, last] at second
  exact replayed_trace_iff sampleUuids 0 (booted_serves _ _ _) (requestBy "backend-1") false first
    (by decide +kernel) committed .refl (requestBy "backend-1") rfl rfl second

/-- A failover: the replay names the backend that failed. -/
theorem replayed_trace_differs :
    ¬ ∀ (uuids : UuidSource) (clock : Int) (w : World),
      Relation.ReflTransGen Serves (.boot uuids clock) w →
      ∀ (q : OperationRequest) (recovered : Bool) (choices rest : List Choice)
        (execution : RuntimeExecution) (later : World),
        (attempt q recovered).run.run kernel w choices = (some (.ok execution, rest), later) →
        committedIn q w.journal.entries = none → committedIn q later.journal.entries ≠ none →
        ∀ last, Relation.ReflTransGen Serves later last →
        ∀ (r : OperationRequest), r.workloadId = q.workloadId → r.operationId = q.operationId →
        ∀ (choices' rest' : List Choice) (replayed : RuntimeExecution) (final : World),
          (execute r).run.run kernel last choices' = (some (.ok replayed, rest'), final) →
            replayed.decisionTrace = execution.decisionTrace := by
  intro retraces
  have commits : (committedBy "backend-1" "backend-2").1.map (fun result => result.1.isOk) =
      some true := by decide +kernel
  have replays : (replayedBy "backend-1" "backend-2").1.map (fun result => result.1.isOk) =
      some true := by decide +kernel
  obtain ⟨execution, rest, later, first⟩ := returned_ok commits
  obtain ⟨replayed, rest', final, second⟩ := returned_ok replays
  have committed : committedIn (requestBy "backend-2")
      (committedBy "backend-1" "backend-2").2.journal.entries ≠ none := by decide +kernel
  have providers : ((replayedBy "backend-1" "backend-2").1.map fun result =>
        result.1.toOption.map (·.decisionTrace.selectedProvider)) ≠
      ((committedBy "backend-1" "backend-2").1.map fun result =>
        result.1.toOption.map (·.decisionTrace.selectedProvider)) := by decide +kernel
  have last : (committedBy "backend-1" "backend-2").2 = later := congrArg Prod.snd first
  rw [first, second] at providers
  rw [last] at committed
  rw [replayedBy, last] at second
  have same := retraces sampleUuids 0 _ (booted_serves _ _ _) (requestBy "backend-2") false _ rest
    execution later first (by decide +kernel) committed later .refl (requestBy "backend-2") rfl rfl _
    rest' replayed final second
  exact providers (by simp [Except.toOption, same])

end NousKernel
