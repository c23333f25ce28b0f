import NousKernel.Session

/-!
What an acknowledged result and a journaled receipt are worth: an operation is
committed at most once, a receipt ends its provider calls, a commit is replayed,
and an acknowledged result is committed exactly when its commit key was free.
-/

set_option autoImplicit false

namespace NousKernel

open Resumption Resumption.Discipline

section Rows

variable {Input : OperationRequest → Prop} {entry : Entry}

/-- A step commit of the runtime carries the commit key of its operation. -/
theorem Recorded.stepCommit (recorded : Recorded Input entry)
    (kind : entry.objectType = "StepCommit") :
    ∃ r receipt, Input r ∧ entry.workloadId = r.workloadId ∧ entry.objectId = r.operationId ∧
      entry.entryType = .commit ∧ entry.payload = .receipt receipt ∧
        entry.idempotencyKey = some (commitKey entry.objectId) := by
  obtain ⟨written, sequence, now, shape, rfl⟩ := recorded
  cases shape with
  | commit r receipt known => exact ⟨r, receipt, known, rfl, rfl, rfl, rfl, rfl⟩
  | _ => simp [entryOf, profileEntry] at kind

theorem Recorded.operationReceipt (recorded : Recorded Input entry)
    (kind : entry.objectType = "OperationReceipt") :
    ∃ r receipt, Input r ∧ entry.workloadId = r.workloadId ∧ entry.objectId = r.operationId ∧
      entry.entryType = .observation ∧ entry.payload = .receipt receipt ∧
        entry.idempotencyKey = some (receiptKey entry.objectId) := by
  obtain ⟨written, sequence, now, shape, rfl⟩ := recorded
  cases shape with
  | receipt r receipt known => exact ⟨r, receipt, known, rfl, rfl, rfl, rfl, rfl⟩
  | _ => simp [entryOf, profileEntry] at kind

/-- A journaled receipt is found by the lookup. -/
theorem receivedIn_ne_none {entries : List Entry} {r : OperationRequest}
    (recorded : ∀ row ∈ entries, Recorded Input row) (member : entry ∈ entries)
    (kind : entry.objectType = "OperationReceipt") (workload : entry.workloadId = r.workloadId)
    (operation : entry.objectId = r.operationId) : receivedIn r entries ≠ none := by
  induction entries using List.reverseRecOn with
  | nil => cases member
  | append_singleton entries last ih =>
      rw [receivedIn_snoc]
      split
      · rename_i found
        obtain ⟨-, receipt, -, -, -, -, carried, -⟩ :=
          (recorded last (by simp)).operationReceipt found.2.2.1
        simp [carried, Payload.receipt?]
      · rename_i other
        rcases List.mem_append.mp member with old | same
        · exact ih (fun row inside => recorded row (List.mem_append_left _ inside)) old
        · rw [List.mem_singleton] at same
          subst same
          obtain ⟨-, -, -, -, -, observed, -, -⟩ :=
            (recorded entry (by simp)).operationReceipt kind
          exact absurd ⟨workload, observed, kind, operation⟩ other

/-- A step commit is a commit under the commit key of its operation. -/
def KeyedCommit (entry : Entry) : Prop :=
  entry.objectType = "StepCommit" →
    entry.entryType = .commit ∧ entry.idempotencyKey = some (commitKey entry.objectId)

theorem Recorded.keyedCommit (recorded : Recorded Input entry) : KeyedCommit entry := by
  intro kind
  obtain ⟨-, -, -, -, -, committed, -, keyed⟩ := recorded.stepCommit kind
  exact ⟨committed, keyed⟩

/-- The lookup returns the one step commit there is. -/
theorem committedIn_eq {entries : List Entry} {r : OperationRequest} {receipt : OperationReceipt}
    (formed : ∀ row ∈ entries, KeyedCommit row) (unique : (keysOf entries).Nodup)
    (member : entry ∈ entries) (kind : entry.objectType = "StepCommit")
    (workload : entry.workloadId = r.workloadId) (operation : entry.objectId = r.operationId)
    (carried : entry.payload = .receipt receipt) : committedIn r entries = some receipt := by
  induction entries using List.reverseRecOn with
  | nil => cases member
  | append_singleton entries last ih =>
      obtain ⟨committed, keyed⟩ := formed entry member kind
      rw [committedIn_snoc]
      split
      · rename_i found
        have lastKey : last.idempotencyKey = some (commitKey entry.objectId) := by
          rw [(formed last (by simp) found.2.2.1).2, found.2.2.2, operation]
        rw [keyed_unique unique (by simp) member lastKey keyed, carried]
        rfl
      · rename_i other
        rcases List.mem_append.mp member with old | same
        · exact ih (fun row inside => formed row (List.mem_append_left _ inside))
            (by rw [keysOf_append, List.nodup_append] at unique; exact unique.1) old
        · rw [List.mem_singleton] at same
          subst same
          exact absurd ⟨workload, committed, kind, operation⟩ other

end Rows

/-- A step commit of one operation. -/
def isStepCommit (operationId : String) (entry : Entry) : Bool :=
  entry.entryType = .commit && entry.objectType = "StepCommit" && entry.objectId = operationId

/-- A journal of the runtime's entries commits each operation at most once. -/
theorem stepCommit_once (j : Journal Payload) (formed : ∀ entry ∈ j.entries, KeyedCommit entry)
    (operationId : String) : (j.entries.filter (isStepCommit operationId)).length ≤ 1 := by
  have keyed : ∀ entry ∈ j.entries.filter (isStepCommit operationId),
      entry.idempotencyKey = some (commitKey operationId) := by
    intro entry member
    obtain ⟨inside, kind⟩ := List.mem_filter.mp member
    simp only [isStepCommit, Bool.and_eq_true, decide_eq_true_eq] at kind
    rw [(formed entry inside kind.1.2).2, kind.2]
  have keys : keysOf (j.entries.filter (isStepCommit operationId)) =
      List.replicate (j.entries.filter (isStepCommit operationId)).length
        (commitKey operationId) := by
    rw [keysOf, List.filterMap_congr (g := fun _ => some (commitKey operationId)) keyed]
    simp [← List.map_const']
  have unique : (keysOf (j.entries.filter (isStepCommit operationId))).Nodup :=
    j.unique.sublist (List.filter_sublist.filterMap _)
  rw [keys, List.nodup_replicate] at unique
  exact unique

section Runs

variable {Input : OperationRequest → Prop} {w : World}

theorem Sound.recorded (valid : Sound Input [] w) :
    ∀ entry ∈ w.journal.entries, Recorded Input entry := by
  rw [valid.linked]
  exact valid.lawful.recorded

theorem Sound.one_commit (valid : Sound Input [] w) (operationId : String) :
    (w.journal.entries.filter (isStepCommit operationId)).length ≤ 1 :=
  stepCommit_once w.journal (fun entry member => (valid.recorded entry member).keyedCommit)
    operationId

theorem Sound.no_invocation_after_receipt (valid : Sound Input [] w)
    {before after : List Event} {r : OperationRequest} {entry : Entry}
    (split : w.history = before ++ .invoked r :: after) (journaled : .appended entry ∈ before)
    (kind : entry.objectType = "OperationReceipt") (workload : entry.workloadId = r.workloadId) :
    entry.objectId ≠ r.operationId := by
  intro operation
  obtain ⟨lawful, -, invokes⟩ := (split ▸ valid.lawful).law_at
  exact receivedIn_ne_none lawful.recorded (mem_entriesOf.mpr journaled) kind workload operation
    invokes.unreceived

end Runs

/-! ### One attempt from any linked world -/

/-- The history of a world is that of its journal. -/
def Linked (w : World) : Prop := w.journal.entries = entriesOf w.history

/-- The environment that follows a strategy. -/
def Picks (pick : Call → World → Choice) (call : Call) (w : World) (choice : Choice) : Prop :=
  choice = pick call w

/-- An attempt under a strategy runs to its end. -/
theorem attempt_runWith (Input : OperationRequest → Prop) {w : World} (r : OperationRequest)
    (pick : Call → World → Choice) (recovered : Bool) (known : Input r) (linked : Linked w) :
    Sound Input w.history ((attempt r recovered).run.runWith kernel pick w).2 ∧
      Restored w ((attempt r recovered).run.runWith kernel pick w).2 ∧
      (committedIn r w.journal.entries ≠ none →
        ((attempt r recovered).run.runWith kernel pick w).2.journal = w.journal) ∧
      Concluded (Picks pick) r w ((attempt r recovered).run.runWith kernel pick w).1
        ((attempt r recovered).run.runWith kernel pick w).2 := by
  have safe : (sequential Input w.history (Picks pick)).Safe _ (attempt r recovered).run w :=
    safe_attempt known
  obtain ⟨valid, -, restored, replay, concluded⟩ :=
    Safe.runWith (d := sequential Input w.history (Picks pick)) (fun _ => rfl)
      (fun _ _ => rfl) ⟨linked, .start⟩ safe
  exact ⟨valid, restored, replay, concluded⟩

/-- A committed operation is answered from the journal, which stays as it is. -/
theorem execute_replays {w : World} {r : OperationRequest} {receipt : OperationReceipt}
    {pick : Call → World → Choice} (linked : Linked w)
    (committed : committedIn r w.journal.entries = some receipt)
    (references : r.validateSensitiveReferences = .ok ()) (running : w.state ≠ .shuttingDown)
    (reliable : ∀ call v, (pick call v).storage = none) :
    ∃ execution, ((execute r).run.runWith kernel pick w).1 = .ok execution ∧
      execution.receipt = receipt ∧
      ((execute r).run.runWith kernel pick w).2.journal = w.journal := by
  have storage : Reliable (Picks pick) := by
    rintro call v choice rfl
    exact reliable call v
  have found : (ledgerIn r w.journal.entries).committed = some receipt := committed
  obtain ⟨-, -, replay, concluded⟩ :=
    attempt_runWith (fun _ => True) r pick false trivial linked
  unfold execute
  cases ending : ((attempt r false).run.runWith kernel pick w).1 with
  | ok execution =>
      refine ⟨execution, rfl, ?_, replay (by simp [committed])⟩
      rw [ending] at concluded
      rcases concluded.ok with ⟨same, -⟩ | ⟨uncommitted, -⟩ | ⟨uncommitted, -⟩
      · exact Option.some.inj (same.symm.trans found)
      · simp [found] at uncommitted
      · simp [found] at uncommitted
  | error error =>
      rw [ending] at concluded
      rcases concluded with broken | ⟨-, rejected⟩ | ⟨reason, l', -, executed⟩
      · exact absurd storage broken
      · rcases rejected (.inr (by simp [committed])) with refused | stopping
        · exact absurd references refused
        · exact absurd stopping running
      · have uncommitted := executed.uncommitted storage
        simp [found] at uncommitted

/-- Commit at most once, no provider call past a receipt, and replay of a commit,
in every session. -/
theorem committed_once_and_replayed (uuids : UuidSource) (clock : Int)
    (steps : List (Command × List Choice)) :
    (∀ operationId, ((booted uuids clock steps).journal.entries.filter
      (isStepCommit operationId)).length ≤ 1) ∧
    (∀ before r after entry, (booted uuids clock steps).history = before ++ .invoked r :: after →
      .appended entry ∈ before → entry.objectType = "OperationReceipt" →
      entry.workloadId = r.workloadId → entry.objectId ≠ r.operationId) ∧
    (∀ r entry pick, entry ∈ (booted uuids clock steps).journal.entries →
      entry.objectType = "StepCommit" → entry.workloadId = r.workloadId →
      entry.objectId = r.operationId → r.validateSensitiveReferences = .ok () →
      (booted uuids clock steps).state ≠ .shuttingDown →
      (∀ call v, (pick call v).storage = none) →
      ∃ execution,
        ((execute r).run.runWith kernel pick (booted uuids clock steps)).1 = .ok execution ∧
        entry.payload = .receipt execution.receipt ∧
        ((execute r).run.runWith kernel pick (booted uuids clock steps)).2.journal =
          (booted uuids clock steps).journal) := by
  have valid : Sound (fun _ => True) [] (booted uuids clock steps) :=
    booted_sound uuids clock steps fun _ _ _ _ => trivial
  refine ⟨valid.one_commit, ?_, ?_⟩
  · intro before r after entry split journaled kind workload
    exact valid.no_invocation_after_receipt split journaled kind workload
  · intro r entry pick member kind workload operation references running reliable
    obtain ⟨-, receipt, -, -, -, -, carried, -⟩ := (valid.recorded entry member).stepCommit kind
    have formed : ∀ row ∈ (booted uuids clock steps).journal.entries, KeyedCommit row :=
      fun row inside => (valid.recorded row inside).keyedCommit
    have committed := committedIn_eq formed (booted uuids clock steps).journal.unique member kind
      workload operation carried
    obtain ⟨execution, returned, same, kept⟩ :=
      execute_replays valid.linked committed references running reliable
    exact ⟨execution, returned, same ▸ carried, kept⟩

/-- A second submission of a committed operation, under an environment that
answers differently. -/
theorem committed_once_and_replayed_sample :
    ∃ execution,
      ((execute (sampleRequest "operation-1" "workload-1" "revision-1" .idempotent)).run.runWith
        kernel (fun _ _ => answering (sampleReceipt "operation-1" "second"))
        (booted sampleUuids 0
          [(.execute (sampleRequest "operation-1" "workload-1" "revision-1" .idempotent),
            List.replicate 30 (answering (sampleReceipt "operation-1" "first")))])).1 =
              .ok execution := by
  have journaled : ∃ entry ∈ (booted sampleUuids 0
      [(.execute (sampleRequest "operation-1" "workload-1" "revision-1" .idempotent),
        List.replicate 30 (answering (sampleReceipt "operation-1" "first")))]).journal.entries,
      entry.objectType = "StepCommit" ∧ entry.workloadId = "workload-1" ∧
        entry.objectId = "operation-1" := by
    decide +kernel
  obtain ⟨entry, member, kind, workload, operation⟩ := journaled
  obtain ⟨-, -, replay⟩ := committed_once_and_replayed sampleUuids 0
    [(.execute (sampleRequest "operation-1" "workload-1" "revision-1" .idempotent),
      List.replicate 30 (answering (sampleReceipt "operation-1" "first")))]
  obtain ⟨execution, returned, -⟩ := replay
    (sampleRequest "operation-1" "workload-1" "revision-1" .idempotent) entry
    (fun _ _ => answering (sampleReceipt "operation-1" "second")) member kind workload operation
    (by decide +kernel) (by decide +kernel) (fun _ _ => rfl)
  exact ⟨execution, returned⟩

/-! ### Acknowledged results -/

/-- The worlds of a kernel whatever is done to it, by any number of tasks and in
any order. -/
inductive Reached : World → Prop
  | boot (uuids : UuidSource) (clock : Int) : Reached (.boot uuids clock)
  | call {w : World} (reached : Reached w) (call : Call) (choice : Choice) :
      Reached (kernelAnswer call w choice).2
  | restart {w : World} (reached : Reached w) : Reached w.restart

theorem linked_append {w : World} (linked : Linked w) (entry : Entry)
    (storage : Option NousError) : Linked (w.append entry storage).2 := by
  cases storage with
  | some error => simpa [Linked, World.append, World.record, entriesOf] using linked
  | none =>
      cases found : w.journal.absorber entry with
      | some sequence =>
          simpa [Linked, World.append, World.record, found, entriesOf,
            Journal.append_absorbed w.clock found] using linked
      | none =>
          simp [Linked, World.append, World.record, found, linked.symm,
            Journal.append_inserted w.clock found]

/-- Every call keeps the history and the journal together. -/
theorem linked_answer {w : World} (linked : Linked w) (call : Call) (choice : Choice) :
    Linked (kernelAnswer call w choice).2 := by
  cases call with
  | append entry => exact linked_append (w := w.tick choice.elapsed) linked entry choice.storage
  | grantFenced workloadId principalId resources nodeId deviceId renewable =>
      simp only [kernelAnswer, World.grantFenced]
      split
      · simpa [Linked, World.record, World.tick, entriesOf] using linked
      · exact linked
  | _ => simpa [Linked, kernelAnswer, World.record, World.tick, entriesOf] using linked

theorem Reached.linked {w : World} (reached : Reached w) : Linked w := by
  induction reached with
  | boot uuids clock => rfl
  | call reached call choice ih => exact linked_answer ih call choice
  | restart reached ih => simpa [Linked, World.restart, entriesOf] using ih

theorem Reached.run {w : World} {α : Type} (reached : Reached w) (task : Task α)
    (choices : List Choice) : Reached (task.run kernel w choices).2 := by
  induction task generalizing w choices with
  | done value => exact reached
  | call call next ih =>
      cases choices with
      | nil => exact reached
      | cons choice choices => exact ih _ (reached.call call choice) choices

@[simp] theorem Ledger.intend_commitUsed (l : Ledger) (r : OperationRequest) :
    (l.intend r).commitUsed = l.commitUsed := by
  unfold Ledger.intend
  split <;> rfl

@[simp] theorem Ledger.receive_commitUsed (l : Ledger) (receipt : OperationReceipt) :
    (l.receive receipt).commitUsed = l.commitUsed := by
  unfold Ledger.receive
  split <;> rfl

@[simp] theorem Ledger.receive_committed (l : Ledger) (receipt : OperationReceipt) :
    (l.receive receipt).committed = l.committed := by
  unfold Ledger.receive
  split <;> rfl

/-- A move to the committed state succeeds exactly if the key was free. -/
theorem Ledger.commit_committed {l : Ledger} {receipt : OperationReceipt}
    (uncommitted : l.committed = none) :
    (l.commit receipt).committed = some receipt ↔ l.commitUsed = false := by
  unfold Ledger.commit
  split
  · rename_i used
    simp [uncommitted, used]
  · rename_i unused
    simpa using unused

/-- An acknowledged result is committed exactly if the pair was committed before
or no entry had the commit key of its operation. -/
theorem acknowledged_committed_iff {w : World} (reached : Reached w) (r : OperationRequest)
    (choices : List Choice) (reliable : ∀ choice ∈ choices, choice.storage = none)
    (execution : RuntimeExecution) (rest : List Choice) (later : World)
    (returned : (execute r).run.run kernel w choices = (some (.ok execution, rest), later)) :
    committedIn r later.journal.entries = some execution.receipt ↔
      committedIn r w.journal.entries ≠ none ∨ commitKey r.operationId ∉ w.journal.keys := by
  have safe : (sequential (fun _ => True) w.history
      (fun _ _ choice => choice.storage = none)).Safe _ (attempt r false).run w :=
    safe_attempt trivial
  obtain ⟨-, -, ending⟩ := Safe.run (d := sequential _ w.history _) (fun _ => rfl) choices
    (fun _ _ choice member => reliable choice member) ⟨reached.linked, .start⟩ safe
  obtain ⟨-, -, concluded⟩ := ending (.ok execution) rest (congrArg Prod.fst returned)
  change Concluded _ r w _ ((execute r).run.run kernel w choices).2 at concluded
  rw [returned] at concluded
  have after : committedIn r later.journal.entries =
      (ledgerIn r later.journal.entries).committed := rfl
  have before : committedIn r w.journal.entries =
      (ledgerIn r w.journal.entries).committed := rfl
  have unused : commitKey r.operationId ∉ w.journal.keys ↔
      (ledgerIn r w.journal.entries).commitUsed = false := by
    simp [ledgerIn, Journal.keys]
  rw [after, before, unused]
  rcases concluded.ok with ⟨committed, same⟩ | ⟨uncommitted, received, moved⟩ |
    ⟨uncommitted, unreceived, answers, moved⟩
  · simp [same, committed]
  · rw [moved, Ledger.commit_committed (by simpa using uncommitted)]
    simp [uncommitted]
  · rw [moved, Ledger.commit_committed (by simpa using uncommitted)]
    simp [uncommitted]

/-- A run that returned a result. -/
theorem returned_ok {ending : Option (Except KernelError RuntimeExecution × List Choice) × World}
    (acknowledged : ending.1.map (fun result => result.1.isOk) = some true) :
    ∃ execution rest later, ending = (some (.ok execution, rest), later) := by
  obtain ⟨_ | ⟨error | execution, rest⟩, later⟩ := ending
  · simp at acknowledged
  · simp [Except.isOk, Except.toBool] at acknowledged
  · exact ⟨execution, rest, later, rfl⟩

/-- Operation-1 for workload-1, on a new journal. -/
def firstSubmission : Option (Except KernelError RuntimeExecution × List Choice) × World :=
  (execute (sampleRequest "operation-1" "workload-1" "revision-1" .idempotent)).run.run kernel
    (.boot sampleUuids 0) (List.replicate 30 (answering (sampleReceipt "operation-1" "first")))

/-- Operation-1 again, for workload-2. -/
def secondSubmission : Option (Except KernelError RuntimeExecution × List Choice) × World :=
  (execute (sampleRequest "operation-1" "workload-2" "revision-1" .idempotent)).run.run kernel
    firstSubmission.2 (List.replicate 30 (answering (sampleReceipt "operation-1" "second")))

/-- The first execution of an operation, whose commit key is free. -/
theorem acknowledged_committed_first :
    ∃ execution rest later, firstSubmission = (some (.ok execution, rest), later) ∧
      committedIn (sampleRequest "operation-1" "workload-1" "revision-1" .idempotent)
        later.journal.entries = some execution.receipt := by
  have acknowledged : firstSubmission.1.map (fun result => result.1.isOk) = some true := by
    decide +kernel
  obtain ⟨execution, rest, later, ending⟩ := returned_ok acknowledged
  have committed := (acknowledged_committed_iff (.boot _ _)
    (sampleRequest "operation-1" "workload-1" "revision-1" .idempotent)
    (List.replicate 30 (answering (sampleReceipt "operation-1" "first"))) (by simp [answering])
    execution rest later ending).mpr (.inr (by decide))
  exact ⟨execution, rest, later, ending, committed⟩

/-- One operation id used with two workloads: the second execution is
acknowledged, and its commit is absorbed by the first one's. -/
theorem acknowledged_without_commit :
    ¬ ∀ w, Reached w → ∀ (r : OperationRequest) (choices : List Choice),
      (∀ choice ∈ choices, choice.storage = none) →
      ∀ execution rest later,
        (execute r).run.run kernel w choices = (some (.ok execution, rest), later) →
          committedIn r later.journal.entries = some execution.receipt := by
  intro acknowledges
  have acknowledged : secondSubmission.1.map (fun result => result.1.isOk) = some true := by
    decide +kernel
  have uncommitted : committedIn (sampleRequest "operation-1" "workload-2" "revision-1" .idempotent)
      secondSubmission.2.journal.entries = none := by
    decide +kernel
  obtain ⟨execution, rest, later, ending⟩ := returned_ok acknowledged
  have committed := acknowledges firstSubmission.2 (.run (.boot _ _) _ _)
    (sampleRequest "operation-1" "workload-2" "revision-1" .idempotent)
    (List.replicate 30 (answering (sampleReceipt "operation-1" "second"))) (by simp [answering])
    execution rest later ending
  rw [ending] at uncommitted
  rw [uncommitted] at committed
  cases committed

end NousKernel
