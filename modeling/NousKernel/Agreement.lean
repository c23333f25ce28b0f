import NousKernel.Commitment
import NousKernel.Footprint
import NousKernel.Interleaving

/-!
Concurrent submissions of one request. The calls agree on the receipt unless a
call's own receipt was absorbed by a different one that another call had
journaled before it.
-/

set_option autoImplicit false

namespace NousKernel

open Resumption Resumption.Discipline Resumption.Prog

/-- A receipt of the operation was absorbed while the journal held a different
one. -/
def Discord (r : OperationRequest) (history : List Event) : Prop :=
  ∃ before entry after, history = before ++ .absorbed entry :: after ∧
    entry.objectType = "OperationReceipt" ∧ entry.workloadId = r.workloadId ∧
      entry.objectId = r.operationId ∧ entry.payload.receipt? ≠ receivedIn r (entriesOf before)

theorem Discord.grow {r : OperationRequest} {history : List Event} (discord : Discord r history)
    (more : List Event) : Discord r (history ++ more) := by
  obtain ⟨before, entry, after, rfl, shape⟩ := discord
  exact ⟨before, entry, after ++ more, by simp, shape⟩

/-- The keys of the receipt and the commit are used by the operation's own
entries, and only by them. -/
structure Keyed (r : OperationRequest) (entries : List Entry) : Prop where
  receipt : receiptKey r.operationId ∈ keysOf entries ↔ receivedIn r entries ≠ none
  commit : commitKey r.operationId ∈ keysOf entries ↔ committedIn r entries ≠ none

/-- A world in which submissions of `r` agree. -/
structure Agreed (r : OperationRequest) (w : World) : Prop where
  linked : Linked w
  recorded : ∀ entry ∈ w.journal.entries, Recorded (fun _ => True) entry
  keyed : Keyed r w.journal.entries
  same : Discord r w.history ∨ ∀ receipt, committedIn r w.journal.entries = some receipt →
    receivedIn r w.journal.entries = some receipt

/-- What no submission undoes. -/
structure Kept (r : OperationRequest) (w later : World) : Prop where
  discord : Discord r w.history → Discord r later.history
  received : ∀ receipt, receivedIn r w.journal.entries = some receipt →
    receivedIn r later.journal.entries = some receipt
  committed : ∀ receipt, committedIn r w.journal.entries = some receipt →
    committedIn r later.journal.entries = some receipt

/-- Any number of submissions of `r`. -/
def submissions (r : OperationRequest) : Company Call Answer World Choice where
  machine := kernel
  inv := Agreed r
  allow _ _ _ := True
  rely _ := Kept r
  guar _ := Kept r

section Agreement

variable {r : OperationRequest} {w : World} {index : Nat} {α : Type}

theorem Kept.refl (w : World) : Kept r w w := ⟨id, fun _ => id, fun _ => id⟩

theorem Kept.trans {a b c : World} (first : Kept r a b) (second : Kept r b c) : Kept r a c where
  discord := fun discord => second.discord (first.discord discord)
  received := fun receipt found => second.received receipt (first.received receipt found)
  committed := fun receipt found => second.committed receipt (first.committed receipt found)

theorem submissions_tolerant : (submissions r).Tolerant where
  quiet _ := ⟨Kept.refl, Kept.trans⟩
  apart _ _ _ _ _ kept := kept

/-! ### The moves -/

/-- A step that leaves the journal alone. -/
theorem Agreed.still {later : World} {more : List Event} (valid : Agreed r w)
    (linked : Linked later) (same : later.journal = w.journal)
    (grown : later.history = w.history ++ more) : Agreed r later ∧ Kept r w later := by
  refine ⟨⟨linked, ?_, ?_, ?_⟩, ?_, ?_, ?_⟩
  · rw [same]
    exact valid.recorded
  · rw [same]
    exact valid.keyed
  · rw [same, grown]
    exact valid.same.imp_left (·.grow more)
  · rw [grown]
    exact (·.grow more)
  · rw [same]
    exact fun _ => id
  · rw [same]
    exact fun _ => id

theorem Agreed.stored {later : World} {entry : Entry} {kind : RowKind} {sequence : Nat} {now : Int}
    (valid : Agreed r w) (row : Row r kind entry)
    (longer : later.journal.entries = w.journal.entries ++ [Journal.stamp sequence now entry]) :
    ∀ stored ∈ later.journal.entries, Recorded (fun _ => True) stored := by
  rw [longer]
  intro stored member
  rcases List.mem_append.mp member with old | last
  · exact valid.recorded stored old
  · rw [List.mem_singleton.mp last]
    exact ⟨entry, _, _, row.written.mono fun _ _ => trivial, rfl⟩

/-- A row that is neither a receipt nor a commit. -/
theorem Agreed.plain {entry : Entry} {kind : RowKind} (valid : Agreed r w) (choice : Choice)
    (row : Row r kind entry) (plain : Plain kind) :
    Agreed r (kernelAnswer (.append entry) w choice).2 ∧
      Kept r w (kernelAnswer (.append entry) w choice).2 := by
  obtain ⟨notReceipt, notCommit, key, keyed, otherReceipt, otherCommit⟩ := row.plain plain
  have linked := linked_answer valid.linked (.append entry) choice
  rcases answer_append_cases (w := w) entry choice keyed with
    ⟨same, ⟨grown, -⟩ | ⟨grown, -⟩⟩ | ⟨-, sequence, now, longer, grown⟩
  · exact valid.still linked same grown
  · exact valid.still linked same grown
  · have received : receivedIn r (kernelAnswer (.append entry) w choice).2.journal.entries =
        receivedIn r w.journal.entries := by
      rw [longer, receivedIn_snoc]
      exact if_neg fun found => notReceipt found.2.2.1
    have committed : committedIn r (kernelAnswer (.append entry) w choice).2.journal.entries =
        committedIn r w.journal.entries := by
      rw [longer, committedIn_snoc]
      exact if_neg fun found => notCommit found.2.2.1
    have keys : keysOf (kernelAnswer (.append entry) w choice).2.journal.entries =
        keysOf w.journal.entries ++ [key] := by
      rw [longer]
      exact keysOf_snoc _ _ key keyed
    refine ⟨⟨linked, valid.stored row longer, ?_, ?_⟩, ?_, ?_, ?_⟩
    · constructor
      · simpa [keys, received, otherReceipt.symm] using valid.keyed.receipt
      · simpa [keys, committed, otherCommit.symm] using valid.keyed.commit
    · rw [received, committed, grown]
      exact valid.same.imp_left (·.grow _)
    · rw [grown]
      exact (·.grow _)
    · rw [received]
      exact fun _ => id
    · rw [committed]
      exact fun _ => id

/-- A call that neither records a receipt nor commits. -/
theorem Agreed.answer {leases : Prop} {call : Call} (valid : Agreed r w) (choice : Choice)
    (acts : Acts r Plain leases call) :
    Agreed r (kernelAnswer call w choice).2 ∧ Kept r w (kernelAnswer call w choice).2 := by
  have silent : (∀ entry, call ≠ .append entry) →
      Agreed r (kernelAnswer call w choice).2 ∧ Kept r w (kernelAnswer call w choice).2 := by
    intro other
    obtain ⟨more, grown⟩ := answer_history (w := w) call choice
    exact valid.still (linked_answer valid.linked call choice) (answer_journal choice other) grown
  cases acts with
  | append kind entry row plain => exact valid.plain choice row plain
  | _ => exact silent (by simp)

/-- The receipt of a call: recorded, or absorbed by a different one. -/
theorem Agreed.receive {receipt : OperationReceipt} (valid : Agreed r w) (choice : Choice) :
    let entry := entryOf r .observation "OperationReceipt" "RECEIVED" (.receipt receipt)
      (receiptKey r.operationId)
    Agreed r (kernelAnswer (.append entry) w choice).2 ∧
      Kept r w (kernelAnswer (.append entry) w choice).2 ∧
      ((∃ error, (kernelAnswer (.append entry) w choice).1 = .error error) ∨
        Discord r (kernelAnswer (.append entry) w choice).2.history ∨
        receivedIn r (kernelAnswer (.append entry) w choice).2.journal.entries =
          some receipt) := by
  intro entry
  have row : Row r .receipt entry := .receipt receipt
  have linked := linked_answer valid.linked (.append entry) choice
  rcases answer_append_cases (w := w) entry choice rfl with
    ⟨same, ⟨grown, failed⟩ | ⟨grown, used⟩⟩ | ⟨unused, sequence, now, longer, grown⟩
  · obtain ⟨still, kept⟩ := valid.still linked same grown
    exact ⟨still, kept, .inl failed⟩
  · obtain ⟨still, kept⟩ := valid.still linked same grown
    refine ⟨still, kept, .inr ?_⟩
    by_cases own : receivedIn r w.journal.entries = some receipt
    · exact .inr (same ▸ own)
    · refine .inl ⟨w.history, entry, [], grown, rfl, rfl, rfl, ?_⟩
      rw [← show w.journal.entries = entriesOf w.history from valid.linked]
      exact fun equal => own equal.symm
  · have fresh : receivedIn r w.journal.entries = none := by
      by_contra found
      exact unused (valid.keyed.receipt.mpr found)
    have received : receivedIn r (kernelAnswer (.append entry) w choice).2.journal.entries =
        some receipt := by
      rw [longer, receivedIn_snoc]
      exact if_pos ⟨rfl, rfl, rfl, rfl⟩
    have committed : committedIn r (kernelAnswer (.append entry) w choice).2.journal.entries =
        committedIn r w.journal.entries := by
      rw [longer, committedIn_snoc]
      exact if_neg fun found => by simp [entry, entryOf] at found
    have keys : keysOf (kernelAnswer (.append entry) w choice).2.journal.entries =
        keysOf w.journal.entries ++ [receiptKey r.operationId] := by
      rw [longer]
      exact keysOf_snoc _ _ _ rfl
    obtain ⟨-, -, -, -, -, apart⟩ := moves_differ r.operationId ""
    refine ⟨⟨linked, valid.stored row longer, ⟨?_, ?_⟩, ?_⟩, ⟨?_, ?_, ?_⟩, .inr (.inr received)⟩
    · simp [keys, received]
    · simpa [keys, committed, apart.symm] using valid.keyed.commit
    · rw [received, committed, grown]
      refine valid.same.imp (·.grow _) fun agree other found => ?_
      rw [agree other found] at fresh
      cases fresh
    · rw [grown]
      exact (·.grow _)
    · rw [fresh]
      exact fun _ found => by cases found
    · rw [committed]
      exact fun _ => id

/-- The commit of a receipt that is the recorded one. -/
theorem Agreed.commit {receipt : OperationReceipt} (valid : Agreed r w) (choice : Choice)
    (own : Discord r w.history ∨ receivedIn r w.journal.entries = some receipt) :
    let entry := entryOf r .commit "StepCommit" "COMMITTED" (.receipt receipt)
      (commitKey r.operationId)
    Agreed r (kernelAnswer (.append entry) w choice).2 ∧
      Kept r w (kernelAnswer (.append entry) w choice).2 ∧
      ((∃ error, (kernelAnswer (.append entry) w choice).1 = .error error) ∨
        Discord r (kernelAnswer (.append entry) w choice).2.history ∨
        committedIn r (kernelAnswer (.append entry) w choice).2.journal.entries =
          some receipt) := by
  intro entry
  have row : Row r .commit entry := .commit receipt
  have linked := linked_answer valid.linked (.append entry) choice
  rcases answer_append_cases (w := w) entry choice rfl with
    ⟨same, ⟨grown, failed⟩ | ⟨grown, used⟩⟩ | ⟨unused, sequence, now, longer, grown⟩
  · obtain ⟨still, kept⟩ := valid.still linked same grown
    exact ⟨still, kept, .inl failed⟩
  · obtain ⟨still, kept⟩ := valid.still linked same grown
    refine ⟨still, kept, .inr ?_⟩
    -- The commit that absorbs this one agrees with the recorded receipt.
    obtain ⟨other, found⟩ := Option.ne_none_iff_exists'.mp (valid.keyed.commit.mp used)
    rcases own with discord | recorded
    · exact .inl (kept.discord discord)
    rcases valid.same with discord | agree
    · exact .inl (kept.discord discord)
    · rw [agree other found] at recorded
      exact .inr (by rw [same, found, recorded])
  · have fresh : committedIn r w.journal.entries = none := by
      by_contra found
      exact unused (valid.keyed.commit.mpr found)
    have received : receivedIn r (kernelAnswer (.append entry) w choice).2.journal.entries =
        receivedIn r w.journal.entries := by
      rw [longer, receivedIn_snoc]
      exact if_neg fun found => by simp [entry, entryOf] at found
    have committed : committedIn r (kernelAnswer (.append entry) w choice).2.journal.entries =
        some receipt := by
      rw [longer, committedIn_snoc]
      exact if_pos ⟨rfl, rfl, rfl, rfl⟩
    have keys : keysOf (kernelAnswer (.append entry) w choice).2.journal.entries =
        keysOf w.journal.entries ++ [commitKey r.operationId] := by
      rw [longer]
      exact keysOf_snoc _ _ _ rfl
    obtain ⟨-, -, -, -, -, apart⟩ := moves_differ r.operationId ""
    refine ⟨⟨linked, valid.stored row longer, ⟨?_, ?_⟩, ?_⟩, ⟨?_, ?_, ?_⟩, .inr (.inr committed)⟩
    · simpa [keys, received, apart] using valid.keyed.receipt
    · simp [keys, committed]
    · rw [received, committed, grown]
      refine own.imp (·.grow _) fun recorded other found => ?_
      cases found
      exact recorded
    · rw [grown]
      exact (·.grow _)
    · rw [received]
      exact fun _ => id
    · rw [fresh]
      exact fun _ found => by cases found

/-! ### The programs -/

/-- The receipt is the recorded one, or there was discord. -/
def IsReceived (r : OperationRequest) (receipt : OperationReceipt) (w : World) : Prop :=
  Discord r w.history ∨ receivedIn r w.journal.entries = some receipt

/-- The receipt is the committed one, or there was discord. -/
def IsCommitted (r : OperationRequest) (receipt : OperationReceipt) (w : World) : Prop :=
  Discord r w.history ∨ committedIn r w.journal.entries = some receipt

theorem IsReceived.kept {receipt : OperationReceipt} {later : World}
    (holds : IsReceived r receipt w) (kept : Kept r w later) : IsReceived r receipt later :=
  holds.imp kept.discord (kept.received receipt)

theorem IsCommitted.kept {receipt : OperationReceipt} {later : World}
    (holds : IsCommitted r receipt w) (kept : Kept r w later) : IsCommitted r receipt later :=
  holds.imp kept.discord (kept.committed receipt)

theorem submissions_quiet : ((submissions r).member index).Interference :=
  submissions_tolerant.quiet index

theorem agree_done {post : α → World → Prop} {value : α}
    (holds : ∀ later, Kept r w later → post value later) :
    ((submissions r).member index).Safe post (.done value) w :=
  fun later kept _ => holds later kept

theorem agree_perform {call : Call} {post : Answer call → World → Prop}
    (step : ∀ now choice, Kept r w now → Agreed r now →
      Agreed r (kernelAnswer call now choice).2 ∧ Kept r now (kernelAnswer call now choice).2 ∧
        ∀ later, Kept r (kernelAnswer call now choice).2 later →
          post (kernelAnswer call now choice).1 later) :
    ((submissions r).member index).Safe post (perform call) w := by
  intro now kept valid choice _
  obtain ⟨after, own, ending⟩ := step now choice kept valid
  exact ⟨after, own, agree_done ending⟩

/-- A part of the program that neither records a receipt nor commits. -/
theorem agree_calls {leases : Prop} {p : Task α} {post : α → Prop} (kept : World → Prop)
    (calls : p.Calls (Honest fun _ => True)
      (Acts r Plain leases) post)
    (stable : ∀ a b, kept a → Kept r a b → kept b) (holds : kept w) :
    ((submissions r).member index).Safe (fun value later => post value ∧ kept later) p w := by
  refine Safe.of_calls kept calls ?_ (fun a b held moved _ => stable a b held moved) holds
  intro call now choice acts held valid _
  obtain ⟨after, own⟩ := valid.answer choice acts
  exact ⟨honest_answer call now choice trivial, after, own, stable _ _ held own⟩

theorem agree_mapError {ε : Type} {convert : ε → KernelError} {task : Task (Except ε α)}
    {post : Except KernelError α → World → Prop}
    (safe : ((submissions r).member index).Safe (fun result later =>
      match result with
      | .ok value => ∀ last, Kept r later last → post (.ok value) last
      | .error error => ∀ last, Kept r later last → post (.error (convert error)) last) task w) :
    ((submissions r).member index).Safe post (mapError convert task).run w := by
  refine Safe.bind submissions_quiet (safe.mono ?_)
  intro result later _ holds
  cases result with
  | ok value => exact agree_done holds
  | error error => exact agree_done holds

/-- A read of the journal. -/
theorem agree_read {workloadId : String} {post : Except KernelError (List Entry) → World → Prop}
    (read : ∀ now later, Agreed r now → Kept r w now → Kept r now later →
      post (.ok (now.journal.readWorkload workloadId)) later)
    (fault : ∀ error later, post (.error error) later) :
    ((submissions r).member index).Safe post
      (journalError (Task.readWorkload workloadId)).run w := by
  refine agree_mapError (agree_perform fun now choice before valid => ?_)
  obtain ⟨after, own⟩ := valid.answer choice
    (show Acts r _ False (.readWorkload workloadId) from .readWorkload workloadId)
  refine ⟨after, own, fun later moved => ?_⟩
  cases failed : choice.storage with
  | some error =>
      simp only [kernelAnswer, failed, storageRead]
      exact fun last _ => fault _ last
  | none =>
      simp only [kernelAnswer, failed, storageRead, World.tick_journal]
      exact fun last further => read now last valid before (own.trans (moved.trans further))

theorem agree_committedReceipt {post : Except KernelError (Option OperationReceipt) → World → Prop}
    (found : ∀ receipt later, IsCommitted r receipt later → post (.ok (some receipt)) later)
    (absent : ∀ later, post (.ok none) later) (fault : ∀ error later, post (.error error) later) :
    ((submissions r).member index).Safe post (committedReceipt r).run w := by
  refine Safe.bindExcept submissions_quiet (agree_read ?_ fun error later => ?_)
  · intro now later _ _ moved
    refine agree_done fun last further => ?_
    cases lookup : committedIn r now.journal.entries with
    | none =>
        rw [show latestReceipt _ _ _ (now.journal.readWorkload _) = none from lookup]
        exact absent last
    | some receipt =>
        rw [show latestReceipt _ _ _ (now.journal.readWorkload _) = some receipt from lookup]
        exact found receipt last (.inr ((moved.trans further).committed receipt lookup))
  · exact agree_done fun last _ => fault error last

theorem agree_receivedReceipt {post : Except KernelError (Option OperationReceipt) → World → Prop}
    (found : ∀ receipt later, IsReceived r receipt later → post (.ok (some receipt)) later)
    (absent : ∀ later, post (.ok none) later) (fault : ∀ error later, post (.error error) later) :
    ((submissions r).member index).Safe post (receivedReceipt r).run w := by
  refine Safe.bindExcept submissions_quiet (agree_read ?_ fun error later => ?_)
  · intro now later _ _ moved
    refine agree_done fun last further => ?_
    cases lookup : receivedIn r now.journal.entries with
    | none =>
        rw [show latestReceipt _ _ _ (now.journal.readWorkload _) = none from lookup]
        exact absent last
    | some receipt =>
        rw [show latestReceipt _ _ _ (now.journal.readWorkload _) = some receipt from lookup]
        exact found receipt last (.inr ((moved.trans further).received receipt lookup))
  · exact agree_done fun last _ => fault error last

/-- The result of a program is a receipt that satisfies `holds`, or an error. -/
def Returns (holds : OperationReceipt → World → Prop) (result : Except KernelError OperationReceipt)
    (w : World) : Prop :=
  ∀ receipt, result = .ok receipt → holds receipt w

theorem Returns.error {holds : OperationReceipt → World → Prop} (error : KernelError) (w : World) :
    Returns holds (.error error) w := fun _ returned => by cases returned

theorem Returns.ok {holds : OperationReceipt → World → Prop} {receipt : OperationReceipt}
    (held : holds receipt w) : Returns holds (.ok receipt) w := by
  intro other returned
  cases returned
  exact held

/-- An append of the receipt protocol whose move is known. -/
theorem agree_move {objectType phase key : String} {entryType : EntryType} {payload : Payload}
    {receipt : OperationReceipt} {holds : OperationReceipt → World → Prop}
    (stable : ∀ a b, holds receipt a → Kept r a b → holds receipt b)
    (move : ∀ now choice, Kept r w now → Agreed r now →
      let entry := entryOf r entryType objectType phase payload key
      Agreed r (kernelAnswer (.append entry) now choice).2 ∧
        Kept r now (kernelAnswer (.append entry) now choice).2 ∧
          ((∃ error, (kernelAnswer (.append entry) now choice).1 = .error error) ∨
            holds receipt (kernelAnswer (.append entry) now choice).2)) :
    ((submissions r).member index).Safe (Returns holds)
      (do append r entryType objectType phase payload key; return receipt :
        Fallible OperationReceipt).run w := by
  refine Safe.bindExcept submissions_quiet (Safe.bindExcept submissions_quiet
    (agree_mapError (agree_perform fun now choice before valid => ?_)))
  obtain ⟨after, own, ending⟩ := move now choice before valid
  refine ⟨after, own, fun later moved => ?_⟩
  generalize kernelAnswer (.append _) now choice = answered at own ending moved
  obtain ⟨error | sequence, next⟩ := answered
  · exact fun last _ => agree_done fun _ _ => agree_done fun _ _ => .error _ _
  · refine fun last further => agree_done fun _ more => agree_done fun _ rest => .ok ?_
    have held : holds receipt next := ending.resolve_left fun ⟨error, failed⟩ => by cases failed
    exact stable _ _ held (moved.trans (further.trans (more.trans rest)))

theorem agree_receiptFor (cancellation : Nat) :
    ((submissions r).member index).Safe (Returns (IsReceived r))
      (receiptFor r cancellation).run w := by
  refine Safe.bindExcept submissions_quiet (agree_receivedReceipt ?_ ?_ ?_)
  · intro receipt later held
    exact agree_done fun last moved => .ok (held.kept moved)
  · intro later
    refine Safe.bindLift submissions_quiet (agree_perform fun now choice _ valid => ?_)
    obtain ⟨after, own⟩ := valid.answer choice
      (show Acts r _ False (.providerExecute r cancellation) from .providerExecute cancellation)
    refine ⟨after, own, fun started _ => ?_⟩
    refine Safe.bindExcept submissions_quiet (agree_perform fun now choice _ valid => ?_)
    obtain ⟨after, own⟩ := valid.answer choice
      (show Acts r _ False (.providerOutcome r) from .providerOutcome)
    refine ⟨after, own, fun answered _ => ?_⟩
    cases outcome : choice.outcome with
    | error error =>
        simp only [kernelAnswer, outcome]
        exact agree_done fun _ _ => .error _ _
    | ok receipt =>
        simp only [kernelAnswer, outcome]
        exact agree_move (fun _ _ held moved => IsReceived.kept held moved)
          fun now choice _ valid => valid.receive choice
  · exact fun error later => agree_done fun _ _ => .error _ _

theorem agree_executeCancellable (cancellation : Nat) :
    ((submissions r).member index).Safe (Returns (IsCommitted r))
      (executeCancellable r cancellation).run w := by
  refine Safe.bindExcept submissions_quiet (agree_committedReceipt ?_ ?_ ?_)
  · intro receipt later held
    exact agree_done fun last moved => .ok (held.kept moved)
  · intro later
    refine Safe.bindExcept submissions_quiet ((agree_calls (fun _ => True)
      (show (append r .intent "Operation" "PENDING" (.request r) (intentKey r.operationId)).run.Calls
        (Honest fun _ => True) (Acts r _ False) _ from calls_append .intent (.inl rfl))
      (fun _ _ _ _ => trivial) trivial).mono ?_)
    rintro (error | ⟨⟩) intended _ _
    · exact agree_done fun _ _ => .error _ _
    refine Safe.bindLift submissions_quiet (agree_perform fun now choice _ valid => ?_)
    obtain ⟨after, own⟩ := valid.answer choice
      (show Acts r _ False (.isCancelled cancellation) from .isCancelled cancellation)
    refine ⟨after, own, fun checked _ => ?_⟩
    split
    · exact agree_done fun _ _ => .error _ _
    · refine Safe.bindExcept submissions_quiet ((agree_receiptFor cancellation).mono ?_)
      rintro (error | receipt) obtained _ returns
      · exact agree_done fun _ _ => .error _ _
      · have received := returns receipt rfl
        exact agree_move (fun _ _ held moved => IsCommitted.kept held moved)
          fun now choice before valid => valid.commit choice (received.kept before)
  · exact fun error later => agree_done fun _ _ => .error _ _

/-- The result of an attempt is the committed receipt, or an error. -/
def Submits (r : OperationRequest) (result : Except KernelError RuntimeExecution) (w : World) :
    Prop :=
  ∀ execution, result = .ok execution → IsCommitted r execution.receipt w

theorem Submits.error (error : KernelError) (w : World) : Submits r (.error error) w :=
  fun _ returned => by cases returned

theorem Submits.kept {result : Except KernelError RuntimeExecution} {later : World}
    (submits : Submits r result w) (kept : Kept r w later) : Submits r result later :=
  fun execution returned => (submits execution returned).kept kept

/-- A call that neither records a receipt nor commits, and then the rest. -/
theorem agree_act {call : Call} {next : Answer call → Task α} {post : α → World → Prop}
    (acts : Acts r Plain False call)
    (rest : ∀ answer later, ((submissions r).member index).Safe post (next answer) later) :
    ((submissions r).member index).Safe post (perform call >>= next) w := by
  intro now _ valid choice _
  obtain ⟨after, own⟩ := valid.answer choice acts
  exact ⟨after, own, rest _ _⟩

theorem agree_settle (leaseId : String) (trace : DecisionTrace) (profile : ExecutionProfile)
    {execution : Except KernelError OperationReceipt}
    (returns : Returns (IsCommitted r) execution w)
    (operation : profile.operationId = r.operationId)
    (workload : profile.workloadId = r.workloadId)
    (provider : profile.provider = r.snapshot.providerRevision) :
    ((submissions r).member index).Safe (Submits r) (settle r leaseId trace profile execution)
      w := by
  refine (agree_calls (Returns (IsCommitted r) execution)
    ((calls_settle r leaseId trace profile (fun _ _ => .inl trivial) operation workload
      provider).mono (Acts.mono (fun _ => Or.imp_right .inr) id) fun _ => id)
    (fun _ _ held moved receipt same => (held receipt same).kept moved) returns).mono ?_
  rintro result later _ ⟨⟨-, source⟩, held⟩ done returned
  exact held done.receipt (source done returned)

theorem agree_executeLeased (recovered : Bool) (admittedStarted : Int)
    (placement : PlacementDecision) (trace : DecisionTrace) (fenced : FencedLease) :
    ((submissions r).member index).Safe (Submits r)
      (executeLeased r recovered admittedStarted placement trace fenced).run w := by
  refine agree_act .newCancellation fun cancellation _ => ?_
  refine agree_act (.activeInsert _ _ rfl) fun _ _ => ?_
  refine agree_act .now fun started _ => ?_
  refine agree_act .now fun queued _ => ?_
  refine Safe.bind submissions_quiet ((agree_executeCancellable cancellation).mono ?_)
  intro execution later _ returns now moved valid choice _
  obtain ⟨after, own⟩ := valid.answer choice (show Acts r _ False .now from .now)
  refine ⟨after, own, agree_settle _ _ _ ?_ rfl rfl rfl⟩
  exact fun receipt same => ((returns receipt same).kept moved).kept own

theorem agree_executeInternal (recovered : Bool) :
    ((submissions r).member index).Safe (Submits r) (executeInternal r recovered).run w := by
  have failed : ∀ error later, ((submissions r).member index).Safe (Submits r)
      (.done (.error error)) later := fun error later => agree_done fun _ _ => .error _ _
  -- What an attempt does before its execution neither records nor commits.
  have before : ∀ {γ : Type} {leases : Prop} {x : Fallible γ} {next : γ → Fallible RuntimeExecution}
      {later : World},
      x.run.Calls (Honest fun _ => True) (Acts r Plain leases) (fun _ => True) →
      (∀ value last, ((submissions r).member index).Safe (Submits r) (next value).run last) →
      ((submissions r).member index).Safe (Submits r) (x >>= next).run later := by
    intro γ leases x next later calls rest
    refine Safe.bindExcept submissions_quiet ((agree_calls (fun _ => True)
      calls (fun _ _ _ _ => trivial) trivial).mono ?_)
    rintro (error | value) last _ _
    · exact failed error last
    · exact rest value last
  refine Safe.bindLift submissions_quiet (agree_act .now fun admitted _ _ _ _ => ?_)
  cases r.validateSensitiveReferences with
  | error reason => exact failed _ _
  | ok _ =>
      refine Safe.bindLift submissions_quiet (agree_act .kernelState fun state _ _ _ _ => ?_)
      split
      · exact failed _ _
      refine Safe.bindExcept submissions_quiet (agree_committedReceipt ?_ ?_ failed)
      · intro receipt later held
        refine Safe.bindExcept submissions_quiet ((agree_calls (IsCommitted r receipt)
          (show (latestDecisionTrace r.operationId).run.Calls (Honest fun _ => True)
            (Acts r _ False) _ from calls_lookup _ (calls_readFrom _) _)
          (fun _ _ kept moved => kept.kept moved) held).mono ?_)
        rintro (error | trace) last _ ⟨-, kept⟩
        · exact failed error last
        · refine agree_done fun final moved execution returned => ?_
          cases returned
          exact kept.kept moved
      · intro later
        refine before ((calls_schedule r admitted).mono (Acts.mono (fun _ => .inl) id)
          fun _ _ => trivial) fun placed _ => ?_
        refine before ((calls_grantLease r placed.1).mono (Acts.mono (fun _ granted => .inr (.inl granted)) id)
          fun _ _ => trivial) fun fenced _ => ?_
        exact agree_executeLeased recovered admitted placed.1 placed.2 fenced

theorem agree_attempt (recovered : Bool) :
    ((submissions r).member index).Safe (Submits r) (attempt r recovered).run w := by
  refine agree_act .attempt fun _ _ => ?_
  refine Safe.bind submissions_quiet ((agree_executeInternal recovered).mono ?_)
  intro result later _ submits now moved valid choice _
  obtain ⟨after, own⟩ := valid.answer choice (show Acts r _ False (.finish r _) from .finish _)
  exact ⟨after, own, agree_done fun last further => ((submits.kept moved).kept own).kept further⟩

end Agreement

/-- `calls` submissions of one request, before any of them has begun. -/
def submitted (r : OperationRequest) (calls : Nat) (w : World) :
    Pool Call Answer World (Except KernelError RuntimeExecution) where
  world := w
  threads := List.replicate calls (execute r).run

theorem submitted_holds {r : OperationRequest} {w : World} (calls : Nat) (valid : Agreed r w) :
    (submissions r).Holds (fun _ => Submits r) (submitted r calls w) where
  inv := valid
  safe := by
    intro index p present
    obtain ⟨-, rfl⟩ := List.mem_replicate.mp (List.mem_of_getElem? present)
    exact agree_attempt false

/-- The calls that return a receipt return the same one, and it is the receipt
of the one commit, in every schedule without discord. -/
theorem concurrent_submissions_agree (uuids : UuidSource) (clock : Int)
    (steps : List (Command × List Choice)) (r : OperationRequest) (calls : Nat)
    (schedule : List (Nat × Choice)) (keyed : Keyed r (booted uuids clock steps).journal.entries)
    (same : ∀ receipt, committedIn r (booted uuids clock steps).journal.entries = some receipt →
      receivedIn r (booted uuids clock steps).journal.entries = some receipt)
    (agree : ¬ Discord r
      ((submitted r calls (booted uuids clock steps)).run kernel schedule).world.history) :
    let last := (submitted r calls (booted uuids clock steps)).run kernel schedule
    (∀ index execution, last.result index = some (.ok execution) →
      ∃ entry, last.world.journal.entries.filter (isStepCommit r.operationId) = [entry] ∧
        entry.workloadId = r.workloadId ∧ entry.payload = .receipt execution.receipt) ∧
    ∀ index other execution execution', last.result index = some (.ok execution) →
      last.result other = some (.ok execution') → execution.receipt = execution'.receipt := by
  intro last
  have sound : Sound (fun _ => True) [] (booted uuids clock steps) :=
    booted_sound uuids clock steps fun _ _ _ _ => trivial
  have holds : (submissions r).Holds (fun _ => Submits r) last :=
    (submitted_holds calls ⟨sound.linked, sound.recorded, keyed, .inr same⟩).run
      submissions_tolerant schedule fun _ _ _ _ => trivial
  have committed : ∀ index execution, last.result index = some (.ok execution) →
      committedIn r last.world.journal.entries = some execution.receipt := fun index execution
    returned => (holds.returned submissions_tolerant returned execution rfl).resolve_left agree
  refine ⟨fun index execution returned => ?_, fun index other execution execution' one two => ?_⟩
  · obtain ⟨entry, member, type, kind, workload, operation, carried⟩ :=
      committedIn_origin (committed index execution returned)
    have inside : entry ∈ last.world.journal.entries.filter (isStepCommit r.operationId) :=
      List.mem_filter.mpr ⟨member, by simp [isStepCommit, type, kind, operation]⟩
    have once := stepCommit_once last.world.journal
      (fun row stored => (holds.inv.recorded row stored).keyedCommit) r.operationId
    obtain ⟨only, alone⟩ := List.length_eq_one_iff.mp
      (Nat.le_antisymm once (List.length_pos_of_mem inside))
    rw [alone, List.mem_singleton] at inside
    exact ⟨only, alone, inside ▸ workload, inside ▸ carried⟩
  · have receipts := committed index execution one
    rw [committed other execution' two] at receipts
    exact (Option.some.inj receipts).symm

/-! ### Two schedules -/

/-- Two submissions of operation-1 on a new journal. -/
def doubleSubmission (schedule : List (Nat × Choice)) :
    Pool Call Answer World (Except KernelError RuntimeExecution) :=
  (submitted (sampleRequest "operation-1" "workload-1" "revision-1" .idempotent) 2
    (booted sampleUuids 0 [])).run kernel schedule

/-- One call looks for a commit, the other runs from start to end, and the first
one goes on to its grant. -/
def overtaken : List (Nat × Choice) :=
  List.replicate 5 (0, answering (sampleReceipt "operation-1" "first")) ++
    List.replicate 28 (1, answering (sampleReceipt "operation-1" "second")) ++
      List.replicate 23 (0, answering (sampleReceipt "operation-1" "first"))

/-- One call has its receipt from the provider when its lease expires, and the
other runs from start to end before the first one journals it. -/
def outlived : List (Nat × Choice) :=
  List.replicate 18 (0, answering (sampleReceipt "operation-1" "first")) ++
    (1, { answering (sampleReceipt "operation-1" "second") with elapsed := 30000000 }) ::
      List.replicate 27 (1, answering (sampleReceipt "operation-1" "second")) ++
        List.replicate 10 (0, answering (sampleReceipt "operation-1" "first"))

/-- The receipt that a thread has returned. -/
def receiptOf (pool : Pool Call Answer World (Except KernelError RuntimeExecution))
    (index : Nat) : Option OperationReceipt :=
  (pool.result index).bind fun result => result.toOption.map (·.receipt)

theorem receiptOf_some (pool : Pool Call Answer World (Except KernelError RuntimeExecution))
    (index : Nat) (receipt : OperationReceipt) (returned : receiptOf pool index = some receipt) :
    ∃ execution, pool.result index = some (.ok execution) ∧ execution.receipt = receipt := by
  obtain ⟨result, found, carried⟩ := Option.bind_eq_some_iff.mp returned
  obtain ⟨execution, fine, same⟩ := Option.map_eq_some_iff.mp carried
  cases result with
  | error error => cases fine
  | ok value =>
      cases fine
      exact ⟨execution, found, same⟩

/-- The event is no absorbed receipt. -/
def Event.accordant : Event → Bool
  | .absorbed entry => entry.objectType != "OperationReceipt"
  | _ => true

theorem accordant_history {r : OperationRequest} {history : List Event}
    (accordant : ∀ event ∈ history, event.accordant = true) : ¬ Discord r history := by
  rintro ⟨before, entry, after, rfl, kind, -⟩
  have clear := accordant (.absorbed entry) (by simp)
  simp [Event.accordant, kind] at clear

theorem concurrent_submissions_agree_overtaken :
    ∃ first second, (doubleSubmission overtaken).result 0 = some (.ok first) ∧
      (doubleSubmission overtaken).result 1 = some (.ok second) ∧
        first.receipt = second.receipt := by
  obtain ⟨first, firstReturned, -⟩ := receiptOf_some (doubleSubmission overtaken) 0
    (sampleReceipt "operation-1" "second") (by decide +kernel)
  obtain ⟨second, secondReturned, -⟩ := receiptOf_some (doubleSubmission overtaken) 1
    (sampleReceipt "operation-1" "second") (by decide +kernel)
  refine ⟨first, second, firstReturned, secondReturned, ?_⟩
  exact (concurrent_submissions_agree sampleUuids 0 []
    (sampleRequest "operation-1" "workload-1" "revision-1" .idempotent) 2 overtaken
    ⟨by decide, by decide⟩ (fun receipt committed => by cases committed)
    (accordant_history (by decide +kernel))).2 0 1 first second firstReturned secondReturned

/-- Two submissions of one request that both succeed, with different receipts. -/
theorem concurrent_submissions_differ :
    ¬ ∀ uuids clock steps (r : OperationRequest) calls schedule,
      let last := (submitted r calls (booted uuids clock steps)).run kernel schedule
      (∀ index execution, last.result index = some (.ok execution) →
        ∃ entry, last.world.journal.entries.filter (isStepCommit r.operationId) = [entry] ∧
          entry.workloadId = r.workloadId ∧ entry.payload = .receipt execution.receipt) ∧
      ∀ index other execution execution', last.result index = some (.ok execution) →
        last.result other = some (.ok execution') →
          execution.receipt = execution'.receipt := by
  intro agree
  obtain ⟨first, firstReturned, firstReceipt⟩ := receiptOf_some (doubleSubmission outlived) 0
    (sampleReceipt "operation-1" "first") (by decide +kernel)
  obtain ⟨second, secondReturned, secondReceipt⟩ := receiptOf_some (doubleSubmission outlived) 1
    (sampleReceipt "operation-1" "second") (by decide +kernel)
  have same := (agree sampleUuids 0 []
    (sampleRequest "operation-1" "workload-1" "revision-1" .idempotent) 2 outlived).2 0 1 first
    second firstReturned secondReturned
  rw [firstReceipt, secondReceipt] at same
  exact absurd same (by decide)

end NousKernel
