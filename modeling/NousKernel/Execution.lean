import NousKernel.Sequential

/-!
One execution, alone: how far each part of it moves the ledger of its
operation, from the lease to the release, on every path including the errors.
-/

set_option autoImplicit false

namespace NousKernel

open Resumption Resumption.Discipline

/-- An attempt of `r` that began after `start` is under way, its ledger is `l`,
and `ran` says whether it got past its fencing check. -/
structure Standing (start : List Event) (r : OperationRequest) (ran : Prop) (l : Ledger)
    (w : World) : Prop where
  since : ∃ since, Underway start r since w.history ∧ (.registered r ∈ since ↔ ran)
  ledger : ledgerIn r w.journal.entries = l
  lease : ran → ∃ leaseId, grantKey r.operationId leaseId ∈ keysOf w.journal.entries

/-- An attempt of which the storage refused an append. -/
structure Spoiled (start : List Event) (r : OperationRequest) (w : World) : Prop where
  since : ∃ since, Underway start r since w.history ∧ ∃ entry, .refused entry ∈ since

theorem Underway.snoc {start since now : List Event} {r : OperationRequest} {event : Event}
    (under : Underway start r since now) (inner : event.inner = true) :
    Underway start r (since ++ [event]) (now ++ [event]) where
  split := by rw [under.split]; simp
  inner := by
    intro other member
    rcases List.mem_append.mp member with old | last
    · exact under.inner other old
    · rw [List.mem_singleton.mp last]
      exact inner

section Moves

variable {Allowed : Call → World → Choice → Prop} {start : List Event} {r : OperationRequest}
  {ran : Prop} {l : Ledger} {w later : World} {entry : Entry}

theorem Spoiled.grow {event : Event} (spoiled : Spoiled start r w)
    (grown : later.history = w.history ++ [event]) (inner : event.inner = true) :
    Spoiled start r later := by
  obtain ⟨since, under, refused, member⟩ := spoiled.since
  exact ⟨since ++ [event], grown ▸ under.snoc inner, refused, List.mem_append_left _ member⟩

theorem Appends.inner (appends : Appends Allowed w entry later) :
    ∃ event, later.history = w.history ++ [event] ∧ event.inner = true ∧
      ∀ r, event ≠ .registered r := by
  obtain ⟨event, grown, rfl | ⟨stored, rfl⟩⟩ := appends.history
  · exact ⟨_, grown, rfl, by simp⟩
  · exact ⟨_, grown, rfl, by simp⟩

theorem Appends.keys (appends : Appends Allowed w entry later) {key : String}
    (used : key ∈ keysOf w.journal.entries) : key ∈ keysOf later.journal.entries := by
  obtain ⟨now, same⟩ := appends.journal
  rw [same]
  cases found : w.journal.absorber entry with
  | some sequence => rwa [Journal.append_absorbed now found]
  | none =>
      rw [Journal.append_inserted now found, keysOf_append]
      exact List.mem_append_left _ used

/-- The key of an appended entry is in the journal. -/
theorem Appends.key (appends : Appends Allowed w entry later) {key : String}
    (keyed : entry.idempotencyKey = some key) : key ∈ keysOf later.journal.entries := by
  obtain ⟨now, same⟩ := appends.journal
  rw [same, Journal.append_entries key now keyed]
  split
  · assumption
  · exact mem_keysOf.mpr ⟨_, List.mem_append_right _ (.head _), keyed⟩

theorem Spoiled.appends (spoiled : Spoiled start r w) (appends : Appends Allowed w entry later) :
    Spoiled start r later := by
  obtain ⟨event, grown, inner, -⟩ := appends.inner
  exact spoiled.grow grown inner

theorem Spoiled.refuses (spoiled : Spoiled start r w) (refuses : Refuses w entry later) :
    Spoiled start r later :=
  spoiled.grow refuses.history rfl

theorem Standing.refuses (standing : Standing start r ran l w) (refuses : Refuses w entry later) :
    Spoiled start r later := by
  obtain ⟨since, under, -⟩ := standing.since
  exact ⟨since ++ [.refused entry], refuses.history ▸ under.snoc rfl, entry, by simp⟩

theorem Standing.tick (standing : Standing start r ran l w) (elapsed : Nat) :
    Standing start r ran l (w.tick elapsed) :=
  ⟨standing.since, standing.ledger, standing.lease⟩

/-- An append moves the ledger as its own lemma says. -/
theorem Standing.appends {moved : Ledger} (standing : Standing start r ran l w)
    (appends : Appends Allowed w entry later)
    (move : ∀ now, ledgerIn r (w.journal.append entry now).2.entries = moved) :
    Standing start r ran moved later where
  since := by
    obtain ⟨since, under, registered⟩ := standing.since
    obtain ⟨event, grown, inner, other⟩ := appends.inner
    refine ⟨since ++ [event], grown ▸ under.snoc inner, ?_⟩
    rw [← registered, List.mem_append, List.mem_singleton]
    constructor
    · rintro (old | same)
      · exact old
      · exact absurd same.symm (other r)
    · exact .inl
  ledger := by
    obtain ⟨now, same⟩ := appends.journal
    rw [same]
    exact move now
  lease := by
    intro yes
    obtain ⟨leaseId, used⟩ := standing.lease yes
    exact ⟨leaseId, appends.keys used⟩

/-- An event that is neither an append nor a registration leaves the attempt
where it stands. -/
theorem Standing.grow {event : Event} (standing : Standing start r ran l w)
    (journal : later.journal = w.journal) (grown : later.history = w.history ++ [event])
    (inner : event.inner = true) (other : event ≠ .registered r) :
    Standing start r ran l later where
  since := by
    obtain ⟨since, under, registered⟩ := standing.since
    refine ⟨since ++ [event], grown ▸ under.snoc inner, ?_⟩
    simp [← registered, other.symm]
  ledger := journal ▸ standing.ledger
  lease := journal ▸ standing.lease

theorem Standing.same (standing : Standing start r ran l w)
    (journal : later.journal = w.journal) (history : later.history = w.history) :
    Standing start r ran l later :=
  ⟨history ▸ standing.since, journal ▸ standing.ledger, journal ▸ standing.lease⟩

theorem Spoiled.same (spoiled : Spoiled start r w) (history : later.history = w.history) :
    Spoiled start r later :=
  ⟨history ▸ spoiled.since⟩

theorem Standing.intent_key (standing : Standing start r ran l w)
    (intended : l.intentUsed = true) : intentKey r.operationId ∈ keysOf w.journal.entries := by
  rw [← standing.ledger] at intended
  simpa [ledgerIn] using intended

theorem Standing.receipt_key (standing : Standing start r ran l w)
    (used : l.receiptUsed = true) : receiptKey r.operationId ∈ keysOf w.journal.entries := by
  rw [← standing.ledger] at used
  simpa [ledgerIn] using used

end Moves

/-! ### The executor -/

/-- The environment lets the provider answer `r` so. -/
def Answers (Allowed : Call → World → Choice → Prop) (r : OperationRequest)
    (outcome : Except KernelError OperationReceipt) : Prop :=
  ∃ w choice, Allowed (.providerOutcome r) w choice ∧ choice.outcome = outcome

/-- The results of the durable executor and how each moves the ledger. -/
inductive Executed (Allowed : Call → World → Choice → Prop) (r : OperationRequest)
    (cancelled : Prop) (l : Ledger) : Except KernelError OperationReceipt → Ledger → Prop
  | replayed (receipt : OperationReceipt) (committed : l.committed = some receipt) :
      Executed Allowed r cancelled l (.ok receipt) l
  | reused (receipt : OperationReceipt) (uncommitted : l.committed = none)
      (received : l.received = some receipt) :
      Executed Allowed r cancelled l (.ok receipt) ((l.intend r).commit receipt)
  | answered (receipt : OperationReceipt) (uncommitted : l.committed = none)
      (unreceived : l.received = none) (answers : Answers Allowed r (.ok receipt)) :
      Executed Allowed r cancelled l (.ok receipt)
        (((l.intend r).receive receipt).commit receipt)
  | failed (error : KernelError) (uncommitted : l.committed = none)
      (unreceived : l.received = none) (answers : Answers Allowed r (.error error)) :
      Executed Allowed r cancelled l (.error error) (l.intend r)
  | stopped (error : KernelError) (uncommitted : l.committed = none) (yes : cancelled) :
      Executed Allowed r cancelled l (.error error) (l.intend r)
  | unread (error : KernelError) (broken : ¬ Reliable Allowed) :
      Executed Allowed r cancelled l (.error error) l
  | unsearched (error : KernelError) (uncommitted : l.committed = none)
      (broken : ¬ Reliable Allowed) :
      Executed Allowed r cancelled l (.error error) (l.intend r)

theorem Executed.weaken {Allowed : Call → World → Choice → Prop} {r : OperationRequest}
    {cancelled other : Prop} {l l' : Ledger} {result : Except KernelError OperationReceipt}
    (executed : Executed Allowed r cancelled l result l') (weaker : cancelled → other) :
    Executed Allowed r other l result l' := by
  cases executed with
  | replayed receipt committed => exact .replayed receipt committed
  | reused receipt uncommitted received => exact .reused receipt uncommitted received
  | answered receipt uncommitted unreceived answers =>
      exact .answered receipt uncommitted unreceived answers
  | failed error uncommitted unreceived answers =>
      exact .failed error uncommitted unreceived answers
  | stopped error uncommitted yes => exact .stopped error uncommitted (weaker yes)
  | unread error broken => exact .unread error broken
  | unsearched error uncommitted broken => exact .unsearched error uncommitted broken

section Inversion

variable {Allowed : Call → World → Choice → Prop} {r : OperationRequest} {cancelled : Prop}
  {l l' : Ledger}

theorem Executed.ok {receipt : OperationReceipt}
    (executed : Executed Allowed r cancelled l (.ok receipt) l') :
    (l.committed = some receipt ∧ l' = l) ∨
      (l.committed = none ∧ l.received = some receipt ∧ l' = (l.intend r).commit receipt) ∨
      (l.committed = none ∧ l.received = none ∧ Answers Allowed r (.ok receipt) ∧
        l' = ((l.intend r).receive receipt).commit receipt) := by
  cases executed with
  | replayed _ committed => exact .inl ⟨committed, rfl⟩
  | reused _ uncommitted received => exact .inr (.inl ⟨uncommitted, received, rfl⟩)
  | answered _ uncommitted unreceived answers =>
      exact .inr (.inr ⟨uncommitted, unreceived, answers, rfl⟩)

/-- A failure under a reliable storage is the provider's, of an operation that
has no receipt yet. -/
theorem Executed.error {error : KernelError}
    (executed : Executed Allowed r cancelled l (.error error) l') (reliable : Reliable Allowed)
    (active : ¬ cancelled) :
    l.committed = none ∧ l.received = none ∧ Answers Allowed r (.error error) ∧
      l' = l.intend r := by
  cases executed with
  | failed _ uncommitted unreceived answers => exact ⟨uncommitted, unreceived, answers, rfl⟩
  | stopped _ _ yes => exact absurd yes active
  | unread _ broken => exact absurd reliable broken
  | unsearched _ _ broken => exact absurd reliable broken

theorem Executed.uncommitted {error : KernelError}
    (executed : Executed Allowed r cancelled l (.error error) l') (reliable : Reliable Allowed) :
    l.committed = none := by
  cases executed with
  | failed _ uncommitted | stopped _ uncommitted | unsearched _ uncommitted => exact uncommitted
  | unread _ broken => exact absurd reliable broken

end Inversion

@[simp] theorem Ledger.intend_committed (l : Ledger) (r : OperationRequest) :
    (l.intend r).committed = l.committed := by
  unfold Ledger.intend
  split <;> rfl

@[simp] theorem Ledger.intend_received (l : Ledger) (r : OperationRequest) :
    (l.intend r).received = l.received := by
  unfold Ledger.intend
  split <;> rfl

@[simp] theorem Ledger.intend_intentUsed (l : Ledger) (r : OperationRequest) :
    (l.intend r).intentUsed = true := by
  unfold Ledger.intend
  split
  · assumption
  · rfl

/-- An intent is in force if it was, or if it is the first. -/
theorem Ledger.intend_pending (l : Ledger) (r : OperationRequest) :
    (l.intend r).pending ≠ none ↔ l.intentUsed = false ∨ l.pending ≠ none := by
  unfold Ledger.intend
  split
  · rename_i used
    simp [used]
  · rename_i unused
    simp [unused]

section Executor

variable {Input : OperationRequest → Prop} {base : List Event}
  {Allowed : Call → World → Choice → Prop} {start : List Event} {r : OperationRequest}
  {l : Ledger} {w : World}

/-- Where a part of the executor ends: an append was refused, or the ledger has
moved as its result says. -/
def Ends (Allowed : Call → World → Choice → Prop) (start : List Event) (r : OperationRequest)
    (w : World) (moved : Except KernelError OperationReceipt → Ledger → Prop)
    (result : Except KernelError OperationReceipt) (later : World) : Prop :=
  SameProcess w later ∧
    ((∃ error, result = .error error ∧ ¬ Reliable Allowed ∧ Spoiled start r later) ∨
      ∃ l', Standing start r True l' later ∧ moved result l')

/-- The order asks nothing of other entries. -/
theorem Ordered.free {history : List Event} {entry : Entry} (plain : entry.entryType ≠ .intent)
    (receipt : entry.objectType ≠ "OperationReceipt") (commit : entry.objectType ≠ "StepCommit") :
    Ordered history entry :=
  ⟨fun h => absurd h plain, fun h => absurd h receipt, fun h => absurd h commit,
    fun h => absurd h commit, fun h => absurd h commit⟩

/-- What an invocation owes to the history, read off the standing attempt. -/
theorem Standing.invokes (valid : Sound Input base w) (standing : Standing start r True l w)
    (unreceived : l.received = none) (intended : l.intentUsed = true)
    (pending : l.pending ≠ none ↔ (ledgerIn r (entriesOf start)).intentUsed = false ∨
      (ledgerIn r (entriesOf start)).pending ≠ none) :
    Invokes r w.history := by
  have same : ledgerIn r (entriesOf w.history) = l := valid.linked ▸ standing.ledger
  obtain ⟨since, under, -⟩ := standing.since
  exact ⟨by rw [same, intended], by rw [same, unreceived], start, since, under, by rwa [same]⟩

theorem safe_obtainReceipt (known : Input r) {token : Nat}
    (standing : Standing start r True l w) (unreceived : l.received = none)
    (intended : l.intentUsed = true)
    (pending : l.pending ≠ none ↔ (ledgerIn r (entriesOf start)).intentUsed = false ∨
      (ledgerIn r (entriesOf start)).pending ≠ none) :
    (sequential Input base Allowed).Safe
      (Ends Allowed start r w fun result l' =>
        Answers Allowed r result ∧ match result with
          | .ok receipt => l' = l.receive receipt
          | .error _ => l' = l)
      (obtainReceipt r token).run w := by
  refine Safe.bindLift sequential_quiet (safe_perform fun valid choice _ => ⟨?_, ?_⟩)
  · exact (valid.tick _).record rfl
      ⟨known, (standing.tick _).invokes (valid.tick _) unreceived intended pending⟩
  · have called : Standing start r True l ((w.tick choice.elapsed).record (.invoked r)) :=
      standing.grow rfl rfl rfl (by simp)
    refine Safe.bindExcept sequential_quiet
      (safe_perform fun valid answer allowed => ⟨valid.tick _, ?_⟩)
    have answers : Answers Allowed r answer.outcome := ⟨_, answer, allowed, rfl⟩
    simp only [kernelAnswer]
    cases outcome : answer.outcome with
    | error error =>
        exact safe_done fun _ => ⟨⟨rfl, rfl, rfl, rfl⟩, .inr ⟨l, called.tick _, outcome ▸ answers, rfl⟩⟩
    | ok receipt =>
        refine Safe.bindExcept sequential_quiet (safe_append (.receipt r receipt known) ?_ ?_ ?_)
        · intro valid
          exact ⟨by simp [entryOf], fun _ => valid.linked ▸ called.intent_key intended,
            by simp [entryOf], by simp [entryOf], by simp [entryOf]⟩
        · intro later appends
          refine safe_done fun _ => ⟨appends.process.after ⟨rfl, rfl, rfl, rfl⟩,
            .inr ⟨l.receive receipt, ?_, outcome ▸ answers, rfl⟩⟩
          refine (called.tick _).appends appends fun now => ?_
          rw [ledgerIn_receive]
          exact congrArg (Ledger.receive · receipt) standing.ledger
        · intro broken later error refuses
          exact safe_done fun _ => ⟨refuses.process.after ⟨rfl, rfl, rfl, rfl⟩,
            .inl ⟨error, rfl, broken, (called.tick _).refuses refuses⟩⟩

/-- Where the executor has its receipt from. -/
def Obtained (Allowed : Call → World → Choice → Prop) (r : OperationRequest) (l : Ledger)
    (result : Except KernelError OperationReceipt) (l' : Ledger) : Prop :=
  match result with
  | .ok receipt => (l.received = some receipt ∧ l' = l) ∨
      (l.received = none ∧ Answers Allowed r (.ok receipt) ∧ l' = l.receive receipt)
  | .error error => l' = l ∧
      (¬ Reliable Allowed ∨ (l.received = none ∧ Answers Allowed r (.error error)))

theorem safe_receiptFor (known : Input r) {token : Nat}
    (standing : Standing start r True l w) (intended : l.intentUsed = true)
    (pending : l.pending ≠ none ↔ (ledgerIn r (entriesOf start)).intentUsed = false ∨
      (ledgerIn r (entriesOf start)).pending ≠ none) :
    (sequential Input base Allowed).Safe (Ends Allowed start r w (Obtained Allowed r l))
      (receiptFor r token).run w := by
  have found : receivedIn r w.journal.entries = l.received :=
    congrArg Ledger.received standing.ledger
  refine Safe.bindExcept sequential_quiet (safe_receivedReceipt ?_ ?_)
  · intro elapsed
    rw [found]
    cases received : l.received with
    | some receipt =>
        exact safe_done fun _ => ⟨.tick w _, .inr ⟨l, standing.tick _, .inl ⟨received, rfl⟩⟩⟩
    | none =>
        refine (safe_obtainReceipt known (standing.tick elapsed) received intended pending).mono ?_
        rintro result later - ⟨process, spoiled | ⟨l', stands, answers, moved⟩⟩
        · exact ⟨process.after (.tick w _), .inl spoiled⟩
        · refine ⟨process.after (.tick w _), .inr ⟨l', stands, ?_⟩⟩
          cases result with
          | ok receipt => exact .inr ⟨received, answers, moved⟩
          | error error => exact ⟨moved, .inr ⟨received, answers⟩⟩
  · intro broken elapsed error
    exact safe_done fun _ => ⟨.tick w _, .inr ⟨l, standing.tick _, rfl, .inl broken⟩⟩

/-- The commit of an obtained receipt keeps the write-ahead order. -/
theorem Obtained.ordered {l' : Ledger} {receipt : OperationReceipt} (valid : Sound Input base w)
    (obtained : Obtained Allowed r l (.ok receipt) l') (standing : Standing start r True l' w)
    (intended : l.intentUsed = true) :
    Ordered w.history (entryOf r .commit "StepCommit" "COMMITTED" (.receipt receipt)
      (commitKey r.operationId)) := by
  have used : l'.intentUsed = true := by
    rcases obtained with ⟨-, rfl⟩ | ⟨-, -, rfl⟩
    · exact intended
    · unfold Ledger.receive
      split <;> exact intended
  refine ⟨by simp [entryOf], by simp [entryOf], fun _ => valid.linked ▸ standing.lease trivial,
    fun _ => valid.linked ▸ standing.intent_key used, fun _ other workload operation => ?_⟩
  rw [← valid.linked]
  have same : receivedIn other w.journal.entries = l'.received := by
    rw [← standing.ledger]
    simp [receivedIn, ledgerIn, workload, operation, entryOf]
  rw [same]
  rcases obtained with ⟨received, rfl⟩ | ⟨received, -, rfl⟩
  · exact .inl received
  · unfold Ledger.receive at standing ⊢
    split
    · rename_i taken
      rw [if_pos taken] at standing
      exact .inr ⟨received, standing.receipt_key taken⟩
    · exact .inl rfl

theorem safe_executeCancellable (known : Input r) {token : Nat}
    (standing : Standing start r True l w) (fresh : l = ledgerIn r (entriesOf start)) :
    (sequential Input base Allowed).Safe
      (Ends Allowed start r w (Executed Allowed r (token ∈ w.cancelled) l))
      (executeCancellable r token).run w := by
  have found : committedIn r w.journal.entries = l.committed :=
    congrArg Ledger.committed standing.ledger
  have pending : (l.intend r).pending ≠ none ↔
      (ledgerIn r (entriesOf start)).intentUsed = false ∨
        (ledgerIn r (entriesOf start)).pending ≠ none := fresh ▸ l.intend_pending r
  refine Safe.bindExcept sequential_quiet (safe_committedReceipt ?_ ?_)
  · intro elapsed
    rw [found]
    cases committed : l.committed with
    | some receipt =>
        exact safe_done fun _ =>
          ⟨.tick w _, .inr ⟨l, standing.tick _, .replayed receipt committed⟩⟩
    | none =>
        refine Safe.bindExcept sequential_quiet (safe_append (.intent r known) ?_ ?_ ?_)
        · intro _
          obtain ⟨since, under, -⟩ := standing.since
          exact ⟨fun _ _ => ⟨start, r, since, under, rfl⟩, by simp [entryOf], by simp [entryOf],
            by simp [entryOf], by simp [entryOf]⟩
        · intro noted appends
          have intended : Standing start r True (l.intend r) noted :=
            (standing.tick elapsed).appends appends fun now => by
              rw [ledgerIn_intend]
              exact congrArg (Ledger.intend · r) standing.ledger
          refine Safe.bindLift sequential_quiet (safe_isCancelled fun waited => ?_)
          have process : SameProcess w (noted.tick waited) :=
            (SameProcess.tick noted waited).after (appends.process.after (.tick w _))
          rw [show noted.cancelled = w.cancelled from process.cancelled]
          split
          · rename_i stop
            exact safe_done fun _ => ⟨process, .inr ⟨_, intended.tick _,
              .stopped _ committed (of_decide_eq_true stop)⟩⟩
          · refine Safe.bindExcept sequential_quiet ((safe_receiptFor known (intended.tick waited)
              (l.intend_intentUsed r) pending).mono ?_)
            rintro result later - ⟨moved, spoiled | ⟨l', stands, obtained⟩⟩
            · obtain ⟨error, rfl, broken, spoiled⟩ := spoiled
              exact safe_done fun _ => ⟨moved.after process, .inl ⟨error, rfl, broken, spoiled⟩⟩
            · cases result with
              | error error =>
                  refine safe_done fun _ => ⟨moved.after process, .inr ⟨l', stands, ?_⟩⟩
                  obtain ⟨rfl, broken | ⟨received, answers⟩⟩ := obtained
                  · exact .unsearched error committed broken
                  · exact .failed error committed (by simpa using received) answers
              | ok receipt =>
                  refine Safe.bindExcept sequential_quiet
                    (safe_append (.commit r receipt known) ?_ ?_ ?_)
                  · exact fun valid => obtained.ordered valid stands (l.intend_intentUsed r)
                  · intro last appends
                    refine safe_done fun _ => ⟨appends.process.after (moved.after process),
                      .inr ⟨l'.commit receipt, stands.appends appends fun now => ?_, ?_⟩⟩
                    · rw [ledgerIn_commit]
                      exact congrArg (Ledger.commit · receipt) stands.ledger
                    · rcases obtained with ⟨received, rfl⟩ | ⟨received, answers, rfl⟩
                      · exact .reused receipt committed (by simpa using received)
                      · exact .answered receipt committed (by simpa using received) answers
                  · intro broken last error refuses
                    exact safe_done fun _ => ⟨refuses.process.after (moved.after process),
                      .inl ⟨error, rfl, broken, stands.refuses refuses⟩⟩
        · intro broken later error refuses
          exact safe_done fun _ => ⟨refuses.process.after (.tick w _),
            .inl ⟨error, rfl, broken, (standing.tick elapsed).refuses refuses⟩⟩
  · intro broken elapsed error
    exact safe_done fun _ => ⟨.tick w _, .inr ⟨l, standing.tick _, .unread error broken⟩⟩

end Executor

end NousKernel
