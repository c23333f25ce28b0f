import NousKernel.Json
import NousKernel.Provenance
import NousKernel.Restoration

/-!
Whose receipt a step commit carries. A receipt names its operation and holds the
digests of the input, the snapshot and the result. The executor fills these fields
for an external process only. From a worker, or from the journal, it takes the
receipt as it is.
-/

set_option autoImplicit false

namespace NousKernel

open Resumption Resumption.Prog

/-! ### What a receipt is bound to -/

/-- `serde_json` writes the fields in the order of the struct. -/
def SemanticExecutionSnapshot.toJson (snapshot : SemanticExecutionSnapshot) : Json :=
  .obj [("model_revision", .str snapshot.modelRevision),
    ("provider_revision", .str snapshot.providerRevision),
    ("prompt_revision", .str snapshot.promptRevision),
    ("tool_revision", .str snapshot.toolRevision),
    ("knowledge_revision", .str snapshot.knowledgeRevision),
    ("policy_revision", .str snapshot.policyRevision),
    ("capability_revision", .str snapshot.capabilityRevision),
    ("context_revision", .str snapshot.contextRevision)]

def digestBytes (bytes : Bytes) : String := hexDigest bytes

def digestJson (value : Json) : String := digestBytes (asBytes value.text)

/-- The receipt is that of the request, and its output digest that of its result. -/
structure Binds (r : OperationRequest) (receipt : OperationReceipt) : Prop where
  operation : receipt.operationId = r.operationId
  input : receipt.inputDigest = r.inputDigest
  snapshot : receipt.snapshotDigest = digestJson r.snapshot.toJson
  output : receipt.outputDigest = digestBytes (asBytes receipt.result)

/-- The receipt in `normalize_external_provider_response`. -/
def externalReceipt (request : OperationRequest) (result : String) (now : Int) :
    OperationReceipt where
  operationId := request.operationId
  inputDigest := request.inputDigest
  outputDigest := digestBytes (asBytes result)
  snapshotDigest := digestJson request.snapshot.toJson
  providerRevision := request.snapshot.providerRevision
  result := result
  completedAtUs := now

theorem binds_externalReceipt (r : OperationRequest) (result : String) (now : Int) :
    Binds r (externalReceipt r result now) := ⟨rfl, rfl, rfl, rfl⟩

/-- The receipts `ProcessProvider::execute` can return: those it makes from the output
of an external process, and whatever a worker prints. -/
def ProcessReceipt (r : OperationRequest) (receipt : OperationReceipt) : Prop :=
  r.backend = "external-process" → ∃ result now, receipt = externalReceipt r result now

/-- Every step commit of the journal beyond these entries carries a receipt bound to the
request. -/
def CommitsBound (r : OperationRequest) (entries : List Entry) (last : World) : Prop :=
  ∀ more, last.journal.entries = entries ++ more → ∀ entry ∈ more,
    entry.objectType = "StepCommit" → ∃ receipt, entry.payload = .receipt receipt ∧ Binds r receipt

/-! ### What the executor commits -/

section Commits

variable {r : OperationRequest} {May : OperationReceipt → Prop} {w : World} {token : Nat}

/-- Where the receipt of an execution comes from: the journal, or else the provider. -/
def Source (r : OperationRequest) (May : OperationReceipt → Prop) (w : World)
    (receipt : OperationReceipt) : Prop :=
  receivedIn r w.journal.entries = some receipt ∨
    receivedIn r w.journal.entries = none ∧ May receipt

/-- What an execution from `w` needs to commit a receipt. -/
structure Warrant (r : OperationRequest) (May : OperationReceipt → Prop) (w : World) (token : Nat)
    (receipt : OperationReceipt) : Prop where
  uncommitted : committedIn r w.journal.entries = none
  going : token ∉ w.cancelled
  source : Source r May w receipt

/-- The entries of an execution from `w`. -/
inductive Wrote (r : OperationRequest) (May : OperationReceipt → Prop) (w : World) (token : Nat) :
    Entry → Prop
  | intent : Wrote r May w token
      (entryOf r .intent "Operation" "PENDING" (.request r) (intentKey r.operationId))
  | receipt {receipt : OperationReceipt} (source : Source r May w receipt) : Wrote r May w token
      (entryOf r .observation "OperationReceipt" "RECEIVED" (.receipt receipt)
        (receiptKey r.operationId))
  | commit {receipt : OperationReceipt} (warrant : Warrant r May w token receipt) :
      Wrote r May w token (entryOf r .commit "StepCommit" "COMMITTED" (.receipt receipt)
        (commitKey r.operationId))

/-- The calls of an execution from `w`. -/
inductive Executes (r : OperationRequest) (May : OperationReceipt → Prop) (w : World)
    (token : Nat) : Call → Prop
  | read : Executes r May w token (.readWorkload r.workloadId)
  | append {entry : Entry} (wrote : Wrote r May w token entry) : Executes r May w token (.append entry)
  | stopped : Executes r May w token (.isCancelled token)
  | invoke : Executes r May w token (.providerExecute r token)
  | outcome : Executes r May w token (.providerOutcome r)

/-- What the journal of `w` and the flag tell an execution from `w`. -/
def Told (r : OperationRequest) (May : OperationReceipt → Prop) (w : World) :
    (call : Call) → Answer call → Prop
  | .readWorkload _, .ok entries =>
      (latestReceipt .commit "StepCommit" r.operationId entries = none →
        committedIn r w.journal.entries = none) ∧
      (∀ receipt, latestReceipt .observation "OperationReceipt" r.operationId entries =
        some receipt → Source r May w receipt) ∧
      (latestReceipt .observation "OperationReceipt" r.operationId entries = none →
        receivedIn r w.journal.entries = none)
  | .isCancelled token, stopped => stopped = false → token ∉ w.cancelled
  | .providerOutcome _, .ok receipt => May receipt
  | _, _ => True

theorem told_append {entryType : EntryType} {objectType phase key : String} {payload : Payload}
    {post : Except KernelError Unit → Prop}
    (wrote : Wrote r May w token (entryOf r entryType objectType phase payload key))
    (next : ∀ result, post result) :
    (append r entryType objectType phase payload key).run.Calls (Told r May w)
      (Executes r May w token) post := by
  apply Calls.bindExcept
  apply Calls.bind
  refine ⟨.append wrote, fun answer _ => ?_⟩
  cases answer with
  | error error => exact next _
  | ok sequence => exact next _

theorem told_committedReceipt :
    (committedReceipt r).run.Calls (Told r May w) (Executes r May w token) fun looked =>
      looked = .ok none → committedIn r w.journal.entries = none := by
  apply Calls.bindExcept
  refine ⟨.read, fun read told => ?_⟩
  cases read with
  | error error => exact nofun
  | ok entries => exact fun absent => told.1 (Except.ok.inj absent)

theorem told_receivedReceipt :
    (receivedReceipt r).run.Calls (Told r May w) (Executes r May w token) fun looked =>
      (∀ receipt, looked = .ok (some receipt) → Source r May w receipt) ∧
        (looked = .ok none → receivedIn r w.journal.entries = none) := by
  apply Calls.bindExcept
  refine ⟨.read, fun read told => ?_⟩
  cases read with
  | error error => exact ⟨nofun, nofun⟩
  | ok entries =>
      obtain ⟨-, source, absent⟩ := told
      exact ⟨fun receipt found => source receipt (Except.ok.inj found),
        fun missing => absent (Except.ok.inj missing)⟩

theorem told_receiptFor :
    (receiptFor r token).run.Calls (Told r May w) (Executes r May w token) fun result =>
      ∀ receipt, result = .ok receipt → Source r May w receipt := by
  have failed : ∀ (error : KernelError) (receipt : OperationReceipt),
      (Except.error error : Except KernelError OperationReceipt) = .ok receipt →
        Source r May w receipt := fun _ _ other => by cases other
  apply Calls.bindExcept
  apply told_receivedReceipt.mono fun _ => id
  intro looked received
  obtain ⟨source, absent⟩ := received
  cases looked with
  | error error => exact failed error
  | ok found =>
      cases found with
      | some receipt =>
          intro other returned
          cases returned
          exact source receipt rfl
      | none =>
          apply Calls.bindLift
          refine ⟨.invoke, fun _ _ => ?_⟩
          apply Calls.bindExcept
          refine ⟨.outcome, fun outcome may => ?_⟩
          cases outcome with
          | error error => exact failed error
          | ok receipt =>
              have provided : Source r May w receipt := .inr ⟨absent rfl, may⟩
              apply Calls.bindExcept
              apply told_append (.receipt provided)
              intro journaled
              cases journaled with
              | error error => exact failed error
              | ok _ =>
                  intro other returned
                  cases returned
                  exact provided

theorem told_executeCancellable :
    (executeCancellable r token).run.Calls (Told r May w) (Executes r May w token)
      fun _ => True := by
  apply Calls.bindExcept
  apply told_committedReceipt.mono fun _ => id
  intro looked absent
  cases looked with
  | error error => trivial
  | ok found =>
      cases found with
      | some receipt => trivial
      | none =>
          apply Calls.bindExcept
          apply told_append .intent
          intro intended
          cases intended with
          | error error => trivial
          | ok _ =>
              apply Calls.bindLift
              refine ⟨.stopped, fun stopped going => ?_⟩
              cases stopped with
              | true => trivial
              | false =>
                  apply Calls.bindExcept
                  apply told_receiptFor.mono fun _ => id
                  intro obtained source
                  cases obtained with
                  | error error => trivial
                  | ok receipt =>
                      have warrant : Warrant r May w token receipt :=
                        ⟨absent rfl, going rfl, source receipt rfl⟩
                      apply Calls.bindExcept
                      apply told_append (.commit warrant)
                      intro journaled
                      cases journaled with
                      | error error => trivial
                      | ok _ => trivial

/-- What an execution from `w` has done to the journal so far. -/
structure Tracks (r : OperationRequest) (May : OperationReceipt → Prop) (w : World) (token : Nat)
    (now : World) : Prop where
  grown : ∃ more, now.journal.entries = w.journal.entries ++ more ∧ ∀ entry ∈ more,
    entry.objectType = "StepCommit" → commitKey r.operationId ∉ w.journal.keys ∧
      ∃ receipt, entry.payload = .receipt receipt ∧ Warrant r May w token receipt
  received : ∀ receipt, receivedIn r now.journal.entries = some receipt → Source r May w receipt
  unreceived : receivedIn r now.journal.entries = none → receivedIn r w.journal.entries = none
  uncommitted : committedIn r now.journal.entries = none → committedIn r w.journal.entries = none
  cancelled : now.cancelled = w.cancelled

theorem Tracks.start : Tracks r May w token w where
  grown := ⟨[], by simp, by simp⟩
  received _ found := .inl found
  unreceived := id
  uncommitted := id
  cancelled := rfl

/-- A call that leaves the journal and the flags. -/
theorem Tracks.still {now later : World} (tracks : Tracks r May w token now)
    (journal : later.journal = now.journal) (cancelled : later.cancelled = now.cancelled) :
    Tracks r May w token later := by
  constructor
  · rw [journal]
    exact tracks.grown
  · rw [journal]
    exact tracks.received
  · rw [journal]
    exact tracks.unreceived
  · rw [journal]
    exact tracks.uncommitted
  · rw [cancelled]
    exact tracks.cancelled

theorem Wrote.keyed {entry : Entry} (wrote : Wrote r May w token entry) :
    ∃ key, entry.idempotencyKey = some key := by
  cases wrote with
  | intent => exact ⟨_, rfl⟩
  | receipt source => exact ⟨_, rfl⟩
  | commit warrant => exact ⟨_, rfl⟩

theorem Tracks.snoc {now later : World} {entry : Entry} {key : String} {sequence : Nat}
    {time : Int} (tracks : Tracks r May w token now) (wrote : Wrote r May w token entry)
    (keyed : entry.idempotencyKey = some key) (free : key ∉ keysOf now.journal.entries)
    (longer : later.journal.entries =
      now.journal.entries ++ [Journal.stamp sequence time entry])
    (cancelled : later.cancelled = now.cancelled) : Tracks r May w token later := by
  obtain ⟨more, rows, warranted⟩ := tracks.grown
  have old : ∀ key, key ∈ w.journal.keys → key ∈ keysOf now.journal.entries := by
    intro key used
    rw [rows, keysOf, List.filterMap_append]
    exact List.mem_append_left _ used
  constructor
  · refine ⟨more ++ [Journal.stamp sequence time entry], by rw [longer, rows, List.append_assoc],
      fun other member commits => ?_⟩
    rcases List.mem_append.mp member with before | last
    · exact warranted other before commits
    · rw [List.mem_singleton.mp last] at commits ⊢
      cases wrote with
      | intent => simp [Journal.stamp, entryOf] at commits
      | receipt source => simp [Journal.stamp, entryOf] at commits
      | commit warrant =>
          cases keyed
          exact ⟨fun used => free (old _ used), _, rfl, warrant⟩
  · intro receipt found
    rw [longer, receivedIn_snoc] at found
    split at found
    · rename_i matched
      cases wrote with
      | intent => simp [Journal.stamp, entryOf] at matched
      | receipt source =>
          cases found
          exact source
      | commit warrant => simp [Journal.stamp, entryOf] at matched
    · exact tracks.received receipt found
  · intro absent
    rw [longer, receivedIn_snoc] at absent
    split at absent
    · rename_i matched
      cases wrote with
      | intent => simp [Journal.stamp, entryOf] at matched
      | receipt source => cases absent
      | commit warrant => simp [Journal.stamp, entryOf] at matched
    · exact tracks.unreceived absent
  · intro absent
    rw [longer, committedIn_snoc] at absent
    split at absent
    · rename_i matched
      cases wrote with
      | intent => simp [Journal.stamp, entryOf] at matched
      | receipt source => simp [Journal.stamp, entryOf] at matched
      | commit warrant => cases absent
    · exact tracks.uncommitted absent
  · rw [cancelled]
    exact tracks.cancelled

theorem Tracks.answer {now : World} {call : Call} {choice : Choice}
    (tracks : Tracks r May w token now) (executes : Executes r May w token call)
    (may : ∀ receipt, choice.outcome = .ok receipt → May receipt) :
    Told r May w call (kernelAnswer call now choice).1 ∧
      Tracks r May w token (kernelAnswer call now choice).2 := by
  cases executes with
  | read =>
      refine ⟨?_, tracks.still rfl rfl⟩
      simp only [kernelAnswer, storageRead]
      cases choice.storage with
      | some error => trivial
      | none => exact ⟨tracks.uncommitted, tracks.received, tracks.unreceived⟩
  | stopped =>
      refine ⟨fun going => ?_, tracks.still rfl rfl⟩
      rw [← tracks.cancelled]
      exact of_decide_eq_false going
  | invoke => exact ⟨trivial, tracks.still rfl rfl⟩
  | outcome =>
      refine ⟨?_, tracks.still rfl rfl⟩
      show Told r May w (.providerOutcome r) choice.outcome
      cases answered : choice.outcome with
      | error error => trivial
      | ok receipt => exact may receipt answered
  | @append entry wrote =>
      refine ⟨trivial, ?_⟩
      obtain ⟨key, keyed⟩ := wrote.keyed
      have flags : (kernelAnswer (.append entry) now choice).2.cancelled = now.cancelled := by
        simp only [kernelAnswer, World.append]
        cases choice.storage with
        | some error => rfl
        | none => rfl
      rcases answer_append_cases (w := now) entry choice keyed with
        ⟨same, -⟩ | ⟨free, sequence, time, longer, -⟩
      · exact tracks.still same flags
      · exact tracks.snoc wrote keyed free longer flags

/-- A step commit of an execution is warranted. -/
theorem executeCancellable_warranted {choices : List Choice}
    (may : ∀ choice ∈ choices, ∀ receipt, choice.outcome = .ok receipt → May receipt) :
    Tracks r May w token ((executeCancellable r token).run.run kernel w choices).2 :=
  (Calls.run kernel (Tracks r May w token) told_executeCancellable
    (fun _ _ choice member executes tracks => tracks.answer executes (may choice member)) .start).1

end Commits

/-! ### What a provider's receipt becomes -/

/-- The operation has no commit, and its commit key is free. -/
structure Committable (r : OperationRequest) (entries : List Entry) : Prop where
  uncommitted : (ledgerIn r entries).committed = none
  unused : (ledgerIn r entries).commitUsed = false

section Runs

variable {r : OperationRequest} {w : World} {token : Nat} {receipt : OperationReceipt}
  {outcome : Except KernelError OperationReceipt}

/-- A storage that works and a provider that ends so. -/
def concluding (outcome : Except KernelError OperationReceipt) (_ : Call) (_ : World) : Choice :=
  ⟨0, none, outcome, .error (.provider "provider capability probe is unsupported")⟩

/-- The world after an append that the storage takes. -/
def appended (w : World) (entry : Entry) : World := ((w.tick 0).append entry none).2

theorem committedReceipt_runWith :
    (committedReceipt r).run.runWith kernel (concluding outcome) w =
      (.ok (committedIn r w.journal.entries), w.tick 0) := rfl

theorem receivedReceipt_runWith :
    (receivedReceipt r).run.runWith kernel (concluding outcome) w =
      (.ok (receivedIn r w.journal.entries), w.tick 0) := rfl

theorem isCancelled_runWith {α : Type} (next : Bool → Fallible α) :
    (lift (Task.isCancelled token) >>= next).run.runWith kernel (concluding outcome) w =
      (next (decide (token ∈ w.cancelled))).run.runWith kernel (concluding outcome) (w.tick 0) :=
  rfl

theorem append_concluding {entryType : EntryType} {objectType phase key : String}
    {payload : Payload} {β : Type} (next : Unit → Fallible β) :
    (append r entryType objectType phase payload key >>= next).run.runWith kernel
        (concluding outcome) w =
      (next ()).run.runWith kernel (concluding outcome)
        (appended w (entryOf r entryType objectType phase payload key)) := rfl

theorem receivedIn_intend :
    receivedIn r (appended w (entryOf r .intent "Operation" "PENDING" (.request r)
      (intentKey r.operationId))).journal.entries = receivedIn r w.journal.entries :=
  (congrArg Ledger.received (ledgerIn_intend r w.journal (w.tick 0).clock)).trans
    (Ledger.intend_received _ r)

theorem Committable.intend (free : Committable r w.journal.entries) :
    Committable r (appended w (entryOf r .intent "Operation" "PENDING" (.request r)
      (intentKey r.operationId))).journal.entries := by
  have moved := ledgerIn_intend r w.journal (w.tick 0).clock
  constructor
  · exact (congrArg Ledger.committed moved).trans
      ((Ledger.intend_committed _ r).trans free.uncommitted)
  · exact (congrArg Ledger.commitUsed moved).trans
      ((Ledger.intend_commitUsed _ r).trans free.unused)

theorem Committable.receive (free : Committable r w.journal.entries) (receipt : OperationReceipt) :
    Committable r (appended w (entryOf r .observation "OperationReceipt" "RECEIVED"
      (.receipt receipt) (receiptKey r.operationId))).journal.entries := by
  have moved := ledgerIn_receive r w.journal (w.tick 0).clock receipt
  constructor
  · exact (congrArg Ledger.committed moved).trans
      ((Ledger.receive_committed _ receipt).trans free.uncommitted)
  · exact (congrArg Ledger.commitUsed moved).trans
      ((Ledger.receive_commitUsed _ receipt).trans free.unused)

theorem Committable.commit (free : Committable r w.journal.entries) (receipt : OperationReceipt) :
    committedIn r (appended w (entryOf r .commit "StepCommit" "COMMITTED" (.receipt receipt)
      (commitKey r.operationId))).journal.entries = some receipt := by
  have moved := ledgerIn_commit r w.journal (w.tick 0).clock receipt
  exact (congrArg Ledger.committed moved).trans
    ((Ledger.commit_committed free.uncommitted).mpr free.unused)

theorem receiptFor_concluding (token : Nat) (free : Committable r w.journal.entries)
    (source : Source r (outcome = .ok ·) w receipt) :
    ∃ last, (receiptFor r token).run.runWith kernel (concluding outcome) w = (.ok receipt, last) ∧
      Committable r last.journal.entries := by
  unfold receiptFor
  rw [runWith_bindExcept, receivedReceipt_runWith]
  rcases source with recorded | ⟨none, rfl⟩
  · rw [recorded]
    exact ⟨w.tick 0, rfl, free⟩
  · rw [none]
    have invoked : Committable r
        ((((w.tick 0).tick 0).record (.invoked r)).tick 0).journal.entries := free
    exact ⟨_, rfl, invoked.receive receipt⟩

/-- An execution that nothing stops commits the receipt it gets. -/
theorem executeCancellable_commits (free : Committable r w.journal.entries)
    (going : token ∉ w.cancelled) (source : Source r (outcome = .ok ·) w receipt) :
    committedIn r ((executeCancellable r token).run.runWith kernel (concluding outcome)
      w).2.journal.entries = some receipt := by
  have uncommitted : committedIn r w.journal.entries = none := free.uncommitted
  unfold executeCancellable
  rw [runWith_bindExcept, committedReceipt_runWith, uncommitted]
  show committedIn r ((append r .intent "Operation" "PENDING" (.request r) (intentKey r.operationId)
    >>= _).run.runWith kernel (concluding outcome) (w.tick 0)).2.journal.entries = _
  let intended := appended (w.tick 0) (entryOf r .intent "Operation" "PENDING" (.request r)
    (intentKey r.operationId))
  have flags : intended.cancelled = w.cancelled := rfl
  have waiting : Committable r intended.journal.entries := Committable.intend (w := w.tick 0) free
  have given : Source r (outcome = .ok ·) (intended.tick 0) receipt := by
    unfold Source
    rw [World.tick_journal, receivedIn_intend]
    exact source
  rw [append_concluding, isCancelled_runWith, flags, decide_eq_false going]
  show committedIn r ((receiptFor r token >>= _).run.runWith kernel (concluding outcome)
    (intended.tick 0)).2.journal.entries = _
  obtain ⟨last, obtained, ready⟩ := receiptFor_concluding token (w := intended.tick 0) waiting given
  rw [runWith_bindExcept, obtained]
  exact ready.commit receipt

end Runs

/-! ### When every step commit is bound -/

/-- The receipt that ends a journal without one is among the rows that end it. -/
theorem committedIn_grown {r : OperationRequest} {entries more : List Entry}
    {receipt : OperationReceipt} (uncommitted : committedIn r entries = none)
    (committed : committedIn r (entries ++ more) = some receipt) :
    ∃ entry ∈ more, entry.objectType = "StepCommit" ∧ entry.payload = .receipt receipt := by
  induction more using List.reverseRecOn with
  | nil =>
      rw [List.append_nil, uncommitted] at committed
      cases committed
  | append_singleton more entry ih =>
      rw [← List.append_assoc, committedIn_snoc] at committed
      split at committed
      · rename_i matched
        exact ⟨entry, by simp, matched.2.2.1, receipt_of_payload committed⟩
      · obtain ⟨row, member, commits, carried⟩ := ih committed
        exact ⟨row, List.mem_append_left _ member, commits, carried⟩

/-- If every commit of an execution is bound, so is the receipt that it gets. -/
theorem binds_committed {r : OperationRequest} {token : Nat} {w : World}
    {May : OperationReceipt → Prop} {receipt : OperationReceipt}
    (outcome : Except KernelError OperationReceipt)
    (bound : ∀ choices : List Choice,
      (∀ choice ∈ choices, ∀ receipt, choice.outcome = .ok receipt → May receipt) →
      CommitsBound r w.journal.entries ((executeCancellable r token).run.run kernel w choices).2)
    (free : Committable r w.journal.entries) (going : token ∉ w.cancelled)
    (source : Source r (outcome = .ok ·) w receipt)
    (may : ∀ receipt, outcome = .ok receipt → May receipt) : Binds r receipt := by
  have committed := executeCancellable_commits free going source
  obtain ⟨choices, picked, ran⟩ := run_of_runWith kernel (concluding outcome)
    (executeCancellable r token).run w
  have allowed : ∀ choice ∈ choices, ∀ receipt, choice.outcome = .ok receipt → May receipt := by
    intro choice member other returned
    obtain ⟨call, now, rfl⟩ := picked choice member
    exact may other returned
  have kept := bound choices allowed
  obtain ⟨more, rows, -⟩ := (executeCancellable_warranted allowed).grown
  rw [ran] at kept rows
  rw [rows] at committed
  obtain ⟨entry, member, commits, carried⟩ := committedIn_grown free.uncommitted committed
  obtain ⟨same, carries, binds⟩ := kept more rows entry member commits
  rw [carried] at carries
  cases carries
  exact binds

/-- What keeps every step commit bound. -/
theorem commits_bound {r : OperationRequest} {token : Nat} {w : World}
    {May : OperationReceipt → Prop} {choices : List Choice}
    (condition : committedIn r w.journal.entries ≠ none ∨
      commitKey r.operationId ∈ w.journal.keys ∨ token ∈ w.cancelled ∨
        ∀ receipt, Source r May w receipt → Binds r receipt)
    (may : ∀ choice ∈ choices, ∀ receipt, choice.outcome = .ok receipt → May receipt) :
    CommitsBound r w.journal.entries
      ((executeCancellable r token).run.run kernel w choices).2 := by
  intro more rows entry member commits
  obtain ⟨more', rows', warranted⟩ := (executeCancellable_warranted may).grown
  rw [rows', List.append_cancel_left_eq] at rows
  subst rows
  obtain ⟨unused, receipt, carried, warrant⟩ := warranted entry member commits
  refine ⟨receipt, carried, ?_⟩
  rcases condition with committed | used | stopped | bound
  · exact absurd warrant.uncommitted committed
  · exact absurd used unused
  · exact absurd stopped warrant.going
  · exact bound receipt warrant.source

/-- An external process cannot unbind a step commit: only a receipt recorded before can. -/
theorem external_commits_bound {r : OperationRequest} {token : Nat} {w : World}
    {choices : List Choice} (external : r.backend = "external-process")
    (recorded : ∀ receipt, receivedIn r w.journal.entries = some receipt → Binds r receipt)
    (process : ∀ choice ∈ choices, ∀ receipt, choice.outcome = .ok receipt →
      ProcessReceipt r receipt) :
    CommitsBound r w.journal.entries
      ((executeCancellable r token).run.run kernel w choices).2 := by
  apply commits_bound (.inr (.inr (.inr ?_))) process
  rintro receipt (found | ⟨-, returned⟩)
  · exact recorded receipt found
  · obtain ⟨result, now, rfl⟩ := returned external
    exact binds_externalReceipt r result now

/-- The step commits of an execution, interrupted or not, are bound to its request
whatever the provider does exactly if it cannot commit at all (the operation is
committed, its commit key is used, or it is cancelled), or the recorded receipt is
bound, or none is recorded and the provider returns bound receipts only. -/
theorem commits_bound_iff (r : OperationRequest) (token : Nat) (w : World)
    (May : OperationReceipt → Prop) :
    (∀ choices : List Choice,
      (∀ choice ∈ choices, ∀ receipt, choice.outcome = .ok receipt → May receipt) →
      CommitsBound r w.journal.entries
        ((executeCancellable r token).run.run kernel w choices).2) ↔
    committedIn r w.journal.entries ≠ none ∨ commitKey r.operationId ∈ w.journal.keys ∨
      token ∈ w.cancelled ∨
      match receivedIn r w.journal.entries with
      | some receipt => Binds r receipt
      | none => ∀ receipt, May receipt → Binds r receipt := by
  constructor
  · intro bound
    by_contra failing
    simp only [not_or, ne_eq, not_not] at failing
    obtain ⟨uncommitted, unused, going, unbound⟩ := failing
    have free : Committable r w.journal.entries := ⟨uncommitted, decide_eq_false unused⟩
    cases recorded : receivedIn r w.journal.entries with
    | some receipt =>
        rw [recorded] at unbound
        refine unbound (binds_committed (.error (.provider "provider unavailable")) bound free going
          (.inl recorded) ?_)
        exact fun _ other => by cases other
    | none =>
        rw [recorded] at unbound
        refine unbound fun receipt may => binds_committed (.ok receipt) bound free going
          (.inr ⟨recorded, rfl⟩) ?_
        intro other same
        cases same
        exact may
  · intro condition choices may
    apply commits_bound (condition.imp_right (.imp_right (.imp_right ?_))) may
    intro bound receipt source
    rcases source with recorded | ⟨none, allowed⟩
    · rw [recorded] at bound
      exact bound
    · rw [none] at bound
      exact bound receipt allowed

/-- A worker that prints the receipt of another operation. -/
theorem commits_unbound :
    ¬ ∀ (r : OperationRequest) (token : Nat) (w : World) (choices : List Choice),
      CommitsBound r w.journal.entries
        ((executeCancellable r token).run.run kernel w choices).2 := by
  intro bound
  let r := sampleRequest "operation-1" "workload-1" "revision-1" .idempotent
  have free : Committable r (World.boot sampleUuids 0).journal.entries := ⟨rfl, rfl⟩
  have commits : ∀ choices : List Choice,
      (∀ choice ∈ choices, ∀ receipt, choice.outcome = .ok receipt → True) →
      CommitsBound r (World.boot sampleUuids 0).journal.entries
        ((executeCancellable r 0).run.run kernel (.boot sampleUuids 0) choices).2 :=
    fun choices _ => bound r 0 _ choices
  have binds : Binds r (sampleReceipt "operation-2" "result") :=
    binds_committed (.ok (sampleReceipt "operation-2" "result")) commits free
      (by simp [World.boot]) (.inr ⟨rfl, rfl⟩) fun _ _ => trivial
  have same : "operation-2" = "operation-1" := binds.operation
  exact absurd same (by decide)

end NousKernel
