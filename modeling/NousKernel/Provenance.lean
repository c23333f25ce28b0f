import NousKernel.Pending
import NousKernel.Storage

/-!
What the result of a continuity plan speaks about. A step that finds a commit
under the ids of its first candidate replays it, and these ids are compared with
the plan only where the candidates are executed.
-/

set_option autoImplicit false

namespace NousKernel

open Resumption Resumption.Discipline Resumption.Prog

/-! ### Digests -/

def OperationRequest.inputDigest (request : OperationRequest) : String :=
  hexDigest (asBytes request.input)

/-- A receipt of the provider carries the digest of the input it was asked for. -/
def Candid (call : Call) (_ : World) (choice : Choice) : Prop :=
  match call with
  | .providerOutcome r => ∀ receipt ∈ choice.outcome.toOption, receipt.inputDigest = r.inputDigest
  | _ => True

instance (call : Call) (w : World) (choice : Choice) : Decidable (Candid call w choice) := by
  unfold Candid
  split <;> infer_instance

/-! ### Where the receipts of an operation come from -/

/-- What the journal holds of the operation of `q`. Its receipts are all `Fine`,
`Open` holds as long as none is received, and if it was `Free`, its commit key is
used by its commit only. -/
structure Sourced (q : OperationRequest) (Fine : OperationReceipt → Prop) (Open Free : Prop)
    (entries : List Entry) : Prop where
  committed : ∀ receipt, committedIn q entries = some receipt → Fine receipt
  received : ∀ receipt, receivedIn q entries = some receipt → Fine receipt
  unreceived : receivedIn q entries = none → Open
  unused : Free → committedIn q entries = none → commitKey q.operationId ∉ keysOf entries

/-- An entry that keeps the journal sourced. -/
structure Fits (q : OperationRequest) (Fine : OperationReceipt → Prop) (entry : Entry) : Prop where
  fine : ∀ receipt, entry.payload = .receipt receipt → Fine receipt
  carries : entry.objectType = "StepCommit" ∨ entry.objectType = "OperationReceipt" →
    ∃ receipt, entry.payload = .receipt receipt
  keyed : ∃ key, entry.idempotencyKey = some key ∧ (key = commitKey q.operationId →
    entry.workloadId = q.workloadId ∧ entry.entryType = .commit ∧
      entry.objectType = "StepCommit" ∧ entry.objectId = q.operationId)

section Sources

variable {q r : OperationRequest} {Fine : OperationReceipt → Prop} {Open Free : Prop}
  {entries : List Entry} {entry : Entry}

theorem receipt_of_payload {payload : Payload} {receipt : OperationReceipt}
    (found : payload.receipt? = some receipt) : payload = .receipt receipt := by
  cases payload <;> simp_all [Payload.receipt?]

theorem Sourced.snoc (sourced : Sourced q Fine Open Free entries) (fits : Fits q Fine entry) :
    Sourced q Fine Open Free (entries ++ [entry]) := by
  obtain ⟨key, keyed, own⟩ := fits.keyed
  constructor
  · intro receipt found
    rw [committedIn_snoc] at found
    split at found
    · exact fits.fine receipt (receipt_of_payload found)
    · exact sourced.committed receipt found
  · intro receipt found
    rw [receivedIn_snoc] at found
    split at found
    · exact fits.fine receipt (receipt_of_payload found)
    · exact sourced.received receipt found
  · intro absent
    rw [receivedIn_snoc] at absent
    split at absent
    · rename_i matched
      obtain ⟨receipt, carried⟩ := fits.carries (.inr matched.2.2.1)
      simp [carried, Payload.receipt?] at absent
    · exact sourced.unreceived absent
  · intro free absent
    rw [committedIn_snoc] at absent
    rw [keysOf_snoc entries entry key keyed, List.mem_append, List.mem_singleton, not_or]
    split at absent
    · rename_i matched
      obtain ⟨receipt, carried⟩ := fits.carries (.inl matched.2.2.1)
      simp [carried, Payload.receipt?] at absent
    · rename_i other
      exact ⟨sourced.unused free absent, fun same => other (own same.symm)⟩

/-- The place of an entry in the journal and its time do not matter. -/
theorem Fits.stamp (fits : Fits q Fine entry) (sequence : Nat) (now : Int) :
    Fits q Fine (Journal.stamp sequence now entry) :=
  ⟨fits.fine, fits.carries, fits.keyed⟩

theorem Sourced.append {j : Journal Payload} (sourced : Sourced q Fine Open Free j.entries)
    (fits : Fits q Fine entry) (now : Int) :
    Sourced q Fine Open Free (j.append entry now).2.entries := by
  obtain ⟨key, keyed, -⟩ := fits.keyed
  rw [Journal.append_entries key now keyed]
  split
  · exact sourced
  · exact sourced.snoc (fits.stamp _ _)

/-- No call but an append touches the sources. -/
theorem Sourced.answer {w : World} {call : Call}
    (sourced : Sourced q Fine Open Free w.journal.entries) (choice : Choice)
    (fits : ∀ entry, call = .append entry → Fits q Fine entry) :
    Sourced q Fine Open Free (kernelAnswer call w choice).2.journal.entries := by
  by_cases appends : ∃ entry, call = .append entry
  · obtain ⟨entry, rfl⟩ := appends
    have fitting := fits entry rfl
    obtain ⟨key, keyed, -⟩ := fitting.keyed
    rcases answer_append_cases (w := w) entry choice keyed with
      ⟨same, -⟩ | ⟨-, sequence, now, longer, -⟩
    · rw [same]
      exact sourced
    · rw [longer]
      exact sourced.snoc (fitting.stamp sequence now)
  · rw [answer_journal choice fun entry same => appends ⟨entry, same⟩]
    exact sourced

/-! ### One attempt -/

/-- Two requests for one operation of one workload. -/
structure SameIds (q r : OperationRequest) : Prop where
  workload : r.workloadId = q.workloadId
  operation : r.operationId = q.operationId

theorem SameIds.committedIn (same : SameIds q r) (entries : List Entry) :
    committedIn r entries = committedIn q entries := by
  rw [NousKernel.committedIn, NousKernel.committedIn, same.workload, same.operation]

theorem SameIds.receivedIn (same : SameIds q r) (entries : List Entry) :
    receivedIn r entries = receivedIn q entries := by
  rw [NousKernel.receivedIn, NousKernel.receivedIn, same.workload, same.operation]

/-- A row that is neither a receipt nor a commit fits. -/
theorem Row.fits {kind : RowKind} (row : Row r kind entry) (plain : Plain kind)
    (same : SameIds q r) : Fits q Fine entry := by
  obtain ⟨notReceipt, notCommit, key, keyed, -, other⟩ := row.plain plain
  refine ⟨?_, ?_, key, keyed, fun equal => absurd (same.operation ▸ equal) other⟩
  · intro receipt carried
    cases row with
    | receipt | commit => simp [Plain] at plain
    | profile => simp [profileEntry] at carried
    | failure | abort => simp [entryOf, failurePayload] at carried
    | _ => simp [entryOf] at carried
  · intro kind
    rcases kind with commit | receipt
    · exact absurd commit notCommit
    · exact absurd receipt notReceipt

theorem fits_receipt {receipt : OperationReceipt} (same : SameIds q r) (fine : Fine receipt) :
    Fits q Fine (entryOf r .observation "OperationReceipt" "RECEIVED" (.receipt receipt)
      (receiptKey r.operationId)) := by
  obtain ⟨-, -, -, -, -, apart⟩ := moves_differ r.operationId ""
  refine ⟨?_, fun _ => ⟨receipt, rfl⟩, _, rfl, fun equal => ?_⟩
  · intro other carried
    cases carried
    exact fine
  · exact absurd (same.operation ▸ equal) apart

theorem fits_commit {receipt : OperationReceipt} (same : SameIds q r) (fine : Fine receipt) :
    Fits q Fine (entryOf r .commit "StepCommit" "COMMITTED" (.receipt receipt)
      (commitKey r.operationId)) := by
  refine ⟨?_, fun _ => ⟨receipt, rfl⟩, _, rfl, fun _ => ⟨same.workload, rfl, rfl, same.operation⟩⟩
  intro other carried
  cases carried
  exact fine

/-- The answers that an attempt of the operation gets from a sourced journal and a
candid provider. -/
def Sourcing (q : OperationRequest) (Fine : OperationReceipt → Prop) (Open : Prop) :
    (call : Call) → Answer call → Prop
  | .readWorkload workloadId, .ok entries => workloadId = q.workloadId →
      (∀ receipt, latestReceipt .observation "OperationReceipt" q.operationId entries =
        some receipt → Fine receipt) ∧
      (latestReceipt .observation "OperationReceipt" q.operationId entries = none → Open)
  | .grantFenced .., .ok fenced => ':' ∉ fenced.lease.leaseId.toList
  | .providerOutcome _, .ok receipt => Open → Fine receipt
  | _, _ => True

/-- The calls of an attempt of `r` that append fitting entries only. -/
def Supplies (r q : OperationRequest) (Fine : OperationReceipt → Prop) (call : Call) : Prop :=
  Concerns r call ∧ ∀ entry, call = .append entry → Fits q Fine entry

theorem Sourcing.honest (call : Call) (answer : Answer call)
    (sourcing : Sourcing q Fine Open call answer) : Honest (fun _ => True) call answer := by
  cases call with
  | grantFenced =>
      cases answer with
      | ok fenced => exact sourcing
      | error error => trivial
  | _ => trivial

theorem Acts.supplies {leases : Prop} (same : SameIds q r) (call : Call)
    (acts : Acts r Plain leases call) : Supplies r q Fine call := by
  refine ⟨acts.concerns, ?_⟩
  rintro entry rfl
  cases acts with
  | append kind entry row plain => exact row.fits plain same

/-- A part of an attempt that neither records a receipt nor commits. -/
theorem supplies_part {α : Type} {leases : Prop} {p : Task α} {post : α → Prop}
    (same : SameIds q r) (calls : p.Calls (Honest fun _ => True) (Acts r Plain leases) post) :
    p.Calls (Sourcing q Fine Open) (Supplies r q Fine) fun _ => True :=
  (calls.restrict Sourcing.honest).mono (Acts.supplies same) fun _ _ => trivial

theorem supplies_then {α β : Type} {leases : Prop} {x : Fallible α} {f : α → Fallible β}
    {post : Except KernelError α → Prop} (same : SameIds q r)
    (calls : x.run.Calls (Honest fun _ => True) (Acts r Plain leases) post)
    (rest : ∀ value, (f value).run.Calls (Sourcing q Fine Open) (Supplies r q Fine) fun _ => True) :
    (x >>= f).run.Calls (Sourcing q Fine Open) (Supplies r q Fine) fun _ => True := by
  apply Calls.bindExcept
  apply (supplies_part same calls).mono fun _ => id
  intro outcome _
  cases outcome with
  | ok value => exact rest value
  | error error => trivial

theorem supplies_perform {call : Call} {post : Answer call → Prop} (same : SameIds q r)
    (acts : Acts r Plain True call) (rest : ∀ answer, Sourcing q Fine Open call answer → post answer) :
    (perform call).Calls (Sourcing q Fine Open) (Supplies r q Fine) post :=
  ⟨Acts.supplies same call acts, rest⟩

/-- An append of a fitting entry. -/
theorem supplies_append {kind : RowKind} {entryType : EntryType} {objectType phase key : String}
    {payload : Payload} {post : Except KernelError Unit → Prop}
    (row : Row r kind (entryOf r entryType objectType phase payload key))
    (fits : Fits q Fine (entryOf r entryType objectType phase payload key))
    (rest : ∀ result, post result) :
    (append r entryType objectType phase payload key).run.Calls (Sourcing q Fine Open)
      (Supplies r q Fine) post := by
  refine ⟨⟨.append kind _ row trivial, ?_⟩, fun answer _ => ?_⟩
  · intro entry same
    cases same
    exact fits
  · cases answer with
    | ok value => exact rest _
    | error error => exact rest _

theorem supplies_receivedReceipt (same : SameIds q r) :
    (receivedReceipt r).run.Calls (Sourcing q Fine Open) (Supplies r q Fine) fun looked =>
      (∀ receipt, looked = .ok (some receipt) → Fine receipt) ∧ (looked = .ok none → Open) := by
  apply Calls.bindExcept
  apply Calls.bind
  apply supplies_perform same (.readWorkload r.workloadId)
  intro read sourced
  cases read with
  | error error => exact ⟨nofun, nofun⟩
  | ok entries =>
      obtain ⟨fine, opens⟩ := sourced same.workload
      rw [← same.operation] at fine opens
      exact ⟨fun receipt found => fine receipt (Except.ok.inj found),
        fun missing => opens (Except.ok.inj missing)⟩

/-- The receipt that is committed is a fine one. -/
theorem supplies_receiptFor (same : SameIds q r) (cancellation : Nat) :
    (receiptFor r cancellation).run.Calls (Sourcing q Fine Open) (Supplies r q Fine)
      fun result => ∀ receipt, result = .ok receipt → Fine receipt := by
  have failed : ∀ (error : KernelError) (receipt : OperationReceipt),
      (Except.error error : Except KernelError OperationReceipt) = .ok receipt → Fine receipt :=
    fun _ _ other => by cases other
  apply Calls.bindExcept
  apply (supplies_receivedReceipt same).mono fun _ => id
  intro looked received
  obtain ⟨fine, opens⟩ := received
  cases looked with
  | error error => exact failed error
  | ok found =>
      cases found with
      | some receipt =>
          intro other returned
          cases returned
          exact fine receipt rfl
      | none =>
          apply Calls.bindLift
          apply supplies_perform same (.providerExecute cancellation)
          intro _ _
          apply Calls.bindExcept
          apply supplies_perform same .providerOutcome
          intro outcome candid
          cases outcome with
          | error error => exact failed error
          | ok receipt =>
              have held : Fine receipt := candid (opens rfl)
              apply Calls.bindExcept
              apply supplies_append (.receipt receipt) (fits_receipt same held)
              intro journaled
              cases journaled with
              | error error => exact failed error
              | ok _ =>
                  intro other returned
                  cases returned
                  exact held

theorem supplies_executeCancellable (same : SameIds q r) (cancellation : Nat) :
    (executeCancellable r cancellation).run.Calls (Sourcing q Fine Open) (Supplies r q Fine)
      fun _ => True := by
  apply supplies_then same (show (committedReceipt r).run.Calls _ (Acts r Plain False) _ from
    calls_lookup _ (calls_readWorkload _) _)
  intro committed
  cases committed with
  | some receipt => trivial
  | none =>
      have intends : (append r .intent "Operation" "PENDING" (.request r)
          (intentKey r.operationId)).run.Calls (Honest fun _ => True) (Acts r Plain False)
            (EndsWith fun _ => True) := calls_append .intent (.inl rfl)
      apply supplies_then same intends
      intro _
      apply Calls.bindLift
      apply supplies_perform same (.isCancelled cancellation)
      intro stopped _
      cases stopped with
      | true => trivial
      | false =>
          apply Calls.bindExcept
          apply (supplies_receiptFor same cancellation).mono fun _ => id
          intro obtained fine
          cases obtained with
          | error error => trivial
          | ok receipt =>
              apply Calls.bindExcept
              apply supplies_append (.commit receipt) (fits_commit same (fine receipt rfl))
              intro journaled
              cases journaled with
              | ok _ => trivial
              | error error => trivial

theorem supplies_executeLeased (same : SameIds q r) (recovered : Bool) (admittedStarted : Int)
    (placement : PlacementDecision) (trace : DecisionTrace) (fenced : FencedLease) :
    (executeLeased r recovered admittedStarted placement trace fenced).run.Calls
      (Sourcing q Fine Open) (Supplies r q Fine) fun _ => True := by
  apply Calls.bind
  apply supplies_perform same .newCancellation
  intro cancellation _
  apply Calls.bind
  apply supplies_perform same (.activeInsert _ _ rfl)
  intro _ _
  apply Calls.bind
  apply supplies_perform same .now
  intro started _
  apply Calls.bind
  apply supplies_perform same .now
  intro queued _
  apply Calls.bind
  apply (supplies_executeCancellable same cancellation).mono fun _ => id
  intro execution _
  apply Calls.bind
  apply supplies_perform same .now
  intro executed _
  apply supplies_part same
  exact (calls_settle r _ _ _ (fun _ _ => .inl trivial) rfl rfl rfl).mono
    (Acts.mono (fun _ => Or.imp_right .inr) id) fun _ => id

/-- An attempt of the operation appends fitting entries only. -/
theorem supplies_attempt (same : SameIds q r) (recovered : Bool) :
    (attempt r recovered).run.Calls (Sourcing q Fine Open) (Supplies r q Fine) fun _ => True := by
  apply Calls.bind
  apply supplies_perform same .attempt
  intro _ _
  have inner : (executeInternal r recovered).run.Calls (Sourcing q Fine Open) (Supplies r q Fine)
      fun _ => True := by
    apply Calls.bindLift
    apply supplies_perform same .now
    intro admitted _
    cases r.validateSensitiveReferences with
    | error reason => trivial
    | ok _ =>
        apply Calls.bindLift
        apply supplies_perform same .kernelState
        intro state _
        split
        · trivial
        · apply supplies_then same (show (committedReceipt r).run.Calls _ (Acts r Plain False) _ from
            calls_lookup _ (calls_readWorkload _) _)
          intro committed
          cases committed with
          | some receipt =>
              apply supplies_then same
                (show (latestDecisionTrace r.operationId).run.Calls _ (Acts r Plain False) _ from
                  calls_lookup _ (calls_readFrom _) _)
              exact fun _ => trivial
          | none =>
              apply supplies_then same
                ((calls_schedule r admitted).mono (Acts.mono (fun _ => .inl) id) fun _ => id)
              intro placed
              apply supplies_then same ((calls_grantLease r placed.1).mono
                (Acts.mono (fun _ granted => .inr (.inl granted)) id) fun _ => id)
              intro fenced
              exact supplies_executeLeased same recovered admitted placed.1 placed.2 fenced
  apply Calls.bind
  apply inner.mono fun _ => id
  intro result _
  apply Calls.bind
  apply supplies_perform same (.finish _)
  exact fun _ _ => trivial

/-- A sourced journal and a candid provider answer as the attempt expects. -/
theorem sourcing_answer {w : World} {call : Call} {choice : Choice}
    (sourced : Sourced q Fine Open Free w.journal.entries) (concerns : Concerns r call)
    (candid : Candid call w choice)
    (answers : Open → ∀ receipt, receipt.inputDigest = r.inputDigest → Fine receipt) :
    Sourcing q Fine Open call (kernelAnswer call w choice).1 := by
  have honest : Honest (fun _ => True) call (kernelAnswer call w choice).1 :=
    honest_answer call w choice trivial
  cases concerns with
  | readWorkload workloadId =>
      simp only [kernelAnswer, storageRead]
      cases choice.storage with
      | some error => trivial
      | none =>
          intro same
          rw [same]
          exact ⟨sourced.received, sourced.unreceived⟩
  | providerOutcome =>
      show Sourcing q Fine Open (.providerOutcome r) choice.outcome
      cases outcome : choice.outcome with
      | error error => trivial
      | ok receipt =>
          intro opens
          exact answers opens receipt (candid receipt (by simp [outcome, Except.toOption]))
  | grantFenced =>
      revert honest
      generalize (kernelAnswer _ w choice).1 = granted
      intro honest
      cases granted with
      | ok fenced => exact honest
      | error error => trivial
  | _ => trivial

/-! ### One step of a plan -/

/-- How an execution for the operation of `q` ends. -/
theorem safe_supplied {base : List Event} {w : World} (same : SameIds q r)
    (sourced : Sourced q Fine Open Free w.journal.entries)
    (answers : Open → ∀ receipt, receipt.inputDigest = r.inputDigest → Fine receipt) :
    (sequential (fun _ => True) base Candid).Safe (fun result later =>
      match result with
      | .ok execution => Fine execution.receipt ∧
          (Free → committedIn q later.journal.entries = some execution.receipt)
      | .error _ => Sourced q Fine Open Free later.journal.entries) (execute r).run w := by
  have safe : (sequential (fun _ => True) base Candid).Safe _ (attempt r false).run w :=
    safe_attempt trivial
  have stays : ∀ a b : World, Sourced q Fine Open Free a.journal.entries → a = b →
      Sound (fun _ => True) base b → Sourced q Fine Open Free b.journal.entries := by
    rintro a _ kept rfl _
    exact kept
  have calls : (attempt r false).run.Calls (Sourcing q Fine Open) (Supplies r q Fine) fun _ => True :=
    supplies_attempt same false
  refine (safe.and_calls (fun now => Sourced q Fine Open Free now.journal.entries)
    calls ?_ stays sourced).mono ?_
  · intro call now choice supplies kept _ candid
    exact ⟨sourcing_answer kept supplies.1 candid answers, kept.answer choice supplies.2⟩
  · rintro result later - ⟨⟨-, -, concluded⟩, kept⟩
    cases result with
    | error error => exact kept
    | ok execution =>
        have before : (ledgerIn r w.journal.entries).committed = committedIn q w.journal.entries :=
          same.committedIn _
        have received : (ledgerIn r w.journal.entries).received = receivedIn q w.journal.entries :=
          same.receivedIn _
        have after : (ledgerIn r later.journal.entries).committed =
            committedIn q later.journal.entries := same.committedIn _
        have free : Free → committedIn q w.journal.entries = none →
            (ledgerIn r w.journal.entries).commitUsed = false := by
          intro free absent
          have unused := sourced.unused free absent
          rw [← same.operation] at unused
          simpa [ledgerIn] using unused
        show Fine execution.receipt ∧ _
        rcases concluded.ok with ⟨committed, kept⟩ | ⟨uncommitted, found, moved⟩ |
          ⟨uncommitted, absent, answered, moved⟩
        · have replayed : committedIn q w.journal.entries = some execution.receipt :=
            before ▸ committed
          refine ⟨sourced.committed _ replayed, fun _ => ?_⟩
          rw [← after, kept, committed]
        · refine ⟨sourced.received _ (received ▸ found), fun unused => ?_⟩
          rw [← after, moved, Ledger.commit_committed (by simpa using uncommitted)]
          simpa using free unused (before ▸ uncommitted)
        · obtain ⟨world, choice, candid, outcome⟩ := answered
          refine ⟨?_, fun unused => ?_⟩
          · apply answers (sourced.unreceived (received ▸ absent))
            exact candid _ (by simp [outcome, Except.toOption])
          · rw [← after, moved, Ledger.commit_committed (by simpa using uncommitted)]
            simpa using free unused (before ▸ uncommitted)

/-- The key of a candidate's note ends with its phase. -/
theorem candidateKey_ne_commitKey {operationId provider phase other : String}
    (listed : phase ∈ ["EVALUATING", "UNAVAILABLE", "INCOMPATIBLE", "EXECUTION_FAILED"]) :
    candidateKey operationId provider phase ≠ commitKey other := by
  intro same
  have reversed := congrArg (fun text => text.toList.reverse) same
  simp only [List.mem_cons, List.not_mem_nil, or_false] at listed
  rcases listed with rfl | rfl | rfl | rfl <;>
    simp [candidateKey, commitKey, operationKey] at reversed

/-- An entry of another kind, under a key that is no commit key of `q`. -/
theorem fits_note {entryType : EntryType} {objectType phase key : String} {payload : Payload}
    (apart : objectType ≠ "StepCommit" ∧ objectType ≠ "OperationReceipt")
    (empty : ∀ receipt, payload ≠ .receipt receipt) (other : key ≠ commitKey q.operationId) :
    Fits q Fine (entryOf r entryType objectType phase payload key) := by
  refine ⟨fun receipt carried => absurd carried (empty receipt), ?_, key, rfl,
    fun same => absurd same other⟩
  intro kind
  rcases kind with commit | receipt
  · exact absurd commit apart.1
  · exact absurd receipt apart.2

section Steps

variable {base : List Event} {w : World} {α β : Type}

/-- A part of a step that leaves the sources as they were unless it fails. -/
def Harmless (q : OperationRequest) (Fine : OperationReceipt → Prop) (Open Free : Prop)
    (result : Except KernelError α) (later : World) : Prop :=
  ∀ value, result = .ok value → Sourced q Fine Open Free later.journal.entries

/-- A harmless part, and the rest. -/
theorem safe_harmless {x : Fallible α} {f : α → Fallible β}
    {post : Except KernelError β → World → Prop}
    (safe : (sequential (fun _ => True) base Candid).Safe (Harmless q Fine Open Free) x.run w)
    (fails : ∀ error later, post (.error error) later)
    (rest : ∀ value later, Sourced q Fine Open Free later.journal.entries →
      (sequential (fun _ => True) base Candid).Safe post (f value).run later) :
    (sequential (fun _ => True) base Candid).Safe post (x >>= f).run w := by
  apply Safe.bindExcept sequential_quiet
  apply safe.mono
  intro result later _ harmless
  cases result with
  | ok value => exact rest value later (harmless value rfl)
  | error error => exact safe_done fun _ => fails error later

theorem safe_note {entryType : EntryType} {objectType phase key : String} {payload : Payload}
    (sourced : Sourced q Fine Open Free w.journal.entries)
    (written : Written (fun _ => True) (entryOf r entryType objectType phase payload key))
    (ordered : Ordered w.history (entryOf r entryType objectType phase payload key))
    (fits : Fits q Fine (entryOf r entryType objectType phase payload key)) :
    (sequential (fun _ => True) base Candid).Safe (Harmless q Fine Open Free)
      (append r entryType objectType phase payload key).run w := by
  apply safe_append written fun _ => ordered
  · intro later appends value _
    obtain ⟨now, journal⟩ := appends.journal
    rw [journal]
    exact sourced.append fits now
  · exact fun _ later error _ value other => by cases other

theorem safe_candidateNote {provider phase reason : String}
    (sourced : Sourced q Fine Open Free w.journal.entries)
    (listed : phase ∈ ["EVALUATING", "UNAVAILABLE", "INCOMPATIBLE", "EXECUTION_FAILED"]) :
    (sequential (fun _ => True) base Candid).Safe (Harmless q Fine Open Free)
      (recordCandidateOutcome r provider phase reason).run w :=
  safe_note sourced (.candidate r provider phase reason trivial listed)
    (.free (by simp [entryOf]) (by simp [entryOf]) (by simp [entryOf]))
    (fits_note (by decide) (by simp) (candidateKey_ne_commitKey listed))

/-- The rebind entries of a candidate with the ids of the step. -/
theorem safe_rebinds {stepId toProvider : String} {candidate : FailoverCandidate}
    {report : CompatibilityReport} {progress : StepProgress} (same : SameIds q candidate.request)
    (sourced : Sourced q Fine Open Free w.journal.entries) :
    (sequential (fun _ => True) base Candid).Safe (Harmless q Fine Open Free)
      (rebindAfter stepId candidate toProvider report progress).run w := by
  have failed : ∀ {γ : Type} (error : KernelError) (later : World),
      Harmless q Fine Open Free (Except.error error : Except KernelError γ) later :=
    fun error later value other => by cases other
  have apart : rebindKey candidate.request.operationId candidate.request.snapshot.providerRevision ≠
      commitKey q.operationId ∧ providerRebindKey candidate.request.operationId
        candidate.request.snapshot.providerRevision ≠ commitKey q.operationId := by
    rw [← same.operation]
    simp [rebindKey, providerRebindKey, commitKey, operationKey_eq_iff]
  unfold rebindAfter
  split
  · exact safe_done fun _ _ _ => sourced
  · refine safe_harmless ?_ failed fun _ later kept => safe_done fun _ _ _ => kept
    refine safe_harmless (safe_note sourced (.rebound _ trivial) ?_
      (fits_note (by decide) (by simp) apart.1)) failed fun _ later kept => ?_
    · exact ⟨by simp [entryOf], by simp [entryOf], by simp [entryOf], by simp [entryOf],
        by simp [entryOf]⟩
    · exact safe_note kept (.providerRebind _ _ _ _ trivial)
        (.free (by simp [entryOf]) (by simp [entryOf]) (by simp [entryOf]))
        (fits_note (by decide) (by simp) apart.2)

/-- What a candidate leads to: the step is done with a fine receipt, or the
sources are as they were. -/
def Tried (q : OperationRequest) (Fine : OperationReceipt → Prop) (Open Free : Prop)
    (result : Except KernelError (Option RuntimeExecution × StepProgress)) (later : World) : Prop :=
  match result with
  | .error _ => True
  | .ok (some execution, _) => Fine execution.receipt ∧
      (Free → committedIn q later.journal.entries = some execution.receipt)
  | .ok (none, _) => Sourced q Fine Open Free later.journal.entries

theorem validated_ids {plan : ContinuityPlan} {stepId operationId : String}
    {candidate : FailoverCandidate}
    (valid : validateContinuityCandidate plan stepId operationId candidate.request
      candidate.capabilities = .ok ()) :
    candidate.request.workloadId = plan.workloadId ∧
      candidate.request.operationId = operationId := by
  unfold validateContinuityCandidate at valid
  split at valid
  · cases valid
  · rename_i ids
    simp only [ne_eq, not_or, not_not] at ids
    exact ⟨ids.1, ids.2.2⟩

theorem safe_sourced_capabilities {candidate : FailoverCandidate}
    (sourced : Sourced q Fine Open Free w.journal.entries) :
    (sequential (fun _ => True) base Candid).Safe
      (fun _ later => Sourced q Fine Open Free later.journal.entries)
      (effectiveCapabilities candidate).run w := by
  unfold effectiveCapabilities
  split
  · exact safe_done fun _ => sourced
  · apply Safe.bindExcept sequential_quiet
    unfold probeProvider
    split
    · exact safe_done fun _ => safe_done fun _ => sourced
    · refine safe_perform fun valid choice _ => ⟨valid.tick _, ?_⟩
      cases (kernelAnswer (.providerProbe (probeOf candidate)) w choice).1 with
      | ok report => exact safe_done fun _ => sourced
      | error error => exact safe_done fun _ => sourced

theorem safe_tried {plan : ContinuityPlan} {step : ContinuityStep} {candidate : FailoverCandidate}
    {progress : StepProgress} (own : q.workloadId = plan.workloadId)
    (sourced : Sourced q Fine Open Free w.journal.entries)
    (answers : Open → ∀ receipt : OperationReceipt,
      receipt.inputDigest = candidate.request.inputDigest → Fine receipt) :
    (sequential (fun _ => True) base Candid).Safe (Tried q Fine Open Free)
      (tryCandidate plan step q.operationId candidate progress).run w := by
  apply safe_harmless (safe_candidateNote sourced (by simp)) fun _ _ => trivial
  intro _ noted sourced
  cases valid : validateContinuityCandidate plan step.stepId q.operationId candidate.request
      candidate.capabilities with
  | error error => exact safe_done fun _ => trivial
  | ok _ =>
      obtain ⟨workload, operation⟩ := validated_ids valid
      have same : SameIds q candidate.request := ⟨workload.trans own.symm, operation⟩
      apply Safe.bindLift sequential_quiet
      apply (safe_sourced_capabilities sourced).mono
      intro capabilities probed _ sourced
      cases capabilities with
      | error error =>
          dsimp only
          split
          · apply safe_harmless (safe_candidateNote sourced (by simp)) fun _ _ => trivial
            exact fun _ later kept => safe_done fun _ => kept
          · exact safe_done fun _ => trivial
      | ok effective =>
          dsimp only
          split
          · apply safe_harmless (safe_candidateNote sourced (by simp)) fun _ _ => trivial
            exact fun _ later kept => safe_done fun _ => kept
          · apply safe_harmless (safe_rebinds same sourced) fun _ _ => trivial
            intro progress bound sourced
            apply Safe.bindLift sequential_quiet
            apply (safe_supplied same sourced answers).mono
            intro result later _ ending
            cases result with
            | ok execution => exact safe_done fun _ => ending
            | error error =>
                dsimp only
                split
                · apply safe_harmless (safe_candidateNote ending (by simp)) fun _ _ => trivial
                  exact fun _ last kept => safe_done fun _ => kept
                · exact safe_done fun _ => trivial

theorem safe_triedAll {plan : ContinuityPlan} {step : ContinuityStep}
    (candidates : List FailoverCandidate) (progress : StepProgress)
    (own : q.workloadId = plan.workloadId) (sourced : Sourced q Fine Open Free w.journal.entries)
    (answers : ∀ candidate ∈ candidates, Open → ∀ receipt : OperationReceipt,
      receipt.inputDigest = candidate.request.inputDigest → Fine receipt) :
    (sequential (fun _ => True) base Candid).Safe (Tried q Fine Open Free)
      (tryCandidates plan step q.operationId candidates progress).run w := by
  induction candidates generalizing w progress with
  | nil => exact safe_done fun _ => sourced
  | cons candidate rest ih =>
      apply Safe.bindExcept sequential_quiet
      apply (safe_tried own sourced (answers candidate (.head _))).mono
      intro result later _ tried
      cases result with
      | error error => exact safe_done fun _ => trivial
      | ok outcome =>
          obtain ⟨completed, progress⟩ := outcome
          cases completed with
          | some execution => exact safe_done fun _ => tried
          | none => exact ih progress tried fun other member => answers other (.tail _ member)

/-- A first candidate of another workload ends the step with an error. -/
theorem safe_foreign {plan : ContinuityPlan} {step : ContinuityStep} {operationId : String}
    {first : FailoverCandidate} {rest : List FailoverCandidate} {progress : StepProgress}
    (foreign : first.request.workloadId ≠ plan.workloadId) :
    (sequential (fun _ => True) base Candid).Safe (fun result _ => ∀ outcome, result ≠ .ok outcome)
      (tryCandidates plan step operationId (first :: rest) progress).run w := by
  have refused : ∃ error, validateContinuityCandidate plan step.stepId operationId first.request
      first.capabilities = .error error :=
    ⟨_, if_pos (.inl foreign)⟩
  obtain ⟨error, refused⟩ := refused
  apply Safe.bindExcept sequential_quiet
  apply Safe.bindExcept sequential_quiet
  apply (safe_recordCandidateOutcome trivial (by simp) (.of_same (.refl w))).mono
  intro noted later _ _
  cases noted with
  | error reason => exact safe_done fun _ => safe_done fun _ _ other => by cases other
  | ok _ =>
      dsimp only
      rw [refused]
      exact safe_done fun _ => safe_done fun _ _ other => by cases other

end Steps

end Sources

/-! ### Plans -/

def ContinuityStep.inputDigests (step : ContinuityStep) : List String :=
  step.candidates.map (·.request.inputDigest)

/-- The operation of a step is that of its first candidate. -/
def ContinuityStep.operationId (step : ContinuityStep) : Option String :=
  step.candidates.head?.map (·.request.operationId)

/-- The row is the commit of the step: under the workload of the plan, of the
step's operation and for the input of one of its candidates. -/
structure Settles (plan : ContinuityPlan) (step : ContinuityStep) (receipt : OperationReceipt)
    (row : Entry) : Prop where
  type : row.entryType = .commit
  kind : row.objectType = "StepCommit"
  workload : row.workloadId = plan.workloadId
  operation : step.operationId = some row.objectId
  carried : row.payload = .receipt receipt
  input : receipt.inputDigest ∈ step.inputDigests

/-- The result has one receipt for each step, in the order of the plan, each the
payload of the step's own commit. -/
def Accounted (plan : ContinuityPlan) (result : ContinuityExecution) (w : World) : Prop :=
  ∃ settled : List (RuntimeExecution × Entry), settled.map Prod.fst = result.completedSteps ∧
    (settled.map Prod.snd).Nodup ∧ (∀ pair ∈ settled, pair.2 ∈ w.journal.entries) ∧
      List.Forall₂ (fun step pair => Settles plan step pair.1.receipt pair.2) plan.steps settled

/-- What the journal must say about the step's operation when the step begins: a
commit is of the plan's workload and for an input of the step, and if there is
none, no other row has its key and a receipt is for an input of the step. -/
def Rightful (plan : ContinuityPlan) (step : ContinuityStep) (entries : List Entry) : Prop :=
  ∀ first ∈ step.candidates.head?,
    match committedIn first.request entries with
    | some receipt => first.request.workloadId = plan.workloadId ∧
        receipt.inputDigest ∈ step.inputDigests
    | none => commitKey first.request.operationId ∉ keysOf entries ∧
        ∀ receipt ∈ receivedIn first.request entries, receipt.inputDigest ∈ step.inputDigests

instance (plan : ContinuityPlan) (step : ContinuityStep) (entries : List Entry) :
    Decidable (Rightful plan step entries) := by
  unfold Rightful
  have : ∀ first : FailoverCandidate, Decidable (match committedIn first.request entries with
      | some receipt => first.request.workloadId = plan.workloadId ∧
          receipt.inputDigest ∈ step.inputDigests
      | none => commitKey first.request.operationId ∉ keysOf entries ∧
          ∀ receipt ∈ receivedIn first.request entries, receipt.inputDigest ∈ step.inputDigests) := by
    intro first
    split <;> infer_instance
  infer_instance

/-- The steps of a run, each with the world in which it begins. -/
def stepWorlds (plan : ContinuityPlan) :
    List ContinuityStep → List FailoverRecord → World → List Choice →
      List (ContinuityStep × World)
  | [], _, _, _ => []
  | step :: rest, failovers, w, choices => (step, w) ::
      match (runStep plan step failovers).run.run kernel w choices with
      | (some (.ok (_, failovers), choices), later) => stepWorlds plan rest failovers later choices
      | _ => []

/-- The receipt that a step without a commit ends with. -/
def Expected (step : ContinuityStep) (q : OperationRequest) (entries : List Entry)
    (receipt : OperationReceipt) : Prop :=
  match receivedIn q entries with
  | some received => receipt = received
  | none => receipt.inputDigest ∈ step.inputDigests

/-- What a step that began with one journal has done when the journal is `last`: it
has replayed a commit, or it has executed a candidate of the plan's workload. -/
def Done (plan : ContinuityPlan) (step : ContinuityStep) (entries last : List Entry)
    (receipt : OperationReceipt) : Prop :=
  ∃ first rest, step.candidates = first :: rest ∧
    (committedIn first.request entries = some receipt ∨
      (committedIn first.request entries = none ∧
        first.request.workloadId = plan.workloadId ∧ Expected step first.request entries receipt ∧
        (commitKey first.request.operationId ∉ keysOf entries →
          committedIn first.request last = some receipt)))

section Plans

variable {plan : ContinuityPlan} {step : ContinuityStep} {w : World}

/-- A journal without a commit of the operation is sourced. -/
theorem sourced_start {q : OperationRequest} {entries : List Entry}
    (uncommitted : committedIn q entries = none) :
    Sourced q (Expected step q entries) (receivedIn q entries = none)
      (commitKey q.operationId ∉ keysOf entries) entries where
  committed receipt found := by
    rw [uncommitted] at found
    cases found
  received receipt found := by
    unfold Expected
    rw [found]
  unreceived := id
  unused free _ := free

theorem safe_runStep_done {base : List Event} {failovers : List FailoverRecord} :
    (sequential (fun _ => True) base Candid).Safe (fun result later =>
      ∀ execution failovers, result = .ok (execution, failovers) →
        Done plan step w.journal.entries later.journal.entries execution.receipt)
      (runStep plan step failovers).run w := by
  have failed : ∀ {post : RuntimeExecution → List FailoverRecord → Prop} (error : KernelError)
      (execution : RuntimeExecution) (failovers : List FailoverRecord),
      (Except.error error : Except KernelError (RuntimeExecution × List FailoverRecord)) =
        .ok (execution, failovers) → post execution failovers :=
    fun _ _ _ other => by cases other
  unfold runStep
  cases candidates : step.candidates with
  | nil => exact safe_done fun _ => failed _
  | cons first rest =>
      apply Safe.bindExcept sequential_quiet
      apply safe_committedReceipt
      · intro elapsed
        dsimp only
        cases committed : committedIn first.request w.journal.entries with
        | some receipt =>
            refine safe_done fun _ execution failovers returned => ?_
            cases returned
            exact ⟨first, rest, candidates, .inl committed⟩
        | none =>
            apply Safe.bindExcept sequential_quiet
            by_cases own : first.request.workloadId = plan.workloadId
            · have sourced : Sourced first.request (Expected step first.request w.journal.entries)
                  (receivedIn first.request w.journal.entries = none)
                  (commitKey first.request.operationId ∉ keysOf w.journal.entries)
                  (w.tick elapsed).journal.entries := sourced_start committed
              have answers : ∀ candidate ∈ first :: rest,
                  receivedIn first.request w.journal.entries = none →
                    ∀ receipt : OperationReceipt,
                      receipt.inputDigest = candidate.request.inputDigest →
                        Expected step first.request w.journal.entries receipt := by
                intro candidate member absent receipt digest
                unfold Expected
                rw [absent]
                show receipt.inputDigest ∈ step.inputDigests
                rw [digest, ContinuityStep.inputDigests, candidates]
                exact List.mem_map_of_mem member
              apply (safe_triedAll (first :: rest) _ own sourced answers).mono
              intro result later _ tried
              cases result with
              | error error => exact safe_done fun _ => failed error
              | ok outcome =>
                  obtain ⟨completed, progress⟩ := outcome
                  cases completed with
                  | none => exact safe_done fun _ => failed _
                  | some execution =>
                      refine safe_done fun _ other failovers returned => ?_
                      cases returned
                      exact ⟨first, rest, candidates, .inr ⟨committed, own, tried.1, tried.2⟩⟩
            · apply (safe_foreign own).mono
              intro result later _ never
              cases result with
              | error error => exact safe_done fun _ => failed error
              | ok outcome => exact absurd rfl (never outcome)
      · exact fun _ _ error => safe_done fun _ => failed _

/-- Every row since the base is one that the runtime writes. -/
theorem Lawful.since {Input : OperationRequest → Prop} {base history : List Event}
    (lawful : Lawful Input base history) :
    ∃ more, history = base ++ more ∧ ∀ entry ∈ entriesOf more, Recorded Input entry := by
  induction lawful with
  | start => exact ⟨[], by simp, by simp⟩
  | next history event lawful law ih =>
      obtain ⟨more, grown, recorded⟩ := ih
      refine ⟨more ++ [event], by rw [grown, List.append_assoc], ?_⟩
      intro entry member
      rw [entriesOf_append, List.mem_append] at member
      rcases member with old | last
      · exact recorded entry old
      · rw [mem_entriesOf, List.mem_singleton] at last
        subst last
        exact law.1

/-- The journal only grows, by rows of the runtime. -/
theorem Sound.grown {later : World} (linked : Linked w)
    (formed : ∀ entry ∈ w.journal.entries, KeyedCommit entry)
    (valid : Sound (fun _ => True) w.history later) :
    Linked later ∧ w.journal.entries <+: later.journal.entries ∧
      ∀ entry ∈ later.journal.entries, KeyedCommit entry := by
  obtain ⟨more, grown, recorded⟩ := valid.lawful.since
  have rows : later.journal.entries = w.journal.entries ++ entriesOf more := by
    rw [valid.linked, grown, entriesOf_append, ← show w.journal.entries = _ from linked]
  refine ⟨valid.linked, ⟨entriesOf more, rows.symm⟩, ?_⟩
  intro entry member
  rw [rows] at member
  rcases List.mem_append.mp member with old | new
  · exact formed entry old
  · exact (recorded entry new).keyedCommit

/-- A commit that is found stays found. -/
theorem committedIn_later {q : OperationRequest} {entries : List Entry} {j : Journal Payload}
    {receipt : OperationReceipt} (committed : committedIn q entries = some receipt)
    (grown : entries <+: j.entries) (formed : ∀ entry ∈ j.entries, KeyedCommit entry) :
    committedIn q j.entries = some receipt := by
  obtain ⟨row, member, -, kind, workload, operation, carried⟩ := committedIn_origin committed
  exact committedIn_eq formed j.unique (grown.subset member) kind workload operation carried

theorem Done.later {entries last : List Entry} {j : Journal Payload} {receipt : OperationReceipt}
    (done : Done plan step entries last receipt) (grown : last <+: j.entries)
    (formed : ∀ entry ∈ j.entries, KeyedCommit entry) :
    Done plan step entries j.entries receipt := by
  obtain ⟨first, rest, candidates, replayed | ⟨absent, own, expected, commits⟩⟩ := done
  · exact ⟨first, rest, candidates, .inl replayed⟩
  · refine ⟨first, rest, candidates, .inr ⟨absent, own, expected, ?_⟩⟩
    exact fun free => committedIn_later (commits free) grown formed

/-- One step of a run, from any journal of the runtime. -/
theorem runStep_done {failovers after : List FailoverRecord} {choices rest : List Choice}
    {execution : RuntimeExecution} {later : World} (linked : Linked w)
    (formed : ∀ entry ∈ w.journal.entries, KeyedCommit entry)
    (candid : (runStep plan step failovers).run.Meets kernel Candid w choices)
    (returned : (runStep plan step failovers).run.run kernel w choices =
      (some (.ok (execution, after), rest), later)) :
    Linked later ∧ w.journal.entries <+: later.journal.entries ∧
      (∀ entry ∈ later.journal.entries, KeyedCommit entry) ∧
      Done plan step w.journal.entries later.journal.entries execution.receipt := by
  have safe : (sequential (fun _ => True) w.history Candid).Safe _
      (runStep plan step failovers).run w := safe_runStep_done
  obtain ⟨valid, -, ending⟩ := Safe.run_meets (d := sequential (fun _ => True) w.history Candid)
    (fun _ => rfl) choices candid ⟨linked, .start⟩ safe
  have done := ending (.ok (execution, after)) rest (congrArg Prod.fst returned) execution after rfl
  change Sound _ _ ((runStep plan step failovers).run.run kernel w choices).2 at valid
  change Done plan step w.journal.entries
    ((runStep plan step failovers).run.run kernel w choices).2.journal.entries _ at done
  rw [returned] at valid done
  obtain ⟨still, grown, keyed⟩ := valid.grown linked formed
  exact ⟨still, grown, keyed, done⟩

/-- The steps of a run that returned a result. -/
theorem runSteps_done {steps : List ContinuityStep} {completed : List RuntimeExecution}
    {failovers : List FailoverRecord} {choices rest : List Choice} {result : ContinuityExecution}
    {later : World} (linked : Linked w) (formed : ∀ entry ∈ w.journal.entries, KeyedCommit entry)
    (candid : (runSteps plan steps completed failovers).run.Meets kernel Candid w choices)
    (returned : (runSteps plan steps completed failovers).run.run kernel w choices =
      (some (.ok result, rest), later)) :
    w.journal.entries <+: later.journal.entries ∧
      (∀ entry ∈ later.journal.entries, KeyedCommit entry) ∧
      (stepWorlds plan steps failovers w choices).map Prod.fst = steps ∧
      (∀ begun ∈ stepWorlds plan steps failovers w choices,
        begun.2.journal.entries <+: later.journal.entries) ∧
      ∃ executions, result.completedSteps = completed ++ executions ∧
        List.Forall₂ (fun begun execution => Done plan begun.1 begun.2.journal.entries
          later.journal.entries execution.receipt)
          (stepWorlds plan steps failovers w choices) executions := by
  induction steps generalizing w completed failovers choices with
  | nil =>
      cases returned
      exact ⟨List.prefix_rfl, formed, rfl, by simp [stepWorlds], [], by simp, .nil⟩
  | cons step others ih =>
      obtain ⟨own, onward⟩ := Meets.bindExcept kernel candid
      rw [runSteps, run_bindExcept] at returned
      unfold stepWorlds
      rcases ran : (runStep plan step failovers).run.run kernel w choices with
        ⟨_ | ⟨error | ⟨execution, after⟩, choices'⟩, mid⟩
      · rw [ran] at returned
        cases returned
      · rw [ran] at returned
        cases returned
      · rw [ran] at returned
        obtain ⟨still, grown, keyed, done⟩ := runStep_done linked formed own ran
        obtain ⟨further, kept, steps, worlds, executions, completed, ended⟩ :=
          ih still keyed (onward _ _ _ ran) returned
        refine ⟨grown.trans further, kept, ?_, ?_, execution :: executions, ?_, ?_⟩
        · exact congrArg (step :: ·) steps
        · intro begun member
          rcases List.mem_cons.mp member with rfl | inside
          · exact grown.trans further
          · exact worlds begun inside
        · rw [completed, List.append_assoc]
          rfl
        · exact .cons (done.later further kept) ended

/-! ### When a result is accounted for -/

theorem operationId_cons {first : FailoverCandidate} {rest : List FailoverCandidate}
    (candidates : step.candidates = first :: rest) :
    step.operationId = some first.request.operationId := by
  rw [ContinuityStep.operationId, candidates]
  rfl

theorem rightful_cons {first : FailoverCandidate} {rest : List FailoverCandidate}
    {entries : List Entry} (candidates : step.candidates = first :: rest) :
    Rightful plan step entries ↔
      match committedIn first.request entries with
      | some receipt => first.request.workloadId = plan.workloadId ∧
          receipt.inputDigest ∈ step.inputDigests
      | none => commitKey first.request.operationId ∉ keysOf entries ∧
          ∀ receipt ∈ receivedIn first.request entries,
            receipt.inputDigest ∈ step.inputDigests := by
  unfold Rightful
  rw [candidates]
  simp

section Rows

variable {j : Journal Payload} {receipt : OperationReceipt} {entries : List Entry}

/-- Two step commits of one operation are one row. -/
theorem commit_unique {row other : Entry} (formed : ∀ entry ∈ j.entries, KeyedCommit entry)
    (inFirst : row ∈ j.entries) (inSecond : other ∈ j.entries) (kind : row.objectType = "StepCommit")
    (otherKind : other.objectType = "StepCommit") (same : row.objectId = other.objectId) :
    row = other := by
  apply keyed_unique j.unique inFirst inSecond (formed row inFirst kind).2
  rw [same]
  exact (formed other inSecond otherKind).2

theorem Done.rightful {row : Entry} (done : Done plan step entries j.entries receipt)
    (grown : entries <+: j.entries) (formed : ∀ entry ∈ j.entries, KeyedCommit entry)
    (member : row ∈ j.entries) (settles : Settles plan step receipt row) :
    Rightful plan step entries := by
  obtain ⟨first, rest, candidates, ended⟩ := done
  have operation : row.objectId = first.request.operationId :=
    (Option.some.inj ((operationId_cons candidates).symm.trans settles.operation)).symm
  rw [rightful_cons candidates]
  rcases ended with replayed | ⟨absent, own, expected, -⟩
  · obtain ⟨origin, inside, -, kind, workload, same, -⟩ := committedIn_origin replayed
    have equal : origin = row := commit_unique formed (grown.subset inside) member kind settles.kind
      (same.trans operation.symm)
    rw [replayed]
    refine ⟨?_, settles.input⟩
    rw [← workload, equal, settles.workload]
  · rw [absent]
    constructor
    · intro used
      obtain ⟨origin, inside, keyed⟩ := mem_keysOf.mp used
      -- The row under the commit key is the commit itself, so the lookup finds it.
      have equal : origin = row := by
        apply keyed_unique j.unique (grown.subset inside) member keyed
        rw [(formed row member settles.kind).2, operation]
      have unique : (keysOf entries).Nodup := by
        obtain ⟨more, same⟩ := grown
        have all := j.unique
        rw [← same, keysOf_append, List.nodup_append] at all
        exact all.1
      have found := committedIn_eq (r := first.request)
        (fun other old => formed other (grown.subset old)) unique inside
        (equal ▸ settles.kind) (by rw [equal, settles.workload, own]) (equal ▸ operation)
        (equal ▸ settles.carried)
      rw [absent] at found
      cases found
    · intro received found
      unfold Expected at expected
      rw [show receivedIn first.request entries = some received from found] at expected
      exact expected ▸ settles.input

theorem Done.settled (done : Done plan step entries j.entries receipt)
    (grown : entries <+: j.entries) (rightful : Rightful plan step entries) :
    ∃ row ∈ j.entries, Settles plan step receipt row := by
  obtain ⟨first, rest, candidates, ended⟩ := done
  rw [rightful_cons candidates] at rightful
  have operation := operationId_cons candidates
  rcases ended with replayed | ⟨absent, own, expected, commits⟩
  · rw [replayed] at rightful
    obtain ⟨row, inside, type, kind, workload, same, carried⟩ := committedIn_origin replayed
    exact ⟨row, grown.subset inside, type, kind, workload.trans rightful.1, same ▸ operation,
      carried, rightful.2⟩
  · rw [absent] at rightful
    obtain ⟨row, inside, type, kind, workload, same, carried⟩ :=
      committedIn_origin (commits rightful.1)
    refine ⟨row, inside, type, kind, workload.trans own, same ▸ operation, carried, ?_⟩
    unfold Expected at expected
    cases found : receivedIn first.request entries with
    | none =>
        rw [found] at expected
        exact expected
    | some received =>
        rw [found] at expected
        rw [show receipt = received from expected]
        exact rightful.2 received found

end Rows

/-- Every member of the first list has a partner. -/
theorem partner_of_mem {α β : Type} {R : α → β → Prop} {first : List α} {second : List β} {a : α}
    (related : List.Forall₂ R first second) (member : a ∈ first) : ∃ b ∈ second, R a b := by
  obtain ⟨index, rfl⟩ := List.mem_iff_get.mp member
  obtain ⟨lengths, paired⟩ := List.forall₂_iff_get.mp related
  have bound : index < second.length := lengths ▸ index.isLt
  exact ⟨second.get ⟨index, bound⟩, List.get_mem _ _, paired index index.isLt bound⟩

/-- What is distinct on one side of a relation is distinct on the other. -/
theorem nodup_of_related {α β γ δ : Type} {R : α → β → Prop} {f : α → γ} {g : β → δ}
    {first : List α} {second : List β} (related : List.Forall₂ R first second)
    (reflects : ∀ a ∈ first, ∀ a' ∈ first, ∀ b ∈ second, ∀ b' ∈ second, R a b → R a' b' →
      f a = f a' → g b = g b')
    (distinct : (second.map g).Nodup) : (first.map f).Nodup := by
  induction related with
  | nil => simp
  | @cons a b first second head tail ih =>
      rw [List.map_cons, List.nodup_cons] at distinct ⊢
      constructor
      · intro member
        obtain ⟨a', inside, same⟩ := List.mem_map.mp member
        obtain ⟨b', other, relates⟩ := partner_of_mem tail inside
        apply distinct.1
        rw [reflects a (.head _) a' (.tail _ inside) b (.head _) b' (.tail _ other) head relates
          same.symm]
        exact List.mem_map_of_mem other
      · apply ih _ distinct.2
        intro a one a' two b three b' four
        exact reflects a (.tail _ one) a' (.tail _ two) b (.tail _ three) b' (.tail _ four)

/-- The rows of a list of steps, one for each. -/
theorem rows_of_steps {S : ContinuityStep → RuntimeExecution → Entry → Prop}
    {steps : List ContinuityStep} {executions : List RuntimeExecution}
    (each : List.Forall₂ (fun step execution => ∃ row, S step execution row) steps executions) :
    ∃ settled : List (RuntimeExecution × Entry), settled.map Prod.fst = executions ∧
      List.Forall₂ (fun step pair => S step pair.1 pair.2) steps settled := by
  induction each with
  | nil => exact ⟨[], rfl, .nil⟩
  | @cons step execution steps executions head tail ih =>
      obtain ⟨row, holds⟩ := head
      obtain ⟨settled, same, paired⟩ := ih
      exact ⟨(execution, row) :: settled, by rw [List.map_cons, same], .cons holds paired⟩

theorem accounted_iff {worlds : List (ContinuityStep × World)} {result : ContinuityExecution}
    {later : World} (formed : ∀ entry ∈ later.journal.entries, KeyedCommit entry)
    (steps : worlds.map Prod.fst = plan.steps)
    (grown : ∀ begun ∈ worlds, begun.2.journal.entries <+: later.journal.entries)
    (done : List.Forall₂ (fun begun execution => Done plan begun.1 begun.2.journal.entries
      later.journal.entries execution.receipt) worlds result.completedSteps) :
    Accounted plan result later ↔ (plan.steps.map ContinuityStep.operationId).Nodup ∧
      ∀ begun ∈ worlds, Rightful plan begun.1 begun.2.journal.entries := by
  constructor
  · rintro ⟨settled, executions, distinct, inside, settles⟩
    have rows : ∀ pair ∈ settled, ∀ pair' ∈ settled, ∀ step step',
        Settles plan step pair.1.receipt pair.2 → Settles plan step' pair'.1.receipt pair'.2 →
          step.operationId = step'.operationId → pair.2 = pair'.2 := by
      intro pair one pair' two step step' first second same
      apply commit_unique formed (inside pair one) (inside pair' two) first.kind second.kind
      exact Option.some.inj (first.operation.symm.trans (same.trans second.operation))
    refine ⟨nodup_of_related settles ?_ distinct, ?_⟩
    · intro step _ step' _ pair one pair' two first second same
      exact rows pair one pair' two step step' first second same
    · intro begun member
      rw [← steps, List.forall₂_map_left_iff] at settles
      rw [← executions, List.forall₂_map_right_iff] at done
      obtain ⟨pair, other, both⟩ : ∃ pair ∈ settled,
          Settles plan begun.1 pair.1.receipt pair.2 ∧ Done plan begun.1 begun.2.journal.entries
            later.journal.entries pair.1.receipt := by
        obtain ⟨index, rfl⟩ := List.mem_iff_get.mp member
        obtain ⟨lengths, paired⟩ := List.forall₂_iff_get.mp settles
        have bound : index < settled.length := lengths ▸ index.isLt
        exact ⟨settled.get ⟨index, bound⟩, List.get_mem _ _, paired index index.isLt bound,
          (List.forall₂_iff_get.mp done).2 index index.isLt bound⟩
      exact both.2.rightful (grown begun member) formed (inside pair other) both.1
  · rintro ⟨distinct, rightful⟩
    have each : List.Forall₂ (fun step execution => ∃ row, row ∈ later.journal.entries ∧
        Settles plan step execution.receipt row) plan.steps result.completedSteps := by
      rw [← steps, List.forall₂_map_left_iff]
      have inside := (List.forall₂_and_left (p := (· ∈ worlds)) _ _).mpr ⟨fun _ => id, done⟩
      apply inside.imp
      rintro begun execution ⟨member, ended⟩
      obtain ⟨row, inside, settles⟩ := ended.settled (grown begun member) (rightful begun member)
      exact ⟨row, inside, settles⟩
    obtain ⟨settled, executions, paired⟩ := rows_of_steps each
    refine ⟨settled, executions, ?_, ?_, paired.imp fun _ _ both => both.2⟩
    · apply nodup_of_related paired.flip _ distinct
      intro pair _ pair' _ step _ step' _ first second same
      rw [first.2.operation, second.2.operation, same]
    · intro pair member
      obtain ⟨step, -, inside, -⟩ := partner_of_mem paired.flip member
      exact inside

/-- The result of a plan is accounted for exactly if no two of its steps share an
operation and the journal is rightful for each step as it begins. -/
theorem continuity_accounted_iff (reached : Reached w)
    (formed : ∀ entry ∈ w.journal.entries, KeyedCommit entry) (plan : ContinuityPlan)
    (choices rest : List Choice) (result : ContinuityExecution) (later : World)
    (returned : (executeContinuously plan).run.run kernel w choices =
      (some (.ok result, rest), later))
    (candid : (executeContinuously plan).run.Meets kernel Candid w choices) :
    Accounted plan result later ↔ (plan.steps.map ContinuityStep.operationId).Nodup ∧
      ∀ begun ∈ stepWorlds plan plan.steps [] w choices,
        Rightful plan begun.1 begun.2.journal.entries := by
  unfold executeContinuously at returned candid
  split at returned
  · cases returned
  · rename_i named
    rw [if_neg named] at candid
    obtain ⟨-, keyed, steps, grown, executions, completed, done⟩ :=
      runSteps_done reached.linked formed candid returned
    rw [List.nil_append] at completed
    rw [← completed] at done
    exact accounted_iff keyed steps grown done

end Plans

/-! ### Two plans -/

instance (entry : Entry) : Decidable (KeyedCommit entry) :=
  inferInstanceAs (Decidable (_ → _))

/-- The receipt of an honest provider. -/
def honestReceipt (r : OperationRequest) (result : String) : OperationReceipt :=
  { sampleReceipt r.operationId result with inputDigest := r.inputDigest }

/-- A step of one reference candidate. -/
def stepFor (operationId workloadId stepId : String) : ContinuityStep where
  stepId := stepId
  requirements :=
    { chat := true, streaming := false, tools := false, structuredOutput := false
      vision := false, embedding := false, reasoning := false
      minContextLength := 0, localOnly := false }
  allowDegraded := false
  candidates :=
    [{ sampleCandidate "provider-1" with
       request :=
         { sampleRequest operationId workloadId "revision-1" .idempotent with stepId := stepId } }]

/-- A plan of two steps. -/
def twoSteps : ContinuityPlan where
  workloadId := "workload-1"
  processIdentity := "process-1"
  steps := [stepFor "operation-1" "workload-1" "step-1", stepFor "operation-2" "workload-1" "step-2"]

/-- A plan whose candidate is of another workload. -/
def foreignPlan : ContinuityPlan where
  workloadId := "workload-1"
  processIdentity := "process-1"
  steps := [stepFor "operation-1" "workload-2" "step-1"]

/-- The journal after operation-1 was executed for a workload. -/
def executedFor (workloadId : String) : World :=
  ((execute (sampleRequest "operation-1" workloadId "revision-1" .idempotent)).run.run kernel
    (.boot sampleUuids 0) (List.replicate 40 (answering (honestReceipt
      (sampleRequest "operation-1" workloadId "revision-1" .idempotent) "first")))).2

/-- The environment in which every provider answers honestly. -/
def honestly : List Choice :=
  List.replicate 60 (answering (honestReceipt
    (sampleRequest "operation-2" "workload-1" "revision-1" .idempotent) "second"))

theorem executedFor_reached (workloadId : String) : Reached (executedFor workloadId) :=
  Reached.run (.boot _ _) _ _

/-- A run of a plan that returned a result. -/
theorem continued_ok
    {e : Option (Except KernelError ContinuityExecution × List Choice) × World}
    (acknowledged : e.1.map (fun result => result.1.isOk) = some true) :
    ∃ result rest later, e = (some (.ok result, rest), later) := by
  obtain ⟨_ | ⟨error | result, rest⟩, later⟩ := e
  · simp at acknowledged
  · simp [Except.isOk, Except.toBool] at acknowledged
  · exact ⟨result, rest, later, rfl⟩

/-- The first step is replayed, the second one is executed. -/
theorem continuity_accounted_two :
    ∃ result rest later,
      (executeContinuously twoSteps).run.run kernel (executedFor "workload-1") honestly =
        (some (.ok result, rest), later) ∧ Accounted twoSteps result later := by
  obtain ⟨result, rest, later, ending⟩ := continued_ok (e :=
    (executeContinuously twoSteps).run.run kernel (executedFor "workload-1") honestly)
    (by decide +kernel)
  refine ⟨result, rest, later, ending, ?_⟩
  exact (continuity_accounted_iff (executedFor_reached "workload-1") (by decide +kernel) twoSteps
    honestly rest result later ending (by decide +kernel)).mpr
      ⟨by decide +kernel, by decide +kernel⟩

/-- A commit of another workload satisfies the step, and nothing is journaled under
the workload of the plan. -/
theorem continuity_unaccounted :
    ¬ ∀ w, Reached w → (∀ entry ∈ w.journal.entries, KeyedCommit entry) →
      ∀ plan choices rest result later,
        (executeContinuously plan).run.run kernel w choices = (some (.ok result, rest), later) →
          (executeContinuously plan).run.Meets kernel Candid w choices →
            Accounted plan result later := by
  intro accounts
  obtain ⟨result, rest, later, ending⟩ := continued_ok (e :=
    (executeContinuously foreignPlan).run.run kernel (executedFor "workload-2") honestly)
    (by decide +kernel)
  have accounted := accounts (executedFor "workload-2") (executedFor_reached _) (by decide +kernel)
    foreignPlan honestly rest result later ending (by decide +kernel)
  have foreign : ∀ row ∈ ((executeContinuously foreignPlan).run.run kernel
      (executedFor "workload-2") honestly).2.journal.entries,
      row.objectType = "StepCommit" → row.workloadId ≠ "workload-1" := by
    decide +kernel
  rw [ending] at foreign
  obtain ⟨settled, -, -, inside, settles⟩ := accounted
  obtain ⟨pair, member, own⟩ := partner_of_mem settles (.head _)
  exact foreign pair.2 (inside pair member) own.kind own.workload

end NousKernel
