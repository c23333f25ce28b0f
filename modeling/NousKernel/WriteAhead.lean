import NousKernel.Commitment

/-!
The write-ahead order of a session. Where operation ids have no colon and belong
to one workload each, a key tells which entry carries it, so the keys that the
law of the history asks for are the entries of the same operation.
-/

set_option autoImplicit false

namespace NousKernel

/-! ### What a key says about its entry -/

/-- A key splits at the colon after a plain operation id. -/
theorem operationKey_inj {first second suffix other : String} (plain : ':' ∉ first.toList)
    (plain' : ':' ∉ second.toList)
    (same : operationKey first suffix = operationKey second other) :
    first = second ∧ suffix = other := by
  have texts : first.toList ++ ':' :: suffix.toList = second.toList ++ ':' :: other.toList := by
    have lists := congrArg String.toList same
    simpa [operationKey] using lists
  have halves := congrArg (splitOnce [':']) texts
  rw [splitOnce_colon plain, splitOnce_colon plain', Option.some.injEq, Prod.mk.injEq] at halves
  exact ⟨String.toList_inj.mp halves.1, String.toList_inj.mp halves.2⟩

/-- What the last part of its key says about an entry of `r`. -/
structure Named (r : OperationRequest) (suffix : String) (entry : Entry) : Prop where
  intent : suffix = "intent" →
    entry = entryOf r .intent "Operation" "PENDING" (.request r) (intentKey r.operationId)
  receipt : suffix = "receipt" →
    ∃ receipt, entry = entryOf r .observation "OperationReceipt" "RECEIVED" (.receipt receipt)
      (receiptKey r.operationId)
  grant : ∀ leaseId, suffix = "lease:" ++ leaseId ++ ":grant" →
    ∃ fenced, entry = entryOf r .commit "ResourceLease" "ACTIVE" (.fencedLease fenced)
      (grantKey r.operationId fenced.lease.leaseId)

theorem Named.other {r : OperationRequest} {suffix : String} {entry : Entry}
    (intent : suffix.toList ≠ "intent".toList) (receipt : suffix.toList ≠ "receipt".toList)
    (grant : ∀ leaseId : String, suffix.toList ≠ ("lease:" ++ leaseId ++ ":grant").toList) :
    Named r suffix entry where
  intent same := absurd (same ▸ rfl) intent
  receipt same := absurd (same ▸ rfl) receipt
  grant leaseId same := absurd (same ▸ rfl) (grant leaseId)

section Keys

variable {Input : OperationRequest → Prop} {entry : Entry} {operationId suffix : String}

/-- A key with a plain operation id tells its request and the kind of its entry. -/
theorem Written.named (written : Written Input entry)
    (plain : ∀ r, Input r → ':' ∉ r.operationId.toList) (free : ':' ∉ operationId.toList)
    (keyed : entry.idempotencyKey = some (operationKey operationId suffix)) :
    ∃ r, Input r ∧ r.operationId = operationId ∧ entry.workloadId = r.workloadId ∧
      Named r suffix entry := by
  cases written with
  | intent r known =>
      obtain ⟨same, rfl⟩ := operationKey_inj (plain r known) free (Option.some.inj keyed)
      refine ⟨r, known, same, rfl, fun _ => rfl, ?_, ?_⟩
      · exact fun text => by simp at text
      · intro leaseId text
        have lists := congrArg String.toList text
        simp at lists
  | receipt r receipt known =>
      obtain ⟨same, rfl⟩ := operationKey_inj (plain r known) free (Option.some.inj keyed)
      refine ⟨r, known, same, rfl, ?_, fun _ => ⟨receipt, rfl⟩, ?_⟩
      · exact fun text => by simp at text
      · intro leaseId text
        have lists := congrArg String.toList text
        simp at lists
  | active r fenced known hyphenated =>
      obtain ⟨same, rfl⟩ := operationKey_inj (plain r known) free (Option.some.inj keyed)
      refine ⟨r, known, same, rfl, ?_, ?_, fun _ _ => ⟨fenced, rfl⟩⟩ <;>
      · intro text
        have lists := congrArg String.toList text
        simp at lists
  | profile r profile known operation workload =>
      have mine : ':' ∉ profile.operationId.toList := operation ▸ plain r known
      obtain ⟨same, rfl⟩ := operationKey_inj mine free (Option.some.inj keyed)
      exact ⟨r, known, operation ▸ same, workload, .other (by simp) (by simp) (by simp)⟩
  | released r leaseId known | revoked r _ _ _ leaseId known =>
      obtain ⟨same, rfl⟩ := operationKey_inj (plain r known) free (Option.some.inj keyed)
      refine ⟨r, known, same, rfl, .other (by simp) (by simp) fun other texts => ?_⟩
      -- Both texts begin alike, so they are told apart from their ends.
      have reversed := congrArg List.reverse texts
      simp at reversed
  | schedule r _ known | commit r _ known | abort r _ known | failure r _ known
  | workload r _ known | rebound r known | providerRebind r _ _ _ known
  | candidate r _ _ _ known _ =>
      obtain ⟨same, rfl⟩ := operationKey_inj (plain r known) free (Option.some.inj keyed)
      exact ⟨r, known, same, rfl, .other (by simp) (by simp) (by simp)⟩

end Keys

/-! ### The order of one history -/

/-- The event that wrote a row, and the rows before it. -/
theorem entriesOf_split {history : List Event} {before after : List Entry} {entry : Entry}
    (split : entriesOf history = before ++ entry :: after) :
    ∃ first second, history = first ++ .appended entry :: second ∧ entriesOf first = before := by
  obtain ⟨first, last, rfl, rows, rest⟩ := List.filterMap_eq_append_iff.mp split
  obtain ⟨quiet, event, second, rfl, silent, written, -⟩ := List.filterMap_eq_cons_iff.mp rest
  cases event with
  | appended row =>
      cases written
      refine ⟨first ++ quiet, second, by simp, ?_⟩
      rw [entriesOf_append, show entriesOf first = before from rows]
      simpa [entriesOf, List.filterMap_eq_nil_iff] using silent
  | _ => cases written

/-- Two entries of one operation. -/
def SameOperation (first second : Entry) : Prop :=
  first.workloadId = second.workloadId ∧ first.objectId = second.objectId

section Order

variable {Input : OperationRequest → Prop} {history : List Event} {before after : List Entry}
  {commit : Entry}

/-- An operation id has no colon and belongs to one workload. -/
structure PlainIds (Input : OperationRequest → Prop) : Prop where
  colonFree : ∀ r, Input r → ':' ∉ r.operationId.toList
  oneWorkload : ∀ r q, Input r → Input q → r.operationId = q.operationId →
    r.workloadId = q.workloadId

/-- A key of the operation of `r` belongs to an entry of the same workload. -/
theorem PlainIds.keyed (plain : PlainIds Input) {entries : List Entry}
    (recorded : ∀ entry ∈ entries, Recorded Input entry) {r : OperationRequest} (known : Input r)
    {suffix : String} (used : operationKey r.operationId suffix ∈ keysOf entries) :
    ∃ entry ∈ entries, entry.idempotencyKey = some (operationKey r.operationId suffix) ∧
      entry.workloadId = r.workloadId ∧ ∃ q written sequence now, q.operationId = r.operationId ∧
        entry = Journal.stamp sequence now written ∧ Named q suffix written := by
  obtain ⟨entry, member, keyed⟩ := mem_keysOf.mp used
  obtain ⟨written, sequence, now, shape, rfl⟩ := recorded entry member
  obtain ⟨q, knownToo, operation, workload, named⟩ :=
    shape.named plain.colonFree (plain.colonFree r known) keyed
  exact ⟨_, member, keyed, workload.trans (plain.oneWorkload q r knownToo known operation),
    q, written, sequence, now, operation, rfl, named⟩

theorem PlainIds.intended (plain : PlainIds Input) {entries : List Entry}
    (recorded : ∀ entry ∈ entries, Recorded Input entry) {r : OperationRequest} (known : Input r)
    (used : intentKey r.operationId ∈ keysOf entries) :
    ∃ intent ∈ entries, intent.idempotencyKey = some (intentKey r.operationId) ∧
      intent.entryType = .intent ∧ intent.objectType = "Operation" ∧
      intent.workloadId = r.workloadId ∧ intent.objectId = r.operationId := by
  obtain ⟨entry, member, keyed, workload, q, written, sequence, now, operation, rfl, named⟩ :=
    plain.keyed recorded known used
  obtain rfl := named.intent rfl
  exact ⟨_, member, keyed, rfl, rfl, workload, operation⟩

theorem PlainIds.leased (plain : PlainIds Input) {entries : List Entry}
    (recorded : ∀ entry ∈ entries, Recorded Input entry) {r : OperationRequest} (known : Input r)
    {leaseId : String} (used : grantKey r.operationId leaseId ∈ keysOf entries) :
    ∃ lease ∈ entries, lease.objectType = "ResourceLease" ∧ lease.newPhase = "ACTIVE" ∧
      lease.workloadId = r.workloadId ∧ lease.objectId = r.operationId := by
  obtain ⟨entry, member, -, workload, q, written, sequence, now, operation, rfl, named⟩ :=
    plain.keyed recorded known used
  obtain ⟨fenced, rfl⟩ := named.grant leaseId rfl
  exact ⟨_, member, rfl, rfl, workload, operation⟩

/-- A commit under a used receipt key finds its receipt. -/
theorem PlainIds.received (plain : PlainIds Input) {entries : List Entry}
    (recorded : ∀ entry ∈ entries, Recorded Input entry) {r : OperationRequest} (known : Input r)
    (used : receiptKey r.operationId ∈ keysOf entries) : receivedIn r entries ≠ none := by
  obtain ⟨entry, member, -, workload, q, written, sequence, now, operation, rfl, named⟩ :=
    plain.keyed recorded known used
  obtain ⟨receipt, rfl⟩ := named.receipt rfl
  exact receivedIn_ne_none recorded member rfl workload operation

/-- The write-ahead order of a step commit. -/
structure WrittenAhead (history : List Event) (before : List Entry) (commit : Entry) : Prop where
  lease : ∃ lease ∈ before, lease.objectType = "ResourceLease" ∧ lease.newPhase = "ACTIVE" ∧
    SameOperation lease commit
  receipt : ∃ front receipt back, before = front ++ receipt :: back ∧
    receipt.objectType = "OperationReceipt" ∧ SameOperation receipt commit ∧
    receipt.payload = commit.payload ∧
    ∃ intent ∈ front, intent.entryType = .intent ∧ intent.objectType = "Operation" ∧
      SameOperation intent commit ∧
      ∀ prior r later, history = prior ++ .invoked r :: later →
        r.operationId = commit.objectId → .appended intent ∈ prior

/-- The rows of an earlier part of a history. -/
theorem Lawful.recorded_before (lawful : Lawful Input [] history) {first second : List Event}
    (split : history = first ++ second) : ∀ entry ∈ entriesOf first, Recorded Input entry := by
  intro entry member
  refine lawful.recorded entry ?_
  rw [split, entriesOf_append]
  exact List.mem_append_left _ member

/-- Every provider invocation of an operation comes after the entry that carries
its intent key. -/
theorem Lawful.intent_before_invoked (lawful : Lawful Input [] history) (plain : PlainIds Input)
    (unique : (keysOf (entriesOf history)).Nodup) {intent : Entry}
    (member : intent ∈ entriesOf history)
    (keyed : intent.idempotencyKey = some (intentKey commit.objectId))
    {prior later : List Event} {r : OperationRequest}
    (split : history = prior ++ .invoked r :: later) (same : r.operationId = commit.objectId) :
    .appended intent ∈ prior := by
  obtain ⟨-, known, invokes⟩ := (split ▸ lawful).law_at
  have used : intentKey r.operationId ∈ keysOf (entriesOf prior) := by
    simpa [ledgerIn] using invokes.intended
  obtain ⟨row, inside, key, -⟩ :=
    plain.intended (lawful.recorded_before split) known used
  have whole : row ∈ entriesOf history := by
    rw [split, entriesOf_append]
    exact List.mem_append_left _ inside
  rw [keyed_unique unique member whole keyed (same ▸ key)]
  exact mem_entriesOf.mp inside

theorem Lawful.written_ahead (lawful : Lawful Input [] history) (plain : PlainIds Input)
    (unique : (keysOf (entriesOf history)).Nodup)
    (split : entriesOf history = before ++ commit :: after)
    (kind : commit.objectType = "StepCommit") : WrittenAhead history before commit := by
  obtain ⟨first, second, parts, rows⟩ := entriesOf_split split
  obtain ⟨earlier, recorded, ordered⟩ := (parts ▸ lawful).law_at
  obtain ⟨r, receipt, known, workload, operation, -, carried, -⟩ := recorded.stepCommit kind
  have past : ∀ entry ∈ before, Recorded Input entry := rows ▸ earlier.recorded
  constructor
  · obtain ⟨leaseId, used⟩ := ordered.lease kind
    rw [rows, operation] at used
    obtain ⟨lease, member, isLease, active, sameWorkload, sameId⟩ := plain.leased past known used
    exact ⟨lease, member, isLease, active, sameWorkload.trans workload.symm,
      sameId.trans operation.symm⟩
  · have received : receivedIn r before = some receipt := by
      have found := ordered.same kind r workload.symm operation.symm
      rw [rows, carried] at found
      rcases found with same | ⟨absent, used⟩
      · exact same
      · exact absurd absent (plain.received past known (operation ▸ used))
    obtain ⟨row, member, isReceipt, sameWorkload, sameId, held⟩ := receivedIn_origin received
    obtain ⟨front, back, rfl⟩ := List.append_of_mem member
    obtain ⟨start, rest, inside, upTo⟩ := entriesOf_split rows
    obtain ⟨sooner, -, receiptOrder⟩ := (inside ▸ earlier).law_at
    have used := receiptOrder.receipt isReceipt
    rw [sameId] at used
    obtain ⟨intent, first, keyed, isIntent, isOperation, intentWorkload, intentId⟩ :=
      plain.intended sooner.recorded known used
    refine ⟨front, row, back, rfl, isReceipt, ⟨sameWorkload.trans workload.symm,
      sameId.trans operation.symm⟩, held.trans carried.symm, intent, upTo ▸ first, isIntent,
      isOperation, ⟨intentWorkload.trans workload.symm, intentId.trans operation.symm⟩, ?_⟩
    intro prior q later invoked same
    refine lawful.intent_before_invoked plain unique ?_ (operation ▸ keyed) invoked same
    rw [split, List.append_assoc]
    exact List.mem_append_left _ (upTo ▸ first)

end Order

/-! ### The order of a session -/

/-- The request was submitted by a command of the session. -/
def Submitted (steps : List (Command × List Choice)) (r : OperationRequest) : Prop :=
  ∃ step ∈ steps, r ∈ step.1.requests

/-- Every step commit of a session whose operation ids are plain has its lease,
its intent and its receipt before it, in this order, and the intent precedes
every provider invocation of the operation. -/
theorem step_commit_written_ahead (uuids : UuidSource) (clock : Int)
    (steps : List (Command × List Choice)) (plain : PlainIds (Submitted steps))
    (before after : List Entry) (commit : Entry)
    (split : (booted uuids clock steps).journal.entries = before ++ commit :: after)
    (kind : commit.objectType = "StepCommit") :
    WrittenAhead (booted uuids clock steps).history before commit := by
  have valid : Sound (Submitted steps) [] (booted uuids clock steps) :=
    booted_sound uuids clock steps fun step member r inside => ⟨step, member, inside⟩
  refine valid.lawful.written_ahead plain ?_ (valid.linked ▸ split) kind
  rw [← valid.linked]
  exact (booted uuids clock steps).journal.unique

/-- One execution. -/
def oneExecution : List (Command × List Choice) :=
  [(.execute (sampleRequest "operation-1" "workload-1" "revision-1" .idempotent),
    List.replicate 30 (answering (sampleReceipt "operation-1" "result")))]

theorem step_commit_written_ahead_once :
    ∃ before commit after,
      (booted sampleUuids 0 oneExecution).journal.entries = before ++ commit :: after ∧
        WrittenAhead (booted sampleUuids 0 oneExecution).history before commit := by
  have plain : PlainIds (Submitted oneExecution) := by
    constructor
    · rintro r ⟨step, member, inside⟩
      simp only [oneExecution, List.mem_singleton] at member
      subst member
      simp only [Command.requests, List.mem_singleton] at inside
      subst inside
      decide
    · rintro r q ⟨step, member, inside⟩ ⟨other, member', inside'⟩ _
      simp only [oneExecution, List.mem_singleton] at member member'
      subst member member'
      simp only [Command.requests, List.mem_singleton] at inside inside'
      rw [inside, inside']
  have committed : ∃ commit ∈ (booted sampleUuids 0 oneExecution).journal.entries,
      commit.objectType = "StepCommit" := by
    decide +kernel
  obtain ⟨commit, member, kind⟩ := committed
  obtain ⟨before, after, split⟩ := List.append_of_mem member
  exact ⟨before, commit, after, split,
    step_commit_written_ahead sampleUuids 0 oneExecution plain before after commit split kind⟩

end NousKernel
