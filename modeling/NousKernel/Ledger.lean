import NousKernel.Recovery

/-!
The ledger of an operation: what the journal says about one request, and the
four moves an execution makes on it. This is the abstract machine of the durable
executor. Each move happens once, because its idempotency key is used once. The
lemmas below connect every append of the runtime to its move.
-/

set_option autoImplicit false

namespace NousKernel

structure Ledger where
  intentUsed : Bool
  abortUsed : Bool
  receiptUsed : Bool
  commitUsed : Bool
  pending : Option OperationRequest
  received : Option OperationReceipt
  committed : Option OperationReceipt

namespace Ledger

def intend (l : Ledger) (request : OperationRequest) : Ledger :=
  if l.intentUsed then l else { l with intentUsed := true, pending := some request }

def receive (l : Ledger) (receipt : OperationReceipt) : Ledger :=
  if l.receiptUsed then l else { l with receiptUsed := true, received := some receipt }

def commit (l : Ledger) (receipt : OperationReceipt) : Ledger :=
  if l.commitUsed then l
  else { l with commitUsed := true, committed := some receipt, pending := none }

def abort (l : Ledger) : Ledger :=
  if l.abortUsed then l else { l with abortUsed := true, pending := none }

end Ledger

/-! ### Keys of one operation -/

theorem operationKey_eq_iff (operationId first second : String) :
    operationKey operationId first = operationKey operationId second ↔
      first.toList = second.toList := by
  simp [operationKey, String.append_assoc, String.toList_inj]

/-! ### What the journal says -/

def receivedIn (request : OperationRequest) (entries : List Entry) : Option OperationReceipt :=
  latestReceipt .observation "OperationReceipt" request.operationId
    (entries.filter fun entry => entry.workloadId = request.workloadId)

def committedIn (request : OperationRequest) (entries : List Entry) : Option OperationReceipt :=
  latestReceipt .commit "StepCommit" request.operationId
    (entries.filter fun entry => entry.workloadId = request.workloadId)

def pendingIn (operationId : String) (entries : List Entry) : Option OperationRequest :=
  (pendingMap entries).lookup operationId

def ledgerIn (request : OperationRequest) (entries : List Entry) : Ledger where
  intentUsed := intentKey request.operationId ∈ keysOf entries
  abortUsed :=
    abortKey request.operationId request.snapshot.providerRevision ∈ keysOf entries
  receiptUsed := receiptKey request.operationId ∈ keysOf entries
  commitUsed := commitKey request.operationId ∈ keysOf entries
  pending := pendingIn request.operationId entries
  received := receivedIn request entries
  committed := committedIn request entries

theorem latestReceipt_snoc (entryType : EntryType) (objectType operationId : String)
    (entries : List Entry) (entry : Entry) :
    latestReceipt entryType objectType operationId (entries ++ [entry]) =
      if entry.entryType = entryType ∧ entry.objectType = objectType ∧
          entry.objectId = operationId then entry.payload.receipt?
      else latestReceipt entryType objectType operationId entries := by
  unfold latestReceipt
  rw [List.reverse_append, List.reverse_singleton, List.singleton_append, List.find?_cons]
  split <;> rename_i found <;> split <;> rename_i matched
  · rfl
  · simp_all
  · simp_all
  · rfl

/-- The receipt that a lookup returns is in the journal. -/
theorem latestReceipt_origin {entryType : EntryType} {objectType operationId : String}
    {entries : List Entry} {receipt : OperationReceipt}
    (found : latestReceipt entryType objectType operationId entries = some receipt) :
    ∃ entry ∈ entries, entry.entryType = entryType ∧ entry.objectType = objectType ∧
      entry.objectId = operationId ∧ entry.payload = .receipt receipt := by
  obtain ⟨entry, first, carried⟩ := Option.bind_eq_some_iff.mp found
  have matched := List.find?_some first
  simp only [Bool.and_eq_true, beq_iff_eq] at matched
  refine ⟨entry, List.mem_reverse.mp (List.mem_of_find?_eq_some first), matched.1.1, matched.1.2,
    matched.2, ?_⟩
  cases payload : entry.payload <;> simp_all [Payload.receipt?]

theorem pendingMap_snoc (entries : List Entry) (entry : Entry) :
    pendingMap (entries ++ [entry]) = pendingStep (pendingMap entries) entry := by
  simp [pendingMap]

/-- An entry that is no mark: neither an operation intent, a step commit nor an
operation abort. -/
def Unmarked (entry : Entry) : Prop :=
  entry.objectType ≠ "Operation" ∧ entry.objectType ≠ "StepCommit"

theorem pendingIn_unmarked (operationId : String) (entries : List Entry) (entry : Entry)
    (unmarked : Unmarked entry) :
    pendingIn operationId (entries ++ [entry]) = pendingIn operationId entries := by
  obtain ⟨operation, step⟩ := unmarked
  simp [pendingIn, pendingMap_snoc, pendingStep, operation, step]

theorem pendingIn_intent (operationId : String) (entries : List Entry) (entry : Entry)
    (request : OperationRequest) (intent : entry.entryType = .intent)
    (operation : entry.objectType = "Operation") (carried : entry.payload = .request request) :
    pendingIn operationId (entries ++ [entry]) =
      if operationId = request.operationId then some request
      else pendingIn operationId entries := by
  simp only [pendingIn, pendingMap_snoc, pendingStep, intent, operation, carried,
    Payload.request?, and_self, if_true]
  split
  · rename_i same
    rw [same, AList.lookup_insert]
  · rename_i other
    rw [AList.lookup_insert_ne other]

theorem pendingIn_closed (operationId : String) (entries : List Entry) (entry : Entry)
    (closes : entry.entryType = .commit ∧ entry.objectType = "StepCommit" ∨
      entry.entryType = .abort ∧ entry.objectType = "Operation") :
    pendingIn operationId (entries ++ [entry]) =
      if operationId = entry.objectId then none else pendingIn operationId entries := by
  have notIntent : ¬ (entry.entryType = .intent ∧ entry.objectType = "Operation") := by
    rintro ⟨intent, -⟩
    rcases closes with ⟨commit, -⟩ | ⟨abort, -⟩ <;> simp_all
  simp only [pendingIn, pendingMap_snoc, pendingStep, notIntent, closes, if_true, if_false]
  split
  · rename_i same
    rw [same, AList.lookup_erase]
  · rename_i other
    rw [AList.lookup_erase_ne other]

/-- What one more entry does to the pending request of an operation. -/
theorem pendingIn_snoc_cases (operationId : String) (entries : List Entry) (entry : Entry) :
    (∃ request, entry.entryType = .intent ∧ entry.objectType = "Operation" ∧
      entry.payload = .request request ∧ request.operationId = operationId ∧
        pendingIn operationId (entries ++ [entry]) = some request) ∨
    ((entry.entryType = .commit ∧ entry.objectType = "StepCommit" ∨
        entry.entryType = .abort ∧ entry.objectType = "Operation") ∧
      entry.objectId = operationId ∧ pendingIn operationId (entries ++ [entry]) = none) ∨
    pendingIn operationId (entries ++ [entry]) = pendingIn operationId entries := by
  by_cases intent : entry.entryType = .intent ∧ entry.objectType = "Operation"
  · cases carried : entry.payload.request? with
    | some request =>
        have payload : entry.payload = .request request := by
          cases shape : entry.payload <;> simp_all [Payload.request?]
        rw [pendingIn_intent _ _ _ request intent.1 intent.2 payload]
        by_cases same : operationId = request.operationId
        · exact .inl ⟨request, intent.1, intent.2, payload, same.symm, if_pos same⟩
        · exact .inr (.inr (if_neg same))
    | none => exact .inr (.inr (by simp [pendingIn, pendingMap_snoc, pendingStep, intent, carried]))
  · by_cases closes : entry.entryType = .commit ∧ entry.objectType = "StepCommit" ∨
        entry.entryType = .abort ∧ entry.objectType = "Operation"
    · rw [pendingIn_closed _ _ _ closes]
      by_cases same : operationId = entry.objectId
      · exact .inr (.inl ⟨closes, same.symm, if_pos same⟩)
      · exact .inr (.inr (if_neg same))
    · exact .inr (.inr (by simp [pendingIn, pendingMap_snoc, pendingStep, intent, closes]))

/-- A pending request is the payload of a journaled intent of its operation. -/
theorem pendingIn_origin {operationId : String} {entries : List Entry}
    {request : OperationRequest} (pending : pendingIn operationId entries = some request) :
    request.operationId = operationId ∧ ∃ entry ∈ entries, entry.entryType = .intent ∧
      entry.objectType = "Operation" ∧ entry.payload = .request request := by
  induction entries using List.reverseRecOn with
  | nil => simp [pendingIn, pendingMap] at pending
  | append_singleton entries entry ih =>
      rcases pendingIn_snoc_cases operationId entries entry with
        ⟨other, intent, operation, carried, same, found⟩ | ⟨-, -, gone⟩ | kept
      · rw [found, Option.some.injEq] at pending
        subst pending
        exact ⟨same, entry, by simp, intent, operation, carried⟩
      · rw [gone] at pending
        cases pending
      · obtain ⟨same, old, member, shape⟩ := ih (kept ▸ pending)
        exact ⟨same, old, List.mem_append_left _ member, shape⟩

theorem mem_pendingValues {entries : List Entry} {request : OperationRequest} :
    request ∈ pendingValues entries ↔ pendingIn request.operationId entries = some request := by
  simp only [pendingValues, List.mem_map, pendingIn]
  constructor
  · rintro ⟨⟨operationId, value⟩, member, rfl⟩
    have found := AList.mem_lookup_iff.mpr member
    rwa [(pendingIn_origin found).1]
  · intro found
    exact ⟨⟨_, request⟩, AList.mem_lookup_iff.mp found, rfl⟩

theorem receivedIn_snoc (request : OperationRequest) (entries : List Entry) (entry : Entry) :
    receivedIn request (entries ++ [entry]) =
      if entry.workloadId = request.workloadId ∧ entry.entryType = .observation ∧
          entry.objectType = "OperationReceipt" ∧ entry.objectId = request.operationId then
        entry.payload.receipt?
      else receivedIn request entries := by
  unfold receivedIn
  by_cases same : entry.workloadId = request.workloadId
  · simp [List.filter_append, same, latestReceipt_snoc]
  · simp [List.filter_append, same]

theorem committedIn_snoc (request : OperationRequest) (entries : List Entry) (entry : Entry) :
    committedIn request (entries ++ [entry]) =
      if entry.workloadId = request.workloadId ∧ entry.entryType = .commit ∧
          entry.objectType = "StepCommit" ∧ entry.objectId = request.operationId then
        entry.payload.receipt?
      else committedIn request entries := by
  unfold committedIn
  by_cases same : entry.workloadId = request.workloadId
  · simp [List.filter_append, same, latestReceipt_snoc]
  · simp [List.filter_append, same]

theorem receivedIn_origin {entries : List Entry} {r : OperationRequest}
    {receipt : OperationReceipt} (received : receivedIn r entries = some receipt) :
    ∃ entry ∈ entries, entry.objectType = "OperationReceipt" ∧ entry.workloadId = r.workloadId ∧
      entry.objectId = r.operationId ∧ entry.payload = .receipt receipt := by
  obtain ⟨entry, member, -, kind, operation, carried⟩ := latestReceipt_origin received
  obtain ⟨inside, workload⟩ := List.mem_filter.mp member
  exact ⟨entry, inside, kind, by simpa using workload, operation, carried⟩

theorem committedIn_origin {entries : List Entry} {r : OperationRequest}
    {receipt : OperationReceipt} (committed : committedIn r entries = some receipt) :
    ∃ entry ∈ entries, entry.entryType = .commit ∧ entry.objectType = "StepCommit" ∧
      entry.workloadId = r.workloadId ∧ entry.objectId = r.operationId ∧
        entry.payload = .receipt receipt := by
  obtain ⟨entry, member, type, kind, operation, carried⟩ := latestReceipt_origin committed
  obtain ⟨inside, workload⟩ := List.mem_filter.mp member
  exact ⟨entry, inside, type, kind, by simpa using workload, operation, carried⟩

theorem keysOf_snoc {P : Type} (entries : List (JournalEntry P)) (entry : JournalEntry P)
    (key : String) (keyed : entry.idempotencyKey = some key) :
    keysOf (entries ++ [entry]) = keysOf entries ++ [key] := by
  simp [keysOf, keyed]

/-- The ledger after one more entry. -/
theorem ledgerIn_snoc (request : OperationRequest) (entries : List Entry) (entry : Entry)
    (key : String) (keyed : entry.idempotencyKey = some key) :
    ledgerIn request (entries ++ [entry]) =
      { intentUsed := (ledgerIn request entries).intentUsed ||
          intentKey request.operationId = key
        abortUsed := (ledgerIn request entries).abortUsed ||
          abortKey request.operationId request.snapshot.providerRevision = key
        receiptUsed := (ledgerIn request entries).receiptUsed ||
          receiptKey request.operationId = key
        commitUsed := (ledgerIn request entries).commitUsed ||
          commitKey request.operationId = key
        pending := pendingIn request.operationId (entries ++ [entry])
        received := receivedIn request (entries ++ [entry])
        committed := committedIn request (entries ++ [entry]) } := by
  simp [ledgerIn, keysOf_snoc entries entry key keyed]

/-! ### The moves of the runtime's appends -/

section Moves

variable (request : OperationRequest) (j : Journal Payload) (now : Int)

/-- An entry that the lookups do not read, under a key that none of the four
moves uses, leaves the ledger as it is. -/
theorem ledgerIn_neutral (entry : Entry) (key : String) (keyed : entry.idempotencyKey = some key)
    (unmarked : Unmarked entry) (noReceipt : entry.objectType ≠ "OperationReceipt")
    (foreign : key ≠ intentKey request.operationId ∧
      key ≠ abortKey request.operationId request.snapshot.providerRevision ∧
      key ≠ receiptKey request.operationId ∧ key ≠ commitKey request.operationId) :
    ledgerIn request (j.append entry now).2.entries = ledgerIn request j.entries := by
  rw [Journal.append_entries key now keyed]
  split
  · rfl
  · obtain ⟨intent, abort, receipt, commit⟩ := foreign
    rw [ledgerIn_snoc _ _ _ key (by exact keyed),
      pendingIn_unmarked _ _ _ (show Unmarked (Journal.stamp _ _ entry) from unmarked)]
    simp [ledgerIn, receivedIn_snoc, committedIn_snoc, noReceipt, unmarked.2, intent.symm,
      abort.symm, receipt.symm, commit.symm]

/-- The keys of one operation differ from move to move. -/
theorem moves_differ (operationId revision : String) :
    intentKey operationId ≠ abortKey operationId revision ∧
      intentKey operationId ≠ receiptKey operationId ∧
      intentKey operationId ≠ commitKey operationId ∧
      abortKey operationId revision ≠ receiptKey operationId ∧
      abortKey operationId revision ≠ commitKey operationId ∧
      receiptKey operationId ≠ commitKey operationId := by
  simp [intentKey, abortKey, receiptKey, commitKey, operationKey_eq_iff]

theorem ledgerIn_intend :
    ledgerIn request (j.append (entryOf request .intent "Operation" "PENDING" (.request request)
      (intentKey request.operationId)) now).2.entries =
        (ledgerIn request j.entries).intend request := by
  rw [Journal.append_entries (intentKey request.operationId) now rfl]
  by_cases used : intentKey request.operationId ∈ keysOf j.entries
  · simp [used, Ledger.intend, ledgerIn]
  · obtain ⟨abort, receive, commit, -⟩ :=
      moves_differ request.operationId request.snapshot.providerRevision
    rw [if_neg used, Ledger.intend, if_neg (by simpa [ledgerIn] using used),
      ledgerIn_snoc _ _ _ (intentKey request.operationId) rfl,
      pendingIn_intent _ _ _ request rfl rfl rfl]
    simp [ledgerIn, receivedIn_snoc, committedIn_snoc, entryOf, abort.symm, receive.symm,
      commit.symm]

theorem ledgerIn_receive (receipt : OperationReceipt) :
    ledgerIn request (j.append (entryOf request .observation "OperationReceipt" "RECEIVED"
      (.receipt receipt) (receiptKey request.operationId)) now).2.entries =
        (ledgerIn request j.entries).receive receipt := by
  rw [Journal.append_entries (receiptKey request.operationId) now rfl]
  by_cases used : receiptKey request.operationId ∈ keysOf j.entries
  · simp [used, Ledger.receive, ledgerIn]
  · obtain ⟨-, intent, -, abort, -, commit⟩ :=
      moves_differ request.operationId request.snapshot.providerRevision
    rw [if_neg used, Ledger.receive, if_neg (by simpa [ledgerIn] using used),
      ledgerIn_snoc _ _ _ (receiptKey request.operationId) rfl,
      pendingIn_unmarked _ _ _ ⟨by simp [entryOf], by simp [entryOf]⟩]
    simp [ledgerIn, receivedIn_snoc, committedIn_snoc, entryOf, intent, abort, commit.symm,
      Payload.receipt?]

theorem ledgerIn_commit (receipt : OperationReceipt) :
    ledgerIn request (j.append (entryOf request .commit "StepCommit" "COMMITTED"
      (.receipt receipt) (commitKey request.operationId)) now).2.entries =
        (ledgerIn request j.entries).commit receipt := by
  rw [Journal.append_entries (commitKey request.operationId) now rfl]
  by_cases used : commitKey request.operationId ∈ keysOf j.entries
  · simp [used, Ledger.commit, ledgerIn]
  · obtain ⟨-, -, intent, -, abort, receive⟩ :=
      moves_differ request.operationId request.snapshot.providerRevision
    rw [if_neg used, Ledger.commit, if_neg (by simpa [ledgerIn] using used),
      ledgerIn_snoc _ _ _ (commitKey request.operationId) rfl,
      pendingIn_closed _ _ _ (.inl ⟨rfl, rfl⟩)]
    simp [ledgerIn, receivedIn_snoc, committedIn_snoc, entryOf, intent, abort, receive,
      Payload.receipt?]

theorem ledgerIn_abort (phase : String) (payload : Payload) :
    ledgerIn request (j.append (entryOf request .abort "Operation" phase payload
      (abortKey request.operationId request.snapshot.providerRevision)) now).2.entries =
        (ledgerIn request j.entries).abort := by
  rw [Journal.append_entries
    (abortKey request.operationId request.snapshot.providerRevision) now rfl]
  by_cases used :
      abortKey request.operationId request.snapshot.providerRevision ∈ keysOf j.entries
  · simp [used, Ledger.abort, ledgerIn]
  · obtain ⟨intent, -, -, receive, commit, -⟩ :=
      moves_differ request.operationId request.snapshot.providerRevision
    rw [if_neg used, Ledger.abort, if_neg (by simpa [ledgerIn] using used),
      ledgerIn_snoc _ _ _ (abortKey request.operationId request.snapshot.providerRevision) rfl,
      pendingIn_closed _ _ _ (.inr ⟨rfl, rfl⟩)]
    simp [ledgerIn, receivedIn_snoc, committedIn_snoc, entryOf, intent, receive.symm,
      commit.symm]

end Moves

end NousKernel
