import NousKernel.World

/-!
`DurableExecutor` (`nous-kernel-core/src/lib.rs`): the journal entries of an
operation, the receipt lookups, the intent / receipt / commit protocol around the
provider call, and the fold that finds pending operations.
-/

set_option autoImplicit false

namespace NousKernel

open Resumption

/-! ### Idempotency keys -/

def operationKey (operationId suffix : String) : String :=
  "operation:" ++ operationId ++ ":" ++ suffix

def scheduleKey (operationId : String) : String := operationKey operationId "schedule"

def grantKey (operationId leaseId : String) : String :=
  operationKey operationId ("lease:" ++ leaseId ++ ":grant")

def intentKey (operationId : String) : String := operationKey operationId "intent"

def receiptKey (operationId : String) : String := operationKey operationId "receipt"

def commitKey (operationId : String) : String := operationKey operationId "commit"

def profileKey (operationId provider outcome : String) : String :=
  operationKey operationId ("profile:" ++ provider ++ ":" ++ outcome)

def abortKey (operationId providerRevision : String) : String :=
  operationKey operationId ("abort:" ++ providerRevision)

def failureKey (operationId : String) : String := operationKey operationId "failure"

def workloadKey (operationId phase : String) : String :=
  operationKey operationId ("workload:" ++ phase)

def releaseKey (operationId leaseId : String) : String :=
  operationKey operationId ("lease:" ++ leaseId ++ ":release")

def rebindKey (operationId providerRevision : String) : String :=
  operationKey operationId ("rebind:" ++ providerRevision)

def providerRebindKey (operationId providerRevision : String) : String :=
  operationKey operationId ("provider-rebind:" ++ providerRevision)

def candidateKey (operationId provider phase : String) : String :=
  operationKey operationId ("candidate:" ++ provider ++ ":" ++ phase)

def cancellationKey (operationId : String) : String :=
  operationKey operationId "cancellation-requested"

def revokeKey (operationId leaseId : String) : String :=
  operationKey operationId ("lease:" ++ leaseId ++ ":recovery-revoke")

/-! ### Entries and lookups -/

/-- The entry `DurableExecutor::append` writes for a request. -/
def entryOf (request : OperationRequest) (entryType : EntryType) (objectType phase : String)
    (payload : Payload) (idempotencyKey : String) : Entry where
  sequence := 0
  workloadId := request.workloadId
  entryType := entryType
  objectType := objectType
  objectId := request.operationId
  previousPhase := none
  newPhase := phase
  generation := 1
  payload := payload
  fencingToken := request.operationId
  actor := "nousd"
  idempotencyKey := some idempotencyKey
  timestampUs := 0

/-- `map_err` on the result of a step. -/
def mapError {ε α : Type} (convert : ε → KernelError) (result : Task (Except ε α)) :
    Fallible α := ExceptT.mk do
  match ← result with
  | .ok value => return .ok value
  | .error error => return .error (convert error)

def journalError {α : Type} (result : Task (Except NousError α)) : Fallible α :=
  mapError (fun error => .journal error.display) result

def resourceError {α : Type} (result : Task (Except NousError α)) : Fallible α :=
  mapError (fun error => .resource error.display) result

/-- A step that cannot fail. -/
def lift {α : Type} (task : Task α) : Fallible α := ExceptT.lift task

/-- A result taken as a value: an error does not end the caller. -/
def resultOf {α : Type} (x : Fallible α) : Fallible (Except KernelError α) := lift x.run

def append (request : OperationRequest) (entryType : EntryType) (objectType phase : String)
    (payload : Payload) (idempotencyKey : String) : Fallible Unit := do
  let _ ← journalError
    (Task.append (entryOf request entryType objectType phase payload idempotencyKey))
  return ()

/-- The receipt of the last entry of one kind for an operation. -/
def latestReceipt (entryType : EntryType) (objectType operationId : String)
    (entries : List Entry) : Option OperationReceipt :=
  (entries.reverse.find? fun entry =>
    entry.entryType == entryType && entry.objectType == objectType &&
      entry.objectId == operationId).bind (·.payload.receipt?)

def committedReceipt (request : OperationRequest) : Fallible (Option OperationReceipt) := do
  let entries ← journalError (Task.readWorkload request.workloadId)
  return latestReceipt .commit "StepCommit" request.operationId entries

def receivedReceipt (request : OperationRequest) : Fallible (Option OperationReceipt) := do
  let entries ← journalError (Task.readWorkload request.workloadId)
  return latestReceipt .observation "OperationReceipt" request.operationId entries

/-! ### Execution -/

/-- The provider call and the entry of its receipt, for an operation without one. -/
def obtainReceipt (request : OperationRequest) (cancellation : Nat) :
    Fallible OperationReceipt := do
  lift (Task.providerExecute request cancellation)
  let receipt ← ExceptT.mk (Task.providerOutcome request)
  append request .observation "OperationReceipt" "RECEIVED" (.receipt receipt)
    (receiptKey request.operationId)
  return receipt

/-- The recorded receipt, or the provider's. -/
def receiptFor (request : OperationRequest) (cancellation : Nat) : Fallible OperationReceipt := do
  match ← receivedReceipt request with
  | some receipt => return receipt
  | none => obtainReceipt request cancellation

def executeCancellable (request : OperationRequest) (cancellation : Nat) :
    Fallible OperationReceipt := do
  match ← committedReceipt request with
  | some receipt => return receipt
  | none => do
      append request .intent "Operation" "PENDING" (.request request)
        (intentKey request.operationId)
      if ← lift (Task.isCancelled cancellation) then
        throw (.cancelled request.operationId)
      else do
        let receipt ← receiptFor request cancellation
        append request .commit "StepCommit" "COMMITTED" (.receipt receipt)
          (commitKey request.operationId)
        return receipt

/-! ### Pending operations -/

abbrev PendingMap := AList (fun _ : String => OperationRequest)

def pendingStep (pending : PendingMap) (entry : Entry) : PendingMap :=
  if entry.entryType = .intent ∧ entry.objectType = "Operation" then
    match entry.payload.request? with
    | some request => pending.insert request.operationId request
    | none => pending
  else if (entry.entryType = .commit ∧ entry.objectType = "StepCommit") ∨
      (entry.entryType = .abort ∧ entry.objectType = "Operation") then
    pending.erase entry.objectId
  else pending

/-- The map `pending_operations` builds. Its values come out in the order of the
hash map, which `MapOrder` leaves open. -/
def pendingMap (entries : List Entry) : PendingMap := entries.foldl pendingStep ∅

def pendingValues (entries : List Entry) : List OperationRequest :=
  (pendingMap entries).entries.map (·.2)

end NousKernel
