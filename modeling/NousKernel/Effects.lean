import Mathlib.Data.List.AList
import NousKernel.RuntimeApi
import NousKernel.Transcript

/-!
The transactional effect engine (`nous-execution-proof/src/transaction.rs`). Every
operation works under the write lock and is one call here, but for `execute`, which
releases the lock while the effector runs: it is a program of three calls. Nothing
panics under the lock, so it is never poisoned.
-/

set_option autoImplicit false

namespace NousKernel

open Resumption

structure EffectIntent where
  description : String
  expectedTarget : String
  expectedOutcome : String
  maxRetries : Nat
  timeoutMs : Nat
  deriving DecidableEq, Repr

structure EffectReceipt where
  receiptId : String
  actualTarget : String
  actualOutcome : String
  executionTimeUs : Nat
  retryCount : Nat
  success : Bool
  error : Option String
  outputHash : List UInt8
  executedAt : Int
  executedBy : String
  deriving DecidableEq, Repr

inductive EffectTransactionPhase where
  | planned
  | authorized
  | prepared
  | verified
  | committed
  | compensated
  | failed
  deriving DecidableEq, Repr

structure EffectTransaction where
  transactionId : String
  idempotencyKey : String
  principalId : String
  capability : String
  intent : EffectIntent
  phase : EffectTransactionPhase
  receipt : Option EffectReceipt
  authorizationRef : Option String
  deriving DecidableEq, Repr

structure EffectState where
  transactions : AList (fun _ : String => EffectTransaction)
  idempotencyIndex : AList (fun _ : String => String)

/-- What the first half of `execute` finds. -/
inductive Claim where
  | receipt (receipt : EffectReceipt)
  | intent (intent : EffectIntent)
  deriving DecidableEq, Repr

namespace EffectState

def blank : EffectState := ⟨∅, ∅⟩

/-- A transaction changed in place. -/
def update (state : EffectState) (transactionId : String) (transaction : EffectTransaction) :
    EffectState :=
  { state with transactions := state.transactions.insert transactionId transaction }

def notFound : NousError := ⟨.notFound, "Effect transaction not found"⟩

def plannedTransaction (transactionId principalId capability idempotencyKey : String)
    (intent : EffectIntent) : EffectTransaction where
  transactionId := transactionId
  idempotencyKey := idempotencyKey
  principalId := principalId
  capability := capability
  intent := intent
  phase := .planned
  receipt := none
  authorizationRef := none

def plan (state : EffectState) (uuid principalId capability idempotencyKey : String)
    (intent : EffectIntent) : Except NousError EffectTransaction × EffectState :=
  match state.idempotencyIndex.lookup idempotencyKey with
  | some existingId =>
      match state.transactions.lookup existingId with
      | some transaction => (.ok transaction, state)
      | none => (.error ⟨.dataLoss, "Effect idempotency index is inconsistent"⟩, state)
  | none =>
      let transaction := plannedTransaction uuid principalId capability idempotencyKey intent
      (.ok transaction,
        { transactions := state.transactions.insert uuid transaction
          idempotencyIndex := state.idempotencyIndex.insert idempotencyKey uuid })

def authorize (state : EffectState) (transactionId authorizationRef : String) :
    Except NousError Unit × EffectState :=
  match state.transactions.lookup transactionId with
  | none => (.error notFound, state)
  | some transaction =>
      if transaction.phase ≠ .planned then
        (.error ⟨.failedPrecondition, "Effect is not awaiting authorization"⟩, state)
      else (.ok (), state.update transactionId
        { transaction with authorizationRef := some authorizationRef, phase := .authorized })

/-- The first half of `execute`: a receipt that is there already is returned, and an
authorized transaction is claimed. -/
def claim (state : EffectState) (transactionId : String) : Except NousError Claim × EffectState :=
  match state.transactions.lookup transactionId with
  | none => (.error notFound, state)
  | some transaction =>
      if transaction.phase = .verified ∨ transaction.phase = .committed then
        match transaction.receipt with
        | some receipt => (.ok (.receipt receipt), state)
        | none => (.error ⟨.dataLoss, "Verified effect has no receipt"⟩, state)
      else if transaction.phase ≠ .authorized then
        (.error ⟨.permissionDenied, "Effect has not been authorized"⟩, state)
      else (.ok (.intent transaction.intent),
        state.update transactionId { transaction with phase := .prepared })

/-- The second half after an effector that failed, or whose receipt does not fit. -/
def recordFailure (state : EffectState) (transactionId : String)
    (receipt : Option EffectReceipt) : EffectState :=
  match state.transactions.lookup transactionId with
  | none => state
  | some transaction => state.update transactionId
      { transaction with
        phase := .failed
        receipt := match receipt with
          | some receipt => some receipt
          | none => transaction.receipt }

/-- The second half after an effector whose receipt fits. -/
def recordSuccess (state : EffectState) (transactionId : String) (receipt : EffectReceipt) :
    Except NousError Unit × EffectState :=
  match state.transactions.lookup transactionId with
  | none => (.error ⟨.dataLoss, "Effect transaction disappeared while executing"⟩, state)
  | some transaction => (.ok (), state.update transactionId
      { transaction with receipt := some receipt, phase := .verified })

def commit (state : EffectState) (transactionId : String) : Except NousError Unit × EffectState :=
  match state.transactions.lookup transactionId with
  | none => (.error notFound, state)
  | some transaction =>
      if transaction.phase ≠ .verified then
        (.error ⟨.failedPrecondition, "Only a verified effect can commit"⟩, state)
      else (.ok (), state.update transactionId { transaction with phase := .committed })

def get (state : EffectState) (transactionId : String) : Option EffectTransaction :=
  state.transactions.lookup transactionId

end EffectState

/-! ### Threads -/

inductive EffectCall where
  | plan (principalId capability idempotencyKey : String) (intent : EffectIntent)
  | authorize (transactionId authorizationRef : String)
  | claim (transactionId : String)
  | effector (transactionId : String) (intent : EffectIntent)
  | recordFailure (transactionId : String) (receipt : Option EffectReceipt)
  | recordSuccess (transactionId : String) (receipt : EffectReceipt)
  | commit (transactionId : String)
  | get (transactionId : String)

abbrev EffectCall.Answer : EffectCall → Type
  | .plan _ _ _ _ => Except NousError EffectTransaction
  | .authorize _ _ => Except NousError Unit
  | .claim _ => Except NousError Claim
  | .effector _ _ => Except NousError EffectReceipt
  | .recordFailure _ _ => Unit
  | .recordSuccess _ _ => Except NousError Unit
  | .commit _ => Except NousError Unit
  | .get _ => Option EffectTransaction

/-- A call of the effector, with the authorization its transaction had at that time. -/
structure EffectorCall where
  transactionId : String
  intent : EffectIntent
  authorizationRef : Option String
  deriving DecidableEq, Repr

/-- The engine, how many transaction ids have been drawn, and the calls of the
effector so far. -/
structure EffectWorld where
  engine : EffectState
  drawn : Nat
  invocations : List EffectorCall

namespace EffectWorld

def blank : EffectWorld := ⟨.blank, 0, []⟩

/-- How often the effector has been called for a transaction. -/
def invoked (w : EffectWorld) (transactionId : String) : Nat :=
  (w.invocations.map (·.transactionId)).count transactionId

def phaseOf (w : EffectWorld) (transactionId : String) : Option EffectTransactionPhase :=
  (w.engine.get transactionId).map (·.phase)

end EffectWorld

/-- The engine under its lock. The transaction ids come from `uuids` in turn (a
plan whose key is known skips one), and the choice is what the effector returns. -/
def effectMachine (uuids : Nat → String) :
    Machine EffectCall EffectCall.Answer EffectWorld (Except NousError EffectReceipt) where
  answer
    | .plan principalId capability idempotencyKey intent, w, _ =>
        let (answer, engine) :=
          w.engine.plan (uuids w.drawn) principalId capability idempotencyKey intent
        (answer, { w with engine, drawn := w.drawn + 1 })
    | .authorize transactionId authorizationRef, w, _ =>
        let (answer, engine) := w.engine.authorize transactionId authorizationRef
        (answer, { w with engine })
    | .claim transactionId, w, _ =>
        let (answer, engine) := w.engine.claim transactionId
        (answer, { w with engine })
    | .effector transactionId intent, w, result =>
        (result, { w with invocations := w.invocations ++
          [⟨transactionId, intent, (w.engine.get transactionId).bind (·.authorizationRef)⟩] })
    | .recordFailure transactionId receipt, w, _ =>
        ((), { w with engine := w.engine.recordFailure transactionId receipt })
    | .recordSuccess transactionId receipt, w, _ =>
        let (answer, engine) := w.engine.recordSuccess transactionId receipt
        (answer, { w with engine })
    | .commit transactionId, w, _ =>
        let (answer, engine) := w.engine.commit transactionId
        (answer, { w with engine })
    | .get transactionId, w, _ => (w.engine.get transactionId, w)

abbrev EffectM : Type → Type := Prog EffectCall EffectCall.Answer

namespace EffectM

def claim (transactionId : String) : EffectM (Except NousError Claim) :=
  Prog.perform (EffectCall.claim transactionId)

def effector (transactionId : String) (intent : EffectIntent) :
    EffectM (Except NousError EffectReceipt) :=
  Prog.perform (EffectCall.effector transactionId intent)

def recordFailure (transactionId : String) (receipt : Option EffectReceipt) : EffectM Unit :=
  Prog.perform (EffectCall.recordFailure transactionId receipt)

def recordSuccess (transactionId : String) (receipt : EffectReceipt) :
    EffectM (Except NousError Unit) :=
  Prog.perform (EffectCall.recordSuccess transactionId receipt)

def execute (transactionId : String) : EffectM (Except NousError EffectReceipt) := do
  match ← claim transactionId with
  | .error error => return .error error
  | .ok (.receipt receipt) => return .ok receipt
  | .ok (.intent intent) =>
      match ← effector transactionId intent with
      | .error error =>
          recordFailure transactionId none
          return .error error
      | .ok receipt =>
          if receipt.success = false ∨ receipt.actualTarget ≠ intent.expectedTarget then
            recordFailure transactionId (some receipt)
            return .error ⟨.securityPolicy, "Effect receipt does not match the authorized intent"⟩
          else
            match ← recordSuccess transactionId receipt with
            | .error error => return .error error
            | .ok () => return .ok receipt

end EffectM

/-- The operations of the engine. -/
inductive EffectOperation where
  | plan (principalId capability idempotencyKey : String) (intent : EffectIntent)
  | authorize (transactionId authorizationRef : String)
  | execute (transactionId : String)
  | commit (transactionId : String)
  | get (transactionId : String)

inductive EffectOutcome where
  | planned (result : Except NousError EffectTransaction)
  | executed (result : Except NousError EffectReceipt)
  | settled (result : Except NousError Unit)
  | found (result : Option EffectTransaction)

def EffectOperation.program : EffectOperation → EffectM EffectOutcome
  | .plan principalId capability idempotencyKey intent =>
      .call (.plan principalId capability idempotencyKey intent) fun answer =>
        .done (.planned answer)
  | .authorize transactionId authorizationRef =>
      .call (.authorize transactionId authorizationRef) fun answer => .done (.settled answer)
  | .execute transactionId => do return .executed (← EffectM.execute transactionId)
  | .commit transactionId => .call (.commit transactionId) fun answer => .done (.settled answer)
  | .get transactionId => .call (.get transactionId) fun answer => .done (.found answer)

end NousKernel
