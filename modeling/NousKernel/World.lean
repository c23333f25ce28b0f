import NousKernel.Compatibility
import NousKernel.Journal
import NousKernel.Lease
import NousKernel.Placement
import NousKernel.Resumption

/-!
The world of one kernel: the durable journal, the volatile state of a
`KernelRuntime` (lease manager, active map, cancellation flags), the clock and
the uuid source, and the calls the runtime makes on them. `serde_json` is taken
to be faithful, so a payload is the value that was serialized.
-/

set_option autoImplicit false

namespace NousKernel

open Resumption

/-- `nous-state/src/execution_profile.rs`; the fields that are constant in the
runtime's profiles are left out. -/
structure ExecutionProfile where
  operationId : String
  workloadId : String
  taskClass : String
  model : String
  provider : String
  executionDomain : String
  device : String
  latencyMs : Nat
  queueLatencyMs : Nat
  recoveryLatencyMs : Option Nat
  failureCode : Option String
  recovered : Bool
  recordedAtUs : Int
  deriving DecidableEq, Repr

/-- What the runtime serializes. `raw` stands for the bytes of other writers of
the same journal. -/
inductive Payload where
  | request (value : OperationRequest)
  | receipt (value : OperationReceipt)
  | trace (value : DecisionTrace)
  | fencedLease (value : FencedLease)
  | leaseReleased (leaseId : String)
  | leaseRevoked (leaseId fencingToken reason : String)
  | failure (code category : String) (retryable : Bool) (source : String)
  | workload (workloadId phase : String)
  | rebind (fromProvider toProvider failureCode : String) (compatibility : CompatibilityReport)
  | candidate (provider reason : String)
  | profile (value : ExecutionProfile)
  | cancellation (workloadId operationId : String)
  | raw (bytes : List UInt8)
  deriving DecidableEq

namespace Payload

/-- `serde_json::from_slice::<OperationRequest>`. -/
def request? : Payload → Option OperationRequest
  | request value => some value
  | _ => none

def receipt? : Payload → Option OperationReceipt
  | receipt value => some value
  | _ => none

def trace? : Payload → Option DecisionTrace
  | trace value => some value
  | _ => none

def fencedLease? : Payload → Option FencedLease
  | fencedLease value => some value
  | _ => none

/-- `payload["lease_id"].as_str()`: a fenced lease has no such top-level field. -/
def leaseId? : Payload → Option String
  | leaseReleased leaseId => some leaseId
  | leaseRevoked leaseId _ _ => some leaseId
  | _ => none

end Payload

abbrev Entry := JournalEntry Payload

/-- `Uuid::now_v7().to_string()`: never the same text twice, hexadecimal digits
and hyphens only. -/
structure UuidSource where
  nowV7 : Nat → String
  injective : Function.Injective nowV7
  hyphenated : ∀ index, ':' ∉ (nowV7 index).toList

/-- A uuid source for concrete runs: texts of hexadecimal digits, each longer
than the one before. -/
def sampleUuids : UuidSource where
  nowV7 index := String.ofList (List.replicate index 'a')
  injective := by
    intro first second same
    simpa using congrArg (fun text => text.toList.length) same
  hyphenated := by simp

structure ActiveOperation where
  operationId : String
  request : OperationRequest
  cancellation : Nat
  deriving DecidableEq

/-- The history of a kernel: what was done to the journal and the provider, in
order, with the start and the end of each execution attempt. It is a ghost: no
call reads it. -/
inductive Event where
  | appended (entry : Entry)
  | absorbed (entry : Entry)
  | refused (entry : Entry)
  | granted (leaseId workloadId : String) (time : Int)
  | checked (leaseId : String) (time : Int)
  | registered (request : OperationRequest)
  | invoked (request : OperationRequest)
  | attempt (request : OperationRequest)
  | finished (request : OperationRequest) (failure : Option KernelError)
  | restarted
  deriving DecidableEq

structure World where
  journal : Journal Payload
  leases : LeaseManager
  active : AList (fun _ : String => ActiveOperation)
  state : KernelState
  cancelled : List Nat
  tokens : Nat
  clock : Int
  uuids : UuidSource
  drawn : Nat
  history : List Event

namespace World

/-- `BootCore::open` and `KernelRuntime::new` on an empty journal file. -/
def boot (uuids : UuidSource) (clock : Int) : World where
  journal := .empty
  leases := .new 30 (uuids.nowV7 0)
  active := ∅
  state := .ready
  cancelled := []
  tokens := 0
  clock := clock
  uuids := uuids
  drawn := 1
  history := []

/-- A crash or a stop, and a new process on the same journal. All that was not
journaled is gone. -/
def restart (w : World) : World :=
  { w with
    leases := .new 30 (w.uuids.nowV7 w.drawn)
    active := ∅
    state := .ready
    cancelled := []
    drawn := w.drawn + 1
    history := w.history ++ [.restarted] }

def record (w : World) (event : Event) : World := { w with history := w.history ++ [event] }

def tick (w : World) (elapsed : Nat) : World := { w with clock := w.clock + elapsed }

end World

section TickFields

variable (w : World) (elapsed : Nat)

@[simp] theorem World.tick_journal : (w.tick elapsed).journal = w.journal := rfl

@[simp] theorem World.tick_history : (w.tick elapsed).history = w.history := rfl

@[simp] theorem World.tick_leases : (w.tick elapsed).leases = w.leases := rfl

@[simp] theorem World.tick_state : (w.tick elapsed).state = w.state := rfl

@[simp] theorem World.tick_cancelled : (w.tick elapsed).cancelled = w.cancelled := rfl

@[simp] theorem World.tick_tokens : (w.tick elapsed).tokens = w.tokens := rfl

end TickFields

inductive Call where
  | now
  | kernelState
  | coreShutdown
  | readWorkload (workloadId : String)
  | readFrom (fromSequence : Nat)
  | append (entry : Entry)
  | grantFenced (workloadId principalId : String) (resources : ResourceVector)
      (nodeId deviceId : String) (renewable : Bool)
  | authorize (leaseId providedToken : String)
  | release (leaseId : String)
  | newCancellation
  | isCancelled (token : Nat)
  | cancel (token : Nat)
  | activeInsert (workloadId : String) (operation : ActiveOperation)
  | activeRemove (workloadId : String)
  | activeGet (workloadId : String)
  | activeOperations
  | activeEmpty
  | sleep (micros : Nat)
  | providerExecute (request : OperationRequest) (token : Nat)
  | providerOutcome (request : OperationRequest)
  | providerProbe (probe : ProviderProbeRequest)
  | attempt (request : OperationRequest)
  | finish (request : OperationRequest) (failure : Option KernelError)

/-- The answer of each call. A provider execution is two calls: the invocation
starts it and the outcome ends it, so a crash or another task can fall between. -/
abbrev Answer : Call → Type
  | .now => Int
  | .kernelState => KernelState
  | .readWorkload _ => Except NousError (List Entry)
  | .readFrom _ => Except NousError (List Entry)
  | .append _ => Except NousError Nat
  | .grantFenced .. => Except NousError FencedLease
  | .authorize .. => Bool
  | .release _ => Except NousError Unit
  | .newCancellation => Nat
  | .isCancelled _ => Bool
  | .activeGet _ => Option ActiveOperation
  | .activeOperations => List ActiveOperation
  | .activeEmpty => Bool
  | .providerOutcome _ => Except KernelError OperationReceipt
  | .providerProbe _ => Except KernelError ProviderProbeReport
  | _ => Unit

/-- What the environment decides at one call: how long it took, whether the
storage failed, and what the provider answers. -/
structure Choice where
  elapsed : Nat := 0
  storage : Option NousError := none
  outcome : Except KernelError OperationReceipt := .error (.provider "provider unavailable")
  probe : Except KernelError ProviderProbeReport :=
    .error (.provider "provider capability probe is unsupported")

/-- A read that the storage may fail. -/
def storageRead {α : Type} (storage : Option NousError) (value : α) : Except NousError α :=
  match storage with
  | some error => .error error
  | none => .ok value

/-- The append call: refused by the storage, absorbed by an entry with the same
key, or stored. -/
def World.append (w : World) (entry : Entry) (storage : Option NousError) :
    Except NousError Nat × World :=
  match storage with
  | some error => (.error error, w.record (.refused entry))
  | none =>
      let result := w.journal.append entry w.clock
      (.ok result.1, { w with journal := result.2 }.record (match w.journal.absorber entry with
        | some _ => .absorbed entry
        | none => .appended (Journal.stamp w.journal.nextSequence w.clock entry)))

def World.grantFenced (w : World) (workloadId principalId : String) (resources : ResourceVector)
    (nodeId deviceId : String) (renewable : Bool) : Except NousError FencedLease × World :=
  let leaseId := w.uuids.nowV7 w.drawn
  let result := w.leases.grantFenced w.clock leaseId workloadId principalId resources
    nodeId deviceId renewable
  let after := { w with leases := result.2, drawn := w.drawn + 1 }
  (result.1, match result.1 with
    | .ok _ => after.record (.granted leaseId workloadId w.clock)
    | .error _ => after)

def kernelAnswer (call : Call) (before : World) (choice : Choice) : Answer call × World :=
  let w := before.tick choice.elapsed
  match call with
  | .now => (w.clock, w)
  | .kernelState => (w.state, w)
  | .coreShutdown => ((), { w with state := .shuttingDown })
  | .readWorkload workloadId =>
      (storageRead choice.storage (w.journal.readWorkload workloadId), w)
  | .readFrom fromSequence =>
      (storageRead choice.storage (w.journal.readFrom fromSequence), w)
  | .append entry => w.append entry choice.storage
  | .grantFenced workloadId principalId resources nodeId deviceId renewable =>
      w.grantFenced workloadId principalId resources nodeId deviceId renewable
  | .authorize leaseId providedToken =>
      (w.leases.authorize w.clock leaseId providedToken, w.record (.checked leaseId w.clock))
  | .release leaseId =>
      ((w.leases.release leaseId).1, { w with leases := (w.leases.release leaseId).2 })
  | .newCancellation => (w.tokens, { w with tokens := w.tokens + 1 })
  | .isCancelled token => (decide (token ∈ w.cancelled), w)
  | .cancel token => ((), { w with cancelled := token :: w.cancelled })
  | .activeInsert workloadId operation =>
      ((), { w with active := w.active.insert workloadId operation }.record
        (.registered operation.request))
  | .activeRemove workloadId => ((), { w with active := w.active.erase workloadId })
  | .activeGet workloadId => (w.active.lookup workloadId, w)
  | .activeOperations => (w.active.entries.map (·.2), w)
  | .activeEmpty => (w.active.entries.isEmpty, w)
  | .sleep micros => ((), w.tick micros)
  | .providerExecute request _ => ((), w.record (.invoked request))
  | .providerOutcome _ => (choice.outcome, w)
  | .providerProbe _ => (choice.probe, w)
  | .attempt request => ((), w.record (.attempt request))
  | .finish request failure => ((), w.record (.finished request failure))

/-- The kernel's machine. -/
def kernel : Machine Call Answer World Choice := ⟨kernelAnswer⟩

/-- A runtime program, and one that can end with a `KernelError`. -/
abbrev Task (α : Type) := Prog Call Answer α

abbrev Fallible (α : Type) := ExceptT KernelError (Prog Call Answer) α

namespace Task

def now : Task Int := Prog.perform Call.now

def kernelState : Task KernelState := Prog.perform Call.kernelState

def coreShutdown : Task Unit := Prog.perform Call.coreShutdown

def readWorkload (workloadId : String) : Task (Except NousError (List Entry)) :=
  Prog.perform (Call.readWorkload workloadId)

def readFrom (fromSequence : Nat) : Task (Except NousError (List Entry)) :=
  Prog.perform (Call.readFrom fromSequence)

def append (entry : Entry) : Task (Except NousError Nat) := Prog.perform (Call.append entry)

def grantFenced (workloadId principalId : String) (resources : ResourceVector)
    (nodeId deviceId : String) (renewable : Bool) : Task (Except NousError FencedLease) :=
  Prog.perform (Call.grantFenced workloadId principalId resources nodeId deviceId renewable)

def authorize (leaseId providedToken : String) : Task Bool :=
  Prog.perform (Call.authorize leaseId providedToken)

def release (leaseId : String) : Task (Except NousError Unit) := Prog.perform (Call.release leaseId)

def newCancellation : Task Nat := Prog.perform Call.newCancellation

def isCancelled (token : Nat) : Task Bool := Prog.perform (Call.isCancelled token)

def cancelToken (token : Nat) : Task Unit := Prog.perform (Call.cancel token)

def activeInsert (workloadId : String) (operation : ActiveOperation) : Task Unit :=
  Prog.perform (Call.activeInsert workloadId operation)

def activeRemove (workloadId : String) : Task Unit := Prog.perform (Call.activeRemove workloadId)

def activeGet (workloadId : String) : Task (Option ActiveOperation) :=
  Prog.perform (Call.activeGet workloadId)

def activeOperations : Task (List ActiveOperation) := Prog.perform Call.activeOperations

def activeEmpty : Task Bool := Prog.perform Call.activeEmpty

def sleep (micros : Nat) : Task Unit := Prog.perform (Call.sleep micros)

def providerExecute (request : OperationRequest) (token : Nat) : Task Unit :=
  Prog.perform (Call.providerExecute request token)

def providerOutcome (request : OperationRequest) :
    Task (Except KernelError OperationReceipt) :=
  Prog.perform (Call.providerOutcome request)

def providerProbe (probe : ProviderProbeRequest) :
    Task (Except KernelError ProviderProbeReport) :=
  Prog.perform (Call.providerProbe probe)

def attempt (request : OperationRequest) : Task Unit := Prog.perform (Call.attempt request)

def finish (request : OperationRequest) (failure : Option KernelError) : Task Unit :=
  Prog.perform (Call.finish request failure)

end Task

end NousKernel
