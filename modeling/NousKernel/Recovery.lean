import NousKernel.Continuity

/-!
Recovery at boot (`KernelRuntime::recover` and `revoke_orphaned_leases` of
`nous-kernel-core/src/coordinator.rs`). Both walk over a hash map. The order in
which its values come out is a parameter.
-/

set_option autoImplicit false

namespace NousKernel

open Resumption

/-- The iteration orders of the two maps: any rearrangement of their values. -/
structure MapOrder where
  leases : List (String × String × FencedLease) → List (String × String × FencedLease)
  pending : List OperationRequest → List OperationRequest
  leasesPerm : ∀ values, (leases values).Perm values
  pendingPerm : ∀ values, (pending values).Perm values

/-- Insertion order. -/
def MapOrder.inserted : MapOrder where
  leases values := values
  pending values := values
  leasesPerm _ := .refl _
  pendingPerm _ := .refl _

/-- The maps of `revoke_orphaned_leases`: the last intent of each workload, and
the leases not yet closed with the workload of their entry. -/
structure LeaseScan where
  requests : AList (fun _ : String => OperationRequest) := ∅
  active : AList (fun _ : String => String × FencedLease) := ∅

def scanStep (scan : LeaseScan) (entry : Entry) : LeaseScan :=
  if entry.objectType = "Operation" ∧ entry.entryType = .intent then
    match entry.payload.request? with
    | some request => { scan with requests := scan.requests.insert request.workloadId request }
    | none => scan
  else if entry.objectType ≠ "ResourceLease" then scan
  else if entry.newPhase = "ACTIVE" then
    match entry.payload.fencedLease? with
    | some fenced =>
        { scan with active := scan.active.insert fenced.lease.leaseId (entry.workloadId, fenced) }
    | none => scan
  else if entry.newPhase = "RELEASED" ∨ entry.newPhase = "REVOKED" ∨
      entry.newPhase = "EXPIRED" then
    match entry.payload.leaseId? with
    | some leaseId => { scan with active := scan.active.erase leaseId }
    | none => scan
  else scan

def scanLeases (entries : List Entry) : LeaseScan := entries.foldl scanStep {}

def LeaseScan.orphans (scan : LeaseScan) : List (String × String × FencedLease) :=
  scan.active.entries.map fun entry => (entry.1, entry.2.1, entry.2.2)

def missingIntent (leaseId : String) : KernelError :=
  .journal ("orphaned lease " ++ leaseId ++ " has no durable operation intent")

def revokeLease (requests : AList (fun _ : String => OperationRequest))
    (orphan : String × String × FencedLease) : Fallible Unit :=
  match requests.lookup orphan.2.1 with
  | none => throw (missingIntent orphan.1)
  | some request =>
      append request .commit "ResourceLease" "REVOKED"
        (.leaseRevoked orphan.1 orphan.2.2.fencingToken
          "runtime recovery invalidated an orphaned lease")
        (revokeKey request.operationId orphan.2.2.lease.leaseId)

def revokeLeases (requests : AList (fun _ : String => OperationRequest)) :
    List (String × String × FencedLease) → Fallible Unit
  | [] => return ()
  | orphan :: rest => do
      revokeLease requests orphan
      revokeLeases requests rest

def revokeOrphanedLeases (order : MapOrder) : Fallible Unit := do
  let entries ← journalError (Task.readFrom 0)
  let scan := scanLeases entries
  revokeLeases scan.requests (order.leases scan.orphans)

def pendingOperations (order : MapOrder) : Fallible (List OperationRequest) := do
  let entries ← journalError (Task.readFrom 0)
  return order.pending (pendingValues entries)

/-- The deliveries that recovery repeats. -/
def DeliverySemantics.repeatable : DeliverySemantics → Bool
  | .idempotent | .reconcilable => true
  | _ => false

def recoverPending : List OperationRequest → List RuntimeExecution →
    Fallible (List RuntimeExecution)
  | [], recovered => return recovered
  | request :: rest, recovered =>
      if request.delivery.repeatable then do
        let execution ← attempt request true
        recoverPending rest (recovered ++ [execution])
      else throw (.unsafeRecovery request.operationId)

def recover (order : MapOrder) : Fallible (List RuntimeExecution) := do
  revokeOrphanedLeases order
  let pending ← pendingOperations order
  recoverPending pending []

end NousKernel
