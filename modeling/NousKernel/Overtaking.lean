import NousKernel.Leasing
import NousKernel.Transcript

/-!
Concurrent grants (`LeaseManager::grant_fenced`). The check, the insertion of the
lease, the draw of the token and the two recordings take different locks, so other
grants come between them. Tokens are drawn in order, but nothing makes them be
recorded in that order.
-/

set_option autoImplicit false

namespace NousKernel

open Resumption

/-! ### A grant step by step -/

structure GrantRequest where
  workloadId : String
  principalId : String
  resources : ResourceVector
  nodeId : String
  deviceId : String
  renewable : Bool
  deriving DecidableEq

def GrantRequest.resourceKey (r : GrantRequest) : String :=
  LeaseManager.resourceKey r.nodeId r.deviceId

inductive GrantCall where
  | checkVacant (workloadId : String)
  | insertLease (request : GrantRequest)
  | nextToken
  | recordLease (leaseId token : String)
  | recordResource (resourceKey token : String)

abbrev GrantCall.Answer : GrantCall → Type
  | .checkVacant _ => Except NousError Unit
  | .insertLease _ => Except NousError ResourceLease
  | .nextToken => String
  | .recordLease _ _ => Unit
  | .recordResource _ _ => Unit

structure GrantWorld where
  manager : LeaseManager
  clock : Int
  uuids : UuidSource
  drawn : Nat

def alreadyLeased (workloadId : String) : NousError :=
  ⟨.alreadyExists, "Workload '" ++ workloadId ++ "' already has an active lease"⟩

namespace GrantWorld

/-- The world of a desk. -/
def of (desk : LeaseDesk) : GrantWorld where
  manager := desk.manager
  clock := desk.clock
  uuids := desk.uuids
  drawn := desk.drawn

/-- The check under the lock of the leases. -/
def vacant (w : GrantWorld) (workloadId : String) (now : Int) : Except NousError Unit :=
  if w.manager.holdsValid workloadId now then .error (alreadyLeased workloadId) else .ok ()

/-- The lease that an insertion makes. -/
def leaseOf (w : GrantWorld) (now : Int) (r : GrantRequest) : ResourceLease :=
  w.manager.granted now (w.uuids.nowV7 w.drawn) r.workloadId r.principalId r.resources r.nodeId
    r.deviceId r.renewable

end GrantWorld

/-- The manager behind its locks. The choice is how long the clock moves. -/
def grantMachine : Machine GrantCall GrantCall.Answer GrantWorld Nat where
  answer
    | .checkVacant workloadId, w, elapsed =>
        (w.vacant workloadId (w.clock + elapsed), { w with clock := w.clock + elapsed })
    | .insertLease r, w, elapsed =>
        let now := w.clock + (elapsed : Int)
        match w.vacant r.workloadId now with
        | .error error => (.error error, { w with clock := now, drawn := w.drawn + 1 })
        | .ok () => (.ok (w.leaseOf now r),
            { w with
              clock := now
              drawn := w.drawn + 1
              manager := { w.manager with
                leases := w.manager.leases.insert (w.leaseOf now r).leaseId (w.leaseOf now r) } })
    | .nextToken, w, elapsed =>
        (w.manager.fencing.next.1,
          { w with
            clock := w.clock + elapsed
            manager := { w.manager with fencing := w.manager.fencing.next.2 } })
    | .recordLease leaseId token, w, elapsed =>
        ((), { w with
          clock := w.clock + elapsed
          manager := { w.manager with
            leaseTokens := w.manager.leaseTokens.insert leaseId token } })
    | .recordResource resourceKey token, w, elapsed =>
        ((), { w with
          clock := w.clock + elapsed
          manager := { w.manager with
            resourceTokens := w.manager.resourceTokens.insert resourceKey token } })

abbrev GrantM : Type → Type := Prog GrantCall GrantCall.Answer

namespace GrantM

def checkVacant (workloadId : String) : GrantM (Except NousError Unit) :=
  Prog.perform (GrantCall.checkVacant workloadId)

def insertLease (r : GrantRequest) : GrantM (Except NousError ResourceLease) :=
  Prog.perform (GrantCall.insertLease r)

def nextToken : GrantM String := Prog.perform GrantCall.nextToken

def recordLease (leaseId token : String) : GrantM Unit :=
  Prog.perform (GrantCall.recordLease leaseId token)

def recordResource (resourceKey token : String) : GrantM Unit :=
  Prog.perform (GrantCall.recordResource resourceKey token)

def grantFenced (r : GrantRequest) : GrantM (Except NousError FencedLease) := do
  match ← checkVacant r.workloadId with
  | .error error => return .error error
  | .ok () =>
      match ← insertLease r with
      | .error error => return .error error
      | .ok lease =>
          let token ← nextToken
          recordLease lease.leaseId token
          recordResource r.resourceKey token
          return .ok ⟨lease, token, r.resourceKey⟩

end GrantM

/-- Alone and at one time, the steps are the grant of the sequential model. -/
theorem grantFenced_alone (r : GrantRequest) (w : GrantWorld) :
    ((GrantM.grantFenced r).runWith grantMachine (fun _ _ => 0) w).1 =
        (w.manager.grantFenced w.clock (w.uuids.nowV7 w.drawn) r.workloadId r.principalId
          r.resources r.nodeId r.deviceId r.renewable).1 ∧
    ((GrantM.grantFenced r).runWith grantMachine (fun _ _ => 0) w).2.manager =
        (w.manager.grantFenced w.clock (w.uuids.nowV7 w.drawn) r.workloadId r.principalId
          r.resources r.nodeId r.deviceId r.renewable).2 := by
  cases held : w.manager.holdsValid r.workloadId w.clock with
  | true =>
      simp [GrantM.grantFenced, GrantM.checkVacant, grantMachine, GrantWorld.vacant, held,
        LeaseManager.grantFenced, alreadyLeased]
  | false =>
      simp [GrantM.grantFenced, GrantM.checkVacant, GrantM.insertLease, GrantM.nextToken,
        GrantM.recordLease, GrantM.recordResource, grantMachine, GrantWorld.vacant, held,
        LeaseManager.grantFenced, GrantWorld.leaseOf, LeaseManager.granted,
        GrantRequest.resourceKey]

/-! ### The protocol of a grant -/

inductive GrantStage where
  | asked
  | checked
  | inserted (lease : ResourceLease)
  | drew (lease : ResourceLease) (token : String)
  | assigned (lease : ResourceLease) (token : String)
  | finished (lease : ResourceLease) (token : String)
  | refused
  deriving DecidableEq

/-- The value of a token. -/
def tokenValue (token : String) : Nat := ((FencingToken.parse token).map (·.2)).getD 0

def ResourceLease.key (lease : ResourceLease) : String :=
  LeaseManager.resourceKey lease.nodeId lease.deviceId

namespace GrantStage

def lease : GrantStage → Option ResourceLease
  | inserted lease | drew lease _ | assigned lease _ | finished lease _ => some lease
  | _ => none

def token : GrantStage → Option String
  | drew _ token | assigned _ token | finished _ token => some token
  | _ => none

/-- The lease whose token is recorded for it. -/
def held : GrantStage → Option (ResourceLease × String)
  | assigned lease token | finished lease token => some (lease, token)
  | _ => none

/-- The lease whose token has been recorded for its resource. -/
def done : GrantStage → Option (ResourceLease × String)
  | finished lease token => some (lease, token)
  | _ => none

/-- The resource and the value of a token that is drawn and not yet recorded for its
resource. -/
def pending : GrantStage → Option (String × Nat)
  | drew lease token | assigned lease token => some (lease.key, tokenValue token)
  | _ => none

/-- The steps of a grant in their order. -/
def law (r : GrantRequest) : GrantStage → GrantCall → Prop
  | asked, .checkVacant workloadId => workloadId = r.workloadId
  | checked, .insertLease request => request = r
  | inserted _, .nextToken => True
  | drew lease token, .recordLease leaseId given => leaseId = lease.leaseId ∧ given = token
  | assigned _ token, .recordResource resourceKey given =>
      resourceKey = r.resourceKey ∧ given = token
  | _, _ => False

def next (stage : GrantStage) : (call : GrantCall) → call.Answer → GrantStage
  | .checkVacant _, .error _ => refused
  | .checkVacant _, .ok () => checked
  | .insertLease _, .error _ => refused
  | .insertLease _, .ok lease => inserted lease
  | .nextToken, token =>
      match stage with
      | inserted lease => drew lease token
      | other => other
  | .recordLease _ _, () =>
      match stage with
      | drew lease token => assigned lease token
      | other => other
  | .recordResource _ _, () =>
      match stage with
      | assigned lease token => finished lease token
      | other => other

end GrantStage

/-- The protocol of the call with an index. -/
def grantProtocol (requests : List GrantRequest) (index : Nat) :
    Protocol GrantCall GrantCall.Answer GrantStage where
  law stage call := ∃ r, requests[index]? = some r ∧ stage.law r call
  next := GrantStage.next

/-- A grant returns when it has recorded its token, or is refused. -/
def GrantStage.Returns (r : GrantRequest) : Except NousError FencedLease → GrantStage → Prop
  | .ok fenced, stage => stage = .finished fenced.lease fenced.fencingToken ∧
      fenced.resourceKey = r.resourceKey
  | .error _, stage => stage = .refused

theorem grantFenced_follows {requests : List GrantRequest} {index : Nat} {r : GrantRequest}
    (found : requests[index]? = some r) :
    (grantProtocol requests index).Follows (GrantStage.Returns r) (GrantM.grantFenced r)
      .asked := by
  refine ⟨⟨r, found, rfl⟩, fun answer => ?_⟩
  match answer with
  | .error error => rfl
  | .ok () =>
      refine ⟨⟨r, found, rfl⟩, fun inserted => ?_⟩
      match inserted with
      | .error error => rfl
      | .ok lease =>
          refine ⟨⟨r, found, trivial⟩, fun token => ?_⟩
          refine ⟨⟨r, found, rfl, rfl⟩, fun _ => ?_⟩
          refine ⟨⟨r, found, rfl, rfl⟩, fun _ => ?_⟩
          exact ⟨rfl, rfl⟩

/-! ### The invariant -/

/-- The value of the token recorded for a resource. -/
def GrantWorld.recorded (w : GrantWorld) (key : String) : Option Nat :=
  (w.manager.resourceTokens.lookup key).map tokenValue

/-- Whoever has yet to record a token for a resource has a larger one than the one
that is recorded for it. -/
def InOrder (w : GrantWorld) (stages : Nat → GrantStage) : Prop :=
  ∀ index key later, (stages index).pending = some (key, later) →
    ∀ earlier, w.recorded key = some earlier → earlier < later

structure Raced (requests : List GrantRequest) (w : GrantWorld) (stages : Nat → GrantStage) :
    Prop where
  nodeId : ':' ∉ w.manager.fencing.nodeId.toList
  own : ∀ index lease, (stages index).lease = some lease →
    ∃ r, requests[index]? = some r ∧ lease.key = r.resourceKey
  issued : ∀ index lease, (stages index).lease = some lease →
    ∃ number < w.drawn, w.uuids.nowV7 number = lease.leaseId
  apart : ∀ index other one two, index ≠ other → (stages index).lease = some one →
    (stages other).lease = some two → one.leaseId ≠ two.leaseId
  listed : ∀ index lease, (stages index).lease = some lease →
    w.manager.leases.lookup lease.leaseId = some lease
  drawn : ∀ index token, (stages index).token = some token →
    FencingToken.parse token = some (w.manager.fencing.nodeId.toList, tokenValue token)
  held : ∀ index lease token, (stages index).held = some (lease, token) →
    w.manager.leaseTokens.lookup lease.leaseId = some token
  different : ∀ index other one two first second, index ≠ other →
    (stages index).done = some (one, first) → (stages other).done = some (two, second) →
      one.key = two.key → tokenValue first ≠ tokenValue second
  newest : ∀ index lease token, (stages index).done = some (lease, token) →
    ∃ other last final, (stages other).done = some (last, final) ∧ last.key = lease.key ∧
      w.manager.resourceTokens.lookup lease.key = some final ∧
      tokenValue token ≤ tokenValue final

theorem Raced.start (requests : List GrantRequest) {w : GrantWorld}
    (nodeId : ':' ∉ w.manager.fencing.nodeId.toList) :
    Raced requests w fun _ => .asked where
  nodeId := nodeId
  own _ _ absent := by cases absent
  issued _ _ absent := by cases absent
  apart _ _ _ _ _ absent := by cases absent
  listed _ _ absent := by cases absent
  drawn _ _ absent := by cases absent
  held _ _ _ absent := by cases absent
  different _ _ _ _ _ _ _ absent := by cases absent
  newest _ _ _ absent := by cases absent

namespace GrantStage

theorem held_views {stage : GrantStage} {lease : ResourceLease} {token : String}
    (held : stage.held = some (lease, token)) :
    stage.lease = some lease ∧ stage.token = some token := by
  cases stage with
  | assigned _ _ | finished _ _ =>
      cases held
      exact ⟨rfl, rfl⟩
  | _ => cases held

theorem done_held {stage : GrantStage} {lease : ResourceLease} {token : String}
    (done : stage.done = some (lease, token)) : stage.held = some (lease, token) := by
  cases stage with
  | finished _ _ => exact done
  | _ => cases done

/-- A view of the stages that one call leaves alone. -/
theorem update_view {β : Type} {stages : Nat → GrantStage} {index : Nat} {stage : GrantStage}
    (view : GrantStage → β) (same : view stage = view (stages index)) (other : Nat) :
    view (Function.update stages index stage other) = view (stages other) := by
  by_cases mine : other = index
  · rw [mine, Function.update_self, same]
  · rw [Function.update_of_ne mine]

/-- A view of the stages that one call extends. -/
theorem update_some {β : Type} {stages : Nat → GrantStage} {index : Nat} {stage : GrantStage}
    (view : GrantStage → Option β) {value : β} (new : view stage = some value) {other : Nat}
    {found : β} (seen : view (Function.update stages index stage other) = some found) :
    (other = index ∧ found = value) ∨ (other ≠ index ∧ view (stages other) = some found) := by
  by_cases mine : other = index
  · rw [mine, Function.update_self, new, Option.some.injEq] at seen
    exact .inl ⟨mine, seen.symm⟩
  · rw [Function.update_of_ne mine] at seen
    exact .inr ⟨mine, seen⟩

end GrantStage

open GrantStage (update_view update_some held_views done_held)

section Steps

variable {requests : List GrantRequest} {w later : GrantWorld} {stages : Nat → GrantStage}
  {index : Nat} {stage : GrantStage}

/-- A step that touches neither the tables nor what the call holds. -/
theorem Raced.quiet (raced : Raced requests w stages) (lease : stage.lease = (stages index).lease)
    (token : stage.token = (stages index).token) (held : stage.held = (stages index).held)
    (done : stage.done = (stages index).done) (manager : later.manager = w.manager)
    (uuids : later.uuids = w.uuids) (grown : w.drawn ≤ later.drawn) :
    Raced requests later (Function.update stages index stage) where
  nodeId := by
    rw [manager]
    exact raced.nodeId
  own := by simpa only [update_view GrantStage.lease lease] using raced.own
  issued := by
    simp only [update_view GrantStage.lease lease, uuids]
    intro other found seen
    obtain ⟨number, before, drawn⟩ := raced.issued other found seen
    exact ⟨number, by omega, drawn⟩
  apart := by simpa only [update_view GrantStage.lease lease] using raced.apart
  listed := by simpa only [update_view GrantStage.lease lease, manager] using raced.listed
  drawn := by simpa only [update_view GrantStage.token token, manager] using raced.drawn
  held := by simpa only [update_view GrantStage.held held, manager] using raced.held
  different := by simpa only [update_view GrantStage.done done] using raced.different
  newest := by simpa only [update_view GrantStage.done done, manager] using raced.newest

/-- An insertion brings a lease whose id nobody has. -/
theorem Raced.insert (raced : Raced requests w stages) (checked : stages index = .checked)
    {r : GrantRequest} (found : requests[index]? = some r) (now : Int) :
    Raced requests
      { w with
        clock := now
        drawn := w.drawn + 1
        manager := { w.manager with
          leases := w.manager.leases.insert (w.leaseOf now r).leaseId (w.leaseOf now r) } }
      (Function.update stages index (.inserted (w.leaseOf now r))) := by
  have id : (w.leaseOf now r).leaseId = w.uuids.nowV7 w.drawn := rfl
  have fresh : ∀ other lease, (stages other).lease = some lease →
      lease.leaseId ≠ (w.leaseOf now r).leaseId := by
    intro other lease seen same
    obtain ⟨number, before, drawn⟩ := raced.issued other lease seen
    have equal : number = w.drawn := w.uuids.injective (drawn.trans (same.trans id))
    omega
  have new : GrantStage.lease (.inserted (w.leaseOf now r)) = some (w.leaseOf now r) := rfl
  have token : GrantStage.token (.inserted (w.leaseOf now r)) = (stages index).token := by
    rw [checked]
    rfl
  have held : GrantStage.held (.inserted (w.leaseOf now r)) = (stages index).held := by
    rw [checked]
    rfl
  have done : GrantStage.done (.inserted (w.leaseOf now r)) = (stages index).done := by
    rw [checked]
    rfl
  constructor
  · exact raced.nodeId
  · intro other lease seen
    rcases update_some GrantStage.lease new seen with ⟨rfl, rfl⟩ | ⟨_, before⟩
    · exact ⟨r, found, rfl⟩
    · exact raced.own other lease before
  · intro other lease seen
    rcases update_some GrantStage.lease new seen with ⟨_, rfl⟩ | ⟨_, before⟩
    · exact ⟨w.drawn, Nat.lt_succ_self _, id⟩
    · obtain ⟨number, earlier, drawn⟩ := raced.issued other lease before
      exact ⟨number, Nat.lt_succ_of_lt earlier, drawn⟩
  · intro first second one two different seenOne seenTwo
    rcases update_some GrantStage.lease new seenOne with ⟨mine, rfl⟩ | ⟨_, before⟩
    · rcases update_some GrantStage.lease new seenTwo with ⟨yours, rfl⟩ | ⟨_, before⟩
      · exact absurd (mine.trans yours.symm) different
      · exact (fresh second two before).symm
    · rcases update_some GrantStage.lease new seenTwo with ⟨_, rfl⟩ | ⟨_, beforeTwo⟩
      · exact fresh first one before
      · exact raced.apart first second one two different before beforeTwo
  · intro other lease seen
    rcases update_some GrantStage.lease new seen with ⟨_, rfl⟩ | ⟨_, before⟩
    · exact AList.lookup_insert _
    · show (w.manager.leases.insert _ _).lookup lease.leaseId = some lease
      rw [AList.lookup_insert_ne (fresh other lease before)]
      exact raced.listed other lease before
  · simpa only [update_view GrantStage.token token] using raced.drawn
  · simpa only [update_view GrantStage.held held] using raced.held
  · simpa only [update_view GrantStage.done done] using raced.different
  · simpa only [update_view GrantStage.done done] using raced.newest

/-- The value of a token that is drawn is read back from it. -/
theorem parse_next {fencing : FencingToken} (free : ':' ∉ fencing.nodeId.toList) :
    FencingToken.parse fencing.next.1 = some (fencing.nodeId.toList, tokenValue fencing.next.1) := by
  have parsed := FencingToken.parse_next_free free
  rw [tokenValue, parsed]
  rfl

theorem Raced.draw (raced : Raced requests w stages) {lease : ResourceLease}
    (inserted : stages index = .inserted lease) (clock : Int) :
    Raced requests
      { w with
        clock := clock
        manager := { w.manager with fencing := w.manager.fencing.next.2 } }
      (Function.update stages index (.drew lease w.manager.fencing.next.1)) := by
  have new : GrantStage.token (.drew lease w.manager.fencing.next.1) =
      some w.manager.fencing.next.1 := rfl
  have same : GrantStage.lease (.drew lease w.manager.fencing.next.1) = (stages index).lease := by
    rw [inserted]
    rfl
  have held : GrantStage.held (.drew lease w.manager.fencing.next.1) = (stages index).held := by
    rw [inserted]
    rfl
  have done : GrantStage.done (.drew lease w.manager.fencing.next.1) = (stages index).done := by
    rw [inserted]
    rfl
  constructor
  · exact raced.nodeId
  · simpa only [update_view GrantStage.lease same] using raced.own
  · simpa only [update_view GrantStage.lease same] using raced.issued
  · simpa only [update_view GrantStage.lease same] using raced.apart
  · simpa only [update_view GrantStage.lease same] using raced.listed
  · intro other token seen
    rcases update_some GrantStage.token new seen with ⟨_, rfl⟩ | ⟨_, before⟩
    · exact parse_next raced.nodeId
    · exact raced.drawn other token before
  · simpa only [update_view GrantStage.held held] using raced.held
  · simpa only [update_view GrantStage.done done] using raced.different
  · simpa only [update_view GrantStage.done done] using raced.newest

theorem Raced.recordLease (raced : Raced requests w stages) {lease : ResourceLease}
    {token : String} (drew : stages index = .drew lease token) (clock : Int) :
    Raced requests
      { w with
        clock := clock
        manager := { w.manager with
          leaseTokens := w.manager.leaseTokens.insert lease.leaseId token } }
      (Function.update stages index (.assigned lease token)) := by
  have mine : (stages index).lease = some lease := by
    rw [drew]
    rfl
  have same : GrantStage.lease (.assigned lease token) = (stages index).lease := mine.symm
  have drawn : GrantStage.token (.assigned lease token) = (stages index).token := by
    rw [drew]
    rfl
  have new : GrantStage.held (.assigned lease token) = some (lease, token) := rfl
  have done : GrantStage.done (.assigned lease token) = (stages index).done := by
    rw [drew]
    rfl
  constructor
  · exact raced.nodeId
  · simpa only [update_view GrantStage.lease same] using raced.own
  · simpa only [update_view GrantStage.lease same] using raced.issued
  · simpa only [update_view GrantStage.lease same] using raced.apart
  · simpa only [update_view GrantStage.lease same] using raced.listed
  · simpa only [update_view GrantStage.token drawn] using raced.drawn
  · intro other found given seen
    rcases update_some GrantStage.held new seen with ⟨_, pair⟩ | ⟨different, before⟩
    · cases pair
      exact AList.lookup_insert _
    · have apart := raced.apart other index found lease different (held_views before).1 mine
      show (w.manager.leaseTokens.insert _ _).lookup found.leaseId = some given
      rw [AList.lookup_insert_ne apart]
      exact raced.held other found given before
  · simpa only [update_view GrantStage.done done] using raced.different
  · simpa only [update_view GrantStage.done done] using raced.newest

/-- A token that is recorded in its order is the newest of its resource. -/
theorem Raced.recordResource (raced : Raced requests w stages) {lease : ResourceLease}
    {token : String} (assigned : stages index = .assigned lease token)
    (inOrder : InOrder w stages) (clock : Int) :
    Raced requests
      { w with
        clock := clock
        manager := { w.manager with
          resourceTokens := w.manager.resourceTokens.insert lease.key token } }
      (Function.update stages index (.finished lease token)) := by
  have same : GrantStage.lease (.finished lease token) = (stages index).lease := by
    rw [assigned]
    rfl
  have drawn : GrantStage.token (.finished lease token) = (stages index).token := by
    rw [assigned]
    rfl
  have held : GrantStage.held (.finished lease token) = (stages index).held := by
    rw [assigned]
    rfl
  have new : GrantStage.done (.finished lease token) = some (lease, token) := rfl
  have waits : (stages index).pending = some (lease.key, tokenValue token) := by
    rw [assigned]
    rfl
  -- All that is recorded for the resource has been drawn before the token.
  have below : ∀ other found given, (stages other).done = some (found, given) →
      found.key = lease.key → tokenValue given < tokenValue token := by
    intro other found given done key
    obtain ⟨_, _, final, _, _, current, above⟩ := raced.newest other found given done
    have last : w.recorded lease.key = some (tokenValue final) := by
      rw [GrantWorld.recorded, ← key, current]
      rfl
    have ordered := inOrder index lease.key _ waits _ last
    omega
  constructor
  · exact raced.nodeId
  · simpa only [update_view GrantStage.lease same] using raced.own
  · simpa only [update_view GrantStage.lease same] using raced.issued
  · simpa only [update_view GrantStage.lease same] using raced.apart
  · simpa only [update_view GrantStage.lease same] using raced.listed
  · simpa only [update_view GrantStage.token drawn] using raced.drawn
  · simpa only [update_view GrantStage.held held] using raced.held
  · intro first second one two firstToken secondToken different seenOne seenTwo key
    rcases update_some GrantStage.done new seenOne with ⟨mine, pair⟩ | ⟨_, before⟩
    · rcases update_some GrantStage.done new seenTwo with ⟨yours, _⟩ | ⟨_, before⟩
      · exact absurd (mine.trans yours.symm) different
      · cases pair
        have less := below second two secondToken before key.symm
        omega
    · rcases update_some GrantStage.done new seenTwo with ⟨_, pair⟩ | ⟨_, beforeTwo⟩
      · cases pair
        have less := below first one firstToken before key
        omega
      · exact raced.different first second one two firstToken secondToken different before
          beforeTwo key
  · intro other found given seen
    by_cases key : found.key = lease.key
    · refine ⟨index, lease, token, by rw [Function.update_self]; exact new, key.symm, ?_, ?_⟩
      · rw [key]
        exact AList.lookup_insert _
      · rcases update_some GrantStage.done new seen with ⟨_, pair⟩ | ⟨_, before⟩
        · cases pair
          exact Nat.le_refl _
        · exact Nat.le_of_lt (below other found given before key)
    · rcases update_some GrantStage.done new seen with ⟨_, pair⟩ | ⟨_, before⟩
      · cases pair
        exact absurd rfl key
      · obtain ⟨holder, last, final, done, lastKey, current, above⟩ :=
          raced.newest other found given before
        have elsewhere : holder ≠ index := by
          rintro rfl
          rw [assigned] at done
          cases done
        refine ⟨holder, last, final, ?_, lastKey, ?_, above⟩
        · rw [Function.update_of_ne elsewhere]
          exact done
        · show (w.manager.resourceTokens.insert _ _).lookup found.key = some final
          rw [AList.lookup_insert_ne key]
          exact current

/-- Every permitted step keeps the invariant where the tokens are in order. -/
theorem raced_kept (requests : List GrantRequest) :
    Attends.KeptWhere InOrder (grantProtocol requests) grantMachine (Raced requests) := by
  rintro w stages index call elapsed raced inOrder ⟨r, found, permitted⟩
  cases stage : stages index with
  | asked =>
      rw [stage] at permitted
      cases call with
      | checkVacant workloadId =>
          show Raced requests { w with clock := w.clock + elapsed } (Function.update stages index
            (GrantStage.next .asked (.checkVacant workloadId)
              (w.vacant workloadId (w.clock + elapsed))))
          cases w.vacant workloadId (w.clock + elapsed) with
          | error error =>
              apply raced.quiet <;> first | rfl | exact Nat.le_refl _ | (rw [stage]; rfl)
          | ok _ =>
              apply raced.quiet <;> first | rfl | exact Nat.le_refl _ | (rw [stage]; rfl)
      | _ => exact permitted.elim
  | checked =>
      rw [stage] at permitted
      cases call with
      | insertLease request =>
          obtain rfl : request = r := permitted
          cases vacant : w.vacant request.workloadId (w.clock + elapsed) with
          | error error =>
              simp only [grantMachine, grantProtocol, vacant]
              apply raced.quiet <;> first | rfl | exact Nat.le_succ _ | (rw [stage]; rfl)
          | ok _ =>
              simp only [grantMachine, grantProtocol, vacant]
              exact raced.insert stage found (w.clock + elapsed)
      | _ => exact permitted.elim
  | inserted lease =>
      rw [stage] at permitted
      cases call with
      | nextToken => exact raced.draw stage (w.clock + elapsed)
      | _ => exact permitted.elim
  | drew lease token =>
      rw [stage] at permitted
      cases call with
      | recordLease leaseId given =>
          obtain ⟨rfl, rfl⟩ := permitted
          exact raced.recordLease stage (w.clock + elapsed)
      | _ => exact permitted.elim
  | assigned lease token =>
      rw [stage] at permitted
      cases call with
      | recordResource resourceKey given =>
          obtain ⟨rfl, rfl⟩ := permitted
          obtain ⟨request, here, key⟩ := raced.own index lease (by rw [stage]; rfl)
          obtain rfl : request = r := Option.some.inj (here.symm.trans found)
          rw [← key]
          exact raced.recordResource stage inOrder (w.clock + elapsed)
      | _ => exact permitted.elim
  | finished lease token | refused =>
      rw [stage] at permitted
      cases call <;> exact permitted.elim

/-- What is recorded for a resource reaches a value. -/
def GrantWorld.Reaches (w : GrantWorld) (key : String) (value : Nat) : Prop :=
  ∃ current, w.recorded key = some current ∧ value ≤ current

/-- Every permitted step keeps the values that are reached. -/
theorem reaches_kept (requests : List GrantRequest) (key : String) (value : Nat) :
    Attends.KeptWhere InOrder (grantProtocol requests) grantMachine
      fun w stages => Raced requests w stages ∧ w.Reaches key value := by
  rintro w stages index call elapsed ⟨raced, current, recorded, least⟩ inOrder permitted
  refine ⟨raced_kept requests w stages index call elapsed raced inOrder permitted, ?_⟩
  cases call with
  | checkVacant workloadId | nextToken | recordLease leaseId token =>
      exact ⟨current, recorded, least⟩
  | insertLease request =>
      cases vacant : w.vacant request.workloadId (w.clock + elapsed) with
      | error error =>
          simp only [grantMachine, vacant]
          exact ⟨current, recorded, least⟩
      | ok _ =>
          simp only [grantMachine, vacant]
          exact ⟨current, recorded, least⟩
  | recordResource resourceKey token =>
      by_cases same : key = resourceKey
      · subst same
        obtain ⟨r, found, asks⟩ := permitted
        cases stage : stages index with
        | assigned lease given =>
            rw [stage] at asks
            obtain ⟨mine, rfl⟩ := asks
            obtain ⟨request, here, own⟩ := raced.own index lease (by rw [stage]; rfl)
            obtain rfl : request = r := Option.some.inj (here.symm.trans found)
            have waits : (stages index).pending = some (key, tokenValue token) := by
              rw [stage, mine, ← own]
              rfl
            have ordered := inOrder index key _ waits current recorded
            refine ⟨tokenValue token, ?_, by omega⟩
            show ((w.manager.resourceTokens.insert key token).lookup key).map tokenValue = _
            rw [AList.lookup_insert]
            rfl
        | _ =>
            rw [stage] at asks
            exact asks.elim
      · refine ⟨current, ?_, least⟩
        show ((w.manager.resourceTokens.insert resourceKey token).lookup key).map tokenValue = _
        rw [AList.lookup_insert_ne same]
        exact recorded

end Steps

/-! ### Who is authorized -/

section Authorized

variable {requests : List GrantRequest} {w : GrantWorld} {stages : Nat → GrantStage}
  {index other : Nat} {one two : ResourceLease} {first second : String}

/-- A lease with a smaller token than another that has returned is not authorized. -/
theorem Raced.unauthorized (raced : Raced requests w stages)
    (done : (stages index).done = some (one, first))
    (larger : (stages other).done = some (two, second)) (key : one.key = two.key)
    (less : tokenValue first < tokenValue second) (now : Int) (token : String) :
    w.manager.authorize now one.leaseId token = false := by
  apply Bool.eq_false_iff.mpr
  intro authorized
  obtain ⟨lease, current, found, _, held, recorded, passes⟩ :=
    LeaseDesk.authorize_true authorized
  obtain ⟨mine, drawn⟩ := held_views (done_held done)
  have same : lease = one := Option.some.inj (found.symm.trans (raced.listed index one mine))
  subst same
  have own : token = first :=
    Option.some.inj (held.symm.trans (raced.held index lease first (done_held done)))
  subst own
  obtain ⟨holder, last, final, lastDone, _, newest, above⟩ := raced.newest other two second larger
  have latest : current = final := by
    rw [← key] at newest
    exact Option.some.inj (recorded.symm.trans newest)
  subst latest
  have parsed := raced.drawn holder current (held_views (done_held lastDone)).2
  rw [FencingToken.isTokenValid, parsed, raced.drawn index token drawn] at passes
  simp only [Bool.and_eq_true, beq_iff_eq] at passes
  omega

/-- A lease with the largest of the tokens that have returned is authorized as long as
it is valid. -/
theorem Raced.authorized (raced : Raced requests w stages)
    (done : (stages index).done = some (one, first))
    (largest : ∀ other two second, (stages other).done = some (two, second) →
      two.key = one.key → tokenValue second ≤ tokenValue first) (now : Int) :
    w.manager.authorize now one.leaseId first = one.isValid now := by
  obtain ⟨mine, drawn⟩ := held_views (done_held done)
  have listed := raced.listed index one mine
  have held := raced.held index one first (done_held done)
  obtain ⟨holder, last, final, lastDone, key, newest, above⟩ := raced.newest index one first done
  have most := largest holder last final lastDone key
  have own : holder = index := by
    by_contra different
    have values := raced.different holder index last one final first different lastDone done key
    omega
  subst own
  rw [done] at lastDone
  cases lastDone
  have valid : FencingToken.isTokenValid first first = true := by
    rw [FencingToken.isTokenValid, raced.drawn holder first drawn]
    simp
  rw [ResourceLease.key] at newest
  simp [LeaseManager.authorize, listed, held, newest, valid]

end Authorized

/-! ### Every interleaving -/

/-- The manager of a lease desk keeps the node id of its tokens. -/
theorem LeaseDesk.after_nodeId (duration : Int) (uuids : UuidSource) (clock : Int)
    (history : List LeaseCall) :
    (LeaseDesk.after duration uuids clock history).manager.fencing.nodeId =
      "lease-" ++ uuids.nowV7 0 := by
  have keeps : ∀ (desk : LeaseDesk) (call : LeaseCall),
      desk.manager.fencing.nodeId = "lease-" ++ uuids.nowV7 0 →
        (desk.serve call).manager.fencing.nodeId = "lease-" ++ uuids.nowV7 0 := by
    intro desk call same
    have effect := LeaseDesk.served desk call
    generalize desk.serve call = later at effect ⊢
    cases effect <;> exact same
  exact Stepwise.run_invariant keeps rfl history

/-- Threads that each make one grant on a manager with a history. -/
def grantPool (desk : LeaseDesk) (requests : List GrantRequest) :
    Pool GrantCall GrantCall.Answer GrantWorld (Except NousError FencedLease) :=
  ⟨.of desk, requests.map GrantM.grantFenced⟩

def grantRun (desk : LeaseDesk) (requests : List GrantRequest) (schedule : List (Nat × Nat)) :
    GrantWorld :=
  ((grantPool desk requests).run grantMachine schedule).world

/-- What a call has returned. -/
def grantResult (desk : LeaseDesk) (requests : List GrantRequest) (schedule : List (Nat × Nat))
    (index : Nat) : Option (Except NousError FencedLease) :=
  ((grantPool desk requests).run grantMachine schedule).result index

/-- How far each call is, read off the steps it has taken. -/
def grantStages (desk : LeaseDesk) (requests : List GrantRequest) (schedule : List (Nat × Nat))
    (index : Nat) : GrantStage :=
  (grantProtocol requests index).after .asked
    ((grantPool desk requests).transcript grantMachine schedule index)

/-- The tokens of every resource are in order before every turn. -/
def GrantsInOrder (desk : LeaseDesk) (requests : List GrantRequest)
    (schedule : List (Nat × Nat)) : Prop :=
  ∀ turns, InOrder (grantRun desk requests (schedule.take turns))
    (grantStages desk requests (schedule.take turns))

/-- A call that has returned a lease has drawn its token and recorded it. -/
def GrantEnds (requests : List GrantRequest) (index : Nat)
    (result : Except NousError FencedLease) (stage : GrantStage) : Prop :=
  ∃ r, requests[index]? = some r ∧ stage.Returns r result

theorem grantPool_attends {desk : LeaseDesk} (nodeId : ':' ∉ desk.manager.fencing.nodeId.toList)
    (requests : List GrantRequest) :
    Attends (grantProtocol requests) (Raced requests) (GrantEnds requests) (fun _ => .asked)
      (grantPool desk requests) := by
  refine ⟨Raced.start requests nodeId, ?_⟩
  intro index p found
  rw [grantPool, List.getElem?_map] at found
  obtain ⟨r, here, rfl⟩ := Option.map_eq_some_iff.mp found
  exact Protocol.Follows.mono (grantFenced_follows here) fun _ _ ends => ⟨r, here, ends⟩

section Run

variable {desk : LeaseDesk} {requests : List GrantRequest} {schedule : List (Nat × Nat)}

theorem GrantsInOrder.shorter (inOrder : GrantsInOrder desk requests schedule) (turns : Nat) :
    GrantsInOrder desk requests (schedule.take turns) := by
  intro fewer
  rw [List.take_take]
  exact inOrder (min fewer turns)

theorem grantPool_raced (nodeId : ':' ∉ desk.manager.fencing.nodeId.toList)
    (inOrder : GrantsInOrder desk requests schedule) :
    Attends (grantProtocol requests) (Raced requests) (GrantEnds requests)
      (grantStages desk requests schedule)
      ((grantPool desk requests).run grantMachine schedule) :=
  (grantPool_attends nodeId requests).run_where (raced_kept requests) schedule inOrder

/-- One more turn keeps the values that are reached. -/
theorem reaches_turn (nodeId : ':' ∉ desk.manager.fencing.nodeId.toList)
    (inOrder : GrantsInOrder desk requests schedule) {turns : Nat} {key : String} {value : Nat}
    (reached : (grantRun desk requests (schedule.take turns)).Reaches key value) :
    (grantRun desk requests (schedule.take (turns + 1))).Reaches key value := by
  rw [List.take_add_one]
  cases schedule[turns]? with
  | none =>
      rw [Option.toList_none, List.append_nil]
      exact reached
  | some turn =>
      have attends := grantPool_raced nodeId (inOrder.shorter turns)
      have both : Attends (grantProtocol requests)
          (fun w stages => Raced requests w stages ∧ w.Reaches key value) (GrantEnds requests)
          (grantStages desk requests (schedule.take turns))
          ((grantPool desk requests).run grantMachine (schedule.take turns)) :=
        ⟨⟨attends.inv, reached⟩, attends.follows⟩
      have onward := both.step_where (reaches_kept requests key value) (inOrder turns) turn
      rw [grantRun, Option.toList_some, Pool.run_append]
      exact onward.inv.2

theorem reaches_later (nodeId : ':' ∉ desk.manager.fencing.nodeId.toList)
    (inOrder : GrantsInOrder desk requests schedule) {turns more : Nat} (later : turns ≤ more)
    {key : String} {value : Nat}
    (reached : (grantRun desk requests (schedule.take turns)).Reaches key value) :
    (grantRun desk requests (schedule.take more)).Reaches key value := by
  induction more, later using Nat.le_induction with
  | base => exact reached
  | succ more _ ih => exact reaches_turn nodeId inOrder ih

/-- A call that has returned a lease is finished with its token recorded. -/
theorem grantResult_done (attends : Attends (grantProtocol requests) (Raced requests)
      (GrantEnds requests) (grantStages desk requests schedule)
      ((grantPool desk requests).run grantMachine schedule)) {index : Nat} {fenced : FencedLease}
    (returned : grantResult desk requests schedule index = some (.ok fenced)) :
    (grantStages desk requests schedule index).done = some (fenced.lease, fenced.fencingToken) ∧
      fenced.lease.key = fenced.resourceKey := by
  obtain ⟨r, found, stage, key⟩ := attends.returned returned
  rw [stage]
  refine ⟨rfl, ?_⟩
  obtain ⟨request, here, own⟩ := attends.inv.own index fenced.lease (by rw [stage]; rfl)
  rw [key, own, Option.some.inj (here.symm.trans found)]

/-- A call that has recorded its token has returned. -/
theorem done_grantResult (attends : Attends (grantProtocol requests) (Raced requests)
      (GrantEnds requests) (grantStages desk requests schedule)
      ((grantPool desk requests).run grantMachine schedule)) {index : Nat} {lease : ResourceLease}
    {token : String}
    (done : (grantStages desk requests schedule index).done = some (lease, token)) :
    ∃ fenced, grantResult desk requests schedule index = some (.ok fenced) ∧
      fenced.lease = lease ∧ fenced.fencingToken = token := by
  obtain ⟨r, found, _⟩ := attends.inv.own index lease (held_views (GrantStage.done_held done)).1
  have finished : grantStages desk requests schedule index = .finished lease token := by
    cases stage : grantStages desk requests schedule index with
    | finished _ _ =>
        rw [stage] at done
        cases done
        rfl
    | _ =>
        rw [stage] at done
        cases done
  have inside : index < ((grantPool desk requests).run grantMachine schedule).threads.length := by
    rw [Pool.run_length]
    simpa [grantPool] using (List.getElem?_eq_some_iff.mp found).1
  obtain ⟨p, present⟩ : ∃ p,
      ((grantPool desk requests).run grantMachine schedule).threads[index]? = some p :=
    ⟨_, List.getElem?_eq_getElem inside⟩
  have follows := attends.follows index p present
  rw [finished] at follows
  cases p with
  | call call next =>
      obtain ⟨_, _, permitted⟩ := follows.1
      cases call <;> exact permitted.elim
  | done result =>
      obtain ⟨_, _, ends⟩ := follows
      cases result with
      | error error => cases ends
      | ok fenced =>
          obtain ⟨same, _⟩ := ends
          cases same
          exact ⟨fenced, Pool.result_eq_some.mpr present, rfl, rfl⟩

end Run

/-- Along a run the token recorded for a resource only grows, and of the calls on it
that have returned only the one with the largest token is authorized. -/
structure ForwardOnly (desk : LeaseDesk) (requests : List GrantRequest)
    (schedule : List (Nat × Nat)) : Prop where
  grows : ∀ turns more, turns ≤ more → ∀ key before,
    (grantRun desk requests (schedule.take turns)).recorded key = some before →
    ∃ after, (grantRun desk requests (schedule.take more)).recorded key = some after ∧
      before ≤ after
  apart : ∀ index other one two, index ≠ other →
    grantResult desk requests schedule index = some (.ok one) →
    grantResult desk requests schedule other = some (.ok two) →
    one.resourceKey = two.resourceKey → tokenValue one.fencingToken ≠ tokenValue two.fencingToken
  smaller : ∀ index other one two,
    grantResult desk requests schedule index = some (.ok one) →
    grantResult desk requests schedule other = some (.ok two) →
    one.resourceKey = two.resourceKey → tokenValue one.fencingToken < tokenValue two.fencingToken →
    ∀ now token,
      (grantRun desk requests schedule).manager.authorize now one.lease.leaseId token = false
  largest : ∀ index one, grantResult desk requests schedule index = some (.ok one) →
    (∀ other two, grantResult desk requests schedule other = some (.ok two) →
      two.resourceKey = one.resourceKey →
        tokenValue two.fencingToken ≤ tokenValue one.fencingToken) →
    ∀ now, (grantRun desk requests schedule).manager.authorize now one.lease.leaseId
      one.fencingToken = one.lease.isValid now

/-- Grants that record their tokens in the order of the draws never take a token back,
whatever the manager did before. -/
theorem grants_forward (duration : Int) (uuids : UuidSource) (clock : Int)
    (history : List LeaseCall) (requests : List GrantRequest) (schedule : List (Nat × Nat))
    (inOrder : GrantsInOrder (.after duration uuids clock history) requests schedule) :
    ForwardOnly (.after duration uuids clock history) requests schedule := by
  have nodeId : ':' ∉
      (LeaseDesk.after duration uuids clock history).manager.fencing.nodeId.toList := by
    rw [LeaseDesk.after_nodeId]
    have hyphenated := uuids.hyphenated 0
    simpa using hyphenated
  have attends := grantPool_raced nodeId inOrder
  constructor
  · intro turns more later key before recorded
    exact reaches_later nodeId inOrder later ⟨before, recorded, Nat.le_refl _⟩
  · intro index other one two different first second key
    obtain ⟨doneOne, keyOne⟩ := grantResult_done attends first
    obtain ⟨doneTwo, keyTwo⟩ := grantResult_done attends second
    exact attends.inv.different index other _ _ _ _ different doneOne doneTwo
      (keyOne.trans (key.trans keyTwo.symm))
  · intro index other one two first second key less
    obtain ⟨doneOne, keyOne⟩ := grantResult_done attends first
    obtain ⟨doneTwo, keyTwo⟩ := grantResult_done attends second
    exact attends.inv.unauthorized doneOne doneTwo (keyOne.trans (key.trans keyTwo.symm)) less
  · intro index one returned most
    obtain ⟨done, key⟩ := grantResult_done attends returned
    apply attends.inv.authorized done
    intro other two token doneOther sameKey
    obtain ⟨fenced, ended, rfl, rfl⟩ := done_grantResult attends doneOther
    apply most other fenced ended
    rw [← (grantResult_done attends ended).2, sameKey, key]

/-- The order of the tokens at one call. -/
def orderedAt (w : GrantWorld) (stage : GrantStage) : Bool :=
  match stage.pending with
  | none => true
  | some (key, later) => (w.recorded key).all (· < later)

/-- The order is checked turn by turn at the calls there are. -/
theorem grantsInOrder_of_ordered {desk : LeaseDesk} {requests : List GrantRequest}
    {schedule : List (Nat × Nat)}
    (ordered : ∀ turns ≤ schedule.length, ∀ index < requests.length,
      orderedAt (grantRun desk requests (schedule.take turns))
        (grantStages desk requests (schedule.take turns) index) = true) :
    GrantsInOrder desk requests schedule := by
  intro turns index key later waits earlier recorded
  rw [List.take_eq_take_min] at waits recorded
  by_cases inside : index < requests.length
  · have here := ordered (min turns schedule.length) (Nat.min_le_right _ _) index inside
    rw [orderedAt, waits] at here
    simpa [recorded] using here
  · have silent : (grantPool desk requests).transcript grantMachine
        (schedule.take (min turns schedule.length)) index = [] := by
      apply Pool.transcript_absent
      simpa [grantPool] using inside
    rw [grantStages, silent] at waits
    cases waits

def deviceRequest (workloadId : String) : GrantRequest where
  workloadId := workloadId
  principalId := "runtime"
  resources := {}
  nodeId := "node-1"
  deviceId := "cpu-0"
  renewable := true

def deviceRequests : List GrantRequest := [deviceRequest "w-1", deviceRequest "w-2"]

/-- Turns of the two calls at one time. -/
def turnsOf (indices : List Nat) : List (Nat × Nat) := indices.map fun index => (index, 0)

/-- The second call comes between the insertion of the first and its draw. -/
def between : List (Nat × Nat) := turnsOf [0, 0, 1, 1, 0, 0, 0, 1, 1, 1]

/-- The first call draws, and the second draws and records before the first does. -/
def overtaking : List (Nat × Nat) := turnsOf [0, 0, 0, 1, 1, 1, 1, 1, 0, 0]

def freshDesk : LeaseDesk := .after 60000000 sampleUuids 0 []

/-- The lease of a request on the fresh desk. -/
def freshLease (workloadId leaseId : String) : ResourceLease :=
  freshDesk.manager.granted 0 leaseId workloadId "runtime" {} "node-1" "cpu-0" true

theorem grants_forward_between :
    (grantRun freshDesk deviceRequests between).recorded "node-1:cpu-0" = some 2 ∧
    ForwardOnly freshDesk deviceRequests between := by
  refine ⟨by decide +kernel, grants_forward 60000000 sampleUuids 0 [] deviceRequests between ?_⟩
  apply grantsInOrder_of_ordered
  decide +kernel

/-- The recorded token goes back from the second to the first, and then the holder of
the first is authorized and the holder of the second is not. -/
theorem grants_overtaken :
    (grantRun freshDesk deviceRequests (overtaking.take 8)).recorded "node-1:cpu-0" = some 2 ∧
    (grantRun freshDesk deviceRequests overtaking).recorded "node-1:cpu-0" = some 1 ∧
    (∃ one two, grantResult freshDesk deviceRequests overtaking 0 = some (.ok one) ∧
      grantResult freshDesk deviceRequests overtaking 1 = some (.ok two) ∧
      one.resourceKey = two.resourceKey ∧
      tokenValue one.fencingToken < tokenValue two.fencingToken ∧
      (grantRun freshDesk deviceRequests overtaking).manager.authorize 1 one.lease.leaseId
        one.fencingToken = true ∧
      (grantRun freshDesk deviceRequests overtaking).manager.authorize 1 two.lease.leaseId
        two.fencingToken = false) ∧
    ¬ ForwardOnly freshDesk deviceRequests overtaking := by
  have before : (grantRun freshDesk deviceRequests (overtaking.take 8)).recorded
      "node-1:cpu-0" = some 2 := by decide +kernel
  have after : (grantRun freshDesk deviceRequests overtaking).recorded
      "node-1:cpu-0" = some 1 := by decide +kernel
  refine ⟨before, after, ?_, ?_⟩
  · refine ⟨⟨freshLease "w-1" "a", "lease-:1", "node-1:cpu-0"⟩,
      ⟨freshLease "w-2" "aa", "lease-:2", "node-1:cpu-0"⟩, ?_⟩
    decide +kernel
  · intro forward
    obtain ⟨value, recorded, least⟩ := forward.grows 8 10 (by decide) "node-1:cpu-0" 2 before
    have all : overtaking.take 10 = overtaking := rfl
    rw [all, after] at recorded
    cases recorded
    exact absurd least (by decide)

end NousKernel
