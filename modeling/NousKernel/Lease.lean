import Mathlib.Data.List.AList
import NousKernel.Admission
import NousKernel.RuntimeApi

/-!
Fencing tokens (`nous-state/src/fencing.rs`) and the lease manager
(`nous-resource/src/lease.rs`). The clock and the fresh lease id are arguments.
Each operation runs under the manager's locks and is one step here.
-/

set_option autoImplicit false

namespace NousKernel

/-- Decimal digits as `u64::from_str` reads them, most significant first. -/
def parseDigits : Nat → List Char → Option Nat
  | acc, [] => some acc
  | acc, c :: rest =>
      if isAsciiDigit c then
        let value := acc * 10 + (c.toNat - '0'.toNat)
        if value ≤ u64Max then parseDigits value rest else none
      else none

/-- `u64::from_str`: an optional '+', then at least one digit, no overflow. -/
def parseU64 (text : List Char) : Option Nat :=
  match text with
  | [] => none
  | '+' :: [] => none
  | '+' :: rest => parseDigits 0 rest
  | digits => parseDigits 0 digits

structure FencingToken where
  value : UInt64
  nodeId : String
  deriving DecidableEq

namespace FencingToken

/-- `fetch_add(1) + 1`, wrapping at 2^64. -/
def next (fencing : FencingToken) : String × FencingToken :=
  (fencing.nodeId ++ ":" ++ toString (fencing.value + 1).toNat,
    { fencing with value := fencing.value + 1 })

def parse (token : String) : Option (List Char × Nat) :=
  match splitOnce [':'] token.toList with
  | none => none
  | some (nodeId, value) => (parseU64 value).map fun v => (nodeId, v)

def isTokenValid (currentToken providedToken : String) : Bool :=
  match parse currentToken, parse providedToken with
  | some (curNode, curVal), some (provNode, provVal) => curNode == provNode && provVal == curVal
  | _, _ => false

end FencingToken

structure ResourceLease where
  leaseId : String
  workloadId : String
  principalId : String
  reserved : ResourceVector
  nodeId : String
  deviceId : String
  grantedAt : Int
  expiresAt : Int
  generation : Nat
  renewable : Bool
  deriving DecidableEq, Repr

def ResourceLease.isValid (lease : ResourceLease) (now : Int) : Bool := now < lease.expiresAt

structure FencedLease where
  lease : ResourceLease
  fencingToken : String
  resourceKey : String
  deriving DecidableEq, Repr

structure LeaseManager where
  leases : AList (fun _ : String => ResourceLease)
  leaseTokens : AList (fun _ : String => String)
  resourceTokens : AList (fun _ : String => String)
  fencing : FencingToken
  defaultDuration : Int

namespace LeaseManager

/-- `LeaseManager::new(seconds)`, with the uuid drawn for its fencing node id. -/
def new (defaultDurationSecs : Int) (uuid : String) : LeaseManager where
  leases := ∅
  leaseTokens := ∅
  resourceTokens := ∅
  fencing := { value := 0, nodeId := "lease-" ++ uuid }
  defaultDuration := defaultDurationSecs * 1000000

def newWithDuration (defaultDuration : Int) (uuid : String) : LeaseManager :=
  { new 0 uuid with defaultDuration := defaultDuration }

def resourceKey (nodeId deviceId : String) : String := nodeId ++ ":" ++ deviceId

def holdsValid (manager : LeaseManager) (workloadId : String) (now : Int) : Bool :=
  manager.leases.entries.any fun entry =>
    entry.2.workloadId == workloadId && entry.2.isValid now

def grantFenced (manager : LeaseManager) (now : Int) (leaseId workloadId principalId : String)
    (resources : ResourceVector) (nodeId deviceId : String) (renewable : Bool) :
    Except NousError FencedLease × LeaseManager :=
  if manager.holdsValid workloadId now then
    (.error ⟨.alreadyExists, "Workload '" ++ workloadId ++ "' already has an active lease"⟩,
      manager)
  else
    let lease : ResourceLease :=
      { leaseId, workloadId, principalId, reserved := resources, nodeId, deviceId
        grantedAt := now, expiresAt := now + manager.defaultDuration
        generation := 1, renewable }
    let key := resourceKey nodeId deviceId
    let token := manager.fencing.next.1
    (.ok ⟨lease, token, key⟩,
      { manager with
        leases := manager.leases.insert leaseId lease
        leaseTokens := manager.leaseTokens.insert leaseId token
        resourceTokens := manager.resourceTokens.insert key token
        fencing := manager.fencing.next.2 })

/-- The lease a renewal stores. The generation is a `u64`, and a release build wraps
it. -/
def renewed (manager : LeaseManager) (now : Int) (lease : ResourceLease) : ResourceLease :=
  { lease with
    expiresAt := now + manager.defaultDuration
    generation := (lease.generation + 1) % 2 ^ 64 }

def renew (manager : LeaseManager) (now : Int) (leaseId : String) (expectedGeneration : Nat) :
    Except NousError ResourceLease × LeaseManager :=
  match manager.leases.lookup leaseId with
  | none => (.error ⟨.notFound, "Lease not found: " ++ leaseId⟩, manager)
  | some lease =>
      if lease.generation ≠ expectedGeneration then
        (.error ⟨.leaseConflict, "Lease generation conflict: expected " ++
          toString expectedGeneration ++ ", current " ++ toString lease.generation⟩, manager)
      else if lease.isValid now = false then
        (.error ⟨.leaseExpired, "Cannot renew expired lease"⟩, manager)
      else if lease.renewable = false then
        (.error ⟨.failedPrecondition, "Lease is not renewable"⟩, manager)
      else (.ok (manager.renewed now lease),
        { manager with leases := manager.leases.insert leaseId (manager.renewed now lease) })

def release (manager : LeaseManager) (leaseId : String) : Except NousError Unit × LeaseManager :=
  if leaseId ∈ manager.leases then
    (.ok (), { manager with
      leases := manager.leases.erase leaseId
      leaseTokens := manager.leaseTokens.erase leaseId })
  else (.error ⟨.notFound, "Lease not found: " ++ leaseId⟩, manager)

def revoke (manager : LeaseManager) (leaseId : String) : Except NousError Unit × LeaseManager :=
  manager.release leaseId

/-- `HashMap::retain`. -/
def retain {β : Type} (keep : String → β → Bool) (table : AList (fun _ : String => β)) :
    AList (fun _ : String => β) where
  entries := table.entries.filter fun entry => keep entry.1 entry.2
  nodupKeys := table.nodupKeys.sublist List.filter_sublist

/-- The entries of the lease table that `retain` drops. -/
def stale (manager : LeaseManager) (now : Int) : List (Sigma fun _ : String => ResourceLease) :=
  manager.leases.entries.filter fun entry => !entry.2.isValid now

/-- The workloads whose leases have expired, in the order of the table. -/
def tryExpireStale (manager : LeaseManager) (now : Int) : List String × LeaseManager :=
  ((manager.stale now).map (·.2.workloadId),
    { manager with
      leases := retain (fun _ lease => lease.isValid now) manager.leases
      leaseTokens := ((manager.stale now).map (·.1)).foldl (fun tokens leaseId =>
        tokens.erase leaseId) manager.leaseTokens })

def authorize (manager : LeaseManager) (now : Int) (leaseId providedToken : String) : Bool :=
  match manager.leases.lookup leaseId with
  | none => false
  | some lease =>
      lease.isValid now &&
        match manager.leaseTokens.lookup leaseId with
        | none => false
        | some assigned =>
            match manager.resourceTokens.lookup (resourceKey lease.nodeId lease.deviceId) with
            | none => false
            | some current =>
                assigned == providedToken && FencingToken.isTokenValid current providedToken

end LeaseManager

/-! ### A granted token is valid for itself -/

theorem isAsciiDigit_of_isDigit {c : Char} (digit : c.isDigit = true) : isAsciiDigit c = true := by
  simp only [Char.isDigit, Bool.and_eq_true, decide_eq_true_eq] at digit
  simp only [isAsciiDigit, Bool.and_eq_true, decide_eq_true_eq]
  exact digit

/-- The digits of a number that fits are read back. -/
theorem parseDigits_eq {digits : List Char} (acc : Nat)
    (decimal : ∀ c ∈ digits, c.isDigit = true)
    (bound : Nat.ofDigitChars 10 digits acc ≤ u64Max) :
    parseDigits acc digits = some (Nat.ofDigitChars 10 digits acc) := by
  induction digits generalizing acc with
  | nil => simp [parseDigits]
  | cons c rest ih =>
      rw [Nat.ofDigitChars_cons] at bound ⊢
      have first : isAsciiDigit c = true := isAsciiDigit_of_isDigit (decimal c (.head _))
      have below : 10 * acc + (c.toNat - '0'.toNat) ≤ u64Max := by
        rw [Nat.ofDigitChars_eq_ofDigitChars_zero] at bound
        have positive : 1 ≤ 10 ^ rest.length := Nat.one_le_pow _ _ (by decide)
        calc 10 * acc + (c.toNat - '0'.toNat)
            ≤ 10 ^ rest.length * (10 * acc + (c.toNat - '0'.toNat)) :=
              Nat.le_mul_of_pos_left _ positive
          _ ≤ u64Max := le_trans (Nat.le_add_right _ _) bound
      simp only [parseDigits, first, if_true, Nat.mul_comm acc 10, below]
      exact ih _ (fun c member => decimal c (.tail _ member)) bound

theorem toList_toString (value : Nat) : (toString value).toList = Nat.toDigits 10 value := by
  simp

theorem isDigit_toString (value : Nat) : ∀ c ∈ (toString value).toList, c.isDigit = true := by
  rw [toList_toString]
  exact fun c member => Nat.isDigit_of_mem_toDigits (by decide) (by decide) member

theorem parseU64_toString {value : Nat} (bound : value ≤ u64Max) :
    parseU64 (toString value).toList = some value := by
  have decimal := isDigit_toString value
  rw [toList_toString] at decimal ⊢
  have parsed := parseDigits_eq 0 decimal (by rwa [Nat.ofDigitChars_ten_toDigits])
  rw [Nat.ofDigitChars_ten_toDigits] at parsed
  cases text : Nat.toDigits 10 value with
  | nil => exact absurd text Nat.toDigits_ne_nil
  | cons c rest =>
      rw [text] at parsed decimal
      have digit := decimal c (.head _)
      unfold parseU64
      split
      · rename_i empty
        cases empty
      · rename_i plus
        cases plus
        exact absurd digit (by decide)
      · rename_i plus
        cases plus
        exact absurd digit (by decide)
      · exact parsed

theorem splitOnce_colon {front : List Char} (free : ':' ∉ front) (back : List Char) :
    splitOnce [':'] (front ++ ':' :: back) = some (front, back) := by
  induction front with
  | nil => simp [splitOnce]
  | cons c rest ih =>
      have other : ':' ≠ c := fun same => free (same ▸ .head _)
      have absent : ¬ [':'] <+: c :: (rest ++ ':' :: back) := by
        simp [List.cons_prefix_cons, other]
      rw [List.cons_append, splitOnce, if_neg absent, ih fun member => free (.tail _ member)]
      rfl

/-- A token reads back as its node and its value. -/
theorem FencingToken.parse_token {nodeId : String} (free : ':' ∉ nodeId.toList) {value : Nat}
    (bound : value ≤ u64Max) :
    FencingToken.parse (nodeId ++ ":" ++ toString value) = some (nodeId.toList, value) := by
  have text : (nodeId ++ ":" ++ toString value).toList =
      nodeId.toList ++ ':' :: (toString value).toList := by
    simp
  rw [FencingToken.parse, text, splitOnce_colon free]
  simp only [parseU64_toString bound, Option.map_some]

theorem FencingToken.next_bound (fencing : FencingToken) :
    (fencing.value + 1).toNat ≤ u64Max := by
  have below := (fencing.value + 1).toNat_lt
  unfold u64Max
  omega

theorem FencingToken.parse_next_free {fencing : FencingToken}
    (free : ':' ∉ fencing.nodeId.toList) : FencingToken.parse fencing.next.1 =
      some (fencing.nodeId.toList, (fencing.value + 1).toNat) :=
  FencingToken.parse_token free fencing.next_bound

theorem FencingToken.next_valid {fencing : FencingToken} (free : ':' ∉ fencing.nodeId.toList) :
    FencingToken.isTokenValid fencing.next.1 fencing.next.1 = true := by
  have parsed := FencingToken.parse_next_free free
  simp [FencingToken.isTokenValid, parsed]

namespace LeaseManager

/-- The lease a grant makes. -/
def granted (manager : LeaseManager) (now : Int) (leaseId workloadId principalId : String)
    (resources : ResourceVector) (nodeId deviceId : String) (renewable : Bool) : ResourceLease :=
  { leaseId, workloadId, principalId, reserved := resources, nodeId, deviceId
    grantedAt := now, expiresAt := now + manager.defaultDuration
    generation := 1, renewable }

variable {manager : LeaseManager} {now : Int} {leaseId workloadId principalId : String}
  {resources : ResourceVector} {nodeId deviceId : String} {renewable : Bool}

theorem grantFenced_leases (vacant : manager.holdsValid workloadId now = false) :
    (manager.grantFenced now leaseId workloadId principalId resources nodeId deviceId
      renewable).2.leases = manager.leases.insert leaseId
        (manager.granted now leaseId workloadId principalId resources nodeId deviceId
          renewable) := by
  simp [grantFenced, vacant, granted]

theorem release_present (present : leaseId ∈ manager.leases) :
    manager.release leaseId = (.ok (), { manager with
      leases := manager.leases.erase leaseId
      leaseTokens := manager.leaseTokens.erase leaseId }) :=
  if_pos present

theorem release_absent (absent : leaseId ∉ manager.leases) :
    manager.release leaseId = (.error ⟨.notFound, "Lease not found: " ++ leaseId⟩, manager) :=
  if_neg absent

/-- The check right after a grant fails only when the lease has expired. -/
theorem authorize_granted (free : ':' ∉ manager.fencing.nodeId.toList)
    (vacant : manager.holdsValid workloadId now = false) (later : Int) :
    (manager.grantFenced now leaseId workloadId principalId resources nodeId deviceId
      renewable).2.authorize later leaseId manager.fencing.next.1 =
        decide (later < now + manager.defaultDuration) := by
  simp [grantFenced, vacant, authorize, ResourceLease.isValid, FencingToken.next_valid free]

end LeaseManager

end NousKernel
