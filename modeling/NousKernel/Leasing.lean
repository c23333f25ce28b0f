import NousKernel.Stepwise
import NousKernel.World

/-!
Histories of one lease manager (`nous-resource/src/lease.rs`). Calls follow one
another, and the clock moves on between them. The three tables agree with one
another and with the grants so far as long as the 64-bit counters do not wrap.
-/

set_option autoImplicit false

namespace NousKernel

/-! ### Calls -/

inductive LeaseRequest where
  | grantFenced (workloadId principalId : String) (resources : ResourceVector)
      (nodeId deviceId : String) (renewable : Bool)
  | renew (leaseId : String) (expectedGeneration : Nat)
  | release (leaseId : String)
  | revoke (leaseId : String)
  | tryExpireStale

/-- A call, and how far the clock has moved since the one before. -/
structure LeaseCall where
  elapsed : Nat
  request : LeaseRequest

inductive LeaseReply where
  | granted (fenced : FencedLease)
  | renewed (lease : ResourceLease)
  | released
  | expired (workloadIds : List String)

/-- A manager with its clock, the source of lease ids, and the grants so far in
their order. -/
structure LeaseDesk where
  manager : LeaseManager
  clock : Int
  uuids : UuidSource
  drawn : Nat
  granted : List FencedLease

namespace LeaseDesk

def start (duration : Int) (uuids : UuidSource) (clock : Int) : LeaseDesk where
  manager := .newWithDuration duration (uuids.nowV7 0)
  clock := clock
  uuids := uuids
  drawn := 1
  granted := []

/-- The answer to a request at a time, and the manager after it. -/
def answer (desk : LeaseDesk) (now : Int) :
    LeaseRequest → Except NousError LeaseReply × LeaseManager
  | .grantFenced workloadId principalId resources nodeId deviceId renewable =>
      let result := desk.manager.grantFenced now (desk.uuids.nowV7 desk.drawn) workloadId
        principalId resources nodeId deviceId renewable
      (result.1.map .granted, result.2)
  | .renew leaseId expectedGeneration =>
      let result := desk.manager.renew now leaseId expectedGeneration
      (result.1.map .renewed, result.2)
  | .release leaseId =>
      let result := desk.manager.release leaseId
      (result.1.map fun _ => .released, result.2)
  | .revoke leaseId =>
      let result := desk.manager.revoke leaseId
      (result.1.map fun _ => .released, result.2)
  | .tryExpireStale =>
      let result := desk.manager.tryExpireStale now
      (.ok (.expired result.1), result.2)

def reply (desk : LeaseDesk) (call : LeaseCall) : Except NousError LeaseReply :=
  (desk.answer (desk.clock + call.elapsed) call.request).1

/-- The grants after an answer. -/
def noted (granted : List FencedLease) : Except NousError LeaseReply → List FencedLease
  | .ok (.granted fenced) => granted ++ [fenced]
  | _ => granted

def serve (desk : LeaseDesk) (call : LeaseCall) : LeaseDesk :=
  { desk with
    manager := (desk.answer (desk.clock + call.elapsed) call.request).2
    clock := desk.clock + call.elapsed
    drawn := desk.drawn + 1
    granted := noted desk.granted (desk.reply call) }

end LeaseDesk

/-! ### Tables -/

namespace LeaseManager

theorem lookup_retain {β : Type} (keep : String → β → Bool) (table : AList (fun _ : String => β))
    (key : String) :
    (retain keep table).lookup key = (table.lookup key).filter (keep key) := by
  apply Option.ext
  intro value
  rw [← Option.mem_def, AList.mem_lookup_iff, Option.filter_eq_some_iff, ← Option.mem_def,
    AList.mem_lookup_iff]
  exact List.mem_filter

theorem lookup_foldl_erase {β : Type} (keys : List String) (table : AList (fun _ : String => β))
    (key : String) :
    (keys.foldl (fun table erased => table.erase erased) table).lookup key =
      if key ∈ keys then none else table.lookup key := by
  induction keys generalizing table with
  | nil => simp
  | cons first rest ih =>
      rw [List.foldl_cons, ih]
      by_cases same : key = first
      · subst same
        simp
      · simp [same, AList.lookup_erase_ne same]

variable {manager : LeaseManager} {now : Int}

theorem mem_stale_ids {leaseId : String} :
    leaseId ∈ (manager.stale now).map (·.1) ↔
      ∃ lease, manager.leases.lookup leaseId = some lease ∧ lease.isValid now = false := by
  simp only [stale, List.mem_map, List.mem_filter, Bool.not_eq_true']
  constructor
  · rintro ⟨⟨other, lease⟩, ⟨member, expired⟩, rfl⟩
    exact ⟨lease, AList.mem_lookup_iff.mpr member, expired⟩
  · rintro ⟨lease, found, expired⟩
    exact ⟨⟨leaseId, lease⟩, ⟨AList.mem_lookup_iff.mp found, expired⟩, rfl⟩

theorem lookup_tryExpireStale (leaseId : String) :
    (manager.tryExpireStale now).2.leases.lookup leaseId =
      (manager.leases.lookup leaseId).filter (·.isValid now) :=
  lookup_retain _ _ _

theorem tokens_tryExpireStale (leaseId : String) :
    (manager.tryExpireStale now).2.leaseTokens.lookup leaseId =
      if leaseId ∈ (manager.stale now).map (·.1) then none
      else manager.leaseTokens.lookup leaseId :=
  lookup_foldl_erase _ _ _

/-- A renewal is refused, or finds a valid lease at the expected generation and
stores it with a new expiry and the next generation. -/
theorem renew_cases (manager : LeaseManager) (now : Int) (leaseId : String)
    (expectedGeneration : Nat) :
    (∃ error, manager.renew now leaseId expectedGeneration = (.error error, manager)) ∨
    ∃ lease, manager.leases.lookup leaseId = some lease ∧ lease.isValid now = true ∧
      manager.renew now leaseId expectedGeneration =
        (.ok (manager.renewed now lease),
          { manager with
            leases := manager.leases.insert leaseId (manager.renewed now lease) }) := by
  unfold renew
  split
  · exact .inl ⟨_, rfl⟩
  · rename_i lease found
    split
    · exact .inl ⟨_, rfl⟩
    · split
      · exact .inl ⟨_, rfl⟩
      · rename_i valid
        split
        · exact .inl ⟨_, rfl⟩
        · exact .inr ⟨lease, found, by simpa using valid, rfl⟩

/-- The lease, token and resource key that a grant returns. -/
def fencedGrant (manager : LeaseManager) (now : Int) (leaseId workloadId principalId : String)
    (resources : ResourceVector) (nodeId deviceId : String) (renewable : Bool) : FencedLease where
  lease := manager.granted now leaseId workloadId principalId resources nodeId deviceId renewable
  fencingToken := manager.fencing.next.1
  resourceKey := resourceKey nodeId deviceId

/-- The tables after a grant. -/
def book (manager : LeaseManager) (fenced : FencedLease) : LeaseManager :=
  { manager with
    leases := manager.leases.insert fenced.lease.leaseId fenced.lease
    leaseTokens := manager.leaseTokens.insert fenced.lease.leaseId fenced.fencingToken
    resourceTokens := manager.resourceTokens.insert fenced.resourceKey fenced.fencingToken
    fencing := manager.fencing.next.2 }

theorem grantFenced_vacant (leaseId principalId : String) {workloadId : String}
    (resources : ResourceVector) (nodeId deviceId : String) (renewable : Bool)
    (vacant : manager.holdsValid workloadId now = false) :
    manager.grantFenced now leaseId workloadId principalId resources nodeId deviceId renewable =
      (.ok (manager.fencedGrant now leaseId workloadId principalId resources nodeId deviceId
          renewable),
        manager.book (manager.fencedGrant now leaseId workloadId principalId resources nodeId
          deviceId renewable)) := by
  simp [grantFenced, vacant, fencedGrant, book, granted]

theorem grantFenced_cases (manager : LeaseManager) (now : Int)
    (leaseId workloadId principalId : String) (resources : ResourceVector)
    (nodeId deviceId : String) (renewable : Bool) :
    (∃ error, manager.grantFenced now leaseId workloadId principalId resources nodeId deviceId
      renewable = (.error error, manager)) ∨
    (manager.holdsValid workloadId now = false ∧
      manager.grantFenced now leaseId workloadId principalId resources nodeId deviceId renewable =
        (.ok (manager.fencedGrant now leaseId workloadId principalId resources nodeId deviceId
            renewable),
          manager.book (manager.fencedGrant now leaseId workloadId principalId resources nodeId
            deviceId renewable))) := by
  cases held : manager.holdsValid workloadId now with
  | true =>
      left
      simp [grantFenced, held]
  | false => exact .inr ⟨rfl, grantFenced_vacant leaseId principalId resources nodeId deviceId
      renewable held⟩

theorem release_cases (manager : LeaseManager) (leaseId : String) :
    (∃ error, manager.release leaseId = (.error error, manager)) ∨
    manager.release leaseId = (.ok (), { manager with
      leases := manager.leases.erase leaseId
      leaseTokens := manager.leaseTokens.erase leaseId }) := by
  by_cases present : leaseId ∈ manager.leases
  · exact .inr (release_present present)
  · exact .inl ⟨_, release_absent present⟩

end LeaseManager

/-! ### The invariant -/

namespace LeaseDesk

open LeaseManager (resourceKey)

/-- The text of the token with a value. -/
def tokenOf (desk : LeaseDesk) (value : Nat) : String :=
  desk.manager.fencing.nodeId ++ ":" ++ toString value

/-- A lease of the table is the one that was granted under its id, but for its
expiry and generation. -/
def Stems (lease : ResourceLease) (fenced : FencedLease) : Prop :=
  lease.workloadId = fenced.lease.workloadId ∧ lease.nodeId = fenced.lease.nodeId ∧
    lease.deviceId = fenced.lease.deviceId

structure Kept (desk : LeaseDesk) : Prop where
  nodeId : ':' ∉ desk.manager.fencing.nodeId.toList
  counted : desk.manager.fencing.value.toNat = desk.granted.length
  numbered : ∀ index fenced, desk.granted[index]? = some fenced →
    fenced.fencingToken = desk.tokenOf (index + 1)
  keyed : ∀ fenced ∈ desk.granted,
    fenced.resourceKey = resourceKey fenced.lease.nodeId fenced.lease.deviceId
  recorded : ∀ key token, desk.manager.resourceTokens.lookup key = some token →
    ∃ before fenced after, desk.granted = before ++ fenced :: after ∧
      fenced.resourceKey = key ∧ fenced.fencingToken = token ∧
      ∀ later ∈ after, later.resourceKey ≠ key
  entry : ∀ leaseId lease, desk.manager.leases.lookup leaseId = some lease →
    ∃ fenced ∈ desk.granted, fenced.lease.leaseId = leaseId ∧ Stems lease fenced ∧
      desk.manager.leaseTokens.lookup leaseId = some fenced.fencingToken
  tokens : ∀ leaseId ∈ desk.manager.leaseTokens, leaseId ∈ desk.manager.leases
  issued : ∀ fenced ∈ desk.granted, ∃ index < desk.drawn,
    desk.uuids.nowV7 index = fenced.lease.leaseId
  single : ∀ first second one two, desk.manager.leases.lookup first = some one →
    desk.manager.leases.lookup second = some two → one.workloadId = two.workloadId →
    desk.clock < one.expiresAt → desk.clock < two.expiresAt → first = second

theorem Kept.start (duration : Int) (uuids : UuidSource) (clock : Int) :
    Kept (start duration uuids clock) where
  nodeId := by
    have hyphenated := uuids.hyphenated 0
    simpa [LeaseDesk.start, LeaseManager.newWithDuration, LeaseManager.new] using hyphenated
  counted := rfl
  numbered _ _ absent := by cases absent
  keyed _ absent := by cases absent
  recorded _ _ absent := by cases absent
  entry _ _ absent := by cases absent
  tokens leaseId member := absurd member (AList.notMem_empty leaseId)
  issued _ absent := by cases absent
  single _ _ _ _ absent := by cases absent

section Steps

variable {desk : LeaseDesk}

/-- Time passes. -/
theorem Kept.wait (kept : desk.Kept) (elapsed : Nat) :
    Kept { desk with clock := desk.clock + elapsed, drawn := desk.drawn + 1 } where
  nodeId := kept.nodeId
  counted := kept.counted
  numbered := kept.numbered
  keyed := kept.keyed
  recorded := kept.recorded
  entry := kept.entry
  tokens := kept.tokens
  issued fenced member := by
    obtain ⟨index, before, same⟩ := kept.issued fenced member
    exact ⟨index, Nat.lt_succ_of_lt before, same⟩
  single first second one two foundOne foundTwo workload validOne validTwo := by
    have earlierOne : desk.clock < one.expiresAt := by
      dsimp only at validOne
      omega
    have earlierTwo : desk.clock < two.expiresAt := by
      dsimp only at validTwo
      omega
    exact kept.single first second one two foundOne foundTwo workload earlierOne earlierTwo

/-- Leases leave the table together with their tokens. -/
theorem Kept.shrink (kept : desk.Kept) {manager : LeaseManager}
    (fencing : manager.fencing = desk.manager.fencing)
    (resources : manager.resourceTokens = desk.manager.resourceTokens)
    (leases : ∀ leaseId lease, manager.leases.lookup leaseId = some lease →
      desk.manager.leases.lookup leaseId = some lease ∧
      manager.leaseTokens.lookup leaseId = desk.manager.leaseTokens.lookup leaseId)
    (tokens : ∀ leaseId ∈ manager.leaseTokens, leaseId ∈ manager.leases) :
    Kept { desk with manager } where
  nodeId := fencing ▸ kept.nodeId
  counted := fencing ▸ kept.counted
  numbered index fenced found := by
    rw [kept.numbered index fenced found, tokenOf, tokenOf, fencing]
  keyed := kept.keyed
  recorded key token found := kept.recorded key token (resources ▸ found)
  entry leaseId lease found := by
    obtain ⟨before, same⟩ := leases leaseId lease found
    obtain ⟨fenced, member, id, stems, token⟩ := kept.entry leaseId lease before
    exact ⟨fenced, member, id, stems, same.trans token⟩
  tokens := tokens
  issued := kept.issued
  single first second one two foundOne foundTwo :=
    kept.single first second one two (leases first one foundOne).1 (leases second two foundTwo).1

theorem Kept.release (kept : desk.Kept) (leaseId : String) :
    Kept { desk with manager := { desk.manager with
      leases := desk.manager.leases.erase leaseId
      leaseTokens := desk.manager.leaseTokens.erase leaseId } } := by
  apply kept.shrink
  · rfl
  · rfl
  · intro other lease found
    have different : other ≠ leaseId := by
      rintro rfl
      rw [AList.lookup_erase] at found
      cases found
    rw [AList.lookup_erase_ne different] at found
    exact ⟨found, AList.lookup_erase_ne different⟩
  · intro other member
    obtain ⟨different, before⟩ := AList.mem_erase.mp member
    exact AList.mem_erase.mpr ⟨different, kept.tokens other before⟩

theorem Kept.expire (kept : desk.Kept) (now : Int) :
    Kept { desk with manager := (desk.manager.tryExpireStale now).2 } := by
  apply kept.shrink
  · rfl
  · rfl
  · intro leaseId lease found
    rw [LeaseManager.lookup_tryExpireStale, Option.filter_eq_some_iff] at found
    refine ⟨found.1, ?_⟩
    rw [LeaseManager.tokens_tryExpireStale, if_neg]
    intro stale
    obtain ⟨other, here, expired⟩ := LeaseManager.mem_stale_ids.mp stale
    rw [found.1, Option.some.injEq] at here
    rw [← here, found.2] at expired
    cases expired
  · intro leaseId member
    have present := AList.lookup_isSome.mpr member
    rw [LeaseManager.tokens_tryExpireStale] at present
    split at present
    · cases present
    · rename_i fresh
      have before := kept.tokens leaseId (AList.lookup_isSome.mp present)
      obtain ⟨lease, found⟩ := Option.isSome_iff_exists.mp (AList.lookup_isSome.mpr before)
      apply AList.lookup_isSome.mp
      rw [LeaseManager.lookup_tryExpireStale, found]
      have valid : lease.isValid now = true := by
        by_contra expired
        rw [Bool.not_eq_true] at expired
        exact fresh (LeaseManager.mem_stale_ids.mpr ⟨lease, found, expired⟩)
      simp [valid]

/-- A valid lease is renewed. Of its workload no other lease is valid. -/
theorem Kept.renew (kept : desk.Kept) {leaseId : String} {lease : ResourceLease}
    (found : desk.manager.leases.lookup leaseId = some lease)
    (valid : lease.isValid desk.clock = true) :
    Kept { desk with manager := { desk.manager with
      leases := desk.manager.leases.insert leaseId
        (desk.manager.renewed desk.clock lease) } } := by
  have lookup : ∀ other, (desk.manager.leases.insert leaseId
      (desk.manager.renewed desk.clock lease)).lookup other = if other = leaseId then
        some (desk.manager.renewed desk.clock lease) else desk.manager.leases.lookup other := by
    intro other
    split
    · rename_i same
      rw [same, AList.lookup_insert]
    · rename_i different
      exact AList.lookup_insert_ne different
  have current : desk.clock < lease.expiresAt := of_decide_eq_true valid
  have alone : ∀ other two, other ≠ leaseId → desk.manager.leases.lookup other = some two →
      two.workloadId = lease.workloadId → ¬ desk.clock < two.expiresAt := by
    intro other two different here workload later
    exact different (kept.single other leaseId two lease here found workload later current)
  refine ⟨kept.nodeId, kept.counted, kept.numbered, kept.keyed, kept.recorded, ?_, ?_,
    kept.issued, ?_⟩
  · intro other two here
    rw [lookup] at here
    split at here
    · rename_i same
      cases here
      obtain ⟨fenced, member, id, stems, token⟩ := kept.entry leaseId lease found
      exact ⟨fenced, member, id.trans same.symm, stems, by rw [same]; exact token⟩
    · exact kept.entry other two here
  · intro other member
    exact (AList.mem_insert _).mpr (.inr (kept.tokens other member))
  · intro first second one two foundOne foundTwo workload validOne validTwo
    rw [lookup] at foundOne foundTwo
    split at foundOne
    · rename_i sameOne
      cases foundOne
      split at foundTwo
      · rename_i sameTwo
        exact sameOne.trans sameTwo.symm
      · rename_i differentTwo
        exact absurd validTwo (alone second two differentTwo foundTwo workload.symm)
    · rename_i differentOne
      split at foundTwo
      · cases foundTwo
        exact absurd validOne (alone first one differentOne foundOne workload)
      · exact kept.single first second one two foundOne foundTwo workload validOne validTwo

/-- A grant, as long as the counter of the tokens has a next value. -/
theorem Kept.grant (kept : desk.Kept) (room : desk.manager.fencing.value.toNat < 2 ^ 64 - 1)
    {fenced : FencedLease}
    (issued : ∃ index < desk.drawn, desk.uuids.nowV7 index = fenced.lease.leaseId)
    (token : fenced.fencingToken = desk.manager.fencing.next.1)
    (key : fenced.resourceKey = resourceKey fenced.lease.nodeId fenced.lease.deviceId)
    (vacant : desk.manager.holdsValid fenced.lease.workloadId desk.clock = false) :
    Kept { desk with
      manager := desk.manager.book fenced
      granted := desk.granted ++ [fenced] } := by
  have next : (desk.manager.fencing.value + 1).toNat = desk.granted.length + 1 := by
    rw [UInt64.toNat_add, kept.counted]
    have := kept.counted
    simp only [UInt64.toNat_one]
    omega
  have value : fenced.fencingToken = desk.tokenOf (desk.granted.length + 1) := by
    rw [token, tokenOf, ← next]
    rfl
  refine ⟨kept.nodeId, ?_, ?_, ?_, ?_, ?_, ?_, ?_, ?_⟩
  · rw [List.length_append]
    exact next
  · intro index other found
    by_cases last : index = desk.granted.length
    · rw [last, List.getElem?_concat_length, Option.some.injEq] at found
      rw [← found, last]
      exact value
    · have inside : index < desk.granted.length := by
        have bound := (List.getElem?_eq_some_iff.mp found).1
        simp only [List.length_append, List.length_singleton] at bound
        omega
      rw [List.getElem?_append_left inside] at found
      exact kept.numbered index other found
  · intro other member
    rcases List.mem_append.mp member with old | new
    · exact kept.keyed other old
    · rw [List.mem_singleton] at new
      rw [new]
      exact key
  · intro otherKey otherToken found
    by_cases own : otherKey = fenced.resourceKey
    · subst own
      rw [LeaseManager.book, AList.lookup_insert, Option.some.injEq] at found
      refine ⟨desk.granted, fenced, [], rfl, rfl, found, ?_⟩
      intro later absent
      cases absent
    · rw [LeaseManager.book, AList.lookup_insert_ne own] at found
      obtain ⟨before, other, after, parts, sameKey, sameToken, none⟩ :=
        kept.recorded otherKey otherToken found
      refine ⟨before, other, after ++ [fenced], ?_, sameKey, sameToken, ?_⟩
      · rw [parts, List.append_assoc]
        rfl
      · intro later member
        rcases List.mem_append.mp member with old | new
        · exact none later old
        · rw [List.mem_singleton] at new
          rw [new]
          exact fun same => own same.symm
  · intro other lease found
    by_cases own : other = fenced.lease.leaseId
    · subst own
      rw [LeaseManager.book, AList.lookup_insert, Option.some.injEq] at found
      refine ⟨fenced, List.mem_append_right _ (List.mem_singleton_self _), rfl, ?_,
        AList.lookup_insert _⟩
      rw [← found]
      exact ⟨rfl, rfl, rfl⟩
    · rw [LeaseManager.book, AList.lookup_insert_ne own] at found
      obtain ⟨before, member, id, stems, stored⟩ := kept.entry other lease found
      exact ⟨before, List.mem_append_left _ member, id, stems,
        (AList.lookup_insert_ne own).trans stored⟩
  · intro other member
    rcases (AList.mem_insert _).mp member with rfl | old
    · exact (AList.mem_insert _).mpr (.inl rfl)
    · exact (AList.mem_insert _).mpr (.inr (kept.tokens other old))
  · intro other member
    rcases List.mem_append.mp member with old | new
    · exact kept.issued other old
    · rw [List.mem_singleton] at new
      rw [new]
      exact issued
  · intro first second one two foundOne foundTwo workload validOne validTwo
    have others : ∀ other lease, desk.manager.leases.lookup other = some lease →
        lease.workloadId = fenced.lease.workloadId → ¬ desk.clock < lease.expiresAt := by
      intro other lease found mine
      have invalid := List.any_eq_false.mp vacant ⟨other, lease⟩ (AList.mem_lookup_iff.mp found)
      simpa [mine, ResourceLease.isValid] using invalid
    rw [LeaseManager.book] at foundOne foundTwo
    by_cases ownOne : first = fenced.lease.leaseId
    · by_cases ownTwo : second = fenced.lease.leaseId
      · exact ownOne.trans ownTwo.symm
      · rw [ownOne, AList.lookup_insert, Option.some.injEq] at foundOne
        rw [AList.lookup_insert_ne ownTwo] at foundTwo
        rw [← foundOne] at workload
        exact absurd validTwo (others second two foundTwo workload.symm)
    · rw [AList.lookup_insert_ne ownOne] at foundOne
      by_cases ownTwo : second = fenced.lease.leaseId
      · rw [ownTwo, AList.lookup_insert, Option.some.injEq] at foundTwo
        rw [← foundTwo] at workload
        exact absurd validOne (others first one foundOne workload)
      · rw [AList.lookup_insert_ne ownTwo] at foundTwo
        exact kept.single first second one two foundOne foundTwo workload validOne validTwo

/-- The counters have a next value: that of the tokens at a grant, that of the lease
at a renewal. -/
def Room (desk : LeaseDesk) (call : LeaseCall) : Prop :=
  match call.request with
  | .grantFenced _ _ _ _ _ _ => desk.manager.fencing.value.toNat < 2 ^ 64 - 1
  | .renew leaseId _ => ∀ lease, desk.manager.leases.lookup leaseId = some lease →
      lease.generation < 2 ^ 64 - 1
  | _ => True

/-- The desk when the clock has moved on to the call. -/
def waited (desk : LeaseDesk) (call : LeaseCall) : LeaseDesk :=
  { desk with clock := desk.clock + call.elapsed, drawn := desk.drawn + 1 }

/-- What a call does. -/
inductive Served (desk : LeaseDesk) (call : LeaseCall) : LeaseDesk → Prop
  | refused (error : NousError) (answered : desk.reply call = .error error) :
      Served desk call (desk.waited call)
  | granted (workloadId principalId : String) (resources : ResourceVector)
      (nodeId deviceId : String) (renewable : Bool) (fenced : FencedLease)
      (asked : call.request =
        .grantFenced workloadId principalId resources nodeId deviceId renewable)
      (made : fenced = desk.manager.fencedGrant (desk.waited call).clock
        (desk.uuids.nowV7 desk.drawn) workloadId principalId resources nodeId deviceId renewable)
      (vacant : desk.manager.holdsValid workloadId (desk.waited call).clock = false)
      (answered : desk.reply call = .ok (.granted fenced)) :
      Served desk call { desk.waited call with
        manager := desk.manager.book fenced
        granted := desk.granted ++ [fenced] }
  | renewed (leaseId : String) (expectedGeneration : Nat) (lease : ResourceLease)
      (asked : call.request = .renew leaseId expectedGeneration)
      (found : desk.manager.leases.lookup leaseId = some lease)
      (valid : lease.isValid (desk.waited call).clock = true)
      (answered : desk.reply call =
        .ok (.renewed (desk.manager.renewed (desk.waited call).clock lease))) :
      Served desk call { desk.waited call with manager := { desk.manager with
        leases := desk.manager.leases.insert leaseId
          (desk.manager.renewed (desk.waited call).clock lease) } }
  | released (leaseId : String)
      (asked : call.request = .release leaseId ∨ call.request = .revoke leaseId)
      (answered : desk.reply call = .ok .released) :
      Served desk call { desk.waited call with manager := { desk.manager with
        leases := desk.manager.leases.erase leaseId
        leaseTokens := desk.manager.leaseTokens.erase leaseId } }
  | expired (workloadIds : List String) (asked : call.request = .tryExpireStale)
      (answered : desk.reply call = .ok (.expired workloadIds)) :
      Served desk call { desk.waited call with
        manager := (desk.manager.tryExpireStale (desk.waited call).clock).2 }

theorem serve_eq (desk : LeaseDesk) (call : LeaseCall) {answered : Except NousError LeaseReply}
    {manager : LeaseManager}
    (result : desk.answer (desk.clock + call.elapsed) call.request = (answered, manager)) :
    desk.reply call = answered ∧
    desk.serve call = { desk.waited call with
      manager := manager
      granted := noted desk.granted answered } := by
  have replied : desk.reply call = answered := by
    rw [reply, result]
  refine ⟨replied, ?_⟩
  rw [serve, result, replied]
  rfl

theorem served (desk : LeaseDesk) (call : LeaseCall) : Served desk call (desk.serve call) := by
  obtain ⟨elapsed, request⟩ := call
  cases request with
  | grantFenced workloadId principalId resources nodeId deviceId renewable =>
      rcases desk.manager.grantFenced_cases (desk.clock + elapsed) (desk.uuids.nowV7 desk.drawn)
        workloadId principalId resources nodeId deviceId renewable with
        ⟨error, refused⟩ | ⟨vacant, granted⟩
      · obtain ⟨replied, after⟩ := serve_eq desk ⟨elapsed, .grantFenced workloadId principalId
          resources nodeId deviceId renewable⟩ (by rw [answer, refused])
        rw [after]
        exact .refused error replied
      · obtain ⟨replied, after⟩ := serve_eq desk ⟨elapsed, .grantFenced workloadId principalId
          resources nodeId deviceId renewable⟩ (by rw [answer, granted])
        rw [after]
        exact .granted workloadId principalId resources nodeId deviceId renewable _ rfl rfl vacant
          replied
  | renew leaseId expectedGeneration =>
      rcases desk.manager.renew_cases (desk.clock + elapsed) leaseId expectedGeneration with
        ⟨error, refused⟩ | ⟨lease, found, valid, renewed⟩
      · obtain ⟨replied, after⟩ := serve_eq desk ⟨elapsed, .renew leaseId expectedGeneration⟩
          (by rw [answer, refused])
        rw [after]
        exact .refused error replied
      · obtain ⟨replied, after⟩ := serve_eq desk ⟨elapsed, .renew leaseId expectedGeneration⟩
          (by rw [answer, renewed])
        rw [after]
        exact .renewed leaseId expectedGeneration lease rfl found valid replied
  | release leaseId =>
      rcases desk.manager.release_cases leaseId with ⟨error, refused⟩ | released
      · obtain ⟨replied, after⟩ := serve_eq desk ⟨elapsed, .release leaseId⟩
          (by rw [answer, refused])
        rw [after]
        exact .refused error replied
      · obtain ⟨replied, after⟩ := serve_eq desk ⟨elapsed, .release leaseId⟩
          (by rw [answer, released])
        rw [after]
        exact .released leaseId (.inl rfl) replied
  | revoke leaseId =>
      rcases desk.manager.release_cases leaseId with ⟨error, refused⟩ | released
      · obtain ⟨replied, after⟩ := serve_eq desk ⟨elapsed, .revoke leaseId⟩
          (by rw [answer, LeaseManager.revoke, refused])
        rw [after]
        exact .refused error replied
      · obtain ⟨replied, after⟩ := serve_eq desk ⟨elapsed, .revoke leaseId⟩
          (by rw [answer, LeaseManager.revoke, released])
        rw [after]
        exact .released leaseId (.inr rfl) replied
  | tryExpireStale => exact .expired _ rfl rfl

theorem Kept.serve (kept : desk.Kept) {call : LeaseCall} (room : desk.Room call) :
    (desk.serve call).Kept := by
  have waited : (desk.waited call).Kept := kept.wait call.elapsed
  have effect := served desk call
  generalize desk.serve call = later at effect ⊢
  cases effect with
  | refused error answered => exact waited
  | granted workloadId principalId resources nodeId deviceId renewable fenced asked made vacant
      answered =>
      rw [Room, asked] at room
      subst made
      exact waited.grant room ⟨desk.drawn, Nat.lt_succ_self _, rfl⟩ rfl rfl vacant
  | renewed leaseId expectedGeneration lease asked found valid answered =>
      exact waited.renew found valid
  | released leaseId asked answered => exact waited.release leaseId
  | expired workloadIds asked answered => exact waited.expire (desk.waited call).clock

/-! ### Authorization -/

/-- The last grant on a node and a device. -/
def LatestOn (granted : List FencedLease) (nodeId deviceId : String) (own : FencedLease) : Prop :=
  ∃ before after, granted = before ++ own :: after ∧ own.lease.nodeId = nodeId ∧
    own.lease.deviceId = deviceId ∧
    ∀ later ∈ after, ¬ (later.lease.nodeId = nodeId ∧ later.lease.deviceId = deviceId)

theorem LatestOn.unique {granted : List FencedLease} {nodeId deviceId : String}
    {one two : FencedLease} (first : LatestOn granted nodeId deviceId one)
    (second : LatestOn granted nodeId deviceId two) : one = two := by
  obtain ⟨before, after, parts, node, device, none⟩ := first
  obtain ⟨before', after', parts', node', device', none'⟩ := second
  rw [parts] at parts'
  -- One of the two stands first, and the other would come after it.
  rcases List.append_eq_append_iff.mp parts' with ⟨gap, front, back⟩ | ⟨gap, front, back⟩
  · cases gap with
    | nil => exact (List.cons.inj back).1
    | cons head tail =>
        obtain ⟨_, rest⟩ := List.cons.inj back
        exact absurd ⟨node', device'⟩ (none two (rest ▸ List.mem_append_right _ (.head _)))
  · cases gap with
    | nil => exact (List.cons.inj back).1.symm
    | cons head tail =>
        obtain ⟨_, rest⟩ := List.cons.inj back
        exact absurd ⟨node, device⟩ (none' one (rest ▸ List.mem_append_right _ (.head _)))

theorem authorize_true {manager : LeaseManager} {now : Int} {leaseId token : String}
    (authorized : manager.authorize now leaseId token = true) :
    ∃ lease current, manager.leases.lookup leaseId = some lease ∧ lease.isValid now = true ∧
      manager.leaseTokens.lookup leaseId = some token ∧
      manager.resourceTokens.lookup (resourceKey lease.nodeId lease.deviceId) = some current ∧
      FencingToken.isTokenValid current token = true := by
  unfold LeaseManager.authorize at authorized
  split at authorized
  · cases authorized
  · rename_i lease found
    rw [Bool.and_eq_true] at authorized
    obtain ⟨valid, authorized⟩ := authorized
    split at authorized
    · cases authorized
    · rename_i assigned held
      split at authorized
      · cases authorized
      · rename_i current recorded
        rw [Bool.and_eq_true, beq_iff_eq] at authorized
        exact ⟨lease, current, found, valid, authorized.1 ▸ held, recorded, authorized.2⟩

theorem authorize_of {manager : LeaseManager} {now : Int} {leaseId token current : String}
    {lease : ResourceLease} (found : manager.leases.lookup leaseId = some lease)
    (valid : lease.isValid now = true) (held : manager.leaseTokens.lookup leaseId = some token)
    (recorded : manager.resourceTokens.lookup (resourceKey lease.nodeId lease.deviceId) =
      some current) (passes : FencingToken.isTokenValid current token = true) :
    manager.authorize now leaseId token = true := by
  simp [LeaseManager.authorize, found, valid, held, recorded, passes]

/-- Two tokens of the manager that pass for one another have one value. -/
theorem tokenOf_valid (kept : desk.Kept) {first second : Nat} (bound : first ≤ u64Max)
    (bound' : second ≤ u64Max)
    (valid : FencingToken.isTokenValid (desk.tokenOf first) (desk.tokenOf second) = true) :
    first = second := by
  unfold FencingToken.isTokenValid tokenOf at valid
  rw [FencingToken.parse_token kept.nodeId bound, FencingToken.parse_token kept.nodeId bound']
    at valid
  simp only [Bool.and_eq_true, beq_iff_eq] at valid
  exact valid.2.symm

/-- A lease that is authorized was the last to be granted on its device, and the
token is its own. -/
theorem Kept.authorized (kept : desk.Kept) {now : Int} {leaseId token : String}
    (authorized : desk.manager.authorize now leaseId token = true) :
    ∃ lease own, desk.manager.leases.lookup leaseId = some lease ∧ lease.isValid now = true ∧
      own.lease.leaseId = leaseId ∧ own.fencingToken = token ∧
      LatestOn desk.granted lease.nodeId lease.deviceId own := by
  obtain ⟨lease, current, found, valid, held, recorded, passes⟩ := authorize_true authorized
  obtain ⟨own, member, id, ⟨_, node, device⟩, assigned⟩ := kept.entry leaseId lease found
  have mine : own.fencingToken = token := Option.some.inj (assigned.symm.trans held)
  obtain ⟨before, last, after, parts, sameKey, sameToken, none⟩ := kept.recorded _ current recorded
  obtain ⟨index, here⟩ := List.mem_iff_getElem?.mp member
  have there : desk.granted[before.length]? = some last := by
    rw [parts]
    simp
  have small : desk.granted.length ≤ u64Max := by
    rw [← kept.counted]
    have := desk.manager.fencing.value.toNat_lt
    unfold u64Max
    omega
  have inside := (List.getElem?_eq_some_iff.mp here).1
  have inside' := (List.getElem?_eq_some_iff.mp there).1
  rw [← sameToken, ← mine, kept.numbered _ _ there, kept.numbered _ _ here] at passes
  have position := tokenOf_valid kept (by omega) (by omega) passes
  have same : last = own := by
    rw [Nat.add_right_cancel position, here] at there
    exact (Option.some.inj there).symm
  subst same
  refine ⟨lease, last, found, valid, id, mine, before, after, parts, node.symm, device.symm, ?_⟩
  intro later afterwards ⟨sameNode, sameDevice⟩
  apply none later afterwards
  have keyed := kept.keyed later (by rw [parts]; exact List.mem_append_right _ (.tail _ afterwards))
  rw [keyed, sameNode, sameDevice]

/-! ### Leases that are gone -/

/-- The id has been issued, and the table has no lease under it that is still
valid. -/
def Gone (desk : LeaseDesk) (leaseId : String) : Prop :=
  (∃ index < desk.drawn, desk.uuids.nowV7 index = leaseId) ∧
    ∀ lease, desk.manager.leases.lookup leaseId = some lease → lease.isValid desk.clock = false

theorem isValid_later {lease : ResourceLease} {now later : Int} (after : now ≤ later)
    (expired : lease.isValid now = false) : lease.isValid later = false := by
  simp only [ResourceLease.isValid, decide_eq_false_iff_not] at expired ⊢
  omega

theorem Gone.wait {leaseId : String} (gone : desk.Gone leaseId) (call : LeaseCall) :
    (desk.waited call).Gone leaseId := by
  obtain ⟨⟨index, before, same⟩, expired⟩ := gone
  refine ⟨⟨index, Nat.lt_succ_of_lt before, same⟩, fun lease found => ?_⟩
  have later : desk.clock ≤ desk.clock + call.elapsed := by omega
  exact isValid_later later (expired lease found)

/-- What is gone stays gone: its id is not issued again, and it cannot be renewed. -/
theorem Gone.serve {leaseId : String} (gone : desk.Gone leaseId) (call : LeaseCall) :
    (desk.serve call).Gone leaseId := by
  obtain ⟨issued, expired⟩ := gone.wait call
  have effect := served desk call
  generalize desk.serve call = later at effect ⊢
  cases effect with
  | refused error answered => exact ⟨issued, expired⟩
  | granted workloadId principalId resources nodeId deviceId renewable fenced asked made vacant
      answered =>
      refine ⟨issued, fun lease found => expired lease ?_⟩
      have different : leaseId ≠ fenced.lease.leaseId := by
        intro same
        obtain ⟨⟨index, before, drawn⟩, _⟩ := gone
        rw [same, made] at drawn
        exact absurd (desk.uuids.injective drawn) (Nat.ne_of_lt before)
      rw [LeaseManager.book, AList.lookup_insert_ne different] at found
      exact found
  | renewed renewedId expectedGeneration lease asked found valid answered =>
      refine ⟨issued, fun other here => expired other ?_⟩
      have different : leaseId ≠ renewedId := by
        rintro rfl
        rw [expired lease found] at valid
        cases valid
      rw [AList.lookup_insert_ne different] at here
      exact here
  | released releasedId asked answered =>
      refine ⟨issued, fun lease found => expired lease ?_⟩
      by_cases same : leaseId = releasedId
      · subst same
        rw [AList.lookup_erase] at found
        cases found
      · rw [AList.lookup_erase_ne same] at found
        exact found
  | expired workloadIds asked answered =>
      refine ⟨issued, fun lease found => expired lease ?_⟩
      rw [LeaseManager.lookup_tryExpireStale, Option.filter_eq_some_iff] at found
      exact found.1

theorem Gone.unauthorized {leaseId : String} (gone : desk.Gone leaseId) {now : Int}
    (later : desk.clock ≤ now) (token : String) :
    desk.manager.authorize now leaseId token = false := by
  by_contra authorized
  rw [Bool.not_eq_false] at authorized
  obtain ⟨lease, _, found, valid, _⟩ := authorize_true authorized
  rw [isValid_later later (gone.2 lease found)] at valid
  cases valid

/-! ### Whole histories -/

structure Consistent (desk : LeaseDesk) : Prop where
  single : ∀ now, desk.clock ≤ now → ∀ first second one two,
    desk.manager.leases.lookup first = some one → desk.manager.leases.lookup second = some two →
    one.workloadId = two.workloadId → one.isValid now = true → two.isValid now = true →
    first = second
  keyed : ∀ leaseId, leaseId ∈ desk.manager.leaseTokens ↔ leaseId ∈ desk.manager.leases
  fenced : ∀ now leaseId token, desk.manager.authorize now leaseId token = true →
    ∃ lease own, desk.manager.leases.lookup leaseId = some lease ∧ lease.isValid now = true ∧
      own.lease.leaseId = leaseId ∧ own.fencingToken = token ∧
      LatestOn desk.granted lease.nodeId lease.deviceId own
  exclusive : ∀ now first second token token' one two,
    desk.manager.authorize now first token = true →
    desk.manager.authorize now second token' = true →
    desk.manager.leases.lookup first = some one → desk.manager.leases.lookup second = some two →
    one.nodeId = two.nodeId → one.deviceId = two.deviceId → first = second

theorem Kept.consistent (kept : desk.Kept) : desk.Consistent where
  single now later first second one two foundOne foundTwo workload validOne validTwo := by
    have soonOne : now < one.expiresAt := of_decide_eq_true validOne
    have soonTwo : now < two.expiresAt := of_decide_eq_true validTwo
    exact kept.single first second one two foundOne foundTwo workload (by omega) (by omega)
  keyed leaseId := by
    refine ⟨kept.tokens leaseId, fun member => ?_⟩
    obtain ⟨lease, found⟩ := Option.isSome_iff_exists.mp (AList.lookup_isSome.mpr member)
    obtain ⟨fenced, _, _, _, held⟩ := kept.entry leaseId lease found
    exact AList.lookup_isSome.mp (by rw [held]; rfl)
  fenced now leaseId token authorized := kept.authorized authorized
  exclusive now first second token token' one two authorizedOne authorizedTwo foundOne foundTwo
      node device := by
    obtain ⟨lease, own, found, _, id, _, latest⟩ := kept.authorized authorizedOne
    obtain ⟨lease', own', found', _, id', _, latest'⟩ := kept.authorized authorizedTwo
    rw [foundOne, Option.some.injEq] at found
    rw [foundTwo, Option.some.injEq] at found'
    rw [← found] at latest
    rw [← found', ← node, ← device] at latest'
    rw [← id, ← id', latest.unique latest']

/-- A call that fails changes no table, and a renewal changes the expiry and the
generation of its lease and nothing else. -/
structure Orderly (desk : LeaseDesk) (call : LeaseCall) : Prop where
  failed : ∀ error, desk.reply call = .error error → (desk.serve call).manager = desk.manager
  renewed : ∀ leaseId expectedGeneration later,
    call.request = .renew leaseId expectedGeneration → desk.reply call = .ok (.renewed later) →
    ∃ lease, desk.manager.leases.lookup leaseId = some lease ∧
      later = { lease with expiresAt := later.expiresAt, generation := later.generation } ∧
      lease.generation < later.generation ∧
      (desk.serve call).manager =
        { desk.manager with leases := desk.manager.leases.insert leaseId later }

theorem orderly_of_room {call : LeaseCall} (room : desk.Room call) : desk.Orderly call := by
  have effect := served desk call
  constructor
  · intro error failed
    generalize desk.serve call = after at effect ⊢
    cases effect with
    | refused _ answered => rfl
    | granted _ _ _ _ _ _ _ _ _ _ answered | renewed _ _ _ _ _ _ answered
    | released _ _ answered | expired _ _ answered =>
        rw [failed] at answered
        cases answered
  · intro leaseId expectedGeneration later asked succeeded
    generalize desk.serve call = after at effect ⊢
    cases effect with
    | renewed renewedId expected lease asked' found valid answered =>
        rw [asked] at asked'
        cases asked'
        rw [Room, asked] at room
        rw [succeeded] at answered
        cases answered
        refine ⟨lease, found, rfl, ?_, rfl⟩
        have bound := room lease found
        simp only [LeaseManager.renewed]
        omega
    | refused _ answered | granted _ _ _ _ _ _ _ _ _ _ answered
    | released _ _ answered | expired _ _ answered =>
        rw [succeeded] at answered
        cases answered

end Steps

def after (duration : Int) (uuids : UuidSource) (clock : Int) (calls : List LeaseCall) :
    LeaseDesk :=
  Stepwise.run serve (start duration uuids clock) calls

/-- A grant of a minute on the first node, at once. -/
def minuteGrant (workloadId deviceId : String) : LeaseCall :=
  ⟨0, .grantFenced workloadId "runtime" {} "node-1" deviceId true⟩

/-- Two workloads take a device in turn. -/
def takeover : List LeaseCall := [minuteGrant "w-1" "cpu-0", minuteGrant "w-2" "cpu-0"]

/-- Grants on another device, each released at once. -/
def spins (uuids : UuidSource) (count : Nat) : List LeaseCall :=
  (List.range count).flatMap fun index =>
    [minuteGrant "w-1" "cpu-1", ⟨0, .release (uuids.nowV7 (2 + 2 * index))⟩]

/-- A grant, many grants elsewhere, and another grant on the device of the first. -/
def wrapCalls (uuids : UuidSource) (count : Nat) : List LeaseCall :=
  minuteGrant "w-0" "cpu-0" :: spins uuids count ++ [minuteGrant "w-2" "cpu-0"]

/-- The desk after the first grant and some spins: the first lease stands, it is the
only one, and the counter has moved. -/
structure Spun (source : UuidSource) (count : Nat) (desk : LeaseDesk) : Prop where
  uuids : desk.uuids = source
  drawn : desk.drawn = 2 + 2 * count
  clock : desk.clock = 0
  duration : desk.manager.defaultDuration = 60000000
  node : desk.manager.fencing.nodeId = "lease-" ++ source.nowV7 0
  value : desk.manager.fencing.value = UInt64.ofNat (1 + count)
  first : ∃ lease, desk.manager.leases.lookup (source.nowV7 1) = some lease ∧
    lease.expiresAt = 60000000 ∧ lease.nodeId = "node-1" ∧ lease.deviceId = "cpu-0"
  token : desk.manager.leaseTokens.lookup (source.nowV7 1) =
    some ("lease-" ++ source.nowV7 0 ++ ":" ++ toString 1)
  only : ∀ leaseId lease, desk.manager.leases.lookup leaseId = some lease →
    lease.workloadId = "w-0"

section Spins

variable {source : UuidSource} {count : Nat} {desk : LeaseDesk}

theorem Spun.vacant (spun : Spun source count desk) {workloadId : String}
    (other : workloadId ≠ "w-0") (now : Int) : desk.manager.holdsValid workloadId now = false := by
  rw [LeaseManager.holdsValid, List.any_eq_false]
  rintro ⟨leaseId, lease⟩ member
  have workload := spun.only leaseId lease (AList.mem_lookup_iff.mpr member)
  have different : "w-0" ≠ workloadId := fun same => other same.symm
  simp [workload, different]

/-- A grant to a workload that holds no valid lease. -/
theorem serve_grant {workloadId deviceId : String}
    (vacant : desk.manager.holdsValid workloadId desk.clock = false) :
    desk.serve (minuteGrant workloadId deviceId) =
      { desk with
        drawn := desk.drawn + 1
        manager := desk.manager.book (desk.manager.fencedGrant desk.clock
          (desk.uuids.nowV7 desk.drawn) workloadId "runtime" {} "node-1" deviceId true)
        granted := desk.granted ++ [desk.manager.fencedGrant desk.clock
          (desk.uuids.nowV7 desk.drawn) workloadId "runtime" {} "node-1" deviceId true] } := by
  have result := LeaseManager.grantFenced_vacant (desk.uuids.nowV7 desk.drawn) "runtime" {} "node-1"
    deviceId true vacant
  simp [serve, reply, answer, minuteGrant, result, noted, Except.map]

theorem serve_release {leaseId : String} (present : leaseId ∈ desk.manager.leases) :
    desk.serve ⟨0, .release leaseId⟩ =
      { desk with
        drawn := desk.drawn + 1
        manager := { desk.manager with
          leases := desk.manager.leases.erase leaseId
          leaseTokens := desk.manager.leaseTokens.erase leaseId } } := by
  simp [serve, reply, answer, LeaseManager.release_present present, noted, Except.map]

theorem Spun.start (source : UuidSource) :
    Spun source 0 ((LeaseDesk.start 60000000 source 0).serve (minuteGrant "w-0" "cpu-0")) := by
  rw [serve_grant rfl]
  refine ⟨rfl, rfl, rfl, rfl, rfl, rfl, ⟨_, AList.lookup_insert _, rfl, rfl, rfl⟩,
    AList.lookup_insert _, ?_⟩
  intro leaseId lease found
  have among := AList.mem_lookup_iff.mp (Option.mem_def.mpr found)
  have only : (⟨leaseId, lease⟩ : Sigma fun _ : String => ResourceLease) = ⟨source.nowV7 1,
      (LeaseManager.newWithDuration 60000000 (source.nowV7 0)).granted 0 (source.nowV7 1) "w-0"
        "runtime" {} "node-1" "cpu-0" true⟩ := List.mem_singleton.mp among
  cases only
  rfl

/-- One spin: the counter moves on, and nothing is left of the lease. -/
theorem Spun.spin (spun : Spun source count desk) :
    Spun source (count + 1) ((desk.serve (minuteGrant "w-1" "cpu-1")).serve
      ⟨0, .release (source.nowV7 (2 + 2 * count))⟩) := by
  have id : desk.uuids.nowV7 desk.drawn = source.nowV7 (2 + 2 * count) := by
    rw [spun.uuids, spun.drawn]
  have different : source.nowV7 1 ≠ source.nowV7 (2 + 2 * count) := by
    intro same
    have := source.injective same
    omega
  rw [serve_grant (spun.vacant (by decide) desk.clock), id, serve_release]
  · refine ⟨spun.uuids, ?_, spun.clock, spun.duration, spun.node, ?_, ?_, ?_, ?_⟩
    · show desk.drawn + 1 + 1 = 2 + 2 * (count + 1)
      rw [spun.drawn]
      omega
    · show desk.manager.fencing.value + 1 = UInt64.ofNat (1 + (count + 1))
      rw [spun.value, ← Nat.add_assoc, UInt64.ofNat_add (1 + count) 1]
      rfl
    · obtain ⟨lease, found, rest⟩ := spun.first
      refine ⟨lease, ?_, rest⟩
      exact (AList.lookup_erase_ne different).trans ((AList.lookup_insert_ne different).trans found)
    · exact (AList.lookup_erase_ne different).trans
        ((AList.lookup_insert_ne different).trans spun.token)
    · intro leaseId lease found
      by_cases own : leaseId = source.nowV7 (2 + 2 * count)
      · subst own
        rw [show AList.lookup _ _ = none from AList.lookup_erase _ _] at found
        cases found
      · apply spun.only leaseId lease
        exact ((AList.lookup_erase_ne own).trans (AList.lookup_insert_ne own)).symm.trans found
  · exact (AList.mem_insert _).mpr (.inl rfl)

theorem Spun.spins (spun : Spun source 0 desk) (count : Nat) :
    Spun source count (Stepwise.run serve desk (LeaseDesk.spins source count)) := by
  induction count with
  | zero => exact spun
  | succ count ih =>
      rw [LeaseDesk.spins, List.range_succ, List.flatMap_append, Stepwise.run_append]
      exact ih.spin

/-- The token of the first grant. -/
def firstToken (source : UuidSource) : String :=
  "lease-" ++ source.nowV7 0 ++ ":" ++ toString 1

theorem firstToken_valid (source : UuidSource) :
    FencingToken.isTokenValid (firstToken source) (firstToken source) = true := by
  have free : ':' ∉ ("lease-" ++ source.nowV7 0).toList := by
    have hyphenated := source.hyphenated 0
    simpa using hyphenated
  have parsed : FencingToken.parse (firstToken source) =
      some (("lease-" ++ source.nowV7 0).toList, 1) := FencingToken.parse_token free (by decide)
  simp [FencingToken.isTokenValid, parsed]

/-- When the counter wraps, the next grant on the first device draws the token of
the first grant, and both are authorized. -/
theorem Spun.wrapped (spun : Spun source count desk) (wraps : UInt64.ofNat (1 + count) + 1 = 1) :
    (desk.serve (minuteGrant "w-2" "cpu-0")).manager.authorize 0 (source.nowV7 1)
      (firstToken source) = true ∧
    (desk.serve (minuteGrant "w-2" "cpu-0")).manager.authorize 0 (source.nowV7 (2 + 2 * count))
      (firstToken source) = true ∧
    ∃ one two,
      (desk.serve (minuteGrant "w-2" "cpu-0")).manager.leases.lookup (source.nowV7 1) = some one ∧
      (desk.serve (minuteGrant "w-2" "cpu-0")).manager.leases.lookup
        (source.nowV7 (2 + 2 * count)) = some two ∧
      one.nodeId = two.nodeId ∧ one.deviceId = two.deviceId := by
  have id : desk.uuids.nowV7 desk.drawn = source.nowV7 (2 + 2 * count) := by
    rw [spun.uuids, spun.drawn]
  have different : source.nowV7 1 ≠ source.nowV7 (2 + 2 * count) := by
    intro same
    have := source.injective same
    omega
  have drawn : desk.manager.fencing.next.1 = firstToken source := by
    rw [FencingToken.next, spun.node, spun.value, wraps]
    rfl
  obtain ⟨lease, found, expires, node, device⟩ := spun.first
  have token : desk.manager.leaseTokens.lookup (source.nowV7 1) = some (firstToken source) :=
    spun.token
  rw [serve_grant (spun.vacant (by decide) desk.clock), id]
  have recorded : (desk.manager.resourceTokens.insert (resourceKey "node-1" "cpu-0")
      desk.manager.fencing.next.1).lookup (resourceKey "node-1" "cpu-0") =
        some (firstToken source) := (AList.lookup_insert _).trans (congrArg some drawn)
  refine ⟨?_, ?_, lease, _, (AList.lookup_insert_ne different).trans found, AList.lookup_insert _,
    node, device⟩
  · apply authorize_of ((AList.lookup_insert_ne different).trans found)
    · rw [ResourceLease.isValid, expires]
      rfl
    · exact (AList.lookup_insert_ne different).trans token
    · rw [node, device]
      exact recorded
    · exact firstToken_valid source
  · apply authorize_of (AList.lookup_insert _)
    · rw [ResourceLease.isValid, LeaseManager.fencedGrant, LeaseManager.granted, spun.clock,
        spun.duration]
      rfl
    · exact (AList.lookup_insert _).trans (congrArg some drawn)
    · exact recorded
    · exact firstToken_valid source

end Spins

/-- After 2^64 grants the first token is drawn again, and its holder passes beside
the new one. -/
theorem leases_wrap : ¬ (after 60000000 sampleUuids 0
    (wrapCalls sampleUuids (2 ^ 64 - 1))).Consistent := by
  intro consistent
  have spun := (Spun.start sampleUuids).spins (2 ^ 64 - 1)
  have run : after 60000000 sampleUuids 0 (wrapCalls sampleUuids (2 ^ 64 - 1)) =
      (Stepwise.run serve ((start 60000000 sampleUuids 0).serve (minuteGrant "w-0" "cpu-0"))
        (spins sampleUuids (2 ^ 64 - 1))).serve (minuteGrant "w-2" "cpu-0") := by
    rw [after, wrapCalls, List.cons_append, Stepwise.run_cons, Stepwise.run_concat]
  obtain ⟨one, two, lease, other, foundOne, foundTwo, node, device⟩ := spun.wrapped (by decide)
  rw [← run] at one two foundOne foundTwo
  have same := consistent.exclusive 0 _ _ _ _ lease other one two foundOne foundTwo node device
  have index := sampleUuids.injective same
  omega

end LeaseDesk

end NousKernel
