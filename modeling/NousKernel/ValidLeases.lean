import NousKernel.Leasing

/-!
The lookup of a lease by its workload (`nous-resource/src/lease.rs`). A lease that has expired
stays in the table until it is swept, beside a new one for the same workload, and the lookup
takes the first that the map yields.
-/

set_option autoImplicit false

namespace NousKernel

namespace LeaseManager

/-- The leases of the table, in the order in which they were put in. -/
def values (manager : LeaseManager) : List ResourceLease := manager.leases.entries.map (·.2)

/-- `get_for_workload`, on the leases in the order in which the map yields them. -/
def getForWorkload (values : List ResourceLease) (workloadId : String) : Option ResourceLease :=
  values.find? (·.workloadId = workloadId)

def hasValidLease (values : List ResourceLease) (workloadId : String) (now : Int) : Bool :=
  ((getForWorkload values workloadId).map (·.isValid now)).getD false

variable {manager : LeaseManager} {workloadId : String} {now : Int}

theorem mem_values {lease : ResourceLease} :
    lease ∈ manager.values ↔ ∃ leaseId, manager.leases.lookup leaseId = some lease := by
  simp only [values, List.mem_map]
  constructor
  · rintro ⟨⟨leaseId, lease⟩, listed, rfl⟩
    exact ⟨leaseId, AList.mem_lookup_iff.mpr listed⟩
  · rintro ⟨leaseId, found⟩
    exact ⟨⟨leaseId, lease⟩, AList.mem_lookup_iff.mp found, rfl⟩

/-- Whatever the order of the map, the answer is whether some lease of the workload is valid. -/
def ValidLeaseExact (manager : LeaseManager) (workloadId : String) (now : Int) : Prop :=
  ∀ values, values.Perm manager.values →
    (hasValidLease values workloadId now = true ↔
      ∃ lease ∈ values, lease.workloadId = workloadId ∧ lease.isValid now = true)

/-- A valid lease of the workload and an expired one are in the table. -/
def Mixed (manager : LeaseManager) (workloadId : String) (now : Int) : Prop :=
  (∃ lease ∈ manager.values, lease.workloadId = workloadId ∧ lease.isValid now = true) ∧
    ∃ lease ∈ manager.values, lease.workloadId = workloadId ∧ lease.isValid now = false

instance : Decidable (Mixed manager workloadId now) := inferInstanceAs (Decidable (_ ∧ _))

theorem hasValidLease_sound {values : List ResourceLease}
    (valid : hasValidLease values workloadId now = true) :
    ∃ lease ∈ values, lease.workloadId = workloadId ∧ lease.isValid now = true := by
  unfold hasValidLease getForWorkload at valid
  cases found : values.find? (·.workloadId = workloadId) with
  | none =>
      rw [found] at valid
      cases valid
  | some lease =>
      rw [found] at valid
      have named := List.find?_some found
      rw [decide_eq_true_eq] at named
      exact ⟨lease, List.mem_of_find?_eq_some found, named, valid⟩

/-- The answer is exact unless the table holds both. -/
theorem validLeaseExact_iff : ValidLeaseExact manager workloadId now ↔
    ¬Mixed manager workloadId now := by
  constructor
  · rintro exact ⟨⟨lease, listed, own, valid⟩, stale, old, own', expired⟩
    -- The map yields the expired lease first.
    have first : (stale :: manager.values.erase stale).Perm manager.values :=
      (List.perm_cons_erase old).symm
    have answer := (exact _ first).mpr ⟨lease, first.mem_iff.mpr listed, own, valid⟩
    simp only [hasValidLease, getForWorkload, List.find?_cons, own', decide_true, Option.map_some,
      Option.getD_some, expired] at answer
    cases answer
  · intro unmixed values perm
    refine ⟨hasValidLease_sound, ?_⟩
    rintro ⟨lease, listed, own, valid⟩
    unfold hasValidLease getForWorkload
    cases found : values.find? (·.workloadId = workloadId) with
    | none =>
        have absent := List.find?_eq_none.mp found lease listed
        simp [own] at absent
    | some other =>
        have member := List.mem_of_find?_eq_some found
        have named := List.find?_some found
        rw [decide_eq_true_eq] at named
        cases current : other.isValid now with
        | true => exact current
        | false =>
            exact absurd ⟨⟨lease, perm.mem_iff.mp listed, own, valid⟩, other,
              perm.mem_iff.mp member, named, current⟩ unmixed

end LeaseManager

/-! ### One lease for each workload -/

namespace LeaseDesk

open LeaseManager

variable {desk : LeaseDesk} {call : LeaseCall}

/-- What a call leaves in the table was there, but for a renewal of a valid lease, or was granted
to a workload that had no valid lease. -/
theorem lookup_serve {leaseId : String} {lease : ResourceLease}
    (found : (desk.serve call).manager.leases.lookup leaseId = some lease) :
    (∃ old, desk.manager.leases.lookup leaseId = some old ∧ old.workloadId = lease.workloadId ∧
      (old = lease ∨ old.isValid (desk.clock + call.elapsed) = true)) ∨
    ∃ principalId resources nodeId deviceId renewable,
      call.request = .grantFenced lease.workloadId principalId resources nodeId deviceId renewable ∧
      desk.manager.holdsValid lease.workloadId (desk.clock + call.elapsed) = false ∧
      leaseId = desk.uuids.nowV7 desk.drawn ∧
      lease.expiresAt = desk.clock + call.elapsed + desk.manager.defaultDuration := by
  have effect := served desk call
  generalize desk.serve call = later at effect found
  cases effect with
  | refused error answered => exact .inl ⟨lease, found, rfl, .inl rfl⟩
  | granted workloadId principalId resources nodeId deviceId renewable fenced asked made vacant
      answered =>
      subst made
      by_cases own : leaseId = desk.uuids.nowV7 desk.drawn
      · subst own
        have lookup := found.symm.trans (AList.lookup_insert desk.manager.leases)
        rw [Option.some.injEq] at lookup
        subst lookup
        exact .inr ⟨principalId, resources, nodeId, deviceId, renewable, asked, vacant, rfl, rfl⟩
      · exact .inl ⟨lease, (AList.lookup_insert_ne own).symm.trans found, rfl, .inl rfl⟩
  | renewed renewedId expectedGeneration old asked here valid answered =>
      by_cases own : leaseId = renewedId
      · subst own
        have lookup := found.symm.trans (AList.lookup_insert desk.manager.leases)
        rw [Option.some.injEq] at lookup
        subst lookup
        exact .inl ⟨old, here, rfl, .inr valid⟩
      · exact .inl ⟨lease, (AList.lookup_insert_ne own).symm.trans found, rfl, .inl rfl⟩
  | released erased asked answered =>
      by_cases own : leaseId = erased
      · subst own
        cases found.symm.trans (AList.lookup_erase leaseId desk.manager.leases)
      · exact .inl ⟨lease, (AList.lookup_erase_ne own).symm.trans found, rfl, .inl rfl⟩
  | expired workloadIds asked answered =>
      have kept := (lookup_tryExpireStale leaseId).symm.trans found
      rw [Option.filter_eq_some_iff] at kept
      exact .inl ⟨lease, kept.1, rfl, .inl rfl⟩

/-- A grant finds every lease of its workload valid: those that had expired were swept. -/
def Swept (desk : LeaseDesk) (call : LeaseCall) : Prop :=
  match call.request with
  | .grantFenced workloadId .. => ∀ lease ∈ desk.manager.values, lease.workloadId = workloadId →
      lease.isValid (desk.clock + call.elapsed) = true
  | _ => True

/-- `has_valid_lease` is exact now and as long as no other call is made. -/
def Exact (desk : LeaseDesk) : Prop :=
  ∀ workloadId now, desk.clock ≤ now → ValidLeaseExact desk.manager workloadId now

/-- No two leases of the table are for one workload. -/
def Single (manager : LeaseManager) : Prop :=
  ∀ first second one two, manager.leases.lookup first = some one →
    manager.leases.lookup second = some two → one.workloadId = two.workloadId → first = second

/-- The ids of the table were drawn from the source, and the duration is that of the start. -/
structure Drawn (duration : Int) (desk : LeaseDesk) : Prop where
  duration : desk.manager.defaultDuration = duration
  ids : ∀ leaseId lease, desk.manager.leases.lookup leaseId = some lease →
    ∃ index < desk.drawn, desk.uuids.nowV7 index = leaseId

/-- With no time to run, a lease has expired when it is granted. -/
structure Lapsed (desk : LeaseDesk) : Prop where
  duration : desk.manager.defaultDuration ≤ 0
  expired : ∀ leaseId lease, desk.manager.leases.lookup leaseId = some lease →
    lease.expiresAt ≤ desk.clock

theorem duration_serve (desk : LeaseDesk) (call : LeaseCall) :
    (desk.serve call).manager.defaultDuration = desk.manager.defaultDuration := by
  have effect := served desk call
  generalize desk.serve call = later at effect ⊢
  cases effect <;> rfl

theorem Drawn.serve {duration : Int} (drawn : Drawn duration desk) :
    Drawn duration (desk.serve call) where
  duration := (duration_serve desk call).trans drawn.duration
  ids leaseId lease found := by
    rcases lookup_serve found with ⟨old, here, _⟩ | ⟨_, _, _, _, _, _, _, fresh, _⟩
    · obtain ⟨index, before, same⟩ := drawn.ids leaseId old here
      exact ⟨index, Nat.lt_succ_of_lt before, same⟩
    · exact ⟨desk.drawn, Nat.lt_succ_self _, fresh.symm⟩

theorem Lapsed.serve (lapsed : Lapsed desk) : Lapsed (desk.serve call) where
  duration := (duration_serve desk call).trans_le lapsed.duration
  expired leaseId lease found := by
    have nonpositive := lapsed.duration
    show lease.expiresAt ≤ desk.clock + call.elapsed
    rcases lookup_serve found with ⟨old, here, _, same | valid⟩ | ⟨_, _, _, _, _, _, _, _, expires⟩
    · have before := lapsed.expired leaseId old here
      rw [same] at before
      omega
    · have before := lapsed.expired leaseId old here
      have current : desk.clock + call.elapsed < old.expiresAt := of_decide_eq_true valid
      omega
    · omega

theorem Lapsed.exact (lapsed : Lapsed desk) : desk.Exact := by
  intro workloadId now later
  rw [validLeaseExact_iff]
  rintro ⟨⟨lease, listed, _, valid⟩, _⟩
  obtain ⟨leaseId, found⟩ := mem_values.mp listed
  have before := lapsed.expired leaseId lease found
  have current : now < lease.expiresAt := of_decide_eq_true valid
  omega

theorem Single.exact (single : Single desk.manager) : desk.Exact := by
  intro workloadId now _
  rw [validLeaseExact_iff]
  rintro ⟨⟨lease, listed, own, valid⟩, stale, old, own', expired⟩
  obtain ⟨first, found⟩ := mem_values.mp listed
  obtain ⟨second, found'⟩ := mem_values.mp old
  have same := single first second lease stale found found' (own.trans own'.symm)
  rw [same, found', Option.some.injEq] at found
  rw [found, valid] at expired
  cases expired

theorem holdsValid_iff {manager : LeaseManager} {workloadId : String} {now : Int} :
    manager.holdsValid workloadId now = true ↔
      ∃ lease ∈ manager.values, lease.workloadId = workloadId ∧ lease.isValid now = true := by
  simp only [holdsValid, List.any_eq_true, Bool.and_eq_true, beq_iff_eq, values, List.mem_map]
  constructor
  · rintro ⟨entry, listed, valid⟩
    exact ⟨entry.2, ⟨entry, listed, rfl⟩, valid⟩
  · rintro ⟨_, ⟨entry, listed, rfl⟩, valid⟩
    exact ⟨entry, listed, valid⟩

/-- A workload to which a grant is made has no lease in the table. -/
theorem Swept.unleased (swept : desk.Swept call) {workloadId principalId : String}
    {resources : ResourceVector} {nodeId deviceId : String} {renewable : Bool}
    (asked : call.request = .grantFenced workloadId principalId resources nodeId deviceId renewable)
    (vacant : desk.manager.holdsValid workloadId (desk.clock + call.elapsed) = false)
    {lease : ResourceLease} (listed : lease ∈ desk.manager.values) :
    lease.workloadId ≠ workloadId := by
  intro own
  rw [Swept, asked] at swept
  have held := holdsValid_iff.mpr ⟨lease, listed, own, swept lease listed own⟩
  rw [vacant] at held
  cases held

theorem Single.serve (single : Single desk.manager) (swept : desk.Swept call) :
    Single (desk.serve call).manager := by
  intro first second one two found found' workload
  rcases lookup_serve found with ⟨old, here, own, _⟩ | ⟨_, _, _, _, _, asked, vacant, fresh, _⟩
  · rcases lookup_serve found' with ⟨old', here', own', _⟩ | ⟨_, _, _, _, _, asked, vacant, _, _⟩
    · exact single first second old old' here here' ((own.trans workload).trans own'.symm)
    · exact absurd (own.trans workload) (swept.unleased asked vacant (mem_values.mpr ⟨first, here⟩))
  · rcases lookup_serve found' with ⟨old', here', own', _⟩ | ⟨_, _, _, _, _, _, _, fresh', _⟩
    · exact absurd (own'.trans workload.symm)
        (swept.unleased asked vacant (mem_values.mpr ⟨second, here'⟩))
    · exact fresh.trans fresh'.symm

/-- A lease that takes time to expire is granted beside one that has expired. -/
theorem swept_of_exact {duration : Int} (lasting : 0 < duration) (drawn : Drawn duration desk)
    (single : Single desk.manager) (exact : (desk.serve call).Exact) : desk.Swept call := by
  obtain ⟨elapsed, request⟩ := call
  cases request with
  | grantFenced workloadId principalId resources nodeId deviceId renewable =>
      intro lease listed own
      by_contra expired
      rw [Bool.not_eq_true] at expired
      obtain ⟨leaseId, found⟩ := mem_values.mp listed
      have vacant : desk.manager.holdsValid workloadId (desk.clock + elapsed) = false := by
        rw [← Bool.not_eq_true, holdsValid_iff]
        rintro ⟨other, listed', own', valid⟩
        obtain ⟨otherId, found'⟩ := mem_values.mp listed'
        have same := single leaseId otherId lease other found found' (own.trans own'.symm)
        rw [same, found', Option.some.injEq] at found
        rw [← found, valid] at expired
        cases expired
      have granted := (serve_eq desk ⟨elapsed, .grantFenced workloadId principalId resources nodeId
        deviceId renewable⟩ (by rw [answer, grantFenced_vacant _ _ _ _ _ _ vacant])).2
      obtain ⟨index, before, drawnId⟩ := drawn.ids leaseId lease found
      have different : leaseId ≠ desk.uuids.nowV7 desk.drawn := by
        intro same
        have position := desk.uuids.injective (drawnId.trans same)
        omega
      have unmixed := validLeaseExact_iff.mp (exact workloadId _ (Int.le_refl _))
      refine unmixed ⟨⟨desk.manager.granted (desk.clock + elapsed) (desk.uuids.nowV7 desk.drawn)
        workloadId principalId resources nodeId deviceId renewable, ?_, rfl, ?_⟩, lease, ?_, own,
        expired⟩
      · rw [granted]
        exact mem_values.mpr ⟨_, AList.lookup_insert _⟩
      · refine decide_eq_true ?_
        show desk.clock + elapsed < desk.clock + elapsed + desk.manager.defaultDuration
        rw [drawn.duration]
        omega
      · rw [granted]
        exact mem_values.mpr ⟨leaseId, (AList.lookup_insert_ne different).trans found⟩
  | renew leaseId expectedGeneration => trivial
  | release leaseId => trivial
  | revoke leaseId => trivial
  | tryExpireStale => trivial

/-- The answer is exact in every state of a run when the expired leases of a workload are swept
before it is granted another, and in no other run, if a lease takes time to expire. -/
theorem valid_lease_exact_iff (duration : Int) (uuids : UuidSource) (clock : Int)
    (calls : List LeaseCall) :
    (∀ front, front <+: calls → (after duration uuids clock front).Exact) ↔
      duration ≤ 0 ∨ Stepwise.Meets serve Swept (start duration uuids clock) calls := by
  have drawn : Drawn duration (start duration uuids clock) := ⟨rfl, fun _ _ found => by cases found⟩
  have single : Single (start duration uuids clock).manager := fun _ _ _ _ found => by cases found
  have keeps : ∀ (desk : LeaseDesk) call, Drawn duration desk ∧ Single desk.manager →
      desk.Swept call → Drawn duration (desk.serve call) ∧ Single (desk.serve call).manager :=
    fun _ _ kept swept => ⟨kept.1.serve, kept.2.serve swept⟩
  constructor
  · intro exact
    by_cases lasting : 0 < duration
    · have shows : ∀ (desk : LeaseDesk) call, Drawn duration desk ∧ Single desk.manager →
          (desk.serve call).Exact → desk.Swept call :=
        fun _ _ kept exact => swept_of_exact lasting kept.1 kept.2 exact
      exact .inr (Stepwise.meets_of_throughout shows keeps ⟨drawn, single⟩ exact)
    · exact .inl (Int.not_lt.mp lasting)
  · rintro (short | swept) front before
    · have lapsed : Lapsed (start duration uuids clock) := ⟨short, fun _ _ found => by cases found⟩
      have kept : Lapsed (after duration uuids clock front) :=
        Stepwise.run_invariant (fun _ _ lapsed => lapsed.serve) lapsed front
      exact kept.exact
    · exact (Stepwise.meets_invariant keeps ⟨drawn, single⟩ swept before).2.exact

/-- A lease of a minute, two minutes, and another grant to the workload. -/
def askAgain : List LeaseCall :=
  [minuteGrant "w-1" "cpu-0", { minuteGrant "w-1" "cpu-0" with elapsed := 120000000 }]

/-- No call has swept the first lease, and a map that yields it first hides the second. -/
theorem valid_lease_hidden : ¬∀ (duration : Int) (uuids : UuidSource) (clock : Int)
    (calls : List LeaseCall), (after duration uuids clock calls).Exact := by
  intro exact
  have answered := exact 60000000 sampleUuids 0 askAgain "w-1" 120000000 (by decide +kernel)
  exact validLeaseExact_iff.mp answered (by decide +kernel)

end LeaseDesk

end NousKernel
