import Mathlib.Data.List.AList
import NousKernel.Admission
import NousKernel.Forests
import NousKernel.RuntimeApi
import NousKernel.Stepwise

/-!
The hierarchy of resource domains (`nous-resource/src/domain.rs`). Each operation runs
under the lock of the table. A domain carries its own capacity, and no operation looks
at what is above or below it: a child may hold more than its parent has.
-/

set_option autoImplicit false

namespace NousKernel

/-! ### The operations -/

namespace ResourceVector

/-- `Add for ResourceVector`, which saturates. -/
def plus (self rhs : ResourceVector) : ResourceVector where
  cpuCoresMillis := saturatingAdd self.cpuCoresMillis rhs.cpuCoresMillis
  cpuTimeUs := saturatingAdd self.cpuTimeUs rhs.cpuTimeUs
  ramBytes := saturatingAdd self.ramBytes rhs.ramBytes
  pinnedRamBytes := saturatingAdd self.pinnedRamBytes rhs.pinnedRamBytes
  deviceMemoryBytes := saturatingAdd self.deviceMemoryBytes rhs.deviceMemoryBytes
  kvCacheBytes := saturatingAdd self.kvCacheBytes rhs.kvCacheBytes
  storageBytes := saturatingAdd self.storageBytes rhs.storageBytes
  memoryBandwidthBps := saturatingAdd self.memoryBandwidthBps rhs.memoryBandwidthBps
  interconnectBandwidthBps :=
    saturatingAdd self.interconnectBandwidthBps rhs.interconnectBandwidthBps
  networkBandwidthBps := saturatingAdd self.networkBandwidthBps rhs.networkBandwidthBps
  powerMilliwatts := saturatingAdd self.powerMilliwatts rhs.powerMilliwatts
  thermalBudgetMillic := saturatingAdd self.thermalBudgetMillic rhs.thermalBudgetMillic
  timeBudgetUs := saturatingAdd self.timeBudgetUs rhs.timeBudgetUs

instance : Add ResourceVector := ⟨plus⟩

/-- `format!("{:?}", vector)`. -/
def debug (vector : ResourceVector) : String :=
  let field (name : String) (value : Nat) : String := name ++ ": " ++ toString value
  "ResourceVector \x7b " ++ ", ".intercalate
    [field "cpu_cores_millis" vector.cpuCoresMillis, field "cpu_time_us" vector.cpuTimeUs,
      field "ram_bytes" vector.ramBytes, field "pinned_ram_bytes" vector.pinnedRamBytes,
      field "device_memory_bytes" vector.deviceMemoryBytes,
      field "kv_cache_bytes" vector.kvCacheBytes, field "storage_bytes" vector.storageBytes,
      field "memory_bandwidth_bps" vector.memoryBandwidthBps,
      field "interconnect_bandwidth_bps" vector.interconnectBandwidthBps,
      field "network_bandwidth_bps" vector.networkBandwidthBps,
      field "power_milliwatts" vector.powerMilliwatts,
      field "thermal_budget_millic" vector.thermalBudgetMillic,
      field "time_budget_us" vector.timeBudgetUs] ++ " \x7d"

end ResourceVector

structure DomainHierarchy where
  domains : AList (fun _ : String => ResourceDomain)

namespace DomainHierarchy

def new (rootDomain : ResourceDomain) : DomainHierarchy :=
  ⟨(∅ : AList (fun _ : String => ResourceDomain)).insert rootDomain.domainId rootDomain⟩

/-- The table with one domain put in or replaced. -/
def put (hierarchy : DomainHierarchy) (domainId : String) (domain : ResourceDomain) :
    DomainHierarchy :=
  ⟨hierarchy.domains.insert domainId domain⟩

def register (hierarchy : DomainHierarchy) (domain : ResourceDomain) :
    Except NousError Unit × DomainHierarchy :=
  match domain.parentDomainId with
  | some parentId =>
      if parentId ∈ hierarchy.domains then (.ok (), hierarchy.put domain.domainId domain)
      else (.error ⟨.notFound, "Parent domain '" ++ parentId ++ "' not found"⟩, hierarchy)
  | none => (.ok (), hierarchy.put domain.domainId domain)

def domainNotFound (domainId : String) : NousError :=
  ⟨.notFound, "Domain '" ++ domainId ++ "' not found"⟩

def allocate (hierarchy : DomainHierarchy) (domainId : String) (request : ResourceVector) :
    Except NousError Unit × DomainHierarchy :=
  match hierarchy.domains.lookup domainId with
  | none => (.error (domainNotFound domainId), hierarchy)
  | some domain =>
      if domain.canFit request then
        (.ok (), hierarchy.put domainId { domain with allocated := domain.allocated + request })
      else (.error ⟨.resourceInsufficient, "Insufficient resources in domain '" ++ domainId ++
        "': available=" ++ domain.available.debug ++ ", requested=" ++ request.debug⟩, hierarchy)

def free (hierarchy : DomainHierarchy) (domainId : String) (freed : ResourceVector) :
    Except NousError Unit × DomainHierarchy :=
  match hierarchy.domains.lookup domainId with
  | none => (.error (domainNotFound domainId), hierarchy)
  | some domain =>
      (.ok (), hierarchy.put domainId { domain with allocated := domain.allocated - freed })

def available (hierarchy : DomainHierarchy) (domainId : String) : Option ResourceVector :=
  (hierarchy.domains.lookup domainId).map (·.available)

end DomainHierarchy

inductive DomainCall where
  | register (domain : ResourceDomain)
  | allocate (domainId : String) (request : ResourceVector)
  | free (domainId : String) (freed : ResourceVector)

def DomainHierarchy.step (hierarchy : DomainHierarchy) : DomainCall → DomainHierarchy
  | .register domain => (hierarchy.register domain).2
  | .allocate domainId request => (hierarchy.allocate domainId request).2
  | .free domainId freed => (hierarchy.free domainId freed).2

/-! ### The tree -/

inductive ResourceDimension where
  | cpuCoresMillis
  | cpuTimeUs
  | ramBytes
  | pinnedRamBytes
  | deviceMemoryBytes
  | kvCacheBytes
  | storageBytes
  | memoryBandwidthBps
  | interconnectBandwidthBps
  | networkBandwidthBps
  | powerMilliwatts
  | thermalBudgetMillic
  | timeBudgetUs
  deriving DecidableEq, Repr

def ResourceVector.get (vector : ResourceVector) : ResourceDimension → Nat
  | .cpuCoresMillis => vector.cpuCoresMillis
  | .cpuTimeUs => vector.cpuTimeUs
  | .ramBytes => vector.ramBytes
  | .pinnedRamBytes => vector.pinnedRamBytes
  | .deviceMemoryBytes => vector.deviceMemoryBytes
  | .kvCacheBytes => vector.kvCacheBytes
  | .storageBytes => vector.storageBytes
  | .memoryBandwidthBps => vector.memoryBandwidthBps
  | .interconnectBandwidthBps => vector.interconnectBandwidthBps
  | .networkBandwidthBps => vector.networkBandwidthBps
  | .powerMilliwatts => vector.powerMilliwatts
  | .thermalBudgetMillic => vector.thermalBudgetMillic
  | .timeBudgetUs => vector.timeBudgetUs

theorem ResourceVector.get_add_le (first second : ResourceVector) (dimension : ResourceDimension) :
    (first + second).get dimension ≤ first.get dimension + second.get dimension := by
  cases dimension <;> exact Nat.min_le_left _ _

theorem ResourceVector.get_sub (first second : ResourceVector) (dimension : ResourceDimension) :
    (first - second).get dimension = first.get dimension - second.get dimension := by
  cases dimension <;> rfl

namespace DomainHierarchy

def ids (hierarchy : DomainHierarchy) : Finset String := hierarchy.domains.keys.toFinset

def parent (hierarchy : DomainHierarchy) (domainId : String) : Option String :=
  (hierarchy.domains.lookup domainId).bind (·.parentDomainId)

/-- What is allocated in a domain itself. -/
def held (hierarchy : DomainHierarchy) (dimension : ResourceDimension) (domainId : String) : Nat :=
  match hierarchy.domains.lookup domainId with
  | some domain => domain.allocated.get dimension
  | none => 0

/-- What is allocated in a domain and in all its descendants. -/
noncomputable def load (hierarchy : DomainHierarchy) (dimension : ResourceDimension)
    (domainId : String) : Nat :=
  Forests.load hierarchy.ids hierarchy.parent (hierarchy.held dimension) domainId

/-- The parents form a tree with the initial domain at its root, and every domain has
room for what is allocated in it and below it, and for its reservation. -/
structure WithinParents (root : String) (hierarchy : DomainHierarchy) : Prop where
  rooted : Forests.Rooted hierarchy.ids hierarchy.parent root
  within : ∀ domainId domain, hierarchy.domains.lookup domainId = some domain → ∀ dimension,
    hierarchy.load dimension domainId + domain.reserved.get dimension ≤
      domain.capacity.get dimension

/-- The weight of a domain that is registered, with what is below it already. -/
noncomputable def branchLoad (hierarchy : DomainHierarchy) (domain : ResourceDomain)
    (dimension : ResourceDimension) : Nat :=
  Forests.load (insert domain.domainId hierarchy.ids) hierarchy.parent
    (Function.update (hierarchy.held dimension) domain.domainId (domain.allocated.get dimension))
    domain.domainId

/-- A domain can be registered where it is: only the initial domain has no parent, the
parent is not below the domain, and the domain and everything above it have room. -/
structure Registrable (root : String) (hierarchy : DomainHierarchy) (domain : ResourceDomain) :
    Prop where
  top : domain.parentDomainId = none ↔ domain.domainId = root
  free : ∀ parentId, domain.parentDomainId = some parentId →
    ¬ Forests.Under hierarchy.parent parentId domain.domainId
  own : ∀ dimension, hierarchy.branchLoad domain dimension + domain.reserved.get dimension ≤
    domain.capacity.get dimension
  above : ∀ parentId, domain.parentDomainId = some parentId → ∀ domainId other,
    Forests.Under hierarchy.parent parentId domainId →
    hierarchy.domains.lookup domainId = some other → ∀ dimension,
      Forests.loadApart hierarchy.ids hierarchy.parent (hierarchy.held dimension)
          domain.domainId domainId + hierarchy.branchLoad domain dimension +
        other.reserved.get dimension ≤ other.capacity.get dimension

/-- A call that is accepted leaves room everywhere above. -/
def Room (root : String) (hierarchy : DomainHierarchy) : DomainCall → Prop
  | .register domain =>
      (∀ parentId, domain.parentDomainId = some parentId → parentId ∈ hierarchy.domains) →
        hierarchy.Registrable root domain
  | .allocate domainId request => ∀ domain, hierarchy.domains.lookup domainId = some domain →
      domain.canFit request = true → ∀ aboveId above,
        Forests.Under hierarchy.parent domainId aboveId →
        hierarchy.domains.lookup aboveId = some above → ∀ dimension,
          hierarchy.load dimension aboveId + request.get dimension +
            above.reserved.get dimension ≤ above.capacity.get dimension
  | .free _ _ => True

end DomainHierarchy

/-! ### What one call does to the tree -/

namespace DomainHierarchy

section Steps

variable {root : String} {hierarchy : DomainHierarchy} {domainId : String}
  {domain : ResourceDomain}

theorem mem_ids {name : String} : name ∈ hierarchy.ids ↔ name ∈ hierarchy.domains := by
  rw [ids, List.mem_toFinset, AList.mem_keys]

theorem put_ids : (hierarchy.put domainId domain).ids = insert domainId hierarchy.ids := by
  ext name
  rw [mem_ids, Finset.mem_insert, mem_ids]
  exact AList.mem_insert _

theorem put_parent : (hierarchy.put domainId domain).parent =
    Function.update hierarchy.parent domainId domain.parentDomainId := by
  funext name
  by_cases same : name = domainId
  · subst same
    rw [Function.update_self, parent, put, AList.lookup_insert]
    rfl
  · rw [Function.update_of_ne same, parent, put, AList.lookup_insert_ne same]
    rfl

theorem put_held (dimension : ResourceDimension) : (hierarchy.put domainId domain).held dimension =
    Function.update (hierarchy.held dimension) domainId (domain.allocated.get dimension) := by
  funext name
  by_cases same : name = domainId
  · subst same
    rw [Function.update_self, held, put, AList.lookup_insert]
  · rw [Function.update_of_ne same, held, put, AList.lookup_insert_ne same]
    rfl

theorem held_found (found : hierarchy.domains.lookup domainId = some domain)
    (dimension : ResourceDimension) :
    hierarchy.held dimension domainId = domain.allocated.get dimension := by
  rw [held, found]

/-- A domain whose allocation changes in place stays where it is. -/
theorem put_allocated (found : hierarchy.domains.lookup domainId = some domain)
    (allocated : ResourceVector) :
    (hierarchy.put domainId { domain with allocated }).ids = hierarchy.ids ∧
      (hierarchy.put domainId { domain with allocated }).parent = hierarchy.parent := by
  constructor
  · rw [put_ids]
    apply Finset.insert_eq_of_mem
    apply mem_ids.mpr
    apply AList.lookup_isSome.mp
    rw [found]
    rfl
  · rw [put_parent]
    have same : hierarchy.parent domainId = domain.parentDomainId := by
      rw [parent, found]
      rfl
    rw [← same, Function.update_eq_self]

/-- The reservation and the capacity of every domain after one that changes in place. -/
theorem lookup_allocated (found : hierarchy.domains.lookup domainId = some domain)
    {allocated : ResourceVector} {name : String} {other : ResourceDomain}
    (later : (hierarchy.put domainId { domain with allocated }).domains.lookup name =
      some other) :
    ∃ before, hierarchy.domains.lookup name = some before ∧ other.reserved = before.reserved ∧
      other.capacity = before.capacity := by
  by_cases same : name = domainId
  · subst same
    rw [put, AList.lookup_insert, Option.some.injEq] at later
    exact ⟨domain, found, by rw [← later], by rw [← later]⟩
  · rw [put, AList.lookup_insert_ne same] at later
    exact ⟨other, later, rfl, rfl⟩

theorem WithinParents.free (within : hierarchy.WithinParents root) (freed : ResourceVector) :
    (hierarchy.free domainId freed).2.WithinParents root := by
  cases found : hierarchy.domains.lookup domainId with
  | none =>
      simp only [DomainHierarchy.free, found]
      exact within
  | some domain =>
      simp only [DomainHierarchy.free, found]
      obtain ⟨ids, parents⟩ := put_allocated found (domain.allocated - freed)
      constructor
      · rw [ids, parents]
        exact within.rooted
      · intro name other later dimension
        obtain ⟨before, here, reserved, capacity⟩ := lookup_allocated found later
        have room := within.within name before here dimension
        have lighter : (hierarchy.put domainId
            { domain with allocated := domain.allocated - freed }).load dimension name ≤
              hierarchy.load dimension name := by
          rw [load, ids, parents, put_held]
          apply Forests.load_mono
          intro below _
          by_cases same : below = domainId
          · subst same
            rw [Function.update_self, held_found found, ResourceVector.get_sub]
            exact Nat.sub_le _ _
          · rw [Function.update_of_ne same]
        rw [reserved, capacity]
        omega

/-- What a domain bears after an allocation in another one, or in itself. -/
theorem load_allocated (found : hierarchy.domains.lookup domainId = some domain)
    (request : ResourceVector) (dimension : ResourceDimension) (name : String) :
    (hierarchy.put domainId { domain with allocated := domain.allocated + request }).load
        dimension name ≤ hierarchy.load dimension name + request.get dimension ∧
      (¬ Forests.Under hierarchy.parent domainId name →
        (hierarchy.put domainId { domain with allocated := domain.allocated + request }).load
          dimension name = hierarchy.load dimension name) := by
  obtain ⟨ids, parents⟩ := put_allocated found (domain.allocated + request)
  rw [load, ids, parents, put_held]
  constructor
  · have heavier := ResourceVector.get_add_le domain.allocated request dimension
    rw [← held_found found] at heavier
    refine le_trans (Forests.load_mono fun below _ => ?_) 
      (Forests.load_add domainId (request.get dimension))
    by_cases same : below = domainId
    · subst same
      rw [Function.update_self, Function.update_self]
      exact heavier
    · rw [Function.update_of_ne same, Function.update_of_ne same]
  · exact fun apart => Forests.load_add_apart apart _

theorem WithinParents.allocate (within : hierarchy.WithinParents root) {request : ResourceVector}
    (room : hierarchy.Room root (.allocate domainId request)) :
    (hierarchy.allocate domainId request).2.WithinParents root := by
  cases found : hierarchy.domains.lookup domainId with
  | none =>
      simp only [DomainHierarchy.allocate, found]
      exact within
  | some domain =>
      by_cases fits : domain.canFit request = true
      · simp only [DomainHierarchy.allocate, found, if_pos fits]
        obtain ⟨ids, parents⟩ := put_allocated found (domain.allocated + request)
        constructor
        · rw [ids, parents]
          exact within.rooted
        · intro name other later dimension
          obtain ⟨before, here, reserved, capacity⟩ := lookup_allocated found later
          obtain ⟨heavier, unchanged⟩ := load_allocated found request dimension name
          rw [reserved, capacity]
          by_cases felt : Forests.Under hierarchy.parent domainId name
          · have bound := room domain found fits name before felt here dimension
            omega
          · rw [unchanged felt]
            exact within.within name before here dimension
      · simp only [DomainHierarchy.allocate, found, if_neg fits]
        exact within

/-- A domain that is put into the tree where it can be registered. -/
theorem WithinParents.put (within : hierarchy.WithinParents root)
    (known : ∀ parentId, domain.parentDomainId = some parentId → parentId ∈ hierarchy.domains)
    (fits : hierarchy.Registrable root domain) :
    (hierarchy.put domain.domainId domain).WithinParents root := by
  have branch : ∀ dimension, Forests.load (insert domain.domainId hierarchy.ids) hierarchy.parent
      (Function.update (hierarchy.held dimension) domain.domainId
        (domain.allocated.get dimension)) domain.domainId = hierarchy.branchLoad domain dimension :=
    fun _ => rfl
  constructor
  · rw [put_ids, put_parent]
    apply within.rooted.move _ fits.top
    intro next given
    exact ⟨mem_ids.mpr (known next given), fits.free next given⟩
  · intro name other later dimension
    rw [load, put_ids, put_parent, put_held]
    by_cases same : name = domain.domainId
    · rw [DomainHierarchy.put, same, AList.lookup_insert, Option.some.injEq] at later
      rw [same, ← later]
      have moved := Forests.load_moved hierarchy.ids (hierarchy.held dimension)
        (domain.allocated.get dimension) fits.free
      exact le_trans (Nat.add_le_add_right moved _) (fits.own dimension)
    · rw [DomainHierarchy.put, AList.lookup_insert_ne same] at later
      have before := within.within name other later dimension
      rw [load] at before
      by_cases inside : Forests.Under hierarchy.parent name domain.domainId
      · have apart : ¬ Forests.Under hierarchy.parent domain.domainId name := by
          intro cycle
          have member : name ∈ hierarchy.ids := by
            apply mem_ids.mpr
            apply AList.lookup_isSome.mp
            rw [later]
            rfl
          exact same (Forests.Under.antisymm (within.rooted.reaches name member) within.rooted.top
            inside cycle).symm
        have bound := Forests.load_inside hierarchy.ids (hierarchy.held dimension)
          (domain.allocated.get dimension) fits.free inside apart
        omega
      · obtain ⟨with_branch, without⟩ := Forests.load_outside hierarchy.ids
          (hierarchy.held dimension) (domain.allocated.get dimension) fits.free inside
        by_cases felt : ∃ next, domain.parentDomainId = some next ∧
            Forests.Under hierarchy.parent next name
        · obtain ⟨next, given, above⟩ := felt
          have room := fits.above next given name other above later dimension
          rw [branch] at with_branch
          omega
        · have elsewhere := without fun next given above => felt ⟨next, given, above⟩
          have lighter := Forests.loadApart_le hierarchy.ids hierarchy.parent
            (hierarchy.held dimension) domain.domainId name
          omega

theorem WithinParents.register (within : hierarchy.WithinParents root)
    (room : hierarchy.Room root (.register domain)) :
    (hierarchy.register domain).2.WithinParents root := by
  cases given : domain.parentDomainId with
  | none =>
      simp only [DomainHierarchy.register, given]
      have known : ∀ parentId, domain.parentDomainId = some parentId →
          parentId ∈ hierarchy.domains := by
        intro parentId other
        rw [given] at other
        cases other
      exact within.put known (room known)
  | some parentId =>
      by_cases known : parentId ∈ hierarchy.domains
      · simp only [DomainHierarchy.register, given, if_pos known]
        have all : ∀ other, domain.parentDomainId = some other → other ∈ hierarchy.domains := by
          intro other same
          rw [given, Option.some.injEq] at same
          exact same ▸ known
        exact within.put all (room all)
      · simp only [DomainHierarchy.register, given, if_neg known]
        exact within

/-- A call that leaves room keeps the tree within its capacities. -/
theorem WithinParents.step (within : hierarchy.WithinParents root) (call : DomainCall)
    (room : hierarchy.Room root call) : (hierarchy.step call).WithinParents root := by
  cases call with
  | register domain => exact within.register room
  | allocate domainId request => exact within.allocate room
  | free domainId freed => exact within.free freed

theorem new_within {rootDomain : ResourceDomain} (top : rootDomain.parentDomainId = none)
    (fits : ∀ dimension, rootDomain.allocated.get dimension + rootDomain.reserved.get dimension ≤
      rootDomain.capacity.get dimension) :
    (new rootDomain).WithinParents rootDomain.domainId := by
  have blank : new rootDomain = put ⟨∅⟩ rootDomain.domainId rootDomain := rfl
  have only : ∀ name ∈ (new rootDomain).ids, name = rootDomain.domainId := by
    intro name member
    rw [blank, put_ids, Finset.mem_insert] at member
    exact member.resolve_right fun absent => (AList.notMem_empty name) (mem_ids.mp absent)
  constructor
  · refine ⟨?_, ?_, ?_⟩
    · rw [blank, put_ids]
      exact Finset.mem_insert_self _ _
    · rw [blank, put_parent, Function.update_self]
      exact top
    · intro name member
      rw [only name member]
      exact .refl _ _
  · intro name domain found dimension
    have member : name ∈ (new rootDomain).ids := by
      apply mem_ids.mpr
      apply AList.lookup_isSome.mp
      rw [found]
      rfl
    have same := only name member
    subst same
    have here : (new rootDomain).domains.lookup rootDomain.domainId = some rootDomain :=
      AList.lookup_insert _
    have equal : rootDomain = domain := Option.some.inj (here.symm.trans found)
    subst equal
    have alone : (new rootDomain).ids ⊆ {rootDomain.domainId} :=
      fun name member => Finset.mem_singleton.mpr (only name member)
    have whole : (new rootDomain).load dimension rootDomain.domainId ≤
        ∑ below ∈ {rootDomain.domainId}, (new rootDomain).held dimension below :=
      Forests.load_le_sum alone
    rw [Finset.sum_singleton, held_found here] at whole
    exact le_trans (Nat.add_le_add_right whole _) (fits dimension)

end Steps

end DomainHierarchy

/-- Calls that leave room keep the hierarchy a tree within its capacities, in every state
of the run. -/
theorem domains_within (rootDomain : ResourceDomain) (calls : List DomainCall)
    (top : rootDomain.parentDomainId = none)
    (fits : ∀ dimension, rootDomain.allocated.get dimension + rootDomain.reserved.get dimension ≤
      rootDomain.capacity.get dimension)
    (room : Stepwise.Meets DomainHierarchy.step
      (DomainHierarchy.Room rootDomain.domainId) (.new rootDomain) calls) :
    ∀ front, front <+: calls → DomainHierarchy.WithinParents rootDomain.domainId
      (Stepwise.run DomainHierarchy.step (.new rootDomain) front) := by
  intro front before
  apply Stepwise.meets_invariant _ (DomainHierarchy.new_within top fits) room before
  exact fun _ call within => within.step call

/-- Ten bytes for the whole system. -/
def systemDomain : ResourceDomain where
  domainId := "system"
  parentDomainId := none
  capacity := { ramBytes := 10 }
  allocated := {}
  reserved := {}

def tenantDomain (ramBytes : Nat) : ResourceDomain where
  domainId := "tenant"
  parentDomainId := some "system"
  capacity := { ramBytes }
  allocated := {}
  reserved := {}

/-- A tenant below the system, with an allocation. -/
def tenantCalls (ramBytes : Nat) : List DomainCall :=
  [.register (tenantDomain ramBytes), .allocate "tenant" { ramBytes }]

section Tenant

variable {ramBytes : Nat}

/-- The hierarchy with the tenant in it. -/
def tenantHierarchy (ramBytes : Nat) : DomainHierarchy :=
  Stepwise.run DomainHierarchy.step (.new systemDomain) [.register (tenantDomain ramBytes)]

/-- Nothing is allocated yet. -/
theorem system_held (dimension : ResourceDimension) (name : String) :
    (DomainHierarchy.new systemDomain).held dimension name = 0 := by
  rw [show DomainHierarchy.new systemDomain = DomainHierarchy.put ⟨∅⟩ "system" systemDomain from rfl,
    DomainHierarchy.put_held]
  by_cases same : name = "system"
  · rw [same, Function.update_self]
    cases dimension <;> rfl
  · rw [Function.update_of_ne same]
    rfl

theorem tenant_held (dimension : ResourceDimension) (name : String) :
    (tenantHierarchy ramBytes).held dimension name = 0 := by
  show (DomainHierarchy.put (.new systemDomain) "tenant" (tenantDomain ramBytes)).held _ _ = 0
  rw [DomainHierarchy.put_held]
  by_cases same : name = "tenant"
  · rw [same, Function.update_self]
    cases dimension <;> rfl
  · rw [Function.update_of_ne same]
    exact system_held dimension name

theorem system_lookup {name : String} {domain : ResourceDomain}
    (found : (DomainHierarchy.new systemDomain).domains.lookup name = some domain) :
    domain = systemDomain := by
  by_cases same : name = "system"
  · rw [same] at found
    exact (Option.some.inj found).symm
  · change (DomainHierarchy.put ⟨∅⟩ "system" systemDomain).domains.lookup name = some domain at found
    rw [DomainHierarchy.put, AList.lookup_insert_ne same] at found
    cases found

theorem tenant_lookup {name : String} {domain : ResourceDomain}
    (found : (tenantHierarchy ramBytes).domains.lookup name = some domain) :
    domain = tenantDomain ramBytes ∨ domain = systemDomain := by
  change (DomainHierarchy.put (.new systemDomain) "tenant"
    (tenantDomain ramBytes)).domains.lookup name = some domain at found
  by_cases same : name = "tenant"
  · rw [same, DomainHierarchy.put, AList.lookup_insert, Option.some.injEq] at found
    exact .inl found.symm
  · rw [DomainHierarchy.put, AList.lookup_insert_ne same] at found
    exact .inr (system_lookup found)

/-- The tenant can be registered: nothing is allocated and the system has no parent. -/
theorem tenant_registrable :
    (DomainHierarchy.new systemDomain).Registrable "system" (tenantDomain ramBytes) := by
  have branch : ∀ dimension,
      (DomainHierarchy.new systemDomain).branchLoad (tenantDomain ramBytes) dimension = 0 := by
    intro dimension
    apply Forests.load_zero
    intro name
    rw [show (tenantDomain ramBytes).allocated.get dimension = 0 by cases dimension <;> rfl]
    by_cases same : name = "tenant"
    · rw [same]
      exact Function.update_self _ _ _
    · exact (Function.update_of_ne same _ _).trans (system_held dimension name)
  refine ⟨?_, ?_, ?_, ?_⟩
  · show some "system" = none ↔ "tenant" = "system"
    decide
  · intro parentId given under
    cases given
    exact absurd (Forests.Under.of_top under rfl) (show "tenant" ≠ "system" by decide)
  · intro dimension
    rw [branch]
    cases dimension <;> exact Nat.zero_le _
  · intro parentId _ domainId other _ found dimension
    have apart := Forests.loadApart_le (DomainHierarchy.new systemDomain).ids
      (DomainHierarchy.new systemDomain).parent
      ((DomainHierarchy.new systemDomain).held dimension) "tenant" domainId
    rw [Forests.load_zero (system_held dimension), Nat.le_zero] at apart
    rw [show (tenantDomain ramBytes).domainId = "tenant" from rfl, apart, branch,
      system_lookup found]
    cases dimension <;> exact Nat.zero_le _

end Tenant

/-- A tenant gets all there is. -/
theorem domains_within_tenant : DomainHierarchy.WithinParents "system"
    (Stepwise.run DomainHierarchy.step (.new systemDomain) (tenantCalls 10)) := by
  refine domains_within systemDomain (tenantCalls 10) rfl ?_ ?_ _ (List.prefix_refl _)
  · intro dimension
    cases dimension <;> decide
  · have first : (DomainHierarchy.new systemDomain).Room "system" (.register (tenantDomain 10)) :=
      fun _ => tenant_registrable
    apply Stepwise.meets_cons first
    refine Stepwise.meets_cons ?_ (Stepwise.meets_nil _)
    intro domain _ _ aboveId above _ found dimension
    have empty : (tenantHierarchy 10).load dimension aboveId = 0 :=
      Forests.load_zero (tenant_held dimension)
    change (tenantHierarchy 10).load dimension aboveId + _ + _ ≤ _
    rw [empty]
    rcases tenant_lookup found with rfl | rfl <;> cases dimension <;> decide

/-- A tenant gets more than the system has, and the system is put below the tenant. -/
theorem domains_overcommitted :
    (Stepwise.run DomainHierarchy.step (.new systemDomain) (tenantCalls 20)).domains.lookup
        "tenant" = some { tenantDomain 20 with allocated := { ramBytes := 20 } } ∧
    ¬ DomainHierarchy.WithinParents "system"
        (Stepwise.run DomainHierarchy.step (.new systemDomain) (tenantCalls 20)) ∧
    ¬ DomainHierarchy.WithinParents "system"
        (Stepwise.run DomainHierarchy.step (.new systemDomain) (tenantCalls 10 ++
          [.register { systemDomain with parentDomainId := some "tenant" }])) := by
  have allocated : (Stepwise.run DomainHierarchy.step (.new systemDomain)
      (tenantCalls 20)).domains.lookup "tenant" =
        some { tenantDomain 20 with allocated := { ramBytes := 20 } } := rfl
  refine ⟨allocated, ?_, ?_⟩
  · intro within
    have room := within.within "system" systemDomain rfl .ramBytes
    have under : Forests.Under (Stepwise.run DomainHierarchy.step (.new systemDomain)
        (tenantCalls 20)).parent "tenant" "system" := Relation.ReflTransGen.single rfl
    have member : "tenant" ∈ (Stepwise.run DomainHierarchy.step (.new systemDomain)
        (tenantCalls 20)).ids := by decide +kernel
    have heavy : DomainHierarchy.held (Stepwise.run DomainHierarchy.step (.new systemDomain)
        (tenantCalls 20)) .ramBytes "tenant" ≤ _ := Forests.le_load member under
    rw [DomainHierarchy.held_found allocated] at heavy
    exact absurd (le_trans (Nat.add_le_add_right heavy _) room) (by decide)
  · intro within
    have top := within.rooted.top
    cases top

end NousKernel
