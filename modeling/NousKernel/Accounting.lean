import NousKernel.Domains

/-!
The accounts of the domains: what is allocated and reserved in a domain is within its
capacity, so that no sum of `u64` saturates and every allocation is exact.
-/

set_option autoImplicit false

namespace NousKernel

theorem ResourceVector.fitsWithin_iff_get {self capacity : ResourceVector} :
    self.fitsWithin capacity = true ↔ ∀ dimension, self.get dimension ≤ capacity.get dimension := by
  simp only [fitsWithin, Bool.and_eq_true, decide_eq_true_eq]
  constructor
  · rintro fits dimension
    cases dimension <;> simp only [get] <;> omega
  · intro fits
    refine ⟨⟨⟨⟨⟨⟨⟨⟨⟨⟨⟨⟨?_, ?_⟩, ?_⟩, ?_⟩, ?_⟩, ?_⟩, ?_⟩, ?_⟩, ?_⟩, ?_⟩, ?_⟩, ?_⟩, ?_⟩
    · exact fits .cpuCoresMillis
    · exact fits .cpuTimeUs
    · exact fits .ramBytes
    · exact fits .pinnedRamBytes
    · exact fits .deviceMemoryBytes
    · exact fits .kvCacheBytes
    · exact fits .storageBytes
    · exact fits .memoryBandwidthBps
    · exact fits .interconnectBandwidthBps
    · exact fits .networkBandwidthBps
    · exact fits .powerMilliwatts
    · exact fits .thermalBudgetMillic
    · exact fits .timeBudgetUs

theorem ResourceVector.ext_get {first second : ResourceVector}
    (same : ∀ dimension, first.get dimension = second.get dimension) : first = second := by
  rw [ResourceVector.mk.injEq]
  exact ⟨same .cpuCoresMillis, same .cpuTimeUs, same .ramBytes, same .pinnedRamBytes,
    same .deviceMemoryBytes, same .kvCacheBytes, same .storageBytes, same .memoryBandwidthBps,
    same .interconnectBandwidthBps, same .networkBandwidthBps, same .powerMilliwatts,
    same .thermalBudgetMillic, same .timeBudgetUs⟩

theorem ResourceVector.get_add (first second : ResourceVector) (dimension : ResourceDimension) :
    (first + second).get dimension =
      saturatingAdd (first.get dimension) (second.get dimension) := by
  cases dimension <;> rfl

/-! ### One domain -/

/-- What is allocated and reserved is within the capacity, which is a vector of `u64`. -/
structure ResourceDomain.Accounted (domain : ResourceDomain) : Prop where
  within : ∀ dimension, domain.allocated.get dimension + domain.reserved.get dimension ≤
    domain.capacity.get dimension
  typed : ∀ dimension, domain.capacity.get dimension ≤ u64Max

namespace ResourceDomain

variable {domain : ResourceDomain} {request : ResourceVector}

theorem canFit_iff : domain.canFit request = true ↔ ∀ dimension, request.get dimension ≤
    domain.capacity.get dimension - domain.allocated.get dimension -
      domain.reserved.get dimension := by
  simp only [canFit, available, ResourceVector.fitsWithin_iff_get, ResourceVector.get_sub]

/-- An allocation that fits does not saturate. -/
theorem Accounted.exact (accounted : domain.Accounted) (fits : domain.canFit request = true)
    (dimension : ResourceDimension) : (domain.allocated + request).get dimension =
      domain.allocated.get dimension + request.get dimension := by
  have room := canFit_iff.mp fits dimension
  have within := accounted.within dimension
  have typed := accounted.typed dimension
  rw [ResourceVector.get_add, saturatingAdd]
  omega

theorem Accounted.allocate (accounted : domain.Accounted) (fits : domain.canFit request = true) :
    Accounted { domain with allocated := domain.allocated + request } := by
  refine ⟨?_, accounted.typed⟩
  intro dimension
  have room := canFit_iff.mp fits dimension
  have within := accounted.within dimension
  change (domain.allocated + request).get dimension + domain.reserved.get dimension ≤
    domain.capacity.get dimension
  rw [accounted.exact fits]
  omega

theorem Accounted.free (accounted : domain.Accounted) (freed : ResourceVector) :
    Accounted { domain with allocated := domain.allocated - freed } := by
  refine ⟨?_, accounted.typed⟩
  intro dimension
  have within := accounted.within dimension
  change (domain.allocated - freed).get dimension + domain.reserved.get dimension ≤
    domain.capacity.get dimension
  rw [ResourceVector.get_sub]
  omega

/-- What was allocated is exactly given back. -/
theorem Accounted.restore (accounted : domain.Accounted) (fits : domain.canFit request = true) :
    domain.allocated + request - request = domain.allocated := by
  apply ResourceVector.ext_get
  intro dimension
  rw [ResourceVector.get_sub, accounted.exact fits, Nat.add_sub_cancel]

end ResourceDomain

/-! ### The hierarchy -/

namespace DomainHierarchy

variable {hierarchy : DomainHierarchy} {domainId : String} {domain : ResourceDomain}
  {request : ResourceVector}

/-- Every domain keeps its accounts. -/
def Accounted (hierarchy : DomainHierarchy) : Prop :=
  ∀ domainId domain, hierarchy.domains.lookup domainId = some domain → domain.Accounted

theorem lookup_put (name : String) : (hierarchy.put domainId domain).domains.lookup name =
    if name = domainId then some domain else hierarchy.domains.lookup name := by
  split
  · rename_i same
    subst same
    exact AList.lookup_insert _
  · rename_i other
    exact AList.lookup_insert_ne other

theorem Accounted.put (accounted : hierarchy.Accounted) (kept : domain.Accounted) :
    (hierarchy.put domainId domain).Accounted := by
  intro name other found
  rw [lookup_put] at found
  split at found
  · cases found
    exact kept
  · exact accounted name other found

/-- What an allocation does: it fits and is added, or it changes nothing. -/
theorem allocate_cases (hierarchy : DomainHierarchy) (domainId : String) (request : ResourceVector) :
    (∃ domain, hierarchy.domains.lookup domainId = some domain ∧ domain.canFit request = true ∧
      hierarchy.allocate domainId request = (.ok (),
        hierarchy.put domainId { domain with allocated := domain.allocated + request })) ∨
    ∃ reason, hierarchy.allocate domainId request = (.error reason, hierarchy) := by
  unfold allocate
  cases found : hierarchy.domains.lookup domainId with
  | none => exact .inr ⟨_, rfl⟩
  | some domain =>
      by_cases fits : domain.canFit request = true
      · exact .inl ⟨domain, rfl, fits, by simp only [if_pos fits]⟩
      · exact .inr ⟨_, if_neg fits⟩

/-- What a release does: it is subtracted, or the domain is not known. -/
theorem free_cases (hierarchy : DomainHierarchy) (domainId : String) (freed : ResourceVector) :
    (∃ domain, hierarchy.domains.lookup domainId = some domain ∧
      hierarchy.free domainId freed = (.ok (),
        hierarchy.put domainId { domain with allocated := domain.allocated - freed })) ∨
    ∃ reason, hierarchy.free domainId freed = (.error reason, hierarchy) := by
  unfold DomainHierarchy.free
  cases found : hierarchy.domains.lookup domainId with
  | none => exact .inr ⟨_, rfl⟩
  | some domain => exact .inl ⟨domain, rfl, rfl⟩

theorem Accounted.step (accounted : hierarchy.Accounted) (call : DomainCall)
    (transfer : ∀ domain, call ≠ .register domain) : (hierarchy.step call).Accounted := by
  cases call with
  | register domain => exact absurd rfl (transfer domain)
  | allocate domainId request =>
      rcases allocate_cases hierarchy domainId request with
        ⟨domain, found, fits, done⟩ | ⟨_, refused⟩
      · rw [DomainHierarchy.step, done]
        exact accounted.put ((accounted domainId domain found).allocate fits)
      · rw [DomainHierarchy.step, refused]
        exact accounted
  | free domainId freed =>
      rcases free_cases hierarchy domainId freed with ⟨domain, found, done⟩ | ⟨_, refused⟩
      · rw [DomainHierarchy.step, done]
        exact accounted.put ((accounted domainId domain found).free freed)
      · rw [DomainHierarchy.step, refused]
        exact accounted

/-- The next call is exact: an allocation adds its request to its domain alone, a call that
fails changes nothing, and what was allocated can be given back. -/
structure Exact (hierarchy : DomainHierarchy) : Prop where
  grows : ∀ domainId request, (hierarchy.allocate domainId request).1 = .ok () →
    ∃ domain allocated, hierarchy.domains.lookup domainId = some domain ∧
      (hierarchy.allocate domainId request).2.domains.lookup domainId =
        some { domain with allocated := allocated } ∧
      ∀ dimension, allocated.get dimension =
        domain.allocated.get dimension + request.get dimension
  others : ∀ domainId request name, name ≠ domainId →
    (hierarchy.allocate domainId request).2.domains.lookup name = hierarchy.domains.lookup name
  refused : ∀ domainId request reason, (hierarchy.allocate domainId request).1 = .error reason →
    (hierarchy.allocate domainId request).2 = hierarchy
  unknown : ∀ domainId freed reason, (hierarchy.free domainId freed).1 = .error reason →
    (hierarchy.free domainId freed).2 = hierarchy
  restores : ∀ domainId request, (hierarchy.allocate domainId request).1 = .ok () →
    ((hierarchy.allocate domainId request).2.free domainId request).1 = .ok () ∧
      ∀ name, ((hierarchy.allocate domainId request).2.free domainId request).2.domains.lookup name =
        hierarchy.domains.lookup name

theorem Accounted.exact (accounted : hierarchy.Accounted) : hierarchy.Exact := by
  refine ⟨?_, ?_, ?_, ?_, ?_⟩
  · intro domainId request allocated
    rcases allocate_cases hierarchy domainId request with ⟨domain, found, fits, done⟩ | ⟨_, refused⟩
    · refine ⟨domain, domain.allocated + request, found, ?_, ?_⟩
      · rw [done, lookup_put, if_pos rfl]
      · exact (accounted domainId domain found).exact fits
    · rw [refused] at allocated
      cases allocated
  · intro domainId request name other
    rcases allocate_cases hierarchy domainId request with ⟨domain, _, _, done⟩ | ⟨_, refused⟩
    · rw [done, lookup_put, if_neg other]
    · rw [refused]
  · intro domainId request reason failed
    rcases allocate_cases hierarchy domainId request with ⟨domain, _, _, done⟩ | ⟨_, refused⟩
    · rw [done] at failed
      cases failed
    · rw [refused]
  · intro domainId freed reason failed
    rcases free_cases hierarchy domainId freed with ⟨domain, _, done⟩ | ⟨_, refused⟩
    · rw [done] at failed
      cases failed
    · rw [refused]
  · intro domainId request allocated
    rcases allocate_cases hierarchy domainId request with ⟨domain, found, fits, done⟩ | ⟨_, refused⟩
    · have held : (hierarchy.put domainId
          { domain with allocated := domain.allocated + request }).domains.lookup domainId =
            some { domain with allocated := domain.allocated + request } := by
        rw [lookup_put, if_pos rfl]
      rw [done]
      simp only [DomainHierarchy.free, held]
      refine ⟨trivial, ?_⟩
      intro name
      rw [lookup_put, (accounted domainId domain found).restore fits]
      split
      · rename_i same
        rw [same, found]
      · rename_i other
        rw [lookup_put, if_neg other]
    · rw [refused] at allocated
      cases allocated

end DomainHierarchy

/-- Domains that keep their accounts go on to do so, and every next call is exact. -/
theorem accounting_exact (hierarchy : DomainHierarchy) (calls : List DomainCall)
    (accounted : hierarchy.Accounted)
    (transfers : ∀ call ∈ calls, ∀ domain, call ≠ .register domain) :
    (Stepwise.run DomainHierarchy.step hierarchy calls).Accounted ∧
      (Stepwise.run DomainHierarchy.step hierarchy calls).Exact := by
  have reached : (Stepwise.run DomainHierarchy.step hierarchy calls).Accounted := by
    induction calls generalizing hierarchy with
    | nil => exact accounted
    | cons call rest ih =>
        exact ih _ (accounted.step call (transfers call List.mem_cons_self))
          fun other later => transfers other (List.mem_cons_of_mem _ later)
  exact ⟨reached, reached.exact⟩

theorem accounting_exact_system :
    (Stepwise.run DomainHierarchy.step (.new systemDomain)
      [.allocate "system" { ramBytes := 4 }, .free "system" { ramBytes := 1 }]).Accounted ∧
    (Stepwise.run DomainHierarchy.step (.new systemDomain)
      [.allocate "system" { ramBytes := 4 }, .free "system" { ramBytes := 1 }]).Exact := by
  refine accounting_exact (.new systemDomain) _ ?_ ?_
  · intro domainId domain found
    rw [system_lookup found]
    refine ⟨?_, ?_⟩
    · intro dimension
      cases dimension <;> decide
    · intro dimension
      cases dimension <;> decide
  · intro call listed domain
    simp only [List.mem_cons, List.not_mem_nil, or_false] at listed
    rcases listed with rfl | rfl
    · exact DomainCall.noConfusion
    · exact DomainCall.noConfusion

end NousKernel
