import NousKernel.Security

/-!
Default-deny over the calls that built an engine. The grants an engine holds for a
principal are those that the calls granted to it, in their order; acceptance shows that
reads, writes, destinations and side effects have an unexpired one, and says nothing of
devices and credentials.
-/

set_option autoImplicit false

namespace NousKernel

inductive EngineCall where
  | registerPrincipal (principal : Principal)
  | grant (grant : CapabilityGrant)
  deriving DecidableEq

namespace SecurityEngine

def step (engine : SecurityEngine) : EngineCall → SecurityEngine
  | .registerPrincipal principal => engine.registerPrincipal principal
  | .grant given => engine.grant given

end SecurityEngine

/-- The grants that name the principal, in the order of the calls. -/
def grantedTo (principalId : String) : List EngineCall → List CapabilityGrant
  | [] => []
  | .registerPrincipal _ :: calls => grantedTo principalId calls
  | .grant given :: calls =>
      if given.principalId = principalId then given :: grantedTo principalId calls
      else grantedTo principalId calls

/-- The grants of a principal that the clock has not passed at the reading for each. -/
def Unexpired (clock : Nat → Int) (principalId : String) (calls : List EngineCall)
    (g : CapabilityGrant) : Prop :=
  ∃ reading, (grantedTo principalId calls)[reading]? = some g ∧
    ∀ expires, g.expiresAt = some expires → clock reading < expires

theorem CapabilityGrant.isValid_iff {self : CapabilityGrant} {now : Int} :
    self.isValid now = true ↔ ∀ expires, self.expiresAt = some expires → now < expires := by
  cases dated : self.expiresAt <;> simp [isValid, dated]

section Runs

variable (clock : Nat → Int) (principalId : String) (calls : List EngineCall)

theorem SecurityEngine.grants_step (engine : SecurityEngine) (call : EngineCall) :
    (engine.step call).grants.getD principalId [] =
      engine.grants.getD principalId [] ++ grantedTo principalId [call] := by
  cases call with
  | registerPrincipal principal => simp [step, registerPrincipal, grantedTo]
  | grant given =>
      by_cases same : given.principalId = principalId
      · simp [step, grant, grantedTo, same]
      · simp [step, grant, grantedTo, same, Std.ExtTreeMap.getD_insert]

theorem grantedTo_cons (call : EngineCall) :
    grantedTo principalId (call :: calls) =
      grantedTo principalId [call] ++ grantedTo principalId calls := by
  cases call with
  | registerPrincipal principal => rfl
  | grant given => by_cases same : given.principalId = principalId <;> simp [grantedTo, same]

/-- What the engine holds for a principal is what the calls granted to it. -/
theorem SecurityEngine.grants_run (engine : SecurityEngine) :
    (Stepwise.run SecurityEngine.step engine calls).grants.getD principalId [] =
      engine.grants.getD principalId [] ++ grantedTo principalId calls := by
  induction calls generalizing engine with
  | nil => simp [grantedTo]
  | cons call calls ih =>
      rw [Stepwise.run_cons, ih, SecurityEngine.grants_step, grantedTo_cons principalId calls call,
        List.append_assoc]

theorem mem_getGrants {engine : SecurityEngine} {g : CapabilityGrant}
    (built : engine = Stepwise.run SecurityEngine.step .new calls) :
    g ∈ engine.getGrants clock principalId ↔ Unexpired clock principalId calls g := by
  have held := SecurityEngine.grants_run principalId calls .new
  rw [SecurityEngine.new, Std.ExtTreeMap.getD_empty, List.nil_append] at held
  rw [built, SecurityEngine.getGrants, SecurityEngine.new, held, Unexpired]
  simp only [List.mem_map, List.mem_filter, List.mem_zipIdx_iff_getElem?, Prod.exists,
    CapabilityGrant.isValid_iff]
  constructor
  · rintro ⟨given, reading, ⟨found, valid⟩, rfl⟩
    exact ⟨reading, found, valid⟩
  · rintro ⟨reading, found, valid⟩
    exact ⟨g, reading, ⟨found, valid⟩, rfl⟩

end Runs

section Covering

variable (held : CapabilityGrant → Prop) (device credential : String) (manifest : CapabilityManifest)

def PathCovered (capability path : String) : Prop :=
  ∃ g, held g ∧ g.capability = capability ∧ ∃ p ∈ g.paths, startsWith path p = true

def HostCovered (host : String) : Prop :=
  ∃ g, held g ∧ g.capability = "network" ∧
    ∃ h ∈ g.hosts, containsText host h = true ∨ containsText h host = true

def CategoryCovered (capability : String) (entries : List String) : Prop :=
  ∀ _entry ∈ entries, ∃ g, held g ∧ g.capability = capability

/-- Every entry has a held grant of its category, `device` and `credential` being the
names of theirs. -/
structure CapabilityManifest.Covered : Prop where
  reads : ∀ path ∈ manifest.reads, PathCovered held "read" path
  writes : ∀ path ∈ manifest.writes, PathCovered held "write" path
  devices : CategoryCovered held device manifest.devices
  hosts : ∀ host ∈ manifest.networkDestinations, HostCovered held host
  credentials : CategoryCovered held credential manifest.credentials
  effects : CategoryCovered held "side_effect" manifest.sideEffects

/-- The categories that the manifest's tests look at. -/
structure CapabilityManifest.Tested : Prop where
  reads : ∀ path ∈ manifest.reads, PathCovered held "read" path
  writes : ∀ path ∈ manifest.writes, PathCovered held "write" path
  hosts : ∀ host ∈ manifest.networkDestinations, HostCovered held host
  effects : CategoryCovered held "side_effect" manifest.sideEffects

theorem categoryCovered_iff (capability : String) (entries : List String) :
    CategoryCovered held capability entries ↔
      (entries ≠ [] → ∃ g, held g ∧ g.capability = capability) := by
  constructor
  · intro covered some
    obtain ⟨entry, member⟩ := List.exists_mem_of_ne_nil _ some
    exact covered entry member
  · intro covered entry member
    exact covered (List.ne_nil_of_mem member)

theorem CapabilityManifest.passes_iff {grants : List CapabilityGrant}
    (listed : ∀ g, g ∈ grants ↔ held g) : manifest.Passes grants ↔ manifest.Tested held := by
  constructor
  · intro passes
    refine ⟨fun path member => ?_, fun path member => ?_, fun host member => ?_, ?_⟩
    · simpa only [PathCovered, pathGranted_iff, listed] using passes.reads path member
    · simpa only [PathCovered, pathGranted_iff, listed] using passes.writes path member
    · simpa only [HostCovered, hostGranted_iff, listed] using passes.hosts host member
    · rw [categoryCovered_iff]
      simpa only [effectsGranted_iff, listed] using passes.effects
  · intro tested
    have effects := tested.effects
    rw [categoryCovered_iff] at effects
    refine ⟨fun path member => ?_, fun path member => ?_, fun host member => ?_, ?_⟩
    · simpa only [PathCovered, pathGranted_iff, listed] using tested.reads path member
    · simpa only [PathCovered, pathGranted_iff, listed] using tested.writes path member
    · simpa only [HostCovered, hostGranted_iff, listed] using tested.hosts host member
    · simpa only [effectsGranted_iff, listed] using effects

theorem CapabilityManifest.covered_iff :
    manifest.Covered held device credential ↔
      manifest.Tested held ∧ CategoryCovered held device manifest.devices ∧
        CategoryCovered held credential manifest.credentials := by
  constructor
  · intro covered
    exact ⟨⟨covered.reads, covered.writes, covered.hosts, covered.effects⟩, covered.devices,
      covered.credentials⟩
  · rintro ⟨tested, devices, credentials⟩
    exact ⟨tested.reads, tested.writes, devices, tested.hosts, credentials, tested.effects⟩

end Covering

section Gate

variable (clock : Nat → Int) (principalId : String) (calls : List EngineCall)
  (manifest : CapabilityManifest) (hasLease : Bool) (deadlineUs : Int)
  (hasCancellationPolicy : Bool) (isolationProfile : String)

theorem capabilityGranted_iff :
    ((Stepwise.run SecurityEngine.step .new calls).evaluate clock principalId manifest hasLease
        deadlineUs hasCancellationPolicy isolationProfile).capabilityGranted = true ↔
      manifest.Tested (Unexpired clock principalId calls) := by
  rw [← CapabilityManifest.passes_iff _ manifest fun g => mem_getGrants clock principalId calls rfl,
    ← CapabilityManifest.validate_ok, SecurityEngine.evaluate]
  generalize manifest.validate _ = verdict
  cases verdict with
  | error issues => simp [Except.isOk, Except.toBool]
  | ok done => simp [Except.isOk, Except.toBool]

/-- Whatever the categories of devices and credentials are called, a granted capability
covers the manifest exactly when its tests fail or each of the two has its grant. -/
theorem default_deny_iff (device credential : String) :
    (((Stepwise.run SecurityEngine.step .new calls).evaluate clock principalId manifest hasLease
        deadlineUs hasCancellationPolicy isolationProfile).capabilityGranted = true →
      manifest.Covered (Unexpired clock principalId calls) device credential) ↔
      ¬manifest.Tested (Unexpired clock principalId calls) ∨
        ((manifest.devices ≠ [] →
            ∃ g, Unexpired clock principalId calls g ∧ g.capability = device) ∧
          (manifest.credentials ≠ [] →
            ∃ g, Unexpired clock principalId calls g ∧ g.capability = credential)) := by
  rw [capabilityGranted_iff, CapabilityManifest.covered_iff, ← categoryCovered_iff,
    ← categoryCovered_iff, imp_and, and_iff_right (fun tested => tested)]
  exact imp_iff_not_or

end Gate

theorem device_granted_to_nobody :
    ¬∀ (device credential : String) (clock : Nat → Int) (principalId : String)
        (calls : List EngineCall) (manifest : CapabilityManifest) (hasLease : Bool) (deadlineUs : Int)
        (hasCancellationPolicy : Bool) (isolationProfile : String),
      ((Stepwise.run SecurityEngine.step .new calls).evaluate clock principalId manifest hasLease
          deadlineUs hasCancellationPolicy isolationProfile).capabilityGranted = true →
        manifest.Covered (Unexpired clock principalId calls) device credential := by
  intro denied
  have covered := denied "device" "credential" (fun _ => 0) "user" [.registerPrincipal ⟨"user"⟩]
    { devices := ["gpu0"] } true 0 true "sandbox"
    (by
      rw [capabilityGranted_iff]
      exact ⟨nofun, nofun, nofun, nofun⟩)
  obtain ⟨g, ⟨reading, found, valid⟩, named⟩ := covered.devices "gpu0" (List.mem_singleton.mpr rfl)
  simp [grantedTo] at found

end NousKernel
