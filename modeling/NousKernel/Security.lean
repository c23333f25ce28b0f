import NousKernel.OpenRuntime
import NousKernel.Stepwise

/-!
The security kernel (`nous-security/src/lib.rs`): a capability manifest checked against
grants, the engine that keeps principals and grants, and the gate it fills in. The
engine reads the clock once for every grant it looks at and once for the deadline:
the readings are a sequence.
-/

set_option autoImplicit false

namespace NousKernel

/-- `CapabilityGrant`, with the members that the checks read. -/
structure CapabilityGrant where
  principalId : String
  capability : String
  paths : List String := []
  hosts : List String := []
  expiresAt : Option Int := none
  deriving DecidableEq

def CapabilityGrant.isValid (self : CapabilityGrant) (now : Int) : Bool :=
  match self.expiresAt with
  | some expires => now < expires
  | none => true

structure CapabilityManifest where
  reads : List String := []
  writes : List String := []
  devices : List String := []
  networkDestinations : List String := []
  credentials : List String := []
  sideEffects : List String := []
  requiresApproval : Bool := false
  deriving DecidableEq

/-- `str::starts_with`. -/
def startsWith (text start : String) : Bool := start.toList <+: text.toList

namespace CapabilityManifest

/-- The test of a read or a write: some grant of the capability has a path that starts it. -/
def pathGranted (capability : String) (grants : List CapabilityGrant) (path : String) : Bool :=
  grants.any fun g => g.capability == capability && g.paths.any fun p => startsWith path p

/-- The test of a network destination: it contains a granted host or is part of one. -/
def hostGranted (grants : List CapabilityGrant) (host : String) : Bool :=
  grants.any fun g => g.capability == "network" &&
    g.hosts.any fun h => containsText host h || containsText h host

/-- Whether the side effects, if there are any, have their grant. -/
def effectsGranted (self : CapabilityManifest) (grants : List CapabilityGrant) : Bool :=
  self.sideEffects.isEmpty || grants.any fun g => g.capability == "side_effect"

/-- One issue for each entry that no grant allows. -/
def denials (granted : String → Bool) (text : String) (entries : List String) : List String :=
  (entries.filter fun entry => !granted entry).map (text ++ ·)

def issues (self : CapabilityManifest) (grants : List CapabilityGrant) : List String :=
  denials (pathGranted "read" grants) "Read access not granted for: " self.reads ++
    denials (pathGranted "write" grants) "Write access not granted for: " self.writes ++
    denials (hostGranted grants) "Network access not granted for: " self.networkDestinations ++
    if self.effectsGranted grants then [] else ["Side effects not explicitly granted"]

def validate (self : CapabilityManifest) (grants : List CapabilityGrant) :
    Except (List String) Unit :=
  if (self.issues grants).isEmpty then .ok () else .error (self.issues grants)

theorem denials_nil {granted : String → Bool} {text : String} {entries : List String} :
    denials granted text entries = [] ↔ ∀ entry ∈ entries, granted entry = true := by
  simp [denials, List.filter_eq_nil_iff]

/-- The string tests that stand for access. -/
structure Passes (manifest : CapabilityManifest) (grants : List CapabilityGrant) : Prop where
  reads : ∀ path ∈ manifest.reads, pathGranted "read" grants path = true
  writes : ∀ path ∈ manifest.writes, pathGranted "write" grants path = true
  hosts : ∀ host ∈ manifest.networkDestinations, hostGranted grants host = true
  effects : manifest.effectsGranted grants = true

theorem validate_ok {self : CapabilityManifest} {grants : List CapabilityGrant} :
    self.validate grants = .ok () ↔ self.Passes grants := by
  have accepted : self.validate grants = .ok () ↔ self.issues grants = [] := by
    unfold validate
    cases self.issues grants <;> simp
  rw [accepted, issues, List.append_eq_nil_iff, List.append_eq_nil_iff, List.append_eq_nil_iff,
    denials_nil, denials_nil, denials_nil]
  constructor
  · rintro ⟨⟨⟨reads, writes⟩, hosts⟩, effects⟩
    refine ⟨reads, writes, hosts, ?_⟩
    by_contra ungranted
    rw [if_neg ungranted] at effects
    cases effects
  · intro passes
    exact ⟨⟨⟨passes.reads, passes.writes⟩, passes.hosts⟩, if_pos passes.effects⟩

theorem pathGranted_iff {capability : String} {grants : List CapabilityGrant} {path : String} :
    pathGranted capability grants path = true ↔
      ∃ g ∈ grants, g.capability = capability ∧ ∃ p ∈ g.paths, startsWith path p = true := by
  simp [pathGranted]

theorem hostGranted_iff {grants : List CapabilityGrant} {host : String} :
    hostGranted grants host = true ↔
      ∃ g ∈ grants, g.capability = "network" ∧
        ∃ h ∈ g.hosts, containsText host h = true ∨ containsText h host = true := by
  simp [hostGranted]

theorem effectsGranted_iff {self : CapabilityManifest} {grants : List CapabilityGrant} :
    self.effectsGranted grants = true ↔
      (self.sideEffects ≠ [] → ∃ g ∈ grants, g.capability = "side_effect") := by
  cases listed : self.sideEffects <;> simp [effectsGranted, listed]

end CapabilityManifest

/-- The nine conditions, all closed in a new gate. -/
structure ExecutionGate where
  principalAuthenticated : Bool := false
  capabilityGranted : Bool := false
  workloadValidated : Bool := false
  leaseActive : Bool := false
  deadlineValid : Bool := false
  cancellationPolicySet : Bool := false
  governanceApproved : Bool := false
  isolationConfigured : Bool := false
  auditIdSet : Bool := false
  failureReasons : List String := []
  deriving DecidableEq

namespace ExecutionGate

def isOpen (self : ExecutionGate) : Bool :=
  self.principalAuthenticated && self.capabilityGranted && self.workloadValidated &&
    self.leaseActive && self.deadlineValid && self.cancellationPolicySet &&
    self.governanceApproved && self.isolationConfigured && self.auditIdSet

def isOpenFor (self : ExecutionGate) (hasSideEffects : Bool) : Bool :=
  if hasSideEffects then self.isOpen
  else self.principalAuthenticated && self.workloadValidated && self.leaseActive

end ExecutionGate

/-- `Principal`, with the name that `KernelObject::uid` reads. -/
structure Principal where
  uid : String
  deriving DecidableEq

/-- The principals by uid, and the grants under the principal that each names. -/
structure SecurityEngine where
  principals : TextMap Principal
  grants : TextMap (List CapabilityGrant)

namespace SecurityEngine

def new : SecurityEngine := ⟨∅, ∅⟩

def registerPrincipal (self : SecurityEngine) (principal : Principal) : SecurityEngine :=
  { self with principals := self.principals.insert principal.uid principal }

def grant (self : SecurityEngine) (grant : CapabilityGrant) : SecurityEngine :=
  { self with
    grants := self.grants.insert grant.principalId
      (self.grants.getD grant.principalId [] ++ [grant]) }

def checkCapability (self : SecurityEngine) (clock : Nat → Int)
    (principalId capability : String) : Bool :=
  (self.grants.getD principalId []).zipIdx.any fun (g, reading) =>
    g.capability == capability && g.isValid (clock reading)

/-- The grants of a principal that have not expired when the engine looks at each. -/
def getGrants (self : SecurityEngine) (clock : Nat → Int) (principalId : String) :
    List CapabilityGrant :=
  ((self.grants.getD principalId []).zipIdx.filter fun (g, reading) =>
    g.isValid (clock reading)).map (·.1)

def evaluate (self : SecurityEngine) (clock : Nat → Int) (principalId : String)
    (manifest : CapabilityManifest) (hasLease : Bool) (deadlineUs : Int)
    (hasCancellationPolicy : Bool) (isolationProfile : String) : ExecutionGate :=
  let now := clock (self.grants.getD principalId []).length
  let gate : ExecutionGate := {
    principalAuthenticated := self.principals.contains principalId
    capabilityGranted := (manifest.validate (self.getGrants clock principalId)).isOk
    -- The caller sets this one after it has validated the specification.
    workloadValidated := false
    leaseActive := hasLease
    deadlineValid := deadlineUs == 0 || deadlineUs > now
    cancellationPolicySet := hasCancellationPolicy
    governanceApproved := !manifest.requiresApproval
    isolationConfigured := isolationProfile != ""
    auditIdSet := true }
  { gate with
    failureReasons :=
      (if gate.principalAuthenticated then [] else ["Principal not authenticated"]) ++
      (if gate.capabilityGranted then [] else ["Capability not granted"]) ++
      (if gate.leaseActive then [] else ["No active resource lease"]) ++
      (if gate.deadlineValid then [] else ["Deadline has passed"]) ++
      (if gate.isolationConfigured then [] else ["No isolation profile configured"]) }

end SecurityEngine

end NousKernel
