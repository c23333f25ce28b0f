import NousKernel.Contracts

/-!
Provider manifests (`nous-types/src/open_runtime.rs`) and the references of a request at
the runtime boundary (`nous-types/src/runtime_api.rs`). The check of a manifest covers
what the manifest declares; the boundary also bounds the name of the credential, wants an
authority in the endpoint and looks at every entrypoint.
-/

set_option autoImplicit false

namespace NousKernel

open Results

structure ProviderManifest where
  schemaVersion : Nat
  name : String
  version : String
  backend : String
  runtimeClass : String
  entrypoint : String
  model : String
  endpoint : String
  credentialEnv : String
  capabilities : List String
  lifecycle : List String
  metadata : TextMap String
  deriving DecidableEq

namespace ProviderManifest

def requiredLifecycle : List String :=
  ["probe", "metadata", "capabilities", "health", "execute", "cancel", "shutdown"]

def validate (self : ProviderManifest) : Except RuntimeContractError Unit := do
  let contract := "ProviderManifest"
  schema contract self.schemaVersion
  required contract "name" self.name
  required contract "version" self.version
  required contract "backend" self.backend
  check (self.capabilities.all capabilityName) contract "capabilities"
    "contains an invalid capability identifier"
  check (self.credentialEnv = "" || environmentName self.credentialEnv) contract "credential_env"
    "must be an environment-variable name, not a secret"
  check (self.endpoint = "" || !('@' ∈ self.endpoint.toList || '?' ∈ self.endpoint.toList ||
      '#' ∈ self.endpoint.toList)) contract "endpoint"
    "must not contain credentials, query parameters, or fragments"
  if self.backend = "external-process" then
    required contract "entrypoint" self.entrypoint
    portableReference contract "entrypoint" self.entrypoint
    check (requiredLifecycle.all (· ∈ self.lifecycle)) contract "lifecycle"
      "external providers must declare the complete Provider SDK v1 lifecycle"

end ProviderManifest

/-! ### The references of a request -/

/-- What a request says of its provider. -/
structure References where
  credentialEnv : String
  endpoint : String
  entrypoint : String
  deriving DecidableEq

def ProviderManifest.references (self : ProviderManifest) : References :=
  ⟨self.credentialEnv, self.endpoint, self.entrypoint⟩

def OperationRequest.references (request : OperationRequest) : References :=
  ⟨request.credentialEnv, request.endpoint, request.providerEntrypoint⟩

def ProviderProbeRequest.references (request : ProviderProbeRequest) : References :=
  ⟨request.credentialEnv, request.endpoint, request.providerEntrypoint⟩

/-- An endpoint with something between its first "://" and the next '/'. -/
def Located (endpoint : String) : Prop :=
  ∃ scheme c rest, endpoint.toList = scheme ++ "://".toList ++ c :: rest ∧ c ≠ '/' ∧
    ∀ other more, endpoint.toList = other ++ "://".toList ++ more → scheme.length ≤ other.length

/-- What the boundary wants beyond the check of a manifest. -/
structure References.Usable (self : References) : Prop where
  credential : byteLength self.credentialEnv ≤ 128
  endpoint : self.endpoint = "" ∨ Located self.endpoint
  parentless : ['.', '.'] ∉ segments self.entrypoint.toList
  terminated : '\x00' ∉ self.entrypoint.toList

section Boundary

/-- The text is split at the first separator. -/
theorem splitOnce_iff {separator text front back : List Char} :
    splitOnce separator text = some (front, back) ↔
      text = front ++ separator ++ back ∧
        ∀ other rest, text = other ++ separator ++ rest → front.length ≤ other.length := by
  induction text generalizing front with
  | nil =>
      rw [splitOnce, eq_comm (a := []), List.append_eq_nil_iff, List.append_eq_nil_iff]
      constructor
      · intro cut
        split at cut
        · rename_i empty
          cases cut
          exact ⟨⟨⟨rfl, empty⟩, rfl⟩, fun _ _ _ => Nat.zero_le _⟩
        · cases cut
      · rintro ⟨⟨⟨rfl, empty⟩, rfl⟩, -⟩
        rw [if_pos empty]
  | cons c text ih =>
      rw [splitOnce]
      by_cases here : separator <+: c :: text
      · obtain ⟨after, joined⟩ := here
        rw [if_pos ⟨after, joined⟩, ← joined, List.drop_left, Option.some.injEq, Prod.mk.injEq]
        constructor
        · rintro ⟨rfl, rfl⟩
          exact ⟨rfl, fun _ _ _ => Nat.zero_le _⟩
        · rintro ⟨cut, first⟩
          have none : front = [] := List.length_eq_zero_iff.mp (Nat.le_zero.mp (first [] after rfl))
          subst none
          exact ⟨rfl, List.append_cancel_left cut⟩
      · rw [if_neg here, Option.map_eq_some_iff]
        constructor
        · rintro ⟨⟨front, back⟩, cut, same⟩
          cases same
          obtain ⟨rfl, first⟩ := ih.mp cut
          refine ⟨rfl, fun other rest split => ?_⟩
          cases other with
          | nil => exact absurd ⟨rest, split.symm⟩ here
          | cons d other =>
              exact Nat.succ_le_succ (first other rest (List.cons.inj split).2)
        · rintro ⟨cut, first⟩
          cases front with
          | nil => exact absurd ⟨back, cut.symm⟩ here
          | cons d front =>
              obtain ⟨rfl, tail⟩ := List.cons.inj cut
              refine ⟨(front, back), ih.mpr ⟨tail, fun other rest split => ?_⟩, rfl⟩
              exact Nat.le_of_succ_le_succ (first (c :: other) rest (congrArg (c :: ·) split))

/-- The authority of an endpoint. -/
def authority (endpoint : String) : List Char :=
  match splitOnce "://".toList endpoint.toList with
  | some (_, value) => value.takeWhile (· ≠ '/')
  | none => []

theorem authority_ne_nil_iff {endpoint : String} : authority endpoint ≠ [] ↔ Located endpoint := by
  unfold authority
  constructor
  · intro some
    cases cut : splitOnce "://".toList endpoint.toList with
    | none =>
        rw [cut] at some
        exact absurd rfl some
    | some parts =>
        obtain ⟨scheme, value⟩ := parts
        obtain ⟨split, first⟩ := splitOnce_iff.mp cut
        rw [cut] at some
        cases value with
        | nil => exact absurd rfl some
        | cons c rest =>
            refine ⟨scheme, c, rest, split, ?_, first⟩
            rintro rfl
            exact absurd rfl some
  · rintro ⟨scheme, c, rest, split, inside, first⟩
    rw [splitOnce_iff.mpr ⟨split, first⟩]
    simp [inside]

theorem mem_of_mem_authority {endpoint : String} {c : Char} (member : c ∈ authority endpoint) :
    c ∈ endpoint.toList := by
  unfold authority at member
  cases cut : splitOnce "://".toList endpoint.toList with
  | none =>
      rw [cut] at member
      exact absurd member List.not_mem_nil
  | some parts =>
      obtain ⟨scheme, value⟩ := parts
      rw [cut] at member
      rw [(splitOnce_iff.mp cut).1]
      exact List.mem_append_right _ ((List.takeWhile_sublist _).subset member)

theorem credential_ok {name : String} (capitals : name = "" ∨ environmentName name = true) :
    validateCredentialReference name = .ok () ↔ byteLength name ≤ 128 := by
  rcases capitals with rfl | capitals
  · exact iff_of_true rfl (by decide)
  · have letters : ∀ c, isAsciiUppercase c = true → isAsciiAlphabetic c = true := by
      intro c upper
      rw [isAsciiAlphabetic, ← isAsciiUppercase, upper, Bool.or_true]
    simp only [environmentName, Bool.and_eq_true, List.all_eq_true, Bool.or_eq_true,
      decide_eq_true_eq] at capitals
    obtain ⟨⟨-, all⟩, start⟩ := capitals
    unfold validateCredentialReference
    cases text : name.toList with
    | nil =>
        rw [text] at start
        cases start
    | cons first characters =>
        rw [text] at all start
        have begins : (first == '_' || isAsciiAlphabetic first) = true := by
          have head : first = '_' ∨ isAsciiUppercase first = true := by simpa using start
          rcases head with mark | upper
          · simp [mark]
          · simp [letters first upper]
        have goes : characters.all (fun c => c == '_' || isAsciiAlphanumeric c) = true := by
          rw [List.all_eq_true]
          intro c member
          rcases all c (.tail _ member) with (mark | upper) | digit
          · simp [mark]
          · simp [isAsciiAlphanumeric, letters c upper]
          · simp [isAsciiAlphanumeric, digit]
        simp [begins, goes]

theorem endpoint_ok {endpoint : String}
    (plain : endpoint = "" ∨ '@' ∉ endpoint.toList ∧ '?' ∉ endpoint.toList ∧ '#' ∉ endpoint.toList) :
    validateEndpointReference endpoint = .ok () ↔ endpoint = "" ∨ Located endpoint := by
  rcases plain with rfl | ⟨user, query, fragment⟩
  · exact iff_of_true rfl (Or.inl rfl)
  · have outside : '@' ∉ authority endpoint := fun member => user (mem_of_mem_authority member)
    rw [← authority_ne_nil_iff, ← String.toList_eq_nil_iff]
    unfold validateEndpointReference
    by_cases empty : endpoint.toList = []
    · simp [empty]
    · rw [if_neg empty, if_neg (by simp [query, fragment])]
      change (if authority endpoint = [] ∨ '@' ∈ authority endpoint then _ else _) = _ ↔ _
      by_cases none : authority endpoint = []
      · simp [none, empty]
      · simp [none, outside]

theorem entrypoint_ok {entrypoint : String} :
    validateProviderEntrypoint entrypoint = .ok () ↔
      ['.', '.'] ∉ segments entrypoint.toList ∧ '\x00' ∉ entrypoint.toList := by
  unfold validateProviderEntrypoint
  by_cases empty : entrypoint.toList = []
  · simp [empty, segments]
  · rw [if_neg empty]
    by_cases parent : ['.', '.'] ∈ segments entrypoint.toList
    · simp [parent]
    · by_cases null : '\x00' ∈ entrypoint.toList
      · simp [parent, null]
      · simp [parent, null]

theorem ProviderManifest.validate_references {manifest : ProviderManifest}
    (valid : manifest.validate = .ok ()) :
    (manifest.credentialEnv = "" ∨ environmentName manifest.credentialEnv = true) ∧
      (manifest.endpoint = "" ∨ '@' ∉ manifest.endpoint.toList ∧ '?' ∉ manifest.endpoint.toList ∧
        '#' ∉ manifest.endpoint.toList) := by
  simp only [validate, after_ok, check_ok, Bool.or_eq_true, decide_eq_true_eq, Bool.not_eq_true',
    Bool.or_eq_false_iff, decide_eq_false_iff_not, and_assoc] at valid
  obtain ⟨-, -, -, -, -, credential, endpoint, -⟩ := valid
  exact ⟨credential, endpoint⟩

theorem references_ok {manifest : ProviderManifest} (valid : manifest.validate = .ok ()) :
    validateReferences manifest.credentialEnv manifest.endpoint manifest.entrypoint = .ok () ↔
      manifest.references.Usable := by
  obtain ⟨credential, endpoint⟩ := manifest.validate_references valid
  rw [validateReferences, checks_ok, checks_ok, credential_ok credential, endpoint_ok endpoint,
    entrypoint_ok]
  constructor
  · rintro ⟨short, located, parentless, terminated⟩
    exact ⟨short, located, parentless, terminated⟩
  · rintro ⟨short, located, parentless, terminated⟩
    exact ⟨short, located, parentless, terminated⟩

end Boundary

/-- The references of an accepted manifest pass at the boundary, in every probe and every
operation that carries them, exactly when they meet what the boundary wants beyond the check. -/
theorem provider_usable_iff (manifest : ProviderManifest) (valid : manifest.validate = .ok ()) :
    (∀ probe : ProviderProbeRequest, probe.references = manifest.references →
      (probe.validateSensitiveReferences = .ok () ↔ manifest.references.Usable)) ∧
      ∀ request : OperationRequest, request.references = manifest.references →
        (request.validateSensitiveReferences = .ok () ↔ manifest.references.Usable) := by
  have same := references_ok valid
  constructor
  · intro probe carried
    simp only [ProviderProbeRequest.references, ProviderManifest.references,
      References.mk.injEq] at carried
    rw [ProviderProbeRequest.validateSensitiveReferences, carried.1, carried.2.1, carried.2.2, same]
  · intro request carried
    simp only [OperationRequest.references, ProviderManifest.references,
      References.mk.injEq] at carried
    rw [OperationRequest.validateSensitiveReferences, carried.1, carried.2.1, carried.2.2, same]

/-- A manifest of a local server, with the address of its endpoint. -/
def serverManifest (endpoint : String) : ProviderManifest where
  schemaVersion := 1
  name := "server"
  version := "1.0.0"
  backend := "ollama"
  runtimeClass := "local"
  entrypoint := ""
  model := "model"
  endpoint := endpoint
  credentialEnv := ""
  capabilities := ["model.generate"]
  lifecycle := []
  metadata := ∅

def serverProbe (endpoint : String) : ProviderProbeRequest :=
  ⟨"server", "ollama", .local, "model", endpoint, "", "", 1⟩

theorem provider_usable_url :
    (serverProbe "http://localhost:11434").validateSensitiveReferences = .ok () ↔
      (serverManifest "http://localhost:11434").references.Usable :=
  (provider_usable_iff (serverManifest "http://localhost:11434") (by decide +kernel)).1
    (serverProbe "http://localhost:11434") rfl

theorem bare_address_refused :
    (serverManifest "localhost:11434").validate = .ok () ∧
      (serverProbe "localhost:11434").references = (serverManifest "localhost:11434").references ∧
      (serverProbe "localhost:11434").validateSensitiveReferences ≠ .ok () := by
  decide +kernel

end NousKernel
