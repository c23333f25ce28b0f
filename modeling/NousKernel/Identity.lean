import NousKernel.Commitment
import NousKernel.Containment
import NousKernel.Storage

/-!
The identity of a command-line execution (`tools/nous/src/main.rs`): the operation id is
the digest of three members of the provider manifest and the input joined by line feeds.
The kernel answers a committed id from its journal, whichever provider committed it.
-/

set_option autoImplicit false

namespace NousKernel

/-- `LegacyProviderManifest`. -/
structure LegacyProviderManifest where
  schemaVersion : Nat
  name : String
  backend : String
  runtimeClass : ProviderRuntimeClass
  model : String
  endpoint : String
  credentialEnv : String
  entrypoint : String
  deriving DecidableEq

def valueOrNone (value : String) : String := if value = "" then "none" else value

namespace LegacyProviderManifest

/-- The text that `execute` hashes. -/
def identity (manifest : LegacyProviderManifest) (input : String) : String :=
  manifest.backend ++ "\n" ++ manifest.model ++ "\n" ++ input

/-- The request that `execute` submits. -/
def execute (manifest : LegacyProviderManifest) (input : String) : OperationRequest :=
  let digest := hexDigest (asBytes (manifest.identity input))
  { operationId := "op-" ++ digest
    workloadId := "workload-" ++ digest
    stepId := "step-1"
    backend := manifest.backend
    executionDomain := manifest.runtimeClass
    model := manifest.model
    endpoint := manifest.endpoint
    credentialEnv := manifest.credentialEnv
    providerEntrypoint := manifest.entrypoint
    input := input
    delivery := .idempotent
    snapshot :=
      { modelRevision := valueOrNone manifest.model
        providerRevision := manifest.backend ++ "-v1"
        promptRevision := "prompt-v1"
        toolRevision := "none"
        knowledgeRevision := "none"
        policyRevision := "deterministic-v1"
        capabilityRevision := manifest.backend ++ "-v1"
        contextRevision := "context-v1" }
    timeoutMs := 30000 }

/-- Two calls of `execute` that go to different providers or send different inputs. -/
def Differs (first second : LegacyProviderManifest) (input other : String) : Prop :=
  first.backend ≠ second.backend ∨ first.model ≠ second.model ∨ first.endpoint ≠ second.endpoint ∨
    first.entrypoint ≠ second.entrypoint ∨ first.credentialEnv ≠ second.credentialEnv ∨ input ≠ other

/-- The lines of the backend, then those of the model, then those of the input. -/
def identityLines (manifest : LegacyProviderManifest) (input : String) : List (List Char) :=
  manifest.backend.toList.splitOn '\n' ++ manifest.model.toList.splitOn '\n' ++
    input.toList.splitOn '\n'

/-- Two different texts with one SHA-256 digest. -/
def Collides (first second : String) : Prop :=
  first ≠ second ∧ Sha256.digest (asBytes first) = Sha256.digest (asBytes second)

end LegacyProviderManifest

/-! ### Digests as text -/

theorem digitChar_inj {first second : Nat} (low : first < 16) (low' : second < 16)
    (same : Nat.digitChar first = Nat.digitChar second) : first = second := by
  have table : ∀ m < 16, ∀ n < 16, Nat.digitChar m = Nat.digitChar n → m = n := by decide
  exact table first low second low' same

theorem hexByte_inj {first second : UInt8} (same : hexByte first = hexByte second) :
    first = second := by
  have bound := first.toNat_lt
  have bound' := second.toNat_lt
  simp only [hexByte, List.cons.injEq, and_true] at same
  have high := digitChar_inj (by omega) (by omega) same.1
  have low := digitChar_inj (by omega) (by omega) same.2
  have equal : first.toNat = second.toNat := by omega
  exact UInt8.toNat_inj.mp equal

theorem hexBytes_inj {first second : List UInt8}
    (same : first.flatMap hexByte = second.flatMap hexByte) : first = second := by
  induction first generalizing second with
  | nil =>
      cases second with
      | nil => rfl
      | cons byte rest => simp [hexByte] at same
  | cons byte rest ih =>
      cases second with
      | nil => simp [hexByte] at same
      | cons other others =>
          rw [List.flatMap_cons, List.flatMap_cons] at same
          have parts := List.append_inj same rfl
          rw [hexByte_inj parts.1, ih parts.2]

theorem hexDigest_inj {first second : Bytes} (same : hexDigest first = hexDigest second) :
    Sha256.digest first = Sha256.digest second :=
  hexBytes_inj (String.ofList_injective same)

namespace LegacyProviderManifest

variable {first second : LegacyProviderManifest} {input other : String}

theorem identityLines_eq (manifest : LegacyProviderManifest) (input : String) :
    manifest.identityLines input = (manifest.identity input).toList.splitOn '\n' := by
  have text : (manifest.identity input).toList =
      manifest.backend.toList ++ '\n' :: (manifest.model.toList ++ '\n' :: input.toList) := by
    simp [identity, String.toList_append]
  rw [text, List.splitOn_append_cons_self, List.splitOn_append_cons_self, identityLines,
    List.append_assoc]

/-- The joined texts agree exactly when the lines do: a line feed inside a member moves
what follows into the next one. -/
theorem identity_eq_iff :
    first.identity input = second.identity other ↔
      first.identityLines input = second.identityLines other := by
  rw [identityLines_eq, identityLines_eq]
  constructor
  · intro same
    rw [same]
  · intro same
    have joined := congrArg (fun pieces => ['\n'].intercalate pieces) same
    simp only [List.intercalate_splitOn] at joined
    exact String.toList_injective joined

theorem operationId_eq_iff (free : ¬Collides (first.identity input) (second.identity other)) :
    (first.execute input).operationId = (second.execute other).operationId ↔
      first.identityLines input = second.identityLines other := by
  rw [← identity_eq_iff]
  constructor
  · intro same
    by_contra differ
    have digests : hexDigest (asBytes (first.identity input)) =
        hexDigest (asBytes (second.identity other)) := (String.append_right_inj _).mp same
    exact free ⟨differ, hexDigest_inj digests⟩
  · intro same
    simp only [execute, same]

theorem workloadId_eq (same : first.identityLines input = second.identityLines other) :
    (first.execute input).workloadId = (second.execute other).workloadId := by
  simp only [execute, identity_eq_iff.mpr same]

end LegacyProviderManifest

/-! ### What the kernel answers -/

/-- The entry commits the operation of a request. -/
def Commits (entry : Entry) (r : OperationRequest) : Prop :=
  entry.objectType = "StepCommit" ∧ entry.workloadId = r.workloadId ∧
    entry.objectId = r.operationId

/-- What is found committed for a request is in an entry that commits its operation. -/
theorem committedIn_commits {r : OperationRequest} {entries : List Entry}
    {receipt : OperationReceipt} (found : committedIn r entries = some receipt) :
    ∃ entry ∈ entries, Commits entry r ∧ entry.payload.receipt? = some receipt := by
  induction entries using List.reverseRecOn with
  | nil => simp [committedIn, latestReceipt] at found
  | append_singleton entries last ih =>
      rw [committedIn_snoc] at found
      split at found
      · rename_i own
        exact ⟨last, by simp, ⟨own.2.2.1, own.1, own.2.2.2⟩, found⟩
      · obtain ⟨entry, member, commits, carried⟩ := ih found
        exact ⟨entry, List.mem_append_left _ member, commits, carried⟩

/-- Whatever journal a receipt of the second request is read from, it is in an entry that
commits the second and not the first. -/
def OwnReceipts (first second : OperationRequest) : Prop :=
  ∀ (entries : List Entry) (receipt : OperationReceipt), committedIn second entries = some receipt →
    ∃ entry ∈ entries, entry.payload.receipt? = some receipt ∧ Commits entry second ∧
      ¬Commits entry first

theorem ownReceipts_of_ids {r q : OperationRequest} (ids : r.operationId ≠ q.operationId) :
    OwnReceipts r q := by
  intro entries receipt found
  obtain ⟨entry, member, commits, carried⟩ := committedIn_commits found
  exact ⟨entry, member, carried, commits, fun foreign => ids (foreign.2.2.symm.trans commits.2.2)⟩

theorem committedIn_congr {r q : OperationRequest} (operation : r.operationId = q.operationId)
    (workload : r.workloadId = q.workloadId) (entries : List Entry) :
    committedIn r entries = committedIn q entries := by
  simp only [committedIn, operation, workload]

/-- In every state of the kernel, a submission of the second request is answered with the
receipt that is committed for the first, and nothing is executed. -/
def AnsweredBy (first second : OperationRequest) : Prop :=
  ∀ (w : World) (receipt : OperationReceipt) (pick : Call → World → Choice), Reached w →
    committedIn first w.journal.entries = some receipt →
    second.validateSensitiveReferences = .ok () → w.state ≠ .shuttingDown →
    (∀ call v, (pick call v).storage = none) →
    ∃ execution, ((NousKernel.execute second).run.runWith kernel pick w).1 = .ok execution ∧
      execution.receipt = receipt ∧
      ((NousKernel.execute second).run.runWith kernel pick w).2.journal = w.journal

theorem answeredBy_of_ids {r q : OperationRequest} (operation : r.operationId = q.operationId)
    (workload : r.workloadId = q.workloadId) : AnsweredBy r q := by
  intro w receipt pick reached committed references running reliable
  rw [committedIn_congr operation workload] at committed
  exact execute_replays reached.linked committed references running reliable

/-- Calls that differ have different ids, and each is answered with its own receipts,
exactly when they do not differ or their lines do; where only the rest differs, the
second provider is reported with the receipt of the first. -/
theorem execution_identity_iff (first second : LegacyProviderManifest) (input other : String)
    (free : ¬LegacyProviderManifest.Collides (first.identity input) (second.identity other)) :
    ((first.Differs second input other →
        (first.execute input).operationId ≠ (second.execute other).operationId ∧
          OwnReceipts (first.execute input) (second.execute other)) ↔
      ¬first.Differs second input other ∨
        first.identityLines input ≠ second.identityLines other) ∧
    (first.identityLines input = second.identityLines other →
      AnsweredBy (first.execute input) (second.execute other)) := by
  constructor
  · rw [← imp_iff_not_or]
    constructor
    · intro separate differs same
      exact (separate differs).1 ((LegacyProviderManifest.operationId_eq_iff free).mpr same)
    · intro separate differs
      have ids : (first.execute input).operationId ≠ (second.execute other).operationId :=
        fun same => separate differs ((LegacyProviderManifest.operationId_eq_iff free).mp same)
      exact ⟨ids, ownReceipts_of_ids ids⟩
  · intro same
    exact answeredBy_of_ids ((LegacyProviderManifest.operationId_eq_iff free).mpr same)
      (LegacyProviderManifest.workloadId_eq same)

def endpointManifest (endpoint : String) : LegacyProviderManifest where
  schemaVersion := 1
  name := "gateway"
  backend := "openai-compatible"
  runtimeClass := .remote
  model := "model-1"
  endpoint := endpoint
  credentialEnv := "GATEWAY_KEY"
  entrypoint := ""

theorem execution_identity_endpoint :
    AnsweredBy ((endpointManifest "https://one").execute "provider conformance probe")
      ((endpointManifest "https://two").execute "provider conformance probe") :=
  (execution_identity_iff (endpointManifest "https://one") (endpointManifest "https://two")
    "provider conformance probe" "provider conformance probe" fun collides => collides.1 rfl).2 rfl

theorem endpoint_shares_identity :
    ¬∀ (first second : LegacyProviderManifest) (input other : String),
      ¬LegacyProviderManifest.Collides (first.identity input) (second.identity other) →
        first.Differs second input other →
          (first.execute input).operationId ≠ (second.execute other).operationId ∧
            OwnReceipts (first.execute input) (second.execute other) := by
  intro separates
  have ids := (separates (endpointManifest "https://one") (endpointManifest "https://two")
    "provider conformance probe" "provider conformance probe" (fun collides => collides.1 rfl)
    (Or.inr (Or.inr (Or.inl (by decide))))).1
  exact ids rfl

end NousKernel
