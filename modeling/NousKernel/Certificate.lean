import NousKernel.Effects
import NousKernel.Storage

/-!
Proof-carrying execution (`nous-execution-proof/src/lib.rs`): what is checked of one
action, and the certificate of a workload, which is collected action by action and
verified action by action. The digest of a specification is taken over three of its
texts, written one after another without separators.
-/

set_option autoImplicit false

namespace NousKernel

/-! ### Actions -/

/-- `[u8; 32]`. -/
abbrev Sha256Digest : Type := { bytes : Bytes // bytes.length = 32 }

inductive RiskLevel where
  | low
  | medium
  | high
  | critical
  deriving DecidableEq, Repr

structure ActionSpec where
  actionType : String
  target : String
  parameters : String
  outputSchema : Option String
  isIdempotent : Bool
  isReversible : Bool
  compensationActionId : Option String
  riskLevel : RiskLevel
  deriving DecidableEq, Repr

inductive Decision where
  | approved
  | denied
  | approvedWithConditions
  | escalated
  deriving DecidableEq, Repr

/-- The debug name. -/
def Decision.debug : Decision → String
  | .approved => "Approved"
  | .denied => "Denied"
  | .approvedWithConditions => "ApprovedWithConditions"
  | .escalated => "Escalated"

structure PolicyDecision where
  decisionId : String
  decidedBy : String
  decision : Decision
  reason : String
  decidedAt : Int
  expiresAt : Option Int
  deriving DecidableEq, Repr

inductive ApproverType where
  | human
  | automatedPolicy
  | multiPartyConsensus
  deriving DecidableEq, Repr

structure ApprovalReceipt where
  receiptId : String
  approverId : String
  approverType : ApproverType
  approvedAt : Int
  justification : Option String
  signature : Option Bytes
  deriving DecidableEq, Repr

structure EnvironmentFingerprint where
  nodeId : String
  deviceId : String
  engineId : String
  modelRevision : String
  kernelVersion : String
  nkiVersion : UInt32
  sandboxProfile : String
  runtimeHash : Option Sha256Digest
  deriving DecidableEq, Repr

structure ReplayDescriptor where
  nonce : UInt64
  idempotencyKey : String
  processId : String
  sequenceNumber : UInt64
  deriving DecidableEq, Repr

structure CanonicalAction where
  actionId : String
  canonicalSpec : ActionSpec
  principalId : String
  processId : String
  capability : String
  policyDecision : PolicyDecision
  approvalReceipt : Option ApprovalReceipt
  inputDigest : Sha256Digest
  executionEnvironment : EnvironmentFingerprint
  effectIntent : EffectIntent
  effectReceipt : Option EffectReceipt
  outputDigest : Option Sha256Digest
  causalParent : Option String
  replayDescriptor : ReplayDescriptor
  deriving DecidableEq, Repr

/-! ### Verification -/

structure VerificationCheck where
  checkName : String
  passed : Bool
  detail : String
  deriving DecidableEq, Repr

structure VerificationResult where
  actionId : String
  verified : Bool
  checks : List VerificationCheck
  deriving DecidableEq, Repr

/-- The bytes the hasher is fed. -/
def digestInput (spec : ActionSpec) : Bytes :=
  asBytes spec.actionType ++ asBytes spec.target ++ asBytes spec.parameters

def computeInputDigest (spec : ActionSpec) : Sha256Digest :=
  ⟨Sha256.digest (digestInput spec), Sha256.length_digest _⟩

def isDataExitAction (spec : ActionSpec) : Bool :=
  ["email_send", "file_upload", "api_call_external", "content_publish", "data_export"].contains
    spec.actionType

def verifyAction (action : CanonicalAction) : VerificationResult :=
  let inputMatch := decide (computeInputDigest action.canonicalSpec = action.inputDigest)
  let checks : List VerificationCheck := [
    { checkName := "input_digest_match"
      passed := inputMatch
      detail := if inputMatch then "Input digest matches canonical spec"
        else "Input digest mismatch - spec may have been modified after approval" }]
  let checks := checks ++ match action.effectReceipt with
    | none => []
    | some receipt =>
        let expected := action.effectIntent.expectedTarget
        let targetMatch := decide (receipt.actualTarget = expected)
        [{ checkName := "effect_receipt_present"
           passed := true
           detail := "Effect receipt '" ++ receipt.receiptId ++ "' present" },
         { checkName := "target_matches_intent"
           passed := targetMatch
           detail := if targetMatch then "Actual target matches intended target"
             else "Target mismatch: expected '" ++ expected ++ "', got '" ++
               receipt.actualTarget ++ "'" }]
  -- uniqueness is left to "the verifier at runtime"; this check passes always
  let checks := checks ++ [
    { checkName := "replay_descriptor_present"
      passed := true
      detail := "Replay descriptor: nonce=" ++ toString action.replayDescriptor.nonce ++
        ", key=" ++ action.replayDescriptor.idempotencyKey }]
  let decision := action.policyDecision.decision
  let checks := checks ++ [
    { checkName := "policy_approved"
      passed := decide (decision = .approved ∨ decision = .approvedWithConditions)
      detail := "Policy decision: " ++ decision.debug }]
  { actionId := action.actionId
    verified := checks.all (·.passed)
    checks := checks }

/-- What the checks ask of an action: its digest is that of its specification, the
effect reached the intended target, and the policy approved. -/
structure CanonicalAction.Consistent (action : CanonicalAction) : Prop where
  digest : computeInputDigest action.canonicalSpec = action.inputDigest
  target : ∀ receipt ∈ action.effectReceipt,
    receipt.actualTarget = action.effectIntent.expectedTarget
  approved : action.policyDecision.decision = .approved ∨
    action.policyDecision.decision = .approvedWithConditions

theorem verifyAction_iff (action : CanonicalAction) :
    (verifyAction action).verified = true ↔ action.Consistent := by
  have parts : action.Consistent ↔ computeInputDigest action.canonicalSpec = action.inputDigest ∧
      (∀ receipt ∈ action.effectReceipt,
        receipt.actualTarget = action.effectIntent.expectedTarget) ∧
      (action.policyDecision.decision = .approved ∨
        action.policyDecision.decision = .approvedWithConditions) :=
    ⟨fun sound => ⟨sound.digest, sound.target, sound.approved⟩,
      fun ⟨digest, target, approved⟩ => ⟨digest, target, approved⟩⟩
  rw [parts]
  unfold verifyAction
  cases action.effectReceipt <;> simp

/-! ### Changes of a specification -/

/-- The texts of a specification that its digest covers. -/
def ActionSpec.joined (spec : ActionSpec) : String :=
  spec.actionType ++ spec.target ++ spec.parameters

theorem digestInput_eq (spec : ActionSpec) : digestInput spec = asBytes spec.joined := by
  unfold digestInput ActionSpec.joined
  rw [asBytes_append, asBytes_append]

theorem computeInputDigest_congr {spec changed : ActionSpec} (same : spec.joined = changed.joined) :
    computeInputDigest spec = computeInputDigest changed := by
  apply Subtype.ext
  show Sha256.digest (digestInput spec) = Sha256.digest (digestInput changed)
  rw [digestInput_eq, digestInput_eq, same]

/-- Two specifications whose digest inputs are a collision of SHA-256. -/
def ActionSpec.Collides (spec changed : ActionSpec) : Prop :=
  digestInput spec ≠ digestInput changed ∧
    Sha256.digest (digestInput spec) = Sha256.digest (digestInput changed)

theorem computeInputDigest_eq_iff {spec changed : ActionSpec} (free : ¬ spec.Collides changed) :
    computeInputDigest spec = computeInputDigest changed ↔ spec.joined = changed.joined := by
  constructor
  · intro same
    have digests : Sha256.digest (digestInput spec) = Sha256.digest (digestInput changed) :=
      congrArg Subtype.val same
    have inputs : digestInput spec = digestInput changed := by
      by_contra differ
      exact free ⟨differ, digests⟩
    rw [digestInput_eq, digestInput_eq] at inputs
    exact asBytes_inj.mp inputs
  · exact computeInputDigest_congr

/-- An action and the same action with another specification do not both verify exactly
when the covered texts differ, or the action was inconsistent already. -/
theorem change_detected_iff {action changed : CanonicalAction}
    (only : changed = { action with canonicalSpec := changed.canonicalSpec })
    (free : ¬ action.canonicalSpec.Collides changed.canonicalSpec) :
    ¬ ((verifyAction action).verified = true ∧ (verifyAction changed).verified = true) ↔
      action.canonicalSpec.joined ≠ changed.canonicalSpec.joined ∨ ¬ action.Consistent := by
  have digests : changed.inputDigest = action.inputDigest := by rw [only]
  have same : action.canonicalSpec.joined = changed.canonicalSpec.joined →
      (action.Consistent ↔ changed.Consistent) := by
    intro joined
    have spec := computeInputDigest_congr joined
    constructor
    · intro sound
      rw [only]
      exact ⟨spec.symm.trans sound.digest, sound.target, sound.approved⟩
    · intro sound
      rw [only] at sound
      exact ⟨spec.trans sound.digest, sound.target, sound.approved⟩
  rw [verifyAction_iff, verifyAction_iff]
  by_cases joined : action.canonicalSpec.joined = changed.canonicalSpec.joined
  · rw [← same joined]
    simp [joined]
  · have differ : ¬ (action.Consistent ∧ changed.Consistent) := by
      intro ⟨sound, other⟩
      have both : computeInputDigest action.canonicalSpec =
          computeInputDigest changed.canonicalSpec := by
        rw [sound.digest, other.digest, digests]
      exact joined ((computeInputDigest_eq_iff free).mp both)
    simp [joined, differ]

def writeSpec : ActionSpec where
  actionType := "file_write"
  target := "/tmp/test.txt"
  parameters := "\x7b\"content\": \"hello\"\x7d"
  outputSchema := none
  isIdempotent := true
  isReversible := true
  compensationActionId := none
  riskLevel := .low

/-- A write that was approved and carried out. -/
def writeAction : CanonicalAction where
  actionId := "act-1"
  canonicalSpec := writeSpec
  principalId := "user-1"
  processId := "proc-1"
  capability := "file:write"
  policyDecision := ⟨"dec-1", "governance-gate", .approved, "Low risk", 0, none⟩
  approvalReceipt := none
  inputDigest := computeInputDigest writeSpec
  executionEnvironment := ⟨"node-1", "cpu-0", "none", "none", "0.1.0", 1, "default", none⟩
  effectIntent := ⟨"Write test file", "/tmp/test.txt", "File written", 1, 5000⟩
  effectReceipt := some ⟨"rec-1", "/tmp/test.txt", "File written", 1500, 0, true, none,
    List.replicate 32 0, 0, "kernel"⟩
  outputDigest := none
  causalParent := none
  replayDescriptor := ⟨1, "idem-1", "proc-1", 1⟩

theorem writeAction_consistent : writeAction.Consistent where
  digest := rfl
  target := by
    intro receipt member
    cases member
    rfl
  approved := .inl rfl

/-- The specification with its first two texts' boundary moved, and another risk. -/
def shiftedSpec : ActionSpec :=
  { writeSpec with
    target := "/tmp/test"
    parameters := ".txt" ++ writeSpec.parameters
    riskLevel := .critical }

theorem change_detected_target :
    ¬ ((verifyAction writeAction).verified = true ∧ (verifyAction { writeAction with
      canonicalSpec := { writeSpec with target := "/etc/passwd" } }).verified = true) := by
  have digests : Sha256.digest (digestInput writeSpec) ≠
      Sha256.digest (digestInput { writeSpec with target := "/etc/passwd" }) := by
    decide +kernel
  have free : ¬ writeSpec.Collides { writeSpec with target := "/etc/passwd" } :=
    fun collides => digests collides.2
  exact (@change_detected_iff writeAction { writeAction with
    canonicalSpec := { writeSpec with target := "/etc/passwd" } } rfl free).mpr (.inl (by decide))

theorem change_undetected :
    writeSpec ≠ shiftedSpec ∧ ¬ writeSpec.Collides shiftedSpec ∧
      (verifyAction writeAction).verified = true ∧
      (verifyAction { writeAction with canonicalSpec := shiftedSpec }).verified = true := by
  have same : writeSpec.joined = shiftedSpec.joined := by decide
  refine ⟨by decide, ?_, (verifyAction_iff _).mpr writeAction_consistent, ?_⟩
  · intro collides
    apply collides.1
    rw [digestInput_eq, digestInput_eq, same]
  · apply (verifyAction_iff _).mpr
    exact ⟨(computeInputDigest_congr same).symm, writeAction_consistent.target, .inl rfl⟩

/-! ### Certificates -/

structure DataExitRecord where
  dataDescription : String
  destination : String
  approved : Bool
  actionId : String
  deriving DecidableEq, Repr

structure VerificationSummary where
  actionId : String
  verified : Bool
  verifier : String
  deriving DecidableEq, Repr

structure RecoveryRecord where
  failureActionId : String
  recoveryActionId : String
  recoverySuccess : Bool
  deriving DecidableEq, Repr

structure WorkloadCertificate where
  certificateId : String
  processId : String
  programName : String
  actions : List CanonicalAction
  modelsUsed : List String
  toolsUsed : List String
  approvalsGranted : List ApprovalReceipt
  dataExfiltrated : List DataExitRecord
  resultsVerified : List VerificationSummary
  failuresRecovered : List RecoveryRecord
  finalSideEffects : List EffectReceipt
  generatedAt : Int
  generatedBy : String
  attestation : Option Bytes
  deriving DecidableEq, Repr

structure CertificateVerificationResult where
  certificateId : String
  verified : Bool
  totalActions : Nat
  verifiedActions : Nat
  failedActions : Nat
  failureDetails : List String
  deriving DecidableEq, Repr

namespace WorkloadCertificate

/-- What the first loop of `generate` collects. -/
structure Collected where
  models : List String
  approvals : List ApprovalReceipt
  sideEffects : List EffectReceipt
  verificationSummaries : List VerificationSummary
  deriving DecidableEq, Repr

/-- The body of the first loop. -/
def collect (collected : Collected) (action : CanonicalAction) : Collected :=
  let model := action.executionEnvironment.modelRevision
  { models := if collected.models.contains model then collected.models
      else collected.models ++ [model]
    approvals := match action.approvalReceipt with
      | some receipt => collected.approvals ++ [receipt]
      | none => collected.approvals
    sideEffects := match action.effectReceipt with
      | some receipt => if receipt.success then collected.sideEffects ++ [receipt]
        else collected.sideEffects
      | none => collected.sideEffects
    verificationSummaries := collected.verificationSummaries ++
      [⟨action.actionId, (verifyAction action).verified, "kernel"⟩] }

/-- The body of the second loop. -/
def collectExit (dataExits : List DataExitRecord) (action : CanonicalAction) :
    List DataExitRecord :=
  let spec := action.canonicalSpec
  if isDataExitAction spec then
    dataExits ++ [⟨spec.parameters, spec.target,
      decide (action.policyDecision.decision = .approved), action.actionId⟩]
  else dataExits

/-- The id drawn and the time of day are parameters. -/
def generate (uuid : String) (now : Int) (processId programName : String)
    (actions : List CanonicalAction) (generatedBy : String) : WorkloadCertificate :=
  let collected := actions.foldl collect ⟨[], [], [], []⟩
  { certificateId := "cert-" ++ uuid
    processId := processId
    programName := programName
    actions := actions
    modelsUsed := collected.models
    toolsUsed := []
    approvalsGranted := collected.approvals
    dataExfiltrated := actions.foldl collectExit []
    resultsVerified := collected.verificationSummaries
    failuresRecovered := []
    finalSideEffects := collected.sideEffects
    generatedAt := now
    generatedBy := generatedBy
    attestation := none }

def verify (certificate : WorkloadCertificate) : CertificateVerificationResult :=
  let actionResults := certificate.actions.map verifyAction
  let failedActions := actionResults.filter (fun result => !result.verified)
  { certificateId := certificate.certificateId
    verified := actionResults.all (·.verified)
    totalActions := certificate.actions.length
    verifiedActions := (actionResults.filter (·.verified)).length
    failedActions := failedActions.length
    failureDetails := failedActions.map fun result =>
      "; ".intercalate ((result.checks.filter (fun check => !check.passed)).map (·.detail)) }

end WorkloadCertificate

open WorkloadCertificate

/-- The effect of an action that was carried out with success. -/
def CanonicalAction.successfulEffect (action : CanonicalAction) : Option EffectReceipt :=
  action.effectReceipt.filter (·.success)

/-- The loop appends what each action adds, in their order. -/
theorem foldl_collect (actions : List CanonicalAction) (collected : Collected) :
    (actions.foldl collect collected).approvals =
        collected.approvals ++ actions.filterMap (·.approvalReceipt) ∧
      (actions.foldl collect collected).sideEffects =
        collected.sideEffects ++ actions.filterMap (·.successfulEffect) ∧
      (actions.foldl collect collected).verificationSummaries =
        collected.verificationSummaries ++ actions.map fun action =>
          ⟨action.actionId, (verifyAction action).verified, "kernel"⟩ := by
  induction actions generalizing collected with
  | nil => simp
  | cons action rest ih =>
      obtain ⟨approvals, effects, summaries⟩ := ih (collect collected action)
      rw [List.foldl_cons, approvals, effects, summaries]
      unfold collect CanonicalAction.successfulEffect
      refine ⟨?_, ?_, by simp⟩
      · cases found : action.approvalReceipt <;> simp [found]
      · cases found : action.effectReceipt with
        | none => simp [found]
        | some receipt =>
            by_cases success : receipt.success <;> simp [found, Option.filter, success]

/-- Each model is listed once. -/
theorem foldl_collect_models (actions : List CanonicalAction) (collected : Collected)
    (unique : collected.models.Nodup) :
    (actions.foldl collect collected).models.Nodup ∧
      ∀ model, model ∈ (actions.foldl collect collected).models ↔
        model ∈ collected.models ∨
          ∃ action ∈ actions, action.executionEnvironment.modelRevision = model := by
  induction actions generalizing collected with
  | nil => simpa using unique
  | cons action rest ih =>
      have step : (collect collected action).models.Nodup ∧
          ∀ model, model ∈ (collect collected action).models ↔
            model ∈ collected.models ∨ action.executionEnvironment.modelRevision = model := by
        unfold collect
        by_cases listed : action.executionEnvironment.modelRevision ∈ collected.models
        · simp [listed, unique]
        · have fresh : ∀ model ∈ collected.models,
              model ≠ action.executionEnvironment.modelRevision :=
            fun model member same => listed (same ▸ member)
          simpa [listed, unique, eq_comm, List.nodup_append] using fresh
      obtain ⟨nodup, members⟩ := ih (collect collected action) step.1
      apply And.intro nodup
      intro model
      rw [List.foldl_cons, members, step.2]
      simp [or_assoc]

theorem verify_generate {uuid processId programName generatedBy : String} {now : Int}
    {actions : List CanonicalAction} :
    (generate uuid now processId programName actions generatedBy).verify.verified = true ↔
      ∀ action ∈ actions, action.Consistent := by
  show (actions.map verifyAction).all (·.verified) = true ↔ _
  rw [List.all_map, List.all_eq_true]
  exact forall₂_congr fun action _ => verifyAction_iff action

theorem verify_counts (certificate : WorkloadCertificate) :
    certificate.verify.verifiedActions + certificate.verify.failedActions =
        certificate.verify.totalActions ∧
      certificate.verify.failureDetails.length = certificate.verify.failedActions := by
  constructor
  · have split := List.length_eq_length_filter_add (l := certificate.actions.map verifyAction)
      (·.verified)
    rw [List.length_map] at split
    exact split.symm
  · exact List.length_map _

/-- What a certificate is taken to say of its actions. -/
structure WorkloadCertificate.Faithful (certificate : WorkloadCertificate)
    (actions : List CanonicalAction) : Prop where
  unique : actions.Pairwise fun action other => action.replayDescriptor ≠ other.replayDescriptor
  checked : ∀ action ∈ actions, ∀ check ∈ (verifyAction action).checks, check.passed = true
  effects : certificate.finalSideEffects = actions.filterMap (·.successfulEffect)

/-- A verified certificate is faithful exactly when no two of its actions share a replay
descriptor, which nothing checks; some other inconsistency keeps it from verifying. -/
theorem verified_faithful_iff (uuid processId programName generatedBy : String) (now : Int)
    (actions : List CanonicalAction) :
    ((generate uuid now processId programName actions generatedBy).verify.verified = true →
        (generate uuid now processId programName actions generatedBy).Faithful actions) ↔
      (actions.map (·.replayDescriptor)).Nodup ∨ ∃ action ∈ actions, ¬ action.Consistent := by
  rw [verify_generate]
  constructor
  · intro faithful
    by_cases sound : ∀ action ∈ actions, action.Consistent
    · apply Or.inl
      exact List.pairwise_map.mpr (faithful sound).unique
    · apply Or.inr
      simpa only [not_forall, exists_prop] using sound
  · intro condition sound
    have distinct : (actions.map (·.replayDescriptor)).Nodup := by
      cases condition with
      | inl distinct => exact distinct
      | inr broken =>
          obtain ⟨action, member, inconsistent⟩ := broken
          exact absurd (sound action member) inconsistent
    constructor
    case unique => exact List.pairwise_map.mp distinct
    case checked =>
      intro action member
      have verified := (verifyAction_iff action).mpr (sound action member)
      exact List.all_eq_true.mp verified
    case effects => exact (foldl_collect actions _).2.1.trans (List.nil_append _)

/-- One action listed twice makes a certificate that verifies. -/
theorem replay_certified :
    (generate "0" 0 "proc-1" "program" [writeAction, writeAction] "kernel").verify.verified =
        true ∧
      ¬ (generate "0" 0 "proc-1" "program" [writeAction, writeAction] "kernel").Faithful
        [writeAction, writeAction] := by
  constructor
  · apply verify_generate.mpr
    intro action member
    have same : action = writeAction := by simpa using member
    rw [same]
    exact writeAction_consistent
  · intro faithful
    exact (List.pairwise_cons.mp faithful.unique).1 writeAction (.head _) rfl

end NousKernel
