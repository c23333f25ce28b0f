import NousKernel.Invocation
import NousKernel.Session

/-!
Capability probes of a continuity plan. Whether a candidate is probed is decided
by the runtime class of its manifest, which the caller supplies, and not by the
execution domain of its request. Where the two agree, every execution outside the
reference domain follows a probe that passed the step's compatibility gate.
-/

set_option autoImplicit false

namespace NousKernel

open Resumption

/-- The last probe answered since the last execution started. -/
abbrev Probed : Type := Option (ProviderProbeRequest × ProviderProbeReport)

/-- A candidate of the plan for this request was probed, and what the probe
reports passes the gate of its step. -/
def Verified (plan : ContinuityPlan) (r : OperationRequest) (probed : Probed) : Prop :=
  ∃ step ∈ plan.steps, ∃ candidate ∈ step.candidates, candidate.request = r ∧
    ∃ report, probed = some (probeOf candidate, report) ∧
      rejected step (assessCompatibility step.requirements report.capabilities) = false

def probedBy (probed : Probed) : (call : Call) → Answer call → Probed
  | .providerProbe probe, .ok report => some (probe, report)
  | .providerProbe _, .error _ => none
  | .providerExecute .., _ => none
  | _, _ => probed

/-- Outside the reference domain only a verified candidate is executed. -/
def screening (plan : ContinuityPlan) : Protocol Call Answer Probed where
  law probed call := ∀ r token, call = .providerExecute r token →
    r.executionDomain ≠ .reference → Verified plan r probed
  next := probedBy

/-- A candidate that is executed on its manifest alone: it is valid for its step,
its manifest claims the reference class and passes the gate. -/
structure Unprobed (plan : ContinuityPlan) (step : ContinuityStep) (candidate : FailoverCandidate) :
    Prop where
  valid : ∃ first ∈ step.candidates.head?, validateContinuityCandidate plan step.stepId
    first.request.operationId candidate.request candidate.capabilities = .ok ()
  references : candidate.request.validateSensitiveReferences = .ok ()
  claims : candidate.capabilities.runtimeClass = .reference
  passes : rejected step (assessCompatibility step.requirements candidate.capabilities) = false

/-- Every candidate that is not probed is for the reference domain. -/
def Screened (plan : ContinuityPlan) : Prop :=
  ∀ step ∈ plan.steps, ∀ candidate ∈ step.candidates, Unprobed plan step candidate →
    candidate.request.executionDomain = .reference

theorem screening_overlooks (plan : ContinuityPlan) {probed : Probed} :
    Overlooks Indoor (screening plan) probed := by
  intro call indoor
  constructor
  · rintro r token rfl
    exact absurd indoor id
  · intro answer
    cases call with
    | providerExecute request token => exact absurd indoor id
    | providerProbe probe => exact absurd indoor id
    | _ => rfl

section Steps

variable {plan : ContinuityPlan} {probed : Probed}

/-- While an execution is armed its request stays verified. -/
theorem screening_simulates (plan : ContinuityPlan) (r : OperationRequest) (armed : Bool)
    (probed : Probed) (call : Call)
    (kept : armed = true → r.executionDomain ≠ .reference → Verified plan r probed)
    (law : (invocation r).law armed call) :
    (screening plan).law probed call ∧ ∀ answer, (invocation r).next armed call answer = true →
      r.executionDomain ≠ .reference →
        Verified plan r ((screening plan).next probed call answer) := by
  rcases law with indoor | ⟨isArmed, token, rfl⟩
  · obtain ⟨permitted, still⟩ := screening_overlooks plan call indoor
    refine ⟨permitted, fun answer stillArmed => ?_⟩
    rw [(invocation_overlooks call indoor).2 answer] at stillArmed
    rw [still answer]
    exact kept stillArmed
  · refine ⟨?_, fun answer stillArmed => by cases stillArmed⟩
    intro request token' same
    cases same
    exact kept isArmed

/-- An execution is permitted where its request is verified or for the reference
domain, or its references are refused. -/
theorem screening_execute {r : OperationRequest}
    (verified : r.validateSensitiveReferences = .ok () → r.executionDomain ≠ .reference →
      Verified plan r probed) :
    (screening plan).Follows (fun _ _ => True) (execute r).run probed := by
  obtain ⟨armed, arms, kept⟩ : ∃ armed : Bool,
      (r.validateSensitiveReferences = .ok () → armed = true) ∧
        (armed = true → r.executionDomain ≠ .reference → Verified plan r probed) := by
    by_cases valid : r.validateSensitiveReferences = .ok ()
    · exact ⟨true, fun _ => rfl, fun _ => verified valid⟩
    · exact ⟨false, fun valid' => absurd valid' valid, fun armed => by cases armed⟩
  apply Protocol.Follows.bind
  refine ⟨fun _ _ other => (by cases other), fun _ => ?_⟩
  show (screening plan).Follows _ ((executeInternal r false).run >>= _) probed
  apply Protocol.Follows.bind
  have followed := (follows_executeInternal false arms).simulate (screening plan)
    (fun armed probed => armed = true → r.executionDomain ≠ .reference → Verified plan r probed)
    (screening_simulates plan r) kept
  apply followed.mono
  intro _ _ _
  exact follows_any (screening_overlooks plan) ⟨trivial, fun _ _ => trivial⟩

/-- What is known of a candidate's capabilities before the gate: they are those of
its manifest, which was not probed, or the ones its probe reports. -/
def Capable (candidate : FailoverCandidate) (effective : ModelCapabilityManifest)
    (probed : Probed) : Prop :=
  (candidate.capabilities.runtimeClass = .reference ∧ effective = candidate.capabilities) ∨
    ∃ report, effective = report.capabilities ∧ probed = some (probeOf candidate, report)

theorem screening_effectiveCapabilities (candidate : FailoverCandidate) :
    (screening plan).Follows (fun outcome last => ∀ effective, outcome = .ok effective →
      Capable candidate effective last) (effectiveCapabilities candidate).run probed := by
  unfold effectiveCapabilities
  split
  · rename_i claims
    intro effective returned
    cases returned
    exact .inl ⟨claims, rfl⟩
  · apply Protocol.Follows.bindExcept
    unfold probeProvider
    split
    · exact fun effective returned => by cases returned
    · refine ⟨fun _ _ other => (by cases other), fun answer => ?_⟩
      cases answer with
      | error error => exact fun effective returned => by cases returned
      | ok report =>
          intro effective returned
          cases returned
          exact .inr ⟨report, rfl, rfl⟩

theorem screening_tryCandidate {step : ContinuityStep} {first candidate : FailoverCandidate}
    {progress : StepProgress} (screened : Screened plan) (listed : step ∈ plan.steps)
    (head : step.candidates.head? = some first) (member : candidate ∈ step.candidates) :
    (screening plan).Follows (fun _ _ => True)
      (tryCandidate plan step first.request.operationId candidate progress).run probed := by
  apply follows_then (screening_overlooks plan) (clerical_append ..).indoors
  intro _
  cases valid : validateContinuityCandidate plan step.stepId first.request.operationId
      candidate.request candidate.capabilities with
  | error error => trivial
  | ok _ =>
      apply Protocol.Follows.bindLift
      apply (screening_effectiveCapabilities candidate).mono
      intro outcome last capable
      cases outcome with
      | error error =>
          dsimp only
          split
          · exact follows_then (screening_overlooks plan) (clerical_append ..).indoors fun _ => trivial
          · trivial
      | ok effective =>
          dsimp only
          split
          · exact follows_then (screening_overlooks plan) (clerical_append ..).indoors fun _ => trivial
          · rename_i accepted
            apply follows_then (screening_overlooks plan) (clerical_rebindAfter ..).indoors
            intro progress
            apply Protocol.Follows.bindLift
            have verified : candidate.request.validateSensitiveReferences = .ok () →
                candidate.request.executionDomain ≠ .reference →
                  Verified plan candidate.request last := by
              intro references outside
              rcases capable effective rfl with ⟨claims, rfl⟩ | ⟨report, rfl, rfl⟩
              · have unprobed : Unprobed plan step candidate :=
                  ⟨⟨first, head, valid⟩, references, claims, by simpa using accepted⟩
                exact absurd (screened step listed candidate member unprobed) outside
              · exact ⟨step, listed, candidate, member, rfl, report, rfl, by simpa using accepted⟩
            apply (screening_execute verified).mono
            intro result _ _
            cases result with
            | ok execution => trivial
            | error error =>
                dsimp only
                split
                · exact follows_then (screening_overlooks plan) (clerical_append ..).indoors fun _ => trivial
                · trivial

theorem screening_tryCandidates {step : ContinuityStep} {first : FailoverCandidate}
    (screened : Screened plan) (listed : step ∈ plan.steps)
    (head : step.candidates.head? = some first) (candidates : List FailoverCandidate)
    (members : ∀ candidate ∈ candidates, candidate ∈ step.candidates) (progress : StepProgress) :
    (screening plan).Follows (fun _ _ => True)
      (tryCandidates plan step first.request.operationId candidates progress).run probed := by
  induction candidates generalizing probed progress with
  | nil => trivial
  | cons candidate rest ih =>
      apply Protocol.Follows.bindExcept
      apply (screening_tryCandidate screened listed head (members candidate (.head _))).mono
      intro outcome last _
      cases outcome with
      | error error => trivial
      | ok tried =>
          obtain ⟨completed, progress⟩ := tried
          cases completed with
          | some execution => trivial
          | none => exact ih (fun other member => members other (.tail _ member)) progress

theorem screening_runStep {step : ContinuityStep} (screened : Screened plan)
    (listed : step ∈ plan.steps) (failovers : List FailoverRecord) :
    (screening plan).Follows (fun _ _ => True) (runStep plan step failovers).run probed := by
  unfold runStep
  split
  · trivial
  · rename_i first rest candidates
    apply follows_then (screening_overlooks plan) (clerical_committedReceipt _).indoors
    intro committed
    cases committed with
    | some receipt => trivial
    | none =>
        apply Protocol.Follows.bindExcept
        have head : step.candidates.head? = some first := by rw [candidates]; rfl
        apply (screening_tryCandidates screened listed head (first :: rest)
          (fun candidate member => candidates ▸ member) { failovers }).mono
        intro outcome last _
        cases outcome with
        | error error => trivial
        | ok tried =>
            obtain ⟨completed, progress⟩ := tried
            cases completed with
            | some execution => trivial
            | none => trivial

theorem screening_runSteps (screened : Screened plan) (steps : List ContinuityStep)
    (listed : ∀ step ∈ steps, step ∈ plan.steps) (completed : List RuntimeExecution)
    (failovers : List FailoverRecord) :
    (screening plan).Follows (fun _ _ => True)
      (runSteps plan steps completed failovers).run probed := by
  induction steps generalizing probed completed failovers with
  | nil => trivial
  | cons step rest ih =>
      apply Protocol.Follows.bindExcept
      apply (screening_runStep screened (listed step (.head _)) failovers).mono
      intro outcome last _
      cases outcome with
      | error error => trivial
      | ok ran => exact ih (fun other member => listed other (.tail _ member)) _ _

theorem screening_executeContinuously (screened : Screened plan) :
    (screening plan).Follows (fun _ _ => True) (executeContinuously plan).run probed := by
  unfold executeContinuously
  split
  · trivial
  · exact screening_runSteps screened plan.steps (fun _ member => member) [] []

end Steps

/-! ### Traces -/

/-- The state of the protocol names a probe of the trace, with no execution since. -/
theorem probed_split {plan : ContinuityPlan} {trace : List (Exchange Call Answer)}
    {probe : ProviderProbeRequest} {report : ProviderProbeReport}
    (probed : (screening plan).after none trace = some (probe, report)) :
    ∃ earlier later, trace = earlier ++ ⟨.providerProbe probe, .ok report⟩ :: later ∧
      ∀ r token, ⟨.providerExecute r token, ()⟩ ∉ later := by
  induction trace using List.reverseRecOn with
  | nil => cases probed
  | append_singleton trace exchange ih =>
      rw [Protocol.after_append] at probed
      obtain ⟨call, answer⟩ := exchange
      by_cases indoor : Indoor call
      · rw [(screening_overlooks plan call indoor).2 answer] at probed
        obtain ⟨earlier, later, rfl, quiet⟩ := ih probed
        refine ⟨earlier, later ++ [⟨call, answer⟩], by simp, ?_⟩
        intro r token member
        rcases List.mem_append.mp member with old | last
        · exact quiet r token old
        · cases List.mem_singleton.mp last
          exact indoor
      · cases call with
        | providerProbe sent =>
            cases answer with
            | error error => cases probed
            | ok answered =>
                cases probed
                exact ⟨trace, [], rfl, by simp⟩
        | providerExecute r token => cases probed
        | attempt r =>
            obtain ⟨earlier, later, rfl, quiet⟩ := ih probed
            refine ⟨earlier, later ++ [⟨.attempt r, answer⟩], by simp, ?_⟩
            intro r token member
            rcases List.mem_append.mp member with old | last
            · exact quiet r token old
            · cases List.mem_singleton.mp last
        | _ => exact absurd trivial indoor

/-- Under a screened plan every execution outside the reference domain follows a
probe of its candidate whose report passes the gate of the step, with no other
execution in between. -/
theorem executions_screened {plan : ContinuityPlan} (screened : Screened plan)
    {before after : List (Exchange Call Answer)} {r : OperationRequest} {token : Nat}
    (path : (executeContinuously plan).run.Path
      (before ++ ⟨.providerExecute r token, ()⟩ :: after))
    (outside : r.executionDomain ≠ .reference) :
    ∃ step ∈ plan.steps, ∃ candidate ∈ step.candidates, candidate.request = r ∧
      ∃ earlier report later,
        before = earlier ++ ⟨.providerProbe (probeOf candidate), .ok report⟩ :: later ∧
        (∀ other token, ⟨.providerExecute other token, ()⟩ ∉ later) ∧
        rejected step (assessCompatibility step.requirements report.capabilities) = false := by
  obtain ⟨step, listed, candidate, member, same, report, probed, accepted⟩ :=
    (screening_executeContinuously screened).path path r token rfl outside
  obtain ⟨earlier, later, split, quiet⟩ := probed_split probed
  exact ⟨step, listed, candidate, member, same, earlier, report, later, split, quiet, accepted⟩

/-- The execution an exchange starts. -/
def executed : Exchange Call Answer → Option (OperationRequest × Nat)
  | ⟨.providerExecute r token, _⟩ => some (r, token)
  | _ => none

theorem executed_split {sent : List (Exchange Call Answer)} {index token : Nat}
    {r : OperationRequest} (started : sent[index]?.bind executed = some (r, token)) :
    sent = sent.take index ++ ⟨.providerExecute r token, ()⟩ :: sent.drop (index + 1) := by
  obtain ⟨exchange, present, starts⟩ := Option.bind_eq_some_iff.mp started
  obtain ⟨call, answer⟩ := exchange
  cases call with
  | providerExecute other used =>
      cases starts
      obtain ⟨within, found⟩ := List.getElem?_eq_some_iff.mp present
      rw [← found, List.getElem_cons_drop, List.take_append_drop]
  | _ => cases starts

/-- A request outside the reference domain. -/
def remoteRequest : OperationRequest :=
  { sampleRequest "operation-1" "workload-1" "revision-1" .idempotent with
    executionDomain := .remote }

/-- A manifest of a runtime class with every capability. -/
def sampleManifest (runtimeClass : ProviderRuntimeClass) : ModelCapabilityManifest where
  provider := "provider-1"
  backend := "reference"
  model := ""
  runtimeClass := runtimeClass
  chat := .supported
  streaming := .supported
  tools := .supported
  structuredOutput := .supported
  vision := .supported
  embedding := .supported
  reasoning := .supported
  localExecution := .supported
  contextLength := some 1024
  privacyLocal := true

/-- A plan of one step with one remote candidate. -/
def remotePlan (claimed : ProviderRuntimeClass) : ContinuityPlan where
  workloadId := "workload-1"
  processIdentity := "process-1"
  steps :=
    [{ stepId := "step-1"
       requirements :=
         { chat := true, streaming := false, tools := false, structuredOutput := false
           vision := false, embedding := false, reasoning := false
           minContextLength := 0, localOnly := false }
       allowDegraded := false
       candidates := [{ request := remoteRequest, capabilities := sampleManifest claimed }] }]

/-- The probe and the provider answer. -/
def probing : Choice where
  outcome := .ok (sampleReceipt "operation-1" "result")
  probe := .ok
    { reachable := true, latencyMs := 1, availableModels := []
      capabilities := sampleManifest .remote, warnings := [] }

/-- What the plan exchanges with a kernel that has just booted. -/
def remoteTrace (claimed : ProviderRuntimeClass) : List (Exchange Call Answer) :=
  (executeContinuously (remotePlan claimed)).run.exchanges kernel (.boot sampleUuids 0)
    (List.replicate 60 probing)

theorem remotePlan_screened : Screened (remotePlan .remote) := by
  intro step listed candidate member unprobed
  have steps : ∀ step ∈ (remotePlan .remote).steps, ∀ candidate ∈ step.candidates,
      candidate.capabilities.runtimeClass = .remote := by decide
  have claimed := steps step listed candidate member
  rw [unprobed.claims] at claimed
  cases claimed

/-- A remote candidate that says so is probed before it is executed. -/
theorem executions_screened_remote :
    (remoteTrace .remote)[19]?.bind executed = some (remoteRequest, 0) ∧
    ∃ step ∈ (remotePlan .remote).steps, ∃ candidate ∈ step.candidates,
      candidate.request = remoteRequest ∧ ∃ earlier report later,
        (remoteTrace .remote).take 19 =
          earlier ++ ⟨.providerProbe (probeOf candidate), .ok report⟩ :: later ∧
        (∀ other token, ⟨.providerExecute other token, ()⟩ ∉ later) ∧
        rejected step (assessCompatibility step.requirements report.capabilities) = false := by
  have started : (remoteTrace .remote)[19]?.bind executed = some (remoteRequest, 0) := by
    decide +kernel
  have path := Prog.exchanges_path kernel (executeContinuously (remotePlan .remote)).run
    (.boot sampleUuids 0) (List.replicate 60 probing)
  change Prog.Path _ (remoteTrace .remote) at path
  rw [executed_split started] at path
  exact ⟨started, executions_screened remotePlan_screened path (by decide)⟩

/-- A probe. -/
def isProbe : Exchange Call Answer → Bool
  | ⟨.providerProbe _, _⟩ => true
  | _ => false

/-- A remote candidate whose manifest claims the reference class is executed
without any probe. -/
theorem executions_unscreened :
    (executeContinuously (remotePlan .reference)).run.Path (remoteTrace .reference) ∧
    (remoteTrace .reference)[18]?.bind executed = some (remoteRequest, 0) ∧
    remoteRequest.executionDomain ≠ .reference ∧
    ∀ probe answer, ⟨.providerProbe probe, answer⟩ ∉ remoteTrace .reference := by
  refine ⟨Prog.exchanges_path .., by decide +kernel, by decide, ?_⟩
  have unprobed : (remoteTrace .reference).all (fun exchange => !isProbe exchange) = true := by
    decide +kernel
  intro probe answer member
  have silent := List.all_eq_true.mp unprobed _ member
  cases silent

end NousKernel
