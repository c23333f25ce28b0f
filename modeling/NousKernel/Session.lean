import NousKernel.Attempt

/-!
Whole runs of one kernel: commands one after another, each under its own choices
of the environment, with a crash wherever the choices end, restarts, and recovery.
Every world a session reaches is sound: its history keeps the law.
-/

set_option autoImplicit false

namespace NousKernel

open Resumption Resumption.Discipline

/-! ### Plans and recovery keep the law -/

section Programs

variable {Input : OperationRequest → Prop} {base : List Event}
  {Allowed : Call → World → Choice → Prop} {first w : World} {α β : Type}

/-- Two steps that each leave the process ready leave it ready. -/
theorem safe_through {x : Fallible α} {f : α → Fallible β}
    (head : (sequential Input base Allowed).Safe (fun _ later => Restored first later) x.run w)
    (tail : ∀ value later, Restored first later →
      (sequential Input base Allowed).Safe (fun _ last => Restored first last)
        (f value).run later) :
    (sequential Input base Allowed).Safe (fun _ last => Restored first last) (x >>= f).run w := by
  refine Safe.bindExcept sequential_quiet (head.mono ?_)
  intro result later _ restored
  cases result with
  | ok value => exact tail value later restored
  | error error => exact safe_done fun _ => restored

/-- An entry whose order holds, whatever becomes of it. -/
theorem safe_noted {r : OperationRequest} {entryType : EntryType} {objectType phase key : String}
    {payload : Payload} (restored : Restored first w)
    (written : Written Input (entryOf r entryType objectType phase payload key))
    (ordered : Ordered w.history (entryOf r entryType objectType phase payload key)) :
    (sequential Input base Allowed).Safe (fun _ later => Restored first later)
      (append r entryType objectType phase payload key).run w :=
  safe_append written (fun _ => ordered)
    (fun _ appends => restored.trans (.of_same appends.process))
    (fun _ _ _ refuses => restored.trans (.of_same refuses.process))

theorem safe_recordCandidateOutcome {r : OperationRequest} {provider phase reason : String}
    (known : Input r)
    (listed : phase ∈ ["EVALUATING", "UNAVAILABLE", "INCOMPATIBLE", "EXECUTION_FAILED"])
    (restored : Restored first w) :
    (sequential Input base Allowed).Safe (fun _ later => Restored first later)
      (recordCandidateOutcome r provider phase reason).run w :=
  safe_noted restored (.candidate r provider phase reason known listed)
    (.free (by simp [entryOf]) (by simp [entryOf]) (by simp [entryOf]))

theorem safe_effectiveCapabilities {candidate : FailoverCandidate} (restored : Restored first w) :
    (sequential Input base Allowed).Safe (fun _ later => Restored first later)
      (effectiveCapabilities candidate).run w := by
  unfold effectiveCapabilities
  split
  · exact safe_done fun _ => restored
  · refine safe_through ?_ fun _ _ restored => safe_done fun _ => restored
    unfold probeProvider
    split
    · exact safe_done fun _ => restored
    · exact safe_perform fun valid _ _ =>
        ⟨valid.tick _, restored.trans (.of_same (.tick w _))⟩

theorem safe_rebindAfter {stepId toProvider : String} {candidate : FailoverCandidate}
    {report : CompatibilityReport} {progress : StepProgress} (known : Input candidate.request)
    (restored : Restored first w) :
    (sequential Input base Allowed).Safe (fun _ later => Restored first later)
      (rebindAfter stepId candidate toProvider report progress).run w := by
  unfold rebindAfter
  split
  · exact safe_done fun _ => restored
  · refine safe_through ?_ fun _ _ restored => safe_done fun _ => restored
    refine safe_through (safe_noted restored (.rebound _ known) ?_) ?_
    · exact ⟨by simp [entryOf], by simp [entryOf], by simp [entryOf], by simp [entryOf],
        by simp [entryOf]⟩
    · intro _ later restored
      exact safe_noted restored (.providerRebind _ _ _ _ known)
        (.free (by simp [entryOf]) (by simp [entryOf]) (by simp [entryOf]))

theorem safe_execute {r : OperationRequest} (known : Input r) (restored : Restored first w) :
    (sequential Input base Allowed).Safe (fun _ later => Restored first later)
      (execute r).run w :=
  (safe_attempt known).mono fun _ _ _ ending => restored.trans ending.1

theorem safe_tryCandidate {plan : ContinuityPlan} {step : ContinuityStep} {operationId : String}
    {candidate : FailoverCandidate} {progress : StepProgress} (known : Input candidate.request)
    (restored : Restored first w) :
    (sequential Input base Allowed).Safe (fun _ later => Restored first later)
      (tryCandidate plan step operationId candidate progress).run w := by
  refine safe_through (safe_recordCandidateOutcome known (by simp) restored) fun _ _ restored => ?_
  refine safe_through (safe_done fun _ => restored) fun _ _ restored => ?_
  refine Safe.bindLift sequential_quiet ((safe_effectiveCapabilities restored).mono ?_)
  intro capabilities later _ restored
  cases capabilities with
  | error error =>
      dsimp only
      split
      · exact safe_through (safe_recordCandidateOutcome known (by simp) restored)
          fun _ _ restored => safe_done fun _ => restored
      · exact safe_done fun _ => restored
  | ok effective =>
      dsimp only
      split
      · exact safe_through (safe_recordCandidateOutcome known (by simp) restored)
          fun _ _ restored => safe_done fun _ => restored
      · refine safe_through (safe_rebindAfter known restored) fun progress _ restored => ?_
        refine Safe.bindLift sequential_quiet ((safe_execute known restored).mono ?_)
        intro result last _ restored
        cases result with
        | ok execution => exact safe_done fun _ => restored
        | error error =>
            dsimp only
            split
            · exact safe_through (safe_recordCandidateOutcome known (by simp) restored)
                fun _ _ restored => safe_done fun _ => restored
            · exact safe_done fun _ => restored

theorem safe_tryCandidates {plan : ContinuityPlan} {step : ContinuityStep} {operationId : String}
    (candidates : List FailoverCandidate) (progress : StepProgress)
    (known : ∀ candidate ∈ candidates, Input candidate.request) (restored : Restored first w) :
    (sequential Input base Allowed).Safe (fun _ later => Restored first later)
      (tryCandidates plan step operationId candidates progress).run w := by
  induction candidates generalizing w progress with
  | nil => exact safe_done fun _ => restored
  | cons candidate rest ih =>
      refine safe_through (safe_tryCandidate (known candidate (.head _)) restored) ?_
      rintro ⟨execution | execution, progress⟩ later restored
      · exact ih progress (fun other member => known other (.tail _ member)) restored
      · exact safe_done fun _ => restored

theorem safe_runStep {plan : ContinuityPlan} {step : ContinuityStep}
    {failovers : List FailoverRecord}
    (known : ∀ candidate ∈ step.candidates, Input candidate.request)
    (restored : Restored first w) :
    (sequential Input base Allowed).Safe (fun _ later => Restored first later)
      (runStep plan step failovers).run w := by
  unfold runStep
  split
  · exact safe_done fun _ => restored
  · rename_i head rest candidates
    refine safe_through (safe_committedReceipt
      (fun _ => restored.trans (.of_same (.tick w _)))
      (fun _ _ _ => restored.trans (.of_same (.tick w _)))) ?_
    rintro (_ | receipt) later restored
    · refine safe_through (safe_tryCandidates _ _ (candidates ▸ known) restored) ?_
      rintro ⟨execution | execution, progress⟩ last restored
      · exact safe_done fun _ => restored
      · exact safe_done fun _ => restored
    · exact safe_done fun _ => restored

theorem safe_runSteps {plan : ContinuityPlan} (steps : List ContinuityStep)
    (completed : List RuntimeExecution) (failovers : List FailoverRecord)
    (known : ∀ step ∈ steps, ∀ candidate ∈ step.candidates, Input candidate.request)
    (restored : Restored first w) :
    (sequential Input base Allowed).Safe (fun _ later => Restored first later)
      (runSteps plan steps completed failovers).run w := by
  induction steps generalizing w completed failovers with
  | nil => exact safe_done fun _ => restored
  | cons step rest ih =>
      refine safe_through (safe_runStep (known step (.head _)) restored) ?_
      rintro ⟨execution, failovers⟩ later restored
      exact ih _ _ (fun other member => known other (.tail _ member)) restored

theorem safe_executeContinuously {plan : ContinuityPlan}
    (known : ∀ step ∈ plan.steps, ∀ candidate ∈ step.candidates, Input candidate.request)
    (restored : Restored first w) :
    (sequential Input base Allowed).Safe (fun _ later => Restored first later)
      (executeContinuously plan).run w := by
  unfold executeContinuously
  split
  · exact safe_done fun _ => restored
  · exact safe_runSteps plan.steps [] [] known restored

/-! ### Recovery -/

/-- One entry leaves the requests of the scan alone or adds its own payload. -/
theorem scanStep_requests (scan : LeaseScan) (entry : Entry) :
    (scanStep scan entry).requests = scan.requests ∨
      ∃ request, entry.payload = .request request ∧
        (scanStep scan entry).requests = scan.requests.insert request.workloadId request := by
  unfold scanStep
  split
  · cases carried : entry.payload with
    | request request => exact .inr ⟨request, rfl, rfl⟩
    | _ => exact .inl rfl
  · refine .inl ?_
    split
    · rfl
    · split
      · split <;> rfl
      · split
        · split <;> rfl
        · rfl

/-- Every request of the scan is the payload of a journaled entry. -/
theorem scan_requests_origin {entries : List Entry} {workloadId : String} {r : OperationRequest}
    (found : (scanLeases entries).requests.lookup workloadId = some r) :
    ∃ entry ∈ entries, entry.payload = .request r := by
  induction entries using List.reverseRecOn with
  | nil => simp [scanLeases] at found
  | append_singleton entries entry ih =>
      rw [scanLeases, List.foldl_append] at found
      simp only [List.foldl_cons, List.foldl_nil] at found
      have old : (scanLeases entries).requests.lookup workloadId = some r →
          ∃ entry' ∈ entries ++ [entry], entry'.payload = .request r := fun found =>
        have ⟨other, member, carried⟩ := ih found
        ⟨other, List.mem_append_left _ member, carried⟩
      rcases scanStep_requests (scanLeases entries) entry with same | ⟨request, carried, inserted⟩
      · exact old (same ▸ found)
      · rw [show (scanStep (List.foldl scanStep {} entries) entry).requests = _ from inserted]
          at found
        by_cases key : workloadId = request.workloadId
        · rw [key, AList.lookup_insert, Option.some.injEq] at found
          exact ⟨entry, by simp, found ▸ carried⟩
        · rw [AList.lookup_insert_ne key] at found
          exact old found

theorem safe_revokeLeases {requests : AList (fun _ : String => OperationRequest)}
    (known : ∀ workloadId r, requests.lookup workloadId = some r → Input r)
    (orphans : List (String × String × FencedLease)) (restored : Restored first w) :
    (sequential Input base Allowed).Safe (fun _ later => Restored first later)
      (revokeLeases requests orphans).run w := by
  induction orphans generalizing w with
  | nil => exact safe_done fun _ => restored
  | cons orphan rest ih =>
      refine safe_through ?_ fun _ _ restored => ih restored
      unfold revokeLease
      split
      · exact safe_done fun _ => restored
      · rename_i r found
        exact safe_noted restored (.revoked r _ _ _ _ (known _ _ found))
          (.free (by simp [entryOf]) (by simp [entryOf]) (by simp [entryOf]))

/-- A request that the journal holds was submitted. -/
def Closed (Input : OperationRequest → Prop) (base : List Event) : Prop :=
  ∀ w, Sound Input base w → ∀ entry ∈ w.journal.entries, ∀ r,
    entry.payload = .request r → Input r

theorem safe_revokeOrphanedLeases {order : MapOrder} (closed : Closed Input base)
    (restored : Restored first w) :
    (sequential Input base Allowed).Safe (fun _ later => Restored first later)
      (revokeOrphanedLeases order).run w := by
  refine safe_sound fun valid => ?_
  refine Safe.bindExcept sequential_quiet (safe_mapError (safe_readFrom ?_ ?_))
  · intro elapsed
    refine safe_revokeLeases (fun workloadId r found => ?_) _ (restored.trans (.of_same (.tick w _)))
    rw [Journal.readFrom_zero] at found
    obtain ⟨entry, member, carried⟩ := scan_requests_origin found
    exact closed w valid entry member r carried
  · intro _ elapsed error
    exact safe_done fun _ => restored.trans (.of_same (.tick w _))

theorem safe_recoverPending (pending : List OperationRequest) (recovered : List RuntimeExecution)
    (known : ∀ r ∈ pending, Input r) (restored : Restored first w) :
    (sequential Input base Allowed).Safe (fun _ later => Restored first later)
      (recoverPending pending recovered).run w := by
  induction pending generalizing w recovered with
  | nil => exact safe_done fun _ => restored
  | cons r rest ih =>
      unfold recoverPending
      split
      · refine safe_through ((safe_attempt (known r (.head _))).mono
          fun _ _ _ ending => restored.trans ending.1) ?_
        intro execution later restored
        exact ih _ (fun other member => known other (.tail _ member)) restored
      · exact safe_done fun _ => restored

theorem safe_recover {order : MapOrder} (closed : Closed Input base)
    (restored : Restored first w) :
    (sequential Input base Allowed).Safe (fun _ later => Restored first later)
      (recover order).run w := by
  refine safe_through (safe_revokeOrphanedLeases closed restored) fun _ later restored => ?_
  refine safe_sound fun valid => ?_
  refine Safe.bindExcept sequential_quiet
    (Safe.bindExcept sequential_quiet (safe_mapError (safe_readFrom ?_ ?_)))
  · intro elapsed
    refine safe_done fun _ => safe_recoverPending _ _ (fun r member => ?_)
      (restored.trans (.of_same (.tick later _)))
    rw [Journal.readFrom_zero] at member
    have pending := mem_pendingValues.mp ((order.pendingPerm _).mem_iff.mp member)
    obtain ⟨-, entry, member, -, -, carried⟩ := pendingIn_origin pending
    exact closed later valid entry member r carried
  · intro _ elapsed error
    exact safe_done fun _ => safe_done fun _ => restored.trans (.of_same (.tick later _))

end Programs

/-! ### Sessions -/

/-- What is asked of a kernel. `restart` is a stop without a crash. -/
inductive Command where
  | execute (request : OperationRequest)
  | executeContinuously (plan : ContinuityPlan)
  | recover (order : MapOrder)
  | shutdown
  | restart

/-- The requests a command submits. -/
def Command.requests : Command → List OperationRequest
  | execute request => [request]
  | executeContinuously plan => plan.steps.flatMap fun step => step.candidates.map (·.request)
  | _ => []

def Command.task : Command → Task Unit
  | execute request => do
      let _ ← (NousKernel.execute request).run
      return ()
  | executeContinuously plan => do
      let _ ← (NousKernel.executeContinuously plan).run
      return ()
  | recover order => do
      let _ ← (NousKernel.recover order).run
      return ()
  | shutdown => Task.coreShutdown
  | restart => return ()

def Command.restarts : Command → Bool
  | restart => true
  | _ => false

/-- One command. Where its choices end before it does, the process has crashed
there. -/
def World.perform (w : World) (command : Command) (choices : List Choice) : World :=
  let result := command.task.run kernel w choices
  if command.restarts || result.1.isNone then result.2.restart else result.2

def World.session (w : World) (steps : List (Command × List Choice)) : World :=
  steps.foldl (fun w step => w.perform step.1 step.2) w

section Sessions

variable {Input : OperationRequest → Prop}

theorem Written.input {entry : Entry} {r : OperationRequest}
    (written : Written Input entry) (carried : entry.payload = .request r) : Input r := by
  cases written <;> simp_all [entryOf, profileEntry, failurePayload]

/-- Every row of a lawful journal is one that the runtime writes. -/
theorem Lawful.recorded {history : List Event} (lawful : Lawful Input [] history) :
    ∀ entry ∈ entriesOf history, Recorded Input entry := by
  induction lawful with
  | start => simp
  | next history event lawful law ih =>
      intro entry member
      rw [entriesOf_append, List.mem_append] at member
      rcases member with old | last
      · exact ih entry old
      · rw [mem_entriesOf, List.mem_singleton] at last
        subst last
        exact law.1

theorem Lawful.snoc {history : List Event} {event : Event}
    (lawful : Lawful Input [] (history ++ [event])) :
    Lawful Input [] history ∧ Law Input history event := by
  generalize grown : history ++ [event] = whole at lawful
  cases lawful with
  | start => simp at grown
  | next before last lawful law =>
      obtain ⟨rfl, same⟩ := List.append_inj' grown rfl
      cases same
      exact ⟨lawful, law⟩

/-- Every event of a lawful history kept the law when it happened. -/
theorem Lawful.law_at {before after : List Event} {event : Event}
    (lawful : Lawful Input [] (before ++ event :: after)) :
    Lawful Input [] before ∧ Law Input before event := by
  induction after using List.reverseRecOn with
  | nil => exact lawful.snoc
  | append_singleton after last ih =>
      have longer : Lawful Input [] ((before ++ event :: after) ++ [last]) := by
        simpa using lawful
      exact ih longer.snoc.1

theorem closed_of_empty : Closed Input [] := by
  intro w valid entry member r carried
  obtain ⟨written, sequence, now, shape, rfl⟩ :=
    valid.lawful.recorded entry (valid.linked ▸ member)
  exact shape.input carried

theorem Sound.restart {base : List Event} {w : World} (valid : Sound Input base w) :
    Sound Input base w.restart where
  linked := by simpa [World.restart, entriesOf] using valid.linked
  lawful := .next _ _ valid.lawful trivial

theorem Fresh.restart (w : World) : Fresh w.restart where
  leases := rfl
  node := by
    simp only [World.restart, LeaseManager.new, String.toList_append, List.mem_append, not_or]
    exact ⟨by decide, w.uuids.hyphenated _⟩
  duration := rfl
  cancelled := by simp [World.restart]

theorem Fresh.boot (uuids : UuidSource) (clock : Int) : Fresh (.boot uuids clock) where
  leases := rfl
  node := by
    simp only [World.boot, LeaseManager.new, String.toList_append, List.mem_append, not_or]
    exact ⟨by decide, uuids.hyphenated _⟩
  duration := rfl
  cancelled := by simp [World.boot]

/-- Every command keeps the law and leaves no lease in memory. -/
theorem safe_command {base : List Event} {w : World} {command : Command}
    (closed : Closed Input base) (known : ∀ r ∈ command.requests, Input r) :
    (sequential Input base fun _ _ _ => True).Safe
      (fun _ later => Fresh w → Fresh later) command.task w := by
  have same : Restored w w := ⟨rfl, id⟩
  cases command with
  | execute request =>
      refine Safe.bind sequential_quiet ((safe_execute (known request (.head _)) same).mono ?_)
      exact fun _ _ _ restored => safe_done fun _ => restored.fresh
  | executeContinuously plan =>
      refine Safe.bind sequential_quiet ((safe_executeContinuously ?_ same).mono ?_)
      · intro step inPlan candidate inStep
        exact known _ (List.mem_flatMap.mpr ⟨step, inPlan, List.mem_map_of_mem inStep⟩)
      · exact fun _ _ _ restored => safe_done fun _ => restored.fresh
  | recover order =>
      refine Safe.bind sequential_quiet ((safe_recover closed same).mono ?_)
      exact fun _ _ _ restored => safe_done fun _ => restored.fresh
  | shutdown =>
      exact safe_perform fun valid _ _ => ⟨⟨valid.linked, valid.lawful⟩,
        fun fresh => ⟨fresh.leases, fresh.node, fresh.duration, fresh.cancelled⟩⟩
  | restart => exact safe_done fun _ => id

theorem perform_sound {w : World} {command : Command} (valid : Sound Input [] w) (fresh : Fresh w)
    (known : ∀ r ∈ command.requests, Input r) (choices : List Choice) :
    Sound Input [] (w.perform command choices) ∧ Fresh (w.perform command choices) := by
  obtain ⟨kept, -, ending⟩ := (safe_command (w := w) closed_of_empty known).run (fun _ => rfl)
    choices (fun _ _ _ _ => trivial) valid
  by_cases stops : (command.restarts || (command.task.run kernel w choices).1.isNone) = true
  · rw [show w.perform command choices = _ from if_pos stops]
    exact ⟨Sound.restart kept, .restart _⟩
  · rw [show w.perform command choices = _ from if_neg stops]
    simp only [Bool.or_eq_true, not_or, Bool.not_eq_true, Option.isNone_eq_false_iff,
      Option.isSome_iff_exists] at stops
    obtain ⟨-, ⟨value, rest⟩, returned⟩ := stops
    exact ⟨kept, ending value rest returned fresh⟩

/-- Every world that a session reaches keeps the law. -/
theorem session_sound {w : World} (steps : List (Command × List Choice))
    (valid : Sound Input [] w) (fresh : Fresh w)
    (known : ∀ step ∈ steps, ∀ r ∈ step.1.requests, Input r) :
    Sound Input [] (w.session steps) ∧ Fresh (w.session steps) := by
  induction steps generalizing w with
  | nil => exact ⟨valid, fresh⟩
  | cons step rest ih =>
      obtain ⟨kept, ready⟩ := perform_sound valid fresh (known step (.head _)) step.2
      exact ih kept ready fun other member => known other (.tail _ member)

theorem boot_sound (uuids : UuidSource) (clock : Int) :
    Sound Input [] (.boot uuids clock) :=
  ⟨rfl, .start⟩

/-- The session of a kernel on a new journal. -/
def booted (uuids : UuidSource) (clock : Int) (steps : List (Command × List Choice)) : World :=
  (World.boot uuids clock).session steps

theorem booted_sound (uuids : UuidSource) (clock : Int) (steps : List (Command × List Choice))
    (known : ∀ step ∈ steps, ∀ r ∈ step.1.requests, Input r) :
    Sound Input [] (booted uuids clock steps) :=
  (session_sound steps (boot_sound uuids clock) (.boot uuids clock) known).1

end Sessions

/-! ### Sample values -/

/-- A request to the reference provider. -/
def sampleRequest (operationId workloadId providerRevision : String)
    (delivery : DeliverySemantics) : OperationRequest where
  operationId := operationId
  workloadId := workloadId
  stepId := "step-1"
  backend := "reference"
  executionDomain := .reference
  model := ""
  endpoint := ""
  credentialEnv := ""
  providerEntrypoint := ""
  input := "input"
  delivery := delivery
  snapshot :=
    { modelRevision := "model-1"
      providerRevision := providerRevision
      promptRevision := "prompt-1"
      toolRevision := "tool-1"
      knowledgeRevision := "knowledge-1"
      policyRevision := "policy-1"
      capabilityRevision := "capability-1"
      contextRevision := "context-1" }
  timeoutMs := 1000

def sampleReceipt (operationId result : String) : OperationReceipt where
  operationId := operationId
  inputDigest := "input-digest"
  outputDigest := "output-digest"
  snapshotDigest := "snapshot-digest"
  providerRevision := "revision-1"
  result := result
  completedAtUs := 1

/-- The provider answers, and nothing else happens. -/
def answering (receipt : OperationReceipt) : Choice := { outcome := .ok receipt }

/-- The provider fails. -/
def failing : Choice := {}

end NousKernel
