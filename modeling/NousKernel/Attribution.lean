import NousKernel.Custody

/-!
Whose receipts are committed when the providers are processes. The kernel fills in the receipt
of an external process itself, and the bundled worker fills in that of the request it was
told. So a commit of a kernel is bound to a request that was made under the ids it is filed
under, whatever runs at a time and is cut short. Two requests may share these ids and ask for
different things: the second then gets, and files once more, the receipt of the first.
-/

set_option autoImplicit false

namespace NousKernel

open Resumption Resumption.Prog

/-! ### Provider processes -/

/-- Where the provider of a kernel is the bundled worker: both sides of the pipe decode what
the other wrote, and a child that ends has done what the worker does. -/
structure ProviderHost.Bundles (host : ProviderHost) (worker : WorkerHost) : Prop where
  command : ∀ command stdin, host.serde.command command = .ok stdin →
    worker.command stdin = .ok command
  response : ∀ response stdout, worker.response response = .ok stdout →
    host.serde.response stdout = .ok response
  child : ∀ launch stdin timeoutMs status stdout stderr, launch.program = host.program →
    launch.arguments = ["--stdio-once"] →
      host.child launch stdin timeoutMs = .exited status stdout stderr →
        stdout = (worker.main launch.environment launch.arguments stdin).2 ∧
          (status.success = true → (worker.main launch.environment launch.arguments stdin).1 = 0)

section Receipts

variable {host : ProviderHost} {worker : WorkerHost} {request : OperationRequest}

/-- A response comes from a child that was told the command and ended. -/
theorem invoke_ok {command : ProviderCommand} {credentialEnv operationId : String}
    {timeoutMs : Nat} {response : ProviderResponse}
    (invoked : (host.invoke command credentialEnv timeoutMs operationId).2 = .ok response) :
    ∃ credential stdin status stdout stderr, host.stdin command = .ok stdin ∧
      host.child (host.launch command credentialEnv credential) stdin (max timeoutMs 1) =
        .exited status stdout stderr ∧
      host.concluded command status stdout stderr = .ok response := by
  unfold ProviderHost.invoke at invoked
  cases authorized : authorizedCredential host.environment credentialEnv with
  | error error => simp [authorized] at invoked
  | ok credential =>
      simp only [authorized] at invoked
      cases spawned : host.spawn (host.launch command credentialEnv credential) with
      | error reason => simp [spawned] at invoked
      | ok started =>
          simp only [spawned, ProviderHost.converse] at invoked
          cases told : host.stdin command with
          | error reason => simp [told] at invoked
          | ok stdin =>
              simp only [told] at invoked
              cases ended : host.child (host.launch command credentialEnv credential) stdin
                  (max timeoutMs 1) with
              | unwritable reason => simp [ended] at invoked
              | unwaitable reason => simp [ended] at invoked
              | cancelled => simp [ended] at invoked
              | expired => simp [ended] at invoked
              | exited status stdout stderr =>
                  simp only [ended] at invoked
                  exact ⟨credential, stdin, status, stdout, stderr, rfl, ended, invoked⟩

theorem concluded_ok {command : ProviderCommand} {status : ExitStatus} {stdout : Bytes}
    {stderr : String} {response : ProviderResponse}
    (concluded : host.concluded command status stdout stderr = .ok response) :
    status.success = true ∧ response.ok = true ∧ host.understand command stdout = .ok response := by
  unfold ProviderHost.concluded at concluded
  cases said : host.understand command stdout with
  | error error =>
      rw [said] at concluded
      dsimp only at concluded
      split_ifs at concluded
  | ok other =>
      rw [said] at concluded
      dsimp only at concluded
      split_ifs at concluded with refused failed
      cases concluded
      exact ⟨by simpa using failed, by simpa using refused, rfl⟩

/-- An external process only supplies the result. -/
theorem external_receipt {serde : ProviderSerde} {now : Int} {stdout : Bytes}
    {response : ProviderResponse} {receipt : OperationReceipt}
    (said : normalizeExternalProviderResponse serde now (.Execute request) stdout = .ok response)
    (carried : response.receipt = some receipt) : Binds request receipt := by
  unfold normalizeExternalProviderResponse at said
  cases parsed : serde.parse stdout with
  | error reason => simp [parsed] at said
  | ok body =>
      simp only [parsed] at said
      split_ifs at said
      · cases said
        cases carried
      · cases produced : (body.get "output").bind Value.asStr with
        | none => simp [produced] at said
        | some result =>
            simp only [produced] at said
            cases said
            cases carried
            exact binds_externalReceipt request result now

/-- A worker that ends well has written its response. -/
theorem main_zero {environment : Environment} {arguments : List String} {stdin : Bytes}
    (ended : (worker.main environment arguments stdin).1 = 0) :
    ∃ response, (worker.run environment arguments stdin).result = .ok response ∧
      worker.response response = .ok (worker.main environment arguments stdin).2 := by
  unfold WorkerHost.main at ended ⊢
  cases ran : (worker.run environment arguments stdin).result with
  | ok response =>
      simp only [ran] at ended ⊢
      cases written : worker.response response with
      | error reason => simp [written] at ended
      | ok output => exact ⟨response, rfl, written⟩
  | error stop =>
      cases stop with
      | crashed => simp [ran] at ended
      | failed error =>
          simp only [ran] at ended
          cases written : worker.response
            ⟨false, none, none, "PROVIDER_EXECUTION_FAILED", error.display⟩ with
          | error reason => simp [written] at ended
          | ok output => simp [written] at ended

/-- The bundled worker answers with the receipt of the request it was told. -/
theorem worker_receipt {environment : Environment} {stdin : Bytes} {response : ProviderResponse}
    {receipt : OperationReceipt} (decodes : worker.command stdin = .ok (.Execute request))
    (ran : (worker.run environment ["--stdio-once"] stdin).result = .ok response)
    (carried : response.receipt = some receipt) : Binds request receipt := by
  unfold WorkerHost.run at ran
  rw [if_neg (by simp)] at ran
  obtain ⟨command, known, obeyed⟩ := Emission.bind_ok.mp ran
  rw [decodes] at known
  cases known
  obtain ⟨result, -, answered⟩ := Emission.bind_ok.mp obeyed
  cases answered
  cases carried
  exact binds_externalReceipt request result worker.now

/-- Every receipt of a provider process is bound to its request. -/
theorem execute_binds (bundles : host.Bundles worker) {receipt : OperationReceipt}
    (executed : host.execute request = .ok receipt) : Binds request receipt := by
  unfold ProviderHost.execute at executed
  cases invoked : (host.invoke (.Execute request) request.credentialEnv request.timeoutMs
      request.operationId).2 with
  | error error => simp [invoked] at executed
  | ok response =>
      simp only [invoked] at executed
      have carried : response.receipt = some receipt := by
        cases found : response.receipt with
        | none => simp [found] at executed
        | some other =>
            simp only [found] at executed
            rw [Except.ok.inj executed]
      obtain ⟨credential, stdin, status, stdout, stderr, told, ended, concluded⟩ :=
        invoke_ok invoked
      obtain ⟨success, -, said⟩ := concluded_ok concluded
      cases entrypoint : (ProviderCommand.Execute request).externalEntrypoint with
      | some path =>
          simp only [ProviderHost.understand, entrypoint] at said
          exact external_receipt said carried
      | none =>
          simp only [ProviderHost.understand, entrypoint] at said
          simp only [ProviderHost.stdin, entrypoint] at told
          have program : (host.launch (.Execute request) request.credentialEnv
              credential).program = host.program := by simp [ProviderHost.launch, entrypoint]
          have arguments : (host.launch (.Execute request) request.credentialEnv
              credential).arguments = ["--stdio-once"] := by
            simp [ProviderHost.launch, entrypoint]
          obtain ⟨output, code⟩ := bundles.child _ _ _ _ _ _ program arguments ended
          rw [arguments] at output code
          obtain ⟨written, ran, serialized⟩ := main_zero (code success)
          rw [← output] at serialized
          rw [bundles.response written stdout serialized] at said
          cases said
          exact worker_receipt (bundles.command _ stdin told) ran carried

end Receipts

/-! ### Rows -/

/-- A receipt or a commit is filed under the ids of a known request and is bound to it. -/
def FiledFor (known : OperationRequest → Prop) (entry : Entry) : Prop :=
  entry.objectType = "StepCommit" ∨ entry.objectType = "OperationReceipt" →
    ∃ r, known r ∧ entry.workloadId = r.workloadId ∧ entry.objectId = r.operationId ∧
      ∃ receipt, entry.payload = .receipt receipt ∧ Binds r receipt

def Attributed (known : OperationRequest → Prop) (entries : List Entry) : Prop :=
  ∀ entry ∈ entries, FiledFor known entry

/-- A receipt of a known request under the ids of `r`, be it `r` or another. -/
def Attests (known : OperationRequest → Prop) (r : OperationRequest)
    (receipt : OperationReceipt) : Prop := ∃ q, known q ∧ SameIds q r ∧ Binds q receipt

section Rows

variable {known : OperationRequest → Prop} {r : OperationRequest} {entries : List Entry}

theorem Attributed.sourced (attributed : Attributed known entries) :
    Sourced r (Attests known r) True False entries := by
  have fine : ∀ entry ∈ entries,
      entry.objectType = "StepCommit" ∨ entry.objectType = "OperationReceipt" →
      entry.workloadId = r.workloadId → entry.objectId = r.operationId →
      ∀ receipt, entry.payload = .receipt receipt → Attests known r receipt := by
    intro entry member kind workload operation receipt carried
    obtain ⟨q, mine, sameWorkload, sameOperation, other, payload, binds⟩ :=
      attributed entry member kind
    rw [carried] at payload
    cases payload
    have same : SameIds q r :=
      ⟨workload.symm.trans sameWorkload, operation.symm.trans sameOperation⟩
    exact ⟨q, mine, same, binds⟩
  constructor
  · intro receipt found
    obtain ⟨entry, member, -, kind, workload, operation, carried⟩ := committedIn_origin found
    exact fine entry member (.inl kind) workload operation receipt carried
  · intro receipt found
    obtain ⟨entry, member, kind, workload, operation, carried⟩ := receivedIn_origin found
    exact fine entry member (.inr kind) workload operation receipt carried
  · exact fun _ => trivial
  · exact False.elim

/-- A row of an attempt that fits is filed. -/
theorem Row.filed {kind : RowKind} {entry : Entry} (row : Row r kind entry)
    (fits : Fits r (Attests known r) entry) : FiledFor known entry := by
  intro kind
  obtain ⟨receipt, carried⟩ := fits.carries kind
  obtain ⟨q, mine, same, binds⟩ := fits.fine receipt carried
  have place : entry.workloadId = r.workloadId ∧ entry.objectId = r.operationId := by
    cases row with
    | profile profile => simp [profileEntry] at kind
    | _ => exact ⟨rfl, rfl⟩
  exact ⟨q, mine, place.1.trans same.workload, place.2.trans same.operation, receipt, carried,
    binds⟩

end Rows

/-! ### Calls -/

/-- The outcome of a provider is that of a process. -/
def Provided (call : Call) (_ : World) (choice : Choice) : Prop :=
  match call with
  | .providerOutcome r => ∃ host worker, ProviderHost.Bundles host worker ∧
      choice.outcome = host.execute r
  | _ => True

section Turns

variable {known : OperationRequest → Prop} {r : OperationRequest} {w : World} {call : Call}
  {choice : Choice}

/-- In an attributed journal an attempt finds what is its own, and a process answers it so. -/
theorem sourcing_provided (mine : known r)
    (sourced : Sourced r (Attests known r) True False w.journal.entries)
    (concerns : Concerns r call) (provided : Provided call w choice) :
    Sourcing r (Attests known r) True call (kernelAnswer call w choice).1 := by
  have honest : Honest (fun _ => True) call (kernelAnswer call w choice).1 :=
    honest_answer call w choice trivial
  cases concerns with
  | readWorkload workloadId =>
      simp only [kernelAnswer, storageRead]
      cases choice.storage with
      | some error => trivial
      | none =>
          intro same
          rw [same]
          exact ⟨sourced.received, sourced.unreceived⟩
  | providerOutcome =>
      obtain ⟨host, worker, bundles, outcome⟩ := provided
      change Sourcing r (Attests known r) True (.providerOutcome r) choice.outcome
      rw [outcome]
      cases executed : host.execute r with
      | error error => trivial
      | ok receipt => exact fun _ => ⟨r, mine, ⟨rfl, rfl⟩, execute_binds bundles executed⟩
  | grantFenced =>
      revert honest
      generalize (kernelAnswer _ w choice).1 = granted
      intro honest
      cases granted with
      | ok fenced => exact honest
      | error error => trivial
  | _ => trivial

/-- Every call of an attempt keeps the journal attributed. -/
theorem Attributed.answer (attributed : Attributed known w.journal.entries)
    (supplies : Supplies r r (Attests known r) call) :
    Attributed known (kernelAnswer call w choice).2.journal.entries := by
  obtain ⟨concerns, fitting⟩ := supplies
  by_cases appends : ∃ entry, call = .append entry
  · obtain ⟨entry, rfl⟩ := appends
    have fits := fitting entry rfl
    obtain ⟨key, keyed, -⟩ := fits.keyed
    have filed : FiledFor known entry := by
      cases concerns with
      | append kind entry row => exact row.filed fits
    rcases answer_append_cases (w := w) entry choice keyed with
      ⟨same, -⟩ | ⟨-, sequence, now, longer, -⟩
    · rw [same]
      exact attributed
    · rw [longer]
      intro other member
      rcases List.mem_append.mp member with earlier | last
      · exact attributed other earlier
      · obtain rfl := List.mem_singleton.mp last
        exact filed
  · rw [answer_journal choice fun entry same => appends ⟨entry, same⟩]
    exact attributed

end Turns

/-! ### Runs -/

/-- A program that leaves the journal alone, whatever it is answered. -/
def Bystander (p : Task (Except KernelError RuntimeExecution)) : Prop :=
  p.Calls (fun _ _ => True) (fun call => ∀ entry, call ≠ .append entry) fun _ => True

/-- The worlds of a kernel that runs attempts of known requests beside bystanders, in any
order of their calls, again and again, and that may crash at any call. -/
inductive Lived (known : OperationRequest → Prop) : World → Prop
  | boot (uuids : UuidSource) (clock : Int) : Lived known (.boot uuids clock)
  | turns {w : World} (lived : Lived known w)
      (threads : List (Task (Except KernelError RuntimeExecution)))
      (kinds : ∀ p ∈ threads, Bystander p ∨
        ∃ r recovered, known r ∧ p = (attempt r recovered).run)
      (schedule : List (Nat × Choice))
      (provided : Pool.Along kernel Provided ⟨w, threads⟩ schedule) :
      Lived known (Pool.run kernel ⟨w, threads⟩ schedule).world
  | restart {w : World} (lived : Lived known w) : Lived known w.restart

section Kept

variable {known : OperationRequest → Prop}

/-- The calls of an attempt of a known request, or of a bystander. -/
def Mild (known : OperationRequest → Prop) (call : Call) : Prop :=
  (∀ entry, call ≠ .append entry) ∨ ∃ r, known r ∧ Supplies r r (Attests known r) call

/-- What an attributed journal and a process answer to the attempts of known requests. -/
def Faithful (known : OperationRequest → Prop) (call : Call) (answer : Answer call) : Prop :=
  ∀ r, known r → Concerns r call → Sourcing r (Attests known r) True call answer

theorem mild_attempt {r : OperationRequest} (mine : known r) (recovered : Bool) :
    (attempt r recovered).run.Calls (Faithful known) (Mild known) fun _ => True := by
  have supplies : (attempt r recovered).run.Calls (Sourcing r (Attests known r) True)
      (Supplies r r (Attests known r)) fun _ => True :=
    supplies_attempt ⟨rfl, rfl⟩ recovered
  have own := supplies.own fun call answer concerns (faithful : Faithful known call answer) =>
    faithful r mine concerns.1
  exact own.mono (fun call supplied => .inr ⟨r, mine, supplied⟩) fun _ => id

theorem mild_bystander {p : Task (Except KernelError RuntimeExecution)}
    (bystander : Bystander p) : p.Calls (Faithful known) (Mild known) fun _ => True :=
  (bystander.restrict fun _ _ _ => trivial).mono (fun _ quiet => .inl quiet) fun _ => id

/-- One call of any thread: what it is answered, and what it leaves. -/
theorem mild_kept {w : World} {call : Call} {choice : Choice}
    (mild : Mild known call) (attributed : Attributed known w.journal.entries)
    (provided : Provided call w choice) :
    Faithful known call (kernelAnswer call w choice).1 ∧
      Attributed known (kernelAnswer call w choice).2.journal.entries := by
  constructor
  · intro r mine concerns
    exact sourcing_provided mine attributed.sourced concerns provided
  · rcases mild with quiet | ⟨r, mine, supplies⟩
    · rw [answer_journal choice quiet]
      exact attributed
    · exact attributed.answer supplies

theorem Lived.attributed {w : World} (lived : Lived known w) :
    Attributed known w.journal.entries := by
  induction lived with
  | boot uuids clock =>
      intro entry member
      cases member
  | restart lived ih => exact ih
  | turns lived threads kinds schedule provided ih =>
      have keeps : ∀ (index : Nat) (call : Call) (w : World) (choice : Choice),
          Mild known call → Attributed known w.journal.entries → Provided call w choice →
            Faithful known call (kernel.answer call w choice).1 ∧
              Attributed known (kernel.answer call w choice).2.journal.entries := by
        intro index call w choice mild attributed provided
        exact mild_kept mild attributed provided
      refine @Pool.run_calls _ _ _ _ _ kernel _ (fun w => Attributed known w.journal.entries)
        Provided (fun _ _ => True) (fun _ => Faithful known) (fun _ => Mild known) keeps schedule
        provided ih ?_
      intro index p present
      rcases kinds p (List.mem_of_getElem? present) with bystander | ⟨r, recovered, mine, rfl⟩
      · exact mild_bystander bystander
      · exact mild_attempt mine recovered

end Kept

/-- Where the providers are processes, every commit in the journal carries a receipt of a
request made under the ids it is filed under: with the operation, the input and the snapshot of
this request and a result that has the output digest. -/
theorem commits_of_processes_bound (known : OperationRequest → Prop)
    {w : World} (lived : Lived known w) :
    ∀ entry ∈ w.journal.entries, entry.objectType = "StepCommit" →
      ∃ r, known r ∧ entry.workloadId = r.workloadId ∧ entry.objectId = r.operationId ∧
        ∃ receipt, entry.payload = .receipt receipt ∧ Binds r receipt := by
  intro entry member kind
  exact lived.attributed entry member (.inl kind)

/-! ### The reference backend -/

def referenceRequest : OperationRequest :=
  sampleRequest "operation-1" "workload-1" "revision-1" .idempotent

def referenceReceipt : OperationReceipt :=
  externalReceipt referenceRequest (digestText referenceRequest.input) 1

def referenceCommandText : Bytes :=
  asBytes ("\x7b\"type\":\"execute\",\"request\":\x7b\"operation_id\":\"operation-1\"," ++
    "\"workload_id\":\"workload-1\",\"step_id\":\"step-1\",\"backend\":\"reference\"," ++
    "\"execution_domain\":\"reference\",\"model\":\"\",\"endpoint\":\"\"," ++
    "\"credential_env\":\"\",\"provider_entrypoint\":\"\",\"input\":\"input\"," ++
    "\"delivery\":\"IDEMPOTENT\",\"snapshot\":" ++ referenceRequest.snapshot.toJson.text ++
    ",\"timeout_ms\":1000\x7d\x7d")

def referenceResponseText : Bytes :=
  asBytes ("\x7b\"ok\":true,\"receipt\":\x7b\"operation_id\":\"operation-1\"," ++
    "\"input_digest\":\"" ++ referenceReceipt.inputDigest ++ "\",\"output_digest\":\"" ++
    referenceReceipt.outputDigest ++ "\",\"snapshot_digest\":\"" ++
    referenceReceipt.snapshotDigest ++ "\",\"provider_revision\":\"revision-1\"," ++
    "\"result\":\"" ++ referenceReceipt.result ++ "\",\"completed_at_us\":1\x7d," ++
    "\"probe\":null,\"error_code\":\"\",\"error_message\":\"\"\x7d")

def referenceWorker : WorkerHost :=
  { remoteWorker with
    command := fun stdin =>
      if stdin = referenceCommandText then .ok (.Execute referenceRequest)
      else .error "another text"
    response := fun response =>
      if response = .accepted (some referenceReceipt) none then .ok referenceResponseText
      else .error "another response" }

/-- A kernel whose children are the bundled worker. -/
def referenceHost : ProviderHost where
  program := "nous-provider-worker"
  environment := fun name => if name = "PATH" then some "/usr/bin" else none
  serde := {
    command := fun command =>
      if command = .Execute referenceRequest then .ok referenceCommandText
      else .error "another command"
    value := fun _ => .error "another value"
    response := fun stdout =>
      if stdout = referenceResponseText then .ok (.accepted (some referenceReceipt) none)
      else .error "another text"
    parse := fun _ => .error "another text" }
  spawn := fun _ => .ok ()
  child := fun launch stdin _ =>
    let (code, stdout) := referenceWorker.main launch.environment launch.arguments stdin
    .exited ⟨code = 0, "exit status: " ++ toString code⟩ stdout ""
  now := 1

theorem reference_bundles : referenceHost.Bundles referenceWorker where
  command := by
    intro command stdin told
    unfold referenceHost at told
    by_cases same : command = .Execute referenceRequest
    · simp only [same, if_true] at told
      cases told
      simp only [referenceWorker, if_true, same]
    · simp only [if_neg same] at told
      cases told
  response := by
    intro response stdout written
    unfold referenceWorker at written
    by_cases same : response = .accepted (some referenceReceipt) none
    · simp only [same, if_true] at written
      cases written
      simp only [referenceHost, if_true, same]
    · simp only [if_neg same] at written
      cases written
  child := by
    intro launch stdin timeoutMs status stdout stderr _ _ ended
    cases ended
    exact ⟨rfl, of_decide_eq_true⟩

/-- Two attempts of the operation at a time, the kernel crashes, and one more after it. -/
def referenceTurns (turns : List Nat) : List (Nat × Choice) :=
  turns.map fun index => (index, { outcome := referenceHost.execute referenceRequest })

theorem reference_provided (w : World) (count : Nat) (turns : List Nat) :
    Pool.Along kernel Provided ⟨w, List.replicate count (attempt referenceRequest false).run⟩
      (referenceTurns turns) := by
  refine @Pool.along_calls _ _ _ _ _ kernel _ Provided (fun _ => True) (Honest fun _ => True)
    (Concerns referenceRequest) ?_ _ ?_ ?_
  · intro call w choice
    exact honest_answer call w choice trivial
  · intro index p present
    rw [List.getElem?_replicate] at present
    split_ifs at present
    cases present
    exact calls_attempt referenceRequest false
  · intro turn member call w concerns
    obtain ⟨index, -, rfl⟩ := List.mem_map.mp member
    cases concerns with
    | providerOutcome =>
        unfold Provided
        dsimp only
        exact ⟨referenceHost, referenceWorker, reference_bundles, rfl⟩
    | _ => trivial

/-- The kernel after turns of some attempts. -/
def World.attempted (w : World) (count : Nat) (turns : List Nat) : World :=
  (Pool.run kernel ⟨w, List.replicate count (attempt referenceRequest false).run⟩
    (referenceTurns turns)).world

theorem lived_attempted {w : World} (lived : Lived (· = referenceRequest) w) (count : Nat)
    (turns : List Nat) : Lived (· = referenceRequest) (w.attempted count turns) := by
  refine .turns lived _ ?_ _ (reference_provided w count turns)
  intro p member
  exact .inr ⟨referenceRequest, false, rfl, List.eq_of_mem_replicate member⟩

def afterReference : World :=
  ((World.boot sampleUuids 0).attempted 2
    ((List.range 30).flatMap fun _ => [0, 1])).restart.attempted 1 (List.replicate 40 0)

theorem lived_afterReference : Lived (· = referenceRequest) afterReference := by
  have first : Lived (· = referenceRequest) _ :=
    lived_attempted (.boot sampleUuids 0) 2 ((List.range 30).flatMap fun _ => [0, 1])
  exact lived_attempted first.restart 1 (List.replicate 40 0)

theorem commits_of_processes_bound_reference :
    Lived (· = referenceRequest) afterReference ∧
      ∀ entry ∈ afterReference.journal.entries, entry.objectType = "StepCommit" →
        ∃ r, r = referenceRequest ∧ entry.workloadId = r.workloadId ∧
          entry.objectId = r.operationId ∧
            ∃ receipt, entry.payload = .receipt receipt ∧ Binds r receipt := by
  exact ⟨lived_afterReference,
    commits_of_processes_bound (· = referenceRequest) lived_afterReference⟩

end NousKernel
