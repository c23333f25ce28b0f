import Mathlib.Algebra.Ring.Int.Defs
import NousKernel.Commitment
import NousKernel.Rounds

/-!
The submission of a workload through a connection: its dispatch by the daemon
(`dispatch_request` in `nousd/src/main.rs`) on the kernel, and what a client knows about the
journal from the outcome of its call. The other methods of the dispatcher are a parameter.
-/

set_option autoImplicit false

namespace NousKernel

open ByteStream LengthPrefixedCodec Resumption Resumption.Discipline

def NKIOutcome.kernelError (error : KernelError) : NKIOutcome :=
  .Error {
    code := error.code
    message := error.display
    failedPhase := error.category
    cause := error.sourceComponent
    retryable := error.retryable
    recommendedDelayMs := if error.retryable then 250 else 0 }

/-- What is left until the deadline, in milliseconds that have begun. The subtraction
saturates, and so does the addition. -/
def remainingMs (deadlineUs now : Int) : Nat :=
  let remainingUs := max (min (deadlineUs - now) (2 ^ 63 - 1)) 1
  min (remainingUs.toNat + 999) (2 ^ 64 - 1) / 1000

def OperationRequest.within (operation : OperationRequest) (deadlineUs now : Int) :
    OperationRequest :=
  { operation with timeoutMs := min (max operation.timeoutMs 1) (remainingMs deadlineUs now) }

/-- `serde_json` at the types of the dispatcher. -/
structure KernelSerde where
  operation : Bytes → Except String OperationRequest
  execution : RuntimeExecution → Except String Value

/-- The operation that is executed for a request, by the clock of the kernel. -/
def NKIRequest.operation (request : NKIRequest) (submitted : OperationRequest) :
    Task OperationRequest :=
  if 0 < request.deadlineUs then do
    let now ← Task.now
    return submitted.within request.deadlineUs.toInt now
  else return submitted

def submitWorkload (serde : KernelSerde) (request : NKIRequest) :
    Task (Except String NKIOutcome) :=
  match serde.operation request.payload with
  | .error reason => return .ok (.nkiError "INVALID_OPERATION" reason false)
  | .ok submitted => do
      let operation ← request.operation submitted
      match ← (execute operation).run with
      | .ok execution => return (serde.execution execution).map .Success
      | .error error => return .ok (.kernelError error)

/-- The dispatcher, up to the methods that do not submit a workload. -/
def NKIRequest.dispatchRequest (serde : KernelSerde) (others : NKIRequest → Task (Except String NKIOutcome))
    (request : NKIRequest) : Task (Except String NKIOutcome) :=
  if request.method = "SubmitWorkload" then submitWorkload serde request else others request

/-- What the connections of a daemon share: the kernel, and what its environment will do. -/
structure Service where
  world : World
  choices : List Choice

/-- A dispatch. Where the choices end before it does, the process has crashed. -/
def Service.dispatch (program : NKIRequest → Task (Except String NKIOutcome))
    (request : NKIRequest) (service : Service) : Except String NKIOutcome × Service :=
  match (program request).run kernel service.world service.choices with
  | (none, world) => (.error "the process has crashed", ⟨world, []⟩)
  | (some (outcome, rest), world) => (outcome, ⟨world, rest⟩)

/-- A kernel that can be reached, on a storage that works. -/
structure Service.Sane (service : Service) : Prop where
  reached : Reached service.world
  reliable : ∀ choice ∈ service.choices, choice.storage = none

theorem Service.Sane.dispatch {service : Service} (sane : service.Sane)
    (program : NKIRequest → Task (Except String NKIOutcome)) (request : NKIRequest) :
    (service.dispatch program request).2.Sane := by
  have reached := sane.reached.run (program request) service.choices
  unfold Service.dispatch
  cases ran : (program request).run kernel service.world service.choices with
  | mk ending world =>
      rw [ran] at reached
      cases ending with
      | none => exact ⟨reached, by simp⟩
      | some result =>
          obtain ⟨outcome, rest⟩ := result
          have suffix := Prog.run_suffix kernel ran
          exact ⟨reached, fun choice member => sane.reliable choice (suffix.mem member)⟩

/-! ### The deadline -/

theorem remainingMs_pos (deadlineUs now : Int) : 0 < remainingMs deadlineUs now := by
  have positive : 1 ≤ (max (min (deadlineUs - now) (2 ^ 63 - 1)) 1).toNat := by omega
  change 0 < min ((max (min (deadlineUs - now) (2 ^ 63 - 1)) 1).toNat + 999) (2 ^ 64 - 1) / 1000
  omega

/-- The timeout of an operation passes its deadline by less than a millisecond. -/
theorem remainingMs_deadline {deadlineUs now : Int} (left : now < deadlineUs) :
    ((remainingMs deadlineUs now : Int) - 1) * 1000 < deadlineUs - now := by
  have bound : ((max (min (deadlineUs - now) (2 ^ 63 - 1)) 1).toNat : Int) ≤ deadlineUs - now := by
    omega
  change ((min ((max (min (deadlineUs - now) (2 ^ 63 - 1)) 1).toNat + 999) (2 ^ 64 - 1) / 1000 :
    Nat) - 1 : Int) * 1000 < deadlineUs - now
  omega

theorem timeoutMs_within (operation : OperationRequest) {deadlineUs now : Int}
    (left : now < deadlineUs) :
    0 < (operation.within deadlineUs now).timeoutMs ∧
      (((operation.within deadlineUs now).timeoutMs : Int) - 1) * 1000 < deadlineUs - now := by
  have positive := remainingMs_pos deadlineUs now
  have bound := remainingMs_deadline left
  simp only [OperationRequest.within]
  omega

/-! ### What a submission leads to -/

/-- How a submission ends: with a payload that is not readable, or with the end of the
execution of its operation from a kernel of the same journal. -/
inductive SubmissionEnd (serde : KernelSerde) (request : NKIRequest) (service : Service) :
    Except String NKIOutcome → Service → Prop
  | unreadable {reason : String} (decoded : serde.operation request.payload = .error reason) :
      SubmissionEnd serde request service (.ok (.nkiError "INVALID_OPERATION" reason false)) service
  | executed {submitted operation : OperationRequest} {begun ended : Service}
      {execution : RuntimeExecution}
      (decoded : serde.operation request.payload = .ok submitted)
      (started : (request.operation submitted).run kernel service.world service.choices =
        (some (operation, begun.choices), begun.world))
      (ran : (execute operation).run.run kernel begun.world begun.choices =
        (some (.ok execution, ended.choices), ended.world)) :
      SubmissionEnd serde request service ((serde.execution execution).map .Success) ended
  | failed {submitted operation : OperationRequest} {begun ended : Service} {error : KernelError}
      (decoded : serde.operation request.payload = .ok submitted)
      (started : (request.operation submitted).run kernel service.world service.choices =
        (some (operation, begun.choices), begun.world))
      (ran : (execute operation).run.run kernel begun.world begun.choices =
        (some (.error error, ended.choices), ended.world)) :
      SubmissionEnd serde request service (.ok (.kernelError error)) ended
  | crashed {ended : Service} {reason : String} :
      SubmissionEnd serde request service (.error reason) ended

theorem submissionEnd_dispatch (serde : KernelSerde)
    (others : NKIRequest → Task (Except String NKIOutcome)) {request : NKIRequest}
    (submits : request.method = "SubmitWorkload") (service : Service) :
    SubmissionEnd serde request service
      (service.dispatch (NKIRequest.dispatchRequest serde others) request).1
      (service.dispatch (NKIRequest.dispatchRequest serde others) request).2 := by
  unfold Service.dispatch NKIRequest.dispatchRequest
  rw [if_pos submits]
  unfold submitWorkload
  cases decoded : serde.operation request.payload with
  | error reason => exact .unreadable decoded
  | ok submitted =>
      dsimp only
      rw [Prog.run_bind]
      cases started : (request.operation submitted).run kernel service.world service.choices with
      | mk first world =>
          cases first with
          | none => exact .crashed
          | some found =>
              obtain ⟨operation, choices⟩ := found
              dsimp only
              rw [Prog.run_bind]
              cases ran : (execute operation).run.run kernel world choices with
              | mk ending last =>
                  cases ending with
                  | none => exact .crashed
                  | some result =>
                      obtain ⟨outcome, rest⟩ := result
                      cases outcome with
                      | ok execution =>
                          exact @SubmissionEnd.executed serde request service submitted operation
                            ⟨world, choices⟩ ⟨last, rest⟩ execution decoded started ran
                      | error error =>
                          exact @SubmissionEnd.failed serde request service submitted operation
                            ⟨world, choices⟩ ⟨last, rest⟩ error decoded started ran

/-! ### The kernels of a dialogue -/

namespace Dialogue

variable {K : Type} {daemon : Daemon K} {serdeRequest : SerdeJson NKIRequest}
  {serdeResponse : SerdeJson NKIResponse} {dialogue : Dialogue K} {holds : K → Prop}

/-- The kernel as it is, and as every answered request found it. -/
def Throughout (holds : K → Prop) (dialogue : Dialogue K) : Prop :=
  holds dialogue.desk.kernel ∧ ∀ entry ∈ dialogue.answered, holds entry.desk.kernel

theorem answer_kernel {request : NKIRequest} {desk : Desk K}
    (keeps : ∀ request kernel, holds kernel → holds (daemon.dispatch request kernel).2)
    (kept : holds desk.kernel) : holds (daemon.answer request desk).2.kernel := by
  have cases := outcome_cases daemon request desk
  unfold Daemon.answer
  cases produced : daemon.outcome request desk with
  | mk result middle =>
      rw [produced] at cases
      have later : holds middle.kernel := by
        rcases cases with ⟨-, -, kernel⟩ | ⟨-, kernel, -⟩
        · rw [show middle.kernel = _ from kernel]
          exact keeps request desk.kernel kept
        · rw [show middle.kernel = _ from kernel]
          exact kept
      cases result <;> exact later

theorem Throughout.serve
    (keeps : ∀ request kernel, holds kernel → holds (daemon.dispatch request kernel).2)
    (kept : Throughout holds dialogue) :
    Throughout holds (dialogue.serve daemon serdeRequest serdeResponse) := by
  obtain ⟨now, before⟩ := kept
  unfold Dialogue.serve
  cases dialogue.daemon with
  | writing left => exact ⟨now, before⟩
  | closed => exact ⟨now, before⟩
  | reading got =>
      dsimp only
      split_ifs
      · cases nextRequest serdeRequest .unexpectedEof (chunksOf got) with
        | error error => exact ⟨now, before⟩
        | ok found =>
            cases found with
            | none => exact ⟨now, before⟩
            | some next =>
                obtain ⟨request, rest⟩ := next
                have after : holds (daemon.answer request dialogue.desk).2.kernel :=
                  answer_kernel keeps now
                dsimp only
                cases produced : daemon.answer request dialogue.desk with
                | mk result desk =>
                    rw [produced] at after
                    cases result with
                    | error reason => exact ⟨after, before⟩
                    | ok response =>
                        cases encoded : encode serdeResponse response with
                        | error error => simpa only [encoded] using ⟨after, before⟩
                        | ok frame =>
                            simp only [encoded]
                            refine ⟨after, ?_⟩
                            intro entry member
                            rcases List.mem_append.mp member with earlier | last
                            · exact before entry earlier
                            · obtain rfl := List.mem_singleton.mp last
                              exact now
      · exact ⟨now, before⟩

theorem Throughout.step
    (keeps : ∀ request kernel, holds kernel → holds (daemon.dispatch request kernel).2)
    {action : DialogueAction K} (meddles : ∀ kernel, action = .meddle kernel → holds kernel)
    (kept : Throughout holds dialogue) :
    Throughout holds (dialogue.step daemon serdeRequest serdeResponse action) := by
  by_cases serving : action = .serve
  · subst serving
    exact kept.serve keeps
  · by_cases meddling : ∃ kernel, action = .meddle kernel
    · obtain ⟨kernel, rfl⟩ := meddling
      exact ⟨meddles kernel rfl, kept.2⟩
    · obtain ⟨answered, desk⟩ := step_desk daemon serdeRequest serdeResponse dialogue serving
        (fun kernel same => meddling ⟨kernel, same⟩)
      unfold Throughout
      rw [answered, desk]
      exact kept

theorem throughout_run
    (keeps : ∀ request kernel, holds kernel → holds (daemon.dispatch request kernel).2)
    {actions : List (DialogueAction K)} {desk : Desk K} (start : holds desk.kernel)
    (meddles : ∀ kernel, .meddle kernel ∈ actions → holds kernel) :
    Throughout holds (Stepwise.run (Dialogue.step daemon serdeRequest serdeResponse)
      (connected desk) actions) := by
  have begins : Throughout holds (connected desk) := ⟨start, by intro entry member; cases member⟩
  have steps : ∀ (dialogue : Dialogue K) (action : DialogueAction K),
      (∀ kernel, action = .meddle kernel → holds kernel) → Throughout holds dialogue →
        Throughout holds (dialogue.step daemon serdeRequest serdeResponse action) := by
    intro dialogue action allowed kept
    exact kept.step keeps allowed
  refine Stepwise.run_invariant_of steps begins ?_
  intro action member kernel same
  exact meddles kernel (same ▸ member)

end Dialogue

/-! ### What an outcome says of the journal -/

def StorageWorks : Call → World → Choice → Prop := fun _ _ choice => choice.storage = none

theorem execute_concluded {w later : World} (reached : Reached w) {r : OperationRequest}
    {choices rest : List Choice} (works : ∀ choice ∈ choices, choice.storage = none)
    {result : Except KernelError RuntimeExecution}
    (ran : (execute r).run.run kernel w choices = (some (result, rest), later)) :
    Concluded StorageWorks r w result later := by
  have safe : (sequential (fun _ => True) w.history StorageWorks).Safe _
      (attempt r false).run w :=
    safe_attempt trivial
  obtain ⟨-, -, ending⟩ := Safe.run (d := sequential _ w.history _) (fun _ => rfl) choices
    (fun _ _ choice member => works choice member) ⟨reached.linked, .start⟩ safe
  obtain ⟨-, -, concluded⟩ := ending result rest (congrArg Prod.fst ran)
  change Concluded StorageWorks r w result ((execute r).run.run kernel w choices).2 at concluded
  rw [ran] at concluded
  exact concluded

/-- Where the commit key is free or the operation was committed before, the receipt of a
result is the committed one. -/
theorem Concluded.committed {Allowed : Call → World → Choice → Prop} {w later : World}
    {r : OperationRequest} {execution : RuntimeExecution}
    (concluded : Concluded Allowed r w (.ok execution) later)
    (free : committedIn r w.journal.entries ≠ none ∨ commitKey r.operationId ∉ w.journal.keys) :
    committedIn r later.journal.entries = some execution.receipt := by
  have after : committedIn r later.journal.entries =
      (ledgerIn r later.journal.entries).committed := rfl
  have unused : (ledgerIn r w.journal.entries).committed = none →
      (ledgerIn r w.journal.entries).commitUsed = false := by
    intro uncommitted
    have key := free.resolve_left (fun committed => committed uncommitted)
    simpa [ledgerIn, Journal.keys] using key
  rw [after]
  rcases concluded.ok with ⟨committed, same⟩ | ⟨uncommitted, -, moved⟩ |
    ⟨uncommitted, -, -, moved⟩
  · rw [same, committed]
  · rw [moved, Ledger.commit_committed (by simpa using uncommitted)]
    simpa using unused uncommitted
  · rw [moved, Ledger.commit_committed (by simpa using uncommitted)]
    simpa using unused uncommitted

/-- The execution of an operation that a request submits, on the kernel that the dispatch of
the request began with and up to the one that it ended with. -/
structure ExecutionFor (serde : KernelSerde) (request : NKIRequest)
    (operation : OperationRequest) (result : Except KernelError RuntimeExecution)
    (before after : Service) : Prop where
  submitted : ∃ submitted, serde.operation request.payload = .ok submitted ∧
    (operation = submitted ∨ ∃ now, operation = submitted.within request.deadlineUs.toInt now)
  executed : ∃ begun : Service, begun.Sane ∧ begun.world.journal = before.world.journal ∧
    (execute operation).run.run kernel begun.world begun.choices =
      (some (result, after.choices), after.world) ∧
    Concluded StorageWorks operation begun.world result after.world

/-- What a client knows from a payload: the execution that it describes, and its commit in
the journal of the daemon. -/
def Acknowledged (serde : KernelSerde) (request : NKIRequest) (payload : Value)
    (before after : Service) : Prop :=
  ∃ operation execution,
    ExecutionFor serde request operation (.ok execution) before after ∧
    serde.execution execution = .ok payload ∧
    (committedIn operation before.world.journal.entries ≠ none ∨
        commitKey operation.operationId ∉ before.world.journal.keys →
      committedIn operation after.world.journal.entries = some execution.receipt)

/-- What a client knows from an error. -/
def Refused (serde : KernelSerde) (request : NKIRequest) (outcome : NKIOutcome)
    (before after : Service) : Prop :=
  (outcome ∈ gateErrors ∧ after = before) ∨
    (∃ reason, serde.operation request.payload = .error reason ∧
      outcome = .nkiError "INVALID_OPERATION" reason false ∧ after = before) ∨
    ∃ operation error, ExecutionFor serde request operation (.error error) before after ∧
      outcome = .kernelError error

/-- The operation of a request is the submitted one, but for its timeout, and the clock is
all that is looked at for it. -/
theorem operation_run {request : NKIRequest} {submitted operation : OperationRequest}
    {service begun : Service} (sane : service.Sane)
    (started : (request.operation submitted).run kernel service.world service.choices =
      (some (operation, begun.choices), begun.world)) :
    begun.Sane ∧ begun.world.journal = service.world.journal ∧
      (operation = submitted ∨
        ∃ now, operation = submitted.within request.deadlineUs.toInt now) := by
  have reached := sane.reached.run (request.operation submitted) service.choices
  rw [started] at reached
  have suffix := Prog.run_suffix kernel started
  refine ⟨⟨reached, fun choice member => sane.reliable choice (suffix.mem member)⟩, ?_⟩
  obtain ⟨world, left⟩ := begun
  unfold NKIRequest.operation at started
  by_cases limited : 0 < request.deadlineUs
  · rw [if_pos limited] at started
    cases choices : service.choices with
    | nil =>
        rw [choices] at started
        cases started
    | cons choice rest =>
        rw [choices] at started
        cases started
        exact ⟨rfl, .inr ⟨_, rfl⟩⟩
  · rw [if_neg limited] at started
    cases started
    exact ⟨rfl, .inl rfl⟩

theorem gateErrors_error {outcome : NKIOutcome} (error : outcome ∈ gateErrors) :
    ∃ body, outcome = .Error body := by
  simp only [gateErrors, List.mem_cons, List.not_mem_nil, or_false] at error
  rcases error with rfl | rfl | rfl | rfl <;> exact ⟨_, rfl⟩

theorem checkResponse_ok {requestId : String} {response : NKIResponse} {payload : Value}
    (checked : checkResponse requestId response = .ok payload) :
    response.outcome = .Success payload := by
  obtain ⟨echoed, version, timestamp, traceId, outcome⟩ := response
  unfold checkResponse at checked
  split_ifs at checked
  cases outcome with
  | Success other =>
      cases checked
      rfl
  | Error body => cases checked

theorem checkResponse_error {requestId : String} {response : NKIResponse} {body : NKIErrorBody}
    (checked : checkResponse requestId response = .error (.NkiError body)) :
    response.outcome = .Error body := by
  obtain ⟨echoed, version, timestamp, traceId, outcome⟩ := response
  unfold checkResponse at checked
  split_ifs at checked
  · cases checked
  · cases checked
  · cases outcome with
    | Success other => cases checked
    | Error other =>
        cases checked
        rfl

/-- What a submission that is answered tells of its execution. -/
theorem SubmissionEnd.told {serde : KernelSerde} {request : NKIRequest}
    {service after : Service} {outcome : NKIOutcome} (sane : service.Sane)
    (ends : SubmissionEnd serde request service (.ok outcome) after) :
    (∃ payload, outcome = .Success payload ∧ Acknowledged serde request payload service after) ∨
      (∃ body, outcome = .Error body ∧ Refused serde request outcome service after) := by
  generalize result : Except.ok outcome = produced at ends
  cases ends with
  | unreadable decoded =>
      cases result
      exact .inr ⟨_, rfl, .inr (.inl ⟨_, decoded, rfl, rfl⟩)⟩
  | @executed submitted operation begun _ execution decoded started ran =>
      obtain ⟨begins, journal, same⟩ := operation_run sane started
      cases serialized : serde.execution execution with
      | error reason =>
          rw [serialized] at result
          cases result
      | ok payload =>
          rw [serialized] at result
          cases result
          have concluded := execute_concluded begins.reached begins.reliable ran
          refine .inl ⟨payload, rfl, operation, execution, ?_, serialized, ?_⟩
          · exact ⟨⟨submitted, decoded, same⟩, begun, begins, journal, ran, concluded⟩
          · rw [← journal]
            exact concluded.committed
  | @failed submitted operation begun _ error decoded started ran =>
      obtain ⟨begins, journal, same⟩ := operation_run sane started
      cases result
      have concluded := execute_concluded begins.reached begins.reliable ran
      exact .inr ⟨_, rfl, .inr (.inr ⟨operation, error,
        ⟨⟨submitted, decoded, same⟩, begun, begins, journal, ran, concluded⟩, rfl⟩)⟩
  | crashed => cases result

/-- What is read of a response has its kind of outcome, and its error. -/
def SerdeJson.KeepsOutcome (serde : SerdeJson NKIResponse) : Prop :=
  ∀ response read, serde.readBack response = .ok read →
    match read.outcome with
    | .Success _ => ∃ payload, response.outcome = .Success payload
    | .Error body => response.outcome = .Error body

section Outcome

variable {serdeResponse : SerdeJson NKIResponse} {entry : AnsweredRequest Service}

theorem outcome_ok (keeps : serdeResponse.KeepsOutcome) {payload : Value}
    (returned : entry.outcome serdeResponse = .ok payload) :
    ∃ told, entry.response.outcome = .Success told := by
  unfold AnsweredRequest.outcome at returned
  cases back : serdeResponse.readBack entry.response with
  | error reason => simp [back] at returned
  | ok read =>
      simp only [back] at returned
      have kind := keeps _ _ back
      rw [checkResponse_ok returned] at kind
      exact kind

theorem outcome_error (keeps : serdeResponse.KeepsOutcome) {body : NKIErrorBody}
    (returned : entry.outcome serdeResponse = .error (.NkiError body)) :
    entry.response.outcome = .Error body := by
  unfold AnsweredRequest.outcome at returned
  cases back : serdeResponse.readBack entry.response with
  | error reason => simp [back] at returned
  | ok read =>
      simp only [back] at returned
      have kind := keeps _ _ back
      rw [checkResponse_error returned] at kind
      exact kind

end Outcome

/-- What the daemon tells of a request to submit a workload is what it did. -/
theorem answers_told {serde : KernelSerde} {others : NKIRequest → Task (Except String NKIOutcome)}
    {daemon : Daemon Service} {request : NKIRequest} {desk : Desk Service}
    {response : NKIResponse} {after : Service}
    (dispatches : ∀ request service, daemon.dispatch request service =
      service.dispatch (NKIRequest.dispatchRequest serde others) request)
    (submits : request.method = "SubmitWorkload")
    (answers : daemon.Answers request desk response after) (sane : desk.kernel.Sane) :
    (∃ payload, response.outcome = .Success payload ∧
        Acknowledged serde request payload desk.kernel after) ∨
      (∃ body, response.outcome = .Error body ∧
        Refused serde request response.outcome desk.kernel after) := by
  rcases answers.outcome with ⟨-, dispatched⟩ | ⟨-, refused, unmoved⟩
  · rw [dispatches] at dispatched
    have ends := submissionEnd_dispatch serde others submits desk.kernel
    rw [dispatched] at ends
    exact ends.told sane
  · obtain ⟨body, error⟩ := gateErrors_error refused
    exact .inr ⟨body, error, .inl ⟨refused, unmoved⟩⟩

def base64Digit (value : Nat) : UInt8 :=
  if value < 26 then .ofNat (65 + value)
  else if value < 52 then .ofNat (71 + value)
  else if value < 62 then .ofNat (value - 4)
  else if value = 62 then 43
  else 47

def base64 : Bytes → Bytes
  | a :: b :: c :: rest =>
      base64Digit (a.toNat / 4) :: base64Digit (a.toNat % 4 * 16 + b.toNat / 16) ::
        base64Digit (b.toNat % 16 * 4 + c.toNat / 64) :: base64Digit (c.toNat % 64) :: base64 rest
  | [a, b] =>
      [base64Digit (a.toNat / 4), base64Digit (a.toNat % 4 * 16 + b.toNat / 16),
        base64Digit (b.toNat % 16 * 4), 61]
  | [a] => [base64Digit (a.toNat / 4), base64Digit (a.toNat % 4 * 16), 61, 61]
  | [] => []

def quoted (text : String) : Bytes := 34 :: (asBytes text ++ [34])

def decimal (value : Nat) : Bytes := (Nat.toDigits 10 value).map fun digit => .ofNat digit.toNat

mutual

/-- The text of a value without fractions, whose strings need no escapes. -/
def Value.compact : Value → Bytes
  | .null => asBytes "null"
  | .bool true => asBytes "true"
  | .bool false => asBytes "false"
  | .number (.PosInt value) => decimal value
  | .number (.NegInt value) => 45 :: decimal value.natAbs
  | .number (.Float _) => []
  | .string text => quoted text
  | .array [] => [91, 93]
  | .array (first :: others) => 91 :: (first.compact ++ Value.compactItems others)
  | .object [] => [123, 125]
  | .object ((key, value) :: others) =>
      123 :: (quoted key ++ 58 :: (value.compact ++ Value.compactMembers others))

def Value.compactItems : List Value → Bytes
  | [] => [93]
  | item :: others => 44 :: (item.compact ++ Value.compactItems others)

def Value.compactMembers : List (String × Value) → Bytes
  | [] => [125]
  | (key, value) :: others =>
      44 :: (quoted key ++ 58 :: (value.compact ++ Value.compactMembers others))

end

def operationValue : Value :=
  .object [("operation_id", .string "operation-1"), ("workload_id", .string "workload-1"),
    ("step_id", .string "step-1"), ("backend", .string "reference"),
    ("execution_domain", .string "reference"), ("model", .string ""), ("endpoint", .string ""),
    ("credential_env", .string ""), ("input", .string "input"), ("delivery", .string "IDEMPOTENT"),
    ("snapshot", .object [("model_revision", .string "model-1"),
      ("provider_revision", .string "revision-1"), ("prompt_revision", .string "prompt-1"),
      ("tool_revision", .string "tool-1"), ("knowledge_revision", .string "knowledge-1"),
      ("policy_revision", .string "policy-1"), ("capability_revision", .string "capability-1"),
      ("context_revision", .string "context-1")]),
    ("timeout_ms", .number (.PosInt 1000))]

def operationText : Bytes := operationValue.compact

def submitting : NKIRequest :=
  { knock with sessionToken := "", method := "SubmitWorkload", payload := operationText }

def submittingText : Bytes :=
  asBytes "\x7b\"request_id\":\"r-1\",\"idempotency_key\":\"k-1\",\"nki_version\":2," ++
    asBytes "\"principal_id\":\"rust-sdk\",\"namespace\":\"default\",\"deadline_us\":0," ++
    asBytes "\"traceparent\":\"\",\"tracestate\":\"\",\"feature_flags\":[]," ++
    asBytes "\"method\":\"SubmitWorkload\",\"payload\":\"" ++ base64 operationText ++ [34, 125]

def serdeSubmitting : SerdeJson NKIRequest where
  toVec request := if request = submitting then .ok submittingText else .error "another request"
  fromSlice body := if body = submittingText then .ok submitting else .error "another body"

def natural (value : Nat) : Value := .number (.PosInt value)

def completionValue : Value :=
  .object [("execution_estimate_ms", natural 1), ("model_load_ms", natural 0),
    ("queue_delay_ms", natural 0), ("state_transfer_ms", natural 0), ("total_ms", natural 1)]

def capacityValue : Value :=
  .object [("cpu_cores_millis", natural 4000), ("cpu_time_us", natural 0),
    ("device_memory_bytes", natural 0), ("interconnect_bandwidth_bps", natural 0),
    ("kv_cache_bytes", natural 0), ("memory_bandwidth_bps", natural 0),
    ("network_bandwidth_bps", natural u64Max), ("pinned_ram_bytes", natural 0),
    ("power_milliwatts", natural 0), ("ram_bytes", natural (8 * 1024 * 1024 * 1024)),
    ("storage_bytes", natural 0), ("thermal_budget_millic", natural 0), ("time_budget_us", natural 0)]

def traceValue : Value :=
  .object [("candidates", .array [.string "local-reference"]),
    ("capability_match", .string "all hard capability constraints satisfied"),
    ("expected_completion", completionValue), ("expected_completion_ms", natural 1),
    ("fallback_candidate", .null), ("policy", .string "Deterministic"),
    ("reason", .string
      "Selected reference on host-cpu (score: Some(0.4753333333333333), kv_hit: 0.00, load: 0.00)"),
    ("rejections", .array []), ("resource_snapshot", capacityValue),
    ("selected", .string "local-reference"), ("selected_model", .string ""),
    ("selected_provider", .string "reference")]

/-- The execution of the operation, as the daemon tells it. -/
def executionValue : Value :=
  .object [("completed_at_us", natural 1), ("decision_trace", traceValue),
    ("input_digest", .string "input-digest"), ("operation_id", .string "operation-1"),
    ("output_digest", .string "output-digest"), ("provider_revision", .string "revision-1"),
    ("result", .string "first"), ("snapshot_digest", .string "snapshot-digest"),
    ("workload_id", .string "workload-1")]

def executedText : Bytes :=
  asBytes "\x7b\"request_id\":\"r-1\",\"nki_version\":2,\"server_timestamp_us\":1," ++
    asBytes "\"trace_id\":\"t-1\",\"status\":\"success\",\"payload\":" ++
    executionValue.compact ++ [125]

/-- `serde_json` at the one operation and its execution. -/
def serdeFirst : KernelSerde where
  operation payload :=
    if payload = operationText then
      .ok (sampleRequest "operation-1" "workload-1" "revision-1" .idempotent)
    else .error "another operation"
  execution execution :=
    if execution.workloadId = "workload-1" ∧
        execution.receipt = sampleReceipt "operation-1" "first" then
      .ok executionValue
    else .error "another execution"

def serdeExecuted : SerdeJson NKIResponse where
  toVec response :=
    match response with
    | ⟨requestId, version, timestamp, traceId, .Success payload⟩ =>
        if requestId = "r-1" ∧ version = 2 ∧ timestamp = 1 ∧ traceId = "t-1" ∧
            payload.compact = executionValue.compact then
          .ok executedText
        else .error "another response"
    | _ => .error "another response"
  fromSlice text :=
    if text = executedText then .ok ⟨"r-1", 2, 1, "t-1", .Success executionValue⟩
    else .error "another text"

theorem serdeSubmitting_toVec {request : NKIRequest} {body : Bytes}
    (serialized : serdeSubmitting.toVec request = .ok body) :
    request = submitting ∧ body = submittingText := by
  unfold serdeSubmitting at serialized
  by_cases same : request = submitting
  · simp only [if_pos same] at serialized
    cases serialized
    exact ⟨same, rfl⟩
  · simp only [if_neg same] at serialized
    cases serialized

theorem serdeSubmitting_fromSlice {text : Bytes} {request : NKIRequest}
    (parsed : serdeSubmitting.fromSlice text = .ok request) : text = submittingText := by
  unfold serdeSubmitting at parsed
  by_contra other
  simp only [if_neg other] at parsed
  cases parsed

theorem serdeSubmitting_roundTrips : serdeSubmitting.RoundTrips := by
  intro request body serialized
  obtain ⟨rfl, rfl⟩ := serdeSubmitting_toVec serialized
  simp only [serdeSubmitting, if_true]

theorem serdeSubmitting_seamless :
    Seamless serdeSubmitting.Writes serdeSubmitting.Accepts := by
  refine seamless_of_texts [submittingText] ?_ ?_ (by decide +kernel)
    (by decide +kernel) (by simp)
  · rintro body ⟨request, serialized⟩
    rw [(serdeSubmitting_toVec serialized).2]
    exact List.mem_cons_self
  · rintro text ⟨request, parsed⟩
    rw [serdeSubmitting_fromSlice parsed]
    exact List.mem_cons_self

theorem serdeExecuted_toVec {response : NKIResponse} {body : Bytes}
    (serialized : serdeExecuted.toVec response = .ok body) :
    response.requestId = "r-1" ∧ (∃ payload, response.outcome = .Success payload) ∧
      body = executedText := by
  obtain ⟨requestId, version, timestamp, traceId, outcome⟩ := response
  unfold serdeExecuted at serialized
  cases outcome with
  | Error error => cases serialized
  | Success payload =>
      by_cases same : requestId = "r-1" ∧ version = 2 ∧ timestamp = 1 ∧ traceId = "t-1" ∧
          payload.compact = executionValue.compact
      · simp only [if_pos same] at serialized
        cases serialized
        exact ⟨same.1, ⟨payload, rfl⟩, rfl⟩
      · simp only [if_neg same] at serialized
        cases serialized

theorem serdeExecuted_fromSlice {text : Bytes} {response : NKIResponse}
    (parsed : serdeExecuted.fromSlice text = .ok response) :
    text = executedText ∧ response = ⟨"r-1", 2, 1, "t-1", .Success executionValue⟩ := by
  unfold serdeExecuted at parsed
  by_cases same : text = executedText
  · simp only [if_pos same] at parsed
    cases parsed
    exact ⟨same, rfl⟩
  · simp only [if_neg same] at parsed
    cases parsed

theorem serdeExecuted_readBack {response read : NKIResponse}
    (back : serdeExecuted.readBack response = .ok read) :
    response.requestId = "r-1" ∧ (∃ payload, response.outcome = .Success payload) ∧
      read = ⟨"r-1", 2, 1, "t-1", .Success executionValue⟩ := by
  cases serialized : serdeExecuted.toVec response with
  | error reason =>
      rw [SerdeJson.readBack, serialized] at back
      cases back
  | ok body =>
      rw [readBack_eq serialized] at back
      obtain ⟨id, kind, -⟩ := serdeExecuted_toVec serialized
      exact ⟨id, kind, (serdeExecuted_fromSlice back).2⟩

theorem serdeExecuted_compact : serdeExecuted.Compact responseOpening where
  opens := by
    intro response body serialized
    obtain ⟨-, -, rfl⟩ := serdeExecuted_toVec serialized
    decide +kernel
  printable := by
    intro response body serialized
    obtain ⟨-, -, rfl⟩ := serdeExecuted_toVec serialized
    have all : executedText.all (32 ≤ ·.toNat) = true := by decide +kernel
    exact fun byte member => of_decide_eq_true (List.all_eq_true.mp all byte member)
  object := by
    intro text response parsed
    obtain ⟨rfl, -⟩ := serdeExecuted_fromSlice parsed
    exact ⟨0x7b, by decide, by decide +kernel⟩
  whole := by
    intro response body text other serialized front parsed
    obtain ⟨-, -, rfl⟩ := serdeExecuted_toVec serialized
    exact (serdeExecuted_fromSlice parsed).1

def unsupported (request : NKIRequest) : Task (Except String NKIOutcome) :=
  return .ok (.nkiError "METHOD_NOT_SUPPORTED" request.method false)

def clerk : Daemon Service where
  sessionToken := ""
  clock := fun _ => 1
  traceId := fun _ => "t-1"
  dispatch := fun request service =>
    service.dispatch (NKIRequest.dispatchRequest serdeFirst unsupported) request

/-- A new kernel whose provider answers. -/
def freshService : Service where
  world := .boot sampleUuids 0
  choices := List.replicate 30 (answering (sampleReceipt "operation-1" "first"))

def submission : List (DialogueAction Service) := [
  .call submitting, .write 600, .write 1000, .arrive 4, .arrive 2000, .serve, .answer 2000,
  .receive 4, .receive 2000, .finish]

def afterSubmission : Dialogue Service :=
  Stepwise.run (Dialogue.step clerk serdeSubmitting serdeExecuted)
    (Dialogue.connected ⟨0, freshService⟩) submission

end NousKernel
