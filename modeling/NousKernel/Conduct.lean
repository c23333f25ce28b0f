import NousKernel.Fencing
import NousKernel.Invocation
import NousKernel.Transcript

/-!
The protocol of one call of `execute`: the shutting-down check, the lease, the
entry in the active map and the provider execution, in the order in which
`execute_internal` makes them. It holds whatever the answers are, so it holds of
every call in any company.
-/

set_option autoImplicit false

namespace NousKernel

open Resumption Resumption.Prog

/-- How far a call has come: it has passed the shutting-down check, it holds a
lease, it is in the active map, its provider execution is in flight. -/
structure Course where
  passed : Bool := false
  lease : Option FencedLease := none
  registered : Bool := false
  flying : Bool := false

/-- What a call and its answer change. -/
def Course.step (course : Course) (call : Call) (answer : Answer call) : Course :=
  match call, answer with
  | .kernelState, state => { course with passed := decide (state ≠ .shuttingDown) }
  | .grantFenced .., .ok fenced => { course with lease := some fenced }
  | .release _, _ => { course with lease := none }
  | .activeInsert .., _ => { course with registered := true }
  | .activeRemove _, _ => { course with passed := false, registered := false }
  | .providerExecute .., _ => { course with flying := true }
  | .providerOutcome _, _ => { course with flying := false }
  | _, _ => course

/-- The course of a call, read off its exchanges. -/
def Course.of (exchanges : List (Exchange Call Answer)) : Course :=
  exchanges.foldl (fun course exchange => course.step exchange.1 exchange.2) {}

/-- What every request is placed with. -/
def minimumReserved : ResourceVector := { cpuCoresMillis := 1, ramBytes := 1024 * 1024 }

/-- The protocol of a call of `execute` with request `r`. -/
def conduct (r : OperationRequest) : Protocol Call Answer Course where
  law course call :=
    match call with
    | .grantFenced workloadId _ resources _ _ _ => workloadId = r.workloadId ∧
        resources = minimumReserved ∧ course.lease = none
    | .release leaseId => course.registered = false ∧ course.flying = false ∧
        ∃ fenced, course.lease = some fenced ∧ leaseId = fenced.lease.leaseId
    | .activeInsert workloadId _ => workloadId = r.workloadId ∧ course.passed = true ∧
        course.registered = false ∧ course.lease ≠ none
    | .activeRemove workloadId => workloadId = r.workloadId ∧ course.registered = true ∧
        course.flying = false
    | .providerExecute q _ => q = r ∧ course.registered = true ∧ course.flying = false
    | .providerOutcome q => q = r ∧ course.flying = true
    | .now | .kernelState | .readWorkload _ | .readFrom _ | .append _ | .authorize ..
    | .newCancellation | .isCancelled _ | .attempt _ | .finish .. => True
    | _ => False
  next := Course.step

theorem conduct_overlooks {r : OperationRequest} {course : Course} :
    Overlooks Clerical (conduct r) course := by
  intro call clerical
  cases call with
  | now | readWorkload | readFrom | append | authorize | newCancellation | isCancelled | finish =>
      exact ⟨trivial, fun _ => rfl⟩
  | _ => exact absurd clerical id

section Execution

variable {r : OperationRequest}

/-- Every request is placed with the minimum of its workload. -/
theorem schedule_reserves (nowUs : Int) (course : Course) :
    (conduct r).Follows (fun outcome last => last = course ∧ ∀ placed, outcome = .ok placed →
      placed.1.resourcesReserved = minimumReserved) (schedule r nowUs).run course := by
  obtain ⟨placement, trace, placed, reserved⟩ : ∃ placement trace,
      placeWithTrace (workloadFor r) [referenceNode r] = (some placement, trace) ∧
        placement.resourcesReserved = minimumReserved := ⟨_, _, rfl, rfl⟩
  unfold schedule
  rw [admission_admits, placed]
  apply follows_try conduct_overlooks (clerical_append ..)
  · exact fun error => ⟨rfl, fun _ other => by cases other⟩
  · intro _
    refine ⟨rfl, fun result same => ?_⟩
    cases same
    exact reserved

theorem conduct_grantLease {placement : PlacementDecision} {course : Course}
    (reserved : placement.resourcesReserved = minimumReserved) (free : course.lease = none)
    (out : course.registered = false) (down : course.flying = false) :
    (conduct r).Follows (fun outcome last => ∀ fenced, outcome = .ok fenced →
      last = { course with lease := some fenced }) (grantLease r placement).run course := by
  apply Protocol.Follows.bindExcept
  refine ⟨⟨rfl, reserved, free⟩, fun granted => ?_⟩
  cases granted with
  | error error => exact fun _ other => by cases other
  | ok fenced =>
      apply follows_bind conduct_overlooks (clerical_append ..)
      intro journaled
      cases journaled with
      | error error => exact ⟨⟨out, down, fenced, rfl, rfl⟩, fun _ _ other => by cases other⟩
      | ok _ =>
          apply follows_bind conduct_overlooks (makes_perform (.authorize ..) trivial)
          intro authorized
          cases authorized with
          | false => exact ⟨⟨out, down, fenced, rfl, rfl⟩, fun _ _ other => by cases other⟩
          | true =>
              intro returned same
              cases same
              rfl

theorem conduct_executeCancellable (course : Course) (inside : course.registered = true)
    (down : course.flying = false) (cancellation : Nat) :
    (conduct r).Follows (fun _ last => last = course)
      (executeCancellable r cancellation).run course := by
  apply follows_try conduct_overlooks (clerical_committedReceipt r) fun _ => rfl
  intro committed
  cases committed with
  | some receipt => exact rfl
  | none =>
      apply follows_try conduct_overlooks (clerical_append ..) fun _ => rfl
      intro _
      apply follows_lift conduct_overlooks (makes_perform (.isCancelled cancellation) trivial)
      intro stopped
      cases stopped with
      | true => exact rfl
      | false =>
          apply Protocol.Follows.bindExcept
          have obtained : (conduct r).Follows (fun _ last => last = course)
              (receiptFor r cancellation).run course := by
            apply follows_try conduct_overlooks (clerical_receivedReceipt r) fun _ => rfl
            intro received
            cases received with
            | some receipt => exact rfl
            | none =>
                refine ⟨⟨rfl, inside, down⟩, fun _ => ⟨⟨rfl, rfl⟩, fun outcome => ?_⟩⟩
                have landed : (conduct r).next ((conduct r).next course
                    (.providerExecute r cancellation) ()) (.providerOutcome r) outcome = course := by
                  show { course with flying := false } = course
                  rw [← down]
                rw [landed]
                cases outcome with
                | error error => exact rfl
                | ok receipt =>
                    exact follows_try conduct_overlooks (clerical_append ..) (fun _ => rfl)
                      fun _ => rfl
          apply obtained.mono
          rintro outcome _ rfl
          cases outcome with
          | error error => exact rfl
          | ok receipt =>
              exact follows_try conduct_overlooks (clerical_append ..) (fun _ => rfl) fun _ => rfl

theorem conduct_closeLease (course : Course) {fenced : FencedLease}
    (out : course.registered = false) (down : course.flying = false)
    (held : course.lease = some fenced) (final : EntryType × String)
    (bookkeeping : Option KernelError) :
    (conduct r).Follows (fun _ _ => True) (closeLease r fenced.lease.leaseId final bookkeeping)
      course := by
  apply follows_bind conduct_overlooks (clerical_append ..)
  intro closed
  have released : (conduct r).Follows (fun _ _ => True)
      (resourceError (Task.release fenced.lease.leaseId)).run course := by
    refine ⟨⟨out, down, fenced, held, rfl⟩, fun answer => ?_⟩
    cases answer with
    | error error => trivial
    | ok _ => trivial
  apply Protocol.Follows.bind
  apply released.mono
  intro result last _
  exact follows_bind conduct_overlooks (clerical_append ..) fun _ => trivial

theorem conduct_settle (course : Course) {fenced : FencedLease} (inside : course.registered = true)
    (down : course.flying = false) (held : course.lease = some fenced) (trace : DecisionTrace)
    (profile : ExecutionProfile) (execution : Except KernelError OperationReceipt) :
    (conduct r).Follows (fun _ _ => True)
      (settle r fenced.lease.leaseId trace profile execution) course := by
  apply follows_bind conduct_overlooks (clerical_recordProfile profile)
  intro profiled
  refine ⟨⟨rfl, inside, down⟩, fun _ => ?_⟩
  show (conduct r).Follows _ (recordFailure r _ execution >>= _)
    { course with passed := false, registered := false }
  apply follows_bind conduct_overlooks (clerical_recordFailure r _ execution)
  intro failed
  apply Protocol.Follows.bind
  apply (conduct_closeLease { course with passed := false, registered := false } rfl down held _
    failed).mono
  intro bookkeeping last _
  cases bookkeeping with
  | some error => trivial
  | none => trivial

theorem conduct_executeLeased {course : Course} {fenced : FencedLease}
    (passed : course.passed = true) (out : course.registered = false) (down : course.flying = false)
    (held : course.lease = some fenced) (recovered : Bool) (admittedStarted : Int)
    (placement : PlacementDecision) (trace : DecisionTrace) :
    (conduct r).Follows (fun _ _ => True)
      (executeLeased r recovered admittedStarted placement trace fenced).run course := by
  apply follows_bind conduct_overlooks (makes_perform .newCancellation trivial)
  intro cancellation
  refine ⟨⟨rfl, passed, out, by simp [held]⟩, fun _ => ?_⟩
  show (conduct r).Follows _ (Task.now >>= _) { course with registered := true }
  apply follows_bind conduct_overlooks (makes_perform .now trivial)
  intro started
  apply follows_bind conduct_overlooks (makes_perform .now trivial)
  intro queued
  apply Protocol.Follows.bind
  apply (conduct_executeCancellable { course with registered := true } rfl down cancellation).mono
  rintro execution _ rfl
  apply follows_bind conduct_overlooks (makes_perform .now trivial)
  intro finished
  exact conduct_settle { course with registered := true } rfl down held _ _ execution

theorem conduct_executeInternal (recovered : Bool) :
    (conduct r).Follows (fun _ _ => True) (executeInternal r recovered).run {} := by
  refine ⟨trivial, fun admitted => ?_⟩
  cases r.validateSensitiveReferences with
  | error reason => trivial
  | ok _ =>
      refine ⟨trivial, fun answered => ?_⟩
      show (conduct r).Follows _ (ExceptT.run (if answered = .shuttingDown then _ else _)) _
      by_cases stopping : answered = .shuttingDown
      · rw [if_pos stopping]
        trivial
      · rw [if_neg stopping]
        apply follows_then conduct_overlooks (clerical_committedReceipt r)
        intro committed
        cases committed with
        | some receipt =>
            exact follows_then conduct_overlooks (clerical_latestDecisionTrace _) fun _ => trivial
        | none =>
            apply Protocol.Follows.bindExcept
            apply (schedule_reserves admitted _).mono
            rintro outcome _ ⟨rfl, reserved⟩
            cases outcome with
            | error error => trivial
            | ok placed =>
                apply Protocol.Follows.bindExcept
                apply (conduct_grantLease (reserved placed rfl) rfl rfl rfl).mono
                intro outcome last granted
                cases outcome with
                | error error => trivial
                | ok fenced =>
                    rw [granted fenced rfl]
                    exact conduct_executeLeased (by simpa [conduct, Course.step] using stopping) rfl rfl rfl
                      recovered admitted placed.1 placed.2

/-- Every call of `execute` keeps to the protocol. -/
theorem conduct_execute (r : OperationRequest) :
    (conduct r).Follows (fun _ _ => True) (execute r).run {} := by
  refine ⟨trivial, fun _ => ?_⟩
  show (conduct r).Follows _ ((executeInternal r false).run >>= _) {}
  apply Protocol.Follows.bind
  apply (conduct_executeInternal false).mono
  intro result last _
  exact ⟨trivial, fun _ => trivial⟩

end Execution

/-! ### Many calls at once -/

/-- A call in flight is in the active map, and a call in the active map holds a
lease. -/
structure Course.Orderly (course : Course) : Prop where
  flying : course.flying = true → course.registered = true
  registered : course.registered = true → course.lease ≠ none

theorem Course.Orderly.step {r : OperationRequest} {course : Course} (orderly : course.Orderly)
    {call : Call} (law : (conduct r).law course call) (answer : Answer call) :
    (course.step call answer).Orderly := by
  cases call with
  | grantFenced =>
      cases answer with
      | error error => exact orderly
      | ok fenced => exact ⟨orderly.flying, fun _ => by simp [Course.step]⟩
  | release leaseId =>
      obtain ⟨out, down, -⟩ := law
      exact ⟨orderly.flying, fun inside => by simp [Course.step, out] at inside⟩
  | activeInsert =>
      obtain ⟨-, -, -, held⟩ := law
      exact ⟨fun _ => rfl, fun _ => held⟩
  | activeRemove =>
      obtain ⟨-, -, down⟩ := law
      exact ⟨fun up => by simp [Course.step, down] at up, fun inside => by cases inside⟩
  | providerExecute =>
      obtain ⟨-, inside, -⟩ := law
      exact ⟨fun _ => inside, orderly.registered⟩
  | providerOutcome => exact ⟨fun up => (by cases up), orderly.registered⟩
  | kernelState => exact ⟨orderly.flying, orderly.registered⟩
  | _ => exact orderly

/-- The protocols of some calls of `execute`. -/
def conducts (requests : List OperationRequest) (index : Nat) : Protocol Call Answer Course where
  law course call := ∃ r, requests[index]? = some r ∧ (conduct r).law course call
  next := Course.step

/-- Each of some calls of `execute` keeps to its protocol. -/
theorem executions_attend {inv : World → (Nat → Course) → Prop} {w : World}
    (requests : List OperationRequest) (start : inv w fun _ => {}) :
    Attends (conducts requests) inv (fun _ _ _ => True) (fun _ => {}) (executions requests w) := by
  refine ⟨start, fun index p present => ?_⟩
  rw [executions, List.getElem?_map] at present
  obtain ⟨r, found, rfl⟩ := Option.map_eq_some_iff.mp present
  have same : ∀ (course other : Course) (call : Call), course = other →
      (conduct r).law course call → (conducts requests index).law other call ∧
        ∀ answer, (conduct r).next course call answer =
          (conducts requests index).next other call answer := by
    rintro course _ call rfl law
    exact ⟨⟨r, found, law⟩, fun _ => rfl⟩
  exact ((conduct_execute r).simulate (conducts requests index) (· = ·) same rfl).mono
    fun _ _ _ => trivial

/-- What the permitted calls keep holds of the courses read off the transcripts,
in every schedule. -/
theorem executions_keep {inv : World → (Nat → Course) → Prop} {w : World}
    (requests : List OperationRequest) (kept : Attends.Kept (conducts requests) kernel inv)
    (start : inv w fun _ => {}) (schedule : List (Nat × Choice)) :
    inv ((executions requests w).run kernel schedule).world
      fun index => .of ((executions requests w).transcript kernel schedule index) :=
  ((executions_attend requests start).run kept schedule).inv

end NousKernel
