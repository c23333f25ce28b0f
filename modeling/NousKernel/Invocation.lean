import NousKernel.Continuity
import NousKernel.Typestate

/-!
Where the provider is called. All but three kinds of calls stay inside the kernel,
and one execution of a request invokes the provider at most once, for that request.
It holds whatever the answers are.
-/

set_option autoImplicit false

namespace NousKernel

open Resumption Resumption.Prog

/-- The calls on the journal, the clock and the cancellation flags, and the notes
of the history. -/
def Clerical : Call → Prop
  | .now | .readWorkload _ | .readFrom _ | .append _ | .authorize .. | .newCancellation
  | .isCancelled _ | .finish .. => True
  | _ => False

/-- A call that neither starts an attempt nor goes to a provider. -/
def Indoor : Call → Prop
  | .providerExecute .. | .providerProbe _ | .attempt _ => False
  | _ => True

/-- A program that makes only calls of one kind. -/
abbrev Makes {α : Type} (Mine : Call → Prop) (p : Task α) : Prop :=
  p.Calls (fun _ _ => True) Mine fun _ => True

abbrev Indoors {α : Type} (p : Task α) : Prop := Makes Indoor p

section Rules

variable {α β : Type} {Mine : Call → Prop}

theorem makes_perform (call : Call) (mine : Mine call) : Makes Mine (perform call) :=
  ⟨mine, fun _ _ => trivial⟩

theorem makes_bind {p : Task α} {f : α → Task β} (first : Makes Mine p)
    (rest : ∀ value, Makes Mine (f value)) : Makes Mine (p >>= f) :=
  Calls.bind (first.mono (fun _ => id) fun value _ => rest value)

theorem makes_then {x : Fallible α} {f : α → Fallible β} (first : Makes Mine x.run)
    (rest : ∀ value, Makes Mine (f value).run) : Makes Mine (x >>= f).run := by
  apply Calls.bindExcept
  apply first.mono fun _ => id
  intro outcome _
  cases outcome with
  | ok value => exact rest value
  | error error => trivial

theorem makes_mapError {ε : Type} {convert : ε → KernelError} {task : Task (Except ε α)}
    (makes : Makes Mine task) : Makes Mine (mapError convert task).run := by
  apply makes_bind makes
  intro result
  cases result with
  | ok value => trivial
  | error error => trivial

theorem Makes.indoors {p : Task α} (clerical : Makes Clerical p) : Indoors p := by
  apply clerical.mono _ fun _ => id
  intro call kind
  cases call with
  | providerExecute | providerProbe | attempt => exact kind
  | _ => trivial

end Rules

section Parts

variable (r : OperationRequest)

theorem clerical_append (entryType : EntryType) (objectType phase : String) (payload : Payload)
    (key : String) : Makes Clerical (append r entryType objectType phase payload key).run :=
  makes_then (makes_mapError (makes_perform (.append _) trivial)) fun _ => trivial

theorem clerical_committedReceipt : Makes Clerical (committedReceipt r).run :=
  makes_then (makes_mapError (makes_perform (.readWorkload _) trivial)) fun _ => trivial

theorem clerical_receivedReceipt : Makes Clerical (receivedReceipt r).run :=
  makes_then (makes_mapError (makes_perform (.readWorkload _) trivial)) fun _ => trivial

theorem clerical_latestDecisionTrace (operationId : String) :
    Makes Clerical (latestDecisionTrace operationId).run :=
  makes_then (makes_mapError (makes_perform (.readFrom 0) trivial)) fun _ => trivial

theorem clerical_schedule (nowUs : Int) : Makes Clerical (schedule r nowUs).run := by
  obtain ⟨placement, trace, placed, -, -⟩ := schedule_eq r nowUs
  rw [placed]
  exact makes_then (clerical_append ..) fun _ => trivial

theorem clerical_recordProfile (profile : ExecutionProfile) :
    Makes Clerical (recordProfile profile).run := by
  apply Calls.bindLift
  refine ⟨trivial, fun _ _ => ?_⟩
  exact makes_then (makes_mapError (makes_perform (.append _) trivial)) fun _ => trivial

theorem clerical_recordFailure (bookkeeping : Option KernelError)
    (execution : Except KernelError OperationReceipt) :
    Makes Clerical (recordFailure r bookkeeping execution) := by
  cases execution with
  | ok receipt => trivial
  | error error =>
      exact makes_bind (clerical_append ..) fun _ => makes_bind (clerical_append ..) fun _ => trivial

theorem clerical_rebindAfter (stepId toProvider : String) (candidate : FailoverCandidate)
    (report : CompatibilityReport) (progress : StepProgress) :
    Makes Clerical (rebindAfter stepId candidate toProvider report progress).run := by
  unfold rebindAfter
  split
  · trivial
  · apply makes_then
    · exact makes_then (clerical_append ..) fun _ => clerical_append ..
    · exact fun _ => trivial

theorem indoors_grantLease (placement : PlacementDecision) :
    Indoors (grantLease r placement).run := by
  apply makes_then (makes_mapError (makes_perform (.grantFenced ..) trivial))
  intro fenced
  apply makes_bind (clerical_append ..).indoors
  intro journaled
  cases journaled with
  | error error => exact makes_bind (makes_perform (.release _) trivial) fun _ => trivial
  | ok _ =>
      apply makes_bind (makes_perform (.authorize ..) trivial)
      intro authorized
      cases authorized with
      | true => trivial
      | false => exact makes_bind (makes_perform (.release _) trivial) fun _ => trivial

theorem indoors_closeLease (leaseId : String) (final : EntryType × String)
    (bookkeeping : Option KernelError) : Indoors (closeLease r leaseId final bookkeeping) :=
  makes_bind (clerical_append ..).indoors fun _ =>
    makes_bind (makes_mapError (makes_perform (.release _) trivial)) fun _ =>
      makes_bind (clerical_append ..).indoors fun _ => trivial

theorem indoors_settle (leaseId : String) (trace : DecisionTrace) (profile : ExecutionProfile)
    (execution : Except KernelError OperationReceipt) :
    Indoors (settle r leaseId trace profile execution) := by
  apply makes_bind (clerical_recordProfile profile).indoors
  intro profiled
  apply makes_bind (makes_perform (.activeRemove _) trivial)
  intro _
  apply makes_bind (clerical_recordFailure r _ execution).indoors
  intro failed
  apply makes_bind (indoors_closeLease r leaseId _ failed)
  intro bookkeeping
  cases bookkeeping with
  | some error => trivial
  | none => trivial

end Parts

/-! ### Protocols that take no notice of some calls -/

/-- A state of a protocol in which the calls of one kind are permitted and not
noticed. -/
def Overlooks {S : Type} (Mine : Call → Prop) (t : Protocol Call Answer S) (state : S) : Prop :=
  ∀ call, Mine call → t.law state call ∧ ∀ answer, t.next state call answer = state

section Overlooking

variable {S α β : Type} {Mine : Call → Prop} {t : Protocol Call Answer S} {state : S}

theorem follows_makes (overlooks : Overlooks Mine t state) {p : Task α} (makes : Makes Mine p) :
    t.Follows (fun _ last => last = state) p state :=
  (Protocol.Follows.of_calls makes (fun _ _ => trivial) overlooks).mono fun _ _ ending => ending.2

theorem follows_any (overlooks : Overlooks Mine t state) {p : Task α} (makes : Makes Mine p) :
    t.Follows (fun _ _ => True) p state :=
  (follows_makes overlooks makes).mono fun _ _ _ => trivial

theorem follows_bind (overlooks : Overlooks Mine t state) {p : Task α} {f : α → Task β}
    {post : β → S → Prop} (makes : Makes Mine p) (rest : ∀ value, t.Follows post (f value) state) :
    t.Follows post (p >>= f) state := by
  apply Protocol.Follows.bind
  apply (follows_makes overlooks makes).mono
  rintro value _ rfl
  exact rest value

theorem follows_lift (overlooks : Overlooks Mine t state) {p : Task α} {f : α → Fallible β}
    {post : Except KernelError β → S → Prop} (makes : Makes Mine p)
    (rest : ∀ value, t.Follows post (f value).run state) :
    t.Follows post (ExceptT.lift p >>= f).run state := by
  apply Protocol.Follows.bindLift
  apply (follows_makes overlooks makes).mono
  rintro value _ rfl
  exact rest value

theorem follows_try (overlooks : Overlooks Mine t state) {x : Fallible α} {f : α → Fallible β}
    {post : Except KernelError β → S → Prop} (makes : Makes Mine x.run)
    (fails : ∀ error, post (.error error) state)
    (rest : ∀ value, t.Follows post (f value).run state) :
    t.Follows post (x >>= f).run state := by
  apply Protocol.Follows.bindExcept
  apply (follows_makes overlooks makes).mono
  rintro outcome _ rfl
  cases outcome with
  | ok value => exact rest value
  | error error => exact fails error

theorem follows_then (overlooks : Overlooks Mine t state) {x : Fallible α} {f : α → Fallible β}
    (makes : Makes Mine x.run) (rest : ∀ value, t.Follows (fun _ _ => True) (f value).run state) :
    t.Follows (fun _ _ => True) (x >>= f).run state :=
  follows_try overlooks makes (fun _ => trivial) rest

end Overlooking

/-! ### One execution -/

/-- The protocol of one execution of `r`: while it is armed it may invoke the
provider, once and for `r`. -/
def invocation (r : OperationRequest) : Protocol Call Answer Bool where
  law armed call := Indoor call ∨ (armed = true ∧ ∃ token, call = .providerExecute r token)
  next armed call _ :=
    match call with
    | .providerExecute .. => false
    | _ => armed

section Execution

variable {r : OperationRequest}

theorem invocation_overlooks {armed : Bool} : Overlooks Indoor (invocation r) armed := by
  intro call indoor
  refine ⟨.inl indoor, fun answer => ?_⟩
  cases call with
  | providerExecute request token => exact absurd indoor id
  | _ => rfl

theorem follows_obtainReceipt (cancellation : Nat) :
    (invocation r).Follows (fun _ _ => True) (obtainReceipt r cancellation).run true := by
  refine ⟨.inr ⟨rfl, cancellation, rfl⟩, fun _ => ?_⟩
  refine ⟨.inl trivial, fun outcome => ?_⟩
  cases outcome with
  | error error => trivial
  | ok receipt => exact follows_then invocation_overlooks (clerical_append ..).indoors fun _ => trivial

theorem follows_executeCancellable (cancellation : Nat) :
    (invocation r).Follows (fun _ _ => True) (executeCancellable r cancellation).run true := by
  apply follows_then invocation_overlooks (clerical_committedReceipt r).indoors
  intro committed
  cases committed with
  | some receipt => trivial
  | none =>
      apply follows_then invocation_overlooks (clerical_append ..).indoors
      intro _
      apply follows_lift invocation_overlooks (makes_perform (.isCancelled cancellation) trivial)
      intro stopped
      cases stopped with
      | true => trivial
      | false =>
          apply Protocol.Follows.bindExcept
          have obtained : (invocation r).Follows (fun _ _ => True)
              (receiptFor r cancellation).run true := by
            apply follows_then invocation_overlooks (clerical_receivedReceipt r).indoors
            intro received
            cases received with
            | some receipt => trivial
            | none => exact follows_obtainReceipt cancellation
          apply obtained.mono
          intro outcome last _
          cases outcome with
          | error error => trivial
          | ok receipt => exact follows_then invocation_overlooks (clerical_append ..).indoors fun _ => trivial

theorem follows_executeLeased (recovered : Bool) (admittedStarted : Int)
    (placement : PlacementDecision) (trace : DecisionTrace) (fenced : FencedLease) :
    (invocation r).Follows (fun _ _ => True)
      (executeLeased r recovered admittedStarted placement trace fenced).run true := by
  apply follows_bind invocation_overlooks (makes_perform .newCancellation trivial)
  intro cancellation
  apply follows_bind invocation_overlooks (makes_perform (.activeInsert ..) trivial)
  intro _
  apply follows_bind invocation_overlooks (makes_perform .now trivial)
  intro started
  apply follows_bind invocation_overlooks (makes_perform .now trivial)
  intro queued
  apply Protocol.Follows.bind
  apply (follows_executeCancellable cancellation).mono
  intro execution last _
  apply follows_bind invocation_overlooks (makes_perform .now trivial)
  intro executed
  exact follows_any invocation_overlooks (indoors_settle ..)

/-- One execution of `r` invokes the provider at most once, for `r`, and not at
all if the references of `r` are refused. -/
theorem follows_executeInternal (recovered : Bool) {armed : Bool}
    (arms : r.validateSensitiveReferences = .ok () → armed = true) :
    (invocation r).Follows (fun _ _ => True) (executeInternal r recovered).run armed := by
  apply follows_lift invocation_overlooks (makes_perform .now trivial)
  intro admitted
  cases valid : r.validateSensitiveReferences with
  | error reason => trivial
  | ok _ =>
      rw [arms valid]
      apply follows_lift invocation_overlooks (makes_perform .kernelState trivial)
      intro state
      split
      · trivial
      · apply follows_then invocation_overlooks (clerical_committedReceipt r).indoors
        intro committed
        cases committed with
        | some receipt =>
            exact follows_then invocation_overlooks (clerical_latestDecisionTrace _).indoors fun _ => trivial
        | none =>
            apply follows_then invocation_overlooks (clerical_schedule r admitted).indoors
            intro placed
            apply follows_then invocation_overlooks (indoors_grantLease r placed.1)
            intro fenced
            exact follows_executeLeased recovered admitted placed.1 placed.2 fenced

end Execution

end NousKernel
