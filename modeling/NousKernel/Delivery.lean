import NousKernel.Commitment
import NousKernel.Invocation

/-!
How often a provider is invoked for one operation. The delivery semantics of a
request are read by recovery only. A second submission and a failover candidate
invoke the provider again unless the receipt of the operation is journaled under
their own workload.
-/

set_option autoImplicit false

namespace NousKernel

open Resumption

/-! ### Programs made of attempts -/

/-- A protocol with a law on attempts and executions only. -/
def Lenient {S : Type} (t : Protocol Call Answer S) : Prop :=
  ∀ state call, (∀ r, call ≠ .attempt r) → (∀ r token, call ≠ .providerExecute r token) →
    t.law state call

section Attempts

variable {S α : Type} {t : Protocol Call Answer S}

theorem permits_indoors (lenient : Lenient t) {p : Task α} (indoors : Indoors p) :
    t.Permits p := by
  apply Protocol.Permits.of_calls indoors fun _ _ => trivial
  intro state call indoor
  apply lenient state call
  · rintro r rfl
    exact indoor
  · rintro r token rfl
    exact indoor

theorem indoors_revokeLeases (requests : AList (fun _ : String => OperationRequest))
    (orphans : List (String × String × FencedLease)) :
    Indoors (revokeLeases requests orphans).run := by
  induction orphans with
  | nil => trivial
  | cons orphan rest ih =>
      refine makes_then ?_ fun _ => ih
      unfold revokeLease
      split
      · trivial
      · exact (clerical_append ..).indoors

theorem permits_effectiveCapabilities (lenient : Lenient t) (candidate : FailoverCandidate) :
    t.Permits (effectiveCapabilities candidate).run := by
  unfold effectiveCapabilities
  split
  · exact fun _ => trivial
  · apply Protocol.Permits.bindExcept
    · unfold probeProvider
      split
      · exact fun _ => trivial
      · intro state
        refine ⟨lenient state _ (by simp) (by simp), fun _ => trivial⟩
    · exact fun _ _ => trivial

variable (lenient : Lenient t) (attempts : ∀ r, t.Permits (execute r).run)

include lenient attempts

theorem permits_tryCandidate (plan : ContinuityPlan) (step : ContinuityStep)
    (operationId : String) (candidate : FailoverCandidate) (progress : StepProgress) :
    t.Permits (tryCandidate plan step operationId candidate progress).run := by
  apply Protocol.Permits.bindExcept (permits_indoors lenient (clerical_append ..).indoors)
  intro _
  refine Protocol.Permits.bindExcept (fun _ => trivial) fun _ => ?_
  apply Protocol.Permits.bindLift (permits_effectiveCapabilities lenient candidate)
  intro capabilities
  cases capabilities with
  | error error =>
      dsimp only
      split
      · exact Protocol.Permits.bindExcept (permits_indoors lenient (clerical_append ..).indoors)
          fun _ _ => trivial
      · exact fun _ => trivial
  | ok effective =>
      dsimp only
      split
      · exact Protocol.Permits.bindExcept (permits_indoors lenient (clerical_append ..).indoors)
          fun _ _ => trivial
      · apply Protocol.Permits.bindExcept (permits_indoors lenient (clerical_rebindAfter ..).indoors)
        intro progress
        apply Protocol.Permits.bindLift (attempts candidate.request)
        intro result
        cases result with
        | ok execution => exact fun _ => trivial
        | error error =>
            dsimp only
            split
            · exact Protocol.Permits.bindExcept (permits_indoors lenient (clerical_append ..).indoors)
                fun _ _ => trivial
            · exact fun _ => trivial

theorem permits_tryCandidates (plan : ContinuityPlan) (step : ContinuityStep)
    (operationId : String) (candidates : List FailoverCandidate) (progress : StepProgress) :
    t.Permits (tryCandidates plan step operationId candidates progress).run := by
  induction candidates generalizing progress with
  | nil => exact fun _ => trivial
  | cons candidate rest ih =>
      apply Protocol.Permits.bindExcept
        (permits_tryCandidate lenient attempts plan step operationId candidate progress)
      intro tried
      obtain ⟨completed, progress⟩ := tried
      cases completed with
      | some execution => exact fun _ => trivial
      | none => exact ih progress

theorem permits_runStep (plan : ContinuityPlan) (step : ContinuityStep)
    (failovers : List FailoverRecord) : t.Permits (runStep plan step failovers).run := by
  unfold runStep
  split
  · exact fun _ => trivial
  · apply Protocol.Permits.bindExcept (permits_indoors lenient (clerical_committedReceipt _).indoors)
    intro committed
    cases committed with
    | some receipt => exact fun _ => trivial
    | none =>
        apply Protocol.Permits.bindExcept (permits_tryCandidates lenient attempts _ _ _ _ _)
        intro tried
        obtain ⟨completed, progress⟩ := tried
        cases completed with
        | some execution => exact fun _ => trivial
        | none => exact fun _ => trivial

theorem permits_executeContinuously (plan : ContinuityPlan) :
    t.Permits (executeContinuously plan).run := by
  unfold executeContinuously
  split
  · exact fun _ => trivial
  · generalize plan.steps = steps
    generalize ([] : List RuntimeExecution) = completed
    generalize ([] : List FailoverRecord) = failovers
    induction steps generalizing completed failovers with
    | nil => exact fun _ => trivial
    | cons step rest ih =>
        apply Protocol.Permits.bindExcept (permits_runStep lenient attempts plan step failovers)
        intro ran
        exact ih _ _

omit attempts in
/-- Recovery attempts only what it may repeat. -/
theorem permits_recover (order : MapOrder)
    (repeated : ∀ r : OperationRequest, r.delivery.repeatable = true →
      t.Permits (attempt r true).run) :
    t.Permits (recover order).run := by
  have revokes : Indoors (revokeOrphanedLeases order).run :=
    makes_then (makes_mapError (makes_perform (.readFrom 0) trivial))
      fun _ => indoors_revokeLeases _ _
  have reads : Indoors (pendingOperations order).run :=
    makes_then (makes_mapError (makes_perform (.readFrom 0) trivial)) fun _ => trivial
  apply Protocol.Permits.bindExcept (permits_indoors lenient revokes)
  intro _
  apply Protocol.Permits.bindExcept (permits_indoors lenient reads)
  intro pending
  generalize ([] : List RuntimeExecution) = recovered
  induction pending generalizing recovered with
  | nil => exact fun _ => trivial
  | cons r rest ih =>
      unfold recoverPending
      split
      · rename_i repeatable
        exact Protocol.Permits.bindExcept (repeated r repeatable) fun _ => ih _
      · exact fun _ => trivial

end Attempts

/-! ### The pace of one kernel -/

/-- Neither the start of an attempt nor an invocation of the provider. -/
def Event.quiet : Event → Bool
  | .attempt _ | .invoked _ => false
  | _ => true

/-- The last attempt of the history is one of `r`, with no invocation since. If
it is clear, the journal was seen without a commit of `r` on the way. -/
def Begun (r : OperationRequest) (clear : Bool) (history : List Event) : Prop :=
  ∃ start seen rest, history = start ++ .attempt r :: (seen ++ rest) ∧
    (∀ event ∈ seen ++ rest, event.quiet = true) ∧
    (clear = true → committedIn r (entriesOf (start ++ .attempt r :: seen)) = none)

/-- Every invocation has an attempt of its own, which found no commit. -/
def Paced (history : List Event) : Prop :=
  ∀ before r after, history = before ++ .invoked r :: after → Begun r true before

/-- The attempt that may invoke the provider next, and whether it has looked for a
commit and found none. -/
abbrev Pace : Type := Option (OperationRequest × Bool)

/-- The pace after a look at the entries of a workload. -/
def Pace.look (pace : Pace) (workloadId : String) (entries : List Entry) : Pace :=
  pace.map fun (r, clear) =>
    if workloadId = r.workloadId ∧
        latestReceipt .commit "StepCommit" r.operationId entries = none then (r, true)
    else (r, clear)

/-- The protocol of the attempts and the invocations. -/
def pacing : Protocol Call Answer Pace where
  law pace call := ∀ r token, call = .providerExecute r token → pace = some (r, true)
  next pace call answer :=
    match call, answer with
    | .attempt r, _ => some (r, false)
    | .providerExecute .., _ => none
    | .readWorkload workloadId, .ok entries => pace.look workloadId entries
    | _, _ => pace

section Histories

variable {history more : List Event} {r : OperationRequest} {clear : Bool}

theorem Begun.later (begun : Begun r clear history) (quiet : ∀ event ∈ more, event.quiet = true) :
    Begun r clear (history ++ more) := by
  obtain ⟨start, seen, rest, rfl, still, uncommitted⟩ := begun
  refine ⟨start, seen, rest ++ more, by simp, ?_, uncommitted⟩
  intro event member
  rw [← List.append_assoc, List.mem_append] at member
  rcases member with old | new
  · exact still event old
  · exact quiet event new

/-- A look at the journal that finds no commit. -/
theorem Begun.look (begun : Begun r clear history)
    (uncommitted : committedIn r (entriesOf history) = none) : Begun r true history := by
  obtain ⟨start, seen, rest, rfl, still, -⟩ := begun
  exact ⟨start, seen ++ rest, [], by simp, by simpa using still, fun _ => uncommitted⟩

theorem Paced.snoc {event : Event} (paced : Paced history)
    (own : ∀ r, event = .invoked r → Begun r true history) : Paced (history ++ [event]) := by
  intro before r after split
  rcases List.eq_nil_or_concat after with rfl | ⟨rest, last, rfl⟩
  · obtain ⟨rfl, same⟩ := List.append_inj' split rfl
    cases same
    exact own r rfl
  · have split : history ++ [event] = (before ++ .invoked r :: rest) ++ [last] := by
      simpa using split
    obtain ⟨rfl, -⟩ := List.append_inj' split rfl
    exact paced before r rest rfl

theorem Paced.later (paced : Paced history) (quiet : ∀ event ∈ more, event.quiet = true) :
    Paced (history ++ more) := by
  induction more using List.reverseRecOn with
  | nil => simpa using paced
  | append_singleton more event ih =>
      rw [← List.append_assoc]
      apply (ih fun other member => quiet other (List.mem_append_left _ member)).snoc
      rintro r rfl
      cases quiet (.invoked r) (by simp)

/-- All calls but two add quiet events only. -/
theorem answer_quiet {w : World} {call : Call} (choice : Choice) (noAttempt : ∀ r, call ≠ .attempt r)
    (noExecution : ∀ r token, call ≠ .providerExecute r token) :
    ∃ more, (kernelAnswer call w choice).2.history = w.history ++ more ∧
      ∀ event ∈ more, event.quiet = true := by
  cases call with
  | attempt r => exact absurd rfl (noAttempt r)
  | providerExecute r token => exact absurd rfl (noExecution r token)
  | append entry =>
      simp only [kernelAnswer, World.append]
      cases choice.storage with
      | some error => exact ⟨[_], rfl, by simp [Event.quiet]⟩
      | none =>
          refine ⟨[_], rfl, ?_⟩
          intro event member
          rw [List.mem_singleton.mp member]
          split <;> rfl
  | grantFenced workloadId principalId resources nodeId deviceId renewable =>
      simp only [kernelAnswer, World.grantFenced]
      split
      · exact ⟨[_], rfl, by simp [Event.quiet]⟩
      · exact ⟨[], by simp, by simp⟩
  | authorize | activeInsert | finish => exact ⟨[_], rfl, by simp [Event.quiet]⟩
  | _ => exact ⟨[], by simp [kernelAnswer], by simp⟩

end Histories

/-- What the pace says about the history. -/
def OnPace (pace : Pace) (w : World) : Prop :=
  ∀ r clear, pace = some (r, clear) → Begun r clear w.history

section Steps

variable {pace : Pace} {w : World}

theorem OnPace.quiet {later : World} {more : List Event} (keeps : OnPace pace w)
    (grown : later.history = w.history ++ more) (quiet : ∀ event ∈ more, event.quiet = true) :
    OnPace pace later := by
  intro r clear same
  rw [grown]
  exact (keeps r clear same).later quiet

theorem OnPace.look (keeps : OnPace pace w) (linked : Linked w) (workloadId : String) :
    OnPace (pace.look workloadId (w.journal.readWorkload workloadId)) w := by
  intro r clear same
  obtain ⟨⟨q, before⟩, begun, looked⟩ := Option.map_eq_some_iff.mp same
  dsimp only at looked
  split at looked
  · rename_i found
    cases looked
    have uncommitted : committedIn r (entriesOf w.history) = none := by
      rw [← linked, committedIn, ← found.1]
      exact found.2
    exact (keeps r before begun).look uncommitted
  · cases looked
    exact keeps r clear begun

/-- A call that is neither an attempt nor an execution is noticed only if it looks
at a workload. -/
theorem pacing_next {call : Call} {choice : Choice} (keeps : OnPace pace w) (linked : Linked w)
    (noAttempt : ∀ r, call ≠ .attempt r) (noExecution : ∀ r token, call ≠ .providerExecute r token) :
    OnPace (pacing.next pace call (kernel.answer call w choice).1) w := by
  cases call with
  | attempt r => exact absurd rfl (noAttempt r)
  | providerExecute r token => exact absurd rfl (noExecution r token)
  | readWorkload workloadId =>
      simp only [kernel, kernelAnswer, storageRead]
      cases choice.storage with
      | some error => exact keeps
      | none => exact keeps.look linked workloadId
  | _ => exact keeps

/-- A permitted call keeps the pace. -/
theorem pacing_step (pace : Pace) (call : Call) (w : World) (choice : Choice)
    (valid : Linked w ∧ Paced w.history) (keeps : OnPace pace w) (law : pacing.law pace call) :
    (Linked (kernel.answer call w choice).2 ∧ Paced (kernel.answer call w choice).2.history) ∧
      OnPace (pacing.next pace call (kernel.answer call w choice).1)
        (kernel.answer call w choice).2 := by
  obtain ⟨linked, paced⟩ := valid
  have stays := linked_answer linked call choice
  by_cases attempts : ∃ r, call = .attempt r
  · obtain ⟨r, rfl⟩ := attempts
    refine ⟨⟨stays, paced.snoc (by simp)⟩, ?_⟩
    intro q clear same
    cases same
    exact ⟨w.history, [], [], rfl, by simp, by simp⟩
  · by_cases executes : ∃ r token, call = .providerExecute r token
    · obtain ⟨r, token, rfl⟩ := executes
      refine ⟨⟨stays, paced.snoc ?_⟩, fun q clear same => by cases same⟩
      intro q same
      cases same
      exact keeps r true (law r token rfl)
    · have noAttempt : ∀ r, call ≠ .attempt r := fun r same => attempts ⟨r, same⟩
      have noExecution : ∀ r token, call ≠ .providerExecute r token :=
        fun r token same => executes ⟨r, token, same⟩
      obtain ⟨more, grown, quiet⟩ := answer_quiet (w := w) choice noAttempt noExecution
      refine ⟨⟨stays, ?_⟩, (pacing_next keeps linked noAttempt noExecution).quiet grown quiet⟩
      show Paced (kernelAnswer call w choice).2.history
      rw [grown]
      exact paced.later quiet

end Steps

/-! ### The programs keep the pace -/

section Programs

variable {r : OperationRequest}

theorem pacing_lenient : Lenient pacing := by
  intro pace call _ noExecution r token same
  exact absurd same (noExecution r token)

/-- An attempt that has found no commit takes no notice of indoor calls. -/
theorem pacing_overlooks : Overlooks Indoor pacing (some (r, true)) := by
  intro call indoor
  constructor
  · rintro q token rfl
    exact absurd indoor id
  · intro answer
    cases call with
    | attempt q => exact absurd indoor id
    | providerExecute q token => exact absurd indoor id
    | readWorkload workloadId =>
        cases answer with
        | error error => rfl
        | ok entries => simp [pacing, Pace.look]
    | _ => rfl

theorem pacing_simulates (armed : Bool) (pace : Pace) (call : Call)
    (kept : armed = true → pace = some (r, true)) (law : (invocation r).law armed call) :
    pacing.law pace call ∧ ∀ answer, (invocation r).next armed call answer = true →
      pacing.next pace call answer = some (r, true) := by
  rcases law with indoor | ⟨isArmed, token, rfl⟩
  · constructor
    · rintro q token rfl
      exact absurd indoor id
    · intro answer stillArmed
      rw [(invocation_overlooks call indoor).2 answer] at stillArmed
      rw [kept stillArmed]
      exact (pacing_overlooks call indoor).2 answer
  · refine ⟨?_, fun answer stillArmed => by cases stillArmed⟩
    intro q token' same
    cases same
    exact kept isArmed

theorem pacing_committedReceipt :
    pacing.Follows (fun outcome last => outcome = .ok none → last = some (r, true))
      (committedReceipt r).run (some (r, false)) := by
  refine ⟨fun _ _ other => (by cases other), fun answer => ?_⟩
  cases answer with
  | error error => exact fun other => by cases other
  | ok entries =>
      intro none
      have uncommitted : latestReceipt .commit "StepCommit" r.operationId entries = Option.none := by
        simpa using none
      simp [pacing, Pace.look, uncommitted]

theorem pacing_executeInternal (recovered : Bool) :
    pacing.Follows (fun _ _ => True) (executeInternal r recovered).run (some (r, false)) := by
  refine ⟨fun _ _ other => (by cases other), fun admitted => ?_⟩
  cases r.validateSensitiveReferences with
  | error reason => trivial
  | ok _ =>
      refine ⟨fun _ _ other => (by cases other), fun state => ?_⟩
      show pacing.Follows _ (ExceptT.run (if state = .shuttingDown then _ else _)) (some (r, false))
      split
      · trivial
      · apply Protocol.Follows.bindExcept
        apply pacing_committedReceipt.mono
        intro outcome last clear
        cases outcome with
        | error error => trivial
        | ok committed =>
            cases committed with
            | some receipt =>
                apply Protocol.Follows.bindExcept
                apply (permits_indoors pacing_lenient (clerical_latestDecisionTrace _).indoors last).mono
                intro trace later _
                cases trace with
                | error error => trivial
                | ok trace => trivial
            | none =>
                rw [clear rfl]
                apply follows_then pacing_overlooks (clerical_schedule r admitted).indoors
                intro placed
                apply follows_then pacing_overlooks (indoors_grantLease r placed.1)
                intro fenced
                have followed := (follows_executeLeased recovered admitted placed.1 placed.2
                  fenced).simulate pacing (fun armed pace => armed = true → pace = some (r, true))
                    pacing_simulates fun _ => rfl
                exact followed.mono fun _ _ _ => trivial

theorem pacing_attempt (r : OperationRequest) (recovered : Bool) :
    pacing.Permits (attempt r recovered).run := by
  intro pace
  refine ⟨fun _ _ other => (by cases other), fun _ => ?_⟩
  show pacing.Follows _ ((executeInternal r recovered).run >>= _) (some (r, false))
  apply Protocol.Follows.bind
  apply (pacing_executeInternal recovered).mono
  intro result last _
  exact ⟨fun _ _ other => (by cases other), fun _ => trivial⟩

theorem pacing_command (command : Command) : pacing.Permits command.task := by
  cases command with
  | execute request =>
      exact Protocol.Permits.bind (pacing_attempt request false) fun _ _ => trivial
  | executeContinuously plan =>
      exact Protocol.Permits.bind
        (permits_executeContinuously pacing_lenient (fun r => pacing_attempt r false) plan)
        fun _ _ => trivial
  | recover order =>
      exact Protocol.Permits.bind
        (permits_recover pacing_lenient order fun r _ => pacing_attempt r true) fun _ _ => trivial
  | shutdown => exact fun _ => ⟨fun _ _ other => (by cases other), fun _ => trivial⟩
  | restart => exact fun _ => trivial

end Programs

/-! ### Recovery -/

/-- The protocol of recovery: it attempts only what may be repeated. -/
def repeating : Protocol Call Answer Unit where
  law _ call := ∀ r, call = .attempt r → r.delivery.repeatable = true
  next _ _ _ := ()

theorem repeating_attempt {r : OperationRequest} (repeatable : r.delivery.repeatable = true) :
    repeating.Permits (attempt r true).run := by
  intro state
  refine ⟨fun q same => (by cases same; exact repeatable), fun _ => ?_⟩
  show repeating.Follows _ ((executeInternal r true).run >>= _) ()
  apply Protocol.Follows.bind
  have inside : ∀ (armed : Bool) (other : Unit) (call : Call), True →
      (invocation r).law armed call → repeating.law other call ∧ ∀ _ : Answer call, True := by
    intro armed other call _ law
    refine ⟨?_, fun _ => trivial⟩
    rintro q rfl
    rcases law with indoor | ⟨-, token, other⟩
    · exact absurd indoor id
    · cases other
  apply ((follows_executeInternal true fun _ => rfl).simulate repeating (fun _ _ => True)
    inside trivial).mono
  intro result last _
  exact ⟨fun _ other => (by cases other), fun _ => trivial⟩

/-- The attempts since a history are all of requests that may be repeated. -/
def Repeats (start : List Event) (w : World) : Prop :=
  ∃ more, w.history = start ++ more ∧ ∀ r, .attempt r ∈ more → r.delivery.repeatable = true

theorem Repeats.later {start added : List Event} {w later : World} (repeats : Repeats start w)
    (grown : later.history = w.history ++ added)
    (repeatable : ∀ r, .attempt r ∈ added → r.delivery.repeatable = true) :
    Repeats start later := by
  obtain ⟨more, history, old⟩ := repeats
  refine ⟨more ++ added, by rw [grown, history, List.append_assoc], ?_⟩
  intro r member
  rcases List.mem_append.mp member with before | new
  · exact old r before
  · exact repeatable r new

theorem repeating_step {start : List Event} (state : Unit) (call : Call) (w : World)
    (choice : Choice) (repeats : Repeats start w) (law : repeating.law state call) :
    Repeats start (kernel.answer call w choice).2 := by
  by_cases attempts : ∃ r, call = .attempt r
  · obtain ⟨r, rfl⟩ := attempts
    have grown : (kernel.answer (.attempt r) w choice).2.history = w.history ++ [.attempt r] := rfl
    apply repeats.later grown
    intro q member
    cases List.mem_singleton.mp member
    exact law r rfl
  · by_cases executes : ∃ r token, call = .providerExecute r token
    · obtain ⟨r, token, rfl⟩ := executes
      have grown : (kernel.answer (.providerExecute r token) w choice).2.history =
          w.history ++ [.invoked r] := rfl
      apply repeats.later grown
      intro q member
      cases List.mem_singleton.mp member
    · obtain ⟨added, history, quiet⟩ := answer_quiet (w := w) choice
        (fun r same => attempts ⟨r, same⟩) fun r token same => executes ⟨r, token, same⟩
      exact repeats.later history fun q member => by cases quiet _ member

/-- Recovery begins no attempt of a request that must not be repeated. -/
theorem recover_repeats (order : MapOrder) (w : World) (choices : List Choice) :
    Repeats w.history ((recover order).run.run kernel w choices).2 := by
  have lenient : Lenient repeating := fun _ call noAttempt _ r same => absurd same (noAttempt r)
  have follows := permits_recover lenient order (fun r => repeating_attempt) ()
  have step : ∀ (state : Unit) (call : Call) (later : World) (choice : Choice),
      Repeats w.history later → True → repeating.law state call →
        Repeats w.history (kernel.answer call later choice).2 ∧ True :=
    fun state call later choice repeats _ law =>
      ⟨repeating_step state call later choice repeats law, trivial⟩
  exact follows.run step ⟨[], by simp, by simp⟩ trivial choices

/-! ### Sessions -/

theorem perform_paced {w : World} (linked : Linked w) (paced : Paced w.history)
    (command : Command) (choices : List Choice) :
    Linked (w.perform command choices) ∧ Paced (w.perform command choices).history := by
  have ran : Linked (command.task.run kernel w choices).2 ∧
      Paced (command.task.run kernel w choices).2.history :=
    (pacing_command command none).run pacing_step ⟨linked, paced⟩
      (fun _ _ absent => by cases absent) choices
  unfold World.perform
  dsimp only
  split
  · refine ⟨by simpa [Linked, World.restart, entriesOf] using ran.1, ran.2.snoc ?_⟩
    intro r other
    cases other
  · exact ran

theorem session_paced {w : World} (steps : List (Command × List Choice)) (linked : Linked w)
    (paced : Paced w.history) : Paced (w.session steps).history := by
  induction steps generalizing w with
  | nil => exact paced
  | cons step rest ih =>
      obtain ⟨stays, along⟩ := perform_paced linked paced step.1 step.2
      exact ih stays along

/-- The invocations for one operation. -/
def invokes (operationId : String) : Event → Bool
  | .invoked r => r.operationId = operationId
  | _ => false

/-- No attempt of the operation begins after an invocation for it, unless its
receipt or its commit is journaled under the workload of the attempt. -/
def Spaced (operationId : String) (history : List Event) : Prop :=
  ∀ before q after, history = before ++ .attempt q :: after → q.operationId = operationId →
    (∀ event ∈ before, invokes operationId event = false) ∨
      receivedIn q (entriesOf before) ≠ none ∨ committedIn q (entriesOf before) ≠ none

/-- The condition of `Spaced` at one place of the history. -/
def spacedAt (operationId : String) (before : List Event) : Event → Bool
  | .attempt q => q.operationId ≠ operationId ∨
      (∀ event ∈ before, invokes operationId event = false) ∨
        receivedIn q (entriesOf before) ≠ none ∨ committedIn q (entriesOf before) ≠ none
  | _ => true

theorem spaced_iff (operationId : String) (history : List Event) :
    Spaced operationId history ↔ ∀ index ∈ List.range history.length, ∀ event ∈ history[index]?,
      spacedAt operationId (history.take index) event = true := by
  constructor
  · intro spaced index _ event found
    cases event with
    | attempt q =>
        obtain ⟨bound, same⟩ := List.getElem?_eq_some_iff.mp found
        have split : history = history.take index ++ .attempt q :: history.drop (index + 1) := by
          rw [← same, List.getElem_cons_drop, List.take_append_drop]
        simpa [spacedAt, imp_iff_not_or] using spaced _ q _ split
    | _ => rfl
  · rintro every before q after rfl operation
    have found := every before.length (by simp) (.attempt q) (by simp)
    simpa [spacedAt, operation] using found

instance (operationId : String) (history : List Event) : Decidable (Spaced operationId history) :=
  decidable_of_iff _ (spaced_iff operationId history).symm

section Counting

variable {Input : OperationRequest → Prop} {history : List Event} {operationId : String}

/-- What the lookups find in a lawful history stays found. -/
theorem lookups_grow {start more : List Event} (q : OperationRequest)
    (recorded : ∀ entry ∈ entriesOf (start ++ more), Recorded Input entry) :
    (receivedIn q (entriesOf start) ≠ none → receivedIn q (entriesOf (start ++ more)) ≠ none) ∧
      (committedIn q (entriesOf start) ≠ none →
        committedIn q (entriesOf (start ++ more)) ≠ none) := by
  rw [entriesOf_append] at recorded ⊢
  generalize entriesOf more = added at recorded ⊢
  induction added using List.reverseRecOn with
  | nil => simp
  | append_singleton added entry ih =>
      have last := recorded entry (by simp)
      rw [← List.append_assoc] at recorded ⊢
      obtain ⟨received, committed⟩ :=
        ih fun other member => recorded other (List.mem_append_left _ member)
      rw [receivedIn_snoc, committedIn_snoc]
      constructor
      · intro found
        split
        · rename_i same
          obtain ⟨-, receipt, -, -, -, -, carried, -⟩ := last.operationReceipt same.2.2.1
          simp [carried, Payload.receipt?]
        · exact received found
      · intro found
        split
        · rename_i same
          obtain ⟨-, receipt, -, -, -, -, carried, -⟩ := last.stepCommit same.2.2.1
          simp [carried, Payload.receipt?]
        · exact committed found

/-- An invocation in a spaced history is the first one for its operation. -/
theorem Spaced.first {before : List Event} {r : OperationRequest}
    (spaced : Spaced r.operationId (before ++ [.invoked r])) (begun : Begun r true before)
    (lawful : Lawful Input [] (before ++ [.invoked r])) :
    ∀ event ∈ before, invokes r.operationId event = false := by
  obtain ⟨start, seen, rest, rfl, quiet, uncommitted⟩ := begun
  obtain ⟨earlier, -, invoked⟩ := lawful.snoc
  have recorded := earlier.recorded
  have apart := spaced start r (seen ++ rest ++ [.invoked r]) (by simp) rfl
  rcases apart with fresh | received | committed
  · intro event member
    rcases List.mem_append.mp member with old | new
    · exact fresh event old
    · rcases List.mem_cons.mp new with rfl | late
      · rfl
      · cases event with
        | invoked q => cases quiet _ late
        | _ => rfl
  · exact absurd invoked.unreceived ((lookups_grow r recorded).1 received)
  · have seenRecorded : ∀ entry ∈ entriesOf (start ++ .attempt r :: seen), Recorded Input entry := by
      intro entry member
      apply recorded entry
      have longer : start ++ .attempt r :: (seen ++ rest) =
          (start ++ .attempt r :: seen) ++ rest := by simp
      rw [longer, entriesOf_append]
      exact List.mem_append_left _ member
    exact absurd (uncommitted rfl) ((lookups_grow r seenRecorded).2 committed)

theorem Paced.invoked_once (paced : Paced history) (lawful : Lawful Input [] history)
    (spaced : Spaced operationId history) :
    (history.filter (invokes operationId)).length ≤ 1 := by
  induction history using List.reverseRecOn with
  | nil => simp
  | append_singleton before event ih =>
      have earlier : Paced before := by
        rintro front r back rfl
        exact paced front r (back ++ [event]) (by simp)
      have sparse : Spaced operationId before := by
        rintro front q back rfl
        exact spaced front q (back ++ [event]) (by simp)
      have bound := ih earlier lawful.snoc.1 sparse
      rw [List.filter_append, List.length_append]
      by_cases counted : invokes operationId event = true
      · cases event with
        | invoked r =>
            have same : r.operationId = operationId := by simpa [invokes] using counted
            subst same
            have none := spaced.first (paced before r [] rfl) lawful
            have empty : before.filter (invokes r.operationId) = [] := by
              rw [List.filter_eq_nil_iff]
              intro other member
              simp [none other member]
            simp [empty, invokes]
        | _ => cases counted
      · simpa [counted] using bound

end Counting

/-- In a session in which no attempt of an operation begins after an invocation
for it without its receipt or commit, the provider is invoked at most once. -/
theorem provider_invoked_once (uuids : UuidSource) (clock : Int)
    (steps : List (Command × List Choice)) (operationId : String)
    (spaced : Spaced operationId (booted uuids clock steps).history) :
    ((booted uuids clock steps).history.filter (invokes operationId)).length ≤ 1 := by
  have paced : Paced (booted uuids clock steps).history := by
    apply session_paced steps (w := .boot uuids clock) rfl
    intro before r after split
    simp [World.boot] at split
  have valid : Sound (fun _ => True) [] (booted uuids clock steps) :=
    booted_sound uuids clock steps fun _ _ _ _ => trivial
  exact paced.invoked_once valid.lawful spaced

/-- A request that must not be delivered twice. -/
def onceRequest : OperationRequest :=
  sampleRequest "operation-1" "workload-1" "revision-1" .atMostOnce

/-- The request is answered, submitted again and found pending by nobody. -/
def answeredTwice : List (Command × List Choice) :=
  [(.execute onceRequest, List.replicate 40 (answering (sampleReceipt "operation-1" "result"))),
    (.recover .inserted, List.replicate 40 failing), (.execute onceRequest, List.replicate 40 failing)]

theorem provider_invoked_once_answered :
    Spaced "operation-1" (booted sampleUuids 0 answeredTwice).history ∧
      ((booted sampleUuids 0 answeredTwice).history.filter (invokes "operation-1")).length ≤ 1 :=
  have spaced : Spaced "operation-1" (booted sampleUuids 0 answeredTwice).history := by
    decide +kernel
  ⟨spaced, provider_invoked_once sampleUuids 0 answeredTwice "operation-1" spaced⟩

/-- The provider fails, or times out after it has acted, and the request is
submitted once more. -/
def submittedTwice : List (Command × List Choice) :=
  [(.execute onceRequest, List.replicate 40 failing), (.execute onceRequest, List.replicate 40 failing)]

/-- A request with at-most-once delivery reaches the provider twice. -/
theorem provider_invoked_twice :
    (∀ step ∈ submittedTwice, ∀ r ∈ step.1.requests, r.delivery = .atMostOnce) ∧
      ¬ ((booted sampleUuids 0 submittedTwice).history.filter
        (invokes "operation-1")).length ≤ 1 := by
  decide +kernel

end NousKernel
