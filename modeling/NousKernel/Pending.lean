import NousKernel.Commitment
import NousKernel.Footprint

/-!
Which operations recovery would take up. An effect in flight is pending exactly
if the operation was pending, or its intent key free, when its attempt began. A
failure that was observed is not taken up again unless its abort was absorbed.
-/

set_option autoImplicit false

namespace NousKernel

open Resumption Resumption.Discipline

/-- The entry ends an attempt of the operation. -/
def closes (operationId : String) (entry : Entry) : Bool :=
  ((entry.entryType = .commit && entry.objectType = "StepCommit") ||
    (entry.entryType = .abort && entry.objectType = "Operation")) && entry.objectId = operationId

/-- The provider was invoked for the operation, and no outcome was journaled
since. -/
def inFlight (operationId : String) (history : List Event) : Bool :=
  history.foldl (fun flying event => match event with
    | .invoked r => flying || r.operationId = operationId
    | .appended entry => flying && !closes operationId entry
    | _ => flying) false

theorem inFlight_snoc (operationId : String) (history : List Event) (event : Event) :
    inFlight operationId (history ++ [event]) = match event with
      | .invoked r => inFlight operationId history || r.operationId = operationId
      | .appended entry => inFlight operationId history && !closes operationId entry
      | _ => inFlight operationId history := by
  unfold inFlight
  rw [List.foldl_append]
  rfl

/-- The operation has a value in the map of pending operations. -/
theorem mem_pending_iff {operationId : String} {entries : List Entry} :
    (∃ q ∈ pendingValues entries, q.operationId = operationId) ↔
      pendingIn operationId entries ≠ none := by
  constructor
  · rintro ⟨q, member, rfl⟩
    rw [mem_pendingValues.mp member]
    exact Option.some_ne_none q
  · intro some
    obtain ⟨q, found⟩ := Option.ne_none_iff_exists'.mp some
    obtain ⟨rfl, -⟩ := pendingIn_origin found
    exact ⟨q, mem_pendingValues.mpr found, rfl⟩

/-- A pending operation stays so until an entry closes it. -/
theorem pendingIn_kept {operationId : String} {entries : List Entry} {entry : Entry}
    (pending : pendingIn operationId entries ≠ none) (unclosed : closes operationId entry = false) :
    pendingIn operationId (entries ++ [entry]) ≠ none := by
  rcases pendingIn_snoc_cases operationId entries entry with
    ⟨q, -, -, -, -, found⟩ | ⟨closed, same, -⟩ | kept
  · simp [found]
  · simp only [closes, same, Bool.and_eq_false_iff, Bool.or_eq_false_iff,
      decide_eq_false_iff_not] at unclosed
    rcases closed with ⟨commit, step⟩ | ⟨abort, operation⟩ <;> simp_all
  · rwa [kept]

/-- One history has one attempt under way. -/
theorem Underway.unique {start start' since since' now : List Event} {r r' : OperationRequest}
    (first : Underway start r since now) (second : Underway start' r' since' now) :
    start = start' ∧ r = r' ∧ since = since' := by
  have split := first.split.symm.trans second.split
  rcases List.append_eq_append_iff.mp split with ⟨more, longer, rest⟩ | ⟨more, longer, rest⟩
  · cases more with
    | nil =>
        simp only [List.nil_append, List.cons.injEq, Event.attempt.injEq] at rest
        exact ⟨by simpa using longer.symm, rest.1, rest.2⟩
    | cons event more =>
        simp only [List.cons_append, List.cons.injEq] at rest
        have inner := first.inner (.attempt r') (rest.2 ▸ by simp)
        cases inner
  · cases more with
    | nil =>
        simp only [List.nil_append, List.cons.injEq, Event.attempt.injEq] at rest
        exact ⟨by simpa using longer, rest.1.symm, rest.2.symm⟩
    | cons event more =>
        simp only [List.cons_append, List.cons.injEq] at rest
        have inner := second.inner (.attempt r) (rest.2 ▸ by simp)
        cases inner

/-- The attempt under way began after the last attempt ended. -/
theorem Underway.begun_after {start since now front rest : List Event} {r q : OperationRequest}
    {ended : Option KernelError} (under : Underway start r since now)
    (split : now = front ++ .finished q ended :: rest) : .attempt r ∈ rest := by
  have same := split.symm.trans under.split
  rcases List.append_eq_append_iff.mp same with ⟨more, -, later⟩ | ⟨more, -, earlier⟩
  · cases more with
    | nil => simp at later
    | cons event more =>
        simp only [List.cons_append, List.cons.injEq] at later
        rw [later.2]
        simp
  · cases more with
    | nil => simp at earlier
    | cons event more =>
        simp only [List.cons_append, List.cons.injEq] at earlier
        have inner := under.inner (.finished q ended) (earlier.2 ▸ by simp)
        cases inner

/-- The state before an attempt under which its effect cannot be forgotten: its
intent key is free, or its operation is pending. -/
def Coverable (r : OperationRequest) (start : List Event) : Prop :=
  intentKey r.operationId ∉ keysOf (entriesOf start) ∨
    pendingIn r.operationId (entriesOf start) ≠ none

/-- Every attempt that invoked the provider began in such a state. -/
def Covered (history : List Event) : Prop :=
  ∀ start r since after, history = start ++ .attempt r :: (since ++ .invoked r :: after) →
    (∀ event ∈ since, event.inner = true) → Coverable r start

section Lawful

variable {Input : OperationRequest → Prop} {history : List Event}

/-- An invocation finds its operation pending exactly if its attempt was
coverable. -/
theorem Lawful.invoked_pending {before after : List Event} {r : OperationRequest}
    (lawful : Lawful Input [] (before ++ .invoked r :: after)) :
    ∃ start since, Underway start r since before ∧
      (pendingIn r.operationId (entriesOf before) ≠ none ↔ Coverable r start) := by
  obtain ⟨-, -, invokes⟩ := lawful.law_at
  obtain ⟨start, since, under, pending⟩ := invokes.pending
  refine ⟨start, since, under, pending.trans (or_congr ?_ Iff.rfl)⟩
  simp [ledgerIn]

theorem Lawful.in_flight_pending (lawful : Lawful Input [] history) (covered : Covered history)
    {reached : List Event} (part : reached <+: history) (operationId : String)
    (flying : inFlight operationId reached = true) :
    pendingIn operationId (entriesOf reached) ≠ none := by
  induction reached using List.reverseRecOn with
  | nil => simp [inFlight] at flying
  | append_singleton before event ih =>
      obtain ⟨after, rest⟩ := part
      have longer : history = before ++ event :: after := by simpa using rest.symm
      have earlier := ih ⟨event :: after, longer.symm⟩
      rw [inFlight_snoc] at flying
      rw [entriesOf_append]
      cases event with
      | invoked r =>
          simp only [Bool.or_eq_true, decide_eq_true_eq] at flying
          rcases flying with old | rfl
          · simpa [entriesOf] using earlier old
          · obtain ⟨start, since, under, pending⟩ := (longer ▸ lawful).invoked_pending
            have cover : Coverable r start :=
              covered start r since after (by rw [longer, under.split]; simp) under.inner
            simpa [entriesOf] using pending.mpr cover
      | appended entry =>
          simp only [Bool.and_eq_true, Bool.not_eq_true'] at flying
          exact pendingIn_kept (earlier flying.1) flying.2
      | _ => simpa [entriesOf] using earlier flying

theorem Lawful.covered (lawful : Lawful Input [] history)
    (kept : ∀ reached, reached <+: history → ∀ operationId, inFlight operationId reached = true →
      pendingIn operationId (entriesOf reached) ≠ none) : Covered history := by
  intro start r since after split inner
  have longer : history = (start ++ .attempt r :: since) ++ .invoked r :: after := by
    simpa using split
  obtain ⟨start', since', under, pending⟩ := (longer ▸ lawful).invoked_pending
  obtain ⟨rfl, -, -⟩ := Underway.unique ⟨rfl, inner⟩ under
  refine pending.mp ?_
  have flying := kept ((start ++ .attempt r :: since) ++ [.invoked r])
    ⟨after, by rw [longer]; simp⟩ r.operationId (by rw [inFlight_snoc]; simp)
  simpa [entriesOf] using flying

end Lawful

/-- At every crash point of a session, the effects in flight are all pending
exactly if every attempt that invoked the provider was coverable. -/
theorem in_flight_pending_iff (uuids : UuidSource) (clock : Int)
    (steps : List (Command × List Choice)) :
    (∀ reached, reached <+: (booted uuids clock steps).history →
      ∀ operationId, inFlight operationId reached = true →
        ∃ q ∈ pendingValues (entriesOf reached), q.operationId = operationId) ↔
      Covered (booted uuids clock steps).history := by
  have valid : Sound (fun _ => True) [] (booted uuids clock steps) :=
    booted_sound uuids clock steps fun _ _ _ _ => trivial
  simp only [mem_pending_iff]
  exact ⟨valid.lawful.covered, fun covered _ part => valid.lawful.in_flight_pending covered part⟩

/-- A failed attempt, and its retry up to the provider call. -/
def retriedOperation : List (Command × List Choice) :=
  [(.execute (sampleRequest "operation-1" "workload-1" "revision-1" .idempotent),
      List.replicate 30 failing),
    (.execute (sampleRequest "operation-1" "workload-1" "revision-1" .idempotent),
      List.replicate 17 failing)]

/-- The retry's intent is absorbed, so the abort of the first attempt is the last
word of the journal on an operation whose provider call is running. -/
theorem in_flight_forgotten :
    ¬ ∀ uuids clock steps reached, reached <+: (booted uuids clock steps).history →
      ∀ operationId, inFlight operationId reached = true →
        ∃ q ∈ pendingValues (entriesOf reached), q.operationId = operationId := by
  intro covered
  have flying : inFlight "operation-1" (booted sampleUuids 0 retriedOperation).history = true := by
    decide +kernel
  have empty : pendingValues (entriesOf (booted sampleUuids 0 retriedOperation).history) = [] := by
    decide +kernel
  obtain ⟨q, member, -⟩ :=
    covered sampleUuids 0 retriedOperation _ List.prefix_rfl "operation-1" flying
  rw [empty] at member
  cases member

/-! ### Observed failures -/

/-- The event begins an attempt of the operation. -/
def begins (operationId : String) : Event → Bool
  | .attempt q => q.operationId = operationId
  | _ => false

/-- The event journals that the operation is bound to another provider. -/
def rebinds (operationId : String) : Event → Bool
  | .appended entry => entry.newPhase = "REBOUND" && entry.objectId = operationId
  | _ => false

/-- The event is no append that the storage refused. -/
def Event.taken : Event → Bool
  | .refused _ => false
  | _ => true

/-- The last attempt of the operation of `r` failed, and all its appends were taken. -/
structure LastFailed (r : OperationRequest) (start since rest history : List Event) : Prop where
  split : ∃ error, history = start ++ .attempt r :: (since ++ .finished r (some error) :: rest)
  inner : ∀ event ∈ since, event.inner = true
  taken : ∀ event ∈ since, event.taken = true
  last : ∀ event ∈ rest, begins r.operationId event = false

/-- The state before an attempt under which its failure settles the operation. An
attempt that got as far as its execution needs a free abort key, or an operation
that its own intent cannot make pending. Any other one must find it not pending. -/
def Settleable (r : OperationRequest) (start since : List Event) : Prop :=
  (.registered r ∈ since →
    abortKey r.operationId r.snapshot.providerRevision ∉ keysOf (entriesOf start) ∨
      (intentKey r.operationId ∈ keysOf (entriesOf start) ∧
        pendingIn r.operationId (entriesOf start) = none)) ∧
  (.registered r ∉ since → pendingIn r.operationId (entriesOf start) = none)

section Failures

variable {Input : OperationRequest → Prop} {history start since rest : List Event}
  {r : OperationRequest}

/-- A settleable attempt that fails leaves its operation not pending. -/
theorem Lawful.failure_settles {error : KernelError}
    (lawful : Lawful Input []
      ((start ++ .attempt r :: since) ++ .finished r (some error) :: rest))
    (inner : ∀ event ∈ since, event.inner = true) (taken : ∀ event ∈ since, event.taken = true)
    (settleable : Settleable r start since) :
    pendingIn r.operationId (entriesOf (start ++ .attempt r :: since)) = none := by
  obtain ⟨-, -, start', since', under, fails⟩ := lawful.law_at
  obtain ⟨rfl, -, rfl⟩ := Underway.unique ⟨rfl, inner⟩ under
  have clean : ∀ entry, .refused entry ∉ since := fun entry refused => by
    cases taken (.refused entry) refused
  obtain ⟨early, ran⟩ := fails (by simp) clean
  by_cases registered : .registered r ∈ since
  · by_contra pending
    obtain ⟨aborted, inForce⟩ := ran registered pending
    rcases settleable.1 registered with unused | ⟨intended, absent⟩
    · exact unused (by simpa [ledgerIn] using aborted)
    · rcases inForce with free | present
      · simp [ledgerIn, intended] at free
      · exact present absent
  · exact (early registered).trans (settleable.2 registered)

/-- An intent of the runtime that is no rebind belongs to an attempt. -/
theorem Recorded.intent_phase {entry : Entry} (recorded : Recorded Input entry)
    (intent : entry.entryType = .intent) {q : OperationRequest}
    (carried : entry.payload = .request q) :
    entry.objectId = q.operationId ∧ (entry.newPhase = "PENDING" ∨ entry.newPhase = "REBOUND") := by
  obtain ⟨written, sequence, now, shape, rfl⟩ := recorded
  cases shape with
  | intent r known =>
      cases carried
      exact ⟨rfl, .inl rfl⟩
  | rebound r known =>
      cases carried
      exact ⟨rfl, .inr rfl⟩
  | workload r execution known => cases carried
  | _ => cases intent

/-- Where nothing has begun or been rebound since an attempt ended, nothing has become
pending. -/
theorem Lawful.settled_stays {ended : Option KernelError}
    (lawful : Lawful Input [] (start ++ .finished r ended :: rest))
    (settled : pendingIn r.operationId (entriesOf start) = none)
    (last : ∀ event ∈ rest, begins r.operationId event = false)
    (unbound : ∀ event ∈ rest, rebinds r.operationId event = false) :
    pendingIn r.operationId (entriesOf (start ++ .finished r ended :: rest)) = none := by
  induction rest using List.reverseRecOn with
  | nil => simpa [entriesOf] using settled
  | append_singleton rest event ih =>
      have longer : Lawful Input [] ((start ++ .finished r ended :: rest) ++ [event]) := by
        simpa using lawful
      obtain ⟨shorter, law⟩ := longer.snoc
      have before := ih shorter (fun other member => last other (List.mem_append_left _ member))
        fun other member => unbound other (List.mem_append_left _ member)
      rw [show start ++ .finished r ended :: (rest ++ [event]) =
        (start ++ .finished r ended :: rest) ++ [event] by simp, entriesOf_append]
      cases event with
      | appended entry =>
          rw [entriesOf_appended]
          rcases pendingIn_snoc_cases r.operationId
              (entriesOf (start ++ .finished r ended :: rest)) entry with
            ⟨q, intent, -, carried, same, -⟩ | ⟨-, -, gone⟩ | kept
          · obtain ⟨recorded, ordered⟩ := law
            obtain ⟨object, pending | rebound⟩ := recorded.intent_phase intent carried
            · obtain ⟨begun, r', since', under, operation⟩ := ordered.inside intent pending
              have inside : .attempt r' ∈ rest := under.begun_after rfl
              have quiet := last _ (List.mem_append_left _ inside)
              simp [begins, operation, object, same] at quiet
            · have quiet := unbound _ (List.mem_append_right _ (.head _))
              simp [rebinds, rebound, object, same] at quiet
          · exact gone
          · rw [kept]
            exact before
      | _ => simpa [entriesOf] using before

theorem LastFailed.settles (failed : LastFailed r start since rest history)
    (lawful : Lawful Input [] history) (settleable : Settleable r start since)
    (unbound : ∀ event ∈ rest, rebinds r.operationId event = false) :
    pendingIn r.operationId (entriesOf history) = none := by
  obtain ⟨⟨error, split⟩, inner, taken, last⟩ := failed
  have parts : history = (start ++ .attempt r :: since) ++ .finished r (some error) :: rest := by
    simpa using split
  subst parts
  exact lawful.settled_stays (lawful.failure_settles inner taken settleable) last unbound

end Failures

/-! ### Recovery spares an operation that is not pending -/

/-- The call makes no request of the operation pending and invokes no provider
for it. -/
def Spares (operationId : String) : Call → Prop
  | .append entry => ∀ q, entry.payload = .request q → q.operationId ≠ operationId
  | .providerExecute q _ => q.operationId ≠ operationId
  | _ => True

/-- No provider was invoked for the operation between the two worlds. -/
def Spared (operationId : String) (w later : World) : Prop :=
  ∃ more, later.history = w.history ++ more ∧ ∀ q, .invoked q ∈ more → q.operationId ≠ operationId

/-- A task alone in a kernel where the operation is not pending. -/
def sparing (operationId : String) : Discipline Call Answer World Choice where
  machine := kernel
  inv w := pendingIn operationId w.journal.entries = none
  allow _ _ _ := True
  rely := Eq
  guar := Spared operationId

section Spared

variable {operationId : String}

theorem Spared.refl (w : World) : Spared operationId w w := ⟨[], by simp, by simp⟩

theorem Spared.trans {a b c : World} (first : Spared operationId a b)
    (second : Spared operationId b c) : Spared operationId a c := by
  obtain ⟨more, grown, spared⟩ := first
  obtain ⟨next, longer, kept⟩ := second
  refine ⟨more ++ next, by rw [longer, grown, List.append_assoc], ?_⟩
  intro q member
  rcases List.mem_append.mp member with old | new
  · exact spared q old
  · exact kept q new

theorem Spared.of_steps {w later : World}
    (steps : Relation.ReflTransGen (Spared operationId) w later) : Spared operationId w later := by
  induction steps with
  | refl => exact .refl w
  | tail _ step spared => exact spared.trans step

theorem Spared.record {w later : World} {event : Event}
    (grown : later.history = w.history ++ [event])
    (other : ∀ q, event = .invoked q → q.operationId ≠ operationId) :
    Spared operationId w later :=
  ⟨[event], grown, fun q member => other q (List.mem_singleton.mp member).symm⟩

theorem Spared.same {w later : World} (history : later.history = w.history) :
    Spared operationId w later := ⟨[], by simp [history], by simp⟩

/-- An append of an entry that carries no request of the operation. -/
theorem pendingIn_spared {j : Journal Payload} {entry : Entry} {now : Int}
    (absent : pendingIn operationId j.entries = none)
    (spares : ∀ q, entry.payload = .request q → q.operationId ≠ operationId) :
    pendingIn operationId (j.append entry now).2.entries = none := by
  cases found : j.absorber entry with
  | some sequence => rwa [Journal.append_absorbed now found]
  | none =>
      rw [Journal.append_inserted now found]
      rcases pendingIn_snoc_cases operationId j.entries (Journal.stamp j.nextSequence now entry) with
        ⟨q, -, -, carried, same, -⟩ | ⟨-, -, gone⟩ | kept
      · exact absurd same (spares q carried)
      · exact gone
      · rwa [kept]

theorem sparing_answer {call : Call} {w : World} (choice : Choice) (spares : Spares operationId call)
    (absent : pendingIn operationId w.journal.entries = none) :
    pendingIn operationId (kernelAnswer call w choice).2.journal.entries = none ∧
      Spared operationId w (kernelAnswer call w choice).2 := by
  cases call with
  | append entry =>
      simp only [kernelAnswer, World.append]
      cases choice.storage with
      | some error => exact ⟨absent, .record rfl (by simp)⟩
      | none =>
          refine ⟨pendingIn_spared absent spares, .record rfl ?_⟩
          intro q invoked
          split at invoked <;> cases invoked
  | grantFenced workloadId principalId resources nodeId deviceId renewable =>
      simp only [kernelAnswer, World.grantFenced]
      split
      · exact ⟨absent, .record rfl (by simp)⟩
      · exact ⟨absent, .same rfl⟩
  | providerExecute q token =>
      refine ⟨absent, .record rfl ?_⟩
      intro other same
      cases same
      exact spares
  | authorize | activeInsert | attempt | finish => exact ⟨absent, .record rfl (by simp)⟩
  | _ => exact ⟨absent, .same rfl⟩

theorem sparing_quiet : (sparing operationId).Interference :=
  Alone.interference (d := sparing operationId) fun _ _ => Iff.rfl

theorem sparing_calls {α : Type} {Mine : Call → Prop} {post : α → Prop} {p : Task α} {w : World}
    (calls : p.Calls (Honest fun _ => True) Mine post)
    (spares : ∀ call, Mine call → Spares operationId call) :
    (sparing operationId).Safe (fun value _ => post value) p w := by
  refine (Safe.of_calls (d := sparing operationId) (fun _ => True) calls ?_
    (fun _ _ _ _ _ => trivial) trivial).mono fun _ _ _ ending => ending.1
  intro call now choice mine _ absent _
  obtain ⟨still, spared⟩ := sparing_answer choice (spares call mine) absent
  exact ⟨honest_answer call now choice trivial, still, spared, trivial⟩

theorem sparing_read {post : Except KernelError (List Entry) → World → Prop} {w : World}
    (read : ∀ later, pendingIn operationId later.journal.entries = none →
      post (.ok later.journal.entries) later)
    (fault : ∀ error later, post (.error error) later) :
    (sparing operationId).Safe post (journalError (Task.readFrom 0)).run w := by
  intro now same absent choice _
  cases same
  obtain ⟨still, spared⟩ :=
    sparing_answer choice (show Spares operationId (.readFrom 0) from trivial) absent
  refine ⟨still, spared, ?_⟩
  cases failed : choice.storage with
  | some error =>
      simp only [sparing, kernel, kernelAnswer, failed, storageRead]
      exact fun later _ _ => fault _ later
  | none =>
      simp only [sparing, kernel, kernelAnswer, failed, storageRead, World.tick_journal,
        Journal.readFrom_zero]
      rintro later rfl gone
      exact read _ gone

theorem Concerns.spares {r : OperationRequest} {call : Call} (concerns : Concerns r call)
    (other : r.operationId ≠ operationId) : Spares operationId call := by
  cases concerns with
  | append kind entry row _ =>
      intro q carried
      have same : q = r := row.written.input carried
      exact same ▸ other
  | providerExecute token => exact other
  | _ => trivial

/-- Recovery invokes no provider for an operation that is not pending. -/
theorem recover_spares {w : World} (absent : pendingIn operationId w.journal.entries = none)
    (order : MapOrder) (choices : List Choice) :
    Spared operationId w ((recover order).run.run kernel w choices).2 := by
  have safe : (sparing operationId).Safe (fun _ _ => True) (recover order).run w := by
    refine Safe.bindExcept sparing_quiet (Safe.bindExcept sparing_quiet (sparing_read ?_ ?_))
    · intro later _
      refine (sparing_calls (calls_revokeLeases _ _) ?_).mono ?_
      · rintro call ⟨_, _, _, _, _, _, _⟩ q carried
        cases carried
      rintro (error | ⟨⟩) later _ _
      · exact fun _ _ _ => trivial
      refine Safe.bindExcept sparing_quiet (Safe.bindExcept sparing_quiet (sparing_read ?_ ?_))
      · intro read gone
        rintro _ rfl _
        refine (sparing_calls (calls_recoverPending _ []) ?_).mono fun _ _ _ _ => trivial
        rintro call ⟨r, member, concerns⟩
        refine concerns.spares fun same => ?_
        have pending := mem_pendingValues.mp ((order.pendingPerm _).mem_iff.mp member)
        rw [same, gone] at pending
        cases pending
      · exact fun _ _ _ _ _ _ _ _ => trivial
    · exact fun _ _ _ _ _ _ _ _ => trivial
  obtain ⟨-, steps, -⟩ := safe.run (fun _ => rfl) choices (fun _ _ _ _ => trivial) absent
  exact .of_steps steps

end Spared

/-- In every session, the failure of the last attempt of an operation settles it
if the attempt was settleable and the operation was not rebound since: it is not
pending after a restart, and recovery invokes no provider for it. -/
theorem observed_failure_settled (uuids : UuidSource) (clock : Int)
    (steps : List (Command × List Choice)) (r : OperationRequest) (start since rest : List Event)
    (failed : LastFailed r start since rest (booted uuids clock steps).history)
    (settleable : Settleable r start since)
    (unbound : ∀ event ∈ rest, rebinds r.operationId event = false) :
    (∀ q ∈ pendingValues (booted uuids clock steps).restart.journal.entries,
      q.operationId ≠ r.operationId) ∧
    ∀ order choices, Spared r.operationId (booted uuids clock steps).restart
      ((recover order).run.run kernel (booted uuids clock steps).restart choices).2 := by
  have valid : Sound (fun _ => True) [] (booted uuids clock steps) :=
    booted_sound uuids clock steps fun _ _ _ _ => trivial
  have absent : pendingIn r.operationId (booted uuids clock steps).restart.journal.entries =
      none := by
    have settled := failed.settles valid.lawful settleable unbound
    rwa [← valid.linked] at settled
  refine ⟨?_, fun order choices => recover_spares absent order choices⟩
  intro q member same
  have pending := mem_pendingValues.mp member
  rw [same, absent] at pending
  cases pending

/-- Two reference providers of one revision. -/
def sampleCandidate (provider : String) : FailoverCandidate where
  request := sampleRequest "operation-1" "workload-1" "revision-1" .idempotent
  capabilities :=
    { provider
      backend := "reference"
      model := ""
      runtimeClass := .reference
      chat := .supported
      streaming := .supported
      tools := .supported
      structuredOutput := .supported
      vision := .supported
      embedding := .supported
      reasoning := .supported
      localExecution := .supported
      contextLength := some 1024
      privacyLocal := true }

def samplePlan : ContinuityPlan where
  workloadId := "workload-1"
  processIdentity := "process-1"
  steps :=
    [{ stepId := "step-1"
       requirements :=
         { chat := true, streaming := false, tools := false, structuredOutput := false
           vision := false, embedding := false, reasoning := false
           minContextLength := 0, localOnly := false }
       allowDegraded := false
       candidates := [sampleCandidate "provider-1", sampleCandidate "provider-2"] }]

/-- The plan with both providers failing. -/
def failedPlan : List (Command × List Choice) :=
  [(.executeContinuously samplePlan, List.replicate 80 failing)]

/-- The events of the last attempt, which a reference provider failed, by their places. -/
def FailedLast (r : OperationRequest) (before inside : Nat) (history : List Event) : Prop :=
  history = history.take before ++ .attempt r :: ((history.drop (before + 1)).take inside ++
      .finished r (some (.provider "provider unavailable")) ::
        history.drop (before + 1 + inside + 1)) ∧
    (∀ event ∈ (history.drop (before + 1)).take inside, event.inner = true) ∧
    (∀ event ∈ (history.drop (before + 1)).take inside, event.taken = true) ∧
    ∀ event ∈ history.drop (before + 1 + inside + 1), begins r.operationId event = false

theorem FailedLast.lastFailed {r : OperationRequest} {before inside : Nat} {history : List Event}
    (failed : FailedLast r before inside history) :
    LastFailed r (history.take before) ((history.drop (before + 1)).take inside)
      (history.drop (before + 1 + inside + 1)) history where
  split := ⟨_, failed.1⟩
  inner := failed.2.1
  taken := failed.2.2.1
  last := failed.2.2.2

/-- The failure of the second provider is no end of the operation: its abort is
absorbed by the first one's, behind which the rebind has made it pending. -/
theorem failed_operation_pending :
    ¬ ∀ uuids clock steps r start since rest,
      LastFailed r start since rest (booted uuids clock steps).history →
        ∀ q ∈ pendingValues (booted uuids clock steps).restart.journal.entries,
          q.operationId ≠ r.operationId := by
  intro settled
  have run : FailedLast (sampleRequest "operation-1" "workload-1" "revision-1" .idempotent) 19 12
        (booted sampleUuids 0 failedPlan).history ∧
      sampleRequest "operation-1" "workload-1" "revision-1" .idempotent ∈
        pendingValues (booted sampleUuids 0 failedPlan).restart.journal.entries := by
    unfold FailedLast
    decide +kernel
  exact settled _ _ _ _ _ _ _ run.1.lastFailed _ run.2 rfl

/-- The operation with its provider failing. -/
def failedOnce : List (Command × List Choice) :=
  [(.execute (sampleRequest "operation-1" "workload-1" "revision-1" .idempotent),
    List.replicate 30 failing)]

/-- The first failure of an operation is settled. -/
theorem observed_failure_settled_first :
    FailedLast (sampleRequest "operation-1" "workload-1" "revision-1" .idempotent) 0 12
      (booted sampleUuids 0 failedOnce).history ∧
    ∀ q ∈ pendingValues (booted sampleUuids 0 failedOnce).restart.journal.entries,
      q.operationId ≠ "operation-1" := by
  have run : FailedLast (sampleRequest "operation-1" "workload-1" "revision-1" .idempotent) 0 12
        (booted sampleUuids 0 failedOnce).history ∧
      ∀ event ∈ (booted sampleUuids 0 failedOnce).history.drop (0 + 1 + 12 + 1),
        rebinds "operation-1" event = false := by
    unfold FailedLast
    decide +kernel
  exact ⟨run.1, (observed_failure_settled _ _ _ _ _ _ _ run.1.lastFailed
    ⟨fun _ => .inl (by simp), fun _ => rfl⟩ run.2).1⟩

end NousKernel
