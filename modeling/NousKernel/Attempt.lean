import Mathlib.Data.Finmap
import NousKernel.Execution

/-!
One attempt, alone: admission, the lease, the execution under it and the
bookkeeping after it. The main lemma says how an attempt can end, what it does to
the ledger, and that it leaves the process without a lease.
-/

set_option autoImplicit false

namespace NousKernel

open Resumption Resumption.Discipline

/-- A process between two attempts: no lease, and no token cancelled ahead. -/
structure Fresh (w : World) : Prop where
  leases : w.leases.leases = ∅
  node : ':' ∉ w.leases.fencing.nodeId.toList
  duration : w.leases.defaultDuration = 30000000
  cancelled : ∀ token ∈ w.cancelled, token < w.tokens

/-- The process has gained one lease and is otherwise as it was. -/
structure Holding (w : World) (leaseId : String) (later : World) : Prop where
  leases : ∃ lease, later.leases.leases = w.leases.leases.insert leaseId lease
  node : later.leases.fencing.nodeId = w.leases.fencing.nodeId
  duration : later.leases.defaultDuration = w.leases.defaultDuration
  state : later.state = w.state
  cancelled : later.cancelled = w.cancelled
  tokens : w.tokens ≤ later.tokens

/-- The process is ready for the next attempt if it was ready before. -/
structure Restored (w later : World) : Prop where
  state : later.state = w.state
  fresh : Fresh w → Fresh later

theorem Restored.of_same {w later : World} (process : SameProcess w later) : Restored w later where
  state := process.state
  fresh fresh :=
    ⟨process.leases ▸ fresh.leases, process.leases ▸ fresh.node, process.leases ▸ fresh.duration,
      by rw [process.cancelled, process.tokens]; exact fresh.cancelled⟩

theorem Restored.trans {a b c : World} (first : Restored a b) (second : Restored b c) :
    Restored a c :=
  ⟨second.state.trans first.state, fun fresh => second.fresh (first.fresh fresh)⟩

theorem Holding.same {w later last : World} {leaseId : String} (holding : Holding w leaseId later)
    (process : SameProcess later last) : Holding w leaseId last where
  leases := process.leases ▸ holding.leases
  node := process.leases ▸ holding.node
  duration := process.leases ▸ holding.duration
  state := process.state.trans holding.state
  cancelled := process.cancelled.trans holding.cancelled
  tokens := process.tokens ▸ holding.tokens

theorem Holding.since {first w later : World} {leaseId : String} (process : SameProcess first w)
    (holding : Holding w leaseId later) : Holding first leaseId later where
  leases := process.leases ▸ holding.leases
  node := process.leases ▸ holding.node
  duration := process.leases ▸ holding.duration
  state := holding.state.trans process.state
  cancelled := holding.cancelled.trans process.cancelled
  tokens := process.tokens ▸ holding.tokens

theorem erase_insert_empty {β : Type} (key : String) (value : β) :
    ((∅ : AList (fun _ : String => β)).insert key value).erase key = ∅ := by
  apply AList.ext
  simp [AList.erase, AList.insert]

section Leases

variable {Input : OperationRequest → Prop} {base : List Event}
  {Allowed : Call → World → Choice → Prop} {start : List Event} {r : OperationRequest}
  {ran : Prop} {l : Ledger} {w : World}

/-- The release of the lease that the process has gained. -/
theorem safe_release {first : World} {leaseId : String}
    {post : Except NousError Unit → World → Prop}
    (holding : Holding first leaseId w)
    (next : ∀ later, Restored first later → later.journal = w.journal →
      later.history = w.history → post (.ok ()) later) :
    (sequential Input base Allowed).Safe post (Task.release leaseId) w := by
  obtain ⟨lease, leases⟩ := holding.leases
  have present : leaseId ∈ w.leases.leases := by simp [leases]
  refine safe_perform fun valid choice _ => ?_
  simp only [kernelAnswer, World.tick_leases, LeaseManager.release, present, if_true]
  refine ⟨⟨valid.linked, valid.lawful⟩, next _ ?_ rfl rfl⟩
  refine ⟨holding.state, fun fresh => ⟨?_, ?_, ?_, ?_⟩⟩
  · simp only [leases, fresh.leases]
    exact erase_insert_empty leaseId lease
  · exact holding.node ▸ fresh.node
  · exact holding.duration.trans fresh.duration
  · intro token member
    exact Nat.lt_of_lt_of_le (fresh.cancelled token (holding.cancelled ▸ member)) holding.tokens

theorem safe_schedule {nowUs : Int} (known : Input r)
    (standing : Standing start r ran l w) :
    (sequential Input base Allowed).Safe (fun result later => SameProcess w later ∧
      match result with
      | .ok _ => Standing start r ran l later
      | .error _ => ¬ Reliable Allowed ∧ Spoiled start r later)
      (schedule r nowUs).run w := by
  obtain ⟨placement, trace, placed, _, _⟩ := schedule_eq r nowUs
  rw [placed]
  refine Safe.bindExcept sequential_quiet (safe_append (.schedule r trace known) ?_ ?_ ?_)
  · exact fun _ => .free (by simp [entryOf]) (by simp [entryOf]) (by simp [entryOf])
  · intro later appends
    refine safe_done fun _ => ⟨appends.process, standing.appends appends fun now => ?_⟩
    rw [← standing.ledger]
    exact ledgerIn_neutral r _ now _ (scheduleKey r.operationId) rfl
      ⟨by simp [entryOf], by simp [entryOf]⟩ (by simp [entryOf])
      (by simp [scheduleKey, intentKey, abortKey, receiptKey, commitKey, operationKey_eq_iff])
  · intro broken later error refuses
    exact safe_done fun _ => ⟨refuses.process, broken, standing.refuses refuses⟩

/-- The world after a grant. -/
theorem safe_grantFenced {workloadId principalId nodeId deviceId : String}
    {resources : ResourceVector} {renewable : Bool}
    {post : Except NousError FencedLease → World → Prop}
    (granted : ∀ (elapsed : Nat) fenced later, ':' ∉ fenced.lease.leaseId.toList →
      w.leases.holdsValid workloadId (w.clock + elapsed) = false →
      fenced.fencingToken = w.leases.fencing.next.1 →
      later.leases = (w.leases.grantFenced (w.clock + elapsed) fenced.lease.leaseId workloadId
        principalId resources nodeId deviceId renewable).2 →
      later.journal = w.journal →
      later.history = w.history ++ [.granted fenced.lease.leaseId workloadId later.clock] →
      later.clock = w.clock + elapsed →
      later.state = w.state ∧ later.cancelled = w.cancelled ∧ later.tokens = w.tokens →
      post (.ok fenced) later)
    (held : ∀ error later, w.leases.leases ≠ ∅ → SameProcess w later →
      later.journal = w.journal → later.history = w.history → post (.error error) later) :
    (sequential Input base Allowed).Safe post
      (Task.grantFenced workloadId principalId resources nodeId deviceId renewable) w := by
  refine safe_perform fun valid choice _ => ?_
  cases vacant : w.leases.holdsValid workloadId (w.clock + choice.elapsed) with
  | true =>
      have refusal : ((w.tick choice.elapsed).grantFenced workloadId principalId resources nodeId
          deviceId renewable) = (.error ⟨.alreadyExists, "Workload '" ++ workloadId ++
            "' already has an active lease"⟩,
            { w.tick choice.elapsed with drawn := w.drawn + 1 }) := by
        simp [World.grantFenced, LeaseManager.grantFenced, World.tick, vacant]
      simp only [kernelAnswer, refusal]
      refine ⟨⟨valid.linked, valid.lawful⟩, held _ _ ?_ ⟨rfl, rfl, rfl, rfl⟩ rfl rfl⟩
      intro empty
      rw [LeaseManager.holdsValid, empty] at vacant
      simp at vacant
  | false =>
      simp only [kernelAnswer, World.grantFenced, LeaseManager.grantFenced, World.tick, vacant,
        Bool.false_eq_true, if_false]
      refine ⟨?_, granted choice.elapsed _ _ (w.uuids.hyphenated w.drawn) vacant rfl ?_ rfl rfl rfl
        ⟨rfl, rfl, rfl⟩⟩
      · refine Sound.record ?_ rfl ?_
        · exact ⟨valid.linked, valid.lawful⟩
        · exact trivial
      · simp [LeaseManager.grantFenced, vacant, World.record]

/-- How a lease grant can end. -/
def Granting (Allowed : Call → World → Choice → Prop) (start : List Event) (r : OperationRequest)
    (l : Ledger) (w : World) (result : Except KernelError FencedLease) (later : World) : Prop :=
  match result with
  | .ok fenced => Holding w fenced.lease.leaseId later ∧ Standing start r False l later ∧
      grantKey r.operationId fenced.lease.leaseId ∈ keysOf later.journal.entries
  | .error _ => Restored w later ∧
      ((¬ Reliable Allowed ∧ Spoiled start r later) ∨
        (Standing start r False l later ∧ (Prompt Allowed → ¬ Fresh w)))

/-- The check of a lease that this process granted last. -/
theorem safe_authorize {leaseId token : String} {post : Bool → World → Prop}
    (next : ∀ choice later, Allowed (.authorize leaseId token) w choice →
      later.journal = w.journal → SameProcess w later →
      later.history = w.history ++ [.checked leaseId (w.clock + choice.elapsed)] →
      post (w.leases.authorize (w.clock + choice.elapsed) leaseId token) later) :
    (sequential Input base Allowed).Safe post (Task.authorize leaseId token) w :=
  safe_perform fun valid choice allowed =>
    ⟨(valid.tick _).record rfl trivial, next choice _ allowed rfl ⟨rfl, rfl, rfl, rfl⟩ rfl⟩

/-- The journaled grant and the check, in the process that granted the lease at
its clock. -/
theorem safe_activateLease {first : World} {fenced : FencedLease} (known : Input r)
    (hyphenated : ':' ∉ fenced.lease.leaseId.toList)
    (standing : Standing start r False l w) (holding : Holding first fenced.lease.leaseId w)
    (checks : Fresh first → ∀ time : Int, time < w.clock + 30000000 →
      w.leases.authorize time fenced.lease.leaseId fenced.fencingToken = true) :
    (sequential Input base Allowed).Safe (Granting Allowed start r l first)
      (activateLease r fenced).run w := by
  refine Safe.bind sequential_quiet (safe_append (.active r fenced known hyphenated) ?_ ?_ ?_)
  · exact fun _ => .free (by simp [entryOf]) (by simp [entryOf]) (by simp [entryOf])
  · intro noted appends
    have stands : Standing start r False l noted := standing.appends appends fun now => by
      rw [← standing.ledger]
      exact ledgerIn_neutral r _ now _ (grantKey r.operationId fenced.lease.leaseId) rfl
        ⟨by simp [entryOf], by simp [entryOf]⟩ (by simp [entryOf])
        (by simp [grantKey, intentKey, abortKey, receiptKey, commitKey, operationKey_eq_iff])
    refine Safe.bind sequential_quiet (safe_authorize ?_)
    intro choice checked allowed journal process history
    have stands : Standing start r False l checked :=
      stands.grow journal history rfl (by simp)
    have holds : Holding first fenced.lease.leaseId checked :=
      (holding.same appends.process).same process
    split
    · exact safe_done fun _ => ⟨holds, stands, journal ▸ appends.key rfl⟩
    · rename_i refused
      refine Safe.bind sequential_quiet (safe_release holds ?_)
      intro last restored journal history
      refine safe_done fun _ => ⟨restored, .inr ⟨stands.same journal history, ?_⟩⟩
      intro prompt fresh
      obtain ⟨earlier, took, clock⟩ := appends.elapsed
      have quick := prompt _ _ _ took _ _ _ _ allowed
      rw [appends.process.leases] at refused
      exact refused (checks fresh _ (by omega))
  · intro broken noted error refuses
    refine Safe.bind sequential_quiet (safe_release (holding.same refuses.process) ?_)
    intro last restored _ history
    exact safe_done fun _ =>
      ⟨restored, .inl ⟨broken, (standing.refuses refuses).same history⟩⟩

theorem safe_grantLease {placement : PlacementDecision} (known : Input r)
    (standing : Standing start r False l w) :
    (sequential Input base Allowed).Safe (Granting Allowed start r l w)
      (grantLease r placement).run w := by
  refine Safe.bindExcept sequential_quiet (safe_mapError (safe_grantFenced ?_ ?_))
  · intro elapsed fenced holder hyphenated vacant token leases journal history clock volatile
    refine safe_activateLease known hyphenated (standing.grow journal history rfl (by simp)) ?_ ?_
    · refine ⟨?_, ?_, ?_, volatile.1, volatile.2.1, volatile.2.2.ge⟩
      · exact ⟨_, leases ▸ LeaseManager.grantFenced_leases vacant⟩
      · rw [leases]
        simp [LeaseManager.grantFenced, vacant, FencingToken.next]
      · rw [leases]
        simp [LeaseManager.grantFenced, vacant]
    · intro fresh time early
      rw [leases, token, LeaseManager.authorize_granted fresh.node vacant, fresh.duration]
      exact decide_eq_true (by omega)
  · intro error later held process journal history
    refine safe_done fun _ => ⟨.of_same process, .inr ⟨⟨?_, ?_, ?_⟩, ?_⟩⟩
    · exact history ▸ standing.since
    · exact journal ▸ standing.ledger
    · exact fun h => h.elim
    · exact fun _ fresh => held fresh.leases

end Leases

/-! ### Bookkeeping -/

/-- Bookkeeping in progress: no error so far and the ledger is `l`, as the
execution `moved` it, or an append was refused, and then there is an error to
return. -/
def Booked (Allowed : Call → World → Choice → Prop) (start : List Event) (r : OperationRequest)
    (moved failed : Prop) (bookkeeping : Option KernelError) (l : Ledger) (w : World) : Prop :=
  (bookkeeping = none ∧ Standing start r True l w ∧ moved) ∨
    (¬ Reliable Allowed ∧ Spoiled start r w ∧ (bookkeeping ≠ none ∨ failed))

section Bookkeeping

variable {Input : OperationRequest → Prop} {base : List Event}
  {Allowed : Call → World → Choice → Prop} {start : List Event} {r : OperationRequest}
  {moved failed : Prop} {bookkeeping : Option KernelError} {l : Ledger} {w : World}

theorem Booked.same {later : World} (booked : Booked Allowed start r moved failed bookkeeping l w)
    (journal : later.journal = w.journal) (history : later.history = w.history) :
    Booked Allowed start r moved failed bookkeeping l later := by
  rcases booked with ⟨clean, stands, carried⟩ | ⟨broken, spoiled, reported⟩
  · exact .inl ⟨clean, stands.same journal history, carried⟩
  · exact .inr ⟨broken, spoiled.same history, reported⟩

/-- An append whose failure is noted as a bookkeeping error. -/
theorem safe_booked {entry : Entry} {append : Fallible Unit}
    (update : Option KernelError → Except KernelError Unit → Option KernelError) (l' : Ledger)
    (kept : update bookkeeping (.ok ()) = bookkeeping)
    (noted : ∀ error, update bookkeeping (.error error) ≠ none)
    (rule : ∀ post : Except KernelError Unit → World → Prop,
      (∀ later, Appends Allowed w entry later → post (.ok ()) later) →
      (¬ Reliable Allowed → ∀ later error, Refuses w entry later → post (.error error) later) →
      (sequential Input base Allowed).Safe post append.run w)
    (booked : Booked Allowed start r moved failed bookkeeping l w)
    (move : ledgerIn r w.journal.entries = l → ∀ now,
      ledgerIn r (w.journal.append entry now).2.entries = l') :
    (sequential Input base Allowed).Safe (fun result later => SameProcess w later ∧
      Booked Allowed start r moved failed (update bookkeeping result) l' later) append.run w := by
  refine rule _ ?_ ?_
  · intro later appends
    refine ⟨appends.process, ?_⟩
    rw [kept]
    rcases booked with ⟨clean, stands, carried⟩ | ⟨broken, spoiled, reported⟩
    · exact .inl ⟨clean, stands.appends appends (move stands.ledger), carried⟩
    · exact .inr ⟨broken, spoiled.appends appends, reported⟩
  · intro broken later error refuses
    refine ⟨refuses.process, .inr ⟨broken, ?_, .inl (noted error)⟩⟩
    rcases booked with ⟨-, stands, -⟩ | ⟨-, spoiled, -⟩
    · exact stands.refuses refuses
    · exact spoiled.refuses refuses

theorem safe_recordProfile {profile : ExecutionProfile} (known : Input r)
    (operation : profile.operationId = r.operationId)
    (workload : profile.workloadId = r.workloadId)
    (provider : profile.provider = r.snapshot.providerRevision)
    (booked : Booked Allowed start r moved failed none l w) :
    (sequential Input base Allowed).Safe (fun result later => SameProcess w later ∧
      Booked Allowed start r moved failed (overrideError none result) l later)
      (recordProfile profile).run w := by
  refine Safe.bindLift sequential_quiet (safe_now fun elapsed => ?_)
  have waited : Booked Allowed start r moved failed none l (w.tick elapsed) := booked.same rfl rfl
  refine (safe_booked overrideError l rfl (by simp [overrideError]) (fun post next fault =>
    safe_journaled (.profile r { profile with recordedAtUs := w.clock + elapsed } known operation
      workload provider) (fun _ => .free (by simp [profileEntry]) (by simp [profileEntry])
        (by simp [profileEntry]))
      next fault) waited ?_).mono ?_
  · intro same now
    rw [← same]
    exact ledgerIn_neutral r _ now _ _ rfl ⟨by simp [profileEntry], by simp [profileEntry]⟩
      (by simp [profileEntry])
      (by simp [profileKey, operation, intentKey, abortKey, receiptKey, commitKey,
        operationKey_eq_iff])
  · rintro result later - ⟨process, holds⟩
    exact ⟨process.after (.tick w _), holds⟩

theorem safe_recordFailure (known : Input r) {execution : Except KernelError OperationReceipt}
    (booked : Booked Allowed start r moved failed bookkeeping l w) :
    (sequential Input base Allowed).Safe (fun noted later => SameProcess w later ∧
      Booked Allowed start r moved failed noted
        (match execution with
          | .ok _ => l
          | .error _ => l.abort) later)
      (recordFailure r bookkeeping execution) w := by
  cases execution with
  | ok receipt => exact safe_done fun _ => ⟨.refl w, booked⟩
  | error error =>
      refine Safe.bind sequential_quiet ((safe_booked overrideError l.abort rfl (by simp [overrideError])
        (fun post next fault => safe_append (.abort r error known)
          (fun _ => .free (by simp [entryOf]) (by simp [entryOf]) (by simp [entryOf])) next fault)
        booked ?_).mono ?_)
      · intro same now
        rw [ledgerIn_abort, same]
      · rintro aborted later - ⟨process, booked⟩
        refine Safe.bind sequential_quiet ((safe_booked overrideError l.abort rfl (by simp [overrideError])
          (fun post next fault => safe_append (.failure r error known)
            (fun _ => .free (by simp [entryOf]) (by simp [entryOf]) (by simp [entryOf])) next fault)
          booked ?_).mono ?_)
        · intro same now
          rw [← same]
          exact ledgerIn_neutral r _ now _ (failureKey r.operationId) rfl
            ⟨by simp [entryOf], by simp [entryOf]⟩ (by simp [entryOf])
            (by simp [failureKey, intentKey, abortKey, receiptKey, commitKey,
              operationKey_eq_iff])
        · rintro observed last - ⟨next, booked⟩
          exact safe_done fun _ => ⟨next.after process, booked⟩

theorem safe_closeLease {first : World} {leaseId : String} (known : Input r)
    (execution : Except KernelError OperationReceipt) (holding : Holding first leaseId w)
    (booked : Booked Allowed start r moved failed bookkeeping l w) :
    (sequential Input base Allowed).Safe (fun noted later => Restored first later ∧
      Booked Allowed start r moved failed noted l later)
      (closeLease r leaseId (finalPhase execution) bookkeeping) w := by
  refine Safe.bind sequential_quiet ((safe_booked getOrInsert l rfl (by simp [getOrInsert])
    (fun post next fault => safe_append (.workload r execution known)
      (fun _ => .free (finalPhase_ne_intent execution) (by simp [entryOf]) (by simp [entryOf]))
      next fault) booked ?_).mono ?_)
  · intro same now
    rw [← same]
    exact ledgerIn_neutral r _ now _ (workloadKey r.operationId (finalPhase execution).2) rfl
      ⟨by simp [entryOf], by simp [entryOf]⟩ (by simp [entryOf])
      (by simp [workloadKey, intentKey, abortKey, receiptKey, commitKey, operationKey_eq_iff])
  rintro closed later - ⟨process, booked⟩
  refine Safe.bind sequential_quiet (safe_mapError (safe_release (holding.same process) ?_))
  intro freed restored journal history
  refine Safe.bind sequential_quiet ((safe_booked getOrInsert l rfl (by simp [getOrInsert])
    (fun post next fault => safe_append (.released r leaseId known)
      (fun _ => .free (by simp [entryOf]) (by simp [entryOf]) (by simp [entryOf])) next fault)
    (booked.same journal history) ?_).mono ?_)
  · intro same now
    rw [← same]
    exact ledgerIn_neutral r _ now _ (releaseKey r.operationId leaseId) rfl
      ⟨by simp [entryOf], by simp [entryOf]⟩ (by simp [entryOf])
      (by simp [releaseKey, intentKey, abortKey, receiptKey, commitKey, operationKey_eq_iff])
  rintro released last - ⟨process, booked⟩
  exact safe_done fun _ => ⟨restored.trans (.of_same process), booked⟩

/-! ### The attempt -/

/-- How an execution under a lease can end. -/
def Ran (Allowed : Call → World → Choice → Prop) (start : List Event) (r : OperationRequest)
    (l : Ledger) (first : World) (result : Except KernelError RuntimeExecution)
    (later : World) : Prop :=
  match result with
  | .ok execution => ∃ l', Standing start r True l' later ∧
      Executed Allowed r (¬ Fresh first) l (.ok execution.receipt) l'
  | .error _ => (¬ Reliable Allowed ∧ Spoiled start r later) ∨
      ∃ error l', Standing start r True l'.abort later ∧
        Executed Allowed r (¬ Fresh first) l (.error error) l'

theorem Standing.register {later : World} {leaseId : String} (standing : Standing start r False l w)
    (journal : later.journal = w.journal) (grown : later.history = w.history ++ [.registered r])
    (used : grantKey r.operationId leaseId ∈ keysOf w.journal.entries) :
    Standing start r True l later where
  since := by
    obtain ⟨since, under, -⟩ := standing.since
    exact ⟨since ++ [.registered r], grown ▸ under.snoc rfl, by simp⟩
  ledger := journal ▸ standing.ledger
  lease _ := ⟨leaseId, journal ▸ used⟩

theorem safe_newCancellation {post : Nat → World → Prop}
    (next : ∀ later, later.leases = w.leases → later.state = w.state →
      later.cancelled = w.cancelled → later.tokens = w.tokens + 1 →
      later.journal = w.journal → later.history = w.history → post w.tokens later) :
    (sequential Input base Allowed).Safe post Task.newCancellation w :=
  safe_perform fun valid _ _ =>
    ⟨⟨valid.linked, valid.lawful⟩, next _ rfl rfl rfl rfl rfl rfl⟩

theorem safe_activeInsert {workloadId : String} {operation : ActiveOperation}
    {post : Unit → World → Prop}
    (next : ∀ later, SameProcess w later → later.journal = w.journal →
      later.history = w.history ++ [.registered operation.request] → post () later) :
    (sequential Input base Allowed).Safe post (Task.activeInsert workloadId operation) w := by
  refine safe_perform fun valid _ _ => ⟨?_, next _ ⟨rfl, rfl, rfl, rfl⟩ rfl rfl⟩
  refine Sound.record ?_ rfl trivial
  exact ⟨valid.linked, valid.lawful⟩

theorem safe_activeRemove {workloadId : String} {post : Unit → World → Prop}
    (next : ∀ later, SameProcess w later → later.journal = w.journal →
      later.history = w.history → post () later) :
    (sequential Input base Allowed).Safe post (Task.activeRemove workloadId) w :=
  safe_perform fun valid _ _ =>
    ⟨⟨valid.linked, valid.lawful⟩, next _ ⟨rfl, rfl, rfl, rfl⟩ rfl rfl⟩

theorem safe_settle {first : World} {leaseId : String} {trace : DecisionTrace}
    {profile : ExecutionProfile} {execution : Except KernelError OperationReceipt} (known : Input r)
    (operation : profile.operationId = r.operationId)
    (workload : profile.workloadId = r.workloadId)
    (provider : profile.provider = r.snapshot.providerRevision)
    (holding : Holding first leaseId w)
    (ended : (∃ error, execution = .error error ∧ ¬ Reliable Allowed ∧ Spoiled start r w) ∨
      ∃ l', Standing start r True l' w ∧ Executed Allowed r (¬ Fresh first) l execution l') :
    (sequential Input base Allowed).Safe (fun result later => Restored first later ∧
      Ran Allowed start r l first result later)
      (settle r leaseId trace profile execution) w := by
  obtain ⟨reached, booked⟩ : ∃ reached, Booked Allowed start r
      (Executed Allowed r (¬ Fresh first) l execution reached)
      (∃ error, execution = .error error) none reached w := by
    rcases ended with ⟨error, rfl, broken, spoiled⟩ | ⟨l', stands, executed⟩
    · exact ⟨l, .inr ⟨broken, spoiled, .inr ⟨error, rfl⟩⟩⟩
    · exact ⟨l', .inl ⟨rfl, stands, executed⟩⟩
  refine Safe.bind sequential_quiet
    ((safe_recordProfile known operation workload provider booked).mono ?_)
  rintro profiled later - ⟨process, booked⟩
  have holds := holding.same process
  refine Safe.bind sequential_quiet (safe_activeRemove ?_)
  intro removed process journal history
  refine Safe.bind sequential_quiet
    ((safe_recordFailure known (booked.same journal history)).mono ?_)
  rintro noted failed - ⟨settled, booked⟩
  refine Safe.bind sequential_quiet
    ((safe_closeLease known execution ((holds.same process).same settled) booked).mono ?_)
  rintro noted last - ⟨restored, ⟨clean, stands, executed⟩ | ⟨broken, spoiled, reported⟩⟩
  · subst clean
    cases execution with
    | ok receipt => exact safe_done fun _ => ⟨restored, reached, stands, executed⟩
    | error error => exact safe_done fun _ => ⟨restored, .inr ⟨error, reached, stands, executed⟩⟩
  · cases noted with
    | some error => exact safe_done fun _ => ⟨restored, .inl ⟨broken, spoiled⟩⟩
    | none =>
        obtain ⟨error, rfl⟩ := reported.resolve_left (fun some => some rfl)
        exact safe_done fun _ => ⟨restored, .inl ⟨broken, spoiled⟩⟩

theorem safe_executeLeased {first : World} {recovered : Bool} {admittedStarted : Int}
    {placement : PlacementDecision} {trace : DecisionTrace} {fenced : FencedLease}
    (known : Input r) (fresh : l = ledgerIn r (entriesOf start))
    (standing : Standing start r False l w) (holding : Holding first fenced.lease.leaseId w)
    (used : grantKey r.operationId fenced.lease.leaseId ∈ keysOf w.journal.entries) :
    (sequential Input base Allowed).Safe (fun result later => Restored first later ∧
      Ran Allowed start r l first result later)
      (executeLeased r recovered admittedStarted placement trace fenced).run w := by
  refine Safe.bind sequential_quiet (safe_newCancellation ?_)
  intro drew leases state cancelled tokens journal history
  refine Safe.bind sequential_quiet (safe_activeInsert ?_)
  intro entered process kept grown
  have stands : Standing start r True l entered :=
    (standing.same journal history).register kept grown (journal ▸ used)
  have holds : Holding first fenced.lease.leaseId entered := by
    refine Holding.same ⟨leases ▸ holding.leases, leases ▸ holding.node, leases ▸ holding.duration,
      state.trans holding.state, cancelled.trans holding.cancelled, ?_⟩ process
    exact tokens ▸ Nat.le_succ_of_le holding.tokens
  refine Safe.bind sequential_quiet (safe_now fun elapsed => ?_)
  refine Safe.bind sequential_quiet (safe_now fun waited => ?_)
  refine Safe.bind sequential_quiet ((safe_executeCancellable known
    ((stands.tick elapsed).tick waited) fresh).mono ?_)
  rintro execution later - ⟨moved, ended⟩
  refine Safe.bind sequential_quiet (safe_now fun spent => ?_)
  have same : SameProcess entered later :=
    moved.after ((SameProcess.tick _ waited).after (.tick entered elapsed))
  refine safe_settle known rfl rfl rfl (holds.same ((SameProcess.tick later spent).after same)) ?_
  rcases ended with ⟨error, failed, broken, spoiled⟩ | ⟨l', stands, executed⟩
  · exact .inl ⟨error, failed, broken, spoiled.same rfl⟩
  · refine .inr ⟨l', stands.tick spent, executed.weaken fun member fresh => ?_⟩
    have early := fresh.cancelled _ (holding.cancelled ▸ cancelled ▸ process.cancelled ▸ member)
    exact absurd holding.tokens (Nat.not_le_of_lt early)

/-- How an attempt of `r` from the ledger `l` can end. Where the storage works
and the clock is prompt, it is rejected only by its own references or by a
kernel that shuts down. -/
def Attempted (Allowed : Call → World → Choice → Prop) (start : List Event)
    (r : OperationRequest) (l : Ledger) (first : World)
    (result : Except KernelError RuntimeExecution) (later : World) : Prop :=
  match result with
  | .ok execution => ∃ ran l', Standing start r ran l' later ∧
      Executed Allowed r (¬ Fresh first) l (.ok execution.receipt) l'
  | .error _ => (¬ Reliable Allowed ∧ Spoiled start r later) ∨
      (Standing start r False l later ∧ (Reliable Allowed →
        (Prompt Allowed ∧ Fresh first) ∨ l.committed ≠ none →
          r.validateSensitiveReferences ≠ .ok () ∨ first.state = .shuttingDown)) ∨
      ∃ error l', Standing start r True l'.abort later ∧
        Executed Allowed r (¬ Fresh first) l (.error error) l'

theorem safe_latestDecisionTrace {operationId : String}
    {post : Except KernelError (Option DecisionTrace) → World → Prop}
    (next : ∀ elapsed trace, post (.ok trace) (w.tick elapsed))
    (fault : ¬ Reliable Allowed → ∀ elapsed error, post (.error error) (w.tick elapsed)) :
    (sequential Input base Allowed).Safe post (latestDecisionTrace operationId).run w := by
  refine Safe.bindExcept sequential_quiet (safe_mapError (safe_readFrom ?_ ?_))
  · intro elapsed
    exact safe_done fun _ => next elapsed _
  · intro broken elapsed error
    exact safe_done fun _ => fault broken elapsed _

/-- The part of an attempt after the committed lookup has found nothing. -/
theorem safe_uncommitted {first : World} {recovered : Bool} {admittedStarted : Int}
    (known : Input r) (fresh : l = ledgerIn r (entriesOf start)) (uncommitted : l.committed = none)
    (standing : Standing start r False l w) (process : SameProcess first w) :
    (sequential Input base Allowed).Safe (fun result later => Restored first later ∧
      Attempted Allowed start r l first result later)
      (do
        let (placement, trace) ← schedule r admittedStarted
        let fenced ← grantLease r placement
        executeLeased r recovered admittedStarted placement trace fenced :
          Fallible RuntimeExecution).run w := by
  refine Safe.bindExcept sequential_quiet ((safe_schedule known standing).mono ?_)
  rintro (error | ⟨placement, trace⟩) placed - ⟨moved, outcome⟩
  · exact safe_done fun _ => ⟨.of_same (moved.after process), .inl outcome⟩
  · refine Safe.bindExcept sequential_quiet ((safe_grantLease known outcome).mono ?_)
    rintro (error | fenced) granted - granting
    · obtain ⟨restored, spoiled | ⟨stands, vacant⟩⟩ := granting
      · exact safe_done fun _ => ⟨(Restored.of_same (moved.after process)).trans restored,
          .inl spoiled⟩
      · refine safe_done fun _ => ⟨(Restored.of_same (moved.after process)).trans restored,
          .inr (.inl ⟨stands, fun _ ready => ?_⟩)⟩
        rcases ready with ⟨prompt, ready⟩ | committed
        · exact absurd ((Restored.of_same (moved.after process)).fresh ready) (vacant prompt)
        · exact absurd uncommitted committed
    · obtain ⟨holding, stands, used⟩ := granting
      refine (safe_executeLeased known fresh stands
        (holding.since (moved.after process)) used).mono ?_
      rintro (error | execution) later - ⟨restored, ran⟩
      · exact ⟨restored, ran.imp_right .inr⟩
      · exact ⟨restored, True, ran⟩

theorem safe_executeInternal {recovered : Bool} (known : Input r)
    (fresh : l = ledgerIn r (entriesOf start)) (standing : Standing start r False l w) :
    (sequential Input base Allowed).Safe (fun result later => Restored w later ∧
      (l.committed ≠ none → later.journal = w.journal) ∧
      Attempted Allowed start r l w result later)
      (executeInternal r recovered).run w := by
  refine Safe.bindLift sequential_quiet (safe_now fun elapsed => ?_)
  cases valid : r.validateSensitiveReferences with
  | error reason =>
      exact safe_done fun _ => ⟨.of_same (.tick w _), fun _ => rfl,
        .inr (.inl ⟨standing.tick _, fun _ _ => .inl (by simp [valid])⟩)⟩
  | ok _ =>
      refine Safe.bindLift sequential_quiet (safe_kernelState fun waited => ?_)
      split
      · rename_i stopping
        exact safe_done fun _ => ⟨.of_same ((SameProcess.tick _ _).after (.tick w _)), fun _ => rfl,
          .inr (.inl ⟨(standing.tick _).tick _, fun _ _ => .inr stopping⟩)⟩
      · have found : committedIn r ((w.tick elapsed).tick waited).journal.entries = l.committed :=
          congrArg Ledger.committed standing.ledger
        refine Safe.bindExcept sequential_quiet (safe_committedReceipt ?_ ?_)
        · intro spent
          have process : SameProcess w (((w.tick elapsed).tick waited).tick spent) :=
            (SameProcess.tick _ spent).after ((SameProcess.tick _ waited).after (.tick w elapsed))
          rw [found]
          cases committed : l.committed with
          | some receipt =>
              refine Safe.bindExcept sequential_quiet (safe_latestDecisionTrace ?_ ?_)
              · intro read trace
                exact safe_done fun _ => ⟨.of_same ((SameProcess.tick _ read).after process),
                  fun _ => rfl, False, l, standing.same rfl rfl, .replayed receipt committed⟩
              · intro broken read error
                exact safe_done fun _ => ⟨.of_same ((SameProcess.tick _ read).after process),
                  fun _ => rfl, .inr (.inl ⟨standing.same rfl rfl,
                    fun reliable => absurd reliable broken⟩)⟩
          | none =>
              refine (safe_uncommitted known fresh committed
                (((standing.tick elapsed).tick waited).tick spent) process).mono ?_
              rintro result later - ⟨restored, attempted⟩
              exact ⟨restored, fun some => absurd rfl some, attempted⟩
        · intro broken spent error
          exact safe_done fun _ => ⟨.of_same ((SameProcess.tick _ spent).after
            ((SameProcess.tick _ waited).after (.tick w elapsed))), fun _ => rfl,
            .inr (.inl ⟨standing.same rfl rfl, fun reliable => absurd reliable broken⟩)⟩

/-- An execution that failed leaves the abort key as it was and the operation
pending only where its intent is in force. -/
theorem Executed.failure {Allowed : Call → World → Choice → Prop} {cancelled : Prop}
    {error : KernelError} {l l' : Ledger}
    (executed : Executed Allowed r cancelled l (.error error) l') :
    l'.abortUsed = l.abortUsed ∧
      (l'.pending ≠ none → l.intentUsed = false ∨ l.pending ≠ none) := by
  have intended : (l.intend r).abortUsed = l.abortUsed := by
    unfold Ledger.intend
    split <;> rfl
  cases executed with
  | failed | stopped | unsearched => exact ⟨intended, (l.intend_pending r).mp⟩
  | unread => exact ⟨rfl, .inr⟩

/-- What the end of an attempt owes to the history. -/
theorem Attempted.law {first : World} {result : Except KernelError RuntimeExecution}
    (known : Input r) (fresh : l = ledgerIn r (entriesOf start)) (valid : Sound Input base w)
    (attempted : Attempted Allowed start r l first result w) :
    Law Input w.history (.finished r (failureOf result)) := by
  refine ⟨known, ?_⟩
  cases result with
  | ok execution =>
      obtain ⟨ran, l', stands, -⟩ := attempted
      obtain ⟨since, under, -⟩ := stands.since
      exact ⟨start, since, under, fun failed => absurd rfl failed⟩
  | error error =>
      rcases attempted with ⟨-, spoiled⟩ | ⟨stands, -⟩ | ⟨reason, l', stands, executed⟩
      · obtain ⟨since, under, entry, refused⟩ := spoiled.since
        exact ⟨start, since, under, fun _ clean => absurd refused (clean entry)⟩
      · obtain ⟨since, under, registered⟩ := stands.since
        have same := valid.linked ▸ stands.ledger
        exact ⟨start, since, under, fun _ _ =>
          ⟨fun _ => by rw [same, fresh], fun ran => (registered.mp ran).elim⟩⟩
      · obtain ⟨since, under, registered⟩ := stands.since
        have same : ledgerIn r (entriesOf w.history) = l'.abort := valid.linked ▸ stands.ledger
        refine ⟨start, since, under, fun _ _ =>
          ⟨fun early => absurd (registered.mpr trivial) early, fun _ pending => ?_⟩⟩
        rw [same] at pending
        rw [← fresh, ← executed.failure.1]
        unfold Ledger.abort at pending
        split at pending
        · rename_i used
          exact ⟨used, executed.failure.2 pending⟩
        · exact absurd rfl pending

/-- How an attempt of `r` moves the ledger of its operation. -/
def Concluded (Allowed : Call → World → Choice → Prop) (r : OperationRequest) (first : World)
    (result : Except KernelError RuntimeExecution) (later : World) : Prop :=
  match result with
  | .ok execution => Executed Allowed r (¬ Fresh first) (ledgerIn r first.journal.entries)
      (.ok execution.receipt) (ledgerIn r later.journal.entries)
  | .error _ => ¬ Reliable Allowed ∨
      (ledgerIn r later.journal.entries = ledgerIn r first.journal.entries ∧
        ((Prompt Allowed ∧ Fresh first) ∨ committedIn r first.journal.entries ≠ none →
          r.validateSensitiveReferences ≠ .ok () ∨ first.state = .shuttingDown)) ∨
      ∃ error l', ledgerIn r later.journal.entries = l'.abort ∧
        Executed Allowed r (¬ Fresh first) (ledgerIn r first.journal.entries) (.error error) l'

theorem Attempted.concluded {first began last : World}
    {result : Except KernelError RuntimeExecution}
    (attempted : Attempted Allowed start r (ledgerIn r first.journal.entries) began result w)
    (process : SameProcess first began) (same : last.journal = w.journal) :
    Concluded Allowed r first result last := by
  have ready : Fresh first → Fresh began := (Restored.of_same process).fresh
  cases result with
  | ok execution =>
      obtain ⟨ran, l', stands, executed⟩ := attempted
      have moved : ledgerIn r last.journal.entries = l' := same ▸ stands.ledger
      subst moved
      exact executed.weaken fun stale fresh => stale (ready fresh)
  | error error =>
      rcases attempted with ⟨broken, -⟩ | ⟨stands, rejected⟩ | ⟨reason, l', stands, executed⟩
      · exact .inl broken
      · by_cases reliable : Reliable Allowed
        · refine .inr (.inl ⟨same ▸ stands.ledger, fun settled => ?_⟩)
          exact process.state ▸ rejected reliable (settled.imp_left fun now => ⟨now.1, ready now.2⟩)
        · exact .inl reliable
      · exact .inr (.inr ⟨reason, l', same ▸ stands.ledger,
          executed.weaken fun stale fresh => stale (ready fresh)⟩)

theorem safe_attempt {recovered : Bool} (known : Input r) :
    (sequential Input base Allowed).Safe (fun result later => Restored w later ∧
      (committedIn r w.journal.entries ≠ none → later.journal = w.journal) ∧
      Concluded Allowed r w result later)
      (attempt r recovered).run w := by
  refine Safe.bind sequential_quiet (safe_perform fun valid choice _ => ⟨?_, ?_⟩)
  · exact (valid.tick _).record rfl known
  -- The attempt starts after the history of `w`, whose ledger is the journal's.
  have linked : ledgerIn r w.journal.entries = ledgerIn r (entriesOf w.history) := by
    rw [valid.linked]
  have process : SameProcess w ((w.tick choice.elapsed).record (.attempt r)) :=
    ⟨rfl, rfl, rfl, rfl⟩
  have stands : Standing w.history r False (ledgerIn r w.journal.entries)
      ((w.tick choice.elapsed).record (.attempt r)) :=
    ⟨⟨[], ⟨rfl, by simp⟩, by simp⟩, rfl, False.elim⟩
  refine Safe.bind sequential_quiet ((safe_executeInternal known linked stands).mono ?_)
  rintro result later - ⟨restored, replay, attempted⟩
  refine Safe.bind sequential_quiet (safe_perform fun valid choice _ => ⟨?_, ?_⟩)
  · have law := attempted.law known linked valid
    exact (valid.tick _).record rfl law
  · refine safe_done fun _ => ⟨(Restored.of_same process).trans
      (restored.trans (.of_same ⟨rfl, rfl, rfl, rfl⟩)), replay, attempted.concluded process rfl⟩

end Bookkeeping

end NousKernel
