import NousKernel.Transactions

/-!
Whose effect a plan returns. The engine looks only at the idempotency key: under a
known key it returns the transaction that was planned first, whoever asks and for
whatever. What a transaction was planned with never changes afterwards.
-/

set_option autoImplicit false

namespace NousKernel

open Resumption

/-- The transaction was planned with these arguments. -/
def EffectTransaction.Submitted (transaction : EffectTransaction) (principalId capability : String)
    (intent : EffectIntent) : Prop :=
  transaction.principalId = principalId ∧ transaction.capability = capability ∧
    transaction.intent = intent

/-- The engine has the transaction, planned with these arguments. -/
def EffectWorld.Has (w : EffectWorld) (transactionId principalId capability : String)
    (intent : EffectIntent) : Prop :=
  ∃ transaction, w.engine.get transactionId = some transaction ∧
    transaction.Submitted principalId capability intent

/-- Every transaction is stored under its id, and every call of the effector was made
with the intent of its transaction. -/
structure EffectWorld.Carried (w : EffectWorld) : Prop where
  named : ∀ transactionId transaction, w.engine.get transactionId = some transaction →
    transaction.transactionId = transactionId
  intents : ∀ call ∈ w.invocations, ∃ transaction,
    w.engine.get call.transactionId = some transaction ∧ transaction.intent = call.intent

/-! ### What no call changes -/

/-- The id and the arguments are those of an earlier version. -/
def EffectTransaction.Same (new old : EffectTransaction) : Prop :=
  new.transactionId = old.transactionId ∧
    new.Submitted old.principalId old.capability old.intent

/-- A later table has the same transactions and perhaps new ones. -/
structure EffectState.Extends (state later : EffectState) : Prop where
  kept : ∀ transactionId old, state.get transactionId = some old →
    ∃ new, later.get transactionId = some new ∧ new.Same old
  origin : ∀ transactionId new, later.get transactionId = some new →
    (∃ old, state.get transactionId = some old ∧ new.Same old) ∨
      new.transactionId = transactionId

section Steps

variable {uuids : Nat → String} {w : EffectWorld} {states : Nat → Claiming}
  {transactionId principalId capability : String} {intent : EffectIntent}

theorem EffectState.Extends.refl (state : EffectState) : state.Extends state where
  kept _ old found := ⟨old, found, rfl, rfl, rfl, rfl⟩
  origin _ new found := .inl ⟨new, found, rfl, rfl, rfl, rfl⟩

/-- A transaction that is changed in place keeps its arguments. -/
theorem EffectState.Extends.update {state : EffectState} {called : String}
    {transaction changed : EffectTransaction}
    (found : state.transactions.lookup called = some transaction)
    (same : changed.Same transaction) : state.Extends (state.update called changed) := by
  constructor
  · intro other old here
    rw [get, lookup_update]
    by_cases mine : other = called
    · subst mine
      rw [if_pos rfl]
      have equal : old = transaction := Option.some.inj (here.symm.trans found)
      exact ⟨changed, rfl, equal ▸ same⟩
    · rw [if_neg mine]
      exact ⟨old, here, rfl, rfl, rfl, rfl⟩
  · intro other new there
    rw [get, lookup_update] at there
    by_cases mine : other = called
    · subst mine
      rw [if_pos rfl, Option.some.injEq] at there
      exact .inl ⟨transaction, found, there ▸ same⟩
    · rw [if_neg mine] at there
      exact .inl ⟨new, there, rfl, rfl, rfl, rfl⟩

/-- A plan adds a transaction under an id that is not in the table. -/
theorem Engaged.plan_extends (engaged : Engaged uuids w states)
    (distinct : Function.Injective uuids) (principal allowed key : String) (given : EffectIntent) :
    w.engine.Extends (w.engine.plan (uuids w.drawn) principal allowed key given).2 := by
  rcases w.engine.plan_cases (uuids w.drawn) principal allowed key given with
    same | ⟨_, planned⟩
  · rw [same]
    exact .refl _
  · rw [planned]
    constructor
    · intro other old here
      have present : other ∈ w.engine.transactions := by
        apply AList.lookup_isSome.mp
        rw [EffectState.get] at here
        rw [here]
        rfl
      have different : other ≠ uuids w.drawn := by
        intro same
        obtain ⟨number, before, drawn⟩ := engaged.drawn _ present
        exact absurd (distinct (drawn.trans same)) (Nat.ne_of_lt before)
      refine ⟨old, ?_, rfl, rfl, rfl, rfl⟩
      rw [EffectState.get, AList.lookup_insert_ne different]
      exact here
    · intro other new there
      rw [EffectState.get] at there
      by_cases mine : other = uuids w.drawn
      · subst mine
        rw [AList.lookup_insert, Option.some.injEq] at there
        rw [← there]
        exact .inr rfl
      · rw [AList.lookup_insert_ne mine] at there
        exact .inl ⟨new, there, rfl, rfl, rfl, rfl⟩

/-- No call changes what a transaction was planned with. -/
theorem Engaged.call_extends (engaged : Engaged uuids w states)
    (distinct : Function.Injective uuids) (call : EffectCall)
    (result : Except NousError EffectReceipt) :
    w.engine.Extends ((effectMachine uuids).answer call w result).2.engine := by
  cases call with
  | plan principal allowed key given => exact engaged.plan_extends distinct principal allowed key given
  | authorize called authorizationRef =>
      show w.engine.Extends (w.engine.authorize called authorizationRef).2
      rcases w.engine.authorize_cases called authorizationRef with same | ⟨_, planned, moved⟩
      · rw [same]
        exact .refl _
      · rw [moved]
        exact .update planned.1 ⟨rfl, rfl, rfl, rfl⟩
  | claim called =>
      show w.engine.Extends (w.engine.claim called).2
      rcases w.engine.claim_cases called with ⟨_, same⟩ | ⟨_, authorized, moved⟩
      · rw [same]
        exact .refl _
      · rw [moved]
        exact .update authorized.1 ⟨rfl, rfl, rfl, rfl⟩
  | effector called given => exact .refl _
  | recordFailure called receipt =>
      show w.engine.Extends (w.engine.recordFailure called receipt)
      cases found : w.engine.transactions.lookup called with
      | none =>
          rw [EffectState.recordFailure, found]
          exact .refl _
      | some transaction =>
          obtain ⟨kept, moved⟩ := EffectState.recordFailure_found receipt found
          rw [moved]
          exact .update found ⟨rfl, rfl, rfl, rfl⟩
  | recordSuccess called receipt =>
      show w.engine.Extends (w.engine.recordSuccess called receipt).2
      cases found : w.engine.transactions.lookup called with
      | none =>
          rw [EffectState.recordSuccess, found]
          exact .refl _
      | some transaction =>
          rw [EffectState.recordSuccess_found receipt found]
          exact .update found ⟨rfl, rfl, rfl, rfl⟩
  | commit called =>
      show w.engine.Extends (w.engine.commit called).2
      rcases w.engine.commit_cases called with same | ⟨_, verified, moved⟩
      · rw [same]
        exact .refl _
      · rw [moved]
        exact .update verified.1 ⟨rfl, rfl, rfl, rfl⟩
  | get called => exact .refl _

theorem EffectWorld.Has.extend (has : w.Has transactionId principalId capability intent)
    {later : EffectWorld} (grows : w.engine.Extends later.engine) :
    later.Has transactionId principalId capability intent := by
  obtain ⟨old, here, rfl, rfl, rfl⟩ := has
  obtain ⟨new, there, _, same⟩ := grows.kept transactionId old here
  exact ⟨new, there, same⟩

/-- The effector is called for a transaction with its intent. -/
theorem Engaged.carries (engaged : Engaged uuids w states) {index : Nat}
    (permitted : (states index).law (.effector transactionId intent)) :
    ∃ transaction, w.engine.get transactionId = some transaction ∧
      transaction.intent = intent := by
  have held := engaged.backed index
  cases holds : states index with
  | claimed claimedId given =>
      rw [holds] at permitted held
      obtain ⟨rfl, rfl⟩ := permitted
      obtain ⟨transaction, prepared, same, _⟩ := held
      exact ⟨transaction, prepared.1, same⟩
  | _ =>
      rw [holds] at permitted
      exact permitted.elim

/-- Every permitted call leaves the calls of the effector with the intents of their
transactions. -/
theorem carried_kept (distinct : Function.Injective uuids) :
    Attends.Kept (fun _ => effectProtocol) (effectMachine uuids)
      fun w states => Engaged uuids w states ∧ w.Carried := by
  rintro w states index call result ⟨engaged, carried⟩ _ permitted
  have grows := engaged.call_extends distinct call result
  refine ⟨engaged_kept distinct w states index call result engaged trivial permitted, ?_, ?_⟩
  · intro transactionId new there
    rcases grows.origin transactionId new there with ⟨old, here, same, _⟩ | named
    · exact same.trans (carried.named transactionId old here)
    · exact named
  · intro made member
    have old : made ∈ w.invocations → ∃ transaction,
        ((effectMachine uuids).answer call w result).2.engine.get made.transactionId =
          some transaction ∧ transaction.intent = made.intent := by
      intro before
      obtain ⟨transaction, found, same⟩ := carried.intents made before
      obtain ⟨later, there, _, _, _, kept⟩ := grows.kept _ transaction found
      exact ⟨later, there, kept.trans same⟩
    cases call with
    | effector called given =>
        rcases List.mem_append.mp member with before | new
        · exact old before
        · rw [List.mem_singleton] at new
          subst new
          exact engaged.carries permitted
    | _ => exact old member

end Steps

/-! ### Every call of plan -/

/-- The key is unused, or its transaction was planned with these arguments. -/
def EffectWorld.OwnKey (w : EffectWorld) (principalId capability idempotencyKey : String)
    (intent : EffectIntent) : Prop :=
  ∀ transactionId transaction,
    w.engine.idempotencyIndex.lookup idempotencyKey = some transactionId →
    w.engine.get transactionId = some transaction →
      transaction.Submitted principalId capability intent

/-- The planned transaction is the caller's, now and in every later state, and its
effector is only ever called with the caller's intent. -/
structure CallersEffect (uuids : Nat → String) (operations : List EffectOperation)
    (schedule : List (Nat × Except NousError EffectReceipt)) (principalId capability : String)
    (intent : EffectIntent) (transaction : EffectTransaction) : Prop where
  submitted : transaction.Submitted principalId capability intent
  stays : ∀ later, (effectRun uuids operations (schedule ++ later)).Has transaction.transactionId
    principalId capability intent
  acts : ∀ later, ∀ call ∈ (effectRun uuids operations (schedule ++ later)).invocations,
    call.transactionId = transaction.transactionId → call.intent = intent

section Plan

variable {uuids : Nat → String} {operations : List EffectOperation}
  {schedule : List (Nat × Except NousError EffectReceipt)}
  {principalId capability idempotencyKey : String} {intent : EffectIntent}
  {transaction : EffectTransaction}

theorem effectPool_carried (distinct : Function.Injective uuids) (operations : List EffectOperation)
    (schedule : List (Nat × Except NousError EffectReceipt)) : ∃ states,
    Attends (fun _ => effectProtocol) (fun w states => Engaged uuids w states ∧ w.Carried)
      (fun _ _ _ => True) states ((effectPool operations).run (effectMachine uuids) schedule) := by
  have start := effectPool_attends uuids operations
  have both : Attends (fun _ => effectProtocol)
      (fun w states => Engaged uuids w states ∧ w.Carried) (fun _ _ _ => True)
      (fun _ => Claiming.free) (effectPool operations) :=
    ⟨⟨start.inv, ⟨fun _ _ absent => (by cases absent),
      fun _ absent => absurd absent List.not_mem_nil⟩⟩, start.follows⟩
  exact ⟨_, both.run (carried_kept distinct) schedule⟩

/-- What a transaction was planned with stays, whatever the threads do. -/
theorem has_later (distinct : Function.Injective uuids) {transactionId : String}
    (has : (effectRun uuids operations schedule).Has transactionId principalId capability intent)
    (later : List (Nat × Except NousError EffectReceipt)) :
    (effectRun uuids operations (schedule ++ later)).Has transactionId principalId capability
      intent := by
  obtain ⟨states, attends⟩ := effectPool_carried distinct operations schedule
  have both : Attends (fun _ => effectProtocol)
      (fun w states => Engaged uuids w states ∧
        w.Has transactionId principalId capability intent)
      (fun _ _ _ => True) states ((effectPool operations).run (effectMachine uuids) schedule) :=
    ⟨⟨attends.inv.1, has⟩, attends.follows⟩
  have kept : Attends.Kept (fun _ => effectProtocol) (effectMachine uuids)
      fun w states => Engaged uuids w states ∧
        w.Has transactionId principalId capability intent := by
    rintro w states index call result ⟨engaged, had⟩ _ permitted
    exact ⟨engaged_kept distinct w states index call result engaged trivial permitted,
      had.extend (engaged.call_extends distinct call result)⟩
  rw [effectRun, Pool.run_append]
  exact (both.run kept later).inv.2

/-- A transaction that the engine has stays the caller's. -/
theorem callersEffect_of_has (distinct : Function.Injective uuids)
    (submitted : transaction.Submitted principalId capability intent)
    (has : (effectRun uuids operations schedule).Has transaction.transactionId principalId
      capability intent) :
    CallersEffect uuids operations schedule principalId capability intent transaction := by
  refine ⟨submitted, has_later distinct has, ?_⟩
  intro later call member mine
  obtain ⟨states, attends⟩ := effectPool_carried distinct operations (schedule ++ later)
  obtain ⟨stored, found, carried⟩ := attends.inv.2.intents call member
  obtain ⟨other, there, _, _, given⟩ := has_later distinct has later
  rw [mine] at found
  have same : other = stored := Option.some.inj (there.symm.trans found)
  rw [← carried, ← same]
  exact given

/-- What a plan returns: a new transaction with the caller's arguments, or the one
that the key has. -/
theorem plan_returned {state : EffectState} {uuid : String}
    (returned : (state.plan uuid principalId capability idempotencyKey intent).1 =
      .ok transaction) :
    (state.idempotencyIndex.lookup idempotencyKey = none ∧
      transaction.Submitted principalId capability intent ∧
      (state.plan uuid principalId capability idempotencyKey intent).2.get
        transaction.transactionId = some transaction) ∨
    ∃ transactionId, state.idempotencyIndex.lookup idempotencyKey = some transactionId ∧
      state.get transactionId = some transaction ∧
      (state.plan uuid principalId capability idempotencyKey intent).2 = state := by
  unfold EffectState.plan at returned ⊢
  cases known : state.idempotencyIndex.lookup idempotencyKey with
  | none =>
      rw [known] at returned
      cases returned
      exact .inl ⟨rfl, ⟨rfl, rfl, rfl⟩, AList.lookup_insert _⟩
  | some transactionId =>
      rw [known] at returned
      cases found : state.transactions.lookup transactionId with
      | none =>
          simp only [found] at returned
          cases returned
      | some stored =>
          simp only [found] at returned
          cases returned
          exact .inr ⟨transactionId, rfl, found, by simp only [found]⟩

/-- The turn in which a plan is made. -/
theorem plan_turn {turn : Nat × Except NousError EffectReceipt}
    (asked : ((effectPool operations).run (effectMachine uuids) schedule).threads[turn.1]? =
      some (EffectOperation.plan principalId capability idempotencyKey intent).program)
    (returned : ((effectPool operations).run (effectMachine uuids) (schedule ++ [turn])).result
      turn.1 = some (.planned (.ok transaction))) :
    ((effectRun uuids operations schedule).engine.plan
        (uuids (effectRun uuids operations schedule).drawn) principalId capability idempotencyKey
        intent).1 = .ok transaction ∧
      (effectRun uuids operations (schedule ++ [turn])).engine =
        ((effectRun uuids operations schedule).engine.plan
          (uuids (effectRun uuids operations schedule).drawn) principalId capability
          idempotencyKey intent).2 := by
  have stepped : (effectPool operations).run (effectMachine uuids) (schedule ++ [turn]) =
      ((effectPool operations).run (effectMachine uuids) schedule).step (effectMachine uuids)
        turn := Pool.run_append _ _ schedule [turn]
  rw [stepped, Pool.result_eq_some, Pool.step_call asked,
    List.getElem?_set_self (List.getElem?_eq_some_iff.mp asked).1, Option.some.injEq,
    Prog.done.injEq, EffectOutcome.planned.injEq] at returned
  refine ⟨returned, ?_⟩
  rw [effectRun, stepped, Pool.step_call asked]
  rfl

end Plan

/-- A plan that returns a transaction returns the caller's effect exactly when its key
is unused or was planned with the same arguments. -/
theorem planned_effect_iff (uuids : Nat → String) (distinct : Function.Injective uuids)
    (operations : List EffectOperation) (schedule : List (Nat × Except NousError EffectReceipt))
    (turn : Nat × Except NousError EffectReceipt)
    (principalId capability idempotencyKey : String) (intent : EffectIntent)
    (transaction : EffectTransaction)
    (asked : ((effectPool operations).run (effectMachine uuids) schedule).threads[turn.1]? =
      some (EffectOperation.plan principalId capability idempotencyKey intent).program)
    (returned : ((effectPool operations).run (effectMachine uuids) (schedule ++ [turn])).result
      turn.1 = some (.planned (.ok transaction))) :
    CallersEffect uuids operations (schedule ++ [turn]) principalId capability intent
        transaction ↔
      (effectRun uuids operations schedule).OwnKey principalId capability idempotencyKey
        intent := by
  obtain ⟨answer, engine⟩ := plan_turn asked returned
  obtain ⟨states, attends⟩ := effectPool_carried distinct operations schedule
  constructor
  · intro callers transactionId stored known found
    rcases plan_returned answer with ⟨free, _⟩ | ⟨planned, same, here, _⟩
    · rw [known] at free
      cases free
    · rw [known, Option.some.injEq] at same
      subst same
      have equal : stored = transaction := Option.some.inj (found.symm.trans here)
      exact equal ▸ callers.submitted
  · intro own
    rcases plan_returned answer with ⟨_, submitted, here⟩ | ⟨planned, known, here, unchanged⟩
    · apply callersEffect_of_has distinct submitted
      rw [← engine] at here
      exact ⟨transaction, here, submitted⟩
    · have submitted := own planned transaction known here
      apply callersEffect_of_has distinct submitted
      have named : transaction.transactionId = planned :=
        attends.inv.2.named planned transaction here
      refine ⟨transaction, ?_, submitted⟩
      rw [engine, unchanged, named]
      exact here

/-- Alice plans once more under her key, after somebody else has planned under another. -/
def retriedOperations : List EffectOperation :=
  [.plan "alice" "device.write" "key" deviceIntent,
    .plan "bob" "device.read" "other" { deviceIntent with description := "read" },
    .plan "alice" "device.write" "key" deviceIntent]

theorem planned_effect_retried :
    CallersEffect tallyIds retriedOperations
      [(0, .ok deviceReceipt), (1, .ok deviceReceipt), (2, .ok deviceReceipt)] "alice"
      "device.write" deviceIntent (EffectState.plannedTransaction "a" "alice" "device.write" "key"
        deviceIntent) := by
  apply (planned_effect_iff tallyIds tallyIds_injective retriedOperations
    [(0, .ok deviceReceipt), (1, .ok deviceReceipt)] (2, .ok deviceReceipt)
    "alice" "device.write" "key" deviceIntent _ rfl rfl).mpr
  intro transactionId transaction known found
  obtain rfl : "a" = transactionId := Option.some.inj known
  obtain rfl : EffectState.plannedTransaction "a" "alice" "device.write" "key" deviceIntent =
    transaction := Option.some.inj found
  exact ⟨rfl, rfl, rfl⟩

/-- Two principals plan different effects under one key, and the second authorizes and
executes what it was given. -/
def sharedOperations : List EffectOperation :=
  [.plan "alice" "device.write" "key" deviceIntent,
    .plan "bob" "device.read" "key" { deviceIntent with description := "read" },
    .authorize "a" "approval:1", .execute "a"]

/-- The second principal gets the transaction of the first, and its execution carries
out the effect of the first. -/
theorem planned_effect_shared :
    (∃ transaction, ((effectPool sharedOperations).run (effectMachine tallyIds)
        [(0, .ok deviceReceipt), (1, .ok deviceReceipt)]).result 1 =
          some (.planned (.ok transaction)) ∧
      transaction.principalId = "alice" ∧ transaction.capability = "device.write" ∧
      transaction.intent ≠ { deviceIntent with description := "read" } ∧
      (effectRun tallyIds sharedOperations ([0, 1, 2, 3, 3].map fun index =>
        (index, .ok deviceReceipt))).invocations =
          [⟨transaction.transactionId, deviceIntent, some "approval:1"⟩]) ∧
    ∀ transaction, ((effectPool sharedOperations).run (effectMachine tallyIds)
        [(0, .ok deviceReceipt), (1, .ok deviceReceipt)]).result 1 =
          some (.planned (.ok transaction)) →
      ¬ CallersEffect tallyIds sharedOperations
        [(0, .ok deviceReceipt), (1, .ok deviceReceipt)] "bob" "device.read"
        { deviceIntent with description := "read" } transaction := by
  have shared : ((effectPool sharedOperations).run (effectMachine tallyIds)
      [(0, .ok deviceReceipt), (1, .ok deviceReceipt)]).result 1 = some (.planned (.ok
        (EffectState.plannedTransaction "a" "alice" "device.write" "key" deviceIntent))) := rfl
  constructor
  · exact ⟨_, shared, rfl, rfl, by decide, by decide +kernel⟩
  · intro transaction returned callers
    rw [shared] at returned
    cases returned
    exact absurd callers.submitted.1 (by decide)

end NousKernel
