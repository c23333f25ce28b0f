import NousKernel.Effects

/-!
Threads on one effect engine. A thread that has claimed a transaction holds it until
it records the outcome: nobody else moves a prepared transaction, so its effector is
called once, and what the holder records fits the phase.
-/

set_option autoImplicit false

namespace NousKernel

open Resumption

/-! ### What an operation does to the table -/

namespace EffectState

variable {state : EffectState} {transactionId : String}

/-- The transaction is in the table in the given phase. -/
def InPhase (state : EffectState) (transactionId : String) (phase : EffectTransactionPhase)
    (transaction : EffectTransaction) : Prop :=
  state.transactions.lookup transactionId = some transaction ∧ transaction.phase = phase

theorem plan_cases (state : EffectState) (uuid principalId capability idempotencyKey : String)
    (intent : EffectIntent) :
    (state.plan uuid principalId capability idempotencyKey intent).2 = state ∨
    (state.idempotencyIndex.lookup idempotencyKey = none ∧
      (state.plan uuid principalId capability idempotencyKey intent).2 =
        { transactions := state.transactions.insert uuid
            (plannedTransaction uuid principalId capability idempotencyKey intent)
          idempotencyIndex := state.idempotencyIndex.insert idempotencyKey uuid }) := by
  unfold plan
  split
  · split <;> exact .inl rfl
  · rename_i free
    exact .inr ⟨free, rfl⟩

theorem authorize_cases (state : EffectState) (transactionId authorizationRef : String) :
    (state.authorize transactionId authorizationRef).2 = state ∨
    ∃ transaction, state.InPhase transactionId .planned transaction ∧
      (state.authorize transactionId authorizationRef).2 = state.update transactionId
        { transaction with authorizationRef := some authorizationRef, phase := .authorized } := by
  unfold authorize
  split
  · exact .inl rfl
  · rename_i transaction found
    split
    · exact .inl rfl
    · rename_i planned
      exact .inr ⟨transaction, ⟨found, not_not.mp planned⟩, rfl⟩

/-- A claim hands out an intent exactly when it moves the transaction. -/
theorem claim_cases (state : EffectState) (transactionId : String) :
    ((∀ intent, (state.claim transactionId).1 ≠ .ok (.intent intent)) ∧
      (state.claim transactionId).2 = state) ∨
    ∃ transaction, state.InPhase transactionId .authorized transaction ∧
      state.claim transactionId = (.ok (.intent transaction.intent),
        state.update transactionId { transaction with phase := .prepared }) := by
  unfold claim
  split
  · exact .inl ⟨by simp, rfl⟩
  · rename_i transaction found
    split
    · split <;> exact .inl ⟨by simp, rfl⟩
    · split
      · exact .inl ⟨by simp, rfl⟩
      · rename_i authorized
        exact .inr ⟨transaction, ⟨found, not_not.mp authorized⟩, rfl⟩

theorem commit_cases (state : EffectState) (transactionId : String) :
    (state.commit transactionId).2 = state ∨
    ∃ transaction, state.InPhase transactionId .verified transaction ∧
      (state.commit transactionId).2 =
        state.update transactionId { transaction with phase := .committed } := by
  unfold commit
  split
  · exact .inl rfl
  · rename_i transaction found
    split
    · exact .inl rfl
    · rename_i verified
      exact .inr ⟨transaction, ⟨found, not_not.mp verified⟩, rfl⟩

theorem recordFailure_found {transaction : EffectTransaction} (receipt : Option EffectReceipt)
    (found : state.transactions.lookup transactionId = some transaction) :
    ∃ kept, state.recordFailure transactionId receipt = state.update transactionId
      { transaction with phase := .failed, receipt := kept } := by
  unfold recordFailure
  rw [found]
  exact ⟨_, rfl⟩

theorem recordSuccess_found {transaction : EffectTransaction} (receipt : EffectReceipt)
    (found : state.transactions.lookup transactionId = some transaction) :
    (state.recordSuccess transactionId receipt).2 = state.update transactionId
      { transaction with receipt := some receipt, phase := .verified } := by
  unfold recordSuccess
  rw [found]

theorem lookup_update (transaction : EffectTransaction) (other : String) :
    (state.update transactionId transaction).transactions.lookup other =
      if other = transactionId then some transaction else state.transactions.lookup other := by
  unfold update
  split
  · rename_i same
    rw [same, AList.lookup_insert]
  · rename_i different
    rw [AList.lookup_insert_ne different]

end EffectState

/-! ### The protocol of a thread -/

/-- What a thread holds: nothing, a claimed transaction, or one whose effector has
answered. -/
inductive Claiming where
  | free
  | claimed (transactionId : String) (intent : EffectIntent)
  | answered (transactionId : String) (intent : EffectIntent)
      (result : Except NousError EffectReceipt)

namespace Claiming

def transaction : Claiming → Option String
  | free => none
  | claimed transactionId _ => some transactionId
  | answered transactionId _ _ => some transactionId

/-- The calls a thread makes with what it holds. -/
def law : Claiming → EffectCall → Prop
  | free, .plan _ _ _ _ | free, .authorize _ _ | free, .claim _ | free, .commit _
  | free, .get _ => True
  | claimed transactionId intent, .effector called given =>
      called = transactionId ∧ given = intent
  | answered transactionId _ _, .recordFailure called _ => called = transactionId
  | answered transactionId intent result, .recordSuccess called receipt =>
      called = transactionId ∧ result = .ok receipt ∧ receipt.success = true ∧
        receipt.actualTarget = intent.expectedTarget
  | _, _ => False

def next (holding : Claiming) : (call : EffectCall) → call.Answer → Claiming
  | .claim transactionId, .ok (.intent intent) => claimed transactionId intent
  | .effector _ _, result =>
      match holding with
      | claimed transactionId intent => answered transactionId intent result
      | other => other
  | .recordFailure _ _, _ => free
  | .recordSuccess _ _, _ => free
  | _, _ => holding

end Claiming

def effectProtocol : Protocol EffectCall EffectCall.Answer Claiming where
  law := Claiming.law
  next := Claiming.next

theorem execute_follows (transactionId : String) :
    effectProtocol.Follows (fun _ _ => True) (EffectM.execute transactionId) .free := by
  refine ⟨trivial, fun answer => ?_⟩
  match answer with
  | .error error => trivial
  | .ok (.receipt receipt) => trivial
  | .ok (.intent intent) =>
      refine ⟨⟨rfl, rfl⟩, fun result => ?_⟩
      match result with
      | .error error => exact ⟨rfl, fun _ => trivial⟩
      | .ok receipt =>
          show effectProtocol.Follows _ (if receipt.success = false ∨
            receipt.actualTarget ≠ intent.expectedTarget then _ else _) _
          split
          · exact ⟨rfl, fun _ => trivial⟩
          · rename_i fits
            rw [not_or, Bool.not_eq_false, not_not] at fits
            refine ⟨⟨rfl, rfl, fits.1, fits.2⟩, fun stored => ?_⟩
            match stored with
            | .error error => trivial
            | .ok () => trivial

theorem program_follows (operation : EffectOperation) :
    effectProtocol.Follows (fun _ _ => True) operation.program .free := by
  cases operation with
  | plan principalId capability idempotencyKey intent => exact ⟨trivial, fun _ => trivial⟩
  | authorize transactionId authorizationRef => exact ⟨trivial, fun _ => trivial⟩
  | execute transactionId =>
      exact Protocol.Follows.bind ((execute_follows transactionId).mono fun _ _ _ => trivial)
  | commit transactionId => exact ⟨trivial, fun _ => trivial⟩
  | get transactionId => exact ⟨trivial, fun _ => trivial⟩

/-! ### The invariant -/

/-- A transaction past planning was authorized, and a verified or committed one has
a receipt that fits its intent. -/
structure EffectTransaction.Fits (transaction : EffectTransaction) : Prop where
  authorized : transaction.phase ≠ .planned → transaction.authorizationRef.isSome = true
  verified : transaction.phase = .verified ∨ transaction.phase = .committed →
    ∃ receipt, transaction.receipt = some receipt ∧ receipt.success = true ∧
      receipt.actualTarget = transaction.intent.expectedTarget

/-- The effector is due or done for a transaction in this phase. -/
def EffectTransactionPhase.Started (phase : EffectTransactionPhase) : Prop :=
  phase ≠ .planned ∧ phase ≠ .authorized

instance (phase : EffectTransactionPhase) : Decidable phase.Started :=
  inferInstanceAs (Decidable (_ ∧ _))

theorem EffectTransactionPhase.started_later :
    prepared.Started ∧ verified.Started ∧ committed.Started ∧ failed.Started := by decide

/-- What a thread holds is prepared, and a claimed transaction has yet to be
carried out. -/
def Claiming.Backed (w : EffectWorld) : Claiming → Prop
  | free => True
  | claimed transactionId intent => ∃ transaction,
      w.engine.InPhase transactionId .prepared transaction ∧ transaction.intent = intent ∧
        w.invoked transactionId = 0
  | answered transactionId intent _ => ∃ transaction,
      w.engine.InPhase transactionId .prepared transaction ∧ transaction.intent = intent

structure Engaged (uuids : Nat → String) (w : EffectWorld) (states : Nat → Claiming) : Prop where
  indexed : ∀ key transactionId, w.engine.idempotencyIndex.lookup key = some transactionId ↔
    ∃ transaction, w.engine.transactions.lookup transactionId = some transaction ∧
      transaction.idempotencyKey = key
  drawn : ∀ transactionId ∈ w.engine.transactions, ∃ number < w.drawn,
    uuids number = transactionId
  fits : ∀ transactionId transaction,
    w.engine.transactions.lookup transactionId = some transaction → transaction.Fits
  started : ∀ transactionId, w.invoked transactionId ≠ 0 → ∃ transaction,
    w.engine.transactions.lookup transactionId = some transaction ∧ transaction.phase.Started
  once : ∀ transactionId, w.invoked transactionId ≤ 1
  authorized : ∀ call ∈ w.invocations, call.authorizationRef.isSome = true
  backed : ∀ index, (states index).Backed w
  apart : ∀ index other transactionId, index ≠ other →
    (states index).transaction = some transactionId →
    (states other).transaction ≠ some transactionId

theorem Engaged.start (uuids : Nat → String) : Engaged uuids .blank fun _ => .free where
  indexed key transactionId := by
    constructor
    · intro absent
      cases absent
    · rintro ⟨_, absent, _⟩
      cases absent
  drawn transactionId member := absurd member (AList.notMem_empty transactionId)
  fits _ _ absent := by cases absent
  started _ some := absurd rfl some
  once _ := Nat.zero_le 1
  authorized _ member := by cases member
  backed _ := trivial
  apart _ _ _ _ absent := by cases absent

section Steps

variable {uuids : Nat → String} {w : EffectWorld} {states : Nat → Claiming}

theorem Claiming.Backed.held {holding : Claiming} (backed : holding.Backed w)
    {transactionId : String} (mine : holding.transaction = some transactionId) :
    ∃ transaction, w.engine.InPhase transactionId .prepared transaction := by
  cases holding with
  | free => cases mine
  | claimed claimedId intent =>
      cases mine
      obtain ⟨transaction, prepared, _⟩ := backed
      exact ⟨transaction, prepared⟩
  | answered claimedId intent result =>
      cases mine
      obtain ⟨transaction, prepared, _⟩ := backed
      exact ⟨transaction, prepared⟩

/-- A holding lives on in a world that keeps its transaction. -/
theorem Claiming.Backed.transfer {holding : Claiming} {later : EffectWorld}
    (backed : holding.Backed w)
    (same : ∀ transactionId, holding.transaction = some transactionId →
      later.engine.transactions.lookup transactionId =
        w.engine.transactions.lookup transactionId ∧
      later.invoked transactionId = w.invoked transactionId) : holding.Backed later := by
  cases holding with
  | free => trivial
  | claimed transactionId intent =>
      obtain ⟨transaction, ⟨found, prepared⟩, given, idle⟩ := backed
      obtain ⟨lookup, count⟩ := same transactionId rfl
      exact ⟨transaction, ⟨lookup.trans found, prepared⟩, given, count.trans idle⟩
  | answered transactionId intent result =>
      obtain ⟨transaction, ⟨found, prepared⟩, given⟩ := backed
      exact ⟨transaction, ⟨(same transactionId rfl).1.trans found, prepared⟩, given⟩

/-- Nobody holds a transaction that is not prepared. -/
theorem Engaged.not_held (engaged : Engaged uuids w states) {transactionId : String}
    {phase : EffectTransactionPhase} {transaction : EffectTransaction}
    (here : w.engine.InPhase transactionId phase transaction) (other : phase ≠ .prepared)
    (index : Nat) : (states index).transaction ≠ some transactionId := by
  intro mine
  obtain ⟨found, prepared⟩ := (engaged.backed index).held mine
  have same : found = transaction := Option.some.inj (prepared.1.symm.trans here.1)
  rw [same] at prepared
  exact other (here.2.symm.trans prepared.2)

/-- The threads stay apart when one lets go of its transaction or takes one that no
other holds. -/
theorem Engaged.apart_update (engaged : Engaged uuids w states) {index : Nat} {holding : Claiming}
    (alone : ∀ transactionId, holding.transaction = some transactionId →
      ∀ other, other ≠ index → (states other).transaction ≠ some transactionId)
    (first second : Nat) (transactionId : String) (different : first ≠ second)
    (one : (Function.update states index holding first).transaction = some transactionId) :
    (Function.update states index holding second).transaction ≠ some transactionId := by
  by_cases mine : first = index
  · subst mine
    rw [Function.update_self] at one
    rw [Function.update_of_ne different.symm]
    exact alone transactionId one second different.symm
  · rw [Function.update_of_ne mine] at one
    by_cases yours : second = index
    · subst yours
      rw [Function.update_self]
      exact fun two => alone transactionId two first mine one
    · rw [Function.update_of_ne yours]
      exact engaged.apart first second transactionId different one

/-- One transaction moves to another phase, by a thread that alone may hold it. -/
theorem Engaged.update (engaged : Engaged uuids w states) {index : Nat} {transactionId : String}
    {transaction moved : EffectTransaction} {holding : Claiming}
    (found : w.engine.transactions.lookup transactionId = some transaction)
    (key : moved.idempotencyKey = transaction.idempotencyKey) (fits : moved.Fits)
    (started : w.invoked transactionId ≠ 0 → moved.phase.Started)
    (alone : ∀ other, other ≠ index → (states other).transaction ≠ some transactionId)
    (own : ∀ held, holding.transaction = some held → held = transactionId)
    (backed : holding.Backed { w with engine := w.engine.update transactionId moved }) :
    Engaged uuids { w with engine := w.engine.update transactionId moved }
      (Function.update states index holding) where
  indexed other otherId := by
    show w.engine.idempotencyIndex.lookup other = some otherId ↔ _
    rw [engaged.indexed]
    simp only [EffectState.lookup_update]
    by_cases same : otherId = transactionId
    · subst same
      simp [found, key]
    · simp [same]
  drawn other member := by
    apply engaged.drawn
    rcases (AList.mem_insert _).mp member with rfl | old
    · exact AList.lookup_isSome.mp (by rw [found]; rfl)
    · exact old
  fits other otherTransaction here := by
    rw [EffectState.lookup_update] at here
    split at here
    · cases here
      exact fits
    · exact engaged.fits other otherTransaction here
  started other called := by
    rw [EffectState.lookup_update]
    split
    · rename_i same
      exact ⟨moved, rfl, started (same ▸ called)⟩
    · exact engaged.started other called
  once := engaged.once
  authorized := engaged.authorized
  backed other := by
    by_cases mine : other = index
    · subst mine
      rw [Function.update_self]
      exact backed
    · rw [Function.update_of_ne mine]
      apply (engaged.backed other).transfer
      intro held theirs
      have different : held ≠ transactionId := by
        rintro rfl
        exact alone other mine theirs
      exact ⟨by rw [EffectState.lookup_update, if_neg different], rfl⟩
  apart := engaged.apart_update fun held mine other different =>
    own held mine ▸ alone other different

/-- A plan under a new key brings a transaction that nobody knows. -/
theorem Engaged.plan (engaged : Engaged uuids w states) (distinct : Function.Injective uuids)
    (principalId capability idempotencyKey : String) (intent : EffectIntent) :
    Engaged uuids
      { w with
        engine := (w.engine.plan (uuids w.drawn) principalId capability idempotencyKey intent).2
        drawn := w.drawn + 1 } states := by
  have fresh : uuids w.drawn ∉ w.engine.transactions := by
    intro member
    obtain ⟨number, before, same⟩ := engaged.drawn _ member
    exact absurd (distinct same) (Nat.ne_of_lt before)
  have absent : w.engine.transactions.lookup (uuids w.drawn) = none :=
    AList.lookup_eq_none.mpr fresh
  rcases w.engine.plan_cases (uuids w.drawn) principalId capability idempotencyKey intent with
    same | ⟨free, planned⟩
  · rw [same]
    refine ⟨engaged.indexed, ?_, engaged.fits, engaged.started, engaged.once, engaged.authorized,
      engaged.backed, engaged.apart⟩
    intro transactionId member
    obtain ⟨number, before, drawn⟩ := engaged.drawn transactionId member
    exact ⟨number, Nat.lt_succ_of_lt before, drawn⟩
  · rw [planned]
    have known : ∀ transactionId, w.engine.transactions.lookup transactionId ≠ none →
        (w.engine.transactions.insert (uuids w.drawn) (EffectState.plannedTransaction
          (uuids w.drawn) principalId capability idempotencyKey intent)).lookup transactionId =
        w.engine.transactions.lookup transactionId := by
      intro transactionId present
      have different : transactionId ≠ uuids w.drawn := by
        rintro rfl
        exact present absent
      exact AList.lookup_insert_ne different
    constructor
    · intro key transactionId
      by_cases mine : transactionId = uuids w.drawn
      · subst mine
        by_cases own : key = idempotencyKey
        · subst own
          simp [AList.lookup_insert, EffectState.plannedTransaction]
        · have before : w.engine.idempotencyIndex.lookup key ≠ some (uuids w.drawn) := by
            rw [Ne, engaged.indexed, absent]
            simp
          have other : idempotencyKey ≠ key := fun same => own same.symm
          simp [AList.lookup_insert_ne own, AList.lookup_insert, EffectState.plannedTransaction,
            before, other]
      · by_cases own : key = idempotencyKey
        · subst own
          have before := engaged.indexed key transactionId
          rw [free] at before
          simpa [AList.lookup_insert, AList.lookup_insert_ne mine, Ne.symm mine] using before
        · have before := engaged.indexed key transactionId
          simpa [AList.lookup_insert_ne own, AList.lookup_insert_ne mine] using before
    · intro transactionId member
      rcases (AList.mem_insert _).mp member with rfl | old
      · exact ⟨w.drawn, Nat.lt_succ_self _, rfl⟩
      · obtain ⟨number, before, drawn⟩ := engaged.drawn transactionId old
        exact ⟨number, Nat.lt_succ_of_lt before, drawn⟩
    · intro transactionId transaction found
      by_cases mine : transactionId = uuids w.drawn
      · subst mine
        rw [AList.lookup_insert, Option.some.injEq] at found
        rw [← found]
        constructor
        · intro past
          exact absurd rfl past
        · rintro (other | other)
          · cases other
          · cases other
      · rw [AList.lookup_insert_ne mine] at found
        exact engaged.fits transactionId transaction found
    · intro transactionId called
      obtain ⟨transaction, found, started⟩ := engaged.started transactionId called
      exact ⟨transaction, (known transactionId (by rw [found]; simp)).trans found, started⟩
    · exact engaged.once
    · exact engaged.authorized
    · intro index
      apply (engaged.backed index).transfer
      intro transactionId mine
      obtain ⟨transaction, found, _⟩ := (engaged.backed index).held mine
      exact ⟨known transactionId (by rw [found]; simp), rfl⟩
    · exact engaged.apart

/-- The holder of a claimed transaction calls the effector. -/
theorem Engaged.effector (engaged : Engaged uuids w states) {index : Nat} {transactionId : String}
    {intent : EffectIntent} (claimed : states index = .claimed transactionId intent)
    (result : Except NousError EffectReceipt) :
    Engaged uuids
      { w with
        invocations := w.invocations ++ [⟨transactionId, intent,
          (w.engine.get transactionId).bind (·.authorizationRef)⟩] }
      (Function.update states index (.answered transactionId intent result)) := by
  have held := engaged.backed index
  rw [claimed] at held
  obtain ⟨transaction, ⟨found, prepared⟩, given, idle⟩ := held
  have invoked : ∀ other, EffectWorld.invoked { w with
      invocations := w.invocations ++ [⟨transactionId, intent,
        (w.engine.get transactionId).bind (·.authorizationRef)⟩] } other =
      w.invoked other + if other = transactionId then 1 else 0 := by
    intro other
    by_cases same : other = transactionId
    · simp [EffectWorld.invoked, same]
    · have different : transactionId ≠ other := fun back => same back.symm
      simp [EffectWorld.invoked, same, different]
  have mine : (states index).transaction = some transactionId := by
    rw [claimed]
    rfl
  refine ⟨engaged.indexed, engaged.drawn, engaged.fits, ?_, ?_, ?_, ?_, ?_⟩
  · intro other called
    by_cases same : other = transactionId
    · subst same
      exact ⟨transaction, found, by rw [prepared]; decide, by rw [prepared]; decide⟩
    · rw [invoked, if_neg same] at called
      exact engaged.started other called
  · intro other
    rw [invoked]
    split
    · rename_i same
      rw [same, idle]
    · exact engaged.once other
  · intro call member
    rcases List.mem_append.mp member with old | new
    · exact engaged.authorized call old
    · rw [List.mem_singleton] at new
      rw [new, EffectState.get, found]
      exact (engaged.fits transactionId transaction found).authorized (by rw [prepared]; decide)
  · intro other
    by_cases own : other = index
    · subst own
      rw [Function.update_self]
      exact ⟨transaction, ⟨found, prepared⟩, given⟩
    · rw [Function.update_of_ne own]
      apply (engaged.backed other).transfer
      intro heldId theirs
      have different : heldId ≠ transactionId := by
        rintro rfl
        exact engaged.apart index other heldId (Ne.symm own) mine theirs
      exact ⟨rfl, by rw [invoked, if_neg different]; rfl⟩
  · apply engaged.apart_update
    intro heldId this other different
    cases this
    exact engaged.apart index other transactionId (Ne.symm different) mine

theorem Engaged.authorize (engaged : Engaged uuids w states) {index : Nat}
    (free : states index = .free) (transactionId authorizationRef : String) :
    Engaged uuids { w with engine := (w.engine.authorize transactionId authorizationRef).2 }
      states := by
  rcases w.engine.authorize_cases transactionId authorizationRef with
    same | ⟨transaction, planned, moved⟩
  · rw [same]
    exact engaged
  · rw [moved, ← Function.update_eq_self index states, free]
    apply engaged.update planned.1
    · rfl
    · exact ⟨fun _ => rfl, fun late => by rcases late with other | other <;> cases other⟩
    · intro called
      obtain ⟨found, here, started⟩ := engaged.started transactionId called
      have same : found = transaction := Option.some.inj (here.symm.trans planned.1)
      exact absurd (same ▸ planned.2) started.1
    · exact fun other _ => engaged.not_held planned (by decide) other
    · exact fun _ held => by cases held
    · trivial

theorem Engaged.commit (engaged : Engaged uuids w states) {index : Nat}
    (free : states index = .free) (transactionId : String) :
    Engaged uuids { w with engine := (w.engine.commit transactionId).2 } states := by
  rcases w.engine.commit_cases transactionId with same | ⟨transaction, verified, moved⟩
  · rw [same]
    exact engaged
  · rw [moved, ← Function.update_eq_self index states, free]
    have fits := engaged.fits transactionId transaction verified.1
    apply engaged.update verified.1
    · rfl
    · exact ⟨fun _ => fits.authorized (by rw [verified.2]; decide),
        fun _ => fits.verified (.inl verified.2)⟩
    · exact fun _ => EffectTransactionPhase.started_later.2.2.1
    · exact fun other _ => engaged.not_held verified (by decide) other
    · exact fun _ held => by cases held
    · trivial

/-- A claim that hands out an intent makes the thread the holder. -/
theorem Engaged.claim (engaged : Engaged uuids w states) {index : Nat}
    (free : states index = .free) (transactionId : String) :
    Engaged uuids { w with engine := (w.engine.claim transactionId).2 }
      (Function.update states index
        (Claiming.next .free (.claim transactionId) (w.engine.claim transactionId).1)) := by
  rcases w.engine.claim_cases transactionId with
    ⟨nothing, same⟩ | ⟨transaction, authorized, claimed⟩
  · have idle : Claiming.next .free (.claim transactionId) (w.engine.claim transactionId).1 =
        .free := by
      cases answer : (w.engine.claim transactionId).1 with
      | error error => rfl
      | ok claim =>
          cases claim with
          | receipt receipt => rfl
          | intent intent => exact absurd answer (nothing intent)
    rw [same, idle, ← free, Function.update_eq_self]
    exact engaged
  · rw [claimed]
    have fits := engaged.fits transactionId transaction authorized.1
    have idle : w.invoked transactionId = 0 := by
      by_contra called
      obtain ⟨found, here, started⟩ := engaged.started transactionId called
      have same : found = transaction := Option.some.inj (here.symm.trans authorized.1)
      exact started.2 (same ▸ authorized.2)
    apply engaged.update authorized.1
    · rfl
    · refine ⟨fun _ => fits.authorized (by rw [authorized.2]; decide), ?_⟩
      rintro (other | other) <;> cases other
    · exact fun _ => EffectTransactionPhase.started_later.1
    · exact fun other _ => engaged.not_held authorized (by decide) other
    · intro held mine
      exact (Option.some.inj mine).symm
    · refine ⟨{ transaction with phase := .prepared }, ⟨?_, rfl⟩, rfl, idle⟩
      rw [EffectState.lookup_update, if_pos rfl]

/-- The holder records an outcome and lets go. -/
theorem Engaged.record (engaged : Engaged uuids w states) {index : Nat} {transactionId : String}
    {intent : EffectIntent} {result : Except NousError EffectReceipt}
    (answered : states index = .answered transactionId intent result)
    {transaction moved : EffectTransaction}
    (found : w.engine.transactions.lookup transactionId = some transaction)
    (key : moved.idempotencyKey = transaction.idempotencyKey) (fits : moved.Fits)
    (started : moved.phase.Started) :
    Engaged uuids { w with engine := w.engine.update transactionId moved }
      (Function.update states index .free) := by
  have mine : (states index).transaction = some transactionId := by
    rw [answered]
    rfl
  apply engaged.update found key fits fun _ => started
  · exact fun other different => engaged.apart index other transactionId (Ne.symm different) mine
  · exact fun _ held => by cases held
  · trivial

theorem Engaged.recordFailure (engaged : Engaged uuids w states) {index : Nat}
    {transactionId : String} {intent : EffectIntent} {result : Except NousError EffectReceipt}
    (answered : states index = .answered transactionId intent result)
    (receipt : Option EffectReceipt) :
    Engaged uuids { w with engine := w.engine.recordFailure transactionId receipt }
      (Function.update states index .free) := by
  have held := engaged.backed index
  rw [answered] at held
  obtain ⟨transaction, prepared, _⟩ := held
  obtain ⟨kept, moved⟩ := EffectState.recordFailure_found receipt prepared.1
  have fits := engaged.fits transactionId transaction prepared.1
  rw [moved]
  refine engaged.record answered prepared.1 rfl ⟨?_, ?_⟩
    EffectTransactionPhase.started_later.2.2.2
  · exact fun _ => fits.authorized (by rw [prepared.2]; decide)
  · rintro (other | other) <;> cases other

theorem Engaged.recordSuccess (engaged : Engaged uuids w states) {index : Nat}
    {transactionId : String} {intent : EffectIntent} {result : Except NousError EffectReceipt}
    (answered : states index = .answered transactionId intent result) {receipt : EffectReceipt}
    (success : receipt.success = true) (target : receipt.actualTarget = intent.expectedTarget) :
    Engaged uuids { w with engine := (w.engine.recordSuccess transactionId receipt).2 }
      (Function.update states index .free) := by
  have held := engaged.backed index
  rw [answered] at held
  obtain ⟨transaction, prepared, given⟩ := held
  have fits := engaged.fits transactionId transaction prepared.1
  rw [EffectState.recordSuccess_found receipt prepared.1]
  refine engaged.record answered prepared.1 rfl ⟨?_, ?_⟩ EffectTransactionPhase.started_later.2.1
  · exact fun _ => fits.authorized (by rw [prepared.2]; decide)
  · exact fun _ => ⟨receipt, rfl, success, by rw [target, ← given]⟩

/-- Every permitted call keeps the invariant. -/
theorem engaged_kept (distinct : Function.Injective uuids) :
    Attends.Kept (fun _ => effectProtocol) (effectMachine uuids) (Engaged uuids) := by
  intro w states index call result engaged _ permitted
  have here : Function.update states index (states index) = states :=
    Function.update_eq_self index states
  cases holds : states index with
  | free =>
      rw [holds] at permitted here
      cases call with
      | plan principalId capability idempotencyKey intent =>
          show Engaged uuids _ (Function.update states index .free)
          rw [here]
          exact engaged.plan distinct principalId capability idempotencyKey intent
      | authorize transactionId authorizationRef =>
          show Engaged uuids _ (Function.update states index .free)
          rw [here]
          exact engaged.authorize holds transactionId authorizationRef
      | claim transactionId => exact engaged.claim holds transactionId
      | commit transactionId =>
          show Engaged uuids _ (Function.update states index .free)
          rw [here]
          exact engaged.commit holds transactionId
      | get transactionId =>
          show Engaged uuids w (Function.update states index .free)
          rw [here]
          exact engaged
      | effector | recordFailure | recordSuccess => exact permitted.elim
  | claimed transactionId intent =>
      rw [holds] at permitted
      cases call with
      | effector called given =>
          obtain ⟨rfl, rfl⟩ := permitted
          exact engaged.effector holds result
      | _ => exact permitted.elim
  | answered transactionId intent answer =>
      rw [holds] at permitted
      cases call with
      | recordFailure called receipt =>
          obtain rfl : called = transactionId := permitted
          exact engaged.recordFailure holds receipt
      | recordSuccess called receipt =>
          obtain ⟨rfl, _, success, target⟩ := permitted
          exact engaged.recordSuccess holds success target
      | _ => exact permitted.elim

/-! ### Phases that are never left -/

def EffectTransactionPhase.Final (phase : EffectTransactionPhase) : Prop :=
  phase = .failed ∨ phase = .committed

theorem phaseOf_update {transactionId other : String} {phase final : EffectTransactionPhase}
    {transaction : EffectTransaction} (here : w.engine.InPhase transactionId phase transaction)
    (open' : ¬ phase.Final) (ended : w.phaseOf other = some final) (last : final.Final)
    (moved : EffectTransaction) :
    EffectWorld.phaseOf { w with engine := w.engine.update transactionId moved } other =
      some final := by
  have different : other ≠ transactionId := by
    rintro rfl
    rw [EffectWorld.phaseOf, EffectState.get, here.1, Option.map_some, here.2,
      Option.some.injEq] at ended
    exact open' (ended ▸ last)
  rw [EffectWorld.phaseOf, EffectState.get, EffectState.lookup_update, if_neg different]
  exact ended

/-- An outcome is recorded for a prepared transaction. -/
theorem Engaged.recorded (engaged : Engaged uuids w states) {index : Nat} {call : EffectCall}
    {called : String} (permitted : (states index).law call)
    (records : (∃ receipt, call = .recordFailure called receipt) ∨
      ∃ receipt, call = .recordSuccess called receipt) :
    ∃ transaction, w.engine.InPhase called .prepared transaction := by
  have held := engaged.backed index
  cases holds : states index with
  | answered transactionId intent answer =>
      rw [holds] at permitted held
      obtain ⟨transaction, prepared, _⟩ := held
      rcases records with ⟨receipt, rfl⟩ | ⟨receipt, rfl⟩
      · obtain rfl : called = transactionId := permitted
        exact ⟨transaction, prepared⟩
      · obtain ⟨rfl, _⟩ := permitted
        exact ⟨transaction, prepared⟩
  | _ =>
      rw [holds] at permitted
      rcases records with ⟨receipt, rfl⟩ | ⟨receipt, rfl⟩ <;> exact permitted.elim

/-- No permitted call moves a failed or a committed transaction. -/
theorem final_kept (distinct : Function.Injective uuids) {transactionId : String}
    {final : EffectTransactionPhase} (last : final.Final) :
    Attends.Kept (fun _ => effectProtocol) (effectMachine uuids)
      fun w states => Engaged uuids w states ∧ w.phaseOf transactionId = some final := by
  rintro w states index call result ⟨engaged, ended⟩ _ permitted
  refine ⟨engaged_kept distinct w states index call result engaged trivial permitted, ?_⟩
  cases call with
  | plan principalId capability idempotencyKey intent =>
      show EffectWorld.phaseOf { w with
        engine := (w.engine.plan (uuids w.drawn) principalId capability idempotencyKey intent).2
        drawn := w.drawn + 1 } transactionId = some final
      rcases w.engine.plan_cases (uuids w.drawn) principalId capability idempotencyKey intent with
        same | ⟨_, planned⟩
      · rw [same]
        exact ended
      · have present : transactionId ∈ w.engine.transactions := by
          apply AList.lookup_isSome.mp
          obtain ⟨transaction, found, _⟩ := Option.map_eq_some_iff.mp ended
          rw [EffectState.get] at found
          rw [found]
          rfl
        have different : transactionId ≠ uuids w.drawn := by
          intro same
          obtain ⟨number, before, drawn⟩ := engaged.drawn _ present
          exact absurd (distinct (drawn.trans same)) (Nat.ne_of_lt before)
        rw [planned, EffectWorld.phaseOf, EffectState.get, AList.lookup_insert_ne different]
        exact ended
  | authorize called authorizationRef =>
      show EffectWorld.phaseOf { w with
        engine := (w.engine.authorize called authorizationRef).2 } transactionId = some final
      rcases w.engine.authorize_cases called authorizationRef with same | ⟨_, planned, moved⟩
      · rw [same]
        exact ended
      · rw [moved]
        exact phaseOf_update planned (by simp [EffectTransactionPhase.Final]) ended last _
  | claim called =>
      show EffectWorld.phaseOf { w with engine := (w.engine.claim called).2 } transactionId =
        some final
      rcases w.engine.claim_cases called with ⟨_, same⟩ | ⟨_, authorized, moved⟩
      · rw [same]
        exact ended
      · rw [moved]
        exact phaseOf_update authorized (by simp [EffectTransactionPhase.Final]) ended last _
  | effector called given => exact ended
  | recordFailure called receipt =>
      obtain ⟨transaction, prepared⟩ := engaged.recorded permitted (.inl ⟨receipt, rfl⟩)
      obtain ⟨kept, moved⟩ := EffectState.recordFailure_found receipt prepared.1
      show EffectWorld.phaseOf { w with engine := w.engine.recordFailure called receipt }
        transactionId = some final
      rw [moved]
      exact phaseOf_update prepared (by simp [EffectTransactionPhase.Final]) ended last _
  | recordSuccess called receipt =>
      obtain ⟨transaction, prepared⟩ := engaged.recorded permitted (.inr ⟨receipt, rfl⟩)
      show EffectWorld.phaseOf { w with engine := (w.engine.recordSuccess called receipt).2 }
        transactionId = some final
      rw [EffectState.recordSuccess_found receipt prepared.1]
      exact phaseOf_update prepared (by simp [EffectTransactionPhase.Final]) ended last _
  | commit called =>
      show EffectWorld.phaseOf { w with engine := (w.engine.commit called).2 } transactionId =
        some final
      rcases w.engine.commit_cases called with same | ⟨_, verified, moved⟩
      · rw [same]
        exact ended
      · rw [moved]
        exact phaseOf_update verified (by simp [EffectTransactionPhase.Final]) ended last _
  | get called => exact ended

end Steps

/-! ### Every interleaving -/

/-- Threads that each carry out one operation on an engine that starts empty. -/
def effectPool (operations : List EffectOperation) :
    Pool EffectCall EffectCall.Answer EffectWorld EffectOutcome :=
  ⟨.blank, operations.map (·.program)⟩

def effectRun (uuids : Nat → String) (operations : List EffectOperation)
    (schedule : List (Nat × Except NousError EffectReceipt)) : EffectWorld :=
  ((effectPool operations).run (effectMachine uuids) schedule).world

theorem effectPool_attends (uuids : Nat → String) (operations : List EffectOperation) :
    Attends (fun _ => effectProtocol) (Engaged uuids) (fun _ _ _ => True) (fun _ => Claiming.free)
      (effectPool operations) := by
  refine ⟨Engaged.start uuids, ?_⟩
  intro index p found
  rw [effectPool, List.getElem?_map] at found
  obtain ⟨operation, _, rfl⟩ := Option.map_eq_some_iff.mp found
  exact program_follows operation

/-- What holds of an engine whatever its threads do. -/
structure EffectsKept (w : EffectWorld) : Prop where
  once : ∀ transactionId, w.invoked transactionId ≤ 1
  authorized : ∀ call ∈ w.invocations, call.authorizationRef.isSome = true
  verified : ∀ transactionId transaction, w.engine.get transactionId = some transaction →
    transaction.phase = .verified ∨ transaction.phase = .committed →
      ∃ receipt, transaction.receipt = some receipt ∧ receipt.success = true ∧
        receipt.actualTarget = transaction.intent.expectedTarget
  listed : ∀ key transactionId, w.engine.idempotencyIndex.lookup key = some transactionId →
    transactionId ∈ w.engine.transactions
  keyed : ∀ transactionId ∈ w.engine.transactions,
    ∃! key, w.engine.idempotencyIndex.lookup key = some transactionId

theorem Engaged.effectsKept {uuids : Nat → String} {w : EffectWorld} {states : Nat → Claiming}
    (engaged : Engaged uuids w states) : EffectsKept w where
  once := engaged.once
  authorized := engaged.authorized
  verified transactionId transaction found := (engaged.fits transactionId transaction found).verified
  listed key transactionId found := by
    obtain ⟨transaction, here, _⟩ := (engaged.indexed key transactionId).mp found
    exact AList.lookup_isSome.mp (by rw [here]; rfl)
  keyed transactionId member := by
    obtain ⟨transaction, here⟩ := Option.isSome_iff_exists.mp (AList.lookup_isSome.mpr member)
    refine ⟨transaction.idempotencyKey, (engaged.indexed _ _).mpr ⟨transaction, here, rfl⟩, ?_⟩
    intro key found
    obtain ⟨other, there, same⟩ := (engaged.indexed key transactionId).mp found
    rw [here, Option.some.injEq] at there
    rw [← same, there]

/-- In every interleaving of any operations, with any answers of the effector: it is
called at most once for a transaction and only after its authorization, what is
verified or committed has a receipt that fits, the index is a bijection, and a
failed or committed transaction stays so. -/
theorem effects_once (uuids : Nat → String) (distinct : Function.Injective uuids)
    (operations : List EffectOperation) (schedule : List (Nat × Except NousError EffectReceipt)) :
    EffectsKept (effectRun uuids operations schedule) ∧
    ∀ transactionId phase, (effectRun uuids operations schedule).phaseOf transactionId = some phase →
      phase = .failed ∨ phase = .committed →
      ∀ later, (effectRun uuids operations (schedule ++ later)).phaseOf transactionId =
        some phase := by
  have attends := (effectPool_attends uuids operations).run (engaged_kept distinct) schedule
  refine ⟨attends.inv.effectsKept, ?_⟩
  intro transactionId phase ended last later
  rw [effectRun, Pool.run_append]
  have both : Attends (fun _ => effectProtocol)
      (fun w states => Engaged uuids w states ∧ w.phaseOf transactionId = some phase)
      (fun _ _ _ => True) _ ((effectPool operations).run (effectMachine uuids) schedule) :=
    ⟨⟨attends.inv, ended⟩, attends.follows⟩
  exact (both.run (final_kept distinct last) later).inv.2

/-- Ids of growing length. -/
def tallyIds (number : Nat) : String := String.ofList (List.replicate (number + 1) 'a')

theorem tallyIds_injective : Function.Injective tallyIds := by
  intro first second same
  have lists := String.ofList_injective same
  have lengths := congrArg List.length lists
  simpa using lengths

def deviceIntent : EffectIntent where
  description := "write"
  expectedTarget := "device:1"
  expectedOutcome := "ok"
  maxRetries := 0
  timeoutMs := 100

def deviceReceipt : EffectReceipt where
  receiptId := "r1"
  actualTarget := "device:1"
  actualOutcome := "ok"
  executionTimeUs := 1
  retryCount := 0
  success := true
  error := none
  outputHash := List.replicate 32 0
  executedAt := 1
  executedBy := "test"

def deviceOperations : List EffectOperation :=
  [.plan "p" "device.write" "key" deviceIntent, .authorize "a" "approval:1", .execute "a",
    .execute "a", .commit "a"]

/-- The second execution comes between the claim of the first and its effector. -/
def deviceSchedule : List (Nat × Except NousError EffectReceipt) :=
  [0, 1, 2, 3, 2, 2, 4].map fun index => (index, .ok deviceReceipt)

theorem effects_once_device :
    (effectRun tallyIds deviceOperations deviceSchedule).invoked "a" = 1 ∧
    (effectRun tallyIds deviceOperations deviceSchedule).phaseOf "a" = some .committed ∧
    EffectsKept (effectRun tallyIds deviceOperations deviceSchedule) :=
  ⟨by decide +kernel, by decide +kernel,
    (effects_once tallyIds tallyIds_injective deviceOperations deviceSchedule).1⟩

end NousKernel
