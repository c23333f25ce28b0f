import NousKernel.Journal
import NousKernel.Stepwise

/-!
The generic state machine with compare-and-swap transitions, history and hooks
(`nous-state/src/state_machine.rs`).
-/

set_option autoImplicit false

namespace NousKernel

variable {S P : Type}

/-- A hook may read state of its own, so its verdict also depends on the moment it
is called at. -/
abbrev TransitionHook (S : Type) : Type := Nat → S → S → Except NousError Unit

structure TransitionRecord (S : Type) where
  fromState : S
  toState : S
  generation : Nat
  fencingToken : String
  timestamp : Int
  deriving DecidableEq, Repr

structure TransitionResult (S : Type) where
  fromState : S
  toState : S
  previousGeneration : Nat
  newGeneration : Nat
  previousFencingToken : String
  newFencingToken : String
  record : TransitionRecord S
  deriving DecidableEq, Repr

/-- The generation is a `u64` that counts records held in memory, so it does not
reach its bound and is a natural number here. -/
structure StateMachine (S : Type) where
  current : S
  transitions : List (S × S)
  history : List (TransitionRecord S)
  generation : Nat
  fencingToken : String
  beforeHooks : List (TransitionHook S)
  afterHooks : List (TransitionHook S)

/-- What a call takes from outside: the new UUID, the clock, and the moment its
hooks are asked at. -/
structure Occasion where
  token : String
  timestamp : Int
  moment : Nat
  deriving DecidableEq, Repr

/-- The hooks in order, up to the first that refuses. -/
def runHooks (moment : Nat) (previous target : S) : List (TransitionHook S) → Except NousError Unit
  | [] => .ok ()
  | hook :: rest =>
      match hook moment previous target with
      | .error error => .error error
      | .ok () => runHooks moment previous target rest

namespace StateMachine

section Fields

def new (initialState : S) (token : String) : StateMachine S where
  current := initialState
  transitions := []
  history := []
  generation := 1
  fencingToken := token
  beforeHooks := []
  afterHooks := []

def beforeTransition (machine : StateMachine S) (hook : TransitionHook S) : StateMachine S :=
  { machine with beforeHooks := machine.beforeHooks ++ [hook] }

def afterTransition (machine : StateMachine S) (hook : TransitionHook S) : StateMachine S :=
  { machine with afterHooks := machine.afterHooks ++ [hook] }

def nextRecord (machine : StateMachine S) (occasion : Occasion) (target : S) :
    TransitionRecord S where
  fromState := machine.current
  toState := target
  generation := machine.generation + 1
  fencingToken := occasion.token
  timestamp := occasion.timestamp

/-- The machine while its after hooks run. -/
def execute (machine : StateMachine S) (occasion : Occasion) (target : S) : StateMachine S :=
  { machine with
    current := target
    generation := machine.generation + 1
    fencingToken := occasion.token
    history := machine.history ++ [machine.nextRecord occasion target] }

/-- The undo of a refused transition: three fields are put back and the last
record is popped. -/
def rollback (machine : StateMachine S) (current : S) (generation : Nat) (token : String) :
    StateMachine S :=
  { machine with
    current := current
    generation := generation
    fencingToken := token
    history := machine.history.dropLast }

def transitionResult (machine : StateMachine S) (occasion : Occasion) (target : S) :
    TransitionResult S where
  fromState := machine.current
  toState := target
  previousGeneration := machine.generation
  newGeneration := machine.generation + 1
  previousFencingToken := machine.fencingToken
  newFencingToken := occasion.token
  record := machine.nextRecord occasion target

/-- The undo restores every field that the change touched. -/
theorem rollback_execute (machine : StateMachine S) (occasion : Occasion) (target : S) :
    (machine.execute occasion target).rollback machine.current machine.generation
      machine.fencingToken = machine := by
  simp [execute, rollback]

end Fields

def generationConflict (expected current : Nat) : NousError where
  code := .workloadConflict
  message := "Generation conflict: expected " ++ toString expected ++ ", current " ++
    toString current

def invalidTransition [ToString S] (source target : S) : NousError where
  code := .failedPrecondition
  message := "Invalid transition: '" ++ toString source ++ "' -> '" ++ toString target ++
    "' is not allowed"

/-- `HashSet::insert` on the table. -/
def allowTransition [DecidableEq S] (machine : StateMachine S) (source target : S) :
    StateMachine S :=
  { machine with transitions := machine.transitions.insert (source, target) }

def allowTransitionsFrom [DecidableEq S] (machine : StateMachine S) (source : S)
    (targets : List S) : StateMachine S :=
  targets.foldl (fun machine target => machine.allowTransition source target) machine

/-! ### The history -/

section History

/-- The records lead from one state to another: each starts where the one before
it ends. -/
def Trail : S → List (TransitionRecord S) → S → Prop
  | first, [], last => first = last
  | first, record :: rest, last => record.fromState = first ∧ Trail record.toState rest last

theorem Trail.append {first middle : S} {records : List (TransitionRecord S)}
    (trail : Trail first records middle) (record : TransitionRecord S)
    (leaves : record.fromState = middle) :
    Trail first (records ++ [record]) record.toState := by
  induction records generalizing first with
  | nil =>
      have here : first = middle := trail
      exact ⟨leaves.trans here.symm, rfl⟩
  | cons head rest ih => exact ⟨trail.1, ih trail.2⟩

/-- What the history of a machine says about it. -/
structure Chronicled (initial : S) (machine : StateMachine S) : Prop where
  counted : machine.generation = 1 + machine.history.length
  trail : Trail initial machine.history machine.current
  numbered : machine.history.map (·.generation) = List.range' 2 machine.history.length
  permitted : ∀ record ∈ machine.history, record.fromState = record.toState ∨
    (record.fromState, record.toState) ∈ machine.transitions

namespace Chronicled

variable {initial : S} {machine : StateMachine S}

theorem new (initial : S) (token : String) :
    Chronicled initial (StateMachine.new initial token) where
  counted := rfl
  trail := rfl
  numbered := rfl
  permitted := fun _ absent => absurd absent List.not_mem_nil

theorem execute (chronicled : Chronicled initial machine) (occasion : Occasion) {target : S}
    (step : machine.current = target ∨ (machine.current, target) ∈ machine.transitions) :
    Chronicled initial (machine.execute occasion target) where
  counted := by
    have counted := chronicled.counted
    simp only [StateMachine.execute, List.length_append, List.length_singleton]
    omega
  trail := chronicled.trail.append (machine.nextRecord occasion target) rfl
  numbered := by
    have next : machine.generation + 1 = 2 + machine.history.length := by
      rw [chronicled.counted]
      omega
    simp only [StateMachine.execute, List.map_append, List.map_cons, List.map_nil,
      List.length_append, List.length_singleton, nextRecord, List.range'_concat,
      chronicled.numbered, next, Nat.one_mul]
  permitted := by
    intro record member
    rcases List.mem_append.mp member with old | last
    · exact chronicled.permitted record old
    · rw [List.mem_singleton] at last
      rw [last]
      exact step

theorem allowTransition [DecidableEq S] (chronicled : Chronicled initial machine)
    (source target : S) : Chronicled initial (machine.allowTransition source target) where
  counted := chronicled.counted
  trail := chronicled.trail
  numbered := chronicled.numbered
  permitted := fun record member =>
    (chronicled.permitted record member).imp_right List.mem_insert_of_mem

theorem allowTransitionsFrom [DecidableEq S] (chronicled : Chronicled initial machine)
    (source : S) (targets : List S) :
    Chronicled initial (machine.allowTransitionsFrom source targets) := by
  induction targets generalizing machine with
  | nil => exact chronicled
  | cons target rest ih => exact ih (chronicled.allowTransition source target)

end Chronicled

end History

/-! ### Transitions -/

section Transition

variable [DecidableEq S] [ToString S]

def transition (machine : StateMachine S) (occasion : Occasion) (target : S)
    (expectedGeneration : Nat) : Except NousError (TransitionResult S) × StateMachine S :=
  if expectedGeneration ≠ machine.generation then
    (.error (generationConflict expectedGeneration machine.generation), machine)
  else if machine.current ≠ target ∧ (machine.current, target) ∉ machine.transitions then
    (.error (invalidTransition machine.current target), machine)
  else
    match runHooks occasion.moment machine.current target machine.beforeHooks with
    | .error error => (.error error, machine)
    | .ok () =>
        match runHooks occasion.moment machine.current target machine.afterHooks with
        | .error error => (.error error,
            (machine.execute occasion target).rollback machine.current machine.generation
              machine.fencingToken)
        | .ok () =>
            (.ok (machine.transitionResult occasion target), machine.execute occasion target)

/-- What the journaled form of a call takes besides: the entry's names, the
serialized payload or the serializer's complaint, and the store's answer. -/
structure Journaling (P : Type) where
  objectType : String
  objectId : String
  workloadId : String
  actor : String
  idempotencyKey : Option String
  payload : Except String P
  storage : Option NousError
  now : Int

def transitionEntry (result : TransitionResult S) (journaling : Journaling P) (payload : P) :
    JournalEntry P where
  sequence := 0
  workloadId := journaling.workloadId
  entryType := .transition
  objectType := journaling.objectType
  objectId := journaling.objectId
  previousPhase := some (toString result.fromState)
  newPhase := toString result.toState
  generation := result.newGeneration
  payload := payload
  fencingToken := result.newFencingToken
  actor := journaling.actor
  idempotencyKey := journaling.idempotencyKey
  timestampUs := 0

/-- A payload that does not serialize returns from between the transition and the
append: no rollback stands on that path. -/
def transitionWithJournal (machine : StateMachine S) (occasion : Occasion) (target : S)
    (expectedGeneration : Nat) (journal : Journal P) (journaling : Journaling P) :
    Except NousError (TransitionResult S) × StateMachine S × Journal P :=
  match machine.transition occasion target expectedGeneration with
  | (.error error, after) => (.error error, after, journal)
  | (.ok result, after) =>
      match journaling.payload with
      | .error e =>
          (.error { code := .internal, message := "Failed to serialize payload: " ++ e },
            after, journal)
      | .ok payload =>
          match journal.offer (transitionEntry result journaling payload) journaling.storage
            journaling.now with
          | (.error error, journal) => (.error error,
              after.rollback result.fromState result.previousGeneration
                result.previousFencingToken, journal)
          | (.ok _, journal) => (.ok result, after, journal)

/-- A call either refuses and leaves the machine as it is, or was made at the
machine's generation on a permitted step and executes it. -/
theorem transition_cases (machine : StateMachine S) (occasion : Occasion) (target : S)
    (expectedGeneration : Nat) :
    (∃ error, machine.transition occasion target expectedGeneration = (.error error, machine)) ∨
    (expectedGeneration = machine.generation ∧
      (machine.current = target ∨ (machine.current, target) ∈ machine.transitions) ∧
      machine.transition occasion target expectedGeneration =
        (.ok (machine.transitionResult occasion target), machine.execute occasion target)) := by
  unfold transition
  split
  · exact .inl ⟨_, rfl⟩
  · rename_i expected
    split
    · exact .inl ⟨_, rfl⟩
    · rename_i permitted
      split
      · exact .inl ⟨_, rfl⟩
      · split
        · rename_i error _
          rw [rollback_execute]
          exact .inl ⟨error, rfl⟩
        · have generation : expectedGeneration = machine.generation := by
            by_contra differs
            exact expected differs
          have step : machine.current = target ∨
              (machine.current, target) ∈ machine.transitions := by
            by_contra neither
            exact permitted (not_or.mp neither)
          exact .inr ⟨generation, step, rfl⟩

theorem transition_stale (machine : StateMachine S) (occasion : Occasion) (target : S)
    {expectedGeneration : Nat} (stale : expectedGeneration ≠ machine.generation) :
    machine.transition occasion target expectedGeneration =
      (.error (generationConflict expectedGeneration machine.generation), machine) := by
  unfold transition
  rw [if_pos stale]

theorem transition_error {machine : StateMachine S} {occasion : Occasion} {target : S}
    {expectedGeneration : Nat} {error : NousError}
    (refused : (machine.transition occasion target expectedGeneration).1 = .error error) :
    (machine.transition occasion target expectedGeneration).2 = machine := by
  rcases transition_cases machine occasion target expectedGeneration with
    ⟨_, same⟩ | ⟨_, _, executed⟩
  · rw [same]
  · rw [executed] at refused
    cases refused

/-- The machine after a journaled call is the one after the plain call, or the
rollback has put it back. -/
theorem transitionWithJournal_machine (machine : StateMachine S) (occasion : Occasion) (target : S)
    (expectedGeneration : Nat) (journal : Journal P) (journaling : Journaling P) :
    (machine.transitionWithJournal occasion target expectedGeneration journal journaling).2.1 =
        (machine.transition occasion target expectedGeneration).2 ∨
    (machine.transitionWithJournal occasion target expectedGeneration journal journaling).2.1 =
        machine := by
  unfold transitionWithJournal
  rcases transition_cases machine occasion target expectedGeneration with
    ⟨error, same⟩ | ⟨_, _, executed⟩
  · rw [same]
    exact .inl rfl
  · rw [executed]
    dsimp only
    split
    · exact .inl rfl
    · split
      · exact .inr (rollback_execute machine occasion target)
      · exact .inl rfl

/-- The calls that change a machine. -/
inductive Operation (S P : Type) where
  | allowTransition (source target : S)
  | allowTransitionsFrom (source : S) (targets : List S)
  | beforeTransition (hook : TransitionHook S)
  | afterTransition (hook : TransitionHook S)
  | transition (occasion : Occasion) (target : S) (expectedGeneration : Nat)
  | transitionWithJournal (occasion : Occasion) (target : S) (expectedGeneration : Nat)
      (journal : Journal P) (journaling : Journaling P)

def perform (machine : StateMachine S) : Operation S P → StateMachine S
  | .allowTransition source target => machine.allowTransition source target
  | .allowTransitionsFrom source targets => machine.allowTransitionsFrom source targets
  | .beforeTransition hook => machine.beforeTransition hook
  | .afterTransition hook => machine.afterTransition hook
  | .transition occasion target expectedGeneration =>
      (machine.transition occasion target expectedGeneration).2
  | .transitionWithJournal occasion target expectedGeneration journal journaling =>
      (machine.transitionWithJournal occasion target expectedGeneration journal journaling).2.1

def performAll (machine : StateMachine S) (operations : List (Operation S P)) : StateMachine S :=
  Stepwise.run perform machine operations

namespace Chronicled

variable {initial : S} {machine : StateMachine S}

theorem transition (chronicled : Chronicled initial machine) (occasion : Occasion) (target : S)
    (expectedGeneration : Nat) :
    Chronicled initial (machine.transition occasion target expectedGeneration).2 := by
  rcases transition_cases machine occasion target expectedGeneration with
    ⟨_, same⟩ | ⟨_, step, executed⟩
  · rw [same]
    exact chronicled
  · rw [executed]
    exact chronicled.execute occasion step

theorem perform (chronicled : Chronicled initial machine) (operation : Operation S P) :
    Chronicled initial (machine.perform operation) := by
  cases operation with
  | allowTransition source target => exact chronicled.allowTransition source target
  | allowTransitionsFrom source targets => exact chronicled.allowTransitionsFrom source targets
  | beforeTransition hook =>
      exact ⟨chronicled.counted, chronicled.trail, chronicled.numbered, chronicled.permitted⟩
  | afterTransition hook =>
      exact ⟨chronicled.counted, chronicled.trail, chronicled.numbered, chronicled.permitted⟩
  | transition occasion target expectedGeneration =>
      exact chronicled.transition occasion target expectedGeneration
  | transitionWithJournal occasion target expectedGeneration journal journaling =>
      show Chronicled initial (machine.transitionWithJournal occasion target expectedGeneration
        journal journaling).2.1
      rcases transitionWithJournal_machine machine occasion target expectedGeneration journal
        journaling with moved | same
      · rw [moved]
        exact chronicled.transition occasion target expectedGeneration
      · rw [same]
        exact chronicled

theorem performAll (chronicled : Chronicled initial machine) (operations : List (Operation S P)) :
    Chronicled initial (machine.performAll operations) :=
  Stepwise.run_invariant (fun _ operation kept => kept.perform operation) chronicled operations

end Chronicled

/-- Whatever the table and the hooks are and however they grow, the history tells
how the machine came to its state, a call at another generation is refused, and a
refused call has changed nothing. -/
theorem transition_run (initial : S) (token : String) (operations : List (Operation S P)) :
    Chronicled initial ((new initial token).performAll operations) ∧
    (∀ occasion target expectedGeneration,
      expectedGeneration ≠ ((new initial token).performAll operations).generation →
      (((new initial token).performAll operations).transition occasion target
        expectedGeneration).1 = .error (generationConflict expectedGeneration
          ((new initial token).performAll operations).generation)) ∧
    ∀ occasion target expectedGeneration error,
      (((new initial token).performAll operations).transition occasion target
        expectedGeneration).1 = .error error →
      (((new initial token).performAll operations).transition occasion target
        expectedGeneration).2 = (new initial token).performAll operations := by
  refine ⟨(Chronicled.new initial token).performAll operations, ?_, ?_⟩
  · intro occasion target expectedGeneration stale
    rw [transition_stale _ occasion target stale]
  · intro occasion target expectedGeneration error refused
    exact transition_error refused

/-! ### All or nothing -/

/-- A call that the machine carries out: the generation, the table and every hook allow
it. -/
def Permits (machine : StateMachine S) (occasion : Occasion) (target : S)
    (expectedGeneration : Nat) : Prop :=
  expectedGeneration = machine.generation ∧
    (machine.current = target ∨ (machine.current, target) ∈ machine.transitions) ∧
    runHooks occasion.moment machine.current target machine.beforeHooks = .ok () ∧
    runHooks occasion.moment machine.current target machine.afterHooks = .ok ()

/-- The row of a transition of the object that a journaled call is about. -/
structure RecordsTransition (journaling : Journaling P) (result : TransitionResult S)
    (entry : JournalEntry P) : Prop where
  entryType : entry.entryType = .transition
  objectType : entry.objectType = journaling.objectType
  objectId : entry.objectId = journaling.objectId
  previousPhase : entry.previousPhase = some (toString result.fromState)
  newPhase : entry.newPhase = toString result.toState
  generation : entry.generation = result.newGeneration
  fencingToken : entry.fencingToken = result.newFencingToken

/-- An error leaves the machine and the journal as they were, and a success is in the
journal. -/
def AllOrNothing (machine : StateMachine S) (journal : Journal P) (journaling : Journaling P) :
    Except NousError (TransitionResult S) × StateMachine S × Journal P → Prop
  | (.error _, after, later) =>
      after.current = machine.current ∧ after.generation = machine.generation ∧
        after.fencingToken = machine.fencingToken ∧ after.history = machine.history ∧
        later.entries = journal.entries
  | (.ok result, _, later) => ∃ entry ∈ later.entries, RecordsTransition journaling result entry

section AllOrNothing

variable {machine : StateMachine S} {occasion : Occasion} {target : S} {expectedGeneration : Nat}
  {journal : Journal P} {journaling : Journaling P}

theorem transition_permitted (permits : machine.Permits occasion target expectedGeneration) :
    machine.transition occasion target expectedGeneration =
      (.ok (machine.transitionResult occasion target), machine.execute occasion target) := by
  obtain ⟨expected, step, before, after⟩ := permits
  have allowed : ¬ (machine.current ≠ target ∧ (machine.current, target) ∉ machine.transitions) :=
    fun neither => step.elim neither.1 neither.2
  unfold transition
  rw [if_neg (not_not.mpr expected), if_neg allowed, before, after]

theorem transition_unpermitted (refused : ¬ machine.Permits occasion target expectedGeneration) :
    ∃ error, machine.transition occasion target expectedGeneration = (.error error, machine) := by
  rcases transition_cases machine occasion target expectedGeneration with
    same | ⟨expected, step, executed⟩
  · exact same
  · exfalso
    apply refused
    have allowed : ¬ (machine.current ≠ target ∧ (machine.current, target) ∉ machine.transitions) :=
      fun neither => step.elim neither.1 neither.2
    unfold transition at executed
    rw [if_neg (not_not.mpr expected), if_neg allowed] at executed
    cases before : runHooks occasion.moment machine.current target machine.beforeHooks with
    | error error =>
        rw [before] at executed
        cases executed
    | ok =>
        cases after : runHooks occasion.moment machine.current target machine.afterHooks with
        | error error =>
            rw [before, after] at executed
            cases executed
        | ok => exact ⟨expected, step, before, after⟩

/-- A refused call is nothing. -/
theorem AllOrNothing.refused (refused : ¬ machine.Permits occasion target expectedGeneration) :
    AllOrNothing machine journal journaling
      (machine.transitionWithJournal occasion target expectedGeneration journal journaling) := by
  obtain ⟨error, same⟩ := transition_unpermitted refused
  have call : machine.transitionWithJournal occasion target expectedGeneration journal journaling =
      (.error error, machine, journal) := by
    unfold transitionWithJournal
    rw [same]
  rw [call]
  exact ⟨rfl, rfl, rfl, rfl, rfl⟩

/-- A payload that does not serialize leaves the record of the transition in the history. -/
theorem not_allOrNothing_unserialized
    (permits : machine.Permits occasion target expectedGeneration) {e : String}
    (fails : journaling.payload = .error e) :
    ¬ AllOrNothing machine journal journaling
      (machine.transitionWithJournal occasion target expectedGeneration journal journaling) := by
  unfold transitionWithJournal
  rw [transition_permitted permits, fails]
  rintro ⟨_, _, _, history, _⟩
  have longer := congrArg List.length history
  simp [execute] at longer

/-- With a payload the call comes down to the append: a refused one is undone, and a
key that is used needs a row that records the transition. -/
theorem allOrNothing_append (permits : machine.Permits occasion target expectedGeneration)
    {payload : P} (serializes : journaling.payload = .ok payload) :
    AllOrNothing machine journal journaling
        (machine.transitionWithJournal occasion target expectedGeneration journal journaling) ↔
      (journaling.storage = none →
        (∃ key, journaling.idempotencyKey = some key ∧ key ∈ journal.keys) →
        ∃ entry ∈ journal.entries,
          RecordsTransition journaling (machine.transitionResult occasion target) entry) := by
  unfold transitionWithJournal
  rw [transition_permitted permits, serializes]
  cases storage : journaling.storage with
  | some error =>
      have undone := rollback_execute machine occasion target
      apply iff_of_true
      · show AllOrNothing machine journal journaling (.error error, (machine.execute occasion
          target).rollback machine.current machine.generation machine.fencingToken, journal)
        rw [undone]
        exact ⟨rfl, rfl, rfl, rfl, rfl⟩
      · intro works
        cases works
  | none =>
      show (∃ entry ∈ (journal.append (transitionEntry (machine.transitionResult occasion target)
        journaling payload) journaling.now).2.entries, _) ↔ _
      cases found : journal.absorber
          (transitionEntry (machine.transitionResult occasion target) journaling payload) with
      | none =>
          have fresh := Journal.absorber_none_iff.mp found
          rw [Journal.append_inserted _ found]
          apply iff_of_true
          · exact ⟨_, List.mem_append_right _ (.head _), ⟨rfl, rfl, rfl, rfl, rfl, rfl, rfl⟩⟩
          · rintro _ ⟨key, keyed, used⟩
            exact absurd used (fresh key keyed)
      | some sequence =>
          have used : ∃ key, journaling.idempotencyKey = some key ∧ key ∈ journal.keys := by
            by_contra unused
            have fresh : journal.absorber (transitionEntry (machine.transitionResult occasion target)
                journaling payload) = none := by
              apply Journal.absorber_none_iff.mpr
              intro key keyed used
              exact unused ⟨key, keyed, used⟩
            rw [fresh] at found
            cases found
          rw [Journal.append_absorbed _ found]
          exact ⟨fun recorded _ _ => recorded, fun onto => onto rfl used⟩

end AllOrNothing

/-- A journaled call is all or nothing exactly when a call the machine carries out has a
payload that serializes, and a key that is unused, unless a row already records the very
transition. -/
theorem transition_all_or_nothing_iff (machine : StateMachine S) (occasion : Occasion) (target : S)
    (expectedGeneration : Nat) (journal : Journal P) (journaling : Journaling P) :
    AllOrNothing machine journal journaling
        (machine.transitionWithJournal occasion target expectedGeneration journal journaling) ↔
      (machine.Permits occasion target expectedGeneration →
        (∃ payload, journaling.payload = .ok payload) ∧
        (journaling.storage = none →
          (∃ key, journaling.idempotencyKey = some key ∧ key ∈ journal.keys) →
          ∃ entry ∈ journal.entries,
            RecordsTransition journaling (machine.transitionResult occasion target) entry)) := by
  by_cases permits : machine.Permits occasion target expectedGeneration
  · rw [forall_prop_of_true permits]
    cases serializes : journaling.payload with
    | error e =>
        apply iff_of_false (not_allOrNothing_unserialized permits serializes)
        rintro ⟨⟨payload, ok⟩, _⟩
        cases ok
    | ok payload =>
        rw [allOrNothing_append permits serializes]
        exact ⟨fun append => ⟨⟨payload, rfl⟩, append⟩, And.right⟩
  · exact iff_of_true (AllOrNothing.refused permits) fun permitted => absurd permitted permits

/-- A machine that may start. -/
def idleMachine : StateMachine String := (new "idle" "token-1").allowTransition "idle" "running"

def unserialized : Journaling String where
  objectType := "job"
  objectId := "job-1"
  workloadId := "job-1"
  actor := "scheduler"
  idempotencyKey := none
  payload := .error "key must be a string"
  storage := none
  now := 0

/-- The call fails, and the machine has moved. -/
theorem transition_not_undone : ¬ AllOrNothing idleMachine .empty unserialized
    (idleMachine.transitionWithJournal ⟨"token-2", 0, 0⟩ "running" 1 .empty unserialized) := by
  apply not_allOrNothing_unserialized (e := "key must be a string") ?_ rfl
  exact ⟨rfl, .inr (by decide), rfl, rfl⟩

end Transition

end StateMachine

end NousKernel
