import Mathlib.Logic.Function.Basic
import NousKernel.Stepwise

/-!
The cancellation token (`nous-kernel-core/src/cancellation.rs`) between any number of waiters
and cancellers whose steps interleave. A waiter enables its notification before it tests the
flag, and a canceller sets the flag before it notifies, so no cancellation is lost. The
notification primitive is a parameter.
-/

set_option autoImplicit false

namespace NousKernel

/-! ### Notifications -/

/-- What a token relies on in `tokio::sync::Notify`. A waiter that has enabled its notification
gets the next one that is sent to all waiters, and keeps it until it drops it. Whatever a waiter
does with its own notification leaves the others theirs. -/
structure Notify (W : Type) where
  State : Type
  new : State
  /-- `notified()` and `enable()`. -/
  enable : W → State → State
  /-- A `Notified` goes out of scope. -/
  drop : W → State → State
  notifyWaiters : State → State
  enabled : W → State → Bool
  notified : W → State → Bool
  enable_enabled : ∀ waiter state, enabled waiter (enable waiter state) = true
  enable_other : ∀ waiter other state, other ≠ waiter →
    enabled other (enable waiter state) = enabled other state ∧
      notified other (enable waiter state) = notified other state
  drop_other : ∀ waiter other state, other ≠ waiter →
    enabled other (drop waiter state) = enabled other state ∧
      notified other (drop waiter state) = notified other state
  notify_enabled : ∀ waiter state, enabled waiter state = true →
    notified waiter (notifyWaiters state) = true
  notify_notified : ∀ waiter state, notified waiter state = true →
    notified waiter (notifyWaiters state) = true

namespace Notify

variable {W : Type}

/-- The waiter is in the list, or has been notified since it joined it. -/
def listed (notify : Notify W) (waiter : W) (state : notify.State) : Bool :=
  notify.enabled waiter state || notify.notified waiter state

theorem enable_listed (notify : Notify W) (waiter : W) (state : notify.State) :
    notify.listed waiter (notify.enable waiter state) = true := by
  rw [listed, notify.enable_enabled, Bool.true_or]

theorem listed_enable (notify : Notify W) {waiter other : W} (apart : other ≠ waiter)
    (state : notify.State) :
    notify.listed other (notify.enable waiter state) = notify.listed other state := by
  obtain ⟨enabled, notified⟩ := notify.enable_other waiter other state apart
  rw [listed, enabled, notified, listed]

theorem listed_drop (notify : Notify W) {waiter other : W} (apart : other ≠ waiter)
    (state : notify.State) :
    notify.listed other (notify.drop waiter state) = notify.listed other state := by
  obtain ⟨enabled, notified⟩ := notify.drop_other waiter other state apart
  rw [listed, enabled, notified, listed]

/-- Who is in the list is notified. -/
theorem notify_listed (notify : Notify W) {waiter : W} {state : notify.State}
    (listed : notify.listed waiter state = true) :
    notify.notified waiter (notify.notifyWaiters state) = true := by
  rcases Bool.or_eq_true_iff.mp listed with enabled | notified
  · exact notify.notify_enabled waiter state enabled
  · exact notify.notify_notified waiter state notified

end Notify

/-! ### The token -/

/-- Where a waiter is in the loop of `cancelled()`. -/
inductive WaiterState where
  /-- At the head of the loop. -/
  | idle
  | registered
  /-- It found the flag unset and goes on to await its notification. -/
  | tested
  | parked
  | returned
  /-- Its future was dropped while it was parked. -/
  | dropped
  deriving DecidableEq

/-- Where a canceller is in `cancel()`. -/
inductive CancellerState where
  | idle
  /-- It found the flag unset and goes on to notify. -/
  | swapped
  | finished
  deriving DecidableEq

structure CancellationState {W : Type} (notify : Notify W) where
  cancelled : Bool
  notification : notify.State

/-- The state behind a token, and where its callers are. -/
structure CancellationSystem {W : Type} (notify : Notify W) (C : Type) extends
    CancellationState notify where
  waiters : W → WaiterState
  cancellers : C → CancellerState

/-- Whose step is next. -/
inductive TokenTurn (W C : Type) where
  | waiter (waiter : W)
  | drop (waiter : W)
  | canceller (canceller : C)

namespace CancellationSystem

variable {W C : Type} {notify : Notify W}

/-- A new token, whose callers are still to start. -/
def start (notify : Notify W) (C : Type) : CancellationSystem notify C where
  cancelled := false
  notification := notify.new
  waiters := fun _ => .idle
  cancellers := fun _ => .idle

section Steps

variable [DecidableEq W]

/-- The waiter moves on, and the notifications are these. -/
def move (system : CancellationSystem notify C) (waiter : W) (notification : notify.State)
    (state : WaiterState) : CancellationSystem notify C :=
  { system with notification, waiters := Function.update system.waiters waiter state }

@[simp] theorem move_own (system : CancellationSystem notify C) (waiter : W)
    (notification : notify.State) (state : WaiterState) :
    (system.move waiter notification state).waiters waiter = state :=
  Function.update_self _ _ _

theorem move_other (system : CancellationSystem notify C) {waiter other : W}
    (apart : other ≠ waiter) (notification : notify.State) (state : WaiterState) :
    (system.move waiter notification state).waiters other = system.waiters other :=
  Function.update_of_ne apart _ _

/-- The next step of `cancelled()`. A parked waiter that has not been notified stays parked. -/
def wait (system : CancellationSystem notify C) (waiter : W) : CancellationSystem notify C :=
  match system.waiters waiter with
  | .idle => system.move waiter (notify.enable waiter system.notification) .registered
  | .registered =>
      if system.cancelled then
        system.move waiter (notify.drop waiter system.notification) .returned
      else system.move waiter system.notification .tested
  | .tested => system.move waiter system.notification .parked
  | .parked =>
      if notify.notified waiter system.notification then
        system.move waiter (notify.drop waiter system.notification) .idle
      else system
  | .returned | .dropped => system

/-- The future of a parked waiter is dropped. -/
def drop (system : CancellationSystem notify C) (waiter : W) : CancellationSystem notify C :=
  if system.waiters waiter = .parked then
    system.move waiter (notify.drop waiter system.notification) .dropped
  else system

variable [DecidableEq C]

/-- The next step of `cancel()`: swap the flag, and notify if it was unset. -/
def cancel (system : CancellationSystem notify C) (canceller : C) : CancellationSystem notify C :=
  match system.cancellers canceller with
  | .idle =>
      { system with
        cancelled := true
        cancellers := Function.update system.cancellers canceller
          (if system.cancelled then .finished else .swapped) }
  | .swapped =>
      { system with
        notification := notify.notifyWaiters system.notification
        cancellers := Function.update system.cancellers canceller .finished }
  | .finished => system

def step (system : CancellationSystem notify C) : TokenTurn W C → CancellationSystem notify C
  | .waiter waiter => system.wait waiter
  | .drop waiter => system.drop waiter
  | .canceller canceller => system.cancel canceller

end Steps

/-- Every `cancel()` that has started has finished. -/
def Through (system : CancellationSystem notify C) : Prop :=
  ∀ canceller, system.cancellers canceller ≠ .idle → system.cancellers canceller = .finished

/-- The flag is set, every started `cancel()` has finished, and a waiter is parked that no
notification will wake. -/
def Lost (system : CancellationSystem notify C) : Prop :=
  system.cancelled = true ∧ system.Through ∧
    ∃ waiter, system.waiters waiter = .parked ∧ notify.notified waiter system.notification = false

end CancellationSystem

/-! ### The invariant -/

/-- The waiter holds an enabled notification. -/
def WaiterState.registers : WaiterState → Bool
  | registered | tested | parked => true
  | idle | returned | dropped => false

/-- The waiter will not test the flag again before it is notified. -/
def WaiterState.awaits : WaiterState → Bool
  | tested | parked => true
  | idle | registered | returned | dropped => false

theorem WaiterState.registers_of_awaits {state : WaiterState} (awaits : state.awaits = true) :
    state.registers = true := by
  cases state with
  | tested | parked => rfl
  | idle | registered | returned | dropped => cases awaits

/-- How many of its own steps a waiter is from its return when it is woken. -/
def WaiterState.distance : WaiterState → Nat
  | tested => 4
  | parked => 3
  | idle => 2
  | registered => 1
  | returned | dropped => 0

theorem WaiterState.distance_le (state : WaiterState) : state.distance ≤ 4 := by
  cases state <;> decide

theorem WaiterState.returned_of_distance {state : WaiterState} (alive : state ≠ .dropped)
    (there : state.distance = 0) : state = .returned := by
  cases state with
  | returned => rfl
  | dropped => exact absurd rfl alive
  | idle | registered | tested | parked => cases there

namespace CancellationSystem

variable {W C : Type} {notify : Notify W}

/-- Once the flag is set, a canceller is still to notify, or everyone who awaits a notification
has one. -/
structure Inv (system : CancellationSystem notify C) : Prop where
  listed : ∀ waiter, (system.waiters waiter).registers = true →
    notify.listed waiter system.notification = true
  woken : system.cancelled = true → (∃ canceller, system.cancellers canceller = .swapped) ∨
    ∀ waiter, (system.waiters waiter).awaits = true →
      notify.notified waiter system.notification = true
  returned : ∀ waiter, system.waiters waiter = .returned → system.cancelled = true

theorem Inv.start (notify : Notify W) (C : Type) : (start notify C).Inv where
  listed _ registers := by cases registers
  woken cancelled := by cases cancelled
  returned _ returned := by cases returned

variable {system : CancellationSystem notify C}

/-- With the flag set and no canceller on its way, everyone who awaits has been notified. -/
theorem Inv.notified (inv : system.Inv) (cancelled : system.cancelled = true)
    (through : system.Through) {waiter : W} (awaits : (system.waiters waiter).awaits = true) :
    notify.notified waiter system.notification = true := by
  rcases inv.woken cancelled with ⟨canceller, swapped⟩ | notified
  · have finished := through canceller (by rw [swapped]; exact CancellerState.noConfusion)
    rw [swapped] at finished
    cases finished
  · exact notified waiter awaits

section Waiters

variable [DecidableEq W]

/-- A waiter moves on and leaves the others their notifications. -/
theorem Inv.move (inv : system.Inv) {waiter : W} {notification : notify.State}
    {state : WaiterState}
    (others : ∀ other, other ≠ waiter →
      notify.listed other notification = notify.listed other system.notification ∧
        notify.notified other notification = notify.notified other system.notification)
    (listed : state.registers = true → notify.listed waiter notification = true)
    (woken : system.cancelled = true → state.awaits = true →
      notify.notified waiter system.notification = true →
        notify.notified waiter notification = true)
    (awaits : system.cancelled = true → state.awaits = true →
      (system.waiters waiter).awaits = true)
    (returned : state = .returned → system.cancelled = true) :
    (system.move waiter notification state).Inv := by
  refine ⟨?_, ?_, ?_⟩
  · intro other registers
    by_cases own : other = waiter
    · subst own
      rw [move_own] at registers
      exact listed registers
    · rw [move_other system own] at registers
      exact (others other own).1.trans (inv.listed other registers)
  · intro cancelled
    refine (inv.woken cancelled).imp_right fun notified => ?_
    intro other waits
    by_cases own : other = waiter
    · subst own
      rw [move_own] at waits
      exact woken cancelled waits (notified other (awaits cancelled waits))
    · rw [move_other system own] at waits
      exact (others other own).2.trans (notified other waits)
  · intro other done
    by_cases own : other = waiter
    · subst own
      rw [move_own] at done
      exact returned done
    · rw [move_other system own] at done
      exact inv.returned other done

/-- A waiter lets go of its notification. -/
theorem Inv.release (inv : system.Inv) {waiter : W} {state : WaiterState}
    (free : state.registers = false) (returned : state = .returned → system.cancelled = true) :
    (system.move waiter (notify.drop waiter system.notification) state).Inv := by
  have quiet : ¬state.awaits = true := by
    intro awaits
    rw [WaiterState.registers_of_awaits awaits] at free
    cases free
  apply inv.move
  · intro other apart
    exact ⟨notify.listed_drop apart _, (notify.drop_other waiter other _ apart).2⟩
  · intro registers
    rw [free] at registers
    cases registers
  · exact fun _ awaits _ => absurd awaits quiet
  · exact fun _ awaits => absurd awaits quiet
  · exact returned

theorem Inv.wait (inv : system.Inv) (waiter : W) : (system.wait waiter).Inv := by
  unfold CancellationSystem.wait
  cases here : system.waiters waiter with
  | idle =>
      dsimp only
      apply inv.move
      · intro other apart
        exact ⟨notify.listed_enable apart _, (notify.enable_other waiter other _ apart).2⟩
      · exact fun _ => notify.enable_listed waiter _
      · exact fun _ awaits => by cases awaits
      · exact fun _ awaits => by cases awaits
      · exact fun returned => by cases returned
  | registered =>
      dsimp only
      split
      · rename_i cancelled
        exact inv.release rfl fun _ => cancelled
      · rename_i unset
        -- The waiter awaits its notification only if the flag is not yet set.
        apply inv.move
        · exact fun _ _ => ⟨rfl, rfl⟩
        · exact fun _ => inv.listed waiter (by rw [here]; rfl)
        · exact fun cancelled => absurd cancelled unset
        · exact fun cancelled => absurd cancelled unset
        · exact fun returned => by cases returned
  | tested =>
      dsimp only
      apply inv.move
      · exact fun _ _ => ⟨rfl, rfl⟩
      · exact fun _ => inv.listed waiter (by rw [here]; rfl)
      · exact fun _ _ notified => notified
      · intro _ _
        rw [here]
        rfl
      · exact fun returned => by cases returned
  | parked =>
      dsimp only
      split
      · exact inv.release rfl fun returned => by cases returned
      · exact inv
  | returned | dropped => exact inv

theorem Inv.drop (inv : system.Inv) (waiter : W) : (system.drop waiter).Inv := by
  unfold CancellationSystem.drop
  split
  · exact inv.release rfl fun returned => by cases returned
  · exact inv

end Waiters

theorem Inv.cancel [DecidableEq C] (inv : system.Inv) (canceller : C) : (system.cancel canceller).Inv := by
  unfold CancellationSystem.cancel
  cases here : system.cancellers canceller with
  | idle =>
      refine ⟨inv.listed, ?_, fun _ _ => rfl⟩
      intro _
      dsimp only
      cases set : system.cancelled with
      | false => exact .inl ⟨canceller, by simp⟩
      | true =>
          refine (inv.woken set).imp_left ?_
          rintro ⟨other, swapped⟩
          have apart : other ≠ canceller := by
            rintro rfl
            rw [here] at swapped
            cases swapped
          exact ⟨other, by rw [Function.update_of_ne apart, swapped]⟩
  | swapped =>
      -- Everyone who awaits is still listed, or was notified before.
      have notified : ∀ waiter, (system.waiters waiter).registers = true →
          notify.notified waiter (notify.notifyWaiters system.notification) = true :=
        fun waiter registers => notify.notify_listed (inv.listed waiter registers)
      refine ⟨?_, ?_, inv.returned⟩
      · intro waiter registers
        rw [Notify.listed, notified waiter registers, Bool.or_true]
      · intro _
        right
        exact fun waiter awaits => notified waiter (WaiterState.registers_of_awaits awaits)
  | finished => exact inv

variable [DecidableEq W] [DecidableEq C]

theorem Inv.step (inv : system.Inv) (turn : TokenTurn W C) : (system.step turn).Inv := by
  cases turn with
  | waiter waiter => exact inv.wait waiter
  | drop waiter => exact inv.drop waiter
  | canceller canceller => exact inv.cancel canceller

/-! ### Runs -/

/-- The token and its callers after some steps of theirs. -/
def after (notify : Notify W) (turns : List (TokenTurn W C)) : CancellationSystem notify C :=
  Stepwise.run step (start notify C) turns

theorem Inv.after (notify : Notify W) (turns : List (TokenTurn W C)) :
    (after notify turns).Inv :=
  Stepwise.run_invariant (fun _ turn inv => inv.step turn) (.start notify C) turns

/-- In no state that any interleaving reaches is a cancellation lost, and a waiter has returned
only if the flag is set. -/
theorem cancellation_not_lost (notify : Notify W) (turns : List (TokenTurn W C)) :
    ¬(after notify turns).Lost ∧
      ∀ waiter, (after notify turns).waiters waiter = .returned →
        (after notify turns).cancelled = true := by
  have inv := Inv.after notify turns
  refine ⟨?_, inv.returned⟩
  rintro ⟨cancelled, through, waiter, parked, unnotified⟩
  have awaits : ((after notify turns).waiters waiter).awaits = true := by
    rw [parked]
    rfl
  have notified := inv.notified cancelled through awaits
  rw [unnotified] at notified
  cases notified

/-! ### Every waiter hears of it -/

/-- The flag is set, and the waiter is there and not left waiting. -/
structure Hears (system : CancellationSystem notify C) (waiter : W) : Prop where
  cancelled : system.cancelled = true
  alive : system.waiters waiter ≠ .dropped
  notified : (system.waiters waiter).awaits = true →
    notify.notified waiter system.notification = true

omit [DecidableEq C] in
theorem Hears.move {waiter : W} (hears : system.Hears waiter) {notification : notify.State}
    {state : WaiterState} (alive : state ≠ .dropped)
    (notified : state.awaits = true → notify.notified waiter notification = true) :
    (system.move waiter notification state).Hears waiter := by
  refine ⟨hears.cancelled, ?_, ?_⟩
  · rw [move_own]
    exact alive
  · rw [move_own]
    exact notified

omit [DecidableEq C] in
/-- A step of its own brings the waiter nearer to its return. -/
theorem Hears.wait {waiter : W} (hears : system.Hears waiter) :
    (system.wait waiter).Hears waiter ∧
      ((system.wait waiter).waiters waiter).distance =
        (system.waiters waiter).distance - 1 := by
  unfold CancellationSystem.wait
  cases here : system.waiters waiter with
  | idle =>
      refine ⟨hears.move WaiterState.noConfusion Bool.noConfusion, ?_⟩
      rw [move_own]
      rfl
  | registered =>
      dsimp only
      rw [if_pos hears.cancelled]
      refine ⟨hears.move WaiterState.noConfusion Bool.noConfusion, ?_⟩
      rw [move_own]
      rfl
  | tested =>
      have notified := hears.notified (by rw [here]; rfl)
      refine ⟨hears.move WaiterState.noConfusion fun _ => notified, ?_⟩
      rw [move_own]
      rfl
  | parked =>
      have notified := hears.notified (by rw [here]; rfl)
      dsimp only
      rw [if_pos notified]
      refine ⟨hears.move WaiterState.noConfusion Bool.noConfusion, ?_⟩
      rw [move_own]
      rfl
  | returned => exact ⟨hears, by rw [here]; rfl⟩
  | dropped => exact absurd here hears.alive

theorem Hears.waits {waiter : W} (hears : system.Hears waiter) (count : Nat) :
    (Stepwise.run step system (List.replicate count (.waiter waiter))).Hears waiter ∧
      ((Stepwise.run step system (List.replicate count (.waiter waiter))).waiters waiter).distance =
        (system.waiters waiter).distance - count := by
  induction count generalizing system with
  | zero => exact ⟨hears, rfl⟩
  | succ count ih =>
      obtain ⟨later, nearer⟩ := hears.wait
      obtain ⟨last, there⟩ := ih later
      refine ⟨last, there.trans ?_⟩
      rw [nearer]
      omega

/-- After any interleaving, once the flag is set and the cancellers are through, every waiter
that was not dropped returns with at most four steps of its own. -/
theorem cancellation_heard (notify : Notify W) (turns : List (TokenTurn W C))
    (cancelled : (after notify turns).cancelled = true) (through : (after notify turns).Through)
    {waiter : W} (alive : (after notify turns).waiters waiter ≠ .dropped) :
    (after notify (turns ++ List.replicate 4 (.waiter waiter))).waiters waiter = .returned := by
  have inv : (after notify turns).Inv := Inv.after notify turns
  have hears : (after notify turns).Hears waiter :=
    ⟨cancelled, alive, fun awaits => inv.notified cancelled through awaits⟩
  obtain ⟨last, there⟩ := hears.waits 4
  have near := ((after notify turns).waiters waiter).distance_le
  rw [after, Stepwise.run_append]
  apply WaiterState.returned_of_distance last.alive
  omega

end CancellationSystem

/-! ### A queue of waiters -/

/-- The waiters in the list, and those taken from it and notified. -/
structure WaitQueue (W : Type) where
  waiting : List W
  notified : List W

/-- The list that `notify_waiters` empties. -/
def queueNotify (W : Type) [DecidableEq W] : Notify W where
  State := WaitQueue W
  new := ⟨[], []⟩
  enable waiter queue := ⟨waiter :: queue.waiting, queue.notified.filter (· ≠ waiter)⟩
  drop waiter queue :=
    ⟨queue.waiting.filter (· ≠ waiter), queue.notified.filter (· ≠ waiter)⟩
  notifyWaiters queue := ⟨[], queue.waiting ++ queue.notified⟩
  enabled waiter queue := waiter ∈ queue.waiting
  notified waiter queue := waiter ∈ queue.notified
  enable_enabled waiter queue := by simp
  enable_other waiter other queue apart := by simp [apart]
  drop_other waiter other queue apart := by simp [apart]
  notify_enabled waiter queue enabled := by simp_all
  notify_notified waiter queue notified := by simp_all

/-- The flag is set after the first waiter has tested it and before it parks. -/
def raceTurns : List (TokenTurn (Fin 2) (Fin 1)) :=
  [.waiter 0, .waiter 0, .canceller 0, .waiter 0, .waiter 1, .canceller 0, .waiter 0, .waiter 0,
    .waiter 0]

theorem cancellation_not_lost_race :
    ¬(CancellationSystem.after (queueNotify (Fin 2)) raceTurns).Lost ∧
      (CancellationSystem.after (queueNotify (Fin 2)) raceTurns).waiters 0 = .returned ∧
      (CancellationSystem.after (queueNotify (Fin 2)) raceTurns).cancelled = true := by
  have returned : (CancellationSystem.after (queueNotify (Fin 2)) raceTurns).waiters 0 =
      .returned := by decide +kernel
  obtain ⟨kept, only⟩ := CancellationSystem.cancellation_not_lost (queueNotify (Fin 2)) raceTurns
  exact ⟨kept, returned, only 0 returned⟩

end NousKernel
