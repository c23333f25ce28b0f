import Mathlib.Data.List.Basic

/-!
Programs that send and may fail. What was sent before a failure stays sent. How much a
program sends, and that it sends nothing else than it may, is read along its text.
-/

set_option autoImplicit false

structure Emission (E ε α : Type) where
  sent : List E
  result : Except ε α

namespace Emission

variable {E ε α β : Type}

def bind (first : Emission E ε α) (next : α → Emission E ε β) : Emission E ε β :=
  match first.result with
  | .error reason => ⟨first.sent, .error reason⟩
  | .ok value => ⟨first.sent ++ (next value).sent, (next value).result⟩

instance : Monad (Emission E ε) where
  pure value := ⟨[], .ok value⟩
  bind := bind

/-- A step that sends nothing. -/
def ofExcept (result : Except ε α) : Emission E ε α := ⟨[], result⟩

def fail (reason : ε) : Emission E ε α := ofExcept (.error reason)

/-- A step that sends one event, and what comes of it. -/
def send (event : E) (result : Except ε α) : Emission E ε α := ⟨[event], result⟩

/-- At most so many events, and only such. -/
structure AtMost (bound : Nat) (allowed : E → Prop) (program : Emission E ε α) : Prop where
  few : program.sent.length ≤ bound
  allowed : ∀ event ∈ program.sent, allowed event

variable {allowed : E → Prop} {bound : Nat}

theorem AtMost.weaken {more : Nat} {wider : E → Prop} {program : Emission E ε α}
    (kept : AtMost bound allowed program) (fits : bound ≤ more)
    (within : ∀ event, allowed event → wider event) : AtMost more wider program where
  few := Nat.le_trans kept.few fits
  allowed event member := within event (kept.allowed event member)

theorem atMost_ofExcept (result : Except ε α) :
    AtMost bound allowed (ofExcept result : Emission E ε α) where
  few := Nat.zero_le bound
  allowed event member := by cases member

theorem atMost_pure (value : α) : AtMost bound allowed (pure value : Emission E ε α) :=
  atMost_ofExcept (.ok value)

theorem atMost_fail (reason : ε) : AtMost bound allowed (fail reason : Emission E ε α) :=
  atMost_ofExcept (.error reason)

theorem atMost_send {event : E} (may : allowed event) (result : Except ε α) :
    AtMost 1 allowed (send event result) where
  few := Nat.le_refl 1
  allowed other member := by
    obtain rfl := List.mem_singleton.mp member
    exact may

/-- The second program counts only for the values of the first. -/
theorem AtMost.bind {first : Emission E ε α} {next : α → Emission E ε β} {later : Nat}
    (begins : AtMost bound allowed first)
    (goesOn : ∀ value, first.result = .ok value → AtMost later allowed (next value)) :
    AtMost (bound + later) allowed (first >>= next) := by
  change AtMost (bound + later) allowed (Emission.bind first next)
  unfold Emission.bind
  cases ended : first.result with
  | error reason => exact ⟨Nat.le_trans begins.few (Nat.le_add_right bound later), begins.allowed⟩
  | ok value =>
      have then' := goesOn value ended
      constructor
      · rw [List.length_append]
        exact Nat.add_le_add begins.few then'.few
      · intro event member
        rcases List.mem_append.mp member with before | after
        · exact begins.allowed event before
        · exact then'.allowed event after

/-- Where the first sends nothing, the bound is that of the rest. -/
theorem AtMost.after {first : Emission E ε α} {next : α → Emission E ε β}
    (silent : AtMost 0 allowed first)
    (goesOn : ∀ value, first.result = .ok value → AtMost bound allowed (next value)) :
    AtMost bound allowed (first >>= next) := by
  have together := silent.bind goesOn
  rwa [Nat.zero_add] at together

/-- A check in front sends nothing. -/
theorem AtMost.check {result : Except ε α} {next : α → Emission E ε β}
    (goesOn : ∀ value, result = .ok value → AtMost bound allowed (next value)) :
    AtMost bound allowed (ofExcept result >>= next) := (atMost_ofExcept result).after goesOn

/-- Where the rest sends nothing, the bound is that of the first. -/
theorem AtMost.before {first : Emission E ε α} {next : α → Emission E ε β}
    (begins : AtMost bound allowed first)
    (silent : ∀ value, first.result = .ok value → AtMost 0 allowed (next value)) :
    AtMost bound allowed (first >>= next) := begins.bind silent

/-- A program that comes to a value has come to one for its first step. -/
theorem bind_ok {first : Emission E ε α} {next : α → Emission E ε β} {value : β} :
    (first >>= next).result = .ok value ↔
      ∃ middle, first.result = .ok middle ∧ (next middle).result = .ok value := by
  change (Emission.bind first next).result = .ok value ↔ _
  unfold Emission.bind
  cases first.result with
  | error reason => simp
  | ok middle => simp

@[simp] theorem ofExcept_result (result : Except ε α) :
    (ofExcept result : Emission E ε α).result = result := rfl

@[simp] theorem pure_result (value : α) : (pure value : Emission E ε α).result = .ok value := rfl

end Emission
