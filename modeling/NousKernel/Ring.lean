import Mathlib.Logic.Function.Basic
import Mathlib.Data.Nat.ModEq

/-!
A bounded queue in a circular array: the items from the head on, as many as the count
says. A push writes the slot behind them, a pop leaves the slots alone.
-/

set_option autoImplicit false

namespace Ring

variable {α : Type} {cap : Nat} [NeZero cap]

/-- The slot some places behind the head. -/
def slot (cap : Nat) [NeZero cap] (head offset : Nat) : Fin cap := Fin.ofNat cap (head + offset)

/-- The items in the order in which they leave. -/
def contents (slots : Fin cap → α) (head count : Nat) : List α :=
  (List.range count).map fun offset => slots (slot cap head offset)

@[simp] theorem contents_zero (slots : Fin cap → α) (head : Nat) : contents slots head 0 = [] := rfl

@[simp] theorem contents_length (slots : Fin cap → α) (head count : Nat) :
    (contents slots head count).length = count := by
  simp [contents]

/-- Slots less than one round apart are different. -/
theorem slot_inj {head first second : Nat} (inFirst : first < cap) (inSecond : second < cap)
    (same : slot cap head first = slot cap head second) : first = second := by
  have equal : (head + first) ≡ (head + second) [MOD cap] := congrArg Fin.val same
  have offsets := Nat.ModEq.add_left_cancel' head equal
  rwa [Nat.ModEq, Nat.mod_eq_of_lt inFirst, Nat.mod_eq_of_lt inSecond] at offsets

/-- A push into the slot behind the items. -/
theorem contents_push (slots : Fin cap → α) {head count : Nat} (free : count < cap) (item : α) :
    contents (Function.update slots (slot cap head count) item) head (count + 1) =
      contents slots head count ++ [item] := by
  have old : ∀ offset ∈ List.range count,
      Function.update slots (slot cap head count) item (slot cap head offset) =
        slots (slot cap head offset) := by
    intro offset listed
    have less := List.mem_range.mp listed
    apply Function.update_of_ne
    intro same
    have equal := slot_inj (by omega) free same
    omega
  rw [contents, List.range_succ, List.map_append, List.map_congr_left old]
  simp [contents]

/-- A pop takes the item at the head. -/
theorem contents_pop (slots : Fin cap → α) (head count : Nat) :
    contents slots head (count + 1) =
      slots (slot cap head 0) :: contents slots ((head + 1) % cap) count := by
  rw [contents, List.range_succ_eq_map, List.map_cons, List.map_map]
  congr 1
  apply List.map_congr_left
  intro offset _
  show slots (slot cap head (offset + 1)) = slots (slot cap ((head + 1) % cap) offset)
  congr 1
  apply Fin.ext
  show (head + (offset + 1)) % cap = ((head + 1) % cap + offset) % cap
  rw [Nat.mod_add_mod]
  congr 1
  omega

end Ring
