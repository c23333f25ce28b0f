import Mathlib.Algebra.BigOperators.Group.List.Basic
import Mathlib.Algebra.Order.Ring.Nat

/-!
Walks with a stack of pending nodes. The node on top is visited and replaced by the nodes
found there, until none is pending or a visit stops the walk. What every visit keeps of the
state and the pending nodes tells how a walk ends, and a weight that the nodes found at a
node have less of than the node itself bounds it.
-/

set_option autoImplicit false

namespace StackWalk

variable {N S ε : Type}

/-- What a visit comes to: nodes found, the last one to be visited first, or an end. -/
inductive Visit (N S : Type) where
  | goOn (found : List N) (state : S)
  | stop (state : S)

/-- The walk, or nothing where the fuel does not suffice. -/
def walkStack (visit : N → S → Except ε (Visit N S)) : Nat → List N → S → Option (Except ε S)
  | 0, _, _ => none
  | _ + 1, [], state => some (.ok state)
  | fuel + 1, node :: pending, state =>
      match visit node state with
      | .error error => some (.error error)
      | .ok (.stop last) => some (.ok last)
      | .ok (.goOn found next) => walkStack visit fuel (found ++ pending) next

variable {visit : N → S → Except ε (Visit N S)}

theorem walkStack_more {fuel : Nat} {pending : List N} {state : S} {outcome : Except ε S}
    (walked : walkStack visit fuel pending state = some outcome) {more : Nat}
    (enough : fuel ≤ more) : walkStack visit more pending state = some outcome := by
  induction fuel generalizing pending state more with
  | zero => cases walked
  | succ fuel ih =>
      obtain ⟨rest, rfl⟩ : ∃ rest, more = rest + 1 := ⟨more - 1, by omega⟩
      cases pending with
      | nil => exact walked
      | cons node pending =>
          unfold walkStack at walked ⊢
          cases visited : visit node state with
          | error error => simpa only [visited] using walked
          | ok came =>
              simp only [visited] at walked ⊢
              cases came with
              | stop last => exact walked
              | goOn found next => exact ih walked (by omega)

/-- Where the nodes found at a node weigh less than the node, the weight of the pending
nodes bounds the walk. -/
theorem walkStack_some {weight : N → Nat}
    (lighter : ∀ node state found next, visit node state = .ok (.goOn found next) →
      (found.map weight).sum < weight node)
    {fuel : Nat} {pending : List N} (enough : (pending.map weight).sum < fuel) (state : S) :
    ∃ outcome, walkStack visit fuel pending state = some outcome := by
  induction fuel generalizing pending state with
  | zero => omega
  | succ fuel ih =>
      cases pending with
      | nil => exact ⟨.ok state, rfl⟩
      | cons node pending =>
          unfold walkStack
          cases visited : visit node state with
          | error error => exact ⟨.error error, rfl⟩
          | ok came =>
              cases came with
              | stop last => exact ⟨.ok last, rfl⟩
              | goOn found next =>
                  have less := lighter node state found next visited
                  rw [List.map_cons, List.sum_cons] at enough
                  apply ih
                  rw [List.map_append, List.sum_append]
                  omega

/-- What every visit keeps holds at the end of a walk that was not stopped, and what a visit
that stops leads to holds at the end of one that was. -/
theorem walkStack_ends (kept : List N → S → Prop) (stopped : S → Prop)
    (goesOn : ∀ node pending state found next, kept (node :: pending) state →
      visit node state = .ok (.goOn found next) → kept (found ++ pending) next)
    (stops : ∀ node pending state last, kept (node :: pending) state →
      visit node state = .ok (.stop last) → stopped last)
    {fuel : Nat} {pending : List N} {state last : S} (start : kept pending state)
    (walked : walkStack visit fuel pending state = some (.ok last)) :
    kept [] last ∨ stopped last := by
  induction fuel generalizing pending state with
  | zero => cases walked
  | succ fuel ih =>
      cases pending with
      | nil =>
          cases walked
          exact .inl start
      | cons node pending =>
          unfold walkStack at walked
          cases visited : visit node state with
          | error error => simp [visited] at walked
          | ok came =>
              simp only [visited] at walked
              cases came with
              | stop final =>
                  cases walked
                  exact .inr (stops node pending state _ start visited)
              | goOn found next => exact ih (goesOn _ _ _ _ _ start visited) walked

end StackWalk
