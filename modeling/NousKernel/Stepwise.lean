import Mathlib.Data.List.Infix

/-!
Runs of a step function over a list of actions: what every step keeps holds after
every run, and a property that a step keeps exactly under a condition holds
throughout a run exactly when every step meets the condition.
-/

set_option autoImplicit false

namespace Stepwise

variable {S A : Type}

def run (step : S → A → S) (state : S) (actions : List A) : S := actions.foldl step state

section Run

variable {step : S → A → S} {state : S}

@[simp] theorem run_nil : run step state [] = state := rfl

@[simp] theorem run_cons (action : A) (rest : List A) :
    run step state (action :: rest) = run step (step state action) rest := rfl

theorem run_append (first second : List A) :
    run step state (first ++ second) = run step (run step state first) second :=
  List.foldl_append

theorem run_concat (front : List A) (action : A) :
    run step state (front ++ [action]) = step (run step state front) action :=
  run_append front [action]

theorem run_invariant {holds : S → Prop} (keeps : ∀ s action, holds s → holds (step s action))
    (first : holds state) (actions : List A) : holds (run step state actions) := by
  induction actions generalizing state with
  | nil => exact first
  | cons action rest ih => exact ih (keeps state action first)

/-- What the allowed actions keep, a run of them keeps. -/
theorem run_invariant_of {holds : S → Prop} {allowed : A → Prop}
    (keeps : ∀ s action, allowed action → holds s → holds (step s action)) (first : holds state)
    {actions : List A} (all : ∀ action ∈ actions, allowed action) :
    holds (run step state actions) := by
  induction actions generalizing state with
  | nil => exact first
  | cons action rest ih =>
      have kept := keeps state action (all action (.head _)) first
      exact ih kept fun later member => all later (.tail _ member)

/-- The steps of a run, each in the state it meets. -/
def Meets (step : S → A → S) (meets : S → A → Prop) (state : S) (actions : List A) : Prop :=
  ∀ front action, front ++ [action] <+: actions → meets (run step state front) action

theorem meets_nil (meets : S → A → Prop) : Meets step meets state [] := by
  intro front action before
  have empty := List.prefix_nil.mp before
  simp at empty

theorem meets_cons {meets : S → A → Prop} {action : A} {rest : List A} (first : meets state action)
    (others : Meets step meets (step state action) rest) :
    Meets step meets state (action :: rest) := by
  intro front last before
  cases front with
  | nil =>
      rw [List.nil_append, List.cons_prefix_cons] at before
      exact before.1 ▸ first
  | cons head tail =>
      rw [List.cons_append, List.cons_prefix_cons] at before
      exact before.1 ▸ others tail last before.2

/-- What every step that meets a condition keeps, a run of such steps keeps. -/
theorem meets_invariant {holds : S → Prop} {meets : S → A → Prop}
    (keeps : ∀ s action, holds s → meets s action → holds (step s action)) (first : holds state)
    {actions : List A} (meeting : Meets step meets state actions) {front : List A}
    (before : front <+: actions) : holds (run step state front) := by
  induction front using List.reverseRecOn with
  | nil => exact first
  | append_singleton front action ih =>
      have shorter : front <+: actions := (List.prefix_append front [action]).trans before
      rw [run_concat]
      exact keeps _ _ (ih shorter) (meeting front action before)

/-- What is seen throughout a run shows of each step that it meets the condition. -/
theorem meets_of_throughout {holds seen : S → Prop} {meets : S → A → Prop}
    (shows : ∀ s action, holds s → seen (step s action) → meets s action)
    (keeps : ∀ s action, holds s → meets s action → holds (step s action)) (first : holds state)
    {actions : List A} (throughout : ∀ front, front <+: actions → seen (run step state front)) :
    Meets step meets state actions := by
  have held : ∀ front, front <+: actions → holds (run step state front) := by
    intro front
    induction front using List.reverseRecOn with
    | nil => exact fun _ => first
    | append_singleton front action ih =>
        intro before
        have so := ih ((List.prefix_append front [action]).trans before)
        have after := throughout _ before
        rw [run_concat] at after ⊢
        exact keeps _ _ so (shows _ _ so after)
  intro front action before
  have after := throughout _ before
  rw [run_concat] at after
  exact shows _ _ (held front ((List.prefix_append front [action]).trans before)) after

theorem throughout_iff {holds : S → Prop} {meets : S → A → Prop}
    (exactly : ∀ s action, holds s → (holds (step s action) ↔ meets s action))
    (first : holds state) (actions : List A) :
    (∀ front, front <+: actions → holds (run step state front)) ↔
      Meets step meets state actions := by
  constructor
  · exact meets_of_throughout (fun s action held => (exactly s action held).mp)
      (fun s action held => (exactly s action held).mpr) first
  · intro meeting front before
    exact meets_invariant (fun s action holds => (exactly s action holds).mpr) first meeting before

end Run

end Stepwise
