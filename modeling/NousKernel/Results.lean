import Mathlib.Data.List.Basic

/-!
Results that may fail: what a sequence of steps that all succeed says about each of them.
-/

set_option autoImplicit false

namespace Results

theorem bind_ok {ε α β : Type} {x : Except ε α} {f : α → Except ε β} {b : β} :
    (x >>= f) = .ok b ↔ ∃ a, x = .ok a ∧ f a = .ok b := by
  cases x <;> simp [bind, Except.bind]

theorem mapError_ok {ε ε' α : Type} {x : Except ε α} {f : ε → ε'} {a : α} :
    x.mapError f = .ok a ↔ x = .ok a := by
  cases x <;> simp [Except.mapError]

/-- Checks that pass one after the other. -/
theorem checks_ok {ε : Type} {first second : Except ε Unit} :
    (do first; second) = .ok () ↔ first = .ok () ∧ second = .ok () := by
  cases first <;> simp [bind, Except.bind]

/-- A check, then what depends on it. -/
theorem after_ok {ε β : Type} {first : Except ε Unit} {second : Except ε β} {b : β} :
    (first >>= fun _ => second) = .ok b ↔ first = .ok () ∧ second = .ok b := by
  cases first <;> simp [bind, Except.bind]

theorem forM_ok {ε α : Type} {test : α → Except ε Unit} {items : List α} :
    items.forM test = .ok () ↔ ∀ item ∈ items, test item = .ok () := by
  induction items with
  | nil => simp [List.forM, pure, Except.pure]
  | cons item items ih =>
      show (do test item; items.forM test) = .ok () ↔ _
      rw [checks_ok, ih, List.forall_mem_cons]

theorem mapM_ok {α β ε : Type} {f : α → Except ε β} {items : List α} {found : List β} :
    items.mapM f = .ok found ↔ items.map f = found.map .ok := by
  induction items generalizing found with
  | nil =>
      cases found with
      | nil => simp [pure, Except.pure]
      | cons value rest => simp [pure, Except.pure]
  | cons item rest ih =>
      rw [List.mapM_cons]
      cases first : f item with
      | error reason => cases found <;> simp [bind, Except.bind, first]
      | ok value =>
          cases found with
          | nil =>
              cases others : rest.mapM f <;> simp [bind, Except.bind, pure, Except.pure]
          | cons head tail =>
              rw [List.map_cons, List.map_cons, first, List.cons.injEq, ← ih]
              cases others : rest.mapM f <;>
                simp [bind, Except.bind, pure, Except.pure]

theorem mapM_total {α β ε : Type} {f : α → Except ε β} {items : List α}
    (total : ∀ item ∈ items, ∃ value, f item = .ok value) :
    ∃ found, items.mapM f = .ok found := by
  induction items with
  | nil => exact ⟨[], rfl⟩
  | cons item rest ih =>
      obtain ⟨value, first⟩ := total item (.head _)
      obtain ⟨found, others⟩ := ih fun other member => total other (.tail _ member)
      refine ⟨value :: found, ?_⟩
      rw [List.mapM_cons, first, others]
      rfl

theorem mem_mapM {α β ε : Type} {f : α → Except ε β} {items : List α} {found : List β}
    (done : items.mapM f = .ok found) {value : β} (listed : value ∈ found) :
    ∃ item ∈ items, f item = .ok value := by
  have paired : (Except.ok value : Except ε β) ∈ items.map f := by
    rw [mapM_ok.mp done]
    exact List.mem_map_of_mem listed
  exact List.mem_map.mp paired

end Results
