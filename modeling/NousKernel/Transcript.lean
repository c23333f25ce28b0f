import Mathlib.Logic.Function.Basic
import NousKernel.Interleaving
import NousKernel.Typestate

/-!
Protocols in company. Each thread of a pool follows a protocol of its own, whose
state is read off the calls the thread has made and their answers. What the
permitted calls keep of the world and of all these states, every schedule keeps.
-/

set_option autoImplicit false

namespace Resumption

variable {E : Type} {R : E → Type} {S α W C : Type}

namespace Pool

/-- The exchange of a thread in one turn. -/
def spoken (m : Machine E R W C) (pool : Pool E R W α) (turn : Nat × C) (index : Nat) :
    List (Exchange E R) :=
  if index = turn.1 then
    match pool.threads[index]? with
    | some (.call effect _) => [⟨effect, (m.answer effect pool.world turn.2).1⟩]
    | _ => []
  else []

/-- The exchanges of a thread along a run. -/
def transcript (m : Machine E R W C) :
    Pool E R W α → List (Nat × C) → Nat → List (Exchange E R)
  | _, [], _ => []
  | pool, turn :: rest, index =>
      pool.spoken m turn index ++ (pool.step m turn).transcript m rest index

section Idle

variable {m : Machine E R W C} {pool : Pool E R W α} {turn : Nat × C}
  (idle : ∀ effect next, pool.threads[turn.1]? ≠ some (.call effect next))

include idle

theorem step_idle : pool.step m turn = pool := by
  unfold step
  split
  · rename_i found
    exact absurd found (idle _ _)
  · rfl

theorem spoken_idle (index : Nat) : pool.spoken m turn index = [] := by
  unfold spoken
  split
  · rename_i mine
    subst mine
    split
    · rename_i found
      exact absurd found (idle _ _)
    · rfl
  · rfl

end Idle

theorem spoken_call {m : Machine E R W C} {pool : Pool E R W α} {turn : Nat × C} {effect : E}
    {next : R effect → Prog E R α} (found : pool.threads[turn.1]? = some (.call effect next)) :
    pool.spoken m turn turn.1 = [⟨effect, (m.answer effect pool.world turn.2).1⟩] := by
  unfold spoken
  rw [if_pos rfl, found]

theorem spoken_other {m : Machine E R W C} {pool : Pool E R W α} {turn : Nat × C} {index : Nat}
    (other : index ≠ turn.1) : pool.spoken m turn index = [] :=
  if_neg other

/-- Where there is no thread, nothing is said. -/
theorem transcript_absent {m : Machine E R W C} {pool : Pool E R W α} {index : Nat}
    (absent : pool.threads.length ≤ index) (schedule : List (Nat × C)) :
    pool.transcript m schedule index = [] := by
  induction schedule generalizing pool with
  | nil => rfl
  | cons turn rest ih =>
      have silent : pool.spoken m turn index = [] := by
        unfold spoken
        rw [List.getElem?_eq_none absent]
        split <;> rfl
      show pool.spoken m turn index ++ (pool.step m turn).transcript m rest index = []
      rw [silent, ih (by rwa [step_length])]
      rfl

theorem run_append (m : Machine E R W C) (pool : Pool E R W α) (first second : List (Nat × C)) :
    pool.run m (first ++ second) = (pool.run m first).run m second :=
  List.foldl_append

end Pool

/-- The invariant holds of the world and the states of all the threads, and each
thread follows its protocol from its state. -/
structure Attends (t : Nat → Protocol E R S) (inv : W → (Nat → S) → Prop)
    (post : Nat → α → S → Prop) (states : Nat → S) (pool : Pool E R W α) : Prop where
  inv : inv pool.world states
  follows : ∀ index p, pool.threads[index]? = some p →
    (t index).Follows (post index) p (states index)

namespace Attends

variable {t : Nat → Protocol E R S} {m : Machine E R W C} {inv : W → (Nat → S) → Prop}
  {post : Nat → α → S → Prop} {states : Nat → S} {pool : Pool E R W α}

/-- Every permitted call of a thread keeps the invariant where the states of the
threads fit. -/
def KeptWhile (fits : (Nat → S) → Prop) (t : Nat → Protocol E R S) (m : Machine E R W C)
    (inv : W → (Nat → S) → Prop) : Prop :=
  ∀ world states index effect choice, inv world states → fits states →
    (t index).law (states index) effect →
      inv (m.answer effect world choice).2 (Function.update states index
        ((t index).next (states index) effect (m.answer effect world choice).1))

/-- Every permitted call of a thread keeps the invariant. -/
def Kept (t : Nat → Protocol E R S) (m : Machine E R W C) (inv : W → (Nat → S) → Prop) : Prop :=
  KeptWhile (fun _ => True) t m inv

/-- Every permitted call of a thread keeps the invariant where the world and the
states of the threads fit. -/
def KeptWhere (fits : W → (Nat → S) → Prop) (t : Nat → Protocol E R S) (m : Machine E R W C)
    (inv : W → (Nat → S) → Prop) : Prop :=
  ∀ world states index effect choice, inv world states → fits world states →
    (t index).law (states index) effect →
      inv (m.answer effect world choice).2 (Function.update states index
        ((t index).next (states index) effect (m.answer effect world choice).1))

/-- Every permitted call of a thread that fits the world, the states of the threads
and the choice keeps the invariant. -/
def KeptAt (fits : W → (Nat → S) → Nat → E → C → Prop) (t : Nat → Protocol E R S)
    (m : Machine E R W C) (inv : W → (Nat → S) → Prop) : Prop :=
  ∀ world states index effect choice, inv world states → fits world states index effect choice →
    (t index).law (states index) effect →
      inv (m.answer effect world choice).2 (Function.update states index
        ((t index).next (states index) effect (m.answer effect world choice).1))

theorem step_at {fits : W → (Nat → S) → Nat → E → C → Prop} (kept : KeptAt fits t m inv)
    (attends : Attends t inv post states pool) (turn : Nat × C)
    (fit : ∀ effect next, pool.threads[turn.1]? = some (.call effect next) →
      fits pool.world states turn.1 effect turn.2) :
    Attends t inv post (fun index => (t index).after (states index) (pool.spoken m turn index))
      (pool.step m turn) := by
  by_cases speaks : ∃ effect next, pool.threads[turn.1]? = some (.call effect next)
  · obtain ⟨effect, next, found⟩ := speaks
    have followed := attends.follows turn.1 _ found
    have moved : (fun index => (t index).after (states index) (pool.spoken m turn index)) =
        Function.update states turn.1
          ((t turn.1).next (states turn.1) effect (m.answer effect pool.world turn.2).1) := by
      funext index
      by_cases mine : index = turn.1
      · subst mine
        rw [Pool.spoken_call found, Function.update_self]
        rfl
      · rw [Pool.spoken_other mine, Function.update_of_ne mine]
        rfl
    rw [moved, Pool.step_call found]
    refine ⟨kept _ _ _ _ _ attends.inv (fit effect next found) followed.1, ?_⟩
    intro index p present
    by_cases mine : index = turn.1
    · subst mine
      rw [List.getElem?_set_self (List.getElem?_eq_some_iff.mp found).1] at present
      cases present
      rw [Function.update_self]
      exact followed.2 _
    · rw [List.getElem?_set_ne (Ne.symm mine)] at present
      rw [Function.update_of_ne mine]
      exact attends.follows index p present
  · have idle : ∀ effect next, pool.threads[turn.1]? ≠ some (.call effect next) :=
      fun effect next found => speaks ⟨effect, next, found⟩
    have still : (fun index => (t index).after (states index) (pool.spoken m turn index)) =
        states := by
      funext index
      rw [Pool.spoken_idle idle]
      rfl
    rw [still, Pool.step_idle idle]
    exact attends

theorem step_where {fits : W → (Nat → S) → Prop} (kept : KeptWhere fits t m inv)
    (fit : fits pool.world states) (attends : Attends t inv post states pool) (turn : Nat × C) :
    Attends t inv post (fun index => (t index).after (states index) (pool.spoken m turn index))
      (pool.step m turn) := by
  have keptAt : KeptAt (fun w states _ _ _ => fits w states) t m inv := kept
  exact attends.step_at keptAt turn fun _ _ _ => fit

theorem step {fits : (Nat → S) → Prop} (kept : KeptWhile fits t m inv) (fit : fits states)
    (attends : Attends t inv post states pool) (turn : Nat × C) :
    Attends t inv post (fun index => (t index).after (states index) (pool.spoken m turn index))
      (pool.step m turn) :=
  attends.step_where (show KeptWhere (fun _ => fits) t m inv from kept) fit turn

theorem after_cons_turn (t : Nat → Protocol E R S) (m : Machine E R W C) (states : Nat → S)
    (pool : Pool E R W α) (turn : Nat × C) (rest : List (Nat × C)) :
    (fun index => (t index).after (states index) (pool.transcript m (turn :: rest) index)) =
      fun index => (t index).after
        ((t index).after (states index) (pool.spoken m turn index))
        ((pool.step m turn).transcript m rest index) := by
  funext index
  exact List.foldl_append

/-- A run whose calls all fit where they are made. -/
theorem run_at {fits : W → (Nat → S) → Nat → E → C → Prop} (kept : KeptAt fits t m inv)
    (attends : Attends t inv post states pool) (schedule : List (Nat × C))
    (fit : ∀ front turn, front ++ [turn] <+: schedule → ∀ effect next,
      (pool.run m front).threads[turn.1]? = some (.call effect next) →
        fits (pool.run m front).world
          (fun index => (t index).after (states index) (pool.transcript m front index))
          turn.1 effect turn.2) :
    Attends t inv post
      (fun index => (t index).after (states index) (pool.transcript m schedule index))
      (pool.run m schedule) := by
  induction schedule generalizing states pool with
  | nil => exact attends
  | cons turn rest ih =>
      rw [after_cons_turn]
      have first := fit [] turn (List.cons_prefix_cons.mpr ⟨rfl, List.nil_prefix⟩)
      apply ih (attends.step_at kept turn first)
      intro front later before
      have onward := fit (turn :: front) later (List.cons_prefix_cons.mpr ⟨rfl, before⟩)
      rw [after_cons_turn] at onward
      exact onward

/-- A run whose worlds and states fit before every turn. -/
theorem run_where {fits : W → (Nat → S) → Prop} (kept : KeptWhere fits t m inv)
    (attends : Attends t inv post states pool) (schedule : List (Nat × C))
    (fit : ∀ turns, fits (pool.run m (schedule.take turns)).world fun index =>
      (t index).after (states index) (pool.transcript m (schedule.take turns) index)) :
    Attends t inv post
      (fun index => (t index).after (states index) (pool.transcript m schedule index))
      (pool.run m schedule) := by
  induction schedule generalizing states pool with
  | nil => exact attends
  | cons turn rest ih =>
      rw [after_cons_turn]
      apply ih (attends.step_where kept (fit 0) turn)
      intro turns
      have later := fit (turns + 1)
      rw [List.take_succ_cons, after_cons_turn] at later
      exact later

/-- A run whose states fit before every turn. -/
theorem run_while {fits : (Nat → S) → Prop} (kept : KeptWhile fits t m inv)
    (attends : Attends t inv post states pool) (schedule : List (Nat × C))
    (fit : ∀ turns, fits fun index =>
      (t index).after (states index) (pool.transcript m (schedule.take turns) index)) :
    Attends t inv post
      (fun index => (t index).after (states index) (pool.transcript m schedule index))
      (pool.run m schedule) :=
  attends.run_where (show KeptWhere (fun _ => fits) t m inv from kept) schedule fit

theorem run (kept : Kept t m inv) (attends : Attends t inv post states pool)
    (schedule : List (Nat × C)) :
    Attends t inv post
      (fun index => (t index).after (states index) (pool.transcript m schedule index))
      (pool.run m schedule) :=
  attends.run_while kept schedule fun _ => trivial

/-- Every exchange of a run was permitted where it took place. -/
theorem said (kept : Kept t m inv) (attends : Attends t inv post states pool)
    {schedule : List (Nat × C)} {index : Nat} {exchange : Exchange E R}
    (member : exchange ∈ pool.transcript m schedule index) :
    ∃ world states, inv world states ∧ (t index).law (states index) exchange.1 := by
  induction schedule generalizing states pool with
  | nil => cases member
  | cons turn rest ih =>
      rcases List.mem_append.mp member with now | later
      · by_cases mine : index = turn.1
        · subst mine
          by_cases speaks : ∃ effect next, pool.threads[turn.1]? = some (.call effect next)
          · obtain ⟨effect, next, found⟩ := speaks
            rw [Pool.spoken_call found, List.mem_singleton] at now
            subst now
            exact ⟨_, _, attends.inv, (attends.follows _ _ found).1⟩
          · rw [Pool.spoken_idle fun effect next found => speaks ⟨effect, next, found⟩] at now
            cases now
        · rw [Pool.spoken_other mine] at now
          cases now
      · exact ih (attends.step kept trivial turn) later

theorem returned (attends : Attends t inv post states pool) {index : Nat} {value : α}
    (ended : pool.result index = some value) : post index value (states index) :=
  attends.follows index _ (Pool.result_eq_some.mp ended)

end Attends

end Resumption
