import NousKernel.Resumption

/-!
Several programs on one world. A schedule says whose turn it is and what the
environment chooses. Each program is safe in its own discipline, and what one may
do the others put up with: then every schedule keeps the invariant, and every
program that has returned satisfies its postcondition.
-/

set_option autoImplicit false

namespace Resumption

variable {E : Type} {R : E → Type} {α W C : Type}

/-- What is left of a program after some calls, and the world it leaves. -/
def Prog.advance (m : Machine E R W C) : Prog E R α → W → List C → Prog E R α × W
  | .call effect next, world, choice :: choices =>
      (next (m.answer effect world choice).1).advance m (m.answer effect world choice).2 choices
  | p, world, _ => (p, world)

theorem Prog.advance_world (m : Machine E R W C) (p : Prog E R α) (world : W)
    (choices : List C) : (p.advance m world choices).2 = (p.run m world choices).2 := by
  induction p generalizing world choices with
  | done value => rfl
  | call effect next ih =>
      cases choices with
      | nil => rfl
      | cons choice choices => exact ih _ _ choices

structure Pool (E : Type) (R : E → Type) (W α : Type) where
  world : W
  threads : List (Prog E R α)

namespace Pool

/-- One call of one thread. The turn of a thread that has returned is idle. -/
def step (m : Machine E R W C) (pool : Pool E R W α) (turn : Nat × C) : Pool E R W α :=
  match pool.threads[turn.1]? with
  | some (.call effect next) =>
      { world := (m.answer effect pool.world turn.2).2
        threads := pool.threads.set turn.1 (next (m.answer effect pool.world turn.2).1) }
  | _ => pool

def run (m : Machine E R W C) (pool : Pool E R W α) (schedule : List (Nat × C)) : Pool E R W α :=
  schedule.foldl (step m) pool

/-- Every call of the run satisfies a condition on the call, the world it meets
and the choice. -/
def Along (m : Machine E R W C) (fits : E → W → C → Prop) :
    Pool E R W α → List (Nat × C) → Prop
  | _, [] => True
  | pool, turn :: rest =>
      (∀ effect next, pool.threads[turn.1]? = some (.call effect next) →
        fits effect pool.world turn.2) ∧ Along m fits (pool.step m turn) rest

/-- The value a thread has returned. -/
def result (pool : Pool E R W α) (index : Nat) : Option α :=
  match pool.threads[index]? with
  | some (.done value) => some value
  | _ => none

section Turns

variable {m : Machine E R W C} {pool : Pool E R W α}

theorem result_eq_some {index : Nat} {value : α} :
    pool.result index = some value ↔ pool.threads[index]? = some (.done value) := by
  unfold result
  split
  · rename_i found
    rw [found]
    simp
  · rename_i other
    constructor
    · intro absent
      cases absent
    · exact fun found => absurd found (other value)

theorem step_call {turn : Nat × C} {effect : E} {next : R effect → Prog E R α}
    (found : pool.threads[turn.1]? = some (.call effect next)) :
    pool.step m turn =
      { world := (m.answer effect pool.world turn.2).2
        threads := pool.threads.set turn.1 (next (m.answer effect pool.world turn.2).1) } := by
  unfold step
  rw [found]

theorem step_length (turn : Nat × C) :
    (pool.step m turn).threads.length = pool.threads.length := by
  unfold step
  split
  · exact List.length_set
  · rfl

theorem run_length (schedule : List (Nat × C)) :
    (pool.run m schedule).threads.length = pool.threads.length := by
  induction schedule generalizing pool with
  | nil => rfl
  | cons turn rest ih =>
      show ((pool.step m turn).run m rest).threads.length = pool.threads.length
      rw [ih, step_length]

theorem step_thread (turn : Nat × C) (index : Nat) :
    (pool.step m turn).threads[index]? =
      if index = turn.1 then
        match pool.threads[index]? with
        | some (.call effect next) => some (next (m.answer effect pool.world turn.2).1)
        | other => other
      else pool.threads[index]? := by
  by_cases mine : index = turn.1
  · subst mine
    rw [if_pos rfl]
    unfold step
    split
    · rename_i found
      exact List.getElem?_set_self (List.getElem?_eq_some_iff.mp found).1
    · rfl
  · rw [if_neg mine]
    unfold step
    split
    · exact List.getElem?_set_ne (Ne.symm mine)
    · rfl

theorem result_step {index : Nat} {value : α} (returned : pool.result index = some value)
    (turn : Nat × C) : (pool.step m turn).result index = some value := by
  rw [result_eq_some] at returned ⊢
  rw [step_thread, returned]
  split <;> rfl

/-- What a thread has returned it has returned for good. -/
theorem result_run {index : Nat} {value : α} (returned : pool.result index = some value)
    (schedule : List (Nat × C)) : (pool.run m schedule).result index = some value := by
  induction schedule generalizing pool with
  | nil => exact returned
  | cons turn rest ih => exact ih (result_step returned turn)

/-- A run in which one thread has all the turns. -/
theorem run_alone {index : Nat} {p : Prog E R α} (found : pool.threads[index]? = some p)
    (choices : List C) :
    pool.run m (choices.map fun choice => (index, choice)) =
      { world := (p.advance m pool.world choices).2
        threads := pool.threads.set index (p.advance m pool.world choices).1 } := by
  have inside := (List.getElem?_eq_some_iff.mp found).1
  have same : pool.threads.set index p = pool.threads := by
    apply List.ext_getElem?
    intro other
    by_cases mine : other = index
    · subst mine
      rw [List.getElem?_set_self inside, found]
    · rw [List.getElem?_set_ne (Ne.symm mine)]
  induction choices generalizing pool p with
  | nil =>
      cases p with
      | done value => simp [run, Prog.advance, same]
      | call effect next => simp [run, Prog.advance, same]
  | cons choice choices ih =>
      cases p with
      | done value =>
          have idle : pool.step m (index, choice) = pool := by
            unfold step
            rw [found]
          show (pool.step m (index, choice)).run m _ = _
          rw [idle, ih found inside same]
          cases choices with
          | nil => rfl
          | cons => rfl
      | call effect next =>
          show (pool.step m (index, choice)).run m _ = _
          rw [step_call found]
          rw [ih (List.getElem?_set_self inside) (by simpa using inside) (by simp)]
          simp [Prog.advance]

/-- A run that starts with some turns of one thread. -/
theorem run_turns {index : Nat} {p q : Prog E R α} {later : W} {choices : List C}
    (found : pool.threads[index]? = some p)
    (alone : p.advance m pool.world choices = (q, later)) (rest : List (Nat × C)) :
    pool.run m (choices.map (fun choice => (index, choice)) ++ rest) =
      Pool.run m ⟨later, pool.threads.set index q⟩ rest := by
  have first := run_alone (m := m) found choices
  rw [alone] at first
  rw [run, List.foldl_append]
  exact congrArg (fun pool => Pool.run m pool rest) first

/-- Threads that each keep to calls of their own, as long as the answers are honest: where
these calls keep an invariant that makes the answers honest, every schedule keeps it. -/
theorem run_calls {inv : W → Prop} {allow : E → W → C → Prop} {post : Nat → α → Prop}
    {honest : Nat → (effect : E) → R effect → Prop} {Mine : Nat → E → Prop}
    (keeps : ∀ index effect world choice, Mine index effect → inv world →
      allow effect world choice → honest index effect (m.answer effect world choice).1 ∧
        inv (m.answer effect world choice).2)
    {schedule : List (Nat × C)} (along : pool.Along m allow schedule) (start : inv pool.world)
    (calls : ∀ index (p : Prog E R α), pool.threads[index]? = some p →
      p.Calls (honest index) (Mine index) (post index)) :
    inv (pool.run m schedule).world := by
  induction schedule generalizing pool with
  | nil => exact start
  | cons turn rest ih =>
      obtain ⟨allowed, later⟩ := along
      cases found : pool.threads[turn.1]? with
      | none =>
          have idle : pool.step m turn = pool := by simp only [step, found]
          rw [idle] at later
          simpa only [run, List.foldl_cons, idle] using ih later start calls
      | some thread =>
          cases thread with
          | done value =>
              have idle : pool.step m turn = pool := by simp only [step, found]
              rw [idle] at later
              simpa only [run, List.foldl_cons, idle] using ih later start calls
          | call effect next =>
              obtain ⟨mine, goesOn⟩ := calls turn.1 _ found
              obtain ⟨fair, kept⟩ := keeps turn.1 effect pool.world turn.2 mine start
                (allowed effect next found)
              refine ih later (by rwa [step_call found]) ?_
              intro index p present
              rw [step_thread] at present
              by_cases same : index = turn.1
              · subst same
                rw [if_pos rfl, found] at present
                cases present
                exact goesOn _ fair
              · rw [if_neg same] at present
                exact calls index p present

/-- Where every answer is honest, the threads' own calls tell what holds along a run. -/
theorem along_calls {allow : E → W → C → Prop} {post : α → Prop}
    {honest : (effect : E) → R effect → Prop} {Mine : E → Prop}
    (fair : ∀ effect world choice, honest effect (m.answer effect world choice).1)
    {schedule : List (Nat × C)}
    (calls : ∀ (index : Nat) (p : Prog E R α), pool.threads[index]? = some p →
      p.Calls honest Mine post)
    (allowed : ∀ turn ∈ schedule, ∀ effect world, Mine effect → allow effect world turn.2) :
    pool.Along m allow schedule := by
  induction schedule generalizing pool with
  | nil => trivial
  | cons turn rest ih =>
      constructor
      · intro effect next found
        exact allowed turn (.head _) effect pool.world (calls turn.1 _ found).1
      · refine ih ?_ fun later member => allowed later (.tail _ member)
        intro index p present
        rw [step_thread] at present
        by_cases same : index = turn.1
        · rw [if_pos same] at present
          cases found : pool.threads[index]? with
          | none => simp [found] at present
          | some thread =>
              rw [found] at present
              cases thread with
              | done value =>
                  cases present
                  exact calls index _ found
              | call effect next =>
                  cases present
                  exact (calls index _ found).2 _ (fair effect pool.world turn.2)
        · rw [if_neg same] at present
          exact calls index p present

end Turns

end Pool

/-- Programs of one machine that share an invariant. -/
structure Company (E : Type) (R : E → Type) (W C : Type) where
  machine : Machine E R W C
  inv : W → Prop
  allow : E → W → C → Prop
  rely : Nat → W → W → Prop
  guar : Nat → W → W → Prop

namespace Company

variable (c : Company E R W C)

/-- The discipline of one member. -/
def member (index : Nat) : Discipline E R W C where
  machine := c.machine
  inv := c.inv
  allow := c.allow
  rely := c.rely index
  guar := c.guar index

/-- What one member may do, the others put up with. -/
structure Tolerant : Prop where
  quiet : ∀ index, (c.member index).Interference
  apart : ∀ index other, index ≠ other → ∀ a b, c.guar index a b → c.rely other a b

/-- The invariant holds and every thread is safe in its discipline. -/
structure Holds (post : Nat → α → W → Prop) (pool : Pool E R W α) : Prop where
  inv : c.inv pool.world
  safe : ∀ index p, pool.threads[index]? = some p →
    (c.member index).Safe (post index) p pool.world

variable {c} {post : Nat → α → W → Prop} {pool : Pool E R W α}

theorem Holds.step (tolerant : c.Tolerant) (holds : c.Holds post pool) {turn : Nat × C}
    (allowed : ∀ effect, c.allow effect pool.world turn.2) :
    c.Holds post (pool.step c.machine turn) := by
  unfold Pool.step
  split
  · rename_i effect next found
    obtain ⟨after, kept, rest⟩ := holds.safe turn.1 _ found pool.world
      ((tolerant.quiet turn.1).refl _) holds.inv turn.2 (allowed effect)
    refine ⟨after, fun index p present => ?_⟩
    by_cases same : index = turn.1
    · subst same
      rw [List.getElem?_set_self (List.getElem?_eq_some_iff.mp found).1] at present
      cases present
      exact rest
    · rw [List.getElem?_set_ne (Ne.symm same)] at present
      exact (holds.safe index p present).rely (tolerant.quiet index)
        (tolerant.apart turn.1 index (Ne.symm same) _ _ kept)
  · exact holds

theorem Holds.run (tolerant : c.Tolerant) (holds : c.Holds post pool) (schedule : List (Nat × C))
    (allowed : ∀ turn ∈ schedule, ∀ effect world, c.allow effect world turn.2) :
    c.Holds post (pool.run c.machine schedule) := by
  induction schedule generalizing pool with
  | nil => exact holds
  | cons turn rest ih =>
      exact ih (holds.step tolerant fun effect => allowed turn (.head _) effect _)
        fun other member => allowed other (.tail _ member)

/-- A thread that has returned satisfies its postcondition. -/
theorem Holds.returned (tolerant : c.Tolerant) (holds : c.Holds post pool) {index : Nat} {value : α}
    (returned : pool.result index = some value) : post index value pool.world := by
  unfold Pool.result at returned
  split at returned
  · rename_i result found
    cases returned
    exact holds.safe index _ found pool.world ((tolerant.quiet index).refl _) holds.inv
  · cases returned

end Company

end Resumption
