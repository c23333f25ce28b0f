import NousKernel.Resumption

/-!
Protocols on the calls of a program: a state that every call and its answer move,
and a law that says which calls a state permits. A program follows a protocol
whatever the answers are, so the law holds along every path through it, in every
world and in any company.
-/

set_option autoImplicit false

namespace Resumption

variable {E : Type} {R : E → Type} {S T α β W C : Type}

/-- A call of a program with its answer. -/
abbrev Exchange (E : Type) (R : E → Type) : Type := (effect : E) × R effect

/-- The exchanges of a program from its start, up to any point. -/
inductive Prog.Path : Prog E R α → List (Exchange E R) → Prop
  | nil (p : Prog E R α) : Path p []
  | cons (effect : E) (next : R effect → Prog E R α) (answer : R effect)
      (rest : List (Exchange E R)) (path : Path (next answer) rest) :
      Path (.call effect next) (⟨effect, answer⟩ :: rest)

/-- The exchanges of a run. -/
def Prog.exchanges (m : Machine E R W C) : Prog E R α → W → List C → List (Exchange E R)
  | .done _, _, _ => []
  | .call _ _, _, [] => []
  | .call effect next, world, choice :: choices =>
      ⟨effect, (m.answer effect world choice).1⟩ ::
        (next (m.answer effect world choice).1).exchanges m (m.answer effect world choice).2 choices

theorem Prog.exchanges_path (m : Machine E R W C) (p : Prog E R α) (world : W)
    (choices : List C) : p.Path (p.exchanges m world choices) := by
  induction p generalizing world choices with
  | done value => exact .nil _
  | call effect next ih =>
      cases choices with
      | nil => exact .nil _
      | cons choice choices => exact .cons effect next _ _ (ih _ _ choices)

structure Protocol (E : Type) (R : E → Type) (S : Type) where
  law : S → E → Prop
  next : S → (effect : E) → R effect → S

namespace Protocol

/-- Every call the program can reach is permitted in the state it is made in, and
every value it can return satisfies the postcondition in the last state. -/
def Follows (t : Protocol E R S) (post : α → S → Prop) : Prog E R α → S → Prop
  | .done value, state => post value state
  | .call effect next, state => t.law state effect ∧
      ∀ answer, Follows t post (next answer) (t.next state effect answer)

/-- The state after some exchanges. -/
def after (t : Protocol E R S) (state : S) (trace : List (Exchange E R)) : S :=
  trace.foldl (fun state exchange => t.next state exchange.1 exchange.2) state

variable {t : Protocol E R S}

theorem after_append (state : S) (trace : List (Exchange E R)) (exchange : Exchange E R) :
    t.after state (trace ++ [exchange]) =
      t.next (t.after state trace) exchange.1 exchange.2 := by
  unfold after
  rw [List.foldl_append]
  rfl

theorem Follows.mono {post post' : α → S → Prop} {p : Prog E R α} {state : S}
    (follows : t.Follows post p state) (weaker : ∀ value last, post value last → post' value last) :
    t.Follows post' p state := by
  induction p generalizing state with
  | done value => exact weaker value state follows
  | call effect next ih => exact ⟨follows.1, fun answer => ih answer (follows.2 answer)⟩

theorem Follows.bind {post : β → S → Prop} {p : Prog E R α} {f : α → Prog E R β} {state : S}
    (follows : t.Follows (fun value last => t.Follows post (f value) last) p state) :
    t.Follows post (p >>= f) state := by
  induction p generalizing state with
  | done value => exact follows
  | call effect next ih => exact ⟨follows.1, fun answer => ih answer (follows.2 answer)⟩

theorem Follows.bindExcept {ε : Type} {post : Except ε β → S → Prop}
    {x : ExceptT ε (Prog E R) α} {f : α → ExceptT ε (Prog E R) β} {state : S}
    (follows : t.Follows (fun outcome last =>
      match outcome with
      | .ok value => t.Follows post (f value).run last
      | .error reason => post (.error reason) last) x.run state) :
    t.Follows post (x >>= f).run state := by
  rw [ExceptT.run_bind]
  apply Follows.bind
  apply follows.mono
  intro outcome last ending
  cases outcome with
  | ok value => exact ending
  | error reason => exact ending

theorem Follows.bindLift {ε : Type} {post : Except ε β → S → Prop} {p : Prog E R α}
    {f : α → ExceptT ε (Prog E R) β} {state : S}
    (follows : t.Follows (fun value last => t.Follows post (f value).run last) p state) :
    t.Follows post (ExceptT.lift p >>= f).run state := by
  apply Follows.bindExcept
  rw [ExceptT.run_lift, map_eq_pure_bind]
  exact Follows.bind (follows.mono fun _ _ => id)

/-- A program whose calls are all permitted and leave the state alone. -/
theorem Follows.of_calls {honest : (effect : E) → R effect → Prop} {Mine : E → Prop}
    {post : α → Prop} {p : Prog E R α} {state : S} (calls : p.Calls honest Mine post)
    (every : ∀ effect answer, honest effect answer)
    (neutral : ∀ effect, Mine effect → t.law state effect ∧
      ∀ answer, t.next state effect answer = state) :
    t.Follows (fun value last => post value ∧ last = state) p state := by
  induction p with
  | done value => exact ⟨calls, rfl⟩
  | call effect next ih =>
      obtain ⟨permitted, still⟩ := neutral effect calls.1
      refine ⟨permitted, fun answer => ?_⟩
      rw [still answer]
      exact ih answer (calls.2 answer (every effect answer))

/-- A program that follows one protocol follows another whose states keep up. -/
theorem Follows.simulate (t' : Protocol E R T) (keeps : S → T → Prop)
    (step : ∀ state other effect, keeps state other → t.law state effect →
      t'.law other effect ∧
        ∀ answer, keeps (t.next state effect answer) (t'.next other effect answer))
    {post : α → S → Prop} {p : Prog E R α} {state : S} {other : T}
    (follows : t.Follows post p state) (kept : keeps state other) :
    t'.Follows (fun value last => ∃ first, keeps first last ∧ post value first) p other := by
  induction p generalizing state other with
  | done value => exact ⟨state, kept, follows⟩
  | call effect next ih =>
      obtain ⟨permitted, onward⟩ := step state other effect kept follows.1
      exact ⟨permitted, fun answer => ih answer (follows.2 answer) (onward answer)⟩

/-- The program follows the protocol from every state. -/
def Permits (t : Protocol E R S) (p : Prog E R α) : Prop :=
  ∀ state, t.Follows (fun _ _ => True) p state

theorem Permits.bind {p : Prog E R α} {f : α → Prog E R β} (first : t.Permits p)
    (rest : ∀ value, t.Permits (f value)) : t.Permits (p >>= f) :=
  fun state => Follows.bind ((first state).mono fun value last _ => rest value last)

theorem Permits.bindExcept {ε : Type} {x : ExceptT ε (Prog E R) α}
    {f : α → ExceptT ε (Prog E R) β} (first : t.Permits x.run)
    (rest : ∀ value, t.Permits (f value).run) : t.Permits (x >>= f).run := by
  intro state
  apply Follows.bindExcept
  apply (first state).mono
  intro outcome last _
  cases outcome with
  | ok value => exact rest value last
  | error reason => trivial

theorem Permits.bindLift {ε : Type} {p : Prog E R α} {f : α → ExceptT ε (Prog E R) β}
    (first : t.Permits p) (rest : ∀ value, t.Permits (f value).run) :
    t.Permits (ExceptT.lift p >>= f).run :=
  fun state => Follows.bindLift ((first state).mono fun value last _ => rest value last)

/-- A program whose calls are permitted in every state. -/
theorem Permits.of_calls {honest : (effect : E) → R effect → Prop} {Mine : E → Prop}
    {post : α → Prop} {p : Prog E R α} (calls : p.Calls honest Mine post)
    (every : ∀ effect answer, honest effect answer)
    (lawful : ∀ state effect, Mine effect → t.law state effect) : t.Permits p := by
  induction p with
  | done value => exact fun _ => trivial
  | call effect next ih =>
      intro state
      refine ⟨lawful state effect calls.1, fun answer => ?_⟩
      exact ih answer (calls.2 answer (every effect answer)) _

/-- The law holds along every path. -/
theorem Follows.path {post : α → S → Prop} {p : Prog E R α} {state : S}
    {before after : List (Exchange E R)} {exchange : Exchange E R}
    (follows : t.Follows post p state) (path : p.Path (before ++ exchange :: after)) :
    t.law (t.after state before) exchange.1 := by
  induction before generalizing p state with
  | nil =>
      cases path with
      | cons effect next answer rest path => exact follows.1
  | cons first rest ih =>
      cases path with
      | cons effect next answer rest path => exact ih (follows.2 answer) path

/-- What the permitted calls of a program keep of a world that its state keeps
track of, an interrupted or finished run keeps. -/
theorem Follows.run {m : Machine E R W C} {inv : W → Prop} {tracks : S → W → Prop}
    (step : ∀ state effect world choice, inv world → tracks state world → t.law state effect →
      inv (m.answer effect world choice).2 ∧
        tracks (t.next state effect (m.answer effect world choice).1)
          (m.answer effect world choice).2)
    {post : α → S → Prop} {p : Prog E R α} {state : S} {world : W}
    (follows : t.Follows post p state) (holds : inv world) (tracked : tracks state world)
    (choices : List C) : inv (p.run m world choices).2 := by
  induction p generalizing state world choices with
  | done value => exact holds
  | call effect next ih =>
      cases choices with
      | nil => exact holds
      | cons choice choices =>
          obtain ⟨still, along⟩ := step state effect world choice holds tracked follows.1
          exact ih _ (follows.2 _) still along choices

end Protocol

end Resumption
