import Mathlib.Logic.Relation

/-!
Programs as trees of calls, the machine that answers the calls, and the
discipline under which a program is safe: the invariant of the world, what other
parties may do between two of its calls, what one of its own calls may do, and
what holds when it returns. A crash needs no construct of its own. It is a run
whose choices end before the program does.
-/

set_option autoImplicit false

namespace Resumption

/-- A finite-depth program: it returns, or makes one call and continues with the
answer. -/
inductive Prog (E : Type) (R : E → Type) (α : Type) where
  | done (value : α)
  | call (effect : E) (next : R effect → Prog E R α)

variable {E : Type} {R : E → Type} {α β W C : Type}

namespace Prog

def bind (p : Prog E R α) (f : α → Prog E R β) : Prog E R β :=
  match p with
  | .done value => f value
  | .call effect next => .call effect (fun answer => (next answer).bind f)

instance : Monad (Prog E R) where
  pure := .done
  bind := Prog.bind

/-- The program that makes one call and returns its answer. -/
def perform (effect : E) : Prog E R (R effect) := .call effect .done

@[simp] theorem pure_eq (value : α) : (pure value : Prog E R α) = .done value := rfl

@[simp] theorem done_bind (value : α) (f : α → Prog E R β) :
    (Prog.done value >>= f) = f value := rfl

@[simp] theorem call_bind (effect : E) (next : R effect → Prog E R α) (f : α → Prog E R β) :
    (Prog.call effect next >>= f) = .call effect (fun answer => next answer >>= f) := rfl

@[simp] theorem perform_bind (effect : E) (f : R effect → Prog E R β) :
    (perform effect >>= f) = .call effect f := rfl

theorem bind_done (p : Prog E R α) : (p >>= fun value => Prog.done value) = p := by
  induction p with
  | done value => rfl
  | call effect next ih => exact congrArg (Prog.call effect) (funext ih)

theorem bind_assoc {γ : Type} (p : Prog E R α) (f : α → Prog E R β) (g : β → Prog E R γ) :
    (p >>= f >>= g) = (p >>= fun value => f value >>= g) := by
  induction p with
  | done value => rfl
  | call effect next ih => exact congrArg (Prog.call effect) (funext ih)

instance : LawfulMonad (Prog E R) :=
  LawfulMonad.mk' (Prog E R) bind_done (fun _ _ => rfl) bind_assoc

end Prog

/-- The world answers a call under a choice of the environment. -/
structure Machine (E : Type) (R : E → Type) (W C : Type) where
  answer : (effect : E) → W → C → R effect × W

namespace Prog

/-- Run under a list of choices, one for each call. A run whose choices end
first is interrupted: it has no result, only the world it left behind. -/
def run (m : Machine E R W C) : Prog E R α → W → List C → Option (α × List C) × W
  | .done value, world, choices => (some (value, choices), world)
  | .call _ _, world, [] => (none, world)
  | .call effect next, world, choice :: choices =>
      (next (m.answer effect world choice).1).run m (m.answer effect world choice).2 choices

/-- Run to the end under a strategy that picks each choice. -/
def runWith (m : Machine E R W C) (pick : E → W → C) : Prog E R α → W → α × W
  | .done value, world => (value, world)
  | .call effect next, world =>
      (next (m.answer effect world (pick effect world)).1).runWith m pick
        (m.answer effect world (pick effect world)).2

variable (m : Machine E R W C)

@[simp] theorem runWith_done (pick : E → W → C) (value : α) (world : W) :
    (Prog.done value : Prog E R α).runWith m pick world = (value, world) := rfl

@[simp] theorem runWith_call (pick : E → W → C) (effect : E)
    (next : R effect → Prog E R α) (world : W) :
    (Prog.call effect next).runWith m pick world =
      (next (m.answer effect world (pick effect world)).1).runWith m pick
        (m.answer effect world (pick effect world)).2 := rfl

theorem run_bind (p : Prog E R α) (f : α → Prog E R β) (world : W) (choices : List C) :
    (p >>= f).run m world choices =
      match p.run m world choices with
      | (some (value, rest), later) => (f value).run m later rest
      | (none, later) => (none, later) := by
  induction p generalizing world choices with
  | done value => rfl
  | call effect next ih =>
      cases choices with
      | nil => rfl
      | cons choice choices => exact ih _ _ _

theorem run_bindExcept {ε : Type} (x : ExceptT ε (Prog E R) α)
    (f : α → ExceptT ε (Prog E R) β) (world : W) (choices : List C) :
    (x >>= f).run.run m world choices =
      match x.run.run m world choices with
      | (some (.ok value, rest), later) => (f value).run.run m later rest
      | (some (.error reason, rest), later) => (some (.error reason, rest), later)
      | (none, later) => (none, later) := by
  rw [ExceptT.run_bind, run_bind]
  obtain ⟨ending, later⟩ := x.run.run m world choices
  rcases ending with _ | ⟨outcome, rest⟩
  · rfl
  · cases outcome with
    | ok value => rfl
    | error reason => rfl

/-- A run that ends went through its first part. -/
theorem run_bind_some {p : Prog E R α} {f : α → Prog E R β} {world later : W}
    {choices rest : List C} {value : β}
    (ran : (p >>= f).run m world choices = (some (value, rest), later)) :
    ∃ first between mid, p.run m world choices = (some (first, between), mid) ∧
      (f first).run m mid between = (some (value, rest), later) := by
  rw [run_bind] at ran
  generalize p.run m world choices = ended at ran
  obtain ⟨_ | ⟨first, between⟩, mid⟩ := ended
  · cases ran
  · exact ⟨first, between, mid, rfl, ran⟩

/-- A fallible run that ends well went well through its first part. -/
theorem run_bindExcept_ok {ε : Type} {x : ExceptT ε (Prog E R) α}
    {f : α → ExceptT ε (Prog E R) β} {world later : W} {choices rest : List C} {value : β}
    (ran : (x >>= f).run.run m world choices = (some (.ok value, rest), later)) :
    ∃ first between mid, x.run.run m world choices = (some (.ok first, between), mid) ∧
      (f first).run.run m mid between = (some (.ok value, rest), later) := by
  rw [run_bindExcept] at ran
  generalize x.run.run m world choices = ended at ran
  obtain ⟨_ | ⟨error | first, between⟩, mid⟩ := ended
  · cases ran
  · cases ran
  · exact ⟨first, between, mid, rfl, ran⟩

/-- A step that cannot fail, and then the rest. -/
theorem run_bindLift_ok {ε : Type} {p : Prog E R α} {f : α → ExceptT ε (Prog E R) β}
    {world later : W} {choices rest : List C} {value : β}
    (ran : (ExceptT.lift p >>= f).run.run m world choices = (some (.ok value, rest), later)) :
    ∃ first between mid, p.run m world choices = (some (first, between), mid) ∧
      (f first).run.run m mid between = (some (.ok value, rest), later) := by
  rw [ExceptT.run_bind_lift] at ran
  exact run_bind_some m ran

/-- The choices that a run leaves are the last of those it got. -/
theorem run_suffix {p : Prog E R α} {world later : W} {choices rest : List C} {value : α}
    (ran : p.run m world choices = (some (value, rest), later)) : rest <:+ choices := by
  induction p generalizing world choices with
  | done result =>
      cases ran
      exact List.suffix_refl _
  | call effect next ih =>
      cases choices with
      | nil => cases ran
      | cons choice choices => exact (ih _ ran).trans (List.suffix_cons choice choices)

/-- Every call of the run is answered under a choice that is allowed. -/
def Meets (allow : E → W → C → Prop) : Prog E R α → W → List C → Prop
  | .done _, _, _ => True
  | .call _ _, _, [] => True
  | .call effect next, world, choice :: choices => allow effect world choice ∧
      (next (m.answer effect world choice).1).Meets allow (m.answer effect world choice).2 choices

instance Meets.decidable (allow : E → W → C → Prop)
    [∀ effect world choice, Decidable (allow effect world choice)] :
    (p : Prog E R α) → (world : W) → (choices : List C) → Decidable (p.Meets m allow world choices)
  | .done _, _, _ => .isTrue trivial
  | .call _ _, _, [] => .isTrue trivial
  | .call effect next, world, choice :: choices =>
      have := Meets.decidable allow (next (m.answer effect world choice).1)
        (m.answer effect world choice).2 choices
      inferInstanceAs (Decidable (_ ∧ _))

theorem Meets.of_all {allow : E → W → C → Prop} (p : Prog E R α) (world : W) (choices : List C)
    (free : ∀ effect world, ∀ choice ∈ choices, allow effect world choice) :
    p.Meets m allow world choices := by
  induction p generalizing world choices with
  | done value => trivial
  | call effect next ih =>
      cases choices with
      | nil => trivial
      | cons choice choices =>
          refine ⟨free effect world choice (.head _), ih _ _ choices ?_⟩
          exact fun effect world other member => free effect world other (.tail _ member)

/-- The two parts of a run. -/
theorem Meets.bind {allow : E → W → C → Prop} {p : Prog E R α} {f : α → Prog E R β} {world : W}
    {choices : List C} (meets : (p >>= f).Meets m allow world choices) :
    p.Meets m allow world choices ∧ ∀ value rest later,
      p.run m world choices = (some (value, rest), later) → (f value).Meets m allow later rest := by
  induction p generalizing world choices with
  | done value =>
      refine ⟨trivial, fun result rest later ran => ?_⟩
      cases ran
      exact meets
  | call effect next ih =>
      cases choices with
      | nil => exact ⟨trivial, fun result rest later ran => by cases ran⟩
      | cons choice choices =>
          obtain ⟨first, second⟩ := ih _ meets.2
          exact ⟨⟨meets.1, first⟩, second⟩

theorem Meets.bindExcept {ε : Type} {allow : E → W → C → Prop} {x : ExceptT ε (Prog E R) α}
    {f : α → ExceptT ε (Prog E R) β} {world : W} {choices : List C}
    (meets : (x >>= f).run.Meets m allow world choices) :
    x.run.Meets m allow world choices ∧ ∀ value rest later,
      x.run.run m world choices = (some (.ok value, rest), later) →
        (f value).run.Meets m allow later rest := by
  rw [ExceptT.run_bind] at meets
  obtain ⟨first, second⟩ := Meets.bind m meets
  exact ⟨first, fun value rest later ran => second (.ok value) rest later ran⟩

/-- A run to the end under a strategy is the run under the choices it makes. -/
theorem run_of_runWith (pick : E → W → C) (p : Prog E R α) (world : W) :
    ∃ choices, (∀ choice ∈ choices, ∃ effect now, choice = pick effect now) ∧
      p.run m world choices =
        (some ((p.runWith m pick world).1, []), (p.runWith m pick world).2) := by
  induction p generalizing world with
  | done value => exact ⟨[], by simp, rfl⟩
  | call effect next ih =>
      obtain ⟨choices, picked, ran⟩ := ih (m.answer effect world (pick effect world)).1
        (m.answer effect world (pick effect world)).2
      refine ⟨pick effect world :: choices, fun choice member => ?_, ran⟩
      rcases List.mem_cons.mp member with rfl | later
      · exact ⟨effect, world, rfl⟩
      · exact picked choice later

theorem runWith_bind (pick : E → W → C) (p : Prog E R α) (f : α → Prog E R β) (world : W) :
    (p >>= f).runWith m pick world =
      (f (p.runWith m pick world).1).runWith m pick (p.runWith m pick world).2 := by
  induction p generalizing world with
  | done value => rfl
  | call effect next ih => exact ih _ _

theorem runWith_bindExcept {ε : Type} (pick : E → W → C) (x : ExceptT ε (Prog E R) α)
    (f : α → ExceptT ε (Prog E R) β) (world : W) :
    (x >>= f).run.runWith m pick world =
      match x.run.runWith m pick world with
      | (.ok value, later) => (f value).run.runWith m pick later
      | (.error reason, later) => (.error reason, later) := by
  rw [ExceptT.run_bind, runWith_bind]
  obtain ⟨outcome, later⟩ := x.run.runWith m pick world
  cases outcome with
  | ok value => rfl
  | error reason => rfl

/-- Every call the program can make is one of `Mine` as long as the answers are
honest, and every value it can then return is one of `post`. -/
def Calls (honest : (effect : E) → R effect → Prop) (Mine : E → Prop) (post : α → Prop) :
    Prog E R α → Prop
  | .done value => post value
  | .call effect next => Mine effect ∧
      ∀ answer, honest effect answer → (next answer).Calls honest Mine post

section Calls

variable {honest : (effect : E) → R effect → Prop} {Mine Mine' : E → Prop}

theorem Calls.mono {post post' : α → Prop} {p : Prog E R α} (calls : p.Calls honest Mine post)
    (more : ∀ effect, Mine effect → Mine' effect) (weaker : ∀ value, post value → post' value) :
    p.Calls honest Mine' post' := by
  induction p with
  | done value => exact weaker value calls
  | call effect next ih =>
      exact ⟨more effect calls.1, fun answer fair => ih answer (calls.2 answer fair)⟩

/-- Answers that satisfy more keep a program within the same calls. -/
theorem Calls.restrict {honest' : (effect : E) → R effect → Prop} {post : α → Prop}
    {p : Prog E R α} (calls : p.Calls honest Mine post)
    (fewer : ∀ effect answer, honest' effect answer → honest effect answer) :
    p.Calls honest' Mine post := by
  induction p with
  | done value => exact calls
  | call effect next ih =>
      exact ⟨calls.1, fun answer fair => ih answer (calls.2 answer (fewer effect answer fair))⟩

/-- It is enough that the program's own calls are answered so. -/
theorem Calls.own {honest' : (effect : E) → R effect → Prop} {post : α → Prop}
    {p : Prog E R α} (calls : p.Calls honest Mine post)
    (fewer : ∀ effect answer, Mine effect → honest' effect answer → honest effect answer) :
    p.Calls honest' Mine post := by
  induction p with
  | done value => exact calls
  | call effect next ih =>
      obtain ⟨mine, goesOn⟩ := calls
      exact ⟨mine, fun answer fair => ih answer (goesOn answer (fewer effect answer mine fair))⟩

theorem Calls.bind {post : β → Prop} {p : Prog E R α} {f : α → Prog E R β}
    (calls : p.Calls honest Mine fun value => (f value).Calls honest Mine post) :
    (p >>= f).Calls honest Mine post := by
  induction p with
  | done value => exact calls
  | call effect next ih =>
      exact ⟨calls.1, fun answer fair => ih answer (calls.2 answer fair)⟩

theorem Calls.bindExcept {ε : Type} {post : Except ε β → Prop}
    {x : ExceptT ε (Prog E R) α} {f : α → ExceptT ε (Prog E R) β}
    (calls : x.run.Calls honest Mine fun outcome =>
      match outcome with
      | .ok value => (f value).run.Calls honest Mine post
      | .error reason => post (.error reason)) :
    (x >>= f).run.Calls honest Mine post := by
  rw [ExceptT.run_bind]
  refine Calls.bind (calls.mono (fun _ => id) ?_)
  intro outcome ending
  cases outcome with
  | ok value => exact ending
  | error reason => exact ending

theorem Calls.bindLift {ε : Type} {post : Except ε β → Prop} {p : Prog E R α}
    {f : α → ExceptT ε (Prog E R) β}
    (calls : p.Calls honest Mine fun value => (f value).run.Calls honest Mine post) :
    (ExceptT.lift p >>= f).run.Calls honest Mine post := by
  refine Calls.bindExcept ?_
  rw [ExceptT.run_lift, map_eq_pure_bind]
  exact Calls.bind (calls.mono (fun _ => id) fun _ => id)

/-- What every call of `Mine` keeps, a run keeps. -/
theorem Calls.runWith {post : α → Prop} {kept : W → Prop} {p : Prog E R α}
    {pick : E → W → C} {world : W} (calls : p.Calls honest Mine post)
    (step : ∀ effect now, Mine effect → kept now →
      honest effect (m.answer effect now (pick effect now)).1 ∧
        kept (m.answer effect now (pick effect now)).2)
    (holds : kept world) :
    post (p.runWith m pick world).1 ∧ kept (p.runWith m pick world).2 := by
  induction p generalizing world with
  | done value => exact ⟨calls, holds⟩
  | call effect next ih =>
      obtain ⟨fair, still⟩ := step effect world calls.1 holds
      exact ih _ (calls.2 _ fair) still

/-- What every call of `Mine` keeps, every world keeps that an interrupted or
finished run leaves. -/
theorem Calls.run (kept : W → Prop) {post : α → Prop} {p : Prog E R α} {world : W}
    {choices : List C} (calls : p.Calls honest Mine post)
    (step : ∀ effect now, ∀ choice ∈ choices, Mine effect → kept now →
      honest effect (m.answer effect now choice).1 ∧ kept (m.answer effect now choice).2)
    (holds : kept world) :
    kept (p.run m world choices).2 ∧
      ∀ value rest, (p.run m world choices).1 = some (value, rest) → post value := by
  induction p generalizing world choices with
  | done value =>
      refine ⟨holds, fun other rest returned => ?_⟩
      cases returned
      exact calls
  | call effect next ih =>
      cases choices with
      | nil => exact ⟨holds, fun _ _ returned => by cases returned⟩
      | cons choice choices =>
          obtain ⟨fair, still⟩ := step effect world choice (.head _) calls.1 holds
          apply ih _ (calls.2 _ fair) _ still
          exact fun effect now other member => step effect now other (.tail _ member)

end Calls

end Prog

/-- What a program may assume and must keep. `inv` holds of the world between
any two calls of any party, `allow` limits the choices of the environment,
`rely` is what the others may do, `guar` what one call of this program may do. -/
structure Discipline (E : Type) (R : E → Type) (W C : Type) where
  machine : Machine E R W C
  inv : W → Prop
  allow : E → W → C → Prop
  rely : W → W → Prop
  guar : W → W → Prop

namespace Discipline

section Safety

variable (d : Discipline E R W C)

/-- Every call the program can reach keeps the invariant and the guarantee, and
every value it can return satisfies the postcondition, whatever the others do
in between. -/
def Safe (post : α → W → Prop) : Prog E R α → W → Prop
  | .done value, world => ∀ later, d.rely world later → d.inv later → post value later
  | .call effect next, world => ∀ now, d.rely world now → d.inv now →
      ∀ choice, d.allow effect now choice →
        d.inv (d.machine.answer effect now choice).2 ∧
          d.guar now (d.machine.answer effect now choice).2 ∧
            Safe post (next (d.machine.answer effect now choice).1)
              (d.machine.answer effect now choice).2

/-- The other parties may be idle, and their steps compose. -/
structure Interference : Prop where
  refl : ∀ world, d.rely world world
  trans : ∀ {a b c}, d.rely a b → d.rely b c → d.rely a c

/-- Nobody else moves the world. -/
def Alone : Prop := ∀ a b, d.rely a b ↔ a = b

end Safety

variable {d : Discipline E R W C}

theorem Safe.mono {post post' : α → W → Prop} {p : Prog E R α} {world : W}
    (safe : d.Safe post p world)
    (weaker : ∀ value later, d.inv later → post value later → post' value later) :
    d.Safe post' p world := by
  induction p generalizing world with
  | done value =>
      intro later step valid
      exact weaker value later valid (safe later step valid)
  | call effect next ih =>
      intro now step valid choice allowed
      obtain ⟨after, kept, rest⟩ := safe now step valid choice allowed
      exact ⟨after, kept, ih _ rest⟩

/-- Safety survives what the others do. -/
theorem Safe.rely {post : α → W → Prop} {p : Prog E R α} {world later : W}
    (quiet : d.Interference) (safe : d.Safe post p world) (step : d.rely world later) :
    d.Safe post p later := by
  cases p with
  | done value => exact fun last next => safe last (quiet.trans step next)
  | call effect next => exact fun last next => safe last (quiet.trans step next)

/-- A world that the others can leave only to safe worlds is safe. -/
theorem Safe.of_rely {post : α → W → Prop} {p : Prog E R α} {world : W}
    (quiet : d.Interference)
    (safe : ∀ later, d.rely world later → d.inv later → d.Safe post p later) :
    d.Safe post p world := by
  cases p with
  | done value => exact fun later step valid => safe later step valid later (quiet.refl later) valid
  | call effect next =>
      exact fun now step valid => safe now step valid now (quiet.refl now) valid

theorem Safe.bind {post : β → W → Prop} {p : Prog E R α} {f : α → Prog E R β} {world : W}
    (quiet : d.Interference)
    (safe : d.Safe (fun value later => d.Safe post (f value) later) p world) :
    d.Safe post (p >>= f) world := by
  induction p generalizing world with
  | done value => exact Safe.of_rely quiet safe
  | call effect next ih =>
      intro now step valid choice allowed
      obtain ⟨after, kept, rest⟩ := safe now step valid choice allowed
      exact ⟨after, kept, ih _ rest⟩

/-- The rule for a fallible step: an error ends the whole program with it. -/
theorem Safe.bindExcept {ε : Type} {post : Except ε β → W → Prop}
    {x : ExceptT ε (Prog E R) α} {f : α → ExceptT ε (Prog E R) β} {world : W}
    (quiet : d.Interference)
    (safe : d.Safe (fun outcome later =>
      match outcome with
      | .ok value => d.Safe post (f value).run later
      | .error reason => d.Safe post (.done (.error reason)) later) x.run world) :
    d.Safe post (x >>= f).run world := by
  rw [ExceptT.run_bind]
  refine Safe.bind quiet (safe.mono ?_)
  intro outcome later _ ending
  cases outcome with
  | ok value => exact ending
  | error reason => exact ending

/-- The rule for a step that cannot fail. -/
theorem Safe.bindLift {ε : Type} {post : Except ε β → W → Prop}
    {p : Prog E R α} {f : α → ExceptT ε (Prog E R) β} {world : W}
    (quiet : d.Interference)
    (safe : d.Safe (fun value later => d.Safe post (f value).run later) p world) :
    d.Safe post (ExceptT.lift p >>= f).run world := by
  refine Safe.bindExcept quiet ?_
  rw [ExceptT.run_lift, map_eq_pure_bind]
  refine Safe.bind quiet (safe.mono ?_)
  intro value later _ ending
  exact fun last step _ => Safe.rely quiet ending step

/-- A program that makes only calls of `Mine` keeps what each of these calls and
each step of the others keeps. -/
theorem Safe.of_calls {honest : (effect : E) → R effect → Prop} {Mine : E → Prop}
    {post : α → Prop} (kept : W → Prop) {p : Prog E R α} {world : W}
    (calls : p.Calls honest Mine post)
    (step : ∀ effect now choice, Mine effect → kept now → d.inv now → d.allow effect now choice →
      honest effect (d.machine.answer effect now choice).1 ∧
        d.inv (d.machine.answer effect now choice).2 ∧
          d.guar now (d.machine.answer effect now choice).2 ∧
            kept (d.machine.answer effect now choice).2)
    (stable : ∀ now later, kept now → d.rely now later → d.inv later → kept later)
    (holds : kept world) :
    d.Safe (fun value later => post value ∧ kept later) p world := by
  induction p generalizing world with
  | done value => exact fun later moved valid => ⟨calls, stable world later holds moved valid⟩
  | call effect next ih =>
      intro now moved valid choice allowed
      obtain ⟨fair, after, own, still⟩ :=
        step effect now choice calls.1 (stable world now holds moved valid) valid allowed
      exact ⟨after, own, ih _ (calls.2 _ fair) still⟩

/-- The conjunction rule: a safe program keeps, besides its postcondition, what
each of its calls and each step of the others keeps. -/
theorem Safe.and_calls {honest : (effect : E) → R effect → Prop} {Mine : E → Prop}
    {post : α → W → Prop} {returns : α → Prop} (kept : W → Prop) {p : Prog E R α} {world : W}
    (safe : d.Safe post p world) (calls : p.Calls honest Mine returns)
    (step : ∀ effect now choice, Mine effect → kept now → d.inv now → d.allow effect now choice →
      honest effect (d.machine.answer effect now choice).1 ∧
        kept (d.machine.answer effect now choice).2)
    (stable : ∀ now later, kept now → d.rely now later → d.inv later → kept later)
    (holds : kept world) :
    d.Safe (fun value later => post value later ∧ kept later) p world := by
  induction p generalizing world with
  | done value =>
      exact fun later moved valid =>
        ⟨safe later moved valid, stable world later holds moved valid⟩
  | call effect next ih =>
      intro now moved valid choice allowed
      obtain ⟨after, own, rest⟩ := safe now moved valid choice allowed
      obtain ⟨fair, still⟩ :=
        step effect now choice calls.1 (stable world now holds moved valid) valid allowed
      exact ⟨after, own, ih _ rest (calls.2 _ fair) still⟩

theorem Alone.interference (alone : d.Alone) : d.Interference where
  refl world := (alone world world).mpr rfl
  trans {a b c} first second := by
    rw [alone] at first second
    exact (alone a c).mpr (first.trans second)

/-- Every world that an interrupted or finished run leaves is reached by
guaranteed steps, and a finished run establishes the postcondition. -/
theorem Safe.run_meets {post : α → W → Prop} {p : Prog E R α} {world : W}
    (idle : ∀ world, d.rely world world) (choices : List C)
    (meets : p.Meets d.machine d.allow world choices)
    (valid : d.inv world) (safe : d.Safe post p world) :
    d.inv (p.run d.machine world choices).2 ∧
      Relation.ReflTransGen d.guar world (p.run d.machine world choices).2 ∧
      ∀ value rest, (p.run d.machine world choices).1 = some (value, rest) →
        post value (p.run d.machine world choices).2 := by
  induction p generalizing world choices with
  | done value =>
      refine ⟨valid, .refl, ?_⟩
      intro result rest finished
      simp only [Prog.run, Option.some.injEq, Prod.mk.injEq] at finished
      obtain ⟨rfl, -⟩ := finished
      exact safe world (idle world) valid
  | call effect next ih =>
      cases choices with
      | nil => exact ⟨valid, .refl, fun _ _ finished => by simp [Prog.run] at finished⟩
      | cons choice choices =>
          obtain ⟨after, kept, rest⟩ := safe world (idle world) valid choice meets.1
          obtain ⟨last, steps, ending⟩ := ih _ choices meets.2 after rest
          exact ⟨last, .head kept steps, ending⟩

theorem Safe.run {post : α → W → Prop} {p : Prog E R α} {world : W}
    (idle : ∀ world, d.rely world world) (choices : List C)
    (free : ∀ effect world, ∀ choice ∈ choices, d.allow effect world choice)
    (valid : d.inv world) (safe : d.Safe post p world) :
    d.inv (p.run d.machine world choices).2 ∧
      Relation.ReflTransGen d.guar world (p.run d.machine world choices).2 ∧
      ∀ value rest, (p.run d.machine world choices).1 = some (value, rest) →
        post value (p.run d.machine world choices).2 :=
  safe.run_meets idle choices (.of_all d.machine p world choices free) valid

/-- A safe run is a chain of calls that are answered as allowed and keep the
invariant. -/
theorem Safe.run_steps {post : α → W → Prop} {p : Prog E R α} {world : W}
    (idle : ∀ world, d.rely world world) (choices : List C)
    (free : ∀ effect world, ∀ choice ∈ choices, d.allow effect world choice)
    (valid : d.inv world) (safe : d.Safe post p world) :
    Relation.ReflTransGen (fun before after => d.inv after ∧
      ∃ effect choice, after = (d.machine.answer effect before choice).2)
      world (p.run d.machine world choices).2 := by
  induction p generalizing world choices with
  | done value => exact .refl
  | call effect next ih =>
      cases choices with
      | nil => exact .refl
      | cons choice choices =>
          obtain ⟨after, -, rest⟩ :=
            safe world (idle world) valid choice (free effect world choice (.head _))
          refine .head ⟨after, effect, choice, rfl⟩ (ih _ choices ?_ after rest)
          exact fun effect world other member => free effect world other (.tail _ member)

theorem Safe.runWith {post : α → W → Prop} {p : Prog E R α} {world : W} {pick : E → W → C}
    (idle : ∀ world, d.rely world world)
    (picked : ∀ effect world, d.allow effect world (pick effect world))
    (valid : d.inv world) (safe : d.Safe post p world) :
    d.inv (p.runWith d.machine pick world).2 ∧
      Relation.ReflTransGen d.guar world (p.runWith d.machine pick world).2 ∧
      post (p.runWith d.machine pick world).1 (p.runWith d.machine pick world).2 := by
  induction p generalizing world with
  | done value => exact ⟨valid, .refl, safe world (idle world) valid⟩
  | call effect next ih =>
      obtain ⟨after, kept, rest⟩ := safe world (idle world) valid _ (picked effect world)
      obtain ⟨last, steps, ending⟩ := ih _ after rest
      exact ⟨last, .head kept steps, ending⟩

end Discipline

end Resumption
