import NousKernel.Conduct

/-!
Shutdown in the company of executions. `shutdown` returns when it finds the active
map empty, and an execution that has passed the shutting-down check and is not yet
in the map escapes it. If there is none when the map is found empty, and no two
executions of one workload were in the map's care together, no provider execution
begins afterwards and none is left in flight.
-/

set_option autoImplicit false

namespace NousKernel

open Resumption Resumption.Prog

/-! ### The polls -/

/-- Two bounds on the polls agree if they agree after a sleep. -/
theorem awaitIdle_congr {deadline : Int} {first second : Nat} {w : World}
    (onward : w.clock < deadline → ∀ later choices, w.clock + 10000 ≤ later.clock →
      (awaitIdle deadline first).run.run kernel later choices =
        (awaitIdle deadline second).run.run kernel later choices) (choices : List Choice) :
    (awaitIdle deadline (first + 1)).run.run kernel w choices =
      (awaitIdle deadline (second + 1)).run.run kernel w choices := by
  rcases choices with _ | ⟨looked, _ | ⟨read, choices⟩⟩
  · rfl
  · show Prog.run kernel (ExceptT.run (if w.active.entries.isEmpty = true then _ else _)) _ [] =
      Prog.run kernel (ExceptT.run (if w.active.entries.isEmpty = true then _ else _)) _ []
    split
    · rfl
    · rfl
  · show Prog.run kernel (ExceptT.run (if w.active.entries.isEmpty = true then _ else _)) _
        (read :: choices) =
      Prog.run kernel (ExceptT.run (if w.active.entries.isEmpty = true then _ else _)) _
        (read :: choices)
    split
    · rfl
    · show Prog.run kernel (ExceptT.run (if deadline ≤ w.clock + looked.elapsed + read.elapsed
          then _ else _)) _ choices =
        Prog.run kernel (ExceptT.run (if deadline ≤ w.clock + looked.elapsed + read.elapsed
          then _ else _)) _ choices
      split
      · rfl
      · cases choices with
        | nil => rfl
        | cons slept choices =>
            apply onward
            · omega
            · show w.clock + 10000 ≤ w.clock + looked.elapsed + read.elapsed + slept.elapsed + 10000
              omega

/-- The polls that `shutdown` allows are enough: more of them change nothing. -/
theorem awaitIdle_enough {deadline : Int} (polls extra : Nat) {w : World}
    (soon : deadline ≤ w.clock + 10000 * polls) (choices : List Choice) :
    (awaitIdle deadline (polls + extra + 1)).run.run kernel w choices =
      (awaitIdle deadline (polls + 1)).run.run kernel w choices := by
  induction polls generalizing w choices with
  | zero => exact awaitIdle_congr (fun early => by omega) choices
  | succ polls ih =>
      rw [Nat.add_right_comm polls 1 extra]
      apply awaitIdle_congr
      intro _ later choices slept
      exact ih (by omega) choices
/-! ### The threads -/

/-- A call of `execute` whose value nobody reads. -/
def executing (r : OperationRequest) : Task (Except KernelError Unit) := do
  let result ← (execute r).run
  return result.map fun _ => ()

/-- Some calls of `execute`, and one of `shutdown`. -/
def stopping (requests : List OperationRequest) (timeoutUs : Nat) (w : World) :
    Pool Call Answer World (Except KernelError Unit) where
  world := w
  threads := requests.map executing ++ [(shutdown timeoutUs).run]

/-- The part of a thread: the course of an execution, and for the shutdown whether
it has closed the kernel and whether its last call found the active map empty. -/
structure Part where
  course : Course := {}
  closed : Bool := false
  idle : Bool := false

def Part.step (part : Part) (call : Call) (answer : Answer call) : Part where
  course := part.course.step call answer
  closed := match call with
    | .coreShutdown => true
    | _ => part.closed
  idle := match call, answer with
    | .activeEmpty, empty => empty
    | _, _ => false

def Part.of (exchanges : List (Exchange Call Answer)) : Part :=
  exchanges.foldl (fun part exchange => part.step exchange.1 exchange.2) {}

/-- The calls of `shutdown`. -/
def Call.stopping : Call → Bool
  | .coreShutdown | .activeOperations | .cancel _ | .now | .activeEmpty | .sleep _ => true
  | _ => false

/-- The protocols of the executions and of the shutdown, which is the last thread. -/
def parts (requests : List OperationRequest) (index : Nat) : Protocol Call Answer Part where
  law part call := (∃ r, requests[index]? = some r ∧ (conduct r).law part.course call) ∨
    (index = requests.length ∧ call.stopping = true)
  next := Part.step

section Threads

variable {requests : List OperationRequest}

theorem parts_executing {index : Nat} {r : OperationRequest} (found : requests[index]? = some r) :
    (parts requests index).Follows (fun _ _ => True) (executing r) {} := by
  have same : ∀ (course : Course) (part : Part) (call : Call), part.course = course →
      (conduct r).law course call → (parts requests index).law part call ∧
        ∀ answer, ((parts requests index).next part call answer).course =
          (conduct r).next course call answer := by
    rintro _ part call rfl law
    exact ⟨.inl ⟨r, found, law⟩, fun _ => rfl⟩
  have start : ({} : Part).course = {} := rfl
  apply Protocol.Follows.bind
  exact ((conduct_execute r).simulate (parts requests index) (fun course part =>
    part.course = course) same start).mono fun _ _ _ => trivial

theorem parts_awaitIdle (deadline : Int) (polls : Nat) {part : Part} (closed : part.closed = true) :
    (parts requests requests.length).Follows (fun outcome last => outcome = .ok () →
      last.closed = true ∧ last.idle = true) (awaitIdle deadline polls).run part := by
  induction polls generalizing part with
  | zero => exact fun other => by cases other
  | succ polls ih =>
      refine ⟨.inr ⟨rfl, rfl⟩, fun empty => ?_⟩
      cases empty with
      | true => exact fun _ => ⟨closed, rfl⟩
      | false =>
          refine ⟨.inr ⟨rfl, rfl⟩, fun now => ?_⟩
          show (parts requests requests.length).Follows _
            (ExceptT.run (if deadline ≤ now then _ else _)) _
          split
          · exact fun other => by cases other
          · exact ⟨.inr ⟨rfl, rfl⟩, fun _ => ih closed⟩

theorem parts_cancelOperations (operations : List ActiveOperation) {part : Part}
    (closed : part.closed = true) :
    (parts requests requests.length).Follows (fun _ last => last.closed = true)
      (cancelOperations operations) part := by
  induction operations generalizing part with
  | nil => exact closed
  | cons operation rest ih => exact ⟨.inr ⟨rfl, rfl⟩, fun _ => ih closed⟩

/-- A shutdown that returns has closed the kernel and found the active map empty. -/
theorem parts_shutdown (timeoutUs : Nat) :
    (parts requests requests.length).Follows (fun outcome last => outcome = .ok () →
      last.closed = true ∧ last.idle = true) (shutdown timeoutUs).run {} := by
  refine ⟨.inr ⟨rfl, rfl⟩, fun _ => ⟨.inr ⟨rfl, rfl⟩, fun operations => ?_⟩⟩
  apply Protocol.Follows.bindLift
  apply (parts_cancelOperations operations rfl).mono
  intro _ last closed
  exact ⟨.inr ⟨rfl, rfl⟩, fun started => parts_awaitIdle _ _ closed⟩

end Threads

/-! ### The active map -/

/-- Every registered execution is in the active map, and a kernel that the shutdown
has closed stays closed. -/
structure Gate (requests : List OperationRequest) (w : World) (states : Nat → Part) : Prop where
  shut : (states requests.length).closed = true → w.state = .shuttingDown
  orderly : ∀ index, (states index).course.Orderly
  listed : ∀ index r, requests[index]? = some r → (states index).course.registered = true →
    r.workloadId ∈ w.active

/-- No two executions of one workload are registered. -/
def Sole (requests : List OperationRequest) (states : Nat → Part) : Prop :=
  ∀ index other r q, index ≠ other → requests[index]? = some r → requests[other]? = some q →
    r.workloadId = q.workloadId → (states index).course.registered = true →
      (states other).course.registered = false

/-- The calls that change the active map. -/
def Call.registering : Call → Bool
  | .activeInsert .. | .activeRemove _ => true
  | _ => false

section Steps

variable {requests : List OperationRequest} {w : World} {states : Nat → Part}

theorem answer_active {call : Call} (choice : Choice) (still : call.registering = false) :
    (kernelAnswer call w choice).2.active = w.active := by
  cases call with
  | activeInsert => cases still
  | activeRemove => cases still
  | append entry =>
      simp only [kernelAnswer, World.append]
      cases choice.storage <;> rfl
  | grantFenced workloadId principalId resources nodeId deviceId renewable =>
      rcases answer_grantFenced w workloadId principalId resources nodeId deviceId renewable choice
        with ⟨error, refused⟩ | granted
      · rw [refused]
      · rw [granted]
  | _ => rfl

theorem answer_state {call : Call} (choice : Choice) (still : call ≠ .coreShutdown) :
    (kernelAnswer call w choice).2.state = w.state := by
  cases call with
  | coreShutdown => exact absurd rfl still
  | append entry =>
      simp only [kernelAnswer, World.append]
      cases choice.storage <;> rfl
  | grantFenced workloadId principalId resources nodeId deviceId renewable =>
      rcases answer_grantFenced w workloadId principalId resources nodeId deviceId renewable choice
        with ⟨error, refused⟩ | granted
      · rw [refused]
      · rw [granted]
  | _ => rfl

theorem Course.step_registered {course : Course} {call : Call} (answer : Answer call)
    (still : call.registering = false) : (course.step call answer).registered = course.registered := by
  cases call with
  | activeInsert => cases still
  | activeRemove => cases still
  | grantFenced =>
      cases answer with
      | error error => rfl
      | ok fenced => rfl
  | _ => rfl

theorem Course.step_stopping {course : Course} {call : Call} (answer : Answer call)
    (stops : call.stopping = true) : course.step call answer = course := by
  cases call with
  | coreShutdown | activeOperations | cancel | now | activeEmpty | sleep => rfl
  | _ => cases stops

theorem Part.step_closed {part : Part} {call : Call} (answer : Answer call)
    (still : call ≠ .coreShutdown) : (part.step call answer).closed = part.closed := by
  cases call with
  | coreShutdown => exact absurd rfl still
  | _ => rfl

/-- What a call does to the active map, as far as the registered executions go. -/
theorem Gate.listed_step (gate : Gate requests w states) (sole : Sole requests states) {index : Nat}
    {call : Call} {choice : Choice} (law : (parts requests index).law (states index) call)
    (other : Nat) (q : OperationRequest) (found : requests[other]? = some q)
    (registered : (Function.update states index ((states index).step call
      (kernelAnswer call w choice).1) other).course.registered = true) :
    q.workloadId ∈ (kernelAnswer call w choice).2.active := by
  cases call with
  | activeInsert workloadId operation =>
      rcases law with ⟨r, mine, law⟩ | ⟨-, stops⟩
      · obtain ⟨rfl, -⟩ := law
        apply (AList.mem_insert _).mpr
        by_cases same : other = index
        · subst same
          rw [found] at mine
          cases mine
          exact .inl rfl
        · rw [Function.update_of_ne same] at registered
          exact .inr (gate.listed other q found registered)
      · cases stops
  | activeRemove workloadId =>
      rcases law with ⟨r, mine, law⟩ | ⟨-, stops⟩
      · obtain ⟨rfl, inside, -⟩ := law
        have apart : other ≠ index := by
          rintro rfl
          rw [Function.update_self] at registered
          cases registered
        rw [Function.update_of_ne apart] at registered
        apply AList.mem_erase.mpr
        refine ⟨fun same => ?_, gate.listed other q found registered⟩
        rw [sole other index q r apart found mine same registered] at inside
        cases inside
      · cases stops
  | _ =>
      rw [answer_active choice rfl]
      by_cases same : other = index
      · subst same
        rw [Function.update_self] at registered
        exact gate.listed other q found ((Course.step_registered _ rfl).symm.trans registered)
      · rw [Function.update_of_ne same] at registered
        exact gate.listed other q found registered

theorem gate_kept (requests : List OperationRequest) :
    Attends.KeptWhile (Sole requests) (parts requests) kernel (Gate requests) := by
  intro w states index call choice gate sole law
  have orderly : ((states index).course.step call (kernelAnswer call w choice).1).Orderly := by
    rcases law with ⟨r, -, law⟩ | ⟨-, stops⟩
    · exact (gate.orderly index).step law _
    · rw [Course.step_stopping _ stops]
      exact gate.orderly index
  refine ⟨?_, ?_, gate.listed_step sole law⟩
  · intro closed
    by_cases closes : call = .coreShutdown
    · subst closes
      rfl
    · show (kernelAnswer call w choice).2.state = .shuttingDown
      rw [answer_state choice closes]
      apply gate.shut
      by_cases last : requests.length = index
      · rw [last, Function.update_self] at closed
        rw [last]
        exact (Part.step_closed _ closes).symm.trans closed
      · rw [Function.update_of_ne last] at closed
        exact closed
  · exact (Function.forall_update_iff states fun _ part => part.course.Orderly).mpr
      ⟨orderly, fun other _ => gate.orderly other⟩

/-- The kernel is closed, and no execution has passed the check or is registered. -/
structure Barred (requests : List OperationRequest) (w : World) (states : Nat → Part) : Prop where
  shut : w.state = .shuttingDown
  outside : ∀ index, (states index).course.passed = false ∧ (states index).course.registered = false

theorem barred_kept (requests : List OperationRequest) :
    Attends.Kept (parts requests) kernel (Barred requests) := by
  rintro w states index call choice barred - law
  obtain ⟨passed, registered⟩ := barred.outside index
  have shut : (kernelAnswer call w choice).2.state = .shuttingDown := by
    by_cases closes : call = .coreShutdown
    · subst closes
      rfl
    · rw [answer_state choice closes]
      exact barred.shut
  have outside : ((states index).course.step call (kernelAnswer call w choice).1).passed = false ∧
      ((states index).course.step call (kernelAnswer call w choice).1).registered = false := by
    rcases law with ⟨r, -, law⟩ | ⟨-, stops⟩
    · cases call with
      | kernelState => exact ⟨by simp [Course.step, kernelAnswer, barred.shut], registered⟩
      | activeInsert =>
          obtain ⟨-, entered, -⟩ := law
          rw [passed] at entered
          cases entered
      | activeRemove => exact ⟨rfl, rfl⟩
      | grantFenced =>
          cases (kernelAnswer (.grantFenced ..) w choice).1 with
          | error error => exact ⟨passed, registered⟩
          | ok fenced => exact ⟨passed, registered⟩
      | _ => exact ⟨passed, registered⟩
    · rw [Course.step_stopping _ stops]
      exact ⟨passed, registered⟩
  refine ⟨shut, ?_⟩
  exact (Function.forall_update_iff states fun _ part => part.course.passed = false ∧
    part.course.registered = false).mpr ⟨outside, fun other _ => barred.outside other⟩

end Steps

/-! ### The barrier -/

/-- The part of a thread in a schedule. -/
def partIn (requests : List OperationRequest) (timeoutUs : Nat) (w : World)
    (schedule : List (Nat × Choice)) (index : Nat) : Part :=
  .of ((stopping requests timeoutUs w).transcript kernel schedule index)

/-- The execution has passed the shutting-down check and is not in the active map. -/
def Course.entering (course : Course) : Bool := course.passed && !course.registered

/-- What a thread has shown when it returns. -/
def Parted (requests : List OperationRequest) (index : Nat) (outcome : Except KernelError Unit)
    (last : Part) : Prop :=
  index = requests.length → outcome = .ok () → last.closed = true ∧ last.idle = true

theorem stopping_attends (requests : List OperationRequest) (timeoutUs : Nat) (w : World) :
    Attends (parts requests) (Gate requests) (Parted requests) (fun _ => {})
      (stopping requests timeoutUs w) := by
  refine ⟨⟨fun other => (by cases other), fun _ => ⟨fun up => (by cases up),
    fun inside => (by cases inside)⟩, fun _ _ _ inside => (by cases inside)⟩, ?_⟩
  intro index p present
  by_cases within : index < requests.length
  · rw [stopping, List.getElem?_append_left (by simpa using within), List.getElem?_map] at present
    obtain ⟨r, found, rfl⟩ := Option.map_eq_some_iff.mp present
    exact (parts_executing found).mono fun _ _ _ last => by omega
  · by_cases last : index = requests.length
    · subst last
      simp only [stopping, List.length_map, Nat.le_refl, List.getElem?_append_right, Nat.sub_self,
        List.getElem?_cons_zero, Option.some.injEq] at present
      subst present
      exact (parts_shutdown timeoutUs).mono fun _ _ shown _ => shown
    · rw [stopping, List.getElem?_eq_none (by simp; omega)] at present
      cases present

section Barrier

variable {requests : List OperationRequest}
  {pool : Pool Call Answer World (Except KernelError Unit)} {states : Nat → Part}

theorem Part.idle_step {part : Part} {call : Call} {answer : Answer call}
    (idle : (part.step call answer).idle = true) : call = .activeEmpty := by
  cases call with
  | activeEmpty => rfl
  | _ => cases idle

/-- The turn in which the shutdown returns: it finds the active map empty, and the
kernel is closed. -/
theorem closing_turn {turn : Nat × Choice}
    (attends : Attends (parts requests) (Gate requests) (Parted requests) states pool)
    (sole : Sole requests states) (unreturned : pool.result requests.length = none)
    (returned : (pool.step kernel turn).result requests.length = some (.ok ())) :
    turn.1 = requests.length ∧ pool.world.active.entries = [] ∧
      (pool.step kernel turn).world.state = .shuttingDown := by
  have ended := Pool.result_eq_some.mp returned
  have changed : pool.threads[requests.length]? ≠ some (.done (.ok ())) := by
    intro same
    rw [Pool.result_eq_some.mpr same] at unreturned
    cases unreturned
  by_cases speaks : ∃ call next, pool.threads[turn.1]? = some (.call call next)
  · obtain ⟨call, next, found⟩ := speaks
    have mine : turn.1 = requests.length := by
      by_contra other
      rw [Pool.step_thread, if_neg (Ne.symm other)] at ended
      exact changed ended
    have onward := attends.step (gate_kept requests) sole turn
    obtain ⟨closed, idle⟩ := onward.returned returned rfl rfl
    rw [← mine, Pool.spoken_call found] at closed idle
    have empties := Part.idle_step idle
    subst empties
    have shut := attends.inv.shut (mine ▸ closed)
    rw [Pool.step_call found]
    refine ⟨mine, ?_, shut⟩
    exact List.isEmpty_iff.mp idle
  · rw [Pool.step_idle fun call next found => speaks ⟨call, next, found⟩] at ended
    exact absurd ended changed

/-- If the shutdown finds the active map empty and no unfinished execution is on
its way into it, none is in flight and none will be. -/
theorem closing_barred {turn : Nat × Choice}
    (attends : Attends (parts requests) (Gate requests) (Parted requests) states pool)
    (sole : Sole requests states) (unreturned : pool.result requests.length = none)
    (returned : (pool.step kernel turn).result requests.length = some (.ok ()))
    (entered : ∀ index < requests.length, pool.result index = none →
      (states index).course.entering = false) :
    (∀ index < requests.length, (states index).course.flying = false) ∧
      ∃ states', Attends (parts requests) (Barred requests) (fun _ _ _ => True) states'
        (pool.step kernel turn) := by
  obtain ⟨mine, empty, shut⟩ := closing_turn attends sole unreturned returned
  have out : ∀ index < requests.length, (states index).course.registered = false := by
    intro index below
    by_contra inside
    rw [Bool.not_eq_false] at inside
    have listed := attends.inv.listed index _ (List.getElem?_eq_getElem below) inside
    rw [AList.mem_keys, AList.keys, empty] at listed
    cases listed
  constructor
  · intro index below
    by_contra up
    rw [Bool.not_eq_false] at up
    have inside := (attends.inv.orderly index).flying up
    rw [out index below] at inside
    cases inside
  · classical
    refine ⟨fun index => if index < requests.length ∧ pool.result index = none then states index
      else {}, ⟨shut, fun index => ?_⟩, fun index p present => ?_⟩
    · split
      · rename_i unfinished
        have below := entered index unfinished.1 unfinished.2
        rw [Course.entering, out index unfinished.1] at below
        exact ⟨by simpa using below, out index unfinished.1⟩
      · exact ⟨rfl, rfl⟩
    · cases p with
      | done value => trivial
      | call call next =>
          have other : index ≠ requests.length := by
            rintro rfl
            rw [Pool.result_eq_some.mp returned] at present
            cases present
          rw [Pool.step_thread, if_neg (by rw [mine]; exact other)] at present
          have followed := attends.follows index _ present
          have below : index < requests.length := by
            rcases followed.1 with ⟨r, found, -⟩ | ⟨last, -⟩
            · exact (List.getElem?_eq_some_iff.mp found).1
            · exact absurd last other
          have unfinished : pool.result index = none := by
            unfold Pool.result
            rw [present]
          rw [if_pos ⟨below, unfinished⟩]
          exact followed.mono fun _ _ _ => trivial

end Barrier

/-- A shutdown that returns while no unfinished execution is between the
shutting-down check and the active map, in a run in which no two executions of one
workload are registered at once, leaves no provider execution in flight, and none
begins afterwards. -/
theorem shutdown_barrier (requests : List OperationRequest) (timeoutUs : Nat) (w : World)
    (before : List (Nat × Choice)) (turn : Nat × Choice) (after : List (Nat × Choice))
    (unreturned : ((stopping requests timeoutUs w).run kernel before).result requests.length = none)
    (returned : ((stopping requests timeoutUs w).run kernel (before ++ [turn])).result
      requests.length = some (.ok ()))
    (sole : ∀ turns, Sole requests (partIn requests timeoutUs w (before.take turns)))
    (entered : ∀ index < requests.length,
      ((stopping requests timeoutUs w).run kernel before).result index = none →
        (partIn requests timeoutUs w before index).course.entering = false) :
    (∀ index < requests.length, (partIn requests timeoutUs w before index).course.flying = false) ∧
      ∀ index r token, ⟨.providerExecute r token, ()⟩ ∉
        ((stopping requests timeoutUs w).run kernel (before ++ [turn])).transcript kernel after
          index := by
  have attends : Attends (parts requests) (Gate requests) (Parted requests)
      (partIn requests timeoutUs w before) ((stopping requests timeoutUs w).run kernel before) :=
    (stopping_attends requests timeoutUs w).run_while (gate_kept requests) before sole
  have alone : Sole requests (partIn requests timeoutUs w before) := by
    have whole := sole before.length
    rwa [List.take_length] at whole
  rw [Pool.run_append] at returned ⊢
  obtain ⟨landed, states, barred⟩ := closing_barred attends alone unreturned returned entered
  refine ⟨landed, fun index r token member => ?_⟩
  obtain ⟨world, later, outside, law⟩ := barred.said (barred_kept requests) member
  rcases law with ⟨q, -, -, registered, -⟩ | ⟨-, stops⟩
  · rw [(outside.outside index).2] at registered
    cases registered
  · cases stops

/-- Executions of different workloads are never registered for one workload. -/
theorem sole_of_distinct {requests : List OperationRequest}
    (distinct : (requests.map (·.workloadId)).Nodup) (states : Nat → Part) :
    Sole requests states := by
  intro index other r q apart found found' same
  have names : ∀ (position : Nat) (request : OperationRequest),
      requests[position]? = some request →
        (requests.map (·.workloadId))[position]? = some request.workloadId := by
    intro position request here
    rw [List.getElem?_map, here]
    rfl
  have first := names index r found
  have second := names other q found'
  rw [← same, ← first] at second
  have below : index < (requests.map (·.workloadId)).length :=
    (List.getElem?_eq_some_iff.mp first).1
  exact absurd ((List.getElem?_inj below distinct).mp second.symm) apart

/-! ### Two schedules -/

def stoppedRequest : OperationRequest :=
  sampleRequest "operation-1" "workload-1" "revision-1" .idempotent

def stoppedPool (schedule : List (Nat × Choice)) : Pool Call Answer World (Except KernelError Unit) :=
  (stopping [stoppedRequest] 1000000 (.boot sampleUuids 0)).run kernel schedule

/-- The shutdown finds the execution in flight, cancels it and polls once, and the
execution leaves the active map. -/
def graceful : List (Nat × Choice) :=
  List.replicate 17 (0, failing) ++ List.replicate 7 (1, failing) ++ List.replicate 5 (0, failing)

theorem shutdown_barrier_graceful :
    ((stoppedPool graceful).result 1 = none ∧
      (stoppedPool (graceful ++ [(1, failing)])).result 1 = some (.ok ()) ∧
      ∀ index < 1, (stoppedPool graceful).result index = none →
        (partIn [stoppedRequest] 1000000 (.boot sampleUuids 0) graceful index).course.entering =
          false) ∧
    ((∀ index < 1, (partIn [stoppedRequest] 1000000 (.boot sampleUuids 0) graceful
        index).course.flying = false) ∧
      ∀ index r token, ⟨.providerExecute r token, ()⟩ ∉
        (stoppedPool (graceful ++ [(1, failing)])).transcript kernel
          (List.replicate 10 (0, failing)) index) := by
  have unreturned : (stoppedPool graceful).result 1 = none := by decide +kernel
  have returned : (stoppedPool (graceful ++ [(1, failing)])).result 1 = some (.ok ()) := by
    decide +kernel
  have entered : ∀ index < 1, (stoppedPool graceful).result index = none →
      (partIn [stoppedRequest] 1000000 (.boot sampleUuids 0) graceful index).course.entering =
        false := by
    decide +kernel
  exact ⟨⟨unreturned, returned, entered⟩, shutdown_barrier [stoppedRequest] 1000000
    (.boot sampleUuids 0) graceful (1, failing) (List.replicate 10 (0, failing)) unreturned
    returned (fun _ => sole_of_distinct (by decide) _) entered⟩

/-- The execution has passed the shutting-down check when the shutdown comes. -/
def escaping : List (Nat × Choice) :=
  List.replicate 3 (0, failing) ++ List.replicate 4 (1, failing)

/-- The shutdown has returned, and the provider is invoked. -/
theorem shutdown_escaped :
    (stoppedPool escaping).result 1 = some (.ok ()) ∧
      .invoked stoppedRequest ∉ (stoppedPool escaping).world.history ∧
        .invoked stoppedRequest ∈
          (stoppedPool (escaping ++ List.replicate 14 (0, failing))).world.history := by
  decide +kernel

end NousKernel
