import NousKernel.Tenancy

/-!
What all valid leases reserve together. Admission compares each request with the
whole capacity, placement with the whole node, and a grant looks only for another
lease of the same workload: nobody adds the leases up. Each one reserves a
thousandth of a core and a mebibyte, so the capacity of four cores is kept as long
as a grant never meets four thousand valid leases.
-/

set_option autoImplicit false

namespace NousKernel

open Resumption

/-! ### Sums of reservations -/

/-- The exact sum, without saturation. -/
def ResourceVector.add (self other : ResourceVector) : ResourceVector where
  cpuCoresMillis := self.cpuCoresMillis + other.cpuCoresMillis
  cpuTimeUs := self.cpuTimeUs + other.cpuTimeUs
  ramBytes := self.ramBytes + other.ramBytes
  pinnedRamBytes := self.pinnedRamBytes + other.pinnedRamBytes
  deviceMemoryBytes := self.deviceMemoryBytes + other.deviceMemoryBytes
  kvCacheBytes := self.kvCacheBytes + other.kvCacheBytes
  storageBytes := self.storageBytes + other.storageBytes
  memoryBandwidthBps := self.memoryBandwidthBps + other.memoryBandwidthBps
  interconnectBandwidthBps := self.interconnectBandwidthBps + other.interconnectBandwidthBps
  networkBandwidthBps := self.networkBandwidthBps + other.networkBandwidthBps
  powerMilliwatts := self.powerMilliwatts + other.powerMilliwatts
  thermalBudgetMillic := self.thermalBudgetMillic + other.thermalBudgetMillic
  timeBudgetUs := self.timeBudgetUs + other.timeBudgetUs

def totalReserved (leases : List ResourceLease) : ResourceVector :=
  leases.foldr (fun lease total => lease.reserved.add total) {}

/-- The leases the manager considers valid. -/
def LeaseManager.validLeases (manager : LeaseManager) (now : Int) : List ResourceLease :=
  (manager.leases.entries.map (·.2)).filter (·.isValid now)

/-- The valid leases fit in the capacity of the admission controller's domain. -/
def WithinCapacity (w : World) (time : Int) : Prop :=
  (totalReserved (w.leases.validLeases time)).fitsWithin admission.systemDomain.capacity = true

instance (w : World) (time : Int) : Decidable (WithinCapacity w time) :=
  inferInstanceAs (Decidable (_ = true))

theorem totalReserved_minimum {leases : List ResourceLease}
    (small : ∀ lease ∈ leases, lease.reserved = minimumReserved) :
    totalReserved leases =
      { cpuCoresMillis := leases.length, ramBytes := leases.length * (1024 * 1024) } := by
  induction leases with
  | nil => rfl
  | cons lease rest ih =>
      have tail := ih fun other member => small other (.tail _ member)
      have head := small lease (.head _)
      simp only [totalReserved, List.foldr_cons] at tail ⊢
      rw [tail, head]
      have ram : 1024 * 1024 + rest.length * (1024 * 1024) = (rest.length + 1) * (1024 * 1024) := by
        omega
      simp [ResourceVector.add, minimumReserved, Nat.add_comm 1, ram]

/-- Every lease of the table reserves the minimum. -/
def Small (w : World) : Prop :=
  ∀ entry ∈ w.leases.leases.entries, entry.2.reserved = minimumReserved

theorem within_iff {w : World} (small : Small w) (time : Int) :
    WithinCapacity w time ↔ (w.leases.validLeases time).length ≤ 4000 := by
  have each : ∀ lease ∈ w.leases.validLeases time, lease.reserved = minimumReserved := by
    intro lease member
    obtain ⟨entry, listed, rfl⟩ := List.mem_map.mp (List.mem_of_mem_filter member)
    exact small entry listed
  unfold WithinCapacity
  rw [totalReserved_minimum each]
  generalize (w.leases.validLeases time).length = count
  simp only [ResourceVector.fitsWithin, Bool.and_eq_true, decide_eq_true_eq]
  simp only [admission, localCapacity]
  omega

/-! ### Steps -/

section Steps

variable {w : World}

/-- Time makes no lease valid. -/
theorem validLeases_later (manager : LeaseManager) {now later : Int} (order : now ≤ later) :
    (manager.validLeases later).length ≤ (manager.validLeases now).length := by
  unfold LeaseManager.validLeases
  rw [← List.countP_eq_length_filter, ← List.countP_eq_length_filter]
  apply List.countP_mono_left
  intro lease _ valid
  simp only [ResourceLease.isValid, decide_eq_true_eq] at valid ⊢
  omega

theorem validLeases_erase (manager : LeaseManager) (leaseId : String) (now : Int) :
    ((manager.release leaseId).2.validLeases now).length ≤ (manager.validLeases now).length := by
  by_cases present : leaseId ∈ manager.leases
  · rw [LeaseManager.release_present present]
    have fewer : (manager.leases.erase leaseId).entries.Sublist manager.leases.entries :=
      List.kerase_sublist leaseId manager.leases.entries
    exact ((fewer.map _).filter _).length_le
  · rw [LeaseManager.release_absent present]

theorem within_few (small : Small w) (few : (w.leases.validLeases w.clock).length ≤ 4000)
    (elapsed : Nat) : WithinCapacity w (w.clock + elapsed) := by
  rw [within_iff small]
  exact (validLeases_later _ (by omega)).trans few

/-- The call is granted a lease. -/
def Obtains (call : Call) (w : World) (choice : Choice) : Prop :=
  match call with
  | .grantFenced workloadId .. => w.leases.holdsValid workloadId (w.clock + choice.elapsed) = false
  | _ => False

/-- A grant adds one valid lease. -/
theorem validLeases_grant (managed : Managed w) {call : Call} {choice : Choice}
    (obtains : Obtains call w choice) :
    ((kernelAnswer call w choice).2.leases.validLeases (kernelAnswer call w choice).2.clock).length =
      (w.leases.validLeases (w.clock + choice.elapsed)).length + 1 := by
  cases call with
  | grantFenced workloadId principalId resources nodeId deviceId renewable =>
      have vacant : w.leases.holdsValid workloadId (w.clock + choice.elapsed) = false := obtains
      rcases answer_grantFenced w workloadId principalId resources nodeId deviceId renewable choice
        with ⟨error, refused⟩ | granted
      · simp [kernelAnswer, World.grantFenced, LeaseManager.grantFenced, World.tick, vacant]
          at refused
      · rw [granted]
        simp only [LeaseManager.validLeases, AList.entries_insert_of_notMem managed.fresh,
          List.map_cons]
        rw [List.filter_cons_of_pos]
        · rfl
        · simp [ResourceLease.isValid, LeaseManager.granted, managed.duration]
  | _ => exact absurd obtains id

/-- Every other call adds none. -/
theorem validLeases_answer {call : Call} {choice : Choice} (refused : ¬ Obtains call w choice) :
    ((kernelAnswer call w choice).2.leases.validLeases (kernelAnswer call w choice).2.clock).length ≤
      (w.leases.validLeases w.clock).length := by
  have clock := answer_clock (w := w) call choice
  cases call with
  | grantFenced workloadId principalId resources nodeId deviceId renewable =>
      rcases answer_grantFenced w workloadId principalId resources nodeId deviceId renewable choice
        with ⟨error, same⟩ | granted
      · rw [same] at clock ⊢
        exact validLeases_later w.leases clock
      · exact absurd (granted_vacant (congrArg Prod.fst granted)) refused
  | release leaseId =>
      exact (validLeases_later _ clock).trans (validLeases_erase w.leases leaseId w.clock)
  | _ =>
      rw [answer_leases choice rfl]
      exact validLeases_later w.leases clock

/-- A call that is granted a lease finds room for it. -/
def roomy (call : Call) (w : World) (choice : Choice) : Prop :=
  Obtains call w choice → (w.leases.validLeases (w.clock + choice.elapsed)).length < 4000

theorem roomy_iff (managed : Managed w) (few : (w.leases.validLeases w.clock).length ≤ 4000)
    (call : Call) (choice : Choice) :
    roomy call w choice ↔ ((kernelAnswer call w choice).2.leases.validLeases
      (kernelAnswer call w choice).2.clock).length ≤ 4000 := by
  by_cases obtains : Obtains call w choice
  · have more := validLeases_grant managed obtains
    constructor
    · intro room
      have below := room obtains
      omega
    · intro below _
      omega
  · have still := validLeases_answer obtains
    constructor
    · intro _
      omega
    · exact fun _ grants => absurd grants obtains

/-- The calls of executions grant nothing but the minimum. -/
theorem small_answer {call : Call} {r : OperationRequest} {course : Course} (small : Small w)
    (managed : Managed w) (law : (conduct r).law course call) (choice : Choice) :
    Small (kernelAnswer call w choice).2 := by
  cases call with
  | grantFenced workloadId principalId resources nodeId deviceId renewable =>
      obtain ⟨-, rfl, -⟩ := law
      rcases answer_grantFenced w workloadId principalId minimumReserved nodeId deviceId renewable
        choice with ⟨error, refused⟩ | granted
      · rw [refused]
        exact small
      · rw [granted]
        intro entry member
        rw [AList.entries_insert_of_notMem managed.fresh] at member
        rcases List.mem_cons.mp member with rfl | old
        · rfl
        · exact small entry old
  | release leaseId =>
      intro entry member
      by_cases present : leaseId ∈ w.leases.leases
      · simp only [kernelAnswer, World.tick_leases, LeaseManager.release_present present] at member
        exact small entry ((List.kerase_sublist leaseId _).subset member)
      · simp only [kernelAnswer, World.tick_leases, LeaseManager.release_absent present] at member
        exact small entry member
  | _ =>
      intro entry member
      rw [answer_leases choice rfl] at member
      exact small entry member

/-- The lease manager is in order and every lease is small. -/
def Stocked (w : World) (_ : Nat → Course) : Prop := Managed w ∧ Small w

theorem stocked_kept (requests : List OperationRequest) :
    Attends.Kept (conducts requests) kernel Stocked := by
  rintro w courses index call choice ⟨managed, small⟩ - ⟨r, -, law⟩
  exact ⟨managed.answer call choice, small_answer small managed law choice⟩

end Steps

/-! ### Runs -/

/-- At every moment of the run the valid leases fit. -/
def AlwaysWithin (pool : Pool Call Answer World (Except KernelError RuntimeExecution))
    (schedule : List (Nat × Choice)) : Prop :=
  ∀ turns elapsed : Nat, WithinCapacity (pool.run kernel (schedule.take turns)).world
    ((pool.run kernel (schedule.take turns)).world.clock + elapsed)

theorem alwaysWithin_cons (pool : Pool Call Answer World (Except KernelError RuntimeExecution))
    (turn : Nat × Choice) (rest : List (Nat × Choice)) :
    AlwaysWithin pool (turn :: rest) ↔
      (∀ elapsed : Nat, WithinCapacity pool.world (pool.world.clock + elapsed)) ∧
        AlwaysWithin (pool.step kernel turn) rest := by
  constructor
  · exact fun within => ⟨within 0, fun turns => within (turns + 1)⟩
  · rintro ⟨now, later⟩ turns
    cases turns with
    | zero => exact now
    | succ turns => exact later turns

theorem alwaysWithin_iff {requests : List OperationRequest} {courses : Nat → Course}
    {pool : Pool Call Answer World (Except KernelError RuntimeExecution)}
    (attends : Attends (conducts requests) Stocked (fun _ _ _ => True) courses pool)
    (few : (pool.world.leases.validLeases pool.world.clock).length ≤ 4000)
    (schedule : List (Nat × Choice)) :
    AlwaysWithin pool schedule ↔ pool.Along kernel roomy schedule := by
  induction schedule generalizing pool courses with
  | nil =>
      refine ⟨fun _ => trivial, fun _ turns => ?_⟩
      rw [List.take_nil]
      exact within_few attends.inv.2 few
  | cons turn rest ih =>
      have onward := attends.step (stocked_kept requests) trivial turn
      have fits : (∀ call next, pool.threads[turn.1]? = some (.call call next) →
          roomy call pool.world turn.2) ↔ ((pool.step kernel turn).world.leases.validLeases
            (pool.step kernel turn).world.clock).length ≤ 4000 := by
        by_cases speaks : ∃ call next, pool.threads[turn.1]? = some (.call call next)
        · obtain ⟨call, next, found⟩ := speaks
          rw [Pool.step_call found]
          have here := roomy_iff attends.inv.1 few call turn.2
          constructor
          · exact fun every => here.mp (every call next found)
          · intro below call' next' found'
            rw [found] at found'
            cases found'
            exact here.mpr below
        · rw [Pool.step_idle fun call next found => speaks ⟨call, next, found⟩]
          exact ⟨fun _ => few, fun _ call next found => absurd ⟨call, next, found⟩ speaks⟩
      rw [alwaysWithin_cons]
      show _ ↔ (∀ call next, _ → _) ∧ (pool.step kernel turn).Along kernel roomy rest
      rw [fits]
      constructor
      · rintro ⟨-, later⟩
        have within : WithinCapacity (pool.step kernel turn).world
            ((pool.step kernel turn).world.clock + (0 : Nat)) := later 0 0
        rw [within_iff onward.inv.2, Int.natCast_zero, Int.add_zero] at within
        exact ⟨within, (ih onward within).mp later⟩
      · rintro ⟨below, along⟩
        exact ⟨within_few attends.inv.2 few, (ih onward below).mpr along⟩

/-- The valid leases fit at every moment of a run exactly if every call that is
granted a lease finds less than four thousand valid ones. -/
theorem capacity_kept_iff {w : World} (reached : Reached w) (vacant : w.leases.leases = ∅)
    (requests : List OperationRequest) (schedule : List (Nat × Choice)) :
    AlwaysWithin (executions requests w) schedule ↔
      (executions requests w).Along kernel roomy schedule := by
  have small : Small w := by
    intro entry member
    rw [vacant] at member
    cases member
  have none : (w.leases.validLeases w.clock).length ≤ 4000 := by
    simp [LeaseManager.validLeases, vacant]
  exact alwaysWithin_iff (executions_attend requests ⟨reached.managed, small⟩) none schedule

theorem capacity_kept_iff_two :
    (Reached (.boot sampleUuids 0) ∧ (World.boot sampleUuids 0).leases.leases = ∅) ∧
      (AlwaysWithin (executions (slowPair "workload-2") (.boot sampleUuids 0)) invoking ↔
        (executions (slowPair "workload-2") (.boot sampleUuids 0)).Along kernel roomy invoking) :=
  ⟨⟨.boot sampleUuids 0, rfl⟩,
    capacity_kept_iff (.boot sampleUuids 0) rfl (slowPair "workload-2") invoking⟩

/-! ### The way of a call to its grant -/

section Way

variable {w : World} {r : OperationRequest} (choices : List Choice)

theorem tick_zero (w : World) : w.tick 0 = w := by
  simp [World.tick]

theorem run_attempt : (Task.attempt r).run kernel w (failing :: choices) =
    (some ((), choices), w.record (.attempt r)) := by
  have told : (Task.attempt r).run kernel w (failing :: choices) =
      (some ((), choices), (w.tick 0).record (.attempt r)) := rfl
  rw [told, tick_zero]

theorem run_now : (lift Task.now).run.run kernel w (failing :: choices) =
    (some (.ok w.clock, choices), w) := by
  have told : (lift Task.now).run.run kernel w (failing :: choices) =
      (some (.ok (w.tick 0).clock, choices), w.tick 0) := rfl
  rw [told, tick_zero]

theorem run_kernelState : (lift Task.kernelState).run.run kernel w (failing :: choices) =
    (some (.ok w.state, choices), w) := by
  have told : (lift Task.kernelState).run.run kernel w (failing :: choices) =
      (some (.ok w.state, choices), w.tick 0) := rfl
  rw [told, tick_zero]

theorem run_committedReceipt : (committedReceipt r).run.run kernel w (failing :: choices) =
    (some (.ok (committedIn r w.journal.entries), choices), w) := by
  have told : (committedReceipt r).run.run kernel w (failing :: choices) =
      (some (.ok (committedIn r w.journal.entries), choices), w.tick 0) := rfl
  rw [told, tick_zero]

theorem run_grantLease {placement : PlacementDecision}
    (vacant : w.leases.holdsValid r.workloadId w.clock = false) :
    (grantLease r placement).run.run kernel w [failing] =
      (none, (kernelAnswer (.grantFenced r.workloadId "kernel-runtime" placement.resourcesReserved
        placement.nodeId placement.deviceId true) w failing).2) := by
  rcases answer_grantFenced w r.workloadId "kernel-runtime" placement.resourcesReserved
    placement.nodeId placement.deviceId true failing with ⟨error, refused⟩ | granted
  · simp [kernelAnswer, World.grantFenced, LeaseManager.grantFenced, World.tick, failing, vacant]
      at refused
  · unfold grantLease resourceError mapError Task.grantFenced
    rw [Prog.run_bindExcept, ExceptT.run_mk, Prog.run_bind]
    simp only [Prog.perform, Prog.run, kernel, granted]
    rfl

/-- A call with accepted references, whose operation is not committed and whose
workload holds no lease, is granted one at its sixth call. -/
theorem execute_granted (valid : r.validateSensitiveReferences = .ok ())
    (ready : w.state = .ready) (uncommitted : committedIn r w.journal.entries = none)
    (vacant : w.leases.holdsValid r.workloadId w.clock = false) :
    ∃ (entry : Entry) (placement : PlacementDecision), entry.objectType = "SchedulerDecision" ∧
      entry.idempotencyKey = some (scheduleKey r.operationId) ∧
      ((execute r).run.run kernel w (List.replicate 6 failing)).2 =
        (kernelAnswer (.grantFenced r.workloadId "kernel-runtime"
          placement.resourcesReserved placement.nodeId placement.deviceId true)
            (kernelAnswer (.append entry) (w.record (.attempt r)) failing).2 failing).2 := by
  obtain ⟨placement, trace, placed, -, -⟩ := schedule_eq r w.clock
  refine ⟨entryOf r .observation "SchedulerDecision" "SELECTED" (.trace trace)
    (scheduleKey r.operationId), placement, rfl, rfl, ?_⟩
  have appended : ∀ choices, (append r .observation "SchedulerDecision" "SELECTED" (.trace trace)
      (scheduleKey r.operationId)).run.run kernel (w.record (.attempt r)) (failing :: choices) =
        (some (.ok (), choices), (kernelAnswer (.append (entryOf r .observation
          "SchedulerDecision" "SELECTED" (.trace trace) (scheduleKey r.operationId)))
            (w.record (.attempt r)) failing).2) := fun _ => rfl
  unfold execute attempt
  rw [ExceptT.run_mk, Prog.run_bind, List.replicate_succ, run_attempt]
  dsimp only
  rw [Prog.run_bind]
  unfold executeInternal
  rw [Prog.run_bindExcept, List.replicate_succ, run_now, valid]
  dsimp only
  rw [Prog.run_bindExcept, List.replicate_succ, run_kernelState,
    show (w.record (.attempt r)).state = .ready from ready]
  dsimp only
  rw [if_neg (by decide), Prog.run_bindExcept, List.replicate_succ, run_committedReceipt,
    show committedIn r (w.record (.attempt r)).journal.entries = none from uncommitted]
  dsimp only
  rw [Prog.run_bindExcept, show (w.record (.attempt r)).clock = w.clock from rfl, placed,
    Prog.run_bindExcept, List.replicate_succ, appended]
  dsimp only
  have still : ∀ entry : Entry, (kernelAnswer (.append entry) (w.record (.attempt r))
      failing).2.leases.holdsValid r.workloadId (kernelAnswer (.append entry)
        (w.record (.attempt r)) failing).2.clock = false := by
    intro entry
    have clock : (kernelAnswer (.append entry) (w.record (.attempt r)) failing).2.clock =
        w.clock := by
      show (w.tick 0).clock = w.clock
      rw [tick_zero]
    rw [answer_leases failing rfl, clock]
    exact vacant
  rw [ExceptT.run_pure]
  simp only [Prog.pure_eq, Prog.run]
  rw [Prog.run_bindExcept, List.replicate_one, run_grantLease (still _)]

end Way

/-! ### Four thousand and one calls -/

/-- Calls on workloads of their own. -/
def crowdRequest (index : Nat) : OperationRequest :=
  sampleRequest (sampleUuids.nowV7 index) (sampleUuids.nowV7 index) "revision-1" .idempotent

def crowdRequests (count : Nat) : List OperationRequest := (List.range count).map crowdRequest

/-- Each call in turn, as far as its grant. -/
def crowding (count : Nat) : List (Nat × Choice) :=
  (List.range count).flatMap fun index => List.replicate 6 (index, failing)

/-- The first calls hold their leases. -/
structure Occupied (count : Nat) (w : World) : Prop where
  ready : w.state = .ready
  managed : Managed w
  scheduled : ∀ entry ∈ w.journal.entries, entry.objectType = "SchedulerDecision"
  tenants : ∀ entry ∈ w.leases.leases.entries,
    ∃ index < count, entry.2.workloadId = sampleUuids.nowV7 index
  full : (w.leases.validLeases w.clock).length = count

theorem Occupied.boot : Occupied 0 (.boot sampleUuids 0) where
  ready := rfl
  managed := .new 0 rfl
  scheduled := by simp [World.boot, Journal.empty]
  tenants _ member := by cases member
  full := rfl

theorem Occupied.uncommitted {count : Nat} {w : World} (occupied : Occupied count w)
    (r : OperationRequest) : committedIn r w.journal.entries = none := by
  cases found : committedIn r w.journal.entries with
  | none => rfl
  | some receipt =>
      obtain ⟨entry, member, -, kind, -⟩ := committedIn_origin found
      rw [occupied.scheduled entry member] at kind
      exact absurd kind (by decide)

theorem Occupied.vacant {count : Nat} {w : World} (occupied : Occupied count w) (now : Int) :
    w.leases.holdsValid (crowdRequest count).workloadId now = false := by
  apply List.any_eq_false.mpr
  intro entry member
  obtain ⟨index, below, same⟩ := occupied.tenants entry member
  have other : entry.2.workloadId ≠ (crowdRequest count).workloadId := by
    rw [same]
    intro equal
    have := sampleUuids.injective equal
    omega
  simp [other]

/-- The next call is granted its lease as well. -/
theorem Occupied.next {count : Nat} {w : World} (occupied : Occupied count w) :
    Occupied (count + 1)
      ((execute (crowdRequest count)).run.run kernel w (List.replicate 6 failing)).2 := by
  obtain ⟨entry, placement, kind, keyed, ran⟩ := execute_granted (r := crowdRequest count) rfl
    occupied.ready (occupied.uncommitted _) (occupied.vacant _)
  rw [ran]
  -- the entry of the scheduler's decision leaves the leases alone
  have noted : Occupied count
      (kernelAnswer (.append entry) (w.record (.attempt (crowdRequest count))) failing).2 := by
    have leases := answer_leases (w := w.record (.attempt (crowdRequest count))) failing
      (show (Call.append entry).leasing = false from rfl)
    have clock : (kernelAnswer (.append entry) (w.record (.attempt (crowdRequest count)))
        failing).2.clock = w.clock := by
      show (w.tick 0).clock = w.clock
      rw [tick_zero]
    have told : Managed (w.record (.attempt (crowdRequest count))) :=
      occupied.managed.same rfl rfl rfl
    refine ⟨occupied.ready, told.answer _ _, ?_, ?_, ?_⟩
    · rcases answer_append_cases (w := w.record (.attempt (crowdRequest count))) entry failing keyed
        with ⟨same, -⟩ | ⟨-, sequence, now, longer, -⟩
      · rw [same]
        exact occupied.scheduled
      · rw [longer]
        intro other member
        rcases List.mem_append.mp member with old | new
        · exact occupied.scheduled other old
        · rw [List.mem_singleton.mp new]
          exact kind
    · rw [leases]
      exact occupied.tenants
    · rw [leases, clock]
      exact occupied.full
  generalize (kernelAnswer (.append entry) (w.record (.attempt (crowdRequest count))) failing).2 =
    middle at noted
  have obtains : Obtains (.grantFenced (crowdRequest count).workloadId "kernel-runtime"
      placement.resourcesReserved placement.nodeId placement.deviceId true) middle failing :=
    noted.vacant _
  have more := validLeases_grant noted.managed obtains
  have zero : middle.clock + (failing.elapsed : Int) = middle.clock := by
    show middle.clock + (0 : Int) = middle.clock
    omega
  rw [zero, noted.full] at more
  have managed := noted.managed.answer (.grantFenced (crowdRequest count).workloadId
    "kernel-runtime" placement.resourcesReserved placement.nodeId placement.deviceId true) failing
  rcases answer_grantFenced middle (crowdRequest count).workloadId "kernel-runtime"
    placement.resourcesReserved placement.nodeId placement.deviceId true failing with
      ⟨error, refused⟩ | granted
  · simp [kernelAnswer, World.grantFenced, LeaseManager.grantFenced, World.tick,
      noted.vacant] at refused
  · rw [granted] at more managed ⊢
    refine ⟨noted.ready, managed, noted.scheduled, ?_, more⟩
    intro other member
    rw [AList.entries_insert_of_notMem noted.managed.fresh] at member
    rcases List.mem_cons.mp member with rfl | old
    · exact ⟨count, Nat.lt_succ_self _, rfl⟩
    · obtain ⟨index, below, same⟩ := noted.tenants other old
      exact ⟨index, Nat.lt_succ_of_lt below, same⟩

theorem crowding_occupied (count turns : Nat) (within : turns ≤ count) :
    Occupied turns ((executions (crowdRequests count) (.boot sampleUuids 0)).run kernel
      (crowding turns)).world ∧
    ∀ index, turns ≤ index → index < count →
      ((executions (crowdRequests count) (.boot sampleUuids 0)).run kernel
        (crowding turns)).threads[index]? = some (execute (crowdRequest index)).run := by
  induction turns with
  | zero =>
      refine ⟨.boot, fun index _ below => ?_⟩
      simp [crowding, Pool.run, executions, crowdRequests, List.getElem?_range below]
  | succ turns ih =>
      obtain ⟨occupied, waiting⟩ := ih (by omega)
      have longer : crowding (turns + 1) = crowding turns ++
          (List.replicate 6 failing).map fun choice => (turns, choice) := by
        simp [crowding, List.range_succ]
      rw [longer, Pool.run_append, Pool.run_alone (waiting turns (Nat.le_refl _) (by omega))]
      rw [Prog.advance_world]
      refine ⟨occupied.next, fun index above below => ?_⟩
      rw [List.getElem?_set_ne (by omega)]
      exact waiting index (by omega) below

/-- Four thousand and one calls on different workloads reserve more than there is. -/
theorem capacity_exceeded :
    ((crowdRequests 4001).map (·.workloadId)).Nodup ∧
      ¬ WithinCapacity ((executions (crowdRequests 4001) (.boot sampleUuids 0)).run kernel
          (crowding 4001)).world
        ((executions (crowdRequests 4001) (.boot sampleUuids 0)).run kernel
          (crowding 4001)).world.clock := by
  constructor
  · have names : (crowdRequests 4001).map (·.workloadId) =
        (List.range 4001).map sampleUuids.nowV7 := by
      rw [crowdRequests, List.map_map]
      rfl
    rw [names]
    exact List.nodup_range.map sampleUuids.injective
  · have small : Small (World.boot sampleUuids 0) := fun _ member => by cases member
    have stocked := executions_keep (crowdRequests 4001) (stocked_kept (crowdRequests 4001))
      ⟨(Reached.boot sampleUuids 0).managed, small⟩ (crowding 4001)
    have occupied := (crowding_occupied 4001 4001 (Nat.le_refl _)).1
    rw [within_iff stocked.2, occupied.full]
    omega

end NousKernel
