import NousKernel.Conduct

/-!
Leases of running executions. A lease lasts 30 seconds and is never renewed, and
nothing ends an execution whose lease has expired. As long as every execution in
flight is younger than its lease allows, its workload holds a valid lease and no
other execution of the workload is in flight.
-/

set_option autoImplicit false

namespace NousKernel

open Resumption

/-- The leases of the calls are in the table. Two calls hold different leases, and
of two leases of one workload at most one is valid. -/
structure Tenants (requests : List OperationRequest) (w : World) (courses : Nat → Course) :
    Prop where
  managed : Managed w
  orderly : ∀ index, (courses index).Orderly
  listed : ∀ index fenced, (courses index).lease = some fenced →
    w.leases.leases.lookup fenced.lease.leaseId = some fenced.lease
  own : ∀ index fenced, (courses index).lease = some fenced →
    ∃ r, requests[index]? = some r ∧ fenced.lease.workloadId = r.workloadId
  lasting : ∀ index fenced, (courses index).lease = some fenced →
    fenced.lease.expiresAt = fenced.lease.grantedAt + 30000000
  different : ∀ index other first second, index ≠ other → (courses index).lease = some first →
    (courses other).lease = some second → first.lease.leaseId ≠ second.lease.leaseId
  exclusive : ∀ index other first second, index ≠ other → (courses index).lease = some first →
    (courses other).lease = some second → first.lease.workloadId = second.lease.workloadId →
      w.clock < first.lease.expiresAt → second.lease.expiresAt ≤ w.clock

section Steps

variable {requests : List OperationRequest} {w : World} {courses : Nat → Course}

theorem Tenants.start (managed : Managed w) : Tenants requests w fun _ => {} where
  managed := managed
  orderly _ := ⟨fun up => (by cases up), fun inside => (by cases inside)⟩
  listed _ _ absent := by cases absent
  own _ _ absent := by cases absent
  lasting _ _ absent := by cases absent
  different _ _ _ _ _ absent := by cases absent
  exclusive _ _ _ _ _ absent := by cases absent

/-- A call that touches no lease, of the table or of a call. -/
theorem Tenants.still (tenants : Tenants requests w courses) {later : World}
    {next : Nat → Course} (managed : Managed later) (orderly : ∀ index, (next index).Orderly)
    (leases : later.leases.leases = w.leases.leases) (clock : w.clock ≤ later.clock)
    (same : ∀ index, (next index).lease = (courses index).lease) :
    Tenants requests later next where
  managed := managed
  orderly := orderly
  listed index fenced held := by
    rw [leases]
    exact tenants.listed index fenced (same index ▸ held)
  own index fenced held := tenants.own index fenced (same index ▸ held)
  lasting index fenced held := tenants.lasting index fenced (same index ▸ held)
  different index other first second apart one two :=
    tenants.different index other first second apart (same index ▸ one) (same other ▸ two)
  exclusive index other first second apart one two workload valid := by
    have expired := tenants.exclusive index other first second apart (same index ▸ one)
      (same other ▸ two) workload (by omega)
    omega

/-- A workload that may be granted a lease holds no other that is valid. -/
theorem holdsValid_false {manager : LeaseManager} {workloadId leaseId : String} {now : Int}
    {lease : ResourceLease} (vacant : manager.holdsValid workloadId now = false)
    (listed : manager.leases.lookup leaseId = some lease)
    (workload : lease.workloadId = workloadId) : lease.expiresAt ≤ now := by
  have invalid := List.any_eq_false.mp vacant ⟨leaseId, lease⟩ (AList.mem_lookup_iff.mp listed)
  simpa [workload, ResourceLease.isValid] using invalid

/-- A grant. -/
theorem Tenants.grant (tenants : Tenants requests w courses) {later : World} {index : Nat}
    {r : OperationRequest} {course : Course} {fenced : FencedLease}
    (found : requests[index]? = some r) (managed : Managed later) (orderly : course.Orderly)
    (held : course.lease = some fenced) (clock : w.clock ≤ later.clock)
    (workload : fenced.lease.workloadId = r.workloadId)
    (lasting : fenced.lease.expiresAt = fenced.lease.grantedAt + 30000000)
    (vacant : w.leases.holdsValid r.workloadId later.clock = false)
    (fresh : fenced.lease.leaseId ∉ w.leases.leases)
    (leases : later.leases.leases = w.leases.leases.insert fenced.lease.leaseId fenced.lease) :
    Tenants requests later (Function.update courses index course) := by
  have old : ∀ other, other ≠ index → ∀ second, (courses other).lease = some second →
      fenced.lease.leaseId ≠ second.lease.leaseId ∧
        (second.lease.workloadId = r.workloadId → second.lease.expiresAt ≤ later.clock) := by
    intro other _ second two
    have listed := tenants.listed other second two
    constructor
    · intro same
      apply fresh
      rw [same]
      exact AList.lookup_isSome.mp (by rw [listed]; rfl)
    · exact fun mine => holdsValid_false vacant listed mine
  have cases : ∀ other second, (Function.update courses index course other).lease = some second →
      (other = index ∧ second = fenced) ∨ (other ≠ index ∧ (courses other).lease = some second) := by
    intro other second two
    by_cases mine : other = index
    · subst mine
      rw [Function.update_self, held] at two
      exact .inl ⟨rfl, (Option.some.inj two).symm⟩
    · rw [Function.update_of_ne mine] at two
      exact .inr ⟨mine, two⟩
  refine ⟨managed, ?_, ?_, ?_, ?_, ?_, ?_⟩
  · exact (Function.forall_update_iff courses fun _ course => course.Orderly).mpr
      ⟨orderly, fun other _ => tenants.orderly other⟩
  · intro other second two
    rw [leases]
    rcases cases other second two with ⟨-, rfl⟩ | ⟨mine, two⟩
    · exact AList.lookup_insert _
    · rw [AList.lookup_insert_ne (old other mine second two).1.symm]
      exact tenants.listed other second two
  · intro other second two
    rcases cases other second two with ⟨rfl, rfl⟩ | ⟨mine, two⟩
    · exact ⟨r, found, workload⟩
    · exact tenants.own other second two
  · intro other second two
    rcases cases other second two with ⟨rfl, rfl⟩ | ⟨mine, two⟩
    · exact lasting
    · exact tenants.lasting other second two
  · intro one other first second apart held₁ held₂
    rcases cases one first held₁ with ⟨here, new⟩ | ⟨there, kept⟩
    · rcases cases other second held₂ with ⟨alsoHere, -⟩ | ⟨there, kept⟩
      · exact absurd (here.trans alsoHere.symm) apart
      · exact new ▸ (old other there second kept).1
    · rcases cases other second held₂ with ⟨-, new⟩ | ⟨-, kept'⟩
      · exact new ▸ (old one there first kept).1.symm
      · exact tenants.different one other first second apart kept kept'
  · intro one other first second apart held₁ held₂ same valid
    rcases cases one first held₁ with ⟨here, new⟩ | ⟨there, kept⟩
    · rcases cases other second held₂ with ⟨alsoHere, -⟩ | ⟨there, kept⟩
      · exact absurd (here.trans alsoHere.symm) apart
      · exact (old other there second kept).2 (by rw [← same, new, workload])
    · rcases cases other second held₂ with ⟨-, new⟩ | ⟨-, kept'⟩
      · have expired := (old one there first kept).2 (by rw [same, new, workload])
        omega
      · have expired := tenants.exclusive one other first second apart kept kept' same (by omega)
        omega

/-- The end of a lease. -/
theorem Tenants.release (tenants : Tenants requests w courses) {later : World} {index : Nat}
    {course : Course} {fenced : FencedLease} (managed : Managed later) (orderly : course.Orderly)
    (held : (courses index).lease = some fenced) (given : course.lease = none)
    (clock : w.clock ≤ later.clock)
    (leases : later.leases.leases = w.leases.leases.erase fenced.lease.leaseId) :
    Tenants requests later (Function.update courses index course) := by
  have others : ∀ other second, (Function.update courses index course other).lease = some second →
      other ≠ index ∧ (courses other).lease = some second := by
    intro other second two
    by_cases mine : other = index
    · subst mine
      rw [Function.update_self, given] at two
      cases two
    · rw [Function.update_of_ne mine] at two
      exact ⟨mine, two⟩
  refine ⟨managed, ?_, ?_, ?_, ?_, ?_, ?_⟩
  · exact (Function.forall_update_iff courses fun _ course => course.Orderly).mpr
      ⟨orderly, fun other _ => tenants.orderly other⟩
  · intro other second two
    obtain ⟨mine, two⟩ := others other second two
    rw [leases, AList.lookup_erase_ne (tenants.different other index second fenced mine two held)]
    exact tenants.listed other second two
  · exact fun other second two => tenants.own other second (others other second two).2
  · exact fun other second two => tenants.lasting other second (others other second two).2
  · intro one other first second apart held₁ held₂
    exact tenants.different one other first second apart (others one first held₁).2
      (others other second held₂).2
  · intro one other first second apart held₁ held₂ same valid
    have expired := tenants.exclusive one other first second apart (others one first held₁).2
      (others other second held₂).2 same (by omega)
    omega

theorem granted_vacant {workloadId principalId : String} {resources : ResourceVector}
    {nodeId deviceId : String} {renewable : Bool} {choice : Choice} {fenced : FencedLease}
    (granted : (kernelAnswer (.grantFenced workloadId principalId resources nodeId deviceId
      renewable) w choice).1 = .ok fenced) :
    w.leases.holdsValid workloadId (w.clock + choice.elapsed) = false := by
  cases held : w.leases.holdsValid workloadId (w.clock + choice.elapsed) with
  | false => rfl
  | true =>
      simp [kernelAnswer, World.grantFenced, LeaseManager.grantFenced, World.tick, held] at granted

/-- The calls that change the table of the leases. -/
def Call.leasing : Call → Bool
  | .grantFenced .. | .release _ => true
  | _ => false

theorem answer_leases {call : Call} (choice : Choice) (still : call.leasing = false) :
    (kernelAnswer call w choice).2.leases = w.leases := by
  cases call with
  | grantFenced => cases still
  | release => cases still
  | append entry =>
      simp only [kernelAnswer, World.append]
      cases choice.storage <;> rfl
  | _ => rfl

theorem Course.step_lease {course : Course} {call : Call} (answer : Answer call)
    (still : call.leasing = false) : (course.step call answer).lease = course.lease := by
  cases call with
  | grantFenced => cases still
  | release => cases still
  | _ => rfl

/-- Every call of an execution keeps the leases in order. -/
theorem tenants_kept (requests : List OperationRequest) :
    Attends.Kept (conducts requests) kernel (Tenants requests) := by
  rintro w courses index call choice tenants - ⟨r, found, law⟩
  have managed := tenants.managed.answer call choice
  have clock := answer_clock (w := w) call choice
  have orderly := (tenants.orderly index).step law (kernelAnswer call w choice).1
  show Tenants requests (kernelAnswer call w choice).2 (Function.update courses index
    ((courses index).step call (kernelAnswer call w choice).1))
  have allOrderly : ∀ other, (Function.update courses index
      ((courses index).step call (kernelAnswer call w choice).1) other).Orderly :=
    (Function.forall_update_iff courses fun _ course => course.Orderly).mpr
      ⟨orderly, fun other _ => tenants.orderly other⟩
  -- the three cases: a grant, a release, and all the calls that touch no lease
  cases call with
  | grantFenced workloadId principalId resources nodeId deviceId renewable =>
      obtain ⟨rfl, -, -⟩ := law
      rcases answer_grantFenced w r.workloadId principalId resources nodeId deviceId renewable
        choice with ⟨error, refused⟩ | granted
      · rw [refused] at managed clock allOrderly ⊢
        apply tenants.still managed allOrderly rfl clock
        exact (Function.forall_update_iff courses fun other course =>
          course.lease = (courses other).lease).mpr ⟨rfl, fun _ _ => rfl⟩
      · have vacant := granted_vacant (congrArg Prod.fst granted)
        rw [granted] at managed clock orderly ⊢
        refine tenants.grant found managed orderly rfl clock rfl ?_ vacant tenants.managed.fresh rfl
        show _ + w.leases.defaultDuration = _
        rw [tenants.managed.duration]
        rfl
  | release leaseId =>
      obtain ⟨-, -, fenced, held, rfl⟩ := law
      have present : fenced.lease.leaseId ∈ w.leases.leases :=
        AList.lookup_isSome.mp (by rw [tenants.listed index fenced held]; rfl)
      refine tenants.release managed orderly held rfl clock ?_
      simp [kernelAnswer, LeaseManager.release_present present]
  | _ =>
      apply tenants.still managed allOrderly (by rw [answer_leases choice rfl]) clock
      exact (Function.forall_update_iff courses fun other course =>
        course.lease = (courses other).lease).mpr
          ⟨Course.step_lease _ rfl, fun _ _ => rfl⟩

end Steps

/-- The course of one of some calls in a schedule. -/
def courseIn (requests : List OperationRequest) (w : World) (schedule : List (Nat × Choice))
    (index : Nat) : Course :=
  .of ((executions requests w).transcript kernel schedule index)

/-- If the call has a provider execution in flight, its lease was granted less than
30 seconds ago. -/
def Course.youngAt (course : Course) (time : Int) : Bool :=
  !course.flying || course.lease.all fun fenced => time < fenced.lease.grantedAt + 30000000

/-- At every moment of every schedule: if each execution in flight runs under a
lease that was granted less than 30 seconds ago, the workload of each holds a
valid lease and each is the only one of its workload. -/
theorem executions_leased {w : World} (reached : Reached w) (requests : List OperationRequest)
    (schedule : List (Nat × Choice)) (elapsed : Nat)
    (young : ∀ index < requests.length, (courseIn requests w schedule index).youngAt
      (((executions requests w).run kernel schedule).world.clock + elapsed) = true) :
    let last := ((executions requests w).run kernel schedule).world
    ∀ index r, requests[index]? = some r →
      (courseIn requests w schedule index).flying = true →
        last.leases.holdsValid r.workloadId (last.clock + elapsed) = true ∧
          ∀ other q, requests[other]? = some q →
            (courseIn requests w schedule other).flying = true →
              q.workloadId = r.workloadId → other = index := by
  intro last index r found flies
  have tenants : Tenants requests last (courseIn requests w schedule) :=
    executions_keep requests (tenants_kept requests) (.start reached.managed) schedule
  -- what is known of a call in flight: its lease is in the table and not expired
  have leased : ∀ index r, requests[index]? = some r →
      (courseIn requests w schedule index).flying = true →
        ∃ fenced, (courseIn requests w schedule index).lease = some fenced ∧
          fenced.lease.workloadId = r.workloadId ∧ last.clock + elapsed < fenced.lease.expiresAt := by
    intro index r found flies
    have orderly := tenants.orderly index
    obtain ⟨fenced, held⟩ := Option.ne_none_iff_exists'.mp
      (orderly.registered (orderly.flying flies))
    obtain ⟨q, same, workload⟩ := tenants.own index fenced held
    rw [found] at same
    cases same
    have recent := young index (List.getElem?_eq_some_iff.mp found).1
    simp only [Course.youngAt, flies, held, Option.all_some, Bool.not_true, Bool.false_or,
      decide_eq_true_eq] at recent
    exact ⟨fenced, held, workload, by rw [tenants.lasting index fenced held]; exact recent⟩
  obtain ⟨fenced, held, workload, valid⟩ := leased index r found flies
  constructor
  · have listed := AList.mem_lookup_iff.mp (tenants.listed index fenced held)
    apply List.any_eq_true.mpr
    exact ⟨_, listed, by simpa [workload, ResourceLease.isValid] using valid⟩
  · intro other q also flying same
    obtain ⟨second, held', workload', valid'⟩ := leased other q also flying
    by_contra apart
    have expired := tenants.exclusive other index second fenced apart held' held
      (by rw [workload', same, workload]) (by omega)
    omega

/-! ### Two runs -/

/-- A request that may take 40 seconds. -/
def slowRequest (operationId workloadId : String) : OperationRequest :=
  { sampleRequest operationId workloadId "revision-1" .idempotent with timeoutMs := 40000 }

/-- Two calls on a new journal. -/
def slowPair (workloadId : String) : List OperationRequest :=
  [slowRequest "operation-1" "workload-1", slowRequest "operation-2" workloadId]

def slowRun (workloadId : String) (schedule : List (Nat × Choice)) : World :=
  ((executions (slowPair workloadId) (.boot sampleUuids 0)).run kernel schedule).world

def slowCourse (workloadId : String) (schedule : List (Nat × Choice)) (index : Nat) : Course :=
  courseIn (slowPair workloadId) (.boot sampleUuids 0) schedule index

/-- One call after the other invokes its provider. -/
def invoking : List (Nat × Choice) :=
  List.replicate 17 (0, failing) ++ List.replicate 17 (1, failing)

/-- Both executions are in flight and their leases have a microsecond left. -/
theorem executions_leased_two :
    (∀ index < (slowPair "workload-2").length, (slowCourse "workload-2" invoking index).youngAt
      ((slowRun "workload-2" invoking).clock + 29999999) = true) ∧
    ∀ index r, (slowPair "workload-2")[index]? = some r →
      (slowCourse "workload-2" invoking index).flying = true →
        (slowRun "workload-2" invoking).leases.holdsValid r.workloadId
            ((slowRun "workload-2" invoking).clock + 29999999) = true ∧
          ∀ other q, (slowPair "workload-2")[other]? = some q →
            (slowCourse "workload-2" invoking other).flying = true →
              q.workloadId = r.workloadId → other = index := by
  have young : ∀ index < (slowPair "workload-2").length,
      (slowCourse "workload-2" invoking index).youngAt
        ((slowRun "workload-2" invoking).clock + 29999999) = true := by
    decide +kernel
  exact ⟨young,
    executions_leased (.boot sampleUuids 0) (slowPair "workload-2") invoking 29999999 young⟩

/-- The second call begins when the lease of the first has expired. -/
def overlapping : List (Nat × Choice) :=
  List.replicate 17 (0, failing) ++
    (1, { failing with elapsed := 30000000 }) :: List.replicate 16 (1, failing)

/-- An execution is in flight for 30 seconds and its workload holds no valid lease.
Then two are in flight on one workload. -/
theorem executions_unleased :
    ((slowCourse "workload-1" (List.replicate 17 (0, failing)) 0).flying = true ∧
      (slowRun "workload-1" (List.replicate 17 (0, failing))).leases.holdsValid "workload-1"
        ((slowRun "workload-1" (List.replicate 17 (0, failing))).clock + 30000000) = false) ∧
    (slowCourse "workload-1" overlapping 0).flying = true ∧
      (slowCourse "workload-1" overlapping 1).flying = true := by
  decide +kernel

end NousKernel
