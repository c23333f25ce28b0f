import NousKernel.Tracing

/-!
The program scheduler (`nous-scheduler/src/program.rs`) and the process scheduling of the
core: policies are registered under the names they give themselves, and the core asks for
them by names of its own.
-/

set_option autoImplicit false

namespace NousKernel

inductive ProcessSchedulingStatus where
  | runnable
  | blocked
  | suspended
  | running
  | other
  deriving DecidableEq, Repr

structure ProcessCandidate where
  processId : String
  status : ProcessSchedulingStatus
  criticalPathImportance : Binary64
  unlockedWorkRatio : Binary64
  sloBreachRisk : Binary64
  warmStateBenefit : Binary64
  estimatedRemainingTimeMs : Nat
  resourceCost : Binary64
  predictionUncertainty : Binary64
  priorityScore : Binary64
  isRunnable : Bool
  blockedReason : Option String
  waitingChildren : Nat
  budgetRemainingRatio : Binary64
  deriving DecidableEq

structure ProgramScheduleDecision where
  selected : Option ProcessCandidate
  candidates : List ProcessCandidate
  runnableCount : Nat
  blockedByResource : List (String × Nat)
  scoreBreakdown : List (String × Binary64)
  policyName : String
  decidedAt : Int

structure ProgramSchedulingPolicy where
  name : String
  select : List ProcessCandidate → ProgramScheduleDecision

/-- What the policies take from outside: the clock, the scores, what `sort_by` makes of the
runnable candidates whatever its comparisons say, and the numbers of the breakdowns. -/
structure ProgramSetup where
  now : Int
  score : ProcessCandidate → Binary64
  arrange : List ProcessCandidate → List ProcessCandidate
  perm : ∀ candidates, (arrange candidates).Perm candidates
  breakdown : String → ProcessCandidate → List (String × Binary64)

/-- `*blocked_by_resource.entry(reason).or_insert(0) += 1`. -/
def countReason (counts : List (String × Nat)) (reason : String) : List (String × Nat) :=
  match counts with
  | [] => [(reason, 1)]
  | (other, count) :: rest =>
      if other = reason then (other, count + 1) :: rest
      else (other, count) :: countReason rest reason

def blockedByResource (candidates : List ProcessCandidate) : List (String × Nat) :=
  ((candidates.filter fun c => !c.isRunnable).filterMap (·.blockedReason)).foldl countReason []

namespace ProgramPolicy

/-- The decision that every policy makes of its runnable candidates in its order. -/
def decide (setup : ProgramSetup) (name : String) (candidates runnable : List ProcessCandidate)
    (breakdown : ProcessCandidate → List (String × Binary64)) : ProgramScheduleDecision where
  selected := runnable.head?
  candidates
  runnableCount := runnable.length
  blockedByResource := blockedByResource candidates
  scoreBreakdown := (runnable.head?.map breakdown).getD []
  policyName := name
  decidedAt := setup.now

/-- The policies that sort the runnable candidates. -/
def sorted (setup : ProgramSetup) (name : String)
    (breakdown : ProcessCandidate → List (String × Binary64)) : ProgramSchedulingPolicy where
  name
  select candidates :=
    decide setup name candidates (setup.arrange (candidates.filter (·.isRunnable))) breakdown

def fifo (setup : ProgramSetup) : ProgramSchedulingPolicy where
  name := "ProgramFIFO"
  select candidates :=
    decide setup "ProgramFIFO" candidates (candidates.filter (·.isRunnable)) fun _ => []

def priority (setup : ProgramSetup) : ProgramSchedulingPolicy :=
  sorted setup "ProgramPriority" fun _ => []

def srtf (setup : ProgramSetup) : ProgramSchedulingPolicy :=
  sorted setup "ProgramSRTF" fun _ => []

def criticalPath (setup : ProgramSetup) : ProgramSchedulingPolicy :=
  sorted setup "ProgramCriticalPath" (setup.breakdown "ProgramCriticalPath")

/-- This policy writes the scores into the candidates before it sorts them. -/
def stateAware (setup : ProgramSetup) : ProgramSchedulingPolicy where
  name := "StateAware (Experimental P_i)"
  select candidates :=
    decide setup "StateAware (Experimental P_i)" candidates
      (setup.arrange ((candidates.filter (·.isRunnable)).map fun c =>
        { c with priorityScore := setup.score c }))
      (setup.breakdown "StateAware (Experimental P_i)")

end ProgramPolicy

/-! ### The registry -/

/-- The map from names to policies. -/
abbrev ProgramPolicyRegistry : Type := List (String × ProgramSchedulingPolicy)

namespace ProgramPolicyRegistry

/-- `HashMap::insert` under the policy's own name. -/
def register (registry : ProgramPolicyRegistry) (policy : ProgramSchedulingPolicy) :
    ProgramPolicyRegistry :=
  (policy.name, policy) :: registry.filter fun entry => entry.1 ≠ policy.name

def get (registry : ProgramPolicyRegistry) (name : String) : Option ProgramSchedulingPolicy :=
  (registry.find? fun entry => entry.1 = name).map (·.2)

def scheduleWith (registry : ProgramPolicyRegistry) (policyName : String)
    (candidates : List ProcessCandidate) : Except String ProgramScheduleDecision :=
  match registry.get policyName with
  | none => .error ("Policy '" ++ policyName ++ "' not found")
  | some policy => .ok (policy.select candidates)

end ProgramPolicyRegistry

def baselinePolicies (setup : ProgramSetup) : List ProgramSchedulingPolicy :=
  [ProgramPolicy.fifo setup, ProgramPolicy.priority setup, ProgramPolicy.srtf setup,
    ProgramPolicy.criticalPath setup, ProgramPolicy.stateAware setup]

/-- `ProgramScheduler::with_all_baselines`. -/
def withAllBaselines (setup : ProgramSetup) : ProgramPolicyRegistry :=
  (baselinePolicies setup).foldl ProgramPolicyRegistry.register []

/-- The name that the core asks for. -/
def SchedulerCoreConfig.policyName (config : SchedulerCoreConfig) : String :=
  match config.effectivePolicySet with
  | .deterministic => "FIFO"
  | .stateAware | .adaptive => "StateAware"

/-- `SchedulerCore::schedule_processes`. -/
def scheduleProcesses (config : SchedulerCoreConfig) (setup : ProgramSetup)
    (candidates : List ProcessCandidate) : Except NousError ProgramScheduleDecision :=
  match (withAllBaselines setup).scheduleWith config.policyName candidates with
  | .ok decision => .ok decision
  | .error error => .error
      { code := .internal
        message := "built-in scheduler policy '" ++ config.policyName ++ "' is unavailable: " ++
          error }

/-! ### What a policy selects -/

/-- A decision selects a runnable candidate where there is one, up to the score written
into it, and counts them. -/
structure SelectsRunnable (candidates : List ProcessCandidate)
    (decision : ProgramScheduleDecision) : Prop where
  isSome : decision.selected.isSome = true ↔ ∃ c ∈ candidates, c.isRunnable = true
  runnable : ∀ d, decision.selected = some d →
    ∃ c ∈ candidates, c.isRunnable = true ∧ d = { c with priorityScore := d.priorityScore }
  count : decision.runnableCount = (candidates.filter (·.isRunnable)).length

section Selects

variable {setup : ProgramSetup} {candidates : List ProcessCandidate}

/-- A rearrangement of the runnable candidates, with scores written into them. -/
theorem ProgramPolicy.decide_selects {name : String}
    {breakdown : ProcessCandidate → List (String × Binary64)}
    (write : ProcessCandidate → Binary64) {runnable : List ProcessCandidate}
    (arranged : runnable.Perm ((candidates.filter (·.isRunnable)).map fun c =>
      { c with priorityScore := write c })) :
    SelectsRunnable candidates (ProgramPolicy.decide setup name candidates runnable breakdown) := by
  have members : ∀ d ∈ runnable, ∃ c ∈ candidates, c.isRunnable = true ∧
      d = { c with priorityScore := d.priorityScore } := by
    intro d member
    obtain ⟨c, listed, rfl⟩ := List.mem_map.mp (arranged.mem_iff.mp member)
    obtain ⟨inside, runs⟩ := List.mem_filter.mp listed
    exact ⟨c, inside, runs, rfl⟩
  constructor
  · show runnable.head?.isSome = true ↔ _
    rw [List.isSome_head?]
    constructor
    · intro nonempty
      obtain ⟨d, member⟩ := List.exists_mem_of_ne_nil _ (by simpa using nonempty)
      obtain ⟨c, inside, runs, _⟩ := members d member
      exact ⟨c, inside, runs⟩
    · rintro ⟨c, inside, runs⟩
      have member := arranged.mem_iff.mpr
        (List.mem_map_of_mem (f := fun c : ProcessCandidate => { c with priorityScore := write c })
          (List.mem_filter.mpr ⟨inside, runs⟩))
      simpa using List.ne_nil_of_mem member
  · exact fun d selected => members d (List.mem_of_head? selected)
  · show runnable.length = _
    rw [arranged.length_eq, List.length_map]

theorem ProgramPolicy.rewritten_self (items : List ProcessCandidate) :
    items.map (fun c => { c with priorityScore := c.priorityScore }) = items :=
  List.map_id items

/-- Every baseline policy selects a runnable candidate where there is one. -/
theorem baseline_selects {policy : ProgramSchedulingPolicy}
    (baseline : policy ∈ baselinePolicies setup) :
    SelectsRunnable candidates (policy.select candidates) := by
  have sorted : ∀ name breakdown, SelectsRunnable candidates
      ((ProgramPolicy.sorted setup name breakdown).select candidates) := by
    intro name breakdown
    apply ProgramPolicy.decide_selects ProcessCandidate.priorityScore
    rw [ProgramPolicy.rewritten_self]
    exact setup.perm _
  simp only [baselinePolicies, List.mem_cons, List.not_mem_nil, or_false] at baseline
  rcases baseline with rfl | rfl | rfl | rfl | rfl
  · apply ProgramPolicy.decide_selects ProcessCandidate.priorityScore
    rw [ProgramPolicy.rewritten_self]
  · exact sorted _ _
  · exact sorted _ _
  · exact sorted _ _
  · exact ProgramPolicy.decide_selects setup.score (setup.perm _)

end Selects

/-- Under its own name every baseline policy is found, and selects. -/
theorem scheduleWith_baseline (setup : ProgramSetup) (candidates : List ProcessCandidate) :
    ∀ policy ∈ baselinePolicies setup, ∃ decision,
      (withAllBaselines setup).scheduleWith policy.name candidates = .ok decision ∧
        SelectsRunnable candidates decision := by
  intro policy baseline
  have selects : SelectsRunnable candidates (policy.select candidates) :=
    baseline_selects baseline
  refine ⟨policy.select candidates, ?_, selects⟩
  simp only [baselinePolicies, List.mem_cons, List.not_mem_nil, or_false] at baseline
  rcases baseline with rfl | rfl | rfl | rfl | rfl <;> rfl

/-- Under the names of the core no policy is found. -/
theorem get_policyName (config : SchedulerCoreConfig) (setup : ProgramSetup) :
    (withAllBaselines setup).get config.policyName = none := by
  unfold SchedulerCoreConfig.policyName
  cases config.effectivePolicySet <;> rfl

theorem scheduleProcesses_fails (config : SchedulerCoreConfig) (setup : ProgramSetup)
    (candidates : List ProcessCandidate) :
    ∃ error, scheduleProcesses config setup candidates = .error error := by
  have missing : (withAllBaselines setup).scheduleWith config.policyName candidates =
      .error ("Policy '" ++ config.policyName ++ "' not found") := by
    rw [ProgramPolicyRegistry.scheduleWith, get_policyName]
  rw [scheduleProcesses, missing]
  exact ⟨_, rfl⟩

/-- The scheduling yields a runnable process where there is one, the first under the
deterministic set. -/
def YieldsRunnable (config : SchedulerCoreConfig) (setup : ProgramSetup)
    (candidates : List ProcessCandidate) : Prop :=
  ∃ decision, scheduleProcesses config setup candidates = .ok decision ∧
    SelectsRunnable candidates decision ∧
    (config.effectivePolicySet = .deterministic →
      decision.selected = candidates.find? (·.isRunnable))

/-- Process scheduling yields nothing, whatever the configuration and the candidates are. -/
theorem schedule_yields_nothing (config : SchedulerCoreConfig) (setup : ProgramSetup)
    (candidates : List ProcessCandidate) : ¬ YieldsRunnable config setup candidates := by
  rintro ⟨decision, scheduled, _⟩
  obtain ⟨error, fails⟩ := scheduleProcesses_fails config setup candidates
  rw [fails] at scheduled
  cases scheduled

/-- Nothing to sort, and every score is zero. -/
def idleSetup : ProgramSetup := ⟨0, fun _ => 0#64, id, fun _ => .rfl, fun _ _ => []⟩

/-- The default configuration fails already on no candidates. -/
theorem schedule_unavailable : ¬ YieldsRunnable {} idleSetup [] := by
  rintro ⟨decision, scheduled, _⟩
  obtain ⟨error, fails⟩ := scheduleProcesses_fails {} idleSetup []
  rw [fails] at scheduled
  cases scheduled

end NousKernel
