import NousKernel.Placement
import NousKernel.Stepwise

/-!
The health of an advertised node (`nous-scheduler/src/node_transport.rs`). Every evaluation
moves the node by one stage at most, so a node that fell silent leaves scheduling with the
second evaluation that finds it late. Times are `i64` microseconds, and the comparisons
saturate.
-/

set_option autoImplicit false

namespace NousKernel

/-! ### Saturating arithmetic -/

/-- `i64::saturating_sub`. -/
def saturatingSubI64 (a b : Int64) : Int64 := Int64.ofIntClamp (a.toInt - b.toInt)

/-- `i64::saturating_mul`. -/
def saturatingMulI64 (a b : Int64) : Int64 := Int64.ofIntClamp (a.toInt * b.toInt)

theorem toInt_ofIntClamp_eq (value : Int) :
    (Int64.ofIntClamp value).toInt = max (-2 ^ 63) (min value (2 ^ 63 - 1)) := by
  by_cases low : Int64.minValue.toInt ≤ value
  · by_cases high : value ≤ Int64.maxValue.toInt
    · rw [Int64.toInt_ofIntClamp low high]
      rw [Int64.toInt_minValue] at low
      rw [Int64.toInt_maxValue] at high
      omega
    · rw [Int64.ofIntClamp, dif_pos low, dif_neg high, Int64.toInt_maxValue]
      rw [Int64.toInt_minValue] at low
      rw [Int64.toInt_maxValue] at high
      omega
  · rw [Int64.ofIntClamp, dif_neg low, Int64.toInt_minValue]
    rw [Int64.toInt_minValue] at low
    omega

/-- Saturation hides a difference only when both values are past the same end. -/
theorem ofIntClamp_lt_iff {a b : Int} : Int64.ofIntClamp a < Int64.ofIntClamp b ↔
    a < b ∧ a < 2 ^ 63 - 1 ∧ -2 ^ 63 < b := by
  rw [Int64.lt_iff_toInt_lt, toInt_ofIntClamp_eq, toInt_ofIntClamp_eq]
  omega

/-! ### Advertisements -/

structure NodeAdvertisement where
  nodeId : String
  capabilities : List String
  state : NodeConnectionState
  lastHeartbeatUs : Int64
  heartbeatTimeoutUs : Int64

namespace NodeAdvertisement

def connect (nodeId : String) (capabilities : List String) (nowUs heartbeatTimeoutUs : Int64) :
    NodeAdvertisement where
  nodeId := nodeId
  capabilities := capabilities
  state := .connected
  lastHeartbeatUs := nowUs
  heartbeatTimeoutUs := max heartbeatTimeoutUs 1

def heartbeat (node : NodeAdvertisement) (nowUs : Int64) (capabilities : List String) :
    NodeAdvertisement :=
  { node with lastHeartbeatUs := nowUs, capabilities, state := .connected }

def disconnect (node : NodeAdvertisement) : NodeAdvertisement := { node with state := .offline }

def beginReconnect (node : NodeAdvertisement) : NodeAdvertisement :=
  { node with state := .reconnecting }

/-- The silence is over the timeout. -/
def Late (node : NodeAdvertisement) (nowUs : Int64) : Prop :=
  node.heartbeatTimeoutUs < saturatingSubI64 nowUs node.lastHeartbeatUs

/-- The silence is over twice the timeout. -/
def Lost (node : NodeAdvertisement) (nowUs : Int64) : Prop :=
  saturatingMulI64 node.heartbeatTimeoutUs 2 < saturatingSubI64 nowUs node.lastHeartbeatUs

instance (node : NodeAdvertisement) (nowUs : Int64) : Decidable (node.Late nowUs) :=
  inferInstanceAs (Decidable (_ < _))

instance (node : NodeAdvertisement) (nowUs : Int64) : Decidable (node.Lost nowUs) :=
  inferInstanceAs (Decidable (_ < _))

def evaluateHealth (node : NodeAdvertisement) (nowUs : Int64) :
    NodeConnectionState × NodeAdvertisement :=
  let node :=
    if node.state = .connected ∧ node.Late nowUs then { node with state := .degraded }
    else if node.state = .degraded ∧ node.Lost nowUs then { node with state := .offline }
    else node
  (node.state, node)

end NodeAdvertisement

inductive NodeCall where
  | heartbeat (nowUs : Int64) (capabilities : List String)
  | disconnect
  | beginReconnect
  | evaluateHealth (nowUs : Int64)

def NodeCall.isHeartbeat : NodeCall → Bool
  | heartbeat _ _ => true
  | _ => false

/-- The time that a call is given. -/
def NodeCall.time : NodeCall → Option Int64
  | heartbeat nowUs _ | evaluateHealth nowUs => some nowUs
  | disconnect | beginReconnect => none

namespace NodeAdvertisement

def serve (node : NodeAdvertisement) : NodeCall → NodeAdvertisement
  | .heartbeat nowUs capabilities => node.heartbeat nowUs capabilities
  | .disconnect => node.disconnect
  | .beginReconnect => node.beginReconnect
  | .evaluateHealth nowUs => (node.evaluateHealth nowUs).2

def after (node : NodeAdvertisement) (calls : List NodeCall) : NodeAdvertisement :=
  Stepwise.run serve node calls

/-- The times of the calls do not decrease. -/
def Timely (calls : List NodeCall) : Prop := (calls.filterMap NodeCall.time).Pairwise (· ≤ ·)

/-- The silence is over twice the timeout, as integers. -/
def Silent (node : NodeAdvertisement) (nowUs : Int64) : Prop :=
  2 * node.heartbeatTimeoutUs.toInt < nowUs.toInt - node.lastHeartbeatUs.toInt

/-- Twice the timeout is too large for an `i64`, or the silence too small. -/
def Saturates (node : NodeAdvertisement) (nowUs : Int64) : Prop :=
  2 ^ 63 ≤ 2 * node.heartbeatTimeoutUs.toInt ∨
    nowUs.toInt - node.lastHeartbeatUs.toInt ≤ -2 ^ 63

instance (node : NodeAdvertisement) (nowUs : Int64) : Decidable (node.Silent nowUs) :=
  inferInstanceAs (Decidable (_ < _))

/-! ### One evaluation -/

variable {node : NodeAdvertisement} {nowUs : Int64}

theorem lost_iff : node.Lost nowUs ↔ node.Silent nowUs ∧ ¬node.Saturates nowUs := by
  have two : (2 : Int64).toInt = 2 := by decide
  unfold Lost Silent Saturates
  rw [saturatingMulI64, saturatingSubI64, ofIntClamp_lt_iff, two]
  omega

theorem late_iff : node.Late nowUs ↔
    node.heartbeatTimeoutUs.toInt < nowUs.toInt - node.lastHeartbeatUs.toInt ∧
      node.heartbeatTimeoutUs.toInt < 2 ^ 63 - 1 := by
  have low := node.heartbeatTimeoutUs.le_toInt
  have high := node.heartbeatTimeoutUs.toInt_lt
  unfold Late
  rw [saturatingSubI64, Int64.lt_iff_toInt_lt, toInt_ofIntClamp_eq]
  omega

/-- A silence over twice the timeout is over the timeout, but for a timeout below zero or the
largest one. -/
theorem late_of_silent (silent : node.Silent nowUs) (positive : 0 ≤ node.heartbeatTimeoutUs.toInt)
    (bounded : node.heartbeatTimeoutUs.toInt < 2 ^ 63 - 1) : node.Late nowUs := by
  unfold Silent at silent
  rw [late_iff]
  omega

/-- An evaluation does nothing, degrades a connected node, or takes a degraded node offline. -/
theorem evaluateHealth_cases (node : NodeAdvertisement) (nowUs : Int64) :
    (node.state = .connected ∧ node.Late nowUs ∧
      (node.evaluateHealth nowUs).2 = { node with state := .degraded }) ∨
    (node.state = .degraded ∧ node.Lost nowUs ∧
      (node.evaluateHealth nowUs).2 = { node with state := .offline }) ∨
    (¬(node.state = .connected ∧ node.Late nowUs) ∧ ¬(node.state = .degraded ∧ node.Lost nowUs) ∧
      (node.evaluateHealth nowUs).2 = node) := by
  by_cases late : node.state = .connected ∧ node.Late nowUs
  · left
    refine ⟨late.1, late.2, ?_⟩
    simp only [evaluateHealth, if_pos late]
  · by_cases lost : node.state = .degraded ∧ node.Lost nowUs
    · right
      left
      refine ⟨lost.1, lost.2, ?_⟩
      simp only [evaluateHealth, if_neg late, if_pos lost]
    · right
      right
      refine ⟨late, lost, ?_⟩
      simp only [evaluateHealth, if_neg late, if_neg lost]

/-- A silent node is schedulable after an evaluation when it was connected before, or when it
was degraded and the comparison saturates. -/
theorem schedulable_evaluateHealth (silent : node.Silent nowUs) :
    (node.evaluateHealth nowUs).2.state.schedulable = true ↔
      node.state = .connected ∨ node.state = .degraded ∧ node.Saturates nowUs := by
  rcases node.evaluateHealth_cases nowUs with ⟨connected, -, moved⟩ | ⟨degraded, lost, moved⟩ |
    ⟨-, kept, moved⟩
  · simp [moved, connected, NodeConnectionState.schedulable]
  · have plain := (lost_iff.mp lost).2
    simp [moved, degraded, plain, NodeConnectionState.schedulable]
  · rw [moved]
    cases stage : node.state with
    | connected => simp [NodeConnectionState.schedulable]
    | degraded =>
        have saturates : node.Saturates nowUs := by
          by_contra plain
          exact kept ⟨stage, lost_iff.mpr ⟨silent, plain⟩⟩
        simp [saturates, NodeConnectionState.schedulable]
    | offline => simp [NodeConnectionState.schedulable]
    | reconnecting => simp [NodeConnectionState.schedulable]

/-! ### Until the next heartbeat -/

/-- Without a heartbeat a call leaves the state, degrades a connected node or takes the node out
of scheduling. -/
theorem serve_quiet (node : NodeAdvertisement) {call : NodeCall}
    (other : call.isHeartbeat = false) :
    (node.serve call).state = node.state ∨
      node.state = .connected ∧ (node.serve call).state = .degraded ∨
      (node.serve call).state.schedulable = false := by
  cases call with
  | heartbeat nowUs capabilities => cases other
  | disconnect | beginReconnect => exact .inr (.inr rfl)
  | evaluateHealth nowUs =>
      rw [serve]
      rcases node.evaluateHealth_cases nowUs with ⟨connected, -, moved⟩ | ⟨-, -, moved⟩ |
        ⟨-, -, moved⟩
      · rw [moved]
        exact .inr (.inl ⟨connected, rfl⟩)
      · rw [moved]
        exact .inr (.inr rfl)
      · rw [moved]
        exact .inl rfl

/-- Without a heartbeat no call connects a node. -/
theorem serve_unconnected {call : NodeCall} (other : call.isHeartbeat = false)
    (apart : node.state ≠ .connected) : (node.serve call).state ≠ .connected := by
  intro connected
  rcases node.serve_quiet other with same | ⟨before, -⟩ | out
  · exact apart (same ▸ connected)
  · exact apart before
  · rw [connected] at out
    cases out

/-- Without a heartbeat no call makes a node schedulable. -/
theorem serve_unschedulable {call : NodeCall} (other : call.isHeartbeat = false)
    (out : node.state.schedulable = false) : (node.serve call).state.schedulable = false := by
  rcases node.serve_quiet other with same | ⟨before, -⟩ | later
  · rw [same]
    exact out
  · rw [before] at out
    cases out
  · exact later

/-- After an evaluation that found it late a node is not connected. -/
theorem evaluateHealth_late (late : node.Late nowUs) :
    (node.evaluateHealth nowUs).2.state ≠ .connected := by
  rcases node.evaluateHealth_cases nowUs with ⟨-, -, moved⟩ | ⟨-, -, moved⟩ | ⟨kept, -, moved⟩
  · rw [moved]
    exact NodeConnectionState.noConfusion
  · rw [moved]
    exact NodeConnectionState.noConfusion
  · rw [moved]
    exact fun connected => kept ⟨connected, late⟩

/-! ### Runs -/

variable {calls between later : List NodeCall}

theorem after_append (node : NodeAdvertisement) (first second : List NodeCall) :
    node.after (first ++ second) = (node.after first).after second :=
  Stepwise.run_append first second

/-- From an evaluation that found it late until the next heartbeat a node is not connected. -/
theorem after_late (late : (node.after calls).Late nowUs)
    (quiet : ∀ call ∈ between, call.isHeartbeat = false) :
    (node.after (calls ++ .evaluateHealth nowUs :: between)).state ≠ .connected := by
  have keeps : ∀ (node : NodeAdvertisement) (call : NodeCall), call.isHeartbeat = false →
      node.state ≠ .connected → (node.serve call).state ≠ .connected :=
    fun _ _ other apart => serve_unconnected other apart
  have apart : ((node.after calls).serve (.evaluateHealth nowUs)).state ≠ .connected :=
    evaluateHealth_late late
  rw [after_append]
  exact Stepwise.run_invariant_of keeps apart quiet

theorem after_unschedulable (out : node.state.schedulable = false)
    (quiet : ∀ call ∈ later, call.isHeartbeat = false) :
    (node.after later).state.schedulable = false := by
  have keeps : ∀ (node : NodeAdvertisement) (call : NodeCall), call.isHeartbeat = false →
      node.state.schedulable = false → (node.serve call).state.schedulable = false :=
    fun _ _ other out => serve_unschedulable other out
  exact Stepwise.run_invariant_of keeps out quiet

/-- In every run: an evaluation of a node that is silent for over twice its timeout leaves it
schedulable exactly when it was connected until then, or the comparison saturates. After an
evaluation that found it late it is not connected before the next heartbeat, and with a timeout
that is neither negative nor the largest one a silent node is found late. And a node that is not
schedulable becomes so only through a heartbeat. -/
theorem silent_node_unscheduled (node : NodeAdvertisement) (calls : List NodeCall) :
    (∀ nowUs, (node.after calls).Silent nowUs →
      ((node.after (calls ++ [.evaluateHealth nowUs])).state.schedulable = true ↔
        (node.after calls).state = .connected ∨
          (node.after calls).state = .degraded ∧ (node.after calls).Saturates nowUs)) ∧
    (∀ first between, (node.after calls).Late first →
      (∀ call ∈ between, call.isHeartbeat = false) →
      (node.after (calls ++ .evaluateHealth first :: between)).state ≠ .connected ∧
        ∀ second, (node.after (calls ++ .evaluateHealth first :: between)).Silent second →
          ¬(node.after (calls ++ .evaluateHealth first :: between)).Saturates second →
          (node.after (calls ++ .evaluateHealth first :: between ++
            [.evaluateHealth second])).state.schedulable = false) ∧
    (∀ nowUs, (node.after calls).Silent nowUs →
      0 ≤ (node.after calls).heartbeatTimeoutUs.toInt →
      (node.after calls).heartbeatTimeoutUs.toInt < 2 ^ 63 - 1 → (node.after calls).Late nowUs) ∧
    ∀ later, (node.after calls).state.schedulable = false →
      (node.after (calls ++ later)).state.schedulable = true →
      ∃ nowUs capabilities, .heartbeat nowUs capabilities ∈ later := by
  refine ⟨?_, ?_, fun _ => late_of_silent, ?_⟩
  · intro nowUs silent
    rw [after_append]
    exact schedulable_evaluateHealth silent
  · intro first between late quiet
    have apart := after_late late quiet
    refine ⟨apart, fun second silent plain => ?_⟩
    rw [after_append]
    rw [← Bool.not_eq_true]
    intro still
    rcases (schedulable_evaluateHealth silent).mp still with connected | ⟨-, saturates⟩
    · exact apart connected
    · exact plain saturates
  · intro later out back
    by_contra none
    have quiet : ∀ call ∈ later, call.isHeartbeat = false := by
      intro call member
      cases call with
      | heartbeat nowUs capabilities => exact absurd ⟨nowUs, capabilities, member⟩ none
      | disconnect | beginReconnect | evaluateHealth nowUs => rfl
    rw [after_append, after_unschedulable out quiet] at back
    cases back

/-- The first evaluation after a long silence only degrades the node. -/
theorem silent_node_schedulable : ¬∀ (node : NodeAdvertisement) (calls : List NodeCall) nowUs,
    Timely (calls ++ [.evaluateHealth nowUs]) → (node.after calls).Silent nowUs →
      (node.after (calls ++ [.evaluateHealth nowUs])).state.schedulable = false := by
  intro unscheduled
  have once := unscheduled (connect "edge-1" ["vision"] 100 10) [] 121 (List.pairwise_singleton _ _)
    (by decide)
  exact absurd once (by decide)

end NodeAdvertisement

end NousKernel
