import NousKernel.Ring

/-!
The micro runtime (`micro/src/nous_micro.c`): a queue of eight frames in front of a
safety gate and an effector. The callbacks of a tick may submit frames themselves while
the frame they were called for is still in its slot.
-/

set_option autoImplicit false

namespace NousKernel

/-! ### Frames -/

def nmpMagic : UInt32 := 0x4e4d5031

def nmpVersion : UInt16 := 1

def microAbiVersion : UInt32 := 1

def microPayloadCapacity : Nat := 256

structure NmpFrame where
  magic : UInt32
  version : UInt16
  messageType : UInt16
  flags : UInt32
  sequence : UInt64
  payloadLength : UInt16
  payload : Vector UInt8 256
  checksum : UInt32
  deriving DecidableEq

/-- `memset` to zero. -/
def NmpFrame.zero : NmpFrame := ⟨0, 0, 0, 0, 0, 0, Vector.replicate 256 0, 0⟩

/-- One round of the checksum. -/
def mix (hash value : UInt32) : UInt32 := (hash ^^^ value) * 16777619

/-- `nous_nmp_checksum_v1`. -/
def nmpChecksum (frame : Option NmpFrame) : UInt32 :=
  match frame with
  | none => 0
  | some frame =>
      if microPayloadCapacity < frame.payloadLength.toNat then 0
      else
        let hash := mix 2166136261 frame.messageType.toUInt32
        let hash := mix hash frame.flags
        let hash := mix hash frame.sequence.toUInt32
        let hash := mix hash (frame.sequence >>> 32).toUInt32
        (frame.payload.toList.take frame.payloadLength.toNat).foldl
          (fun hash byte => mix hash byte.toUInt32) hash

inductive MicroResult where
  | ok
  | invalid
  | queueFull
  | safetyDenied
  | effectFailed
  deriving DecidableEq, Repr

/-! ### The runtime -/

/-- The runtime in memory. A pointer is an address, or NULL. -/
structure MicroRuntime where
  structSize : UInt32
  abiVersion : UInt32
  queue : Fin 8 → NmpFrame
  head : UInt8
  tail : UInt8
  count : UInt8
  safetyGate : Option Nat
  effector : Option Nat
  context : Option Nat
  head_lt : head.toNat < 8
  tail_lt : tail.toNat < 8

/-- `(uint8_t)((index + 1u) % NOUS_MICRO_QUEUE_CAPACITY)`. -/
def nextIndex (index : UInt8) : UInt8 := UInt8.ofNat ((index.toNat + 1) % 8)

theorem nextIndex_toNat (index : UInt8) : (nextIndex index).toNat = (index.toNat + 1) % 8 := by
  have small : (index.toNat + 1) % 8 < 8 := Nat.mod_lt _ (by omega)
  rw [nextIndex, UInt8.toNat_ofNat']
  exact Nat.mod_eq_of_lt (by omega)

theorem nextIndex_lt (index : UInt8) : (nextIndex index).toNat < 8 := by
  rw [nextIndex_toNat]
  exact Nat.mod_lt _ (by omega)

/-- `nous_micro_init_v1`, where `size` is `sizeof(*runtime)`. -/
def microInit (size : UInt32) (safetyGate effector context : Option Nat) :
    Except MicroResult MicroRuntime :=
  if safetyGate = none ∨ effector = none then .error .invalid
  else .ok
    { structSize := size
      abiVersion := microAbiVersion
      queue := fun _ => .zero
      head := 0
      tail := 0
      count := 0
      safetyGate, effector, context
      head_lt := by decide
      tail_lt := by decide }

namespace MicroRuntime

/-- The runtime with the frame in the slot at the tail. -/
def push (runtime : MicroRuntime) (frame : NmpFrame) : MicroRuntime :=
  { runtime with
    queue := Function.update runtime.queue ⟨runtime.tail.toNat, runtime.tail_lt⟩ frame
    tail := nextIndex runtime.tail
    count := runtime.count + 1
    tail_lt := nextIndex_lt _ }

/-- The runtime without the frame in the slot at the head. -/
def pop (runtime : MicroRuntime) : MicroRuntime :=
  { runtime with
    head := nextIndex runtime.head
    count := runtime.count - 1
    head_lt := nextIndex_lt _ }

/-- The frame in the slot at the head, as it is now. -/
def front (runtime : MicroRuntime) : NmpFrame := runtime.queue ⟨runtime.head.toNat, runtime.head_lt⟩

end MicroRuntime

/-- The size and the version that both entry points check. -/
def MicroRuntime.known (size : UInt32) (runtime : MicroRuntime) : Bool :=
  runtime.structSize = size && runtime.abiVersion = microAbiVersion

/-- The checks of a submitted frame. -/
def NmpFrame.accepted (frame : NmpFrame) : Bool :=
  frame.magic = nmpMagic && frame.version = nmpVersion &&
    frame.payloadLength.toNat ≤ microPayloadCapacity && frame.checksum = nmpChecksum (some frame)

/-- `nous_micro_submit_v1`. -/
def microSubmit (size : UInt32) (runtime : MicroRuntime) (frame : Option NmpFrame) :
    MicroResult × MicroRuntime :=
  match frame with
  | none => (.invalid, runtime)
  | some frame =>
      if runtime.known size = false ∨ frame.accepted = false then (.invalid, runtime)
      else if runtime.count = 8 then (.queueFull, runtime)
      else (.ok, runtime.push frame)

/-! ### The runtime and its callbacks -/

/-- What a callback does: the frames it submits, and what it returns. -/
structure MicroCallback where
  submits : List (Option NmpFrame)
  result : Int32

/-- The runtime, and what has gone in and out so far: the accepted frames, the frames
handed to the gate with its answers, and the frames handed to the effector. -/
structure MicroSystem where
  runtime : MicroRuntime
  accepted : List NmpFrame
  gated : List (NmpFrame × Int32)
  effected : List NmpFrame

namespace MicroSystem

def submit (size : UInt32) (system : MicroSystem) (frame : Option NmpFrame) :
    MicroResult × MicroSystem :=
  match microSubmit size system.runtime frame with
  | (.ok, runtime) => (.ok, { system with runtime, accepted := system.accepted ++ frame.toList })
  | (result, runtime) => (result, { system with runtime })

/-- The submissions of a callback. -/
def submits (size : UInt32) (system : MicroSystem) (frames : List (Option NmpFrame)) : MicroSystem :=
  frames.foldl (fun system frame => (system.submit size frame).2) system

/-- The gate is called for the frame at the head. -/
def callGate (system : MicroSystem) (result : Int32) : MicroSystem :=
  { system with gated := system.gated ++ [(system.runtime.front, result)] }

/-- The effector is called for the frame at the head. -/
def callEffector (system : MicroSystem) : MicroSystem :=
  { system with effected := system.effected ++ [system.runtime.front] }

def pop (system : MicroSystem) : MicroSystem := { system with runtime := system.runtime.pop }

/-- `nous_micro_tick_v1`. The pointer to the frame is followed anew by each callback. -/
def tick (size : UInt32) (system : MicroSystem) (safetyGate effector : MicroCallback) :
    MicroResult × MicroSystem :=
  if system.runtime.known size = false ∨ system.runtime.count = 0 then (.invalid, system)
  else
    let gated := (system.callGate safetyGate.result).submits size safetyGate.submits
    if safetyGate.result = 0 then (.safetyDenied, gated.pop)
    else
      let effected := gated.callEffector.submits size effector.submits
      if effector.result ≠ 0 then (.effectFailed, effected.pop) else (.ok, effected.pop)

end MicroSystem

inductive MicroCall where
  | submit (frame : Option NmpFrame)
  | tick (safetyGate effector : MicroCallback)

namespace MicroSystem

def call (size : UInt32) (system : MicroSystem) : MicroCall → MicroResult × MicroSystem
  | .submit frame => system.submit size frame
  | .tick safetyGate effector => system.tick size safetyGate effector

/-- The states before, during and after a call: in a tick also those in which each
callback finds and leaves the runtime, and those between its submissions. -/
def moments (size : UInt32) (system : MicroSystem) (call : MicroCall) : List MicroSystem :=
  match call with
  | .submit _ => [system, (system.call size call).2]
  | .tick safetyGate effector =>
      let gate := safetyGate.submits.inits.map
        ((system.callGate safetyGate.result).submits size)
      let gated := (system.callGate safetyGate.result).submits size safetyGate.submits
      let effect := effector.submits.inits.map (gated.callEffector.submits size)
      if system.runtime.known size = false ∨ system.runtime.count = 0 then [system]
      else [system] ++ gate ++ (if safetyGate.result = 0 then [] else effect) ++
        [(system.call size call).2]

/-- A runtime after its initialisation. -/
def start (runtime : MicroRuntime) : MicroSystem := ⟨runtime, [], [], []⟩

def run (size : UInt32) (system : MicroSystem) (calls : List MicroCall) : MicroSystem :=
  calls.foldl (fun system call => (system.call size call).2) system

/-- The tail is as far behind the head as the count says, and the count is within the
capacity. -/
structure InRing (system : MicroSystem) : Prop where
  tail : system.runtime.tail.toNat =
    (system.runtime.head.toNat + system.runtime.count.toNat) % 8
  bounded : system.runtime.count.toNat ≤ 8

/-- The gate has had the accepted frames but the waiting ones, in order, and the effector
those that the gate let pass. -/
structure InOrder (system : MicroSystem) : Prop where
  waiting : system.runtime.count.toNat ≤ system.accepted.length
  gated : system.gated.map (·.1) =
    system.accepted.take (system.accepted.length - system.runtime.count.toNat)
  effected : system.effected = (system.gated.filter (·.2 ≠ 0)).map (·.1)

end MicroSystem

/-! ### The queue -/

namespace MicroSystem

variable {size : UInt32} {system : MicroSystem} {done : List NmpFrame}

/-- The frames that wait, in order. -/
def waiting (system : MicroSystem) : List NmpFrame :=
  Ring.contents system.runtime.queue system.runtime.head.toNat system.runtime.count.toNat

/-- The accepted frames are those that are done and those that wait. -/
structure Queued (size : UInt32) (done : List NmpFrame) (system : MicroSystem) : Prop where
  known : system.runtime.known size = true
  ring : system.InRing
  accepted : system.accepted = done ++ system.waiting

/-- Where the count is positive, the frame at the head is the first that waits. -/
theorem waiting_cons (some : system.runtime.count ≠ 0) :
    system.waiting = system.runtime.front ::
      Ring.contents system.runtime.queue ((system.runtime.head.toNat + 1) % 8)
        (system.runtime.count.toNat - 1) := by
  have positive : system.runtime.count.toNat ≠ 0 := by
    intro zero
    exact some (UInt8.toNat_inj.mp zero)
  obtain ⟨fewer, count⟩ := Nat.exists_eq_succ_of_ne_zero positive
  have here : Ring.slot 8 system.runtime.head.toNat 0 =
      ⟨system.runtime.head.toNat, system.runtime.head_lt⟩ :=
    Fin.ext (Nat.mod_eq_of_lt system.runtime.head_lt)
  rw [waiting, count, Nat.succ_eq_add_one, Ring.contents_pop, here, Nat.add_sub_cancel]
  rfl

theorem submit_rejected {frame : Option NmpFrame}
    (rejected : (system.submit size frame).1 ≠ .ok) : (system.submit size frame).2 = system := by
  unfold submit microSubmit at rejected ⊢
  cases frame with
  | none => rfl
  | some frame =>
      by_cases bad : system.runtime.known size = false ∨ frame.accepted = false
      · simp only [if_pos bad]
      · by_cases full : system.runtime.count = 8
        · simp only [if_neg bad, if_pos full]
        · simp only [if_neg bad, if_neg full, ne_eq, not_true_eq_false] at rejected

/-- A submission is rejected or puts its frame behind the others. -/
theorem submit_cases (size : UInt32) (system : MicroSystem) (frame : Option NmpFrame) :
    (system.submit size frame).2 = system ∨
    ∃ pushed, frame = some pushed ∧ system.runtime.count ≠ 8 ∧
      (system.submit size frame).2 = { system with
        runtime := system.runtime.push pushed
        accepted := system.accepted ++ [pushed] } := by
  unfold submit microSubmit
  cases frame with
  | none => exact .inl rfl
  | some frame =>
      by_cases bad : system.runtime.known size = false ∨ frame.accepted = false
      · left
        simp only [if_pos bad]
      · by_cases full : system.runtime.count = 8
        · left
          simp only [if_neg bad, if_pos full]
        · simp only [if_neg bad, if_neg full]
          exact .inr ⟨frame, rfl, full, rfl⟩

theorem Queued.submit (queued : system.Queued size done) (frame : Option NmpFrame) :
    (system.submit size frame).2.Queued size done := by
  rcases system.submit_cases size frame with same | ⟨pushed, _, free, moved⟩
  · rw [same]
    exact queued
  · rw [moved]
    have bounded := queued.ring.bounded
    have less : system.runtime.count.toNat < 8 := by
      have different : system.runtime.count.toNat ≠ 8 := fun same => free (UInt8.toNat_inj.mp same)
      omega
    have grown : (system.runtime.count + 1).toNat = system.runtime.count.toNat + 1 := by
      rw [UInt8.toNat_add]
      exact Nat.mod_eq_of_lt (by show system.runtime.count.toNat + 1 < 256; omega)
    have behind : (⟨system.runtime.tail.toNat, system.runtime.tail_lt⟩ : Fin 8) =
        Ring.slot 8 system.runtime.head.toNat system.runtime.count.toNat :=
      Fin.ext queued.ring.tail
    refine ⟨queued.known, ⟨?_, ?_⟩, ?_⟩
    · show (nextIndex system.runtime.tail).toNat =
        (system.runtime.head.toNat + (system.runtime.count + 1).toNat) % 8
      rw [nextIndex_toNat, grown, queued.ring.tail]
      omega
    · show (system.runtime.count + 1).toNat ≤ 8
      omega
    · show system.accepted ++ [pushed] = done ++
        Ring.contents (Function.update system.runtime.queue _ pushed) system.runtime.head.toNat
          (system.runtime.count + 1).toNat
      rw [grown, behind, Ring.contents_push _ less, queued.accepted, List.append_assoc]
      rfl

/-- The submissions of a callback keep what is queued. -/
theorem Queued.submits (queued : system.Queued size done) (frames : List (Option NmpFrame)) :
    (system.submits size frames).Queued size done := by
  induction frames generalizing system with
  | nil => exact queued
  | cons frame rest ih => exact ih (queued.submit frame)

/-- What submissions leave alone. -/
theorem submits_frame (size : UInt32) (system : MicroSystem) (frames : List (Option NmpFrame)) :
    (system.submits size frames).gated = system.gated ∧
      (system.submits size frames).effected = system.effected ∧
      system.accepted <+: (system.submits size frames).accepted := by
  induction frames generalizing system with
  | nil => exact ⟨rfl, rfl, List.prefix_refl _⟩
  | cons frame rest ih =>
      obtain ⟨gated, effected, accepted⟩ := ih (system.submit size frame).2
      have onward : system.submits size (frame :: rest) =
          (system.submit size frame).2.submits size rest := rfl
      rw [onward]
      rcases system.submit_cases size frame with same | ⟨pushed, _, _, moved⟩
      · rw [same] at gated effected accepted ⊢
        exact ⟨gated, effected, accepted⟩
      · rw [moved] at gated effected accepted ⊢
        exact ⟨gated, effected, (List.prefix_append _ _).trans accepted⟩

/-- While more is accepted, the first frame that waits stays the first. -/
theorem Queued.front_same {later : MicroSystem} (queued : system.Queued size done)
    (some : system.runtime.count ≠ 0) (after : later.Queued size done)
    (grown : system.accepted <+: later.accepted) :
    later.runtime.count ≠ 0 ∧ later.runtime.front = system.runtime.front := by
  have first := waiting_cons some
  obtain ⟨more, whole⟩ := grown
  rw [queued.accepted, after.accepted, List.append_assoc, List.append_cancel_left_eq, first] at whole
  have nonempty : later.runtime.count ≠ 0 := by
    intro zero
    have empty : later.waiting = [] := by
      rw [waiting, zero]
      rfl
    rw [empty] at whole
    cases whole
  rw [waiting_cons nonempty, List.cons_append] at whole
  exact ⟨nonempty, (List.cons.inj whole).1.symm⟩

/-- A pop moves the first frame that waits to those that are done. -/
theorem Queued.pop (queued : system.Queued size done) (some : system.runtime.count ≠ 0) :
    system.pop.Queued size (done ++ [system.runtime.front]) := by
  have bounded := queued.ring.bounded
  have positive : system.runtime.count.toNat ≠ 0 := fun zero => some (UInt8.toNat_inj.mp zero)
  have less : (system.runtime.count - 1).toNat = system.runtime.count.toNat - 1 := by
    apply UInt8.toNat_sub_of_le
    exact UInt8.le_iff_toNat_le.mpr (by show 1 ≤ system.runtime.count.toNat; omega)
  have head := system.runtime.head_lt
  refine ⟨queued.known, ⟨?_, ?_⟩, ?_⟩
  · show system.runtime.tail.toNat =
      ((nextIndex system.runtime.head).toNat + (system.runtime.count - 1).toNat) % 8
    rw [nextIndex_toNat, less, queued.ring.tail]
    omega
  · show (system.runtime.count - 1).toNat ≤ 8
    omega
  · show system.accepted = done ++ [system.runtime.front] ++
      Ring.contents system.runtime.queue (nextIndex system.runtime.head).toNat
        (system.runtime.count - 1).toNat
    rw [queued.accepted, waiting_cons some, nextIndex_toNat, less, List.append_assoc,
      List.singleton_append]

/-! ### Every run -/

/-- Between calls the frames that are done are those that the gate has had. -/
structure Settled (size : UInt32) (system : MicroSystem) : Prop where
  queued : system.Queued size (system.gated.map (·.1))
  effected : system.effected = (system.gated.filter (·.2 ≠ 0)).map (·.1)

theorem Settled.inOrder (settled : system.Settled size) : system.InOrder := by
  have accepted := settled.queued.accepted
  have length : system.waiting.length = system.runtime.count.toNat := Ring.contents_length _ _ _
  have lengths := congrArg List.length accepted
  rw [List.length_append, length] at lengths
  refine ⟨by omega, ?_, settled.effected⟩
  have handed : system.accepted.length - system.runtime.count.toNat =
      (system.gated.map (·.1)).length := by omega
  rw [handed, accepted, List.take_left]

theorem Settled.start {runtime : MicroRuntime} {safetyGate effector context : Option Nat}
    (started : microInit size safetyGate effector context = .ok runtime) :
    (start runtime).Settled size := by
  unfold microInit at started
  split at started
  · cases started
  · cases started
    exact ⟨⟨by simp [MicroSystem.start, MicroRuntime.known], ⟨rfl, Nat.zero_le _⟩, rfl⟩, rfl⟩

/-- A call of a callback leaves the queue alone. -/
theorem Queued.same {later : MicroSystem} (queued : system.Queued size done)
    (runtime : later.runtime = system.runtime) (accepted : later.accepted = system.accepted) :
    later.Queued size done := by
  have waits : later.waiting = system.waiting := by
    rw [waiting, waiting, runtime]
  refine ⟨by rw [runtime]; exact queued.known, ⟨?_, ?_⟩, ?_⟩
  · rw [runtime]
    exact queued.ring.tail
  · rw [runtime]
    exact queued.ring.bounded
  · rw [accepted, waits]
    exact queued.accepted

/-- Every moment of a tick whose frame is at the head. -/
theorem Queued.inits (queued : system.Queued size done) (frames : List (Option NmpFrame)) :
    ∀ moment ∈ frames.inits.map (system.submits size), moment.InRing := by
  intro moment member
  obtain ⟨front, _, rfl⟩ := List.mem_map.mp member
  exact (queued.submits front).ring

/-- The end of a tick: the frame that the gate has had, and the effector if the gate let
it pass, leaves the queue. -/
theorem Settled.finish (settled : system.Settled size) {last : MicroSystem} {result : Int32}
    (queued : last.Queued size (system.gated.map (·.1))) (some : last.runtime.count ≠ 0)
    (gated : last.gated = system.gated ++ [(last.runtime.front, result)])
    (effected : last.effected =
      system.effected ++ if result = 0 then [] else [last.runtime.front]) :
    last.pop.Settled size := by
  constructor
  · show last.pop.Queued size (last.gated.map (·.1))
    rw [gated, List.map_append]
    exact queued.pop some
  · show last.effected = (last.gated.filter (·.2 ≠ 0)).map (·.1)
    rw [effected, gated, settled.effected]
    by_cases denied : result = 0
    · simp [denied]
    · simp [denied]

/-- What a tick does that has a frame: the gate and, where the gate lets it pass, the
effector get the first frame that waits, and it is done. -/
theorem Settled.tick (settled : system.Settled size) (some : system.runtime.count ≠ 0)
    (safetyGate effector : MicroCallback) :
    (system.tick size safetyGate effector).2.Settled size ∧
      ∀ moment ∈ system.moments size (.tick safetyGate effector), moment.InRing := by
  have ready : ¬ (system.runtime.known size = false ∨ system.runtime.count = 0) := by
    rintro (unknown | none)
    · rw [settled.queued.known] at unknown
      cases unknown
    · exact some none
  -- The gate has the frame, and submits.
  have asked : (system.callGate safetyGate.result).Queued size (system.gated.map (·.1)) :=
    settled.queued.same rfl rfl
  obtain ⟨gated, effected, grown⟩ := submits_frame size (system.callGate safetyGate.result)
    safetyGate.submits
  have passed := asked.submits safetyGate.submits
  obtain ⟨still, front⟩ := asked.front_same some passed grown
  have gateMoments := asked.inits safetyGate.submits
  have called : (system.tick size safetyGate effector) = _ := if_neg ready
  have moments : system.moments size (.tick safetyGate effector) = _ := if_neg ready
  rw [moments, call, called]
  generalize (system.callGate safetyGate.result).submits size safetyGate.submits = gateDone
    at gated effected grown passed still front ⊢
  by_cases denied : safetyGate.result = 0
  · rw [if_pos denied, if_pos denied]
    have ended : gateDone.pop.Settled size := by
      apply settled.finish passed still
      · rw [gated, front]
        rfl
      · rw [effected, if_pos denied, List.append_nil]
        rfl
    refine ⟨ended, ?_⟩
    intro moment member
    simp only [List.append_nil, List.mem_append, List.mem_singleton] at member
    rcases member with (rfl | inGate) | rfl
    · exact settled.queued.ring
    · exact gateMoments moment inGate
    · exact ended.queued.ring
  · -- The effector has the same frame, and submits.
    rw [if_neg denied, if_neg denied]
    have handed : gateDone.callEffector.Queued size (system.gated.map (·.1)) :=
      passed.same rfl rfl
    obtain ⟨gated', effected', grown'⟩ := submits_frame size gateDone.callEffector effector.submits
    have done := handed.submits effector.submits
    obtain ⟨still', front'⟩ := handed.front_same still done grown'
    have effectMoments := handed.inits effector.submits
    generalize gateDone.callEffector.submits size effector.submits = effectDone
      at gated' effected' grown' done still' front' ⊢
    have ended : effectDone.pop.Settled size := by
      apply settled.finish done still'
      · rw [gated', front']
        show gateDone.gated = system.gated ++ [(gateDone.runtime.front, safetyGate.result)]
        rw [gated, front]
        rfl
      · rw [effected', if_neg denied, front']
        show gateDone.effected ++ [gateDone.runtime.front] = _
        rw [effected]
        rfl
    have outcome : (if effector.result ≠ 0 then (MicroResult.effectFailed, effectDone.pop)
        else (.ok, effectDone.pop)).2 = effectDone.pop := by
      split <;> rfl
    rw [outcome]
    refine ⟨ended, ?_⟩
    intro moment member
    simp only [List.mem_append, List.mem_singleton] at member
    rcases member with ((rfl | inGate) | inEffect) | rfl
    · exact settled.queued.ring
    · exact gateMoments moment inGate
    · exact effectMoments moment inEffect
    · exact ended.queued.ring

/-- Every call keeps the queue settled, with all its moments in the ring. -/
theorem Settled.call (settled : system.Settled size) (call : MicroCall) :
    (system.call size call).2.Settled size ∧
      ∀ moment ∈ system.moments size call, moment.InRing := by
  cases call with
  | submit frame =>
      have later : (system.submit size frame).2.Settled size := by
        obtain ⟨gated, effected, _⟩ := submits_frame size system [frame]
        have queued := settled.queued.submit frame
        constructor
        · show (system.submit size frame).2.Queued size
            ((system.submits size [frame]).gated.map (·.1))
          rw [gated]
          exact queued
        · show (system.submits size [frame]).effected =
            ((system.submits size [frame]).gated.filter (·.2 ≠ 0)).map (·.1)
          rw [gated, effected]
          exact settled.effected
      refine ⟨later, ?_⟩
      intro moment member
      rw [moments, List.mem_cons, List.mem_singleton] at member
      rcases member with rfl | rfl
      · exact settled.queued.ring
      · exact later.queued.ring
  | tick safetyGate effector =>
      by_cases some : system.runtime.count = 0
      · have idle : system.tick size safetyGate effector = (.invalid, system) :=
          if_pos (.inr some)
        have only : system.moments size (.tick safetyGate effector) = [system] :=
          if_pos (.inr some)
        refine ⟨?_, ?_⟩
        · show (system.tick size safetyGate effector).2.Settled size
          rw [idle]
          exact settled
        · rw [only]
          intro moment member
          rw [List.mem_singleton.mp member]
          exact settled.queued.ring
      · exact settled.tick some safetyGate effector

theorem Settled.run (settled : system.Settled size) (calls : List MicroCall) :
    (system.run size calls).Settled size := by
  induction calls generalizing system with
  | nil => exact settled
  | cons call rest ih => exact ih (settled.call call).1

/-- A call that returns INVALID or QUEUE_FULL does nothing. -/
theorem call_rejected {call : MicroCall}
    (rejected : (system.call size call).1 = .invalid ∨ (system.call size call).1 = .queueFull) :
    (system.call size call).2 = system := by
  cases call with
  | submit frame =>
      apply submit_rejected
      intro accepted
      change (system.submit size frame).1 = .invalid ∨ (system.submit size frame).1 = .queueFull
        at rejected
      rw [accepted] at rejected
      rcases rejected with other | other <;> cases other
  | tick safetyGate effector =>
      change (system.tick size safetyGate effector).1 = .invalid ∨
        (system.tick size safetyGate effector).1 = .queueFull at rejected
      show (system.tick size safetyGate effector).2 = system
      unfold tick at rejected ⊢
      by_cases idle : system.runtime.known size = false ∨ system.runtime.count = 0
      · rw [if_pos idle]
      · rw [if_neg idle] at rejected
        by_cases denied : safetyGate.result = 0
        · rw [if_pos denied] at rejected
          rcases rejected with other | other <;> cases other
        · rw [if_neg denied] at rejected
          by_cases failed : effector.result ≠ 0
          · rw [if_pos failed] at rejected
            rcases rejected with other | other <;> cases other
          · rw [if_neg failed] at rejected
            rcases rejected with other | other <;> cases other

end MicroSystem

/-- After any calls on an initialised runtime the gate has had the accepted frames but the
waiting ones in order, and the effector those that passed. In every moment of the next
call, also inside its callbacks, the ring is intact, and a rejected call or submission
changes nothing. -/
theorem micro_queue_faithful (size : UInt32) (safetyGate effector context : Option Nat)
    (runtime : MicroRuntime) (calls : List MicroCall)
    (started : microInit size safetyGate effector context = .ok runtime) :
    ((MicroSystem.start runtime).run size calls).InOrder ∧
    ∀ call, (∀ moment ∈ ((MicroSystem.start runtime).run size calls).moments size call,
        moment.InRing ∧ ∀ frame, (moment.submit size frame).1 ≠ .ok →
          (moment.submit size frame).2 = moment) ∧
      ((((MicroSystem.start runtime).run size calls).call size call).1 = .invalid ∨
        (((MicroSystem.start runtime).run size calls).call size call).1 = .queueFull →
          (((MicroSystem.start runtime).run size calls).call size call).2 =
            (MicroSystem.start runtime).run size calls) := by
  have settled := (MicroSystem.Settled.start started).run calls
  refine ⟨settled.inOrder, ?_⟩
  intro call
  refine ⟨?_, MicroSystem.call_rejected⟩
  intro moment member
  exact ⟨(settled.call call).2 moment member, fun _ => MicroSystem.submit_rejected⟩

def sampleFrame : NmpFrame :=
  let blank : NmpFrame := { NmpFrame.zero with magic := nmpMagic, version := nmpVersion }
  { blank with checksum := nmpChecksum (some blank) }

/-- A frame is submitted, and the gate submits it again before it lets it pass. -/
def sampleCalls : List MicroCall :=
  [.submit (some sampleFrame), .tick ⟨[some sampleFrame], 1⟩ ⟨[], 0⟩]

theorem micro_queue_faithful_sample : ∃ runtime,
    microInit 2300 (some 1) (some 2) none = .ok runtime ∧
      ((MicroSystem.start runtime).run 2300 sampleCalls).accepted = [sampleFrame, sampleFrame] ∧
      ((MicroSystem.start runtime).run 2300 sampleCalls).effected = [sampleFrame] ∧
      ((MicroSystem.start runtime).run 2300 sampleCalls).InOrder := by
  refine ⟨_, rfl, ?_, ?_, ?_⟩
  · rfl
  · rfl
  · exact (micro_queue_faithful 2300 (some 1) (some 2) none _ sampleCalls rfl).1

end NousKernel
