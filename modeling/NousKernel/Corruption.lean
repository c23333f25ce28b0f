import Mathlib.Data.List.FinRange
import NousKernel.Micro
import NousKernel.Mixing

/-!
What the checksum of a frame detects (`nous_nmp_checksum_v1` and `nous_micro_submit_v1` of
`micro/src/nous_micro.c`). Each round loses neither the state nor the word, since the
multiplier is odd, so no change of one hashed word goes unnoticed.
-/

set_option autoImplicit false

namespace NousKernel

/-! ### One round -/

/-- The multiplier has an inverse modulo 2^32. -/
theorem mix_factor_inverse : (16777619 : UInt32) * 899433627 = 1 := by decide

theorem mul_factor_injective : Function.Injective fun value : UInt32 => value * 16777619 := by
  intro first second same
  have undone : first * 16777619 * 899433627 = second * 16777619 * 899433627 :=
    congrArg (· * 899433627) same
  rwa [UInt32.mul_assoc, UInt32.mul_assoc, mix_factor_inverse, UInt32.mul_one, UInt32.mul_one]
    at undone

theorem mix_lossless : Mixing.Lossless mix where
  state word _ _ same := (UInt32.xor_left_inj word).mp (mul_factor_injective same)
  word state _ _ same := (UInt32.xor_right_inj state).mp (mul_factor_injective same)

/-! ### The hashed words -/

/-- The words of a frame that the checksum may cover. -/
inductive FrameWord where
  | messageType
  | flags
  | sequenceLow
  | sequenceHigh
  | payload (index : Fin 256)
  deriving DecidableEq

namespace NmpFrame

variable {frame first second : NmpFrame}

def word (frame : NmpFrame) : FrameWord → UInt32
  | .messageType => frame.messageType.toUInt32
  | .flags => frame.flags
  | .sequenceLow => frame.sequence.toUInt32
  | .sequenceHigh => (frame.sequence >>> 32).toUInt32
  | .payload index => frame.payload[index].toUInt32

/-- The words that the checksum covers, in its order. -/
def hashed (frame : NmpFrame) : List FrameWord :=
  [.messageType, .flags, .sequenceLow, .sequenceHigh] ++
    ((List.finRange 256).take frame.payloadLength.toNat).map .payload

theorem hashed_nodup (frame : NmpFrame) : frame.hashed.Nodup := by
  have once : (((List.finRange 256).take frame.payloadLength.toNat).map
      FrameWord.payload).Nodup := by
    refine List.Nodup.map ?_ ((List.nodup_finRange 256).sublist (List.take_sublist _ _))
    intro one two same
    exact FrameWord.payload.inj same
  rw [hashed, List.nodup_append]
  refine ⟨by decide, once, ?_⟩
  rintro fixed member _ paid rfl
  obtain ⟨index, -, rfl⟩ := List.mem_map.mp paid
  simp at member

theorem payload_toList (payload : Vector UInt8 256) :
    payload.toList = (List.finRange 256).map fun index => payload[index] := by
  apply List.ext_getElem
  · simp
  · intro index bound bound'
    simp

/-- The checksum mixes the hashed words one after another. -/
theorem nmpChecksum_eq (short : frame.payloadLength.toNat ≤ microPayloadCapacity) :
    nmpChecksum (some frame) = (frame.hashed.map frame.word).foldl mix 2166136261 := by
  rw [nmpChecksum, if_neg (Nat.not_lt.mpr short), payload_toList, ← List.map_take,
    List.foldl_map, hashed, List.map_append, List.foldl_append, List.map_map, List.foldl_map]
  rfl

/-! ### One corrupted word -/

/-- Two frames of one payload length that agree on all hashed words but one. -/
structure CorruptedIn (word : FrameWord) (first second : NmpFrame) : Prop where
  length : second.payloadLength = first.payloadLength
  covered : word ∈ first.hashed
  differ : first.word word ≠ second.word word
  agree : ∀ other ∈ first.hashed, other ≠ word → first.word other = second.word other

variable {word : FrameWord}

theorem CorruptedIn.hashed (corrupted : CorruptedIn word first second) :
    second.hashed = first.hashed := by
  rw [NmpFrame.hashed, corrupted.length, NmpFrame.hashed]

theorem CorruptedIn.checksum (corrupted : CorruptedIn word first second)
    (short : first.payloadLength.toNat ≤ microPayloadCapacity) :
    nmpChecksum (some first) ≠ nmpChecksum (some second) := by
  have apart := Mixing.oneApart_map first.hashed_nodup corrupted.covered corrupted.differ
    corrupted.agree
  rw [nmpChecksum_eq short, nmpChecksum_eq (corrupted.length ▸ short), corrupted.hashed]
  exact mix_lossless.apart apart 2166136261

end NmpFrame

/-- A frame whose checksum field is not its checksum is turned away. -/
theorem microSubmit_mismatch (size : UInt32) (runtime : MicroRuntime) {frame : NmpFrame}
    (mismatch : frame.checksum ≠ nmpChecksum (some frame)) :
    microSubmit size runtime (some frame) = (.invalid, runtime) := by
  have refused : frame.accepted = false := by
    simp [NmpFrame.accepted, mismatch]
  exact if_pos (.inr refused)

/-- The checksum tells two frames apart that differ in one hashed word, and a frame that was
right before one word changed is rejected. -/
theorem corrupted_frame_rejected (first second : NmpFrame) (word : FrameWord)
    (corrupted : NmpFrame.CorruptedIn word first second)
    (short : first.payloadLength.toNat ≤ microPayloadCapacity) :
    nmpChecksum (some first) ≠ nmpChecksum (some second) ∧
      (first.checksum = nmpChecksum (some first) → second.checksum = first.checksum →
        ∀ size runtime, microSubmit size runtime (some second) = (.invalid, runtime)) := by
  have apart := corrupted.checksum short
  refine ⟨apart, ?_⟩
  intro right kept size runtime
  apply microSubmit_mismatch
  rw [kept, right]
  exact apart

/-- The sample frame with a flag set on the way. -/
def flaggedFrame : NmpFrame := { sampleFrame with flags := 1 }

theorem corrupted_frame_flagged : ∃ runtime,
    microInit 2300 (some 1) (some 2) none = .ok runtime ∧
      microSubmit 2300 runtime (some sampleFrame) = (.ok, runtime.push sampleFrame) ∧
      microSubmit 2300 runtime (some flaggedFrame) = (.invalid, runtime) := by
  have corrupted : NmpFrame.CorruptedIn .flags sampleFrame flaggedFrame := by
    refine ⟨rfl, .tail _ (.head _), by decide, ?_⟩
    intro other _ different
    cases other with
    | flags => exact absurd rfl different
    | messageType | sequenceLow | sequenceHigh | payload index => rfl
  have short : sampleFrame.payloadLength.toNat ≤ microPayloadCapacity := by decide
  obtain ⟨-, rejected⟩ :=
    corrupted_frame_rejected sampleFrame flaggedFrame .flags corrupted short
  exact ⟨_, rfl, rfl, rejected rfl rfl 2300 _⟩

end NousKernel
