import NousKernel.Feasibility

/-!
The estimator of the resources of a model (`nous-resource/src/lib.rs`), and whether a model
that is admitted by its estimate fits. Products and sums of `u64` wrap, as in a release build.
-/

set_option autoImplicit false

namespace NousKernel

def kvBytesPerToken (quantizationBits : Nat) : Nat := if quantizationBits ≤ 4 then 512 else 1024

def estimateResources (modelParams contextLength maxOutputTokens quantizationBits : Nat) :
    ResourceVector :=
  let bytesPerParam := quantizationBits / 8
  let weightBytes := modelParams * bytesPerParam % 2 ^ 64
  let kvCacheBytes := kvBytesPerToken quantizationBits * contextLength % 2 ^ 64
  let outputBuffer := maxOutputTokens * kvBytesPerToken quantizationBits % 2 ^ 64
  { deviceMemoryBytes := ((weightBytes + kvCacheBytes) % 2 ^ 64 + outputBuffer) % 2 ^ 64
    ramBytes := weightBytes
    kvCacheBytes := kvCacheBytes }

/-- The weights, the cache and the output buffer, with nothing lost. -/
def exactDeviceMemory (modelParams contextLength maxOutputTokens quantizationBits : Nat) : Nat :=
  modelParams * quantizationBits / 8 + kvBytesPerToken quantizationBits * contextLength +
    maxOutputTokens * kvBytesPerToken quantizationBits

section

variable (modelParams contextLength maxOutputTokens quantizationBits : Nat)

/-- What the division of the bit width leaves out of the weights. -/
theorem weight_split : modelParams * quantizationBits / 8 =
    modelParams * (quantizationBits / 8) + modelParams * (quantizationBits % 8) / 8 := by
  have parts : modelParams * quantizationBits =
      modelParams * (quantizationBits % 8) + 8 * (modelParams * (quantizationBits / 8)) := by
    rw [Nat.mul_left_comm, ← Nat.mul_add, Nat.mod_add_div]
  rw [parts, Nat.add_mul_div_left _ _ (by decide), Nat.add_comm]

/-- The estimate covers the exact size where no bits of the width are left out and nothing wraps. -/
theorem exact_le_estimate_iff :
    exactDeviceMemory modelParams contextLength maxOutputTokens quantizationBits ≤
        (estimateResources modelParams contextLength maxOutputTokens
          quantizationBits).deviceMemoryBytes ↔
      modelParams * (quantizationBits % 8) < 8 ∧
        exactDeviceMemory modelParams contextLength maxOutputTokens quantizationBits < 2 ^ 64 := by
  rw [exactDeviceMemory, weight_split]
  simp only [estimateResources]
  generalize modelParams * (quantizationBits / 8) = weights
  generalize modelParams * (quantizationBits % 8) = leftOut
  generalize kvBytesPerToken quantizationBits * contextLength = cache
  generalize maxOutputTokens * kvBytesPerToken quantizationBits = output
  omega

end

theorem admitted_available {controller : AdmissionController} {spec : WorkloadSpec} {nowUs : Int}
    (admitted : controller.admitWorkload spec nowUs = .admitted) :
    spec.minimum.Within controller.systemDomain.available := by
  rw [← ResourceVector.fitsWithin_iff]
  unfold AdmissionController.admitWorkload at admitted
  dsimp only at admitted
  by_contra scarce
  have refused : controller.systemDomain.canFit spec.minimum = false := by
    simpa [ResourceDomain.canFit] using scarce
  simp only [refused, Bool.not_false, if_true] at admitted
  split at admitted
  · cases admitted
  · split at admitted
    · cases admitted
    · cases admitted

/-- Wherever a model is admitted by its estimate, it fits in the available device memory. -/
def AdmittedFits (modelParams contextLength maxOutputTokens quantizationBits : Nat) : Prop :=
  ∀ (controller : AdmissionController) (spec : WorkloadSpec) (nowUs : Int),
    spec.minimum = estimateResources modelParams contextLength maxOutputTokens quantizationBits →
    controller.admitWorkload spec nowUs = .admitted →
      exactDeviceMemory modelParams contextLength maxOutputTokens quantizationBits ≤
        controller.systemDomain.available.deviceMemoryBytes

/-- A domain of a capacity of which nothing is used. -/
def emptyDomain (capacity : ResourceVector) : ResourceDomain := ⟨"system", none, capacity, {}, {}⟩

/-- A workload that needs exactly the capacity is admitted. -/
theorem admitted_emptyDomain (capacity : ResourceVector) :
    AdmissionController.admitWorkload ⟨emptyDomain capacity⟩ { minimum := capacity } 0 = .admitted := by
  have available : (emptyDomain capacity).available = capacity := rfl
  have fits : capacity.fitsWithin capacity = true := by simp [ResourceVector.fitsWithin]
  have capacity_eq : (emptyDomain capacity).capacity = capacity := rfl
  simp [AdmissionController.admitWorkload, ResourceDomain.canFit, available, capacity_eq, fits,
    AdmissionController.validateSecurity]

theorem admitted_fits_iff (modelParams contextLength maxOutputTokens quantizationBits : Nat) :
    AdmittedFits modelParams contextLength maxOutputTokens quantizationBits ↔
      modelParams * (quantizationBits % 8) < 8 ∧
        exactDeviceMemory modelParams contextLength maxOutputTokens quantizationBits < 2 ^ 64 := by
  rw [← exact_le_estimate_iff]
  constructor
  · intro fits
    exact fits ⟨emptyDomain _⟩ { minimum := _ } 0 rfl (admitted_emptyDomain _)
  · intro covered controller spec nowUs same admitted
    have within := (admitted_available admitted).deviceMemoryBytes
    rw [same] at within
    exact covered.trans within

/-- Seven billion parameters of four bits count for nothing. -/
theorem admitted_too_large :
    ¬∀ modelParams contextLength maxOutputTokens quantizationBits, 1 ≤ quantizationBits →
      AdmittedFits modelParams contextLength maxOutputTokens quantizationBits := by
  intro fitting
  have fits := fitting 7000000000 4096 512 4 (by decide)
  have within := fits ⟨emptyDomain (estimateResources 7000000000 4096 512 4)⟩
    { minimum := estimateResources 7000000000 4096 512 4 } 0 rfl (admitted_emptyDomain _)
  exact absurd within (by decide)

end NousKernel
