import Mathlib.Data.List.Destutter
import Mathlib.Data.List.Sort
import NousKernel.GraphDiff

/-!
The assessment of a merge (`nous-intelligence/src/model_engineering.rs`). Every source is
compared with the first one; the verdict is that of all pairs, whatever the order.
-/

set_option autoImplicit false

namespace NousKernel

open Results IntelligenceError

inductive MergeStrategy where
  | Linear | Slerp | Ties | Dare | AdapterMerge | Custom
  deriving DecidableEq

structure MergeRequest where
  schemaVersion : Nat
  outputId : String
  strategy : MergeStrategy
  publish : Bool
  sources : List ModelProfile
  parameters : TextMap Value

structure MergeAssessment where
  compatible : Bool
  strategy : MergeStrategy
  reasons : List String
  warnings : List String
  deriving DecidableEq

/-- `sort` and `dedup`. -/
def collated (texts : List String) : List String := (sortTexts texts).destutter (· ≠ ·)

namespace MergeRequest

/-- The reasons against one source, in the order of the checks. -/
def reasons (self : MergeRequest) (baseline source : ModelProfile) : List String :=
  (if source.model.kind ≠ baseline.model.kind then
    [source.model.id ++ " has a different model kind"] else []) ++
  (if source.architecture.architectureId ≠ baseline.architecture.architectureId then
    [source.model.id ++ " has a different architecture"] else []) ++
  (if source.architecture.tokenizerDigest ≠ baseline.architecture.tokenizerDigest then
    [source.model.id ++ " has an incompatible tokenizer"] else []) ++
  (if self.strategy ≠ .AdapterMerge ∧
      source.architecture.tensorShapesDigest ≠ baseline.architecture.tensorShapesDigest then
    [source.model.id ++ " has incompatible tensor shapes"] else []) ++
  (if source.license.derivativeWorks ≠ some true then
    [source.model.id ++ " license does not explicitly permit derivative works"] else []) ++
  (if self.publish ∧ source.license.redistribution ≠ some true then
    [source.model.id ++ " license does not explicitly permit redistribution"] else [])

def warnings (source : ModelProfile) : List String :=
  if source.license.commercialUse = none then
    [source.model.id ++ " commercial-use permission is unknown"] else []

/-- The checks before the comparison. -/
def check (self : MergeRequest) : Except IntelligenceError Unit := do
  let object := "MergeRequest"
  IntelligenceError.schema object self.schemaVersion
  require object "output_id" self.outputId
  ensure (2 ≤ self.sources.length) object "sources" "at least two source models are required"
  self.sources.forM (·.validate)

/-- The comparison with the first source. -/
def compared (self : MergeRequest) (baseline : ModelProfile) : MergeAssessment :=
  let reasons := collated (self.sources.flatMap (self.reasons baseline))
  { compatible := reasons.isEmpty
    strategy := self.strategy
    reasons := reasons
    warnings := collated (self.sources.flatMap warnings) }

end MergeRequest

def assessMerge (request : MergeRequest) : Except IntelligenceError MergeAssessment := do
  request.check
  match request.sources with
  -- The check wants two sources, so there is a first one.
  | [] => throw (.Invalid "MergeRequest" "sources" "at least two source models are required")
  | baseline :: _ => return request.compared baseline

/-- All sources agree with each other, and each permits what the merge needs. -/
structure MergeRequest.Mergeable (request : MergeRequest) : Prop where
  kind : ∀ first ∈ request.sources, ∀ second ∈ request.sources, first.model.kind = second.model.kind
  architecture : ∀ first ∈ request.sources, ∀ second ∈ request.sources,
    first.architecture.architectureId = second.architecture.architectureId
  tokenizer : ∀ first ∈ request.sources, ∀ second ∈ request.sources,
    first.architecture.tokenizerDigest = second.architecture.tokenizerDigest
  tensorShapes : request.strategy ≠ .AdapterMerge →
    ∀ first ∈ request.sources, ∀ second ∈ request.sources,
      first.architecture.tensorShapesDigest = second.architecture.tensorShapesDigest
  derivativeWorks : ∀ source ∈ request.sources, source.license.derivativeWorks = some true
  redistribution : request.publish = true → ∀ source ∈ request.sources,
    source.license.redistribution = some true

/-! ### Sorted texts -/

section Texts

variable {first second texts : List String}

theorem sortTexts_eq_of_perm (same : first.Perm second) : sortTexts first = sortTexts second := by
  have permuted : (sortTexts first).Perm (sortTexts second) :=
    ((List.mergeSort_perm first _).trans same).trans (List.mergeSort_perm second _).symm
  exact permuted.eq_of_pairwise' (List.pairwise_mergeSort' (· ≤ ·) first)
    (List.pairwise_mergeSort' (· ≤ ·) second)

theorem collated_eq_of_perm (same : first.Perm second) : collated first = collated second := by
  rw [collated, collated, sortTexts_eq_of_perm same]

theorem collated_isEmpty : (collated texts).isEmpty = true ↔ texts = [] := by
  rw [List.isEmpty_iff, collated]
  constructor
  · intro none
    have unsorted : sortTexts texts = [] := by
      cases sorted : sortTexts texts with
      | nil => rfl
      | cons text rest =>
          rw [sorted, List.destutter_cons'] at none
          exact absurd none (List.destutter'_ne_nil _ _)
    have length : texts.length = 0 := by
      rw [← List.length_mergeSort texts, ← sortTexts, unsorted, List.length_nil]
    exact List.length_eq_zero_iff.mp length
  · rintro rfl
    have unsorted : sortTexts [] = [] := List.mergeSort_nil
    rw [unsorted, List.destutter_nil]

end Texts

/-! ### The order of the sources -/

namespace MergeRequest

variable {self : MergeRequest} {baseline source : ModelProfile} {rest : List ModelProfile}

theorem check_ok : self.check = .ok () ↔
    self.schemaVersion = intelligenceSchemaVersion ∧ isBlank self.outputId = false ∧
      2 ≤ self.sources.length ∧ ∀ source ∈ self.sources, source.validate = .ok () := by
  simp only [check, after_ok, IntelligenceError.schema, ensure_ok, require_ok, forM_ok,
    decide_eq_true_eq]

/-- One source stands against the merge for no reason. -/
theorem reasons_nil : self.reasons baseline source = [] ↔
    source.model.kind = baseline.model.kind ∧
      source.architecture.architectureId = baseline.architecture.architectureId ∧
      source.architecture.tokenizerDigest = baseline.architecture.tokenizerDigest ∧
      (self.strategy ≠ .AdapterMerge →
        source.architecture.tensorShapesDigest = baseline.architecture.tensorShapesDigest) ∧
      source.license.derivativeWorks = some true ∧
      (self.publish = true → source.license.redistribution = some true) := by
  have branch : ∀ (condition : Prop) [Decidable condition] (text : String),
      (if condition then [text] else []) = [] ↔ ¬condition := by
    intro condition _ text
    split <;> simp [*]
  simp only [reasons, List.append_eq_nil_iff, branch, ne_eq, not_not, not_and, and_assoc]

/-- Agreement with one of the sources is agreement of each with each. -/
theorem mergeable_iff (member : baseline ∈ self.sources) :
    (∀ source ∈ self.sources, self.reasons baseline source = []) ↔ self.Mergeable := by
  simp only [reasons_nil]
  constructor
  · intro agree
    exact
      { kind := fun first one second two => (agree first one).1.trans (agree second two).1.symm
        architecture := fun first one second two =>
          (agree first one).2.1.trans (agree second two).2.1.symm
        tokenizer := fun first one second two =>
          (agree first one).2.2.1.trans (agree second two).2.2.1.symm
        tensorShapes := fun full first one second two =>
          ((agree first one).2.2.2.1 full).trans ((agree second two).2.2.2.1 full).symm
        derivativeWorks := fun source listed => (agree source listed).2.2.2.2.1
        redistribution := fun publish source listed => (agree source listed).2.2.2.2.2 publish }
  · intro mergeable source listed
    exact ⟨mergeable.kind source listed baseline member,
      mergeable.architecture source listed baseline member,
      mergeable.tokenizer source listed baseline member,
      fun full => mergeable.tensorShapes full source listed baseline member,
      mergeable.derivativeWorks source listed,
      fun publish => mergeable.redistribution publish source listed⟩

theorem compared_compatible (member : baseline ∈ self.sources) :
    (self.compared baseline).compatible = true ↔ self.Mergeable := by
  rw [← mergeable_iff member, ← List.flatMap_eq_nil_iff]
  exact collated_isEmpty

theorem assessMerge_ok {assessment : MergeAssessment} :
    assessMerge self = .ok assessment ↔ self.check = .ok () ∧
      ∃ baseline ∈ self.sources, self.sources.head? = some baseline ∧
        assessment = self.compared baseline := by
  rw [assessMerge, after_ok]
  cases listed : self.sources with
  | nil => simp [throw, throwThe, MonadExceptOf.throw]
  | cons baseline rest => simp [pure, Except.pure, eq_comm]

theorem assessMerge_total (checked : self.check = .ok ()) :
    ∃ assessment, assessMerge self = .ok assessment := by
  have long := (check_ok.mp checked).2.2.1
  cases listed : self.sources with
  | nil =>
      rw [listed] at long
      exact absurd long (by decide)
  | cons baseline rest =>
      refine ⟨self.compared baseline, assessMerge_ok.mpr ⟨checked, baseline, ?_, ?_, rfl⟩⟩
      · rw [listed]
        exact List.mem_cons_self
      · rw [listed, List.head?_cons]

theorem check_perm {sources : List ModelProfile} (same : self.sources.Perm sources) :
    { self with sources := sources }.check = .ok () ↔ self.check = .ok () := by
  simp only [check_ok, same.length_eq, same.mem_iff]

theorem Mergeable.perm {sources : List ModelProfile} (mergeable : self.Mergeable)
    (same : self.sources.Perm sources) : { self with sources := sources }.Mergeable where
  kind := by simpa only [same.mem_iff] using mergeable.kind
  architecture := by simpa only [same.mem_iff] using mergeable.architecture
  tokenizer := by simpa only [same.mem_iff] using mergeable.tokenizer
  tensorShapes := by simpa only [same.mem_iff] using mergeable.tensorShapes
  derivativeWorks := by simpa only [same.mem_iff] using mergeable.derivativeWorks
  redistribution := by simpa only [same.mem_iff] using mergeable.redistribution

theorem mergeable_perm {sources : List ModelProfile} (same : self.sources.Perm sources) :
    { self with sources := sources }.Mergeable ↔ self.Mergeable :=
  ⟨fun mergeable => mergeable.perm same.symm, fun mergeable => mergeable.perm same⟩

theorem assessMerge_compatible {assessment : MergeAssessment}
    (assessed : assessMerge self = .ok assessment) :
    assessment.compatible = true ↔ self.Mergeable := by
  obtain ⟨-, baseline, member, -, rfl⟩ := assessMerge_ok.mp assessed
  exact compared_compatible member

theorem assessMerge_warnings {assessment : MergeAssessment}
    (assessed : assessMerge self = .ok assessment) :
    assessment.warnings = collated (self.sources.flatMap warnings) := by
  obtain ⟨-, baseline, -, -, rfl⟩ := assessMerge_ok.mp assessed
  rfl

end MergeRequest

/-- The order of the sources decides neither whether a merge can be assessed nor the verdict nor
the warnings, and the verdict is that all sources agree and permit the merge. -/
theorem merge_assessment_symmetric (request : MergeRequest) :
    (∀ sources : List ModelProfile, request.sources.Perm sources →
      ((∃ first, assessMerge request = .ok first) ↔
        ∃ second, assessMerge { request with sources := sources } = .ok second) ∧
      ∀ first second, assessMerge request = .ok first →
        assessMerge { request with sources := sources } = .ok second →
        first.compatible = second.compatible ∧ first.warnings = second.warnings) ∧
      ∀ assessment, assessMerge request = .ok assessment →
        (assessment.compatible = true ↔ request.Mergeable) := by
  refine ⟨fun sources same => ⟨?_, ?_⟩, fun assessment => MergeRequest.assessMerge_compatible⟩
  · constructor
    · rintro ⟨first, assessed⟩
      have checked := (MergeRequest.assessMerge_ok.mp assessed).1
      exact MergeRequest.assessMerge_total ((MergeRequest.check_perm same).mpr checked)
    · rintro ⟨second, assessed⟩
      have checked := (MergeRequest.assessMerge_ok.mp assessed).1
      exact MergeRequest.assessMerge_total ((MergeRequest.check_perm same).mp checked)
  · intro first second one two
    constructor
    · rw [Bool.eq_iff_iff, MergeRequest.assessMerge_compatible one,
        MergeRequest.assessMerge_compatible two, MergeRequest.mergeable_perm same]
    · rw [MergeRequest.assessMerge_warnings one, MergeRequest.assessMerge_warnings two]
      exact collated_eq_of_perm (same.flatMap_right _)

end NousKernel
