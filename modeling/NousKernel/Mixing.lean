import Mathlib.Data.List.Nodup
import Mathlib.Logic.Function.Basic

/-!
Words that are mixed one after another into a state. Where no step loses the state or the
word, two texts that differ in one word end in different states.
-/

set_option autoImplicit false

namespace Mixing

variable {S W K : Type}

/-- A step that can be undone when the word is known, and that tells words apart when the
state is known. -/
structure Lossless (mix : S → W → S) : Prop where
  state : ∀ word, Function.Injective fun state => mix state word
  word : ∀ state, Function.Injective (mix state)

section Lossless

variable {mix : S → W → S}

/-- What is mixed in later does not bring two states together. -/
theorem Lossless.foldl (lossless : Lossless mix) (words : List W) :
    Function.Injective fun state => words.foldl mix state := by
  induction words with
  | nil => exact Function.injective_id
  | cons word rest ih =>
      intro first second same
      have mixed : mix first word = mix second word := ih same
      exact lossless.state word mixed

/-- Two texts with another word in one place. -/
def OneApart (first second : List W) : Prop :=
  ∃ before word other after, first = before ++ word :: after ∧
    second = before ++ other :: after ∧ word ≠ other

theorem Lossless.apart (lossless : Lossless mix) {first second : List W}
    (apart : OneApart first second) (state : S) :
    first.foldl mix state ≠ second.foldl mix state := by
  obtain ⟨before, word, other, after, rfl, rfl, differ⟩ := apart
  rw [List.foldl_append, List.foldl_append, List.foldl_cons, List.foldl_cons]
  intro same
  have mixed := lossless.foldl after same
  exact differ (lossless.word _ mixed)

/-- Two readings of one list of places that agree in all places but one. -/
theorem oneApart_map {places : List K} {first second : K → W} {place : K} (once : places.Nodup)
    (listed : place ∈ places) (differ : first place ≠ second place)
    (agree : ∀ other ∈ places, other ≠ place → first other = second other) :
    OneApart (places.map first) (places.map second) := by
  obtain ⟨before, after, rfl⟩ := List.append_of_mem listed
  have alone := List.nodup_middle.mp once
  rw [List.nodup_cons, List.mem_append, not_or] at alone
  obtain ⟨⟨absent, absent'⟩, -⟩ := alone
  have front : before.map first = before.map second := by
    apply List.map_congr_left
    intro other member
    exact agree other (List.mem_append_left _ member) fun same => absent (same ▸ member)
  have back : after.map first = after.map second := by
    apply List.map_congr_left
    intro other member
    exact agree other (List.mem_append_right _ (.tail _ member)) fun same => absent' (same ▸ member)
  refine ⟨before.map first, first place, second place, after.map first, ?_, ?_, differ⟩
  · rw [List.map_append, List.map_cons]
  · rw [List.map_append, List.map_cons, front, back]

end Lossless

end Mixing
