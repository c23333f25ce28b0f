import Mathlib.Data.List.Basic
import Mathlib.Data.List.Induction

/-!
Texts joined by a separator, and the last event of its kind in a list.
-/

set_option autoImplicit false

namespace Separators

variable {α : Type}

/-- Two ways to split one text at a separator: they are the same, or the part
before the one separator runs on past the other. -/
theorem split_any {first second rest rest' : List α} {separator : α}
    (same : first ++ separator :: rest = second ++ separator :: rest') :
    (first = second ∧ rest = rest') ∨
      (∃ part, second = first ++ separator :: part ∧ rest = part ++ separator :: rest') ∨
      ∃ part, first = second ++ separator :: part ∧ rest' = part ++ separator :: rest := by
  rcases List.append_eq_append_iff.mp same with ⟨more, longer, others⟩ | ⟨more, longer, others⟩
  · cases more with
    | nil => exact .inl ⟨by rw [longer, List.append_nil], (List.cons.inj others).2⟩
    | cons head part =>
        obtain ⟨rfl, rests⟩ := List.cons.inj others
        exact .inr (.inl ⟨part, longer, rests⟩)
  · cases more with
    | nil => exact .inl ⟨by rw [longer, List.append_nil], (List.cons.inj others).2.symm⟩
    | cons head part =>
        obtain ⟨rfl, rests⟩ := List.cons.inj others
        exact .inr (.inr ⟨part, longer, rests⟩)

/-- Two texts that are split at their first separator. -/
theorem split_first {first second rest rest' : List α} {separator : α} (free : separator ∉ first)
    (free' : separator ∉ second) (same : first ++ separator :: rest = second ++ separator :: rest') :
    first = second ∧ rest = rest' := by
  rcases split_any same with equal | ⟨part, longer, -⟩ | ⟨part, longer, -⟩
  · exact equal
  · rw [longer] at free'
    exact absurd (by simp) free'
  · rw [longer] at free
    exact absurd (by simp) free

/-- Two texts that are split at their last separator. -/
theorem split_last {first second rest rest' : List α} {separator : α} (free : separator ∉ rest)
    (free' : separator ∉ rest') (same : first ++ separator :: rest = second ++ separator :: rest') :
    first = second ∧ rest = rest' := by
  have mirrored := congrArg List.reverse same
  simp only [List.reverse_append, List.reverse_cons, List.append_assoc, List.singleton_append]
    at mirrored
  obtain ⟨rests, firsts⟩ := split_first (by simpa using free) (by simpa using free') mirrored
  exact ⟨List.reverse_injective firsts, List.reverse_injective rests⟩

/-- Some event sets, and no later one clears. -/
def Lately (sets clears : α → Prop) (events : List α) : Prop :=
  ∃ before event after, events = before ++ event :: after ∧ sets event ∧
    ∀ later ∈ after, ¬ clears later

theorem lately_nil (sets clears : α → Prop) : ¬ Lately sets clears [] := by
  rintro ⟨before, event, after, split, -⟩
  simp at split

theorem lately_snoc (sets clears : α → Prop) (events : List α) (event : α) :
    Lately sets clears (events ++ [event]) ↔
      sets event ∨ ¬ clears event ∧ Lately sets clears events := by
  constructor
  · rintro ⟨before, other, after, split, set, unclear⟩
    rcases List.eq_nil_or_concat after with rfl | ⟨front, last, rfl⟩
    · obtain ⟨-, last⟩ := List.append_inj' split rfl
      rw [List.cons.inj last |>.1]
      exact .inl set
    · rw [List.concat_eq_append, ← List.cons_append, ← List.append_assoc] at split
      obtain ⟨fronts, lasts⟩ := List.append_inj' split rfl
      rw [List.cons.inj lasts |>.1]
      exact .inr ⟨unclear last (by simp), before, other, front, fronts, set,
        fun later member => unclear later (by simp [member])⟩
  · rintro (set | ⟨unclear, before, other, after, rfl, set, unclears⟩)
    · exact ⟨events, event, [], rfl, set, by simp⟩
    · refine ⟨before, other, after ++ [event], by simp, set, fun later member => ?_⟩
      rcases List.mem_append.mp member with old | new
      · exact unclears later old
      · rw [List.mem_singleton.mp new]
        exact unclear

/-- A longer history has lately what its end or what it started with had lately. -/
theorem lately_append {sets clears : α → Prop} {first second : List α}
    (lately : Lately sets clears (first ++ second)) :
    Lately sets clears second ∨ Lately sets clears first := by
  induction second using List.reverseRecOn with
  | nil =>
      rw [List.append_nil] at lately
      exact .inr lately
  | append_singleton second event ih =>
      rw [← List.append_assoc, lately_snoc] at lately
      rw [lately_snoc]
      rcases lately with set | ⟨unclear, before⟩
      · exact .inl (.inl set)
      · rcases ih before with late | early
        · exact .inl (.inr ⟨unclear, late⟩)
        · exact .inr early

theorem lately_suffix {sets clears : α → Prop} {first second : List α}
    (lately : Lately sets clears second) : Lately sets clears (first ++ second) := by
  obtain ⟨before, event, after, rfl, set, unclear⟩ := lately
  exact ⟨first ++ before, event, after, (List.append_assoc _ _ _).symm, set, unclear⟩

/-- Events that neither set nor clear can be left out. -/
theorem lately_filter {sets clears : α → Prop} {keep : α → Bool} {events : List α}
    (setsKept : ∀ event, sets event → keep event = true)
    (clearsKept : ∀ event, clears event → keep event = true) :
    Lately sets clears (events.filter keep) ↔ Lately sets clears events := by
  induction events using List.reverseRecOn with
  | nil => rfl
  | append_singleton events event ih =>
      rw [List.filter_append, List.filter_singleton, lately_snoc]
      cases kept : keep event with
      | true => rw [cond_true, lately_snoc, ih]
      | false =>
          have noSet : ¬ sets event := by
            intro set
            rw [setsKept event set] at kept
            cases kept
          have noClear : ¬ clears event := by
            intro clear
            rw [clearsKept event clear] at kept
            cases kept
          rw [cond_false, List.append_nil, ih]
          simp [noSet, noClear]

end Separators
