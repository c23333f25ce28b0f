import Mathlib.Data.List.Basic
import Mathlib.Algebra.Ring.Nat

/-!
Selection by score: 64-bit floats as ranks, the first of the best of a list, and what
of it a stable sort and a loop over the maximum find.
-/

set_option autoImplicit false

namespace NousKernel

/-- A 64-bit float, as its bits. -/
abbrev Binary64 : Type := BitVec 64

namespace Binary64

def magnitude (x : Binary64) : Nat := x.toNat % 2 ^ 63

/-- The magnitude of the infinities. -/
def infinity : Nat := 0x7ff0000000000000

def isNaN (x : Binary64) : Bool := infinity < x.magnitude

def isFinite (x : Binary64) : Bool := x.magnitude < infinity

def negInfinity : Binary64 := 0xfff0000000000000#64

/-- The place of a float in the total order of all bit patterns. -/
def totalKey (x : Binary64) : Int := if x.msb then -(x.magnitude : Int) - 1 else x.magnitude

/-- The place of a number among the numbers: the two zeros share theirs. -/
def numberKey (x : Binary64) : Int := if x.msb then -(x.magnitude : Int) else x.magnitude

/-- `a > b`, which fails for what is not a number. -/
def exceeds (a b : Binary64) : Bool := !a.isNaN && !b.isNaN && b.numberKey < a.numberKey

/-- `a.partial_cmp(b)`. -/
def partialCmp (a b : Binary64) : Option Ordering :=
  if a.isNaN || b.isNaN then none else some (compare a.numberKey b.numberKey)

theorem negInfinity_isNaN : negInfinity.isNaN = false := by decide

theorem exceeds_iff {a b : Binary64} :
    exceeds a b = true ↔ a.isNaN = false ∧ b.isNaN = false ∧ b.numberKey < a.numberKey := by
  simp [exceeds, and_assoc]

/-- A finite number is above the lower infinity. -/
theorem exceeds_negInfinity {x : Binary64} (finite : x.isFinite = true) :
    exceeds x negInfinity = true := by
  have below : x.magnitude < infinity := of_decide_eq_true finite
  have lowest : negInfinity.numberKey = -(infinity : Int) := by decide
  apply exceeds_iff.mpr
  refine ⟨?_, negInfinity_isNaN, ?_⟩
  · simp only [isNaN, decide_eq_false_iff_not]
    omega
  · rw [lowest, numberKey]
    split <;> omega

end Binary64

namespace Ranking

section First

variable {α : Type} (key : α → Int)

/-- The first of those with the highest key. -/
def first : List α → Option α
  | [] => none
  | a :: rest =>
      match first rest with
      | none => some a
      | some b => if key a < key b then some b else some a

theorem first_none_iff {items : List α} : first key items = none ↔ items = [] := by
  cases items with
  | nil => exact iff_of_true rfl rfl
  | cons a rest =>
      apply iff_of_false
      · rw [first]
        split
        · exact nofun
        · split <;> exact nofun
      · exact nofun

/-- What is before the first of the best is lower, and nothing after it is higher. -/
theorem first_spec {items : List α} {c : α} (found : first key items = some c) :
    ∃ front back, items = front ++ c :: back ∧ (∀ d ∈ front, key d < key c) ∧
      ∀ d ∈ back, key d ≤ key c := by
  induction items generalizing c with
  | nil => cases found
  | cons a rest ih =>
      rw [first] at found
      cases later : first key rest with
      | none =>
          rw [later] at found
          cases found
          rw [(first_none_iff key).mp later]
          exact ⟨[], [], rfl, fun _ absent => absurd absent List.not_mem_nil,
            fun _ absent => absurd absent List.not_mem_nil⟩
      | some b =>
          rw [later] at found
          obtain ⟨front, back, split, lower, upper⟩ := ih later
          by_cases less : key a < key b
          · simp only [if_pos less, Option.some.injEq] at found
            subst found
            refine ⟨a :: front, back, by rw [split, List.cons_append], ?_, upper⟩
            intro d member
            rcases List.mem_cons.mp member with rfl | inFront
            · exact less
            · exact lower d inFront
          · simp only [if_neg less, Option.some.injEq] at found
            subst found
            refine ⟨[], rest, rfl, fun _ absent => absurd absent List.not_mem_nil, ?_⟩
            have most : key b ≤ key a := by omega
            intro d member
            rw [split, List.mem_append, List.mem_cons] at member
            rcases member with inFront | rfl | inBack
            · have := lower d inFront
              omega
            · exact most
            · have := upper d inBack
              omega

theorem first_mem {items : List α} {c : α} (found : first key items = some c) : c ∈ items := by
  obtain ⟨front, back, split, _, _⟩ := first_spec key found
  rw [split]
  exact List.mem_append_right _ (.head _)

theorem first_max {items : List α} {c d : α} (found : first key items = some c)
    (member : d ∈ items) : key d ≤ key c := by
  obtain ⟨front, back, split, lower, upper⟩ := first_spec key found
  rw [split, List.mem_append, List.mem_cons] at member
  rcases member with inFront | rfl | inBack
  · exact Int.le_of_lt (lower d inFront)
  · exact Int.le_refl _
  · exact upper d inBack

/-- An accepted item comes before the one between `front` and `back`. -/
def Outranked (accepts : α → Bool) (front : List α) (c : α) (back : List α) : Prop :=
  (∃ d ∈ front, accepts d = true ∧ key c ≤ key d) ∨ ∃ d ∈ back, accepts d = true ∧ key c < key d

/-- The first of the best is accepted exactly when every refused item is outranked. -/
theorem first_accepted_iff (accepts : α → Bool) (items : List α) :
    (∀ c, first key items = some c → accepts c = true) ↔
      ∀ front c back, items = front ++ c :: back → accepts c = false →
        Outranked key accepts front c back := by
  constructor
  · intro accepted front c back split refused
    cases found : first key items with
    | none =>
        rw [(first_none_iff key).mp found] at split
        exact absurd split (by simp)
    | some best =>
        have good := accepted best found
        have differ : c ≠ best := by
          rintro rfl
          rw [good] at refused
          cases refused
        obtain ⟨before, after, here, lower, upper⟩ := first_spec key found
        rw [split] at here
        rcases List.append_eq_append_iff.mp here with ⟨between, rfl, rest⟩ | ⟨between, rfl, rest⟩
        · -- The best comes at the refused item or after it.
          cases between with
          | nil => exact absurd (List.cons.inj rest).1 differ
          | cons same between =>
              obtain ⟨rfl, rfl⟩ := List.cons.inj rest
              have above := lower c (List.mem_append_right _ (.head _))
              exact .inr ⟨best, List.mem_append_right _ (.head _), good, above⟩
        · cases between with
          | nil => exact absurd (List.cons.inj rest).1.symm differ
          | cons same between =>
              obtain ⟨rfl, rfl⟩ := List.cons.inj rest
              have above := upper c (List.mem_append_right _ (.head _))
              exact .inl ⟨best, List.mem_append_right _ (.head _), good, above⟩
  · intro outranked c found
    by_contra refused
    obtain ⟨front, back, split, lower, upper⟩ := first_spec key found
    rcases outranked front c back split (by simpa using refused) with
      ⟨d, member, _, above⟩ | ⟨d, member, _, above⟩
    · have := lower d member
      omega
    · have := upper d member
      omega

/-- The sort of a list by descending keys, which leaves equals in their order. -/
def sortDescending (items : List α) : List α := items.mergeSort fun a b => key b ≤ key a

theorem descending_trans (a b c : α) (higher : decide (key b ≤ key a) = true)
    (lower : decide (key c ≤ key b) = true) : decide (key c ≤ key a) = true :=
  decide_eq_true (Int.le_trans (of_decide_eq_true lower) (of_decide_eq_true higher))

theorem descending_total (a b : α) : (decide (key b ≤ key a) || decide (key a ≤ key b)) = true := by
  rw [Bool.or_eq_true, decide_eq_true_iff, decide_eq_true_iff]
  exact Int.le_total (key b) (key a)

theorem sortDescending_perm (items : List α) : (sortDescending key items).Perm items :=
  List.mergeSort_perm items _

theorem sortDescending_pairwise (items : List α) :
    (sortDescending key items).Pairwise fun a b => key b ≤ key a :=
  (List.pairwise_mergeSort (descending_trans key) (descending_total key) items).imp
    of_decide_eq_true

/-- Items whose keys do not rise stay in their order. -/
theorem sortDescending_stable {items : List α} {a b : α} (level : key b ≤ key a)
    (inOrder : [a, b].Sublist items) : [a, b].Sublist (sortDescending key items) :=
  List.pair_sublist_mergeSort (descending_trans key) (descending_total key) (decide_eq_true level)
    inOrder

theorem head_sortDescending (items : List α) :
    (sortDescending key items).head? = first key items := by
  induction items with
  | nil => simp [sortDescending, first]
  | cons a rest ih =>
      obtain ⟨front, back, sorted, others, above⟩ :=
        List.mergeSort_cons (descending_trans key) (descending_total key) a rest
      have ordered := List.pairwise_mergeSort (descending_trans key) (descending_total key) (a :: rest)
      rw [sortDescending, sorted]
      rw [sortDescending, others] at ih
      rw [first, ← ih]
      cases front with
      | nil =>
          cases back with
          | nil => rfl
          | cons b back =>
              rw [sorted, List.nil_append, List.pairwise_cons] at ordered
              have most : key b ≤ key a := of_decide_eq_true (ordered.1 b (.head _))
              show some a = if key a < key b then some b else some a
              rw [if_neg (by omega)]
      | cons b front =>
          have less : key a < key b := by
            have higher := above b (.head _)
            simp only [Bool.not_eq_true', decide_eq_false_iff_not] at higher
            omega
          show some b = if key a < key b then some b else some a
          rw [if_pos less]

/-- One round of the loop that keeps the highest so far. -/
def keepBest (found : Option α) (c : α) : Option α :=
  match found with
  | none => some c
  | some b => if key b < key c then some c else some b

theorem foldl_keepBest (b : α) (items : List α) :
    items.foldl (keepBest key) (some b) = first key (b :: items) := by
  induction items generalizing b with
  | nil => rfl
  | cons c rest ih =>
      have onward : (c :: rest).foldl (keepBest key) (some b) =
          rest.foldl (keepBest key) (if key b < key c then some c else some b) := rfl
      rw [onward]
      by_cases less : key b < key c
      · rw [if_pos less, ih]
        cases found : first key (c :: rest) with
        | none => cases (first_none_iff key).mp found
        | some best =>
            have most := first_max key found (.head _)
            rw [first, found]
            show some best = if key b < key best then some best else some b
            rw [if_pos (by omega)]
      · rw [if_neg less, ih, first, first, first]
        cases first key rest with
        | none =>
            show some b = if key b < key c then some c else some b
            rw [if_neg less]
        | some d =>
            dsimp only
            by_cases more : key c < key d
            · rw [if_pos more]
            · rw [if_neg more]
              dsimp only
              rw [if_neg less, if_neg (by omega)]

/-- The loop finds the first of the best. -/
theorem foldl_keepBest_none (items : List α) :
    items.foldl (keepBest key) none = first key items := by
  cases items with
  | nil => rfl
  | cons b rest => exact foldl_keepBest key b rest

end First

end Ranking

end NousKernel
