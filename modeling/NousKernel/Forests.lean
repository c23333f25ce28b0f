import Mathlib.Algebra.BigOperators.Group.Finset.Piecewise
import Mathlib.Algebra.Order.BigOperators.Group.Finset
import Mathlib.Data.Finset.Insert
import Mathlib.Logic.Function.Basic
import Mathlib.Logic.Relation

/-!
Forests as parent pointers on finitely many nodes: which nodes are under which, what
all nodes under one weigh together, and what moving one node with everything under it
does to both.
-/

set_option autoImplicit false

namespace Forests

open Relation

variable {ι : Type}

/-- A node is another one, or is somewhere below it. -/
def Under (parent : ι → Option ι) : ι → ι → Prop :=
  ReflTransGen fun child above => parent child = some above

/-- Every node is under the root, which has no parent. -/
structure Rooted (nodes : Finset ι) (parent : ι → Option ι) (root : ι) : Prop where
  listed : root ∈ nodes
  top : parent root = none
  reaches : ∀ node ∈ nodes, Under parent node root

section Under

variable {parent : ι → Option ι} {node above other root : ι}

theorem Under.refl (parent : ι → Option ι) (node : ι) : Under parent node node := ReflTransGen.refl

theorem Under.trans (first : Under parent node above) (second : Under parent above other) :
    Under parent node other := ReflTransGen.trans first second

/-- A node that is not the other one is under it through its parent. -/
theorem Under.step (under : Under parent node above) (different : node ≠ above) :
    ∃ next, parent node = some next ∧ Under parent next above := by
  rcases ReflTransGen.cases_head under with same | ⟨next, edge, rest⟩
  · exact absurd same different
  · exact ⟨next, edge, rest⟩

/-- Nothing is above a node without a parent. -/
theorem Under.of_top (under : Under parent node above) (top : parent node = none) :
    above = node := by
  rcases ReflTransGen.cases_head under with same | ⟨next, edge, _⟩
  · exact same.symm
  · rw [top] at edge
    cases edge

/-- No two nodes are under each other where everything ends in a top. -/
theorem Under.antisymm (up : Under parent node root) (top : parent root = none)
    (first : Under parent node above) (second : Under parent above node) : above = node := by
  -- The next node of a cycle is on it too, and closer to the top.
  induction up using ReflTransGen.head_induction_on generalizing above with
  | refl => exact first.of_top top
  | @head start next edge _ ih =>
      by_contra different
      obtain ⟨next', edge', onward⟩ := first.step (Ne.symm different)
      obtain rfl : next = next' := Option.some.inj (edge.symm.trans edge')
      have back : Under parent start next := ReflTransGen.single edge
      have same := ih onward (second.trans back)
      subst same
      exact different (ih second back).symm

end Under

/-! ### A node gets another parent -/

section Move

variable [DecidableEq ι] {parent : ι → Option ι} {node above moved root : ι} {target : Option ι}

/-- What is not under the moved node stays where it is. -/
theorem under_apart (apart : ¬ Under parent node moved) :
    Under (Function.update parent moved target) node above ↔ Under parent node above := by
  constructor
  · intro under
    induction under using ReflTransGen.head_induction_on with
    | refl => exact .refl _ _
    | @head start next edge _ ih =>
        have different : start ≠ moved := fun same => apart (same ▸ .refl _ _)
        rw [Function.update_of_ne different] at edge
        have free : ¬ Under parent next moved := fun under => apart (ReflTransGen.head edge under)
        exact ReflTransGen.head edge (ih free)
  · intro under
    induction under using ReflTransGen.head_induction_on with
    | refl => exact .refl _ _
    | @head start next edge _ ih =>
        have different : start ≠ moved := fun same => apart (same ▸ .refl _ _)
        have free : ¬ Under parent next moved := fun under => apart (ReflTransGen.head edge under)
        have step : Function.update parent moved target start = some next := by
          rw [Function.update_of_ne different]
          exact edge
        exact ReflTransGen.head step (ih free)

/-- What is under the moved node stays under it. -/
theorem under_moved (under : Under parent node moved) :
    Under (Function.update parent moved target) node moved := by
  induction under using ReflTransGen.head_induction_on with
  | refl => exact .refl _ _
  | @head start next edge _ ih =>
      by_cases same : start = moved
      · subst same
        exact .refl _ _
      · have step : Function.update parent moved target start = some next := by
          rw [Function.update_of_ne same]
          exact edge
        exact ReflTransGen.head step ih

/-- What a node under the moved node is under: something on the way to the moved node,
or something that the moved node is under now. -/
theorem under_beyond (under : Under parent node moved)
    (later : Under (Function.update parent moved target) node above) :
    (Under parent node above ∧ Under parent above moved) ∨
      ∃ next, target = some next ∧ Under (Function.update parent moved target) next above := by
  induction later using ReflTransGen.head_induction_on with
  | refl => exact .inl ⟨.refl _ _, under⟩
  | @head start next edge rest ih =>
      by_cases same : start = moved
      · subst same
        rw [Function.update_self] at edge
        exact .inr ⟨next, edge, rest⟩
      · rw [Function.update_of_ne same] at edge
        obtain ⟨next', edge', onward⟩ := under.step same
        obtain rfl : next = next' := Option.some.inj (edge.symm.trans edge')
        rcases ih onward with ⟨here, between⟩ | beyond
        · exact .inl ⟨ReflTransGen.head edge here, between⟩
        · exact .inr beyond

/-- What is under what after the move. -/
theorem under_later (free : ∀ next, target = some next → ¬ Under parent next moved)
    (later : Under (Function.update parent moved target) node above) :
    (¬ Under parent node moved ∧ Under parent node above) ∨
      Under parent node moved ∧ ((Under parent node above ∧ Under parent above moved) ∨
        ∃ next, target = some next ∧ Under parent next above) := by
  by_cases under : Under parent node moved
  · refine .inr ⟨under, ?_⟩
    rcases under_beyond under later with between | ⟨next, same, beyond⟩
    · exact .inl between
    · exact .inr ⟨next, same, (under_apart (free next same)).mp beyond⟩
  · exact .inl ⟨under, (under_apart under).mp later⟩

/-- A node that moves to a node outside its own branch leaves the forest rooted. -/
theorem Rooted.move {nodes : Finset ι} (rooted : Rooted nodes parent root)
    (free : ∀ next, target = some next → next ∈ nodes ∧ ¬ Under parent next moved)
    (top : target = none ↔ moved = root) :
    Rooted (insert moved nodes) (Function.update parent moved target) root := by
  refine ⟨Finset.mem_insert_of_mem rooted.listed, ?_, ?_⟩
  · by_cases same : moved = root
    · rw [same, Function.update_self]
      exact top.mpr same
    · rw [Function.update_of_ne (Ne.symm same)]
      exact rooted.top
  · intro node member
    by_cases under : Under parent node moved
    · -- The branch follows the moved node.
      apply (under_moved under).trans
      cases given : target with
      | none =>
          rw [top.mp given]
          exact .refl _ _
      | some next =>
          obtain ⟨inside, apart⟩ := free next given
          have edge : Function.update parent moved (some next) moved = some next :=
            Function.update_self _ _ _
          exact ReflTransGen.head edge ((under_apart apart).mpr (rooted.reaches next inside))
    · have different : node ≠ moved := fun same => under (same ▸ .refl _ _)
      exact (under_apart under).mpr
        (rooted.reaches node (Finset.mem_of_mem_insert_of_ne member different))

end Move

/-! ### What is under a node weighs -/

section Load

open Classical in
/-- The weight of a node and of all nodes under it. -/
noncomputable def load (nodes : Finset ι) (parent : ι → Option ι) (weight : ι → Nat) (node : ι) :
    Nat :=
  ∑ below ∈ nodes with Under parent below node, weight below

open Classical in
/-- What a node bears apart from one of its branches. -/
noncomputable def loadApart (nodes : Finset ι) (parent : ι → Option ι) (weight : ι → Nat)
    (branch node : ι) : Nat :=
  ∑ below ∈ nodes with Under parent below node ∧ ¬ Under parent below branch, weight below

variable {nodes : Finset ι} {parent : ι → Option ι} {weight later : ι → Nat} {node moved root : ι}

open Classical in
theorem load_mono (lighter : ∀ below ∈ nodes, later below ≤ weight below) :
    load nodes parent later node ≤ load nodes parent weight node :=
  Finset.sum_le_sum fun below member => lighter below (Finset.mem_filter.mp member).1

theorem load_zero (light : ∀ below, weight below = 0) : load nodes parent weight node = 0 :=
  Finset.sum_eq_zero fun below _ => light below

/-- A load is at most what all of some more nodes weigh. -/
theorem load_le_sum {all : Finset ι} (inside : nodes ⊆ all) :
    load nodes parent weight node ≤ ∑ below ∈ all, weight below := by
  classical
  apply Finset.sum_le_sum_of_subset
  intro below member
  exact inside (Finset.mem_filter.mp member).1

/-- A load is at least the weight of each node that is under. -/
theorem le_load {below : ι} (member : below ∈ nodes) (under : Under parent below node) :
    weight below ≤ load nodes parent weight node := by
  classical
  have listed : below ∈ nodes.filter fun below => Under parent below node :=
    Finset.mem_filter.mpr ⟨member, under⟩
  exact Finset.single_le_sum (fun _ _ => Nat.zero_le _) listed

theorem loadApart_le (nodes : Finset ι) (parent : ι → Option ι) (weight : ι → Nat)
    (branch node : ι) :
    loadApart nodes parent weight branch node ≤ load nodes parent weight node := by
  classical
  apply Finset.sum_le_sum_of_subset
  intro below member
  obtain ⟨listed, under, _⟩ := Finset.mem_filter.mp member
  exact Finset.mem_filter.mpr ⟨listed, under⟩

variable [DecidableEq ι]

/-- A node that gets heavier is felt above. -/
theorem load_add (moved : ι) (more : Nat) :
    load nodes parent (Function.update weight moved (weight moved + more)) node ≤
      load nodes parent weight node + more := by
  classical
  unfold load
  by_cases felt : moved ∈ nodes.filter fun below => Under parent below node
  · have sums := Finset.sum_update_of_mem felt weight (weight moved + more)
    have whole := Finset.add_sum_erase _ weight felt
    rw [Finset.sdiff_singleton_eq_erase] at sums
    omega
  · rw [Finset.sum_update_of_notMem felt]
    omega

/-- A node that is not above it does not feel it. -/
theorem load_add_apart (apart : ¬ Under parent moved node) (heavier : Nat) :
    load nodes parent (Function.update weight moved heavier) node =
      load nodes parent weight node := by
  classical
  unfold load
  apply Finset.sum_congr rfl
  intro below member
  have under := (Finset.mem_filter.mp member).2
  have different : below ≠ moved := fun same => apart (same ▸ under)
  rw [Function.update_of_ne different]

section Moved

variable {target : Option ι} (nodes : Finset ι) (weight : ι → Nat) (weighs : Nat)
  (free : ∀ next, target = some next → ¬ Under parent next moved)

include free

/-- The weight that the moved node has with its branch. -/
theorem load_moved :
    load (insert moved nodes) (Function.update parent moved target)
        (Function.update weight moved weighs) moved ≤
      load (insert moved nodes) parent (Function.update weight moved weighs) moved := by
  classical
  apply Finset.sum_le_sum_of_subset
  intro below member
  obtain ⟨inside, later⟩ := Finset.mem_filter.mp member
  apply Finset.mem_filter.mpr
  refine ⟨inside, ?_⟩
  rcases under_later free later with ⟨_, under⟩ | ⟨under, _⟩ <;> exact under

/-- Inside the branch nothing gets heavier. -/
theorem load_inside (inside : Under parent node moved) (apart : ¬ Under parent moved node) :
    load (insert moved nodes) (Function.update parent moved target)
        (Function.update weight moved weighs) node ≤ load nodes parent weight node := by
  classical
  have mine : ∀ below, Under (Function.update parent moved target) below node →
      Under parent below node ∧ below ≠ moved := by
    intro below later
    have under : Under parent below node := by
      rcases under_later free later with ⟨_, under⟩ | ⟨_, ⟨under, _⟩ | ⟨next, same, beyond⟩⟩
      · exact under
      · exact under
      · exact absurd (beyond.trans inside) (free next same)
    exact ⟨under, fun same => apart (same ▸ under)⟩
  calc load (insert moved nodes) (Function.update parent moved target)
        (Function.update weight moved weighs) node
      ≤ ∑ below ∈ nodes with Under parent below node,
          Function.update weight moved weighs below := by
        apply Finset.sum_le_sum_of_subset
        intro below member
        obtain ⟨listed, later⟩ := Finset.mem_filter.mp member
        obtain ⟨under, different⟩ := mine below later
        exact Finset.mem_filter.mpr ⟨Finset.mem_of_mem_insert_of_ne listed different, under⟩
    _ = load nodes parent weight node := by
        apply Finset.sum_congr rfl
        intro below member
        have under := (Finset.mem_filter.mp member).2
        have different : below ≠ moved := fun same => apart (same ▸ under)
        rw [Function.update_of_ne different]

/-- Outside the branch a node bears what it bore apart from the branch, and the branch
where that comes under it. -/
theorem load_outside (outside : ¬ Under parent node moved) :
    load (insert moved nodes) (Function.update parent moved target)
        (Function.update weight moved weighs) node ≤
      loadApart nodes parent weight moved node +
        load (insert moved nodes) parent (Function.update weight moved weighs) moved ∧
    ((∀ next, target = some next → ¬ Under parent next node) →
      load (insert moved nodes) (Function.update parent moved target)
          (Function.update weight moved weighs) node ≤
        loadApart nodes parent weight moved node) := by
  classical
  have split : ∀ below, Under (Function.update parent moved target) below node →
      (¬ Under parent below moved ∧ Under parent below node) ∨
        (Under parent below moved ∧ ∃ next, target = some next ∧ Under parent next node) := by
    intro below later
    rcases under_later free later with old | ⟨under, ⟨_, inside⟩ | beyond⟩
    · exact .inl old
    · exact absurd inside outside
    · exact .inr ⟨under, beyond⟩
  have old : ∑ below ∈ nodes with Under parent below node ∧ ¬ Under parent below moved,
      Function.update weight moved weighs below = loadApart nodes parent weight moved node := by
    apply Finset.sum_congr rfl
    intro below member
    have apart := (Finset.mem_filter.mp member).2.2
    have different : below ≠ moved := fun same => apart (same ▸ .refl _ _)
    rw [Function.update_of_ne different]
  have listedOld : ∀ below ∈ insert moved nodes, ¬ Under parent below moved → below ∈ nodes := by
    intro below listed apart
    exact Finset.mem_of_mem_insert_of_ne listed fun same => apart (same ▸ .refl _ _)
  constructor
  · rw [← old]
    have covered : (insert moved nodes).filter (fun below =>
          Under (Function.update parent moved target) below node) ⊆
        nodes.filter (fun below => Under parent below node ∧ ¬ Under parent below moved) ∪
          (insert moved nodes).filter (fun below => Under parent below moved) := by
      intro below member
      obtain ⟨listed, later⟩ := Finset.mem_filter.mp member
      rcases split below later with ⟨apart, under⟩ | ⟨under, _⟩
      · exact Finset.mem_union_left _
          (Finset.mem_filter.mpr ⟨listedOld below listed apart, under, apart⟩)
      · exact Finset.mem_union_right _ (Finset.mem_filter.mpr ⟨listed, under⟩)
    have sums := @Finset.sum_union_inter _ _
      (nodes.filter fun below => Under parent below node ∧ ¬ Under parent below moved)
      ((insert moved nodes).filter fun below => Under parent below moved) _
      (Function.update weight moved weighs) _
    have whole := Finset.sum_le_sum_of_subset (f := Function.update weight moved weighs) covered
    unfold load
    omega
  · intro elsewhere
    rw [← old]
    apply Finset.sum_le_sum_of_subset
    intro below member
    obtain ⟨listed, later⟩ := Finset.mem_filter.mp member
    rcases split below later with ⟨apart, under⟩ | ⟨_, next, same, beyond⟩
    · exact Finset.mem_filter.mpr ⟨listedOld below listed apart, under, apart⟩
    · exact absurd beyond (elsewhere next same)

end Moved

end Load

end Forests
