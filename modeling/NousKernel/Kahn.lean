import Mathlib.Data.List.Nodup
import Mathlib.Data.List.Count
import Mathlib.Data.Finset.Card
import Mathlib.Logic.Function.Basic
import Mathlib.Order.WellFoundedSet

/-!
Kahn's sort of a graph that is given by its edges: the nodes that wait for nothing are
taken one after the other, and each relieves the nodes that wait for it.
-/

set_option autoImplicit false

namespace Kahn

variable {α : Type} [DecidableEq α]

/-- The targets of a node, one for each edge. -/
def targets (edges : List (α × α)) (node : α) : List α :=
  (edges.filter (·.1 = node)).map (·.2)

/-- The number of edges that end in a node. -/
def degree (edges : List (α × α)) (node : α) : Nat := edges.countP (·.2 = node)

/-- How many edges each node still waits for, and the nodes whose turn has come. -/
structure Front (α : Type) where
  waiting : α → Nat
  queue : List α

def relieve (s : Front α) (target : α) : Front α :=
  let count := s.waiting target - 1
  ⟨Function.update s.waiting target count,
    if count = 0 then s.queue ++ [target] else s.queue⟩

theorem relieve_waiting_self (s : Front α) (target : α) :
    (relieve s target).waiting target = s.waiting target - 1 := Function.update_self _ _ _

theorem relieve_waiting_ne (s : Front α) {target node : α} (other : node ≠ target) :
    (relieve s target).waiting node = s.waiting node := Function.update_of_ne other _ _

theorem relieve_queue (s : Front α) (target : α) :
    (relieve s target).queue =
      if s.waiting target - 1 = 0 then s.queue ++ [target] else s.queue := rfl

def run (edges : List (α × α)) : Nat → Front α → List α
  | 0, _ => []
  | _ + 1, ⟨_, []⟩ => []
  | fuel + 1, ⟨waiting, node :: queue⟩ =>
      node :: run edges fuel ((targets edges node).foldl relieve ⟨waiting, queue⟩)

/-- The sort, started with the free nodes in the given order. Every node is taken at most once. -/
def sort (nodes : List α) (edges : List (α × α)) : List α :=
  run edges nodes.length ⟨degree edges, nodes.filter (degree edges · = 0)⟩

def Edge (edges : List (α × α)) (first second : α) : Prop := (first, second) ∈ edges

def Acyclic (edges : List (α × α)) : Prop :=
  ∀ node, ¬Relation.TransGen (Edge edges) node node

/-- One node stands before another. -/
def Before (order : List α) (first second : α) : Prop :=
  ∃ front back, order = front ++ first :: back ∧ second ∈ back

/-- Every node comes after the sources of its edges. -/
def Closed (edges : List (α × α)) (order : List α) : Prop :=
  ∀ front node back, order = front ++ node :: back → ∀ e ∈ edges, e.2 = node → e.1 ∈ front

section

omit [DecidableEq α]

theorem Closed.nil (edges : List (α × α)) : Closed edges [] := by
  intro front node back split
  cases front <;> cases split

theorem Closed.snoc {edges : List (α × α)} {order : List α} {node : α} (closed : Closed edges order)
    (sources : ∀ e ∈ edges, e.2 = node → e.1 ∈ order) : Closed edges (order ++ [node]) := by
  intro front last back split e edge ends
  rcases List.eq_nil_or_concat back with rfl | ⟨back, other, rfl⟩
  · obtain ⟨rfl, same⟩ := List.append_inj' split rfl
    cases same
    exact sources e edge ends
  · have longer : order ++ [node] = (front ++ last :: back) ++ [other] := by
      rw [split]
      simp
    obtain ⟨rfl, _⟩ := List.append_inj' longer rfl
    exact closed front last back rfl e edge ends

end

/-- The edges into a node whose source is not done. -/
def outstanding (edges : List (α × α)) (done : List α) (node : α) : Nat :=
  edges.countP fun e => decide (e.2 = node ∧ e.1 ∉ done)

theorem outstanding_cons (e : α × α) (edges : List (α × α)) (done : List α) (node : α) :
    outstanding (e :: edges) done node =
      outstanding edges done node + if e.2 = node ∧ e.1 ∉ done then 1 else 0 := by
  simp only [outstanding, List.countP_cons, decide_eq_true_eq]

theorem count_targets_cons (e : α × α) (edges : List (α × α)) (taken node : α) :
    (targets (e :: edges) taken).count node =
      (targets edges taken).count node + if e.1 = taken ∧ e.2 = node then 1 else 0 := by
  unfold targets
  by_cases source : e.1 = taken
  · simp [source, List.count_cons]
  · simp [source]

theorem outstanding_snoc {done : List α} {taken : α} (fresh : taken ∉ done)
    (edges : List (α × α)) (node : α) :
    outstanding edges done node =
      outstanding edges (done ++ [taken]) node + (targets edges taken).count node := by
  induction edges with
  | nil => rfl
  | cons e edges ih =>
      rw [outstanding_cons, outstanding_cons, count_targets_cons, ih]
      by_cases source : e.1 = taken
      · simp only [source, fresh, List.mem_append, List.mem_singleton]
        by_cases ends : e.2 = node
        · simp [ends]
          omega
        · simp [ends]
      · simp only [source, List.mem_append, List.mem_singleton, or_false, false_and, if_false]
        omega

theorem outstanding_zero {edges : List (α × α)} {done : List α} {node : α} :
    outstanding edges done node = 0 ↔ ∀ e ∈ edges, e.2 = node → e.1 ∈ done := by
  simp [outstanding, List.countP_eq_zero]

theorem outstanding_nil (edges : List (α × α)) (node : α) :
    outstanding edges [] node = degree edges node := by
  simp [outstanding, degree]

section

variable {nodes : List α} {edges : List (α × α)}

/-- The state of the sort: `done` are the nodes taken, `pending` the targets of the last
of them that are still to be relieved. -/
structure Good (nodes : List α) (edges : List (α × α)) (done pending : List α) (s : Front α) :
    Prop where
  waiting : ∀ node, s.waiting node = outstanding edges done node + pending.count node
  unique : (done ++ s.queue).Nodup
  inside : ∀ node ∈ done ++ s.queue, node ∈ nodes
  free : ∀ node ∈ nodes, node ∈ done ++ s.queue ↔ s.waiting node = 0
  closed : Closed edges done

theorem Good.relieve {done pending : List α} {s : Front α} {target : α}
    (good : Good nodes edges done (target :: pending) s) (member : target ∈ nodes) :
    Good nodes edges done pending (relieve s target) := by
  have waits := good.waiting target
  rw [List.count_cons_self] at waits
  have apart : target ∉ done ++ s.queue := by
    intro early
    have relieved := (good.free target member).mp early
    omega
  refine ⟨?_, ?_, ?_, ?_, good.closed⟩
  · intro node
    by_cases same : node = target
    · subst same
      rw [relieve_waiting_self]
      omega
    · rw [relieve_waiting_ne s same, good.waiting node, List.count_cons_of_ne (Ne.symm same)]
  · rw [relieve_queue]
    split
    · rw [← List.append_assoc]
      exact List.Nodup.append good.unique (List.nodup_singleton _)
        (List.disjoint_singleton.mpr apart)
    · exact good.unique
  · intro node listed
    rw [relieve_queue] at listed
    split at listed
    · rw [← List.append_assoc, List.mem_append, List.mem_singleton] at listed
      rcases listed with earlier | rfl
      · exact good.inside node earlier
      · exact member
    · exact good.inside node listed
  · intro node known
    rw [relieve_queue]
    by_cases same : node = target
    · subst same
      rw [relieve_waiting_self]
      split
      · rename_i last
        simp [last]
      · rename_i more
        simp only [more, iff_false]
        exact apart
    · rw [relieve_waiting_ne s same, ← good.free node known]
      split
      · simp [same]
      · rfl

theorem Good.relieved {done pending : List α} {s : Front α}
    (good : Good nodes edges done pending s) (members : ∀ target ∈ pending, target ∈ nodes) :
    Good nodes edges done [] (pending.foldl Kahn.relieve s) := by
  induction pending generalizing s with
  | nil => exact good
  | cons target pending ih =>
      rw [List.foldl_cons]
      exact ih (good.relieve (members target List.mem_cons_self))
        fun other listed => members other (List.mem_cons_of_mem _ listed)

theorem Good.take {done queue : List α} {waiting : α → Nat} {node : α}
    (good : Good nodes edges done [] ⟨waiting, node :: queue⟩) :
    Good nodes edges (done ++ [node]) (targets edges node) ⟨waiting, queue⟩ := by
  have shift : done ++ node :: queue = done ++ [node] ++ queue := by simp
  have fresh : node ∉ done := by
    intro early
    exact List.disjoint_of_nodup_append good.unique early List.mem_cons_self
  have free : outstanding edges done node = 0 := by
    have relieved := (good.free node (good.inside node (by simp))).mp (by simp)
    rw [good.waiting node] at relieved
    exact relieved
  refine ⟨?_, ?_, ?_, ?_, good.closed.snoc (outstanding_zero.mp free)⟩
  · intro other
    rw [← outstanding_snoc fresh, good.waiting other, List.count_nil, Nat.add_zero]
  · rw [← shift]
    exact good.unique
  · rw [← shift]
    exact good.inside
  · rw [← shift]
    exact good.free

theorem targets_inside (inside : ∀ e ∈ edges, e.2 ∈ nodes) (node : α) :
    ∀ target ∈ targets edges node, target ∈ nodes := by
  intro target listed
  obtain ⟨e, edge, rfl⟩ := List.mem_map.mp listed
  exact inside e (List.mem_of_mem_filter edge)

/-- The queue of a run is empty at its end: the fuel lasts for every node. -/
theorem Good.run (inside : ∀ e ∈ edges, e.2 ∈ nodes) (fuel : Nat) {done : List α} {s : Front α}
    (good : Good nodes edges done [] s) (enough : nodes.length ≤ done.length + fuel) :
    ∃ waiting, Good nodes edges (done ++ Kahn.run edges fuel s) [] ⟨waiting, []⟩ := by
  induction fuel generalizing done s with
  | zero =>
      have short := List.Subperm.length_le (List.subperm_of_subset good.unique good.inside)
      have spent : s.queue = [] := by
        rw [List.length_append] at short
        exact List.eq_nil_of_length_eq_zero (by omega)
      obtain ⟨waiting, queue⟩ := s
      cases spent
      exact ⟨waiting, by simpa [Kahn.run] using good⟩
  | succ fuel ih =>
      obtain ⟨waiting, queue⟩ := s
      cases queue with
      | nil => exact ⟨waiting, by simpa [Kahn.run] using good⟩
      | cons node queue =>
          have next := good.take.relieved (targets_inside inside node)
          have grown : nodes.length ≤ (done ++ [node]).length + fuel := by
            rw [List.length_append, List.length_singleton]
            omega
          obtain ⟨rest, final⟩ := ih next grown
          refine ⟨rest, ?_⟩
          rw [Kahn.run]
          rw [List.append_assoc] at final
          exact final

/-- The front that the sort starts with. -/
theorem Good.start (distinct : nodes.Nodup) :
    Good nodes edges [] [] ⟨degree edges, nodes.filter (degree edges · = 0)⟩ := by
  refine ⟨?_, distinct.filter _, ?_, ?_, Closed.nil edges⟩
  · intro node
    rw [outstanding_nil]
    rfl
  · intro node listed
    exact List.mem_of_mem_filter listed
  · intro node member
    simp [member]

/-- What the sort delivers. -/
structure Sorted (nodes : List α) (edges : List (α × α)) (order : List α) : Prop where
  unique : order.Nodup
  inside : ∀ node ∈ order, node ∈ nodes
  closed : Closed edges order
  complete : ∀ node ∈ nodes, (∀ e ∈ edges, e.2 = node → e.1 ∈ order) → node ∈ order

theorem sort_sorted (distinct : nodes.Nodup) (inside : ∀ e ∈ edges, e.2 ∈ nodes) :
    Sorted nodes edges (sort nodes edges) := by
  obtain ⟨waiting, good⟩ := (Good.start distinct).run inside nodes.length (by simp)
  change Good nodes edges (sort nodes edges) [] ⟨waiting, []⟩ at good
  have unique := good.unique
  have members := good.inside
  have free := good.free
  simp only [List.append_nil] at unique members free
  refine ⟨unique, members, good.closed, ?_⟩
  intro node member sources
  have waits := good.waiting node
  rw [outstanding_zero.mpr sources] at waits
  exact (free node member).mpr waits

/-! ### Acyclic graphs -/

section

omit [DecidableEq α]

theorem wellFounded_iff : WellFounded (Edge edges) ↔ Acyclic edges := by
  constructor
  · intro founded node cycle
    exact founded.transGen.irrefl.irrefl node cycle
  · intro acyclic
    have strict : IsStrictOrder α (Relation.TransGen (Edge edges)) :=
      { irrefl := acyclic, trans := fun _ _ _ => Relation.TransGen.trans }
    let members : Set α := {node | node ∈ edges.map (·.1) ++ edges.map (·.2)}
    have finite : members.Finite := (edges.map (·.1) ++ edges.map (·.2)).finite_toSet
    have founded := Set.wellFoundedOn_iff.mp
      (finite.wellFoundedOn (r := Relation.TransGen (Edge edges)))
    refine founded.mono ?_
    intro first second edge
    refine ⟨.single edge, ?_, ?_⟩
    · exact List.mem_append_left _ (List.mem_map_of_mem edge)
    · exact List.mem_append_right _ (List.mem_map_of_mem edge)

theorem Closed.acc {order : List α} (closed : Closed edges order) :
    ∀ node ∈ order, Acc (Edge edges) node := by
  suffices initial : ∀ front back, order = front ++ back →
      ∀ node ∈ front, Acc (Edge edges) node from initial order [] (by simp)
  intro front
  induction front using List.reverseRecOn with
  | nil => simp
  | append_singleton front last ih =>
      intro back split node listed
      have earlier := ih (last :: back) (by rw [split]; simp)
      rcases List.mem_append.mp listed with before | same
      · exact earlier node before
      · cases List.mem_singleton.mp same
        constructor
        intro source edge
        exact earlier source (closed front last back (by rw [split]; simp) _ edge rfl)

/-- The sort takes the nodes that no cycle leads to. -/
theorem Sorted.mem_iff {order : List α} (sorted : Sorted nodes edges order)
    (sources : ∀ e ∈ edges, e.1 ∈ nodes) {node : α} (known : node ∈ nodes) :
    node ∈ order ↔ Acc (Edge edges) node := by
  constructor
  · exact sorted.closed.acc node
  · intro founded
    induction founded with
    | intro node _ ih =>
        refine sorted.complete node known ?_
        rintro ⟨source, target⟩ edge rfl
        exact ih source edge (sources _ edge)

/-- The sort takes every node exactly when the graph has no cycle. -/
theorem Sorted.length_iff {order : List α} (sorted : Sorted nodes edges order)
    (distinct : nodes.Nodup) (inside : ∀ e ∈ edges, e.1 ∈ nodes ∧ e.2 ∈ nodes) :
    order.length = nodes.length ↔ Acyclic edges := by
  have sources : ∀ e ∈ edges, e.1 ∈ nodes := fun e edge => (inside e edge).1
  have subperm := List.subperm_of_subset sorted.unique sorted.inside
  rw [← wellFounded_iff]
  constructor
  · intro full
    have perm := subperm.perm_of_length_le full.ge
    refine ⟨fun node => ?_⟩
    constructor
    intro source edge
    exact sorted.closed.acc source (perm.mem_iff.mpr (sources _ edge))
  · intro founded
    refine Nat.le_antisymm subperm.length_le ?_
    refine (List.subperm_of_subset distinct ?_).length_le
    intro node known
    exact (sorted.mem_iff sources known).mpr (founded.apply node)

theorem Closed.before {order : List α} (closed : Closed edges order) {first second : α}
    (edge : (first, second) ∈ edges) (listed : second ∈ order) : Before order first second := by
  obtain ⟨front, back, split⟩ := List.append_of_mem listed
  obtain ⟨start, middle, rest⟩ := List.append_of_mem (closed front second back split _ edge rfl)
  refine ⟨start, middle ++ second :: back, ?_, by simp⟩
  rw [split, rest]
  simp

theorem Before.append_right {order : List α} {first second : α} (before : Before order first second)
    (rest : List α) : Before (order ++ rest) first second := by
  obtain ⟨front, back, rfl, later⟩ := before
  exact ⟨front, back ++ rest, by simp, List.mem_append_left _ later⟩

theorem Before.append_left {order : List α} {first second : α} (before : Before order first second)
    (start : List α) : Before (start ++ order) first second := by
  obtain ⟨front, back, rfl, later⟩ := before
  exact ⟨start ++ front, back, by simp, later⟩

theorem before_append {start rest : List α} {first second : α} (early : first ∈ start)
    (late : second ∈ rest) : Before (start ++ rest) first second := by
  obtain ⟨front, back, rfl⟩ := List.append_of_mem early
  exact ⟨front, back ++ rest, by simp, List.mem_append_right _ late⟩

theorem before_iff_sublist {order : List α} {first second : α} :
    Before order first second ↔ [first, second].Sublist order := by
  rw [List.cons_sublist_iff]
  constructor
  · rintro ⟨front, back, rfl, later⟩
    exact ⟨front ++ [first], back, by simp, by simp, List.singleton_sublist.mpr later⟩
  · rintro ⟨start, rest, rfl, early, later⟩
    exact before_append early (List.singleton_sublist.mp later)

/-- Of two nodes of a list, one stands before the other. -/
theorem before_total {order : List α} {first second : α} (one : first ∈ order)
    (other : second ∈ order) (different : first ≠ second) :
    Before order first second ∨ Before order second first := by
  obtain ⟨front, back, rfl⟩ := List.append_of_mem one
  rcases List.mem_append.mp other with early | late
  · exact .inr (before_append early List.mem_cons_self)
  · rcases List.mem_cons.mp late with rfl | later
    · exact absurd rfl different
    · exact .inl ⟨front, back, rfl, later⟩

theorem Before.mem {order : List α} {first second : α} (before : Before order first second) :
    first ∈ order ∧ second ∈ order := by
  obtain ⟨front, back, rfl, later⟩ := before
  exact ⟨by simp, by simp [later]⟩

/-- Along a chain of a relation without cycles, the relation leads forward. -/
theorem chain_forward {relation : α → α → Prop}
    (acyclic : ∀ node, ¬Relation.TransGen relation node node) {path : List α}
    (chain : path.IsChain relation) :
    path.Nodup ∧ ∀ first ∈ path, ∀ second ∈ path, relation first second →
      Before path first second := by
  have ordered : path.Pairwise (Relation.TransGen relation) :=
    List.isChain_iff_pairwise.mp (chain.imp fun _ _ => Relation.TransGen.single)
  have distinct : path.Nodup := by
    refine ordered.imp ?_
    rintro first _ step rfl
    exact acyclic first step
  refine ⟨distinct, ?_⟩
  intro first one second other step
  have different : first ≠ second := by
    rintro rfl
    exact acyclic first (.single step)
  rcases before_total one other different with before | swapped
  · exact before
  · have back := List.pairwise_iff_forall_sublist.mp ordered (before_iff_sublist.mp swapped)
    exact absurd (back.tail step) (acyclic second)

end

theorem Before.idxOf_lt {order : List α} (unique : order.Nodup) {first second : α}
    (before : Before order first second) : order.idxOf first < order.idxOf second := by
  obtain ⟨front, back, rfl, later⟩ := before
  have apart := List.disjoint_of_nodup_append unique
  have own := (List.nodup_cons.mp (List.nodup_append.mp unique).2.1).1
  have absent : first ∉ front := fun early => apart early List.mem_cons_self
  have other : second ∉ front := fun early => apart early (List.mem_cons_of_mem _ later)
  have different : first ≠ second := by
    rintro rfl
    exact own later
  rw [List.idxOf_append_of_notMem absent, List.idxOf_append_of_notMem other, List.idxOf_cons_self,
    List.idxOf_cons_ne _ different]
  omega

theorem Before.asymm {order : List α} (unique : order.Nodup) {first second : α}
    (before : Before order first second) : ¬Before order second first := fun swapped =>
  Nat.lt_asymm (before.idxOf_lt unique) (swapped.idxOf_lt unique)

/-- A relation that only leads forward in a list has no cycle. -/
theorem acyclic_of_before {order : List α} (unique : order.Nodup) {relation : α → α → Prop}
    (forward : ∀ first second, relation first second → Before order first second) (node : α) :
    ¬Relation.TransGen relation node node := by
  have grows : ∀ first second, Relation.TransGen relation first second →
      order.idxOf first < order.idxOf second := by
    intro first second path
    induction path with
    | single step => exact (forward _ _ step).idxOf_lt unique
    | tail _ step ih => exact ih.trans ((forward _ _ step).idxOf_lt unique)
  intro cycle
  exact absurd (grows node node cycle) (Nat.lt_irrefl _)

end

end Kahn
