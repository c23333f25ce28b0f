import Mathlib.Data.List.Chain
import Mathlib.Algebra.Order.BigOperators.Group.List
import Mathlib.Algebra.Order.Group.Nat
import Mathlib.Algebra.Ring.Nat
import Mathlib.Order.Bounds.Basic

/-!
Paths of a relation as lists, and the greatest weight of a path that ends in a node.
-/

set_option autoImplicit false

namespace Paths

variable {α : Type} {r : α → α → Prop} {w : α → Nat}

/-- A path that ends in a node. -/
structure Ends (r : α → α → Prop) (node : α) (path : List α) : Prop where
  chain : path.IsChain r
  last : path.getLast? = some node

theorem Ends.ne_nil {node : α} {path : List α} (ends : Ends r node path) : path ≠ [] := by
  rintro rfl
  cases ends.last

theorem ends_single (node : α) : Ends r node [node] := ⟨.singleton node, rfl⟩

theorem Ends.snoc {node previous : α} {path : List α} (ends : Ends r previous path)
    (joined : r previous node) : Ends r node (path ++ [node]) := by
  refine ⟨ends.chain.append (.singleton node) ?_, by simp⟩
  intro last listed first same
  rw [ends.last] at listed
  cases listed
  cases same
  exact joined

/-- A path is its end alone, or goes through a predecessor of its end. -/
theorem Ends.cases {node : α} {path : List α} (ends : Ends r node path) :
    path = [node] ∨ ∃ front previous, path = front ++ [node] ∧ r previous node ∧
      Ends r previous front := by
  rcases List.eq_nil_or_concat' path with rfl | ⟨front, last, rfl⟩
  · cases ends.last
  · have same := ends.last
    rw [List.getLast?_concat, Option.some.injEq] at same
    subst same
    cases closing : front.getLast? with
    | none =>
        rw [List.getLast?_eq_none_iff.mp closing]
        exact .inl rfl
    | some previous =>
        have parts := List.isChain_append.mp ends.chain
        exact .inr ⟨front, previous, rfl, parts.2.2 previous closing last rfl, parts.1, closing⟩

/-- A path goes on along a way from its end. -/
theorem Ends.extend {first second : α} {path : List α} (ends : Ends r first path)
    (way : Relation.TransGen r first second) :
    ∃ longer, Ends r second longer ∧ path.length < longer.length := by
  induction way with
  | single joined => exact ⟨_, ends.snoc joined, by simp⟩
  | tail _ joined ih =>
      obtain ⟨longer, ending, more⟩ := ih
      refine ⟨_, ending.snoc joined, ?_⟩
      rw [List.length_append]
      omega

/-- The weight of a path is that of its nodes. -/
def weight (w : α → Nat) (path : List α) : Nat := (path.map w).sum

theorem weight_snoc (path : List α) (node : α) :
    weight w (path ++ [node]) = weight w path + w node := by
  simp [weight]

theorem weight_mono {w' : α → Nat} (grows : ∀ node, w node ≤ w' node) (path : List α) :
    weight w path ≤ weight w' path := List.sum_le_sum fun node _ => grows node

theorem weight_one (path : List α) : weight (fun _ => 1) path = path.length := by
  rw [weight, List.map_const', List.sum_replicate_nat, Nat.mul_one]

/-- The greatest weight of a path that ends in a node. -/
def Longest (r : α → α → Prop) (w : α → Nat) (node : α) (n : Nat) : Prop :=
  IsGreatest (weight w '' {path | Ends r node path}) n

theorem Longest.attained {node : α} {n : Nat} (longest : Longest r w node n) :
    ∃ path, Ends r node path ∧ weight w path = n := longest.1

theorem Longest.bound {node : α} {n : Nat} (longest : Longest r w node n) {path : List α}
    (ends : Ends r node path) : weight w path ≤ n := longest.2 ⟨path, ends, rfl⟩

/-- The longest path through the predecessors of a node, which are all known. -/
theorem longest_of_predecessors {node : α} {m : Nat}
    (bounded : ∀ previous, r previous node → ∃ n ≤ m, Longest r w previous n)
    (attained : m = 0 ∨ ∃ previous, r previous node ∧ Longest r w previous m) :
    Longest r w node (m + w node) := by
  constructor
  · rcases attained with rfl | ⟨previous, joined, longest⟩
    · exact ⟨[node], ends_single node, by simp [weight]⟩
    · obtain ⟨path, ends, rfl⟩ := longest.attained
      exact ⟨path ++ [node], ends.snoc joined, weight_snoc path node⟩
  · rintro _ ⟨path, ends, rfl⟩
    rcases ends.cases with rfl | ⟨front, previous, rfl, joined, earlier⟩
    · simp [weight]
    · obtain ⟨n, least, longest⟩ := bounded previous joined
      rw [weight_snoc]
      exact Nat.add_le_add_right ((longest.bound earlier).trans least) _

end Paths
