import NousKernel.CriticalPath

/-!
The parallel groups of a graph: every round takes the nodes that wait for nothing, and the
rounds are the layers of the graph.
-/

set_option autoImplicit false

namespace NousKernel

namespace AgentProgramCompiler

variable {edges : List (String × String)} {done remaining : List String} {count : String → Nat}

/-! ### One ready node -/

theorem lower_apply (remaining targets : List String) (count : String → Nat) (node : String) :
    (targets.foldl (fun count target =>
      if target ∈ remaining then Function.update count target (count target - 1) else count)
      count) node =
        if node ∈ remaining then count node - targets.count node else count node := by
  induction targets using List.reverseRecOn with
  | nil => simp
  | append_singleton front target ih =>
      rw [List.foldl_append, List.foldl_cons, List.foldl_nil]
      by_cases same : node = target
      · subst same
        by_cases known : node ∈ remaining
        · rw [if_pos known, Function.update_self, ih, if_pos known, if_pos known,
            List.count_append, List.count_singleton_self]
          omega
        · rw [if_neg known, ih, if_neg known, if_neg known]
      · have absent : (front ++ [target]).count node = front.count node := by
          simp [Ne.symm same]
        rw [absent, ← ih]
        split
        · exact Function.update_of_ne same _ _
        · rfl

/-- Every remaining node waits for the edges from the nodes that are not done. -/
structure Waiting (edges : List (String × String)) (done remaining : List String)
    (count : String → Nat) : Prop where
  distinct : (done ++ remaining).Nodup
  counts : ∀ id ∈ remaining, count id = Kahn.outstanding edges done id

theorem Waiting.apart (waiting : Waiting edges done remaining count) {id : String}
    (listed : id ∈ remaining) : id ∉ done :=
  fun early => List.disjoint_of_nodup_append waiting.distinct early listed

theorem Waiting.remove (waiting : Waiting edges done remaining count) {id : String}
    (listed : id ∈ remaining) :
    Waiting edges (done ++ [id]) (removeReady edges (remaining, count) id).1
      (removeReady edges (remaining, count) id).2 := by
  have moved : (done ++ [id] ++ remaining.erase id).Perm (done ++ remaining) := by
    rw [List.append_assoc]
    exact ((List.perm_cons_erase listed).symm).append_left done
  refine ⟨moved.nodup_iff.mpr waiting.distinct, ?_⟩
  intro other rest
  change other ∈ remaining.erase id at rest
  have kept := List.mem_of_mem_erase rest
  simp only [removeReady]
  rw [lower_apply, if_pos rest, waiting.counts other kept,
    Kahn.outstanding_snoc (waiting.apart listed)]
  omega

theorem Waiting.removeAll {ready : List String} (waiting : Waiting edges done remaining count)
    (unique : ready.Nodup) (inside : ∀ id ∈ ready, id ∈ remaining) :
    Waiting edges (done ++ ready) (ready.foldl (removeReady edges) (remaining, count)).1
        (ready.foldl (removeReady edges) (remaining, count)).2 ∧
      (ready ++ (ready.foldl (removeReady edges) (remaining, count)).1).Perm remaining := by
  induction ready generalizing done remaining count with
  | nil => exact ⟨by simpa using waiting, .refl _⟩
  | cons id ready ih =>
      obtain ⟨fresh, unique⟩ := List.nodup_cons.mp unique
      have listed := inside id List.mem_cons_self
      have rest : ∀ other ∈ ready, other ∈ remaining.erase id := by
        intro other later
        have different : other ≠ id := by
          rintro rfl
          exact fresh later
        exact (List.mem_erase_of_ne different).mpr (inside other (List.mem_cons_of_mem _ later))
      obtain ⟨next, perm⟩ := ih (waiting.remove listed) unique rest
      rw [List.append_assoc] at next
      exact ⟨next, (perm.cons id).trans (List.perm_cons_erase listed).symm⟩

/-! ### One round -/

/-- The number of nodes of the longest path that ends in a node. -/
abbrev Depth (edges : List (String × String)) : String → Nat → Prop :=
  Paths.Longest (Kahn.Edge edges) fun _ => 1

/-- The state before round `k`: the nodes that are done lie in the layers up to it, and those
that remain lie behind it. -/
structure Layered (edges : List (String × String)) (k : Nat) (done remaining : List String)
    (count : String → Nat) : Prop where
  waiting : Waiting edges done remaining count
  layers : ∀ id ∈ done, ∃ n ≤ k, Depth edges id n
  behind : ∀ id ∈ remaining, k = 0 ∨
    ∃ source, Kahn.Edge edges source id ∧ (source ∈ done → Depth edges source k)

theorem Layered.depth {k : Nat} (layered : Layered edges k done remaining count) {id : String}
    (listed : id ∈ remaining) (free : count id = 0) : Depth edges id (k + 1) := by
  rw [layered.waiting.counts id listed, Kahn.outstanding_zero] at free
  refine Paths.longest_of_predecessors ?_ ?_
  · intro source edge
    exact layered.layers source (free _ edge rfl)
  · rcases layered.behind id listed with first | ⟨source, edge, deep⟩
    · exact .inl first
    · exact .inr ⟨source, edge, deep (free _ edge rfl)⟩

theorem Layered.next {k : Nat} {ready : List String} (layered : Layered edges k done remaining count)
    (unique : ready.Nodup) (free : ∀ id, id ∈ ready ↔ id ∈ remaining ∧ count id = 0) :
    Layered edges (k + 1) (done ++ ready) (ready.foldl (removeReady edges) (remaining, count)).1
        (ready.foldl (removeReady edges) (remaining, count)).2 ∧
      (ready ++ (ready.foldl (removeReady edges) (remaining, count)).1).Perm remaining := by
  obtain ⟨waiting, perm⟩ := layered.waiting.removeAll unique fun id listed => ((free id).mp listed).1
  refine ⟨⟨waiting, ?_, ?_⟩, perm⟩
  · intro id listed
    rcases List.mem_append.mp listed with early | late
    · obtain ⟨n, least, deep⟩ := layered.layers id early
      exact ⟨n, by omega, deep⟩
    · exact ⟨k + 1, Nat.le_refl _, layered.depth ((free id).mp late).1 ((free id).mp late).2⟩
  · intro id rest
    have listed : id ∈ remaining := perm.mem_iff.mp (List.mem_append_right _ rest)
    have later : id ∉ ready := by
      intro taken
      exact List.disjoint_of_nodup_append waiting.distinct (List.mem_append_right _ taken) rest
    have waits : ¬Kahn.outstanding edges done id = 0 := by
      rw [← layered.waiting.counts id listed]
      intro zero
      exact later ((free id).mpr ⟨listed, zero⟩)
    rw [Kahn.outstanding_zero] at waits
    push Not at waits
    obtain ⟨⟨source, target⟩, edge, rfl, undone⟩ := waits
    refine .inr ⟨source, edge, fun taken => ?_⟩
    rcases List.mem_append.mp taken with early | late
    · exact absurd early undone
    · exact layered.depth ((free source).mp late).1 ((free source).mp late).2

/-- Without a cycle, a node is ready in every round. -/
theorem Layered.stuck {k : Nat} (layered : Layered edges k done remaining count)
    (founded : WellFounded (Kahn.Edge edges))
    (sources : ∀ e ∈ edges, e.2 ∈ remaining → e.1 ∈ done ++ remaining)
    (stuck : ∀ id ∈ remaining, count id ≠ 0) : remaining = [] := by
  by_contra some_node
  obtain ⟨id, listed, least⟩ := founded.has_min {id | id ∈ remaining}
    (List.exists_mem_of_ne_nil remaining some_node)
  refine stuck id listed ?_
  rw [layered.waiting.counts id listed, Kahn.outstanding_zero]
  rintro ⟨source, target⟩ edge rfl
  rcases List.mem_append.mp (sources _ edge listed) with early | rest
  · exact early
  · exact absurd edge (least source rest)

/-! ### All rounds -/

/-- The rounds take every remaining node, each in the round of its layer. -/
theorem wavesFrom_layers (order : Arrangement) (founded : WellFounded (Kahn.Edge edges))
    (fuel : Nat) {k : Nat} {done remaining : List String} {count : String → Nat}
    (layered : Layered edges k done remaining count)
    (sources : ∀ e ∈ edges, e.2 ∈ remaining → e.1 ∈ done ++ remaining)
    (enough : remaining.length ≤ fuel) :
    (wavesFrom order edges fuel remaining count).flatten.Perm remaining ∧
      ∀ index group, (wavesFrom order edges fuel remaining count)[index]? = some group →
        group ≠ [] ∧ ∀ id ∈ group, Depth edges id (k + index + 1) := by
  induction fuel generalizing k done remaining count with
  | zero =>
      rw [List.eq_nil_of_length_eq_zero (Nat.le_zero.mp enough)]
      exact ⟨.refl _, by simp [wavesFrom]⟩
  | succ fuel ih =>
      have free : ∀ id, id ∈ (order.val remaining).filter (count · = 0) ↔
          id ∈ remaining ∧ count id = 0 := by
        intro id
        rw [List.mem_filter, (order.2 remaining).mem_iff, decide_eq_true_eq]
      have unique : ((order.val remaining).filter (count · = 0)).Nodup := by
        refine List.Nodup.filter _ ((order.2 remaining).nodup_iff.mpr ?_)
        exact (List.nodup_append.mp layered.waiting.distinct).2.1
      rw [wavesFrom]
      dsimp only
      generalize (order.val remaining).filter (count · = 0) = ready at free unique
      split
      · rename_i none
        subst none
        have empty := layered.stuck founded sources fun id listed zero =>
          absurd ((free id).mpr ⟨listed, zero⟩) List.not_mem_nil
        rw [empty]
        exact ⟨.refl _, by simp⟩
      · rename_i some_ready
        obtain ⟨next, perm⟩ := layered.next unique free
        generalize ready.foldl (removeReady edges) (remaining, count) = s at next perm
        have lengths := perm.length_eq
        rw [List.length_append] at lengths
        have positive := List.length_pos_iff.mpr some_ready
        obtain ⟨flat, deep⟩ := ih next (fun e edge rest => by
          rw [List.append_assoc, (perm.append_left done).mem_iff]
          exact sources e edge (perm.mem_iff.mp (List.mem_append_right _ rest))) (by omega)
        refine ⟨?_, ?_⟩
        · rw [List.flatten_cons]
          exact (flat.append_left ready).trans perm
        · intro index group found
          cases index with
          | zero =>
              rw [List.getElem?_cons_zero, Option.some.injEq] at found
              subst found
              exact ⟨some_ready, fun id taken =>
                layered.depth ((free id).mp taken).1 ((free id).mp taken).2⟩
          | succ index =>
              rw [List.getElem?_cons_succ] at found
              have shift : k + (index + 1) + 1 = k + 1 + index + 1 := by omega
              rw [shift]
              exact deep index group found

/-! ### The layers of a graph -/

/-- The numbers of edges of the paths that end in a node. -/
def edgesInto (edges : List PhaseEdge) (id : String) : Set Nat :=
  {n | ∃ path, Paths.Ends (Kahn.Edge (ends edges)) id path ∧ path.length = n + 1}

theorem Depth.edgesInto {edges : List PhaseEdge} {id : String} {n : Nat}
    (deep : Depth (ends edges) id (n + 1)) :
    IsGreatest (AgentProgramCompiler.edgesInto edges id) n := by
  constructor
  · obtain ⟨path, way, weight⟩ := deep.attained
    exact ⟨path, way, (Paths.weight_one path).symm.trans weight⟩
  · rintro m ⟨path, way, length⟩
    have bound := deep.bound way
    rw [Paths.weight_one] at bound
    omega

/-- A way from a node to another makes the paths to it longer. -/
theorem Depth.lt {first second : String} {n m : Nat} (one : Depth edges first n)
    (other : Depth edges second m) (way : Relation.TransGen (Kahn.Edge edges) first second) :
    n < m := by
  obtain ⟨path, ending, weight⟩ := one.attained
  obtain ⟨longer, ending', more⟩ := ending.extend way
  have bound := other.bound ending'
  rw [Paths.weight_one] at weight bound
  omega

/-- Groups that are the layers of a graph. -/
structure Layers (nodes : List PhaseNode) (edges : List PhaseEdge) (groups : List (List String)) :
    Prop where
  partition : groups.flatten.Perm (nodes.map (·.nodeId))
  occupied : ∀ group ∈ groups, group ≠ []
  layer : ∀ (index : Nat) group, groups[index]? = some group →
    ∀ id ∈ group, IsGreatest (edgesInto edges id) index
  later : ∀ edge ∈ edges, ∀ (index index' : Nat) group group', groups[index]? = some group →
    groups[index']? = some group' → edge.fromNodeId ∈ group → edge.toNodeId ∈ group' →
      index < index'
  independent : ∀ group ∈ groups, ∀ first ∈ group, ∀ second ∈ group,
    ¬Relation.TransGen (Kahn.Edge (ends edges)) first second

/-- The parallel groups are the layers of the graph, whatever the order of the map: the rounds
end when every node is taken. -/
theorem parallel_groups_layers (order : Arrangement) (nodes : List PhaseNode)
    (edges : List PhaseEdge) (distinct : (nodes.map (·.nodeId)).Nodup)
    (between : Between nodes edges) (acyclic : Kahn.Acyclic (ends edges)) :
    Layers nodes edges (findParallelGroups order nodes edges) := by
  have start : Layered (ends edges) 0 [] (nodes.map (·.nodeId)) (Kahn.degree (ends edges)) :=
    ⟨⟨distinct, fun id _ => (Kahn.outstanding_nil _ id).symm⟩, by simp, fun _ _ => .inl rfl⟩
  obtain ⟨flat, deep⟩ := wavesFrom_layers order (Kahn.wellFounded_iff.mpr acyclic) _ start
    (fun e edge _ => (between.inside e edge).1) (Nat.le_refl _)
  have unfolded : findParallelGroups order nodes edges =
      wavesFrom order (ends edges) (nodes.map (·.nodeId)).length (nodes.map (·.nodeId))
        (Kahn.degree (ends edges)) := by
    rw [findParallelGroups, List.dedup_eq_self.mpr distinct]
  rw [← unfolded] at flat deep
  generalize findParallelGroups order nodes edges = groups at flat deep
  have depth : ∀ {index : Nat} {group}, groups[index]? = some group → ∀ id ∈ group,
      Depth (ends edges) id (index + 1) := by
    intro index group found id listed
    have own := (deep index group found).2 id listed
    rwa [Nat.zero_add] at own
  refine ⟨flat, ?_, ?_, ?_, ?_⟩
  · intro group listed
    obtain ⟨index, found⟩ := List.getElem?_of_mem listed
    exact (deep index group found).1
  · intro index group found id listed
    exact (depth found id listed).edgesInto
  · intro edge own index index' group group' found found' source target
    have way : Kahn.Edge (ends edges) edge.fromNodeId edge.toNodeId :=
      edge_ends.mpr ⟨edge, own, rfl, rfl⟩
    have deeper := Depth.lt (depth found _ source) (depth found' _ target) (.single way)
    omega
  · intro group listed first one second other way
    obtain ⟨index, found⟩ := List.getElem?_of_mem listed
    exact Nat.lt_irrefl _ (Depth.lt (depth found _ one) (depth found _ other) way)

theorem parallel_groups_triangle :
    let nodes := [lastingNode "c" 5, lastingNode "a" 10, lastingNode "b" 0]
    Layers nodes triangle (findParallelGroups HashOrders.listed.remaining nodes triangle) ∧
      findParallelGroups HashOrders.listed.remaining nodes triangle = [["a"], ["b"], ["c"]] :=
  ⟨parallel_groups_layers _ _ _ (by decide) triangle_between triangle_acyclic, rfl⟩

end AgentProgramCompiler

end NousKernel
