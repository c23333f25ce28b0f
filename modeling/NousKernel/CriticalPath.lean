import NousKernel.Graphs
import NousKernel.Paths

/-!
The critical path of a graph: the dynamic program over its nodes in topological order, and
the path that it follows back.
-/

set_option autoImplicit false

namespace NousKernel

namespace AgentProgramCompiler

variable {nodes : List PhaseNode} {edges : List (String × String)}

/-- What a node adds to the length of a path. -/
def spent (nodes : List PhaseNode) (id : String) : Nat := (durationOf nodes id).getD 1

/-! ### One node -/

/-- The best way into a node is no shorter than any, and is one of them. -/
structure BestInto (longestTo : String → Option Nat) (nodeLen : Nat)
    (incoming : List (String × String)) (best : Nat × Option String) : Prop where
  least : nodeLen ≤ best.1
  bound : ∀ edge ∈ incoming, ∀ n, longestTo edge.1 = some n → n + nodeLen ≤ best.1
  attained : best = (nodeLen, none) ∨
    ∃ edge ∈ incoming, ∃ n, longestTo edge.1 = some n ∧ best = (n + nodeLen, some edge.1)

theorem bestInto_spec (longestTo : String → Option Nat) (nodeLen : Nat)
    (incoming : List (String × String)) :
    BestInto longestTo nodeLen incoming (bestInto longestTo nodeLen incoming) := by
  induction incoming using List.reverseRecOn with
  | nil => exact ⟨Nat.le_refl _, by simp, .inl rfl⟩
  | append_singleton front edge ih =>
      have earlier : bestInto longestTo nodeLen front = (nodeLen, none) ∨
          ∃ edge' ∈ front ++ [edge], ∃ n, longestTo edge'.1 = some n ∧
            bestInto longestTo nodeLen front = (n + nodeLen, some edge'.1) := by
        rcases ih.attained with alone | ⟨edge', listed, n, known, same⟩
        · exact .inl alone
        · exact .inr ⟨edge', List.mem_append_left _ listed, n, known, same⟩
      cases known : longestTo edge.1 with
      | none =>
          have unfolded : bestInto longestTo nodeLen (front ++ [edge]) =
              bestInto longestTo nodeLen front := by
            rw [bestInto, List.foldl_append, List.foldl_cons, List.foldl_nil, known]
            rfl
          rw [unfolded]
          refine ⟨ih.least, ?_, earlier⟩
          intro edge' listed n found
          rcases List.mem_append.mp listed with before | last
          · exact ih.bound edge' before n found
          · rw [List.mem_singleton.mp last, known] at found
            cases found
      | some predLen =>
          have unfolded : bestInto longestTo nodeLen (front ++ [edge]) =
              if (bestInto longestTo nodeLen front).1 < predLen + nodeLen then
                (predLen + nodeLen, some edge.1)
              else bestInto longestTo nodeLen front := by
            rw [bestInto, List.foldl_append, List.foldl_cons, List.foldl_nil, known]
            rfl
          rw [unfolded]
          split
          · rename_i longer
            refine ⟨Nat.le_add_left _ _, ?_, .inr ⟨edge, by simp, predLen, known, rfl⟩⟩
            intro edge' listed n found
            rcases List.mem_append.mp listed with before | last
            · exact (ih.bound edge' before n found).trans longer.le
            · rw [List.mem_singleton.mp last, known, Option.some.injEq] at found
              rw [found]
          · rename_i shorter
            refine ⟨ih.least, ?_, earlier⟩
            intro edge' listed n found
            rcases List.mem_append.mp listed with before | last
            · exact ih.bound edge' before n found
            · rw [List.mem_singleton.mp last, known, Option.some.injEq] at found
              omega

/-! ### All nodes in order -/

/-- The state of the dynamic program after the nodes `done`: the lengths are exact, the
predecessors lie on paths of these lengths, and the longest of all is known. -/
structure Exact (nodes : List PhaseNode) (edges : List (String × String)) (start : String)
    (done : List String) (s : Longest) : Prop where
  blank : ∀ id, id ∉ done → s.longestTo id = none ∧ s.predecessor id = none
  exact : ∀ id ∈ done, ∃ n ≤ s.maxLen, s.longestTo id = some n ∧
    Paths.Longest (Kahn.Edge edges) (spent nodes) id n
  traced : ∀ id ∈ done, ∀ n, s.longestTo id = some n →
    (s.predecessor id = none ∧ n = spent nodes id) ∨
      ∃ previous m, s.predecessor id = some previous ∧ Kahn.Edge edges previous id ∧
        Kahn.Before done previous id ∧ s.longestTo previous = some m ∧ n = m + spent nodes id
  best : (s.maxLen = 0 ∧ s.maxNode = start) ∨
    (s.maxNode ∈ done ∧ s.longestTo s.maxNode = some s.maxLen)

/-- The best way to a node is known. -/
def arrive (s : Longest) (node : String) (best : Nat × Option String) : Longest where
  longestTo := Function.update s.longestTo node (some best.1)
  predecessor := Function.update s.predecessor node best.2
  maxLen := if s.maxLen < best.1 then best.1 else s.maxLen
  maxNode := if s.maxLen < best.1 then node else s.maxNode

theorem extendLongest_eq (s : Longest) (node : String) : extendLongest nodes edges s node =
    arrive s node (bestInto s.longestTo (spent nodes node) (edges.filter (·.2 = node))) := rfl

theorem arrive_self (s : Longest) (node : String) (best : Nat × Option String) :
    (arrive s node best).longestTo node = some best.1 ∧
      (arrive s node best).predecessor node = best.2 :=
  ⟨Function.update_self _ _ _, Function.update_self _ _ _⟩

theorem arrive_ne (s : Longest) {id node : String} (other : id ≠ node) (best : Nat × Option String) :
    (arrive s node best).longestTo id = s.longestTo id ∧
      (arrive s node best).predecessor id = s.predecessor id :=
  ⟨Function.update_of_ne other _ _, Function.update_of_ne other _ _⟩

theorem arrive_maxLen (s : Longest) (node : String) (best : Nat × Option String) :
    s.maxLen ≤ (arrive s node best).maxLen ∧ best.1 ≤ (arrive s node best).maxLen := by
  unfold arrive
  dsimp only
  split <;> omega

theorem Exact.nil (start : String) :
    Exact nodes edges start [] ⟨fun _ => none, fun _ => none, 0, start⟩ :=
  ⟨fun _ _ => ⟨rfl, rfl⟩, by simp, by simp, .inl ⟨rfl, rfl⟩⟩

theorem Exact.snoc {start node : String} {done : List String} {s : Longest}
    (sound : Exact nodes edges start done s) (fresh : node ∉ done)
    (sources : ∀ e ∈ edges, e.2 = node → e.1 ∈ done) :
    Exact nodes edges start (done ++ [node]) (extendLongest nodes edges s node) := by
  have spec := bestInto_spec s.longestTo (spent nodes node) (edges.filter (·.2 = node))
  have into : ∀ e ∈ edges.filter (·.2 = node), Kahn.Edge edges e.1 node ∧ e.1 ∈ done := by
    intro e listed
    rw [List.mem_filter, decide_eq_true_eq] at listed
    obtain ⟨edge, rfl⟩ := listed
    exact ⟨edge, sources e edge rfl⟩
  rw [extendLongest_eq]
  generalize bestInto s.longestTo (spent nodes node) (edges.filter (·.2 = node)) = best at spec
  obtain ⟨grows, covers⟩ := arrive_maxLen s node best
  have longest : Paths.Longest (Kahn.Edge edges) (spent nodes) node best.1 := by
    have through : ∃ m, best.1 = m + spent nodes node ∧ (m = 0 ∨ ∃ previous,
        Kahn.Edge edges previous node ∧ Paths.Longest (Kahn.Edge edges) (spent nodes) previous m) := by
      rcases spec.attained with rfl | ⟨e, listed, n, known, rfl⟩
      · exact ⟨0, (Nat.zero_add _).symm, .inl rfl⟩
      · obtain ⟨edge, early⟩ := into e listed
        obtain ⟨m, _, found, exact⟩ := sound.exact e.1 early
        rw [known, Option.some.injEq] at found
        exact ⟨n, rfl, .inr ⟨e.1, edge, found ▸ exact⟩⟩
    obtain ⟨m, sum, attained⟩ := through
    rw [sum]
    refine Paths.longest_of_predecessors ?_ attained
    intro previous edge
    have listed : (previous, node) ∈ edges.filter (·.2 = node) :=
      List.mem_filter.mpr ⟨edge, decide_eq_true rfl⟩
    obtain ⟨n, _, found, exact⟩ := sound.exact previous (into _ listed).2
    have bound := spec.bound _ listed n found
    exact ⟨n, by omega, exact⟩
  have other : ∀ id ∈ done, id ≠ node := by
    rintro id early rfl
    exact fresh early
  refine ⟨?_, ?_, ?_, ?_⟩
  · intro id absent
    rw [List.mem_append, List.mem_singleton, not_or] at absent
    obtain ⟨same, same'⟩ := arrive_ne s absent.2 best
    rw [same, same']
    exact sound.blank id absent.1
  · intro id listed
    rcases List.mem_append.mp listed with early | last
    · obtain ⟨n, least, known, exact⟩ := sound.exact id early
      refine ⟨n, least.trans grows, ?_, exact⟩
      rw [(arrive_ne s (other id early) best).1]
      exact known
    · rw [List.mem_singleton.mp last]
      exact ⟨best.1, covers, (arrive_self s node best).1, longest⟩
  · intro id listed n known
    rcases List.mem_append.mp listed with early | last
    · obtain ⟨same, same'⟩ := arrive_ne s (other id early) best
      rw [same] at known
      rw [same']
      rcases sound.traced id early n known with alone | ⟨previous, m, came, edge, before, found, sum⟩
      · exact .inl alone
      · refine .inr ⟨previous, m, came, edge, before.append_right _, ?_, sum⟩
        rw [(arrive_ne s (other previous before.mem.1) best).1]
        exact found
    · rw [List.mem_singleton.mp last] at known ⊢
      obtain ⟨same, same'⟩ := arrive_self s node best
      rw [same, Option.some.injEq] at known
      rw [same', ← known]
      rcases spec.attained with rfl | ⟨e, incoming, m, found, rfl⟩
      · exact .inl ⟨rfl, rfl⟩
      · obtain ⟨edge, early⟩ := into e incoming
        refine .inr ⟨e.1, m, rfl, edge, Kahn.before_append early (List.mem_singleton_self _), ?_, rfl⟩
        rw [(arrive_ne s (other e.1 early) _).1]
        exact found
  · by_cases longer : s.maxLen < best.1
    · have node_best : (arrive s node best).maxNode = node ∧ (arrive s node best).maxLen = best.1 :=
        ⟨if_pos longer, if_pos longer⟩
      rw [node_best.1, node_best.2]
      exact .inr ⟨by simp, (arrive_self s node best).1⟩
    · have kept : (arrive s node best).maxNode = s.maxNode ∧
          (arrive s node best).maxLen = s.maxLen := ⟨if_neg longer, if_neg longer⟩
      rw [kept.1, kept.2]
      rcases sound.best with start | ⟨early, known⟩
      · exact .inl start
      · refine .inr ⟨List.mem_append_left _ early, ?_⟩
        rw [(arrive_ne s (other _ early) best).1]
        exact known

theorem exact_foldl {sorted : List String} (unique : sorted.Nodup) (closed : Kahn.Closed edges sorted)
    (start : String) : Exact nodes edges start sorted
      (sorted.foldl (extendLongest nodes edges) ⟨fun _ => none, fun _ => none, 0, start⟩) := by
  induction sorted using List.reverseRecOn with
  | nil => exact Exact.nil start
  | append_singleton front node ih =>
      rw [List.foldl_append]
      have fresh : node ∉ front := by
        intro early
        exact List.disjoint_of_nodup_append unique early (List.mem_singleton_self _)
      have initial : Kahn.Closed edges front := by
        intro early id back split
        exact closed early id (back ++ [node]) (by rw [split]; simp)
      exact (ih (List.nodup_append.mp unique).1 initial).snoc fresh (closed front node [] rfl)

/-! ### The way back -/

/-- The path that the loop follows back, without a limit on its rounds. -/
inductive Traced (predecessor : String → Option String) : String → List String → Prop where
  | start {node : String} (first : predecessor node = none) : Traced predecessor node [node]
  | back {node previous : String} {path : List String} (came : predecessor node = some previous)
      (earlier : Traced predecessor previous path) : Traced predecessor node (node :: path)

theorem pathBack_traced {sorted : List String} {predecessor : String → Option String}
    (unique : sorted.Nodup)
    (earlier : ∀ id ∈ sorted, ∀ previous, predecessor id = some previous →
      Kahn.Before sorted previous id) (fuel : Nat) :
    ∀ id ∈ sorted, sorted.idxOf id < fuel →
      Traced predecessor id (pathBack predecessor fuel id) := by
  induction fuel with
  | zero => intro id _ none; exact absurd none (Nat.not_lt_zero _)
  | succ fuel ih =>
      intro id listed enough
      rw [pathBack]
      cases came : predecessor id with
      | none => exact .start came
      | some previous =>
          have before := earlier id listed previous came
          have index := before.idxOf_lt unique
          exact .back came (ih previous before.mem.1 (by omega))

/-- The path back has the length that is known for its end. -/
theorem Traced.realises {start id : String} {done path : List String} {s : Longest}
    (traced : Traced s.predecessor id path) (sound : Exact nodes edges start done s)
    (listed : id ∈ done) {n : Nat} (known : s.longestTo id = some n) :
    Paths.Ends (Kahn.Edge edges) id path.reverse ∧
      Paths.weight (spent nodes) path.reverse = n ∧ ∀ other ∈ path, other ∈ done := by
  induction traced generalizing n with
  | @start node first =>
      rcases sound.traced node listed n known with ⟨_, rfl⟩ | ⟨previous, _, came, _⟩
      · exact ⟨Paths.ends_single node, by simp [Paths.weight], by simpa using listed⟩
      · rw [first] at came
        cases came
  | @back node previous path came _ ih =>
      rcases sound.traced node listed n known with ⟨first, _⟩ |
        ⟨source, m, from_source, edge, before, found, rfl⟩
      · rw [first] at came
        cases came
      · rw [came, Option.some.injEq] at from_source
        subst from_source
        obtain ⟨ends, weight, inside⟩ := ih before.mem.1 found
        rw [List.reverse_cons]
        refine ⟨ends.snoc edge, ?_, ?_⟩
        · rw [Paths.weight_snoc, weight]
        · intro other member
          rcases List.mem_cons.mp member with rfl | later
          · exact listed
          · exact inside other later

/-! ### The whole graph -/

/-- A path through nodes that no cycle leads to, and no path to such a node is longer. -/
structure Critical (nodes : List PhaseNode) (edges : List (String × String)) (path : List String) :
    Prop where
  ends : ∃ node, Paths.Ends (Kahn.Edge edges) node path
  inside : ∀ id ∈ path, id ∈ nodes.map (·.nodeId) ∧ Acc (Kahn.Edge edges) id
  bound : ∀ id ∈ nodes.map (·.nodeId), Acc (Kahn.Edge edges) id →
    ∃ n ≤ Paths.weight (spent nodes) path, Paths.Longest (Kahn.Edge edges) (spent nodes) id n

/-- The critical path, or the empty name where every node lies behind a cycle. -/
theorem computeCriticalPath_spec (order : Arrangement) {edges : List PhaseEdge}
    (inside : ∀ e ∈ ends edges, e.1 ∈ nodes.map (·.nodeId) ∧ e.2 ∈ nodes.map (·.nodeId)) :
    ((∃ id ∈ nodes.map (·.nodeId), Acc (Kahn.Edge (ends edges)) id) ∧
      Critical nodes (ends edges) (computeCriticalPath order nodes edges)) ∨
    ((∀ id ∈ nodes.map (·.nodeId), ¬Acc (Kahn.Edge (ends edges)) id) ∧
      computeCriticalPath order nodes edges = [""]) := by
  have keys : ∀ id, id ∈ order.val (nodes.map (·.nodeId) ++ (ends edges).map (·.2)).dedup ↔
      id ∈ nodes.map (·.nodeId) := by
    intro id
    rw [(order.2 _).mem_iff, List.mem_dedup, List.mem_append, or_iff_left_iff_imp]
    intro target
    obtain ⟨e, edge, rfl⟩ := List.mem_map.mp target
    exact (inside e edge).2
  have distinct := (order.2 (nodes.map (·.nodeId) ++ (ends edges).map (·.2)).dedup).nodup_iff.mpr
    (List.nodup_dedup _)
  have sorted := Kahn.sort_sorted distinct fun e edge => (keys e.2).mpr (inside e edge).2
  have taken : ∀ id ∈ nodes.map (·.nodeId),
      (id ∈ Kahn.sort (order.val (nodes.map (·.nodeId) ++ (ends edges).map (·.2)).dedup)
        (ends edges) ↔ Acc (Kahn.Edge (ends edges)) id) := fun id known =>
    sorted.mem_iff (fun e edge => (keys e.1).mpr (inside e edge).1) ((keys id).mpr known)
  unfold computeCriticalPath
  dsimp only
  generalize Kahn.sort (order.val (nodes.map (·.nodeId) ++ (ends edges).map (·.2)).dedup)
    (ends edges) = list at sorted taken
  have sound : Exact nodes (ends edges) (list.headD "") list _ :=
    exact_foldl sorted.unique sorted.closed _
  generalize list.foldl (extendLongest nodes (ends edges))
    ⟨fun _ => none, fun _ => none, 0, list.headD ""⟩ = s at sound
  cases list with
  | nil =>
      refine .inr ⟨fun id known founded => absurd ((taken id known).mpr founded) (by simp), ?_⟩
      have start : s.maxNode = "" := by
        rcases sound.best with ⟨_, same⟩ | ⟨listed, _⟩
        · exact same
        · cases listed
      rw [start, pathBack, (sound.blank "" (by simp)).2]
      rfl
  | cons first rest =>
      have known : ∀ id ∈ first :: rest, id ∈ nodes.map (·.nodeId) := fun id listed =>
        (keys id).mp (sorted.inside id listed)
      have best : s.maxNode ∈ first :: rest ∧ s.longestTo s.maxNode = some s.maxLen := by
        rcases sound.best with ⟨zero, same⟩ | best
        · rw [List.headD_cons] at same
          rw [same, zero]
          obtain ⟨n, least, found, _⟩ := sound.exact first List.mem_cons_self
          rw [zero] at least
          exact ⟨List.mem_cons_self, found.trans (congrArg some (Nat.le_zero.mp least))⟩
        · exact best
      have earlier : ∀ id ∈ first :: rest, ∀ previous, s.predecessor id = some previous →
          Kahn.Before (first :: rest) previous id := by
        intro id listed previous came
        obtain ⟨n, _, found, _⟩ := sound.exact id listed
        rcases sound.traced id listed n found with ⟨none, _⟩ | ⟨source, _, same, _, before, _⟩
        · rw [came] at none
          cases none
        · rw [came, Option.some.injEq] at same
          exact same ▸ before
      have traced := pathBack_traced sorted.unique earlier ((first :: rest).length + 1) s.maxNode
        best.1 (Nat.lt_succ_of_lt (List.idxOf_lt_length_of_mem best.1))
      obtain ⟨way, weight, members⟩ := traced.realises sound best.1 best.2
      refine .inl ⟨⟨first, known first List.mem_cons_self,
        (taken first (known first List.mem_cons_self)).mp List.mem_cons_self⟩, ⟨_, way⟩, ?_, ?_⟩
      · intro id listed
        have member := members id (List.mem_reverse.mp listed)
        exact ⟨known id member, (taken id (known id member)).mp member⟩
      · intro id listed founded
        obtain ⟨n, least, _, longest⟩ := sound.exact id ((taken id listed).mpr founded)
        exact ⟨n, weight ▸ least, longest⟩

/-! ### The longest path -/

/-- A path through the nodes of a graph. -/
structure Route (nodes : List PhaseNode) (edges : List PhaseEdge) (route : List PhaseNode) : Prop where
  inside : ∀ node ∈ route, node ∈ nodes
  chain : route.IsChain fun first second =>
    ∃ edge ∈ edges, edge.fromNodeId = first.nodeId ∧ edge.toNodeId = second.nodeId

def totalDuration (route : List PhaseNode) : Nat := (route.map (·.config.estimatedDurationMs)).sum

/-- The edges lead from nodes to nodes. -/
def Between (nodes : List PhaseNode) (edges : List PhaseEdge) : Prop :=
  ∀ edge ∈ edges, edge.fromNodeId ∈ nodes.map (·.nodeId) ∧ edge.toNodeId ∈ nodes.map (·.nodeId)

theorem edge_ends {edges : List PhaseEdge} {first second : String} :
    Kahn.Edge (ends edges) first second ↔
      ∃ edge ∈ edges, edge.fromNodeId = first ∧ edge.toNodeId = second := by
  simp only [Kahn.Edge, ends, List.mem_map, Prod.mk.injEq]

theorem Between.inside {edges : List PhaseEdge} (between : Between nodes edges) :
    ∀ e ∈ ends edges, e.1 ∈ nodes.map (·.nodeId) ∧ e.2 ∈ nodes.map (·.nodeId) := by
  rintro ⟨first, second⟩ listed
  obtain ⟨edge, own, rfl, rfl⟩ := edge_ends.mp listed
  exact between edge own

theorem compiled_between {compiler : AgentProgramCompiler} {orders : HashOrders}
    {steps : List AgentStep} {program : AgentExecutionGraph}
    (compiled : compile compiler orders steps = .ok program) :
    Between program.graph.nodes program.graph.edges := by
  intro edge listed
  exact (compiled_before compiled ⟨edge, listed, rfl, rfl⟩).mem

theorem spent_node (distinct : (nodes.map (·.nodeId)).Nodup) {node : PhaseNode}
    (listed : node ∈ nodes) : spent nodes node.nodeId = node.config.estimatedDurationMs := by
  obtain ⟨other, listed', found, same⟩ := find_key (List.mem_map_of_mem (f := (·.nodeId)) listed)
  rw [spent, durationOf, found, List.inj_on_of_nodup_map distinct listed' listed same]
  rfl

theorem weight_route (distinct : (nodes.map (·.nodeId)).Nodup) {route : List PhaseNode}
    (inside : ∀ node ∈ route, node ∈ nodes) :
    Paths.weight (spent nodes) (route.map (·.nodeId)) = totalDuration route := by
  rw [Paths.weight, totalDuration, List.map_map]
  congr 1
  exact List.map_congr_left fun node listed => spent_node distinct (inside node listed)

/-- The critical path is a path of the greatest duration, whatever the order of the map. -/
theorem critical_path_longest (order : Arrangement) (nodes : List PhaseNode)
    (edges : List PhaseEdge) (some_node : nodes ≠ []) (distinct : (nodes.map (·.nodeId)).Nodup)
    (between : Between nodes edges) (acyclic : Kahn.Acyclic (ends edges)) :
    ∃ route, Route nodes edges route ∧ route ≠ [] ∧
      route.map (·.nodeId) = computeCriticalPath order nodes edges ∧
      (∀ other, Route nodes edges other → totalDuration other ≤ totalDuration route) ∧
      estimateDuration (computeCriticalPath order nodes edges) nodes = totalDuration route := by
  have founded := Kahn.wellFounded_iff.mpr acyclic
  rcases computeCriticalPath_spec order between.inside with ⟨_, critical⟩ | ⟨cyclic, _⟩
  · generalize computeCriticalPath order nodes edges = path at critical
    have ids := keys_filterMap path fun id listed => (critical.inside id listed).1
    have members : ∀ node ∈ path.filterMap fun id => nodes.find? (·.nodeId = id),
        node ∈ nodes := by
      intro node listed
      obtain ⟨id, _, found⟩ := List.mem_filterMap.mp listed
      exact List.mem_of_find?_eq_some found
    have duration : estimateDuration path nodes =
        totalDuration (path.filterMap fun id => nodes.find? (·.nodeId = id)) := by
      rw [estimateDuration, totalDuration, List.map_filterMap]
      rfl
    generalize path.filterMap (fun id => nodes.find? (·.nodeId = id)) = route at ids members duration
    subst ids
    obtain ⟨last, way⟩ := critical.ends
    have chain := way.chain
    rw [List.isChain_map] at chain
    refine ⟨route, ⟨members, chain.imp fun _ _ edge => edge_ends.mp edge⟩, ?_, rfl, ?_, duration⟩
    · rintro rfl
      exact way.ne_nil rfl
    · intro other path
      rw [← weight_route distinct members]
      rcases List.eq_nil_or_concat' other with rfl | ⟨front, node, rfl⟩
      · exact Nat.zero_le _
      · have own := path.inside node (by simp)
        obtain ⟨n, least, longest⟩ := critical.bound node.nodeId (List.mem_map_of_mem own)
          (founded.apply _)
        have ending : Paths.Ends (Kahn.Edge (ends edges)) node.nodeId
            ((front ++ [node]).map (·.nodeId)) := by
          refine ⟨?_, by simp⟩
          rw [List.isChain_map]
          exact path.chain.imp fun _ _ edge => edge_ends.mpr edge
        rw [← weight_route distinct path.inside]
        exact (longest.bound ending).trans least
  · obtain ⟨node, listed⟩ := List.exists_mem_of_ne_nil nodes some_node
    exact absurd (founded.apply _) (cyclic node.nodeId (List.mem_map_of_mem listed))

/-- A node of a duration. -/
def lastingNode (id : String) (duration : Nat) : PhaseNode :=
  ⟨id, .Unspecified, { estimatedDurationMs := duration }, id⟩

def triangle : List PhaseEdge :=
  [onSuccess "a" "c", onSuccess "a" "b", onSuccess "b" "c", onSuccess "a" "c"]

theorem triangle_acyclic : Kahn.Acyclic (ends triangle) := by
  have forward : ∀ first second, Kahn.Edge (ends triangle) first second →
      Kahn.Before ["a", "b", "c"] first second := by
    intro first second edge
    simp only [Kahn.Edge, ends, triangle, onSuccess, List.map_cons, List.map_nil, List.mem_cons,
      Prod.mk.injEq, List.not_mem_nil, or_false] at edge
    rcases edge with ⟨rfl, rfl⟩ | ⟨rfl, rfl⟩ | ⟨rfl, rfl⟩ | ⟨rfl, rfl⟩
    · exact ⟨[], ["b", "c"], rfl, by decide⟩
    · exact ⟨[], ["b", "c"], rfl, by decide⟩
    · exact ⟨["a"], ["c"], rfl, by decide⟩
    · exact ⟨[], ["b", "c"], rfl, by decide⟩
  exact Kahn.acyclic_of_before (by decide) forward

theorem triangle_between :
    Between [lastingNode "c" 5, lastingNode "a" 10, lastingNode "b" 0] triangle := by
  unfold Between
  decide

theorem critical_path_longest_triangle :
    let nodes := [lastingNode "c" 5, lastingNode "a" 10, lastingNode "b" 0]
    ∃ route, Route nodes triangle route ∧ route ≠ [] ∧
      route.map (·.nodeId) = computeCriticalPath HashOrders.listed.nodes nodes triangle ∧
      (∀ other, Route nodes triangle other → totalDuration other ≤ totalDuration route) ∧
      estimateDuration (computeCriticalPath HashOrders.listed.nodes nodes triangle) nodes =
        totalDuration route :=
  critical_path_longest _ _ _ (List.cons_ne_nil _ _) (by decide) triangle_between triangle_acyclic

end AgentProgramCompiler

end NousKernel
