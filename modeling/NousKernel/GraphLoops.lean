import NousKernel.Contracts
import NousKernel.Results

/-!
The loops of the graph check as the code runs them (`nous-intelligence/src/graph.rs`): the
targets and the counts of the nodes are kept in maps, a lookup of a missing key or a
subtraction from zero is a panic, and the queue is drained until it is empty. None of
this happens to any graph: the loops end with the answer of `IntelligenceGraph.validate`.
-/

set_option autoImplicit false

namespace NousKernel

open Results IntelligenceError

namespace IntelligenceGraph

/-- The maps that the loop over the edges fills. -/
structure Links where
  adjacency : TextMap (List String)
  indegree : TextMap Nat

def Links.new (nodes : TextMap GraphNode) : Links :=
  ⟨nodes.map fun _ _ => [], nodes.map fun _ _ => 0⟩

/-- The target is pushed to its source and counted. `none` is a panic of `unwrap`. -/
def Links.join (links : Links) (edge : GraphEdge) : Option Links := do
  let targets ← links.adjacency[edge.fromId]?
  let count ← links.indegree[edge.toId]?
  return ⟨links.adjacency.insert edge.fromId (targets ++ [edge.toId]),
    links.indegree.insert edge.toId (count + 1)⟩

/-- Whether an edge is among others is decided by its ends. -/
local instance lawfulEnds : LawfulBEq (String × String) := inferInstance

/-- The checks of one edge. -/
def checkEdge (nodes : TextMap GraphNode) (unique : List (String × String)) (edge : GraphEdge) :
    Except IntelligenceError Unit := do
  let object := "IntelligenceGraph"
  ensure (edge.fromId ≠ edge.toId) object "edges" ("self-cycle at '" ++ edge.fromId ++ "'")
  let first ← known nodes edge.fromId ("unknown source node '" ++ edge.fromId ++ "'")
  let second ← known nodes edge.toId ("unknown target node '" ++ edge.toId ++ "'")
  ensure ((edge.fromId, edge.toId) ∉ unique) object "edges"
    ("duplicate edge '" ++ edge.fromId ++ " -> " ++ edge.toId ++ "'")
  (validateSchemaConnection first.outputSchema second.inputSchema).mapError fun message =>
    .Invalid object "edges" (edge.fromId ++ " -> " ++ edge.toId ++ ": " ++ message)

/-- The loop over the edges with the maps it fills. -/
def joinEdges (nodes : TextMap GraphNode) : List (String × String) → Links → List GraphEdge →
    Option (Except IntelligenceError Links)
  | _, links, [] => some (.ok links)
  | unique, links, edge :: edges =>
      match checkEdge nodes unique edge with
      | .error e => some (.error e)
      | .ok () => do
          let links ← links.join edge
          joinEdges nodes ((edge.fromId, edge.toId) :: unique) links edges

/-- One target of a visited node. The count is read by `unwrap` and must not be zero. -/
def settle (state : TextMap Nat × List String) (target : String) :
    Option (TextMap Nat × List String) := do
  let count ← state.1[target]?
  if count = 0 then none
  else
    return (state.1.insert target (count - 1),
      if count - 1 = 0 then state.2 ++ [target] else state.2)

/-- The loop over the queue, which counts the nodes it visits; `none` without fuel. -/
def drain (adjacency : TextMap (List String)) : Nat → TextMap Nat → List String → Nat → Option Nat
  | 0, _, _, _ => none
  | _ + 1, _, [], visited => some visited
  | fuel + 1, indegree, node :: queue, visited => do
      let targets ← adjacency[node]?
      let state ← targets.foldlM settle (indegree, queue)
      drain adjacency fuel state.1 state.2 (visited + 1)

/-- The checks before the loop over the edges. -/
def checkNodes (self : IntelligenceGraph) : Except IntelligenceError (TextMap GraphNode) := do
  let object := "IntelligenceGraph"
  IntelligenceError.schema object self.schemaVersion
  require object "id" self.id
  require object "version" self.version
  ensure (!self.nodes.isEmpty) object "nodes" "must contain at least one node"
  collectNodes ∅ self.nodes

/-- `validate` with its loops. -/
def validateLoops (fuel : Nat) (self : IntelligenceGraph) : Option (Except IntelligenceError Unit) :=
  match self.checkNodes with
  | .error e => some (.error e)
  | .ok nodes => do
      match ← joinEdges nodes [] (.new nodes) self.edges with
      | .error e => return .error e
      | .ok links =>
          let free := (links.indegree.toList.filter (·.2 = 0)).map (·.1)
          let visited ← drain links.adjacency fuel links.indegree free 0
          return ensure (visited = nodes.size) "IntelligenceGraph" "edges" "graph contains a cycle"

/-! ### The maps -/

def ends (edge : GraphEdge) : String × String := (edge.fromId, edge.toId)

theorem ends_fst (edge : GraphEdge) : (ends edge).1 = edge.fromId := rfl

theorem ends_snd (edge : GraphEdge) : (ends edge).2 = edge.toId := rfl

/-- The maps hold, for every node, its targets and the number of the edges that end in it. -/
def linked (nodes : TextMap GraphNode) (edges : List (String × String)) : Links :=
  ⟨nodes.map fun id _ => Kahn.targets edges id, nodes.map fun id _ => Kahn.degree edges id⟩

section Maps

variable {nodes : TextMap GraphNode} {V : Type}

theorem map_lookup (nodes : TextMap GraphNode) (f : String → V) (id : String) :
    (nodes.map fun key _ => f key)[id]? = if id ∈ nodes then some (f id) else none := by
  rw [Std.ExtTreeMap.getElem?_map]
  by_cases member : id ∈ nodes
  · rw [if_pos member, Std.ExtTreeMap.getElem?_eq_some_getElem member, Option.map_some]
  · rw [if_neg member, Std.ExtTreeMap.getElem?_eq_none member, Option.map_none]

theorem map_insert (f : String → V) {id : String} (member : id ∈ nodes) (value : V) :
    (nodes.map fun key _ => f key).insert id value =
      nodes.map fun key _ => Function.update f id value key := by
  apply Std.ExtTreeMap.ext_getElem?
  intro key
  rw [Std.ExtTreeMap.getElem?_insert, map_lookup, map_lookup]
  by_cases same : id = key
  · subst same
    simp [member]
  · have other : key ≠ id := fun equal => same equal.symm
    simp [same, other, Std.LawfulEqCmp.compare_eq_iff_eq]

theorem mem_of_known {id message : String} {node : GraphNode}
    (found : known nodes id message = .ok node) : id ∈ nodes := by
  unfold known at found
  split at found
  · rename_i present
    exact Std.ExtTreeMap.mem_iff_isSome_getElem?.mpr (by rw [present]; rfl)
  · cases found

theorem targets_snoc (edges : List (String × String)) (edge : String × String) :
    (fun id => Kahn.targets (edges ++ [edge]) id) =
      Function.update (fun id => Kahn.targets edges id) edge.1
        (Kahn.targets edges edge.1 ++ [edge.2]) := by
  funext id
  by_cases same : id = edge.1
  · subst same
    simp [Kahn.targets, List.filter_append]
  · have other : edge.1 ≠ id := fun equal => same equal.symm
    simp [Kahn.targets, List.filter_append, same, other]

theorem degree_snoc (edges : List (String × String)) (edge : String × String) :
    (fun id => Kahn.degree (edges ++ [edge]) id) =
      Function.update (fun id => Kahn.degree edges id) edge.2 (Kahn.degree edges edge.2 + 1) := by
  funext id
  by_cases same : id = edge.2
  · subst same
    simp [Kahn.degree, List.countP_append]
  · have other : edge.2 ≠ id := fun equal => same equal.symm
    simp [Kahn.degree, List.countP_append, same, other]

theorem join_linked {edges : List (String × String)} {edge : GraphEdge} (first : edge.fromId ∈ nodes)
    (second : edge.toId ∈ nodes) :
    (linked nodes edges).join edge = some (linked nodes (edges ++ [ends edge])) := by
  have adjacency := map_lookup nodes (fun id => Kahn.targets edges id) edge.fromId
  have indegree := map_lookup nodes (fun id => Kahn.degree edges id) edge.toId
  rw [if_pos first] at adjacency
  rw [if_pos second] at indegree
  have targets : (nodes.map fun id _ => Kahn.targets edges id).insert edge.fromId
      (Kahn.targets edges edge.fromId ++ [edge.toId]) =
        nodes.map fun id _ => Kahn.targets (edges ++ [ends edge]) id := by
    rw [map_insert _ first, ← ends_fst, ← ends_snd, ← targets_snoc]
  have degrees : (nodes.map fun id _ => Kahn.degree edges id).insert edge.toId
      (Kahn.degree edges edge.toId + 1) =
        nodes.map fun id _ => Kahn.degree (edges ++ [ends edge]) id := by
    rw [map_insert _ second, ← ends_snd, ← degree_snoc]
  simp only [Links.join, linked, adjacency, indegree, targets, degrees, Option.bind_eq_bind,
    Option.bind_some, Option.pure_def]

theorem linked_nil : linked nodes [] = Links.new nodes := rfl

end Maps

/-! ### The loop over the edges -/

section Edges

variable {nodes : TextMap GraphNode}

theorem checkEdge_known {unique : List (String × String)} {edge : GraphEdge}
    (passed : checkEdge nodes unique edge = .ok ()) : edge.fromId ∈ nodes ∧ edge.toId ∈ nodes := by
  simp only [checkEdge, bind_ok] at passed
  obtain ⟨-, -, first, source, second, target, -⟩ := passed
  exact ⟨mem_of_known source, mem_of_known target⟩

theorem validateEdges_cons (unique : List (String × String)) (edge : GraphEdge)
    (edges : List GraphEdge) :
    validateEdges nodes unique (edge :: edges) = (do
      checkEdge nodes unique edge
      validateEdges nodes ((edge.fromId, edge.toId) :: unique) edges) := by
  simp only [validateEdges, checkEdge, bind_assoc]

/-- The loop over the edges answers as its checks do, with the maps of all the edges. -/
theorem joinEdges_eq (nodes : TextMap GraphNode) (unique done : List (String × String))
    (edges : List GraphEdge) :
    joinEdges nodes unique (linked nodes done) edges =
      some ((validateEdges nodes unique edges).map fun _ => linked nodes (done ++ edges.map ends)) := by
  induction edges generalizing unique done with
  | nil => simp [joinEdges, validateEdges, Except.map]
  | cons edge edges ih =>
      rw [joinEdges, validateEdges_cons]
      cases passed : checkEdge nodes unique edge with
      | error e => rfl
      | ok _ =>
          have both := checkEdge_known passed
          simp only [join_linked both.1 both.2, ih, Option.bind_some, bind, Except.bind,
            List.map_cons, List.append_assoc, List.cons_append, List.nil_append]

/-- An edge that was checked joins known nodes. -/
theorem validateEdges_inside {unique : List (String × String)} {edges : List GraphEdge}
    (valid : validateEdges nodes unique edges = .ok ()) :
    ∀ edge ∈ edges, edge.fromId ∈ nodes ∧ edge.toId ∈ nodes := by
  induction edges generalizing unique with
  | nil => exact fun edge member => absurd member List.not_mem_nil
  | cons edge edges ih =>
      rw [validateEdges_cons, checks_ok] at valid
      intro other member
      rcases List.mem_cons.mp member with rfl | later
      · exact checkEdge_known valid.1
      · exact ih valid.2 other later

end Edges

/-! ### The loop over the queue -/

section Queue

open Kahn

variable {nodes : TextMap GraphNode} {edges : List (String × String)}

/-- The counts of a front as the loop keeps them. -/
def counts (nodes : TextMap GraphNode) (front : Front String) : TextMap Nat :=
  nodes.map fun id _ => front.waiting id

theorem settle_eq {done pending : List String} {front : Front String} {target : String}
    (good : Good nodes.keys edges done (target :: pending) front) (member : target ∈ nodes) :
    settle (counts nodes front, front.queue) target =
      some (counts nodes (relieve front target), (relieve front target).queue) := by
  have waits := good.waiting target
  rw [List.count_cons_self] at waits
  have positive : front.waiting target ≠ 0 := by omega
  have count := map_lookup nodes front.waiting target
  rw [if_pos member] at count
  have inserted := map_insert front.waiting member (front.waiting target - 1)
  simp only [settle, counts, count, Option.bind_eq_bind, Option.bind_some, positive, if_false,
    inserted, Option.pure_def]
  rfl

theorem settle_fold {done pending : List String} {front : Front String}
    (good : Good nodes.keys edges done pending front) (members : ∀ target ∈ pending, target ∈ nodes) :
    pending.foldlM settle (counts nodes front, front.queue) =
      some (counts nodes (pending.foldl relieve front), (pending.foldl relieve front).queue) := by
  induction pending generalizing front with
  | nil => rfl
  | cons target pending ih =>
      have member := members target List.mem_cons_self
      have next := good.relieve (Std.ExtTreeMap.mem_keys.mpr member)
      rw [List.foldlM_cons, settle_eq good member, Option.bind_eq_bind, Option.bind_some,
        ih next fun other listed => members other (List.mem_cons_of_mem _ listed), List.foldl_cons]

/-- The loop visits the nodes of the sort: with one turn for each node and one to see the
empty queue it ends, and it never panics. -/
theorem drain_eq (inside : ∀ e ∈ edges, e.2 ∈ nodes.keys) (spare fuel : Nat) {done : List String}
    {front : Front String} (good : Good nodes.keys edges done [] front)
    (enough : nodes.keys.length ≤ done.length + fuel) (visited : Nat) :
    drain (nodes.map fun id _ => targets edges id) (spare + fuel + 1) (counts nodes front) front.queue
        visited = some (visited + (run edges fuel front).length) := by
  induction fuel generalizing done front visited with
  | zero =>
      have short := List.Subperm.length_le (List.subperm_of_subset good.unique good.inside)
      have spent : front.queue = [] := by
        rw [List.length_append] at short
        exact List.eq_nil_of_length_eq_zero (by omega)
      rw [spent]
      simp [drain, run]
  | succ fuel ih =>
      obtain ⟨waiting, queue⟩ := front
      cases queue with
      | nil => simp [drain, run]
      | cons node queue =>
          have member : node ∈ nodes :=
            Std.ExtTreeMap.mem_keys.mp (good.inside node (by simp))
          have lookup := map_lookup nodes (fun id => targets edges id) node
          rw [if_pos member] at lookup
          have known := targets_inside inside node
          have settled := settle_fold good.take
            fun target listed => Std.ExtTreeMap.mem_keys.mp (known target listed)
          have next := good.take.relieved known
          have grown : nodes.keys.length ≤ (done ++ [node]).length + fuel := by
            rw [List.length_append, List.length_singleton]
            omega
          have rest := ih next grown (visited + 1)
          have same : counts nodes ⟨waiting, node :: queue⟩ = counts nodes ⟨waiting, queue⟩ := rfl
          rw [drain, lookup, Option.bind_eq_bind, Option.bind_some, same, settled,
            Option.bind_eq_bind, Option.bind_some, ← Nat.add_assoc, rest, run, List.length_cons]
          congr 1
          omega

theorem free_keys (nodes : TextMap GraphNode) (waiting : String → Nat) :
    (((nodes.map fun id _ => waiting id).toList.filter (·.2 = 0)).map (·.1)) =
      nodes.keys.filter (waiting · = 0) := by
  rw [Std.ExtTreeMap.toList_map, ← Std.ExtTreeMap.map_fst_toList_eq_keys, List.filter_map,
    List.filter_map, List.map_map]
  rfl

end Queue

/-! ### The whole check -/

section Check

/-- The collected nodes, each under its id. -/
structure Collected (nodes : TextMap GraphNode) (items : List GraphNode) : Prop where
  valid : ∀ node ∈ items, node.validate = .ok ()
  distinct : (items.map (·.id)).Nodup
  lookup : ∀ id node, nodes[id]? = some node ↔ node ∈ items ∧ node.id = id
  size : nodes.size = items.length

theorem Collected.nil : Collected ∅ [] where
  valid node member := absurd member List.not_mem_nil
  distinct := List.nodup_nil
  lookup id node := by simp
  size := rfl

theorem Collected.fresh_iff {nodes : TextMap GraphNode} {items : List GraphNode}
    (collected : Collected nodes items) (id : String) :
    nodes.contains id = false ↔ id ∉ items.map (·.id) := by
  rw [← Bool.not_eq_true, Std.ExtTreeMap.contains_iff_mem,
    Std.ExtTreeMap.mem_iff_isSome_getElem?, Option.isSome_iff_exists, List.mem_map, not_iff_not]
  constructor
  · rintro ⟨node, found⟩
    exact ⟨node, (collected.lookup id node).mp found⟩
  · rintro ⟨node, listed⟩
    exact ⟨node, (collected.lookup id node).mpr listed⟩

theorem Collected.snoc {nodes : TextMap GraphNode} {items : List GraphNode} {node : GraphNode}
    (collected : Collected nodes items) (valid : node.validate = .ok ())
    (fresh : node.id ∉ items.map (·.id)) :
    Collected (nodes.insert node.id node) (items ++ [node]) where
  valid other member := by
    rcases List.mem_append.mp member with old | new
    · exact collected.valid other old
    · rw [List.mem_singleton.mp new]
      exact valid
  distinct := by
    rw [List.map_append, List.map_singleton, ← List.concat_eq_append, List.nodup_concat]
    exact ⟨fresh, collected.distinct⟩
  lookup id other := by
    rw [Std.ExtTreeMap.getElem?_insert, List.mem_append, List.mem_singleton]
    by_cases same : node.id = id
    · subst same
      rw [if_pos (by simp), Option.some.injEq]
      constructor
      · rintro rfl
        exact ⟨Or.inr rfl, rfl⟩
      · rintro ⟨old | rfl, named⟩
        · exact absurd (List.mem_map.mpr ⟨other, old, named⟩) fresh
        · rfl
    · rw [if_neg (by simpa [Std.LawfulEqCmp.compare_eq_iff_eq] using same), collected.lookup]
      constructor
      · rintro ⟨old, named⟩
        exact ⟨Or.inl old, named⟩
      · rintro ⟨old | rfl, named⟩
        · exact ⟨old, named⟩
        · exact absurd named same
  size := by
    have absent := (collected.fresh_iff node.id).mpr fresh
    rw [Std.ExtTreeMap.size_insert, if_neg (by rw [absent]; exact Bool.false_ne_true),
      collected.size, List.length_append, List.length_singleton]

/-- The loop over the nodes passes exactly valid nodes with distinct ids, and collects them. -/
theorem collectNodes_ok {collected nodes : TextMap GraphNode} {done items : List GraphNode}
    (before : Collected collected done) :
    collectNodes collected items = .ok nodes → Collected nodes (done ++ items) := by
  intro passed
  induction items generalizing collected done with
  | nil =>
      rw [collectNodes, Except.ok.injEq] at passed
      rw [← passed, List.append_nil]
      exact before
  | cons node items ih =>
      simp only [collectNodes, after_ok, ensure_ok, Bool.not_eq_true'] at passed
      obtain ⟨valid, absent, rest⟩ := passed
      have next := ih (before.snoc valid ((before.fresh_iff node.id).mp absent)) rest
      rwa [List.append_assoc, List.singleton_append] at next

theorem collectNodes_total {collected : TextMap GraphNode} {done items : List GraphNode}
    (before : Collected collected done) (valid : ∀ node ∈ items, node.validate = .ok ())
    (distinct : ((done ++ items).map (·.id)).Nodup) :
    ∃ nodes, collectNodes collected items = .ok nodes := by
  induction items generalizing collected done with
  | nil => exact ⟨collected, rfl⟩
  | cons node items ih =>
      have first := valid node List.mem_cons_self
      have fresh : node.id ∉ done.map (·.id) := by
        rw [List.map_append, List.map_cons, List.nodup_append] at distinct
        intro early
        exact distinct.2.2 node.id early node.id List.mem_cons_self rfl
      obtain ⟨nodes, rest⟩ := ih (before.snoc first fresh)
        (fun other member => valid other (List.mem_cons_of_mem _ member)) (by
          rwa [List.append_assoc, List.singleton_append])
      refine ⟨nodes, ?_⟩
      simp only [collectNodes, first, (before.fresh_iff node.id).mpr fresh, rest, ensure, bind,
        Except.bind, Bool.not_false, if_true]

theorem checkNodes_ok {self : IntelligenceGraph} {nodes : TextMap GraphNode} :
    self.checkNodes = .ok nodes ↔
      self.schemaVersion = intelligenceSchemaVersion ∧ isBlank self.id = false ∧
        isBlank self.version = false ∧ self.nodes ≠ [] ∧ collectNodes ∅ self.nodes = .ok nodes := by
  simp only [checkNodes, after_ok, IntelligenceError.schema, ensure_ok, require_ok,
    decide_eq_true_eq, Bool.not_eq_true', List.isEmpty_eq_false_iff, ne_eq]

theorem validate_eq (self : IntelligenceGraph) :
    self.validate = (do
      let nodes ← self.checkNodes
      validateEdges nodes [] self.edges
      ensure ((visited nodes self.edges).length = nodes.size) "IntelligenceGraph" "edges"
        "graph contains a cycle") := by
  simp only [validate, checkNodes, bind_assoc]

/-- On every graph the loops end without a panic, with the answer of `validate`. -/
theorem validateLoops_eq (self : IntelligenceGraph) (fuel : Nat) (enough : self.nodes.length < fuel) :
    validateLoops fuel self = some self.validate := by
  rw [validateLoops, validate_eq]
  cases checked : self.checkNodes with
  | error e => rfl
  | ok nodes =>
      have collected := collectNodes_ok .nil (checkNodes_ok.mp checked).2.2.2.2
      rw [List.nil_append] at collected
      have joined := joinEdges_eq nodes [] [] self.edges
      rw [linked_nil, List.nil_append] at joined
      simp only [joined, Option.bind_eq_bind, Option.bind_some]
      cases passed : validateEdges nodes [] self.edges with
      | error e => simp [Except.map, bind, Except.bind, passed]
      | ok _ =>
          have inside := validateEdges_inside passed
          have known : ∀ e ∈ self.edges.map ends, e.2 ∈ nodes.keys := by
            intro e member
            obtain ⟨edge, listed, rfl⟩ := List.mem_map.mp member
            exact Std.ExtTreeMap.mem_keys.mpr (inside edge listed).2
          have good : Kahn.Good nodes.keys (self.edges.map ends) [] []
              ⟨Kahn.degree (self.edges.map ends),
                nodes.keys.filter (Kahn.degree (self.edges.map ends) · = 0)⟩ :=
            Kahn.Good.start Std.ExtTreeMap.nodup_keys
          have room : nodes.keys.length < fuel := by
            rw [Std.ExtTreeMap.length_keys, collected.size]
            exact enough
          have drained := drain_eq known (fuel - nodes.keys.length - 1) nodes.keys.length good
            (by simp) 0
          have turns : fuel - nodes.keys.length - 1 + nodes.keys.length + 1 = fuel := by omega
          rw [turns, Nat.zero_add] at drained
          have queue := free_keys nodes (Kahn.degree (self.edges.map ends))
          have visits : drain (linked nodes (self.edges.map ends)).adjacency fuel
              (linked nodes (self.edges.map ends)).indegree
              (((linked nodes (self.edges.map ends)).indegree.toList.filter (·.2 = 0)).map (·.1)) 0 =
                some (visited nodes self.edges).length := by
            simp only [linked, queue]
            exact drained
          simp only [Except.map, visits, bind, Except.bind, Option.bind_some, passed, pure]

end Check

end IntelligenceGraph

end NousKernel
