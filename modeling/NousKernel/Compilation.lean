import NousKernel.Results
import NousKernel.Workflow

/-!
The graph that a program compiles to: the order of its steps, the nodes and edges they
become, and when that graph is well formed.
-/

set_option autoImplicit false

namespace NousKernel

open Results

/-- The orders of maps that keep the order in which their keys were given. -/
def HashOrders.listed : HashOrders :=
  ⟨⟨id, fun _ => .refl _⟩, ⟨id, fun _ => .refl _⟩, ⟨id, fun _ => .refl _⟩⟩

namespace AgentProgramCompiler

variable {steps : List AgentStep}

/-! ### The order of the steps -/

/-- A step depends on an id. -/
def DependsOn (steps : List AgentStep) (dep id : String) : Prop :=
  ∃ step ∈ steps, step.id = id ∧ dep ∈ step.dependsOn

theorem edge_dependencies {dep id : String} :
    Kahn.Edge (dependencies steps) dep id ↔ DependsOn steps dep id := by
  simp only [Kahn.Edge, dependencies, List.mem_flatMap, List.mem_map, Prod.mk.injEq, DependsOn]
  constructor
  · rintro ⟨step, listed, other, member, rfl, rfl⟩
    exact ⟨step, listed, rfl, member⟩
  · rintro ⟨step, listed, rfl, member⟩
    exact ⟨step, listed, dep, member, rfl, rfl⟩

theorem validateSteps_deps (valid : validateSteps steps = .ok ()) {step : AgentStep}
    (listed : step ∈ steps) {dep : String} (member : dep ∈ step.dependsOn) :
    dep ∈ steps.map (·.id) := by
  have checks := forM_ok.mp valid step listed
  rw [checks_ok] at checks
  have known := forM_ok.mp checks.1 dep member
  by_contra missing
  rw [if_pos missing] at known
  cases known

theorem dependencies_inside (valid : validateSteps steps = .ok ()) :
    ∀ e ∈ dependencies steps, e.1 ∈ steps.map (·.id) ∧ e.2 ∈ steps.map (·.id) := by
  rintro ⟨dep, id⟩ edge
  obtain ⟨step, listed, rfl, member⟩ := edge_dependencies.mp edge
  exact ⟨validateSteps_deps valid listed member, List.mem_map_of_mem listed⟩

theorem topologicalSort_ok {order : Arrangement} {sorted : List String} :
    topologicalSort order steps = .ok sorted ↔
      sorted = Kahn.sort (order.val (steps.map (·.id)).dedup) (dependencies steps) ∧
        sorted.length = steps.length := by
  unfold topologicalSort
  dsimp only
  split
  · rename_i short
    simp only [throw, throwThe, MonadExceptOf.throw, reduceCtorEq, false_iff, not_and]
    rintro rfl
    exact short
  · rename_i full
    simp only [pure, Except.pure, Except.ok.injEq]
    constructor
    · rintro rfl
      exact ⟨rfl, not_not.mp full⟩
    · rintro ⟨rfl, _⟩
      rfl

/-- What the sort of the steps delivers, whatever the order of the map. -/
theorem sort_sorted (order : Arrangement) (valid : validateSteps steps = .ok ()) :
    Kahn.Sorted (order.val (steps.map (·.id)).dedup) (dependencies steps)
      (Kahn.sort (order.val (steps.map (·.id)).dedup) (dependencies steps)) := by
  refine Kahn.sort_sorted ((order.2 _).nodup_iff.mpr (List.nodup_dedup _)) ?_
  intro e edge
  rw [(order.2 _).mem_iff, List.mem_dedup]
  exact (dependencies_inside valid e edge).2

theorem sort_length_iff (order : Arrangement) (valid : validateSteps steps = .ok ()) :
    (Kahn.sort (order.val (steps.map (·.id)).dedup) (dependencies steps)).length =
        (steps.map (·.id)).dedup.length ↔ Kahn.Acyclic (dependencies steps) := by
  rw [← (order.2 (steps.map (·.id)).dedup).length_eq]
  refine (sort_sorted order valid).length_iff ((order.2 _).nodup_iff.mpr (List.nodup_dedup _)) ?_
  intro e edge
  rw [(order.2 _).mem_iff, (order.2 _).mem_iff, List.mem_dedup, List.mem_dedup]
  exact dependencies_inside valid e edge

/-- A sort that succeeds lists every id once, dependencies first. -/
theorem topologicalSort_spec {order : Arrangement} {sorted : List String}
    (valid : validateSteps steps = .ok ()) (done : topologicalSort order steps = .ok sorted) :
    (steps.map (·.id)).Nodup ∧ sorted.Perm (steps.map (·.id)) ∧
      Kahn.Closed (dependencies steps) sorted := by
  obtain ⟨rfl, full⟩ := topologicalSort_ok.mp done
  have spec := sort_sorted order valid
  have subperm := List.subperm_of_subset spec.unique spec.inside
  have bounded := subperm.length_le
  rw [(order.2 _).length_eq] at bounded
  have least := (List.dedup_sublist (steps.map (·.id))).length_le
  rw [List.length_map] at least
  have distinct : (steps.map (·.id)).dedup = steps.map (·.id) :=
    (List.dedup_sublist _).eq_of_length (by rw [List.length_map]; omega)
  have perm := subperm.perm_of_length_le (by rw [(order.2 _).length_eq]; omega)
  refine ⟨List.dedup_eq_self.mp distinct, ?_, spec.closed⟩
  exact perm.trans ((order.2 _).trans (by rw [distinct]))

/-- The sort succeeds exactly on distinct ids without a cycle of dependencies. -/
theorem topological_sort_exact (order : Arrangement) (steps : List AgentStep)
    (valid : validateSteps steps = .ok ()) :
    ((∃ sorted, topologicalSort order steps = .ok sorted) ↔
      (steps.map (·.id)).Nodup ∧ ∀ id, ¬Relation.TransGen (DependsOn steps) id id) ∧
    ∀ sorted, topologicalSort order steps = .ok sorted →
      sorted.Perm (steps.map (·.id)) ∧
        ∀ step ∈ steps, ∀ dep ∈ step.dependsOn, Kahn.Before sorted dep step.id := by
  have relation : Kahn.Edge (dependencies steps) = DependsOn steps := by
    funext dep id
    exact propext edge_dependencies
  have cycles : Kahn.Acyclic (dependencies steps) ↔
      ∀ id, ¬Relation.TransGen (DependsOn steps) id id := by
    rw [Kahn.Acyclic, relation]
  refine ⟨?_, ?_⟩
  · rw [← cycles, ← sort_length_iff order valid]
    constructor
    · rintro ⟨sorted, done⟩
      have distinct := (topologicalSort_spec valid done).1
      obtain ⟨rfl, full⟩ := topologicalSort_ok.mp done
      refine ⟨distinct, ?_⟩
      rw [full, List.dedup_eq_self.mpr distinct, List.length_map]
    · rintro ⟨distinct, full⟩
      refine ⟨_, topologicalSort_ok.mpr ⟨rfl, ?_⟩⟩
      rw [full, List.dedup_eq_self.mpr distinct, List.length_map]
  · intro sorted done
    obtain ⟨_, perm, closed⟩ := topologicalSort_spec valid done
    refine ⟨perm, ?_⟩
    intro step listed dep member
    refine closed.before (edge_dependencies.mpr ⟨step, listed, rfl, member⟩) ?_
    exact perm.mem_iff.mpr (List.mem_map_of_mem listed)

/-- A step that carries no more than its place in a program. -/
def plainStep (id : String) (stepType : AgentStepType) (dependsOn : List String) : AgentStep where
  id := id
  description := id
  stepType := stepType
  dependsOn := dependsOn
  modelCalls := 1
  requiresStrongModel := false
  tools := []
  estimatedInputTokens := 1000
  estimatedOutputTokens := 500
  hasSideEffects := false
  sideEffectsReversible := false
  requiredCapabilities := []
  requiresApproval := false
  requiresVerification := false
  maxRetries := 3

theorem topological_sort_exact_repeated :
    let steps := [plainStep "b" .Generate ["a", "a"], plainStep "a" .Think []]
    (((∃ sorted, topologicalSort HashOrders.listed.steps steps = .ok sorted) ↔
      (steps.map (·.id)).Nodup ∧ ∀ id, ¬Relation.TransGen (DependsOn steps) id id) ∧
    ∀ sorted, topologicalSort HashOrders.listed.steps steps = .ok sorted →
      sorted.Perm (steps.map (·.id)) ∧
        ∀ step ∈ steps, ∀ dep ∈ step.dependsOn, Kahn.Before sorted dep step.id) ∧
    topologicalSort HashOrders.listed.steps steps = .ok ["a", "b"] :=
  ⟨topological_sort_exact _ _ rfl, rfl⟩

/-! ### The steps in order -/

/-- Every step comes after the steps it depends on, and no id is used twice. -/
structure InOrder (ordered : List AgentStep) : Prop where
  distinct : (ordered.map (·.id)).Nodup
  closed : ∀ front step back, ordered = front ++ step :: back → ∀ dep ∈ step.dependsOn,
    dep ∈ front.map (·.id)

theorem InOrder.front {front : List AgentStep} {step : AgentStep}
    (inOrder : InOrder (front ++ [step])) : InOrder front := by
  refine ⟨?_, ?_⟩
  · have distinct := inOrder.distinct
    rw [List.map_append] at distinct
    exact (List.nodup_append.mp distinct).1
  · intro start other back split
    exact inOrder.closed start other (back ++ [step]) (by rw [split]; simp)

theorem InOrder.unique {ordered : List AgentStep} (inOrder : InOrder ordered) {first second : AgentStep}
    (one : first ∈ ordered) (other : second ∈ ordered) (same : first.id = second.id) :
    first = second :=
  List.inj_on_of_nodup_map inOrder.distinct one other same

variable (compiler : AgentProgramCompiler)

/-- The graph of the steps in their order. -/
def buildOf (ordered : List AgentStep) : Build := ordered.foldl (addStep compiler) .empty

theorem buildOf_snoc (front : List AgentStep) (step : AgentStep) :
    buildOf compiler (front ++ [step]) = addStep compiler (buildOf compiler front) step := by
  rw [buildOf, List.foldl_append]
  rfl

theorem build_eq (sorted : List String) :
    build compiler steps sorted =
      buildOf compiler (sorted.filterMap fun id => steps.find? (·.id = id)) := by
  rw [buildOf, List.foldl_filterMap, build]
  congr 1
  funext s id
  cases steps.find? (·.id = id) <;> rfl

/-- A key that some item has is found. -/
theorem find_key {α : Type} {key : α → String} {items : List α} {id : String}
    (known : id ∈ items.map key) :
    ∃ item ∈ items, items.find? (key · = id) = some item ∧ key item = id := by
  obtain ⟨item, listed, rfl⟩ := List.mem_map.mp known
  have some_hit : (items.find? (key · = key item)).isSome = true :=
    List.find?_isSome.mpr ⟨item, listed, decide_eq_true rfl⟩
  obtain ⟨other, found⟩ := Option.isSome_iff_exists.mp some_hit
  have same := List.find?_some found
  rw [decide_eq_true_eq] at same
  exact ⟨other, List.mem_of_find?_eq_some found, found, same⟩

/-- The items that a list of keys names have these keys. -/
theorem keys_filterMap {α : Type} {key : α → String} {items : List α} (sorted : List String)
    (known : ∀ id ∈ sorted, id ∈ items.map key) :
    (sorted.filterMap fun id => items.find? (key · = id)).map key = sorted := by
  induction sorted with
  | nil => rfl
  | cons id sorted ih =>
      obtain ⟨item, _, found, same⟩ := find_key (known id List.mem_cons_self)
      rw [List.filterMap_cons, found, List.map_cons, same,
        ih fun other member => known other (List.mem_cons_of_mem _ member)]

theorem ordered_of_sort {order : Arrangement} {sorted : List String}
    (valid : validateSteps steps = .ok ()) (done : topologicalSort order steps = .ok sorted) :
    ∃ ordered : List AgentStep, ordered.Perm steps ∧ InOrder ordered ∧
      build compiler steps sorted = buildOf compiler ordered := by
  obtain ⟨distinct, perm, closed⟩ := topologicalSort_spec valid done
  have ids := keys_filterMap sorted fun id member => perm.mem_iff.mp member
  have inside : ∀ step ∈ sorted.filterMap fun id => steps.find? (·.id = id), step ∈ steps := by
    intro step listed
    obtain ⟨id, _, found⟩ := List.mem_filterMap.mp listed
    exact List.mem_of_find?_eq_some found
  have unique : ((sorted.filterMap fun id => steps.find? (·.id = id)).map (·.id)).Nodup := by
    rw [ids]
    exact perm.nodup_iff.mpr distinct
  refine ⟨_, ?_, ⟨unique, ?_⟩, build_eq compiler sorted⟩
  · refine (List.subperm_of_subset (List.Nodup.of_map _ unique) inside).perm_of_length_le ?_
    have lengths := congrArg List.length ids
    rw [List.length_map, perm.length_eq, List.length_map] at lengths
    exact lengths.ge
  · intro front step back split dep member
    have halves : sorted = front.map (·.id) ++ step.id :: back.map (·.id) := by
      rw [← ids, split, List.map_append, List.map_cons]
    have listed : step ∈ steps := inside step (by rw [split]; simp)
    exact closed _ _ _ halves (dep, step.id)
      (edge_dependencies.mpr ⟨step, listed, rfl, member⟩) rfl

/-- A program that compiles is the graph of its steps in an order that suits them. -/
theorem compile_ok {orders : HashOrders} {program : AgentExecutionGraph}
    (compiled : compile compiler orders steps = .ok program) :
    ∃ ordered : List AgentStep, ordered.Perm steps ∧ InOrder ordered ∧
      program.graph.nodes = (buildOf compiler ordered).nodes ∧
      program.graph.edges = (buildOf compiler ordered).edges := by
  simp only [compile, bind_ok, pure, Except.pure, Except.ok.injEq] at compiled
  obtain ⟨_, valid, sorted, done, rfl⟩ := compiled
  obtain ⟨ordered, perm, inOrder, same⟩ := ordered_of_sort compiler valid done
  exact ⟨ordered, perm, inOrder, by rw [same], by rw [same]⟩

/-- What is computed from the graph of a program and from its steps. -/
theorem compile_fields {orders : HashOrders} {program : AgentExecutionGraph}
    (compiled : compile compiler orders steps = .ok program) :
    program.criticalPath =
        computeCriticalPath orders.nodes program.graph.nodes program.graph.edges ∧
      program.criticalPathDurationMs =
        estimateDuration program.criticalPath program.graph.nodes ∧
      program.totalResources = estimateResources steps ∧
      program.approvalBoundaries = program.graph.nodes.countP
        (·.config.qualityVerifierPhaseId = some "approval") % 2 ^ 32 := by
  simp only [compile, bind_ok, pure, Except.pure, Except.ok.injEq] at compiled
  obtain ⟨_, _, _, _, rfl⟩ := compiled
  exact ⟨rfl, rfl, rfl, rfl⟩

/-! ### Nodes and edges -/

theorem stepNodes_ne_nil (step : AgentStep) : stepNodes compiler step ≠ [] := by
  unfold stepNodes
  cases step.stepType <;> simp

theorem stepToPhaseNodes_ne_nil (step : AgentStep) : stepToPhaseNodes compiler step ≠ [] :=
  List.append_ne_nil_of_left_ne_nil (stepNodes_ne_nil compiler step) _

/-- The node that the dependencies of a step lead to. -/
def firstId (step : AgentStep) : String :=
  ((stepToPhaseNodes compiler step).head (stepToPhaseNodes_ne_nil compiler step)).nodeId

/-- The node that leads to the dependents of a step. -/
def lastId (step : AgentStep) : String :=
  ((stepToPhaseNodes compiler step).getLast (stepToPhaseNodes_ne_nil compiler step)).nodeId

/-- Two nodes follow each other in a list of nodes. -/
def Adjacent (nodes : List PhaseNode) (first second : String) : Prop :=
  ∃ front one other back, nodes = front ++ one :: other :: back ∧ one.nodeId = first ∧
    other.nodeId = second

theorem adjacent_cons {node : PhaseNode} {nodes : List PhaseNode} {first second : String} :
    Adjacent (node :: nodes) first second ↔
      (node.nodeId = first ∧ ∃ other rest, nodes = other :: rest ∧ other.nodeId = second) ∨
        Adjacent nodes first second := by
  constructor
  · rintro ⟨front, one, other, back, split, rfl, rfl⟩
    cases front with
    | nil =>
        cases split
        exact .inl ⟨rfl, other, back, rfl, rfl⟩
    | cons head front =>
        cases split
        exact .inr ⟨front, one, other, back, rfl, rfl, rfl⟩
  · rintro (⟨rfl, other, rest, rfl, rfl⟩ | ⟨front, one, other, back, rfl, rfl, rfl⟩)
    · exact ⟨[], node, other, rest, rfl, rfl, rfl⟩
    · exact ⟨node :: front, one, other, back, rfl, rfl, rfl⟩

theorem mem_connect_some {incoming : String → List PhaseEdge} {edge : PhaseEdge}
    (nodes : List PhaseNode) (previous : PhaseNode) :
    edge ∈ connect incoming (some previous.nodeId) nodes ↔
      ∃ first second, Adjacent (previous :: nodes) first second ∧ edge = onSuccess first second := by
  induction nodes generalizing previous with
  | nil =>
      simp only [connect, List.not_mem_nil, false_iff, not_exists, not_and]
      rintro first second ⟨front, one, other, back, split, _⟩
      have lengths := congrArg List.length split
      simp only [List.length_cons, List.length_nil, List.length_append] at lengths
      omega
  | cons node nodes ih =>
      rw [connect, List.mem_cons, ih node]
      constructor
      · rintro (rfl | ⟨first, second, adjacent, rfl⟩)
        · exact ⟨_, _, adjacent_cons.mpr (.inl ⟨rfl, node, nodes, rfl, rfl⟩), rfl⟩
        · exact ⟨first, second, adjacent_cons.mpr (.inr adjacent), rfl⟩
      · rintro ⟨first, second, adjacent, rfl⟩
        rcases adjacent_cons.mp adjacent with ⟨rfl, other, rest, same, rfl⟩ | later
        · cases same
          exact .inl rfl
        · exact .inr ⟨first, second, later, rfl⟩

theorem mem_connect {incoming : String → List PhaseEdge} {edge : PhaseEdge} {nodes : List PhaseNode}
    (some_node : nodes ≠ []) :
    edge ∈ connect incoming none nodes ↔ edge ∈ incoming (nodes.head some_node).nodeId ∨
      ∃ first second, Adjacent nodes first second ∧ edge = onSuccess first second := by
  cases nodes with
  | nil => exact absurd rfl some_node
  | cons node nodes => rw [connect, List.mem_append, mem_connect_some, List.head_cons]

theorem buildOf_nodes (ordered : List AgentStep) :
    (buildOf compiler ordered).nodes = ordered.flatMap (stepToPhaseNodes compiler) := by
  induction ordered using List.reverseRecOn with
  | nil => rfl
  | append_singleton front step ih =>
      rw [buildOf_snoc, List.flatMap_append, List.flatMap_singleton, ← ih]
      rfl

theorem addStep_nodeMap (s : Build) (step : AgentStep) :
    (addStep compiler s step).nodeMap =
      Function.update s.nodeMap step.id (some (lastId compiler step)) := by
  simp only [addStep]
  rw [List.getLast?_eq_getLast_of_ne_nil (stepToPhaseNodes_ne_nil compiler step)]
  rfl

/-- The map gives the last node of the steps that were added. -/
theorem buildOf_nodeMap {ordered : List AgentStep} (distinct : (ordered.map (·.id)).Nodup)
    (id node : String) : (buildOf compiler ordered).nodeMap id = some node ↔
      ∃ step ∈ ordered, step.id = id ∧ lastId compiler step = node := by
  induction ordered using List.reverseRecOn with
  | nil => simp [buildOf, Build.empty]
  | append_singleton front step ih =>
      rw [List.map_append, List.map_singleton] at distinct
      have fresh : step.id ∉ front.map (·.id) := by
        intro early
        exact List.disjoint_of_nodup_append distinct early (List.mem_singleton_self _)
      rw [buildOf_snoc, addStep_nodeMap]
      by_cases same : id = step.id
      · subst same
        rw [Function.update_self, Option.some.injEq]
        constructor
        · rintro rfl
          exact ⟨step, by simp, rfl, rfl⟩
        · rintro ⟨other, listed, same, rfl⟩
          rcases List.mem_append.mp listed with early | last
          · exact absurd (same ▸ List.mem_map_of_mem early) fresh
          · rw [List.mem_singleton.mp last]
      · rw [Function.update_of_ne same, ih (List.nodup_append.mp distinct).1]
        constructor
        · rintro ⟨other, listed, named, last⟩
          exact ⟨other, List.mem_append_left _ listed, named, last⟩
        · rintro ⟨other, listed, rfl, last⟩
          rcases List.mem_append.mp listed with early | latest
          · exact ⟨other, early, rfl, last⟩
          · rw [List.mem_singleton.mp latest] at same
            exact absurd rfl same

/-- The edges of a program, read off its steps: between the nodes of a step, and from the
last node of a dependency to the first of the dependent. -/
inductive Linked (ordered : List AgentStep) : String → String → Prop where
  | inside {step : AgentStep} {first second : String} (listed : step ∈ ordered)
      (adjacent : Adjacent (stepToPhaseNodes compiler step) first second) :
      Linked ordered first second
  | across {step other : AgentStep} (listed : step ∈ ordered) (before : other ∈ ordered)
      (depends : other.id ∈ step.dependsOn) :
      Linked ordered (lastId compiler other) (firstId compiler step)

variable {compiler}

theorem mem_addStep_edges {s : Build} {step : AgentStep} {edge : PhaseEdge} :
    edge ∈ (addStep compiler s step).edges ↔ edge ∈ s.edges ∨
      (∃ dep ∈ step.dependsOn, ∃ last, s.nodeMap dep = some last ∧
        edge = onSuccess last (firstId compiler step)) ∨
      ∃ first second, Adjacent (stepToPhaseNodes compiler step) first second ∧
        edge = onSuccess first second := by
  simp only [addStep]
  rw [List.mem_append, mem_connect (stepToPhaseNodes_ne_nil compiler step), List.mem_filterMap]
  simp only [Option.map_eq_some_iff, firstId, eq_comm (a := edge)]

theorem Linked.mono {front back : List AgentStep} {first second : String}
    (linked : Linked compiler front first second) : Linked compiler (front ++ back) first second := by
  cases linked with
  | inside listed adjacent => exact .inside (List.mem_append_left _ listed) adjacent
  | across listed before depends =>
      exact .across (List.mem_append_left _ listed) (List.mem_append_left _ before) depends

theorem mem_buildOf_edges {ordered : List AgentStep} (inOrder : InOrder ordered)
    (edge : PhaseEdge) : edge ∈ (buildOf compiler ordered).edges ↔
      ∃ first second, Linked compiler ordered first second ∧ edge = onSuccess first second := by
  induction ordered using List.reverseRecOn with
  | nil =>
      simp only [buildOf, List.foldl_nil, Build.empty, List.not_mem_nil, false_iff, not_exists,
        not_and]
      rintro first second (⟨listed, _⟩ | ⟨listed, _, _⟩)
      · cases listed
      · cases listed
  | append_singleton front step ih =>
      have early := inOrder.front
      rw [buildOf_snoc, mem_addStep_edges, ih early]
      constructor
      · rintro (⟨first, second, linked, rfl⟩ | ⟨dep, depends, last, known, rfl⟩ |
          ⟨first, second, adjacent, rfl⟩)
        · exact ⟨first, second, linked.mono, rfl⟩
        · obtain ⟨other, before, rfl, rfl⟩ :=
            (buildOf_nodeMap compiler early.distinct dep last).mp known
          exact ⟨_, _, .across (by simp) (List.mem_append_left _ before) depends, rfl⟩
        · exact ⟨first, second, .inside (by simp) adjacent, rfl⟩
      · rintro ⟨first, second, linked, rfl⟩
        cases linked with
        | @inside inner _ _ listed adjacent =>
            rcases List.mem_append.mp listed with earlier | last
            · exact .inl ⟨first, second, .inside earlier adjacent, rfl⟩
            · rw [List.mem_singleton.mp last] at adjacent
              exact .inr (.inr ⟨first, second, adjacent, rfl⟩)
        | @across dependent other listed before depends =>
            rcases List.mem_append.mp listed with earlier | last
            · have known : other.id ∈ front.map (·.id) := by
                obtain ⟨start, rest, split⟩ := List.append_of_mem earlier
                have named := early.closed start dependent rest split _ depends
                rw [split, List.map_append]
                exact List.mem_append_left _ named
              obtain ⟨same, held, equal⟩ := List.mem_map.mp known
              rw [inOrder.unique before (List.mem_append_left _ held) equal.symm] at depends ⊢
              exact .inl ⟨_, _, .across earlier held depends, rfl⟩
            · rw [List.mem_singleton.mp last] at depends ⊢
              have named := inOrder.closed front step [] rfl _ depends
              obtain ⟨same, held, equal⟩ := List.mem_map.mp named
              rw [inOrder.unique before (List.mem_append_left _ held) equal.symm] at depends ⊢
              refine .inr (.inl ⟨same.id, depends, _, ?_, rfl⟩)
              exact (buildOf_nodeMap compiler early.distinct _ _).mpr ⟨same, held, rfl, rfl⟩

/-! ### Node ids -/

/-- What the ids of the nodes of a step append to its id. -/
def suffixes (compiler : AgentProgramCompiler) (step : AgentStep) : List String :=
  (match step.stepType with
    | .Think => ["-think"]
    | .Retrieve => ["-retrieve"]
    | .ToolCall =>
        (if compiler.autoCheckpoint && step.hasSideEffects then ["-checkpoint"] else []) ++
          ["-tool"] ++ (if step.sideEffectsReversible then ["-compensate"] else [])
    | .Generate => ["-tokenize", "-generate"]
    | .Verify => ["-verify"]
    | .Approval => ["-approval"]
    | .Commit => ["-commit"]
    | .Compensate => ["-compensate"]) ++
  (if compiler.autoVerify && step.requiresVerification then ["-auto-verify"] else [])

def allSuffixes : List String :=
  ["-think", "-retrieve", "-checkpoint", "-tool", "-compensate", "-tokenize", "-generate",
    "-verify", "-approval", "-commit", "-auto-verify"]

theorem nodeIds_eq (step : AgentStep) :
    (stepToPhaseNodes compiler step).map (·.nodeId) =
      (suffixes compiler step).map (step.id ++ ·) := by
  unfold stepToPhaseNodes stepNodes suffixes
  cases step.stepType <;> cases compiler.autoCheckpoint && step.hasSideEffects <;>
    cases step.sideEffectsReversible <;>
    cases compiler.autoVerify && step.requiresVerification <;> rfl

theorem suffixes_known (step : AgentStep) :
    ∀ suffix ∈ suffixes compiler step, suffix ∈ allSuffixes := by
  unfold suffixes
  cases step.stepType <;> cases compiler.autoCheckpoint && step.hasSideEffects <;>
    cases step.sideEffectsReversible <;>
    cases compiler.autoVerify && step.requiresVerification <;> decide

theorem suffixes_nodup (step : AgentStep) : (suffixes compiler step).Nodup := by
  unfold suffixes
  cases step.stepType <;> cases compiler.autoCheckpoint && step.hasSideEffects <;>
    cases step.sideEffectsReversible <;>
    cases compiler.autoVerify && step.requiresVerification <;> decide

theorem auto_suffix {step : AgentStep} :
    "-auto-verify" ∈ suffixes compiler step ↔
      compiler.autoVerify = true ∧ step.requiresVerification = true := by
  rw [← Bool.and_eq_true]
  unfold suffixes
  cases step.stepType <;> cases compiler.autoCheckpoint && step.hasSideEffects <;>
    cases step.sideEffectsReversible <;>
    cases compiler.autoVerify && step.requiresVerification <;> decide

theorem verify_suffix {step : AgentStep} :
    "-verify" ∈ suffixes compiler step ↔ step.stepType = .Verify := by
  unfold suffixes
  cases step.stepType <;> cases compiler.autoCheckpoint && step.hasSideEffects <;>
    cases step.sideEffectsReversible <;>
    cases compiler.autoVerify && step.requiresVerification <;> decide

/-- Only one suffix ends in another. -/
theorem suffix_of_suffix : ∀ first ∈ allSuffixes, ∀ second ∈ allSuffixes,
    first.toList <:+ second.toList →
      first = second ∨ (first = "-verify" ∧ second = "-auto-verify") := by
  decide

theorem append_suffix_short {one other first second : String} (known : first ∈ allSuffixes)
    (known' : second ∈ allSuffixes) (same : one ++ first = other ++ second)
    (short : first.toList.length ≤ second.toList.length) :
    (first = second ∧ one = other) ∨
      (first = "-verify" ∧ second = "-auto-verify" ∧ one = other ++ "-auto") := by
  have letters : one.toList ++ first.toList = other.toList ++ second.toList := by
    rw [← String.toList_append, ← String.toList_append, same]
  have ending : first.toList <:+ second.toList :=
    List.suffix_of_suffix_length_le (List.suffix_append one.toList first.toList)
      (letters ▸ List.suffix_append other.toList second.toList) short
  rcases suffix_of_suffix first known second known' ending with rfl | ⟨rfl, rfl⟩
  · exact .inl ⟨rfl, String.toList_inj.mp (List.append_cancel_right letters)⟩
  · have split : one.toList ++ "-verify".toList =
        (other ++ "-auto").toList ++ "-verify".toList := by
      rw [letters, String.toList_append, List.append_assoc]
      rfl
    exact .inr ⟨rfl, rfl, String.toList_inj.mp (List.append_cancel_right split)⟩

/-- Two ids with suffixes are the same only for the same id and suffix, or where one of the ids
ends in `-auto`. -/
theorem append_suffix {one other first second : String} (known : first ∈ allSuffixes)
    (known' : second ∈ allSuffixes) (same : one ++ first = other ++ second) :
    (first = second ∧ one = other) ∨
      (first = "-verify" ∧ second = "-auto-verify" ∧ one = other ++ "-auto") ∨
      (second = "-verify" ∧ first = "-auto-verify" ∧ other = one ++ "-auto") := by
  by_cases short : first.toList.length ≤ second.toList.length
  · rcases append_suffix_short known known' same short with equal | clash
    · exact .inl equal
    · exact .inr (.inl clash)
  · rcases append_suffix_short known' known same.symm (by omega) with ⟨rfl, rfl⟩ | clash
    · exact .inl ⟨rfl, rfl⟩
    · exact .inr (.inr clash)

/-- The check that follows one step has the name of the node of another, which verifies. -/
def Clash (compiler : AgentProgramCompiler) (steps : List AgentStep) : Prop :=
  ∃ step ∈ steps, ∃ other ∈ steps, compiler.autoVerify = true ∧ step.requiresVerification = true ∧
    other.stepType = .Verify ∧ other.id = step.id ++ "-auto"

instance (compiler : AgentProgramCompiler) (steps : List AgentStep) :
    Decidable (Clash compiler steps) :=
  inferInstanceAs (Decidable (∃ step ∈ steps, ∃ other ∈ steps, compiler.autoVerify = true ∧
    step.requiresVerification = true ∧ other.stepType = .Verify ∧ other.id = step.id ++ "-auto"))

theorem Clash.perm {ordered : List AgentStep} (perm : ordered.Perm steps) :
    Clash compiler ordered ↔ Clash compiler steps := by
  simp only [Clash, perm.mem_iff]

def nodeIds (compiler : AgentProgramCompiler) (ordered : List AgentStep) : List String :=
  ordered.flatMap fun step => (suffixes compiler step).map (step.id ++ ·)

theorem buildOf_nodeIds (ordered : List AgentStep) :
    (buildOf compiler ordered).nodes.map (·.nodeId) = nodeIds compiler ordered := by
  rw [buildOf_nodes, List.map_flatMap, nodeIds]
  congr 1
  funext step
  exact nodeIds_eq step

/-- The node ids are distinct exactly where no check takes the name of another node. -/
theorem nodeIds_nodup {ordered : List AgentStep} (inOrder : InOrder ordered) :
    (nodeIds compiler ordered).Nodup ↔ ¬Clash compiler ordered := by
  constructor
  · rintro unique ⟨step, listed, other, member, auto, requires, verifies, named⟩
    have apart := (List.nodup_flatMap.mp unique).2
    have different : step ≠ other := by
      rintro rfl
      have lengths := congrArg (fun id : String => id.toList.length) named
      simp at lengths
    have first : step.id ++ "-auto-verify" ∈ (suffixes compiler step).map (step.id ++ ·) :=
      List.mem_map_of_mem (auto_suffix.mpr ⟨auto, requires⟩)
    have second : other.id ++ "-verify" ∈ (suffixes compiler other).map (other.id ++ ·) :=
      List.mem_map_of_mem (verify_suffix.mpr verifies)
    have same : other.id ++ "-verify" = step.id ++ "-auto-verify" := by
      rw [named, String.append_assoc]
      rfl
    have symmetric : Std.Symm (Function.onFun List.Disjoint
        fun step => (suffixes compiler step).map (step.id ++ ·)) := ⟨fun _ _ => List.Disjoint.symm⟩
    have disjoint := apart.forall listed member different
    exact disjoint first (same ▸ second)
  · intro free
    refine List.nodup_flatMap.mpr ⟨?_, ?_⟩
    · intro step _
      exact (suffixes_nodup step).map fun _ _ => String.append_right_inj _ |>.mp
    · have unique := List.Nodup.of_map _ inOrder.distinct
      refine List.Nodup.pairwise_of_forall_ne unique ?_
      intro step listed other member different id one another
      obtain ⟨first, held, rfl⟩ := List.mem_map.mp one
      obtain ⟨second, held', same⟩ := List.mem_map.mp another
      rcases append_suffix (suffixes_known step _ held) (suffixes_known other _ held') same.symm with
        ⟨_, equal⟩ | ⟨rfl, rfl, named⟩ | ⟨rfl, rfl, named⟩
      · exact different (inOrder.unique listed member equal)
      · obtain ⟨auto, requires⟩ := auto_suffix.mp held'
        exact free ⟨other, member, step, listed, auto, requires, verify_suffix.mp held, named⟩
      · obtain ⟨auto, requires⟩ := auto_suffix.mp held
        exact free ⟨step, listed, other, member, auto, requires, verify_suffix.mp held', named⟩

end AgentProgramCompiler

end NousKernel
