import NousKernel.CriticalPath

/-!
The estimates of a program: where they are the exact values of their formulas, and whether
they grow with the tokens of the steps.
-/

set_option autoImplicit false

namespace NousKernel

namespace AgentProgramCompiler

variable {compiler : AgentProgramCompiler} {steps steps' : List AgentStep}

/-! ### The formulas -/

/-- `tokens / 50 * 1000`, or the most that a `u32` holds. -/
def cappedDurationMs (tokens : Nat) : Nat := min (tokens / 50 * 1000) (2 ^ 32 - 1)

/-- A product of 1000 that wraps is even, and the cap is odd. -/
theorem tokenDurationMs_exact_iff (tokens : Nat) :
    tokenDurationMs tokens = cappedDurationMs tokens ↔ tokens / 50 * 1000 < 2 ^ 32 := by
  unfold tokenDurationMs cappedDurationMs
  constructor
  · intro exact
    generalize tokens % 2 ^ 32 / 50 = quotient at exact
    omega
  · intro small
    have short : tokens < 2 ^ 32 := by omega
    rw [Nat.mod_eq_of_lt short, Nat.mod_eq_of_lt small]
    omega

theorem tokenDurationMs_mono {tokens tokens' : Nat} (grows : tokens ≤ tokens')
    (bounded : tokens' / 50 * 1000 < 2 ^ 32) : tokenDurationMs tokens ≤ tokenDurationMs tokens' := by
  have least : tokens / 50 * 1000 ≤ tokens' / 50 * 1000 :=
    Nat.mul_le_mul_right _ (Nat.div_le_div_right grows)
  have small := least.trans_lt bounded
  rw [(tokenDurationMs_exact_iff tokens').mpr bounded, (tokenDurationMs_exact_iff tokens).mpr small]
  exact min_le_min_right _ least

def tokenTotal (steps : List AgentStep) : Nat :=
  (steps.map fun step => step.estimatedInputTokens + step.estimatedOutputTokens).sum

def callTotal (steps : List AgentStep) : Nat := (steps.map (·.modelCalls)).sum

/-- A value, or the most that a `u64` holds. -/
def capped (value : Nat) : Nat := min value (2 ^ 64 - 1)

def cappedResources (steps : List AgentStep) : ResourceVector where
  kvCacheBytes := capped (tokenTotal steps * 1024)
  deviceMemoryBytes := capped (tokenTotal steps * 1024 + 2 * 1024 * 1024 * 1024)
  ramBytes := 4 * 1024 * 1024 * 1024
  cpuTimeUs := capped (callTotal steps * 500000)

theorem estimateResources_eq (steps : List AgentStep) : estimateResources steps =
    { kvCacheBytes := tokenTotal steps % 2 ^ 64 * 1024 % 2 ^ 64
      deviceMemoryBytes :=
        (tokenTotal steps % 2 ^ 64 * 1024 % 2 ^ 64 + 2 * 1024 * 1024 * 1024) % 2 ^ 64
      ramBytes := 4 * 1024 * 1024 * 1024
      cpuTimeUs := callTotal steps % 2 ^ 64 * 500000 % 2 ^ 64 } := by
  have tokens : wrappingSum (steps.map fun step =>
      (step.estimatedInputTokens + step.estimatedOutputTokens) % 2 ^ 64) =
        tokenTotal steps % 2 ^ 64 := by
    rw [wrappingSum, tokenTotal, List.sum_nat_mod (steps.map fun step =>
      step.estimatedInputTokens + step.estimatedOutputTokens), List.map_map]
    rfl
  rw [estimateResources, tokens]
  rfl

theorem estimateResources_exact_iff (steps : List AgentStep) :
    estimateResources steps = cappedResources steps ↔
      tokenTotal steps * 1024 + 2 * 1024 * 1024 * 1024 < 2 ^ 64 ∧
        callTotal steps * 500000 < 2 ^ 64 := by
  rw [estimateResources_eq, cappedResources]
  simp only [ResourceVector.mk.injEq, true_and, and_true, capped]
  generalize tokenTotal steps = tokens
  generalize callTotal steps = calls
  omega

/-! ### Exact estimates -/

/-- No estimate of the program leaves its type. -/
structure Bounded (steps : List AgentStep) : Prop where
  durations : ∀ step ∈ steps, step.stepType = .Think ∨ step.stepType = .Generate →
    step.estimatedOutputTokens / 50 * 1000 < 2 ^ 32
  tokens : tokenTotal steps * 1024 + 2 * 1024 * 1024 * 1024 < 2 ^ 64
  calls : callTotal steps * 500000 < 2 ^ 64

/-- The estimates are the exact values of their formulas. -/
structure EstimatesExact (compiler : AgentProgramCompiler) (steps : List AgentStep)
    (program : AgentExecutionGraph) : Prop where
  durations : ∀ step ∈ steps, step.stepType = .Think ∨ step.stepType = .Generate →
    ∀ node ∈ stepToPhaseNodes compiler step, node.phaseType = .Plan ∨ node.phaseType = .Decode →
      node.config.estimatedDurationMs = cappedDurationMs step.estimatedOutputTokens
  totals : program.totalResources = cappedResources steps

theorem token_node (compiler : AgentProgramCompiler) {step : AgentStep}
    (spends : step.stepType = .Think ∨ step.stepType = .Generate) :
    (∃ node ∈ stepToPhaseNodes compiler step, node.phaseType = .Plan ∨ node.phaseType = .Decode) ∧
      ∀ node ∈ stepToPhaseNodes compiler step, node.phaseType = .Plan ∨ node.phaseType = .Decode →
        node.config.estimatedDurationMs = tokenDurationMs step.estimatedOutputTokens := by
  rcases spends with kind | kind
  · cases verified : compiler.autoVerify && step.requiresVerification <;>
      simp [stepToPhaseNodes, stepNodes, kind, verified]
  · cases verified : compiler.autoVerify && step.requiresVerification <;>
      simp [stepToPhaseNodes, stepNodes, kind, verified]

theorem estimatesExact_iff {orders : HashOrders} {program : AgentExecutionGraph}
    (compiled : compile compiler orders steps = .ok program) :
    EstimatesExact compiler steps program ↔ Bounded steps := by
  obtain ⟨_, _, totals, _⟩ := compile_fields compiler compiled
  constructor
  · rintro ⟨durations, exact⟩
    rw [totals, estimateResources_exact_iff] at exact
    refine ⟨?_, exact.1, exact.2⟩
    intro step listed spends
    obtain ⟨⟨node, own, kind⟩, lasts⟩ := token_node compiler spends
    rw [← tokenDurationMs_exact_iff, ← lasts node own kind]
    exact durations step listed spends node own kind
  · intro bounded
    refine ⟨?_, ?_⟩
    · intro step listed spends node own kind
      rw [(token_node compiler spends).2 node own kind]
      exact (tokenDurationMs_exact_iff _).mpr (bounded.durations step listed spends)
    · rw [totals]
      exact (estimateResources_exact_iff steps).mpr ⟨bounded.tokens, bounded.calls⟩

/-! ### Steps with more tokens -/

/-- The same step, with no fewer tokens. -/
structure Raised (step step' : AgentStep) : Prop where
  same : step' = { step with
    estimatedInputTokens := step'.estimatedInputTokens
    estimatedOutputTokens := step'.estimatedOutputTokens }
  input : step.estimatedInputTokens ≤ step'.estimatedInputTokens
  output : step.estimatedOutputTokens ≤ step'.estimatedOutputTokens

theorem Raised.id {step step' : AgentStep} (raised : Raised step step') : step'.id = step.id := by
  rw [raised.same]

theorem Raised.stepType {step step' : AgentStep} (raised : Raised step step') :
    step'.stepType = step.stepType := by
  rw [raised.same]

/-- It becomes nodes of the same names. -/
theorem Raised.names {step step' : AgentStep} (raised : Raised step step') :
    (stepToPhaseNodes compiler step').map (·.nodeId) =
      (stepToPhaseNodes compiler step).map (·.nodeId) := by
  rw [nodeIds_eq, nodeIds_eq, raised.same]
  rfl

theorem forall_raised (raised : List.Forall₂ Raised steps steps') :
    (∀ step ∈ steps, ∃ step' ∈ steps', Raised step step') ∧
      ∀ step' ∈ steps', ∃ step ∈ steps, Raised step step' := by
  induction raised with
  | nil => simp
  | @cons step step' steps steps' first _ ih =>
      refine ⟨?_, ?_⟩
      · intro other listed
        rcases List.mem_cons.mp listed with rfl | later
        · exact ⟨step', List.mem_cons_self, first⟩
        · obtain ⟨other', member, grown⟩ := ih.1 other later
          exact ⟨other', List.mem_cons_of_mem _ member, grown⟩
      · intro other' listed
        rcases List.mem_cons.mp listed with rfl | later
        · exact ⟨step, List.mem_cons_self, first⟩
        · obtain ⟨other, member, grown⟩ := ih.2 other' later
          exact ⟨other, List.mem_cons_of_mem _ member, grown⟩

theorem tokenTotal_mono (raised : List.Forall₂ Raised steps steps') :
    tokenTotal steps ≤ tokenTotal steps' ∧ callTotal steps' = callTotal steps := by
  induction raised with
  | nil => exact ⟨Nat.le_refl _, rfl⟩
  | @cons step step' _ _ first _ ih =>
      have calls : step'.modelCalls = step.modelCalls := by rw [first.same]
      have input := first.input
      have output := first.output
      simp only [tokenTotal, callTotal, List.map_cons, List.sum_cons] at ih ⊢
      omega

theorem Bounded.of_raised (raised : List.Forall₂ Raised steps steps') (bounded : Bounded steps') :
    Bounded steps := by
  obtain ⟨tokens, calls⟩ := tokenTotal_mono raised
  have kept : tokenTotal steps * 1024 + 2 * 1024 * 1024 * 1024 < 2 ^ 64 :=
    (Nat.add_le_add_right (Nat.mul_le_mul_right _ tokens) _).trans_lt bounded.tokens
  refine ⟨?_, kept, calls ▸ bounded.calls⟩
  intro step listed spends
  obtain ⟨step', member, grown⟩ := (forall_raised raised).1 step listed
  have least : step.estimatedOutputTokens / 50 * 1000 ≤ step'.estimatedOutputTokens / 50 * 1000 :=
    Nat.mul_le_mul_right _ (Nat.div_le_div_right grown.output)
  exact least.trans_lt (bounded.durations step' member (grown.stepType ▸ spends))

theorem resources_mono (raised : List.Forall₂ Raised steps steps') (bounded : Bounded steps') :
    (estimateResources steps).fitsWithin (estimateResources steps') = true := by
  obtain ⟨tokens, calls⟩ := tokenTotal_mono raised
  have least := bounded.of_raised raised
  rw [(estimateResources_exact_iff steps).mpr ⟨least.tokens, least.calls⟩,
    (estimateResources_exact_iff steps').mpr ⟨bounded.tokens, bounded.calls⟩]
  simp only [ResourceVector.fitsWithin, cappedResources, capped, calls, Nat.le_refl, decide_true,
    Bool.and_true, Bool.true_and, Bool.and_eq_true, decide_eq_true_eq]
  omega

/-! ### The same graph -/

theorem adjacent_iff_names {nodes : List PhaseNode} {first second : String} :
    Adjacent nodes first second ↔
      ∃ front back, nodes.map (·.nodeId) = front ++ first :: second :: back := by
  constructor
  · rintro ⟨front, one, other, back, rfl, rfl, rfl⟩
    exact ⟨front.map (·.nodeId), back.map (·.nodeId), by simp⟩
  · rintro ⟨front, back, split⟩
    obtain ⟨start, rest, rfl, rfl, later⟩ := List.map_eq_append_iff.mp split
    obtain ⟨one, more, rfl, rfl, last⟩ := List.map_eq_cons_iff.mp later
    obtain ⟨other, rest, rfl, rfl, _⟩ := List.map_eq_cons_iff.mp last
    exact ⟨start, one, other, rest, rfl, rfl, rfl⟩

theorem firstId_names (compiler : AgentProgramCompiler) (step : AgentStep) :
    ((stepToPhaseNodes compiler step).map (·.nodeId)).head? = some (firstId compiler step) := by
  rw [List.head?_map, List.head?_eq_some_head (stepToPhaseNodes_ne_nil compiler step)]
  rfl

theorem lastId_names (compiler : AgentProgramCompiler) (step : AgentStep) :
    ((stepToPhaseNodes compiler step).map (·.nodeId)).getLast? = some (lastId compiler step) := by
  rw [List.getLast?_map, List.getLast?_eq_getLast_of_ne_nil (stepToPhaseNodes_ne_nil compiler step)]
  rfl

/-- Steps that become nodes of the same names, behind the same dependencies. -/
structure Alike (compiler : AgentProgramCompiler) (step step' : AgentStep) : Prop where
  id : step.id = step'.id
  dependsOn : step.dependsOn = step'.dependsOn
  names : (stepToPhaseNodes compiler step).map (·.nodeId) =
    (stepToPhaseNodes compiler step').map (·.nodeId)

theorem Raised.alike {step step' : AgentStep} (raised : Raised step step') :
    Alike compiler step step' := by
  refine ⟨raised.id.symm, ?_, raised.names.symm⟩
  rw [raised.same]

theorem Alike.symm {step step' : AgentStep} (alike : Alike compiler step step') :
    Alike compiler step' step := ⟨alike.id.symm, alike.dependsOn.symm, alike.names.symm⟩

theorem Alike.ends {step step' : AgentStep} (alike : Alike compiler step step') :
    firstId compiler step = firstId compiler step' ∧
      lastId compiler step = lastId compiler step' := by
  have first := firstId_names compiler step
  have last := lastId_names compiler step
  rw [alike.names, firstId_names, Option.some.injEq] at first
  rw [alike.names, lastId_names, Option.some.injEq] at last
  exact ⟨first.symm, last.symm⟩

theorem Linked.alike (each : ∀ step ∈ steps, ∃ step' ∈ steps', Alike compiler step step')
    {first second : String} (linked : Linked compiler steps first second) :
    Linked compiler steps' first second := by
  cases linked with
  | @inside step _ _ listed adjacent =>
      obtain ⟨step', member, alike⟩ := each step listed
      rw [adjacent_iff_names, alike.names] at adjacent
      exact .inside member (adjacent_iff_names.mpr adjacent)
  | @across step other listed before depends =>
      obtain ⟨step', member, alike⟩ := each step listed
      obtain ⟨other', member', alike'⟩ := each other before
      rw [alike.ends.1, alike'.ends.2]
      refine .across member member' ?_
      rw [← alike'.id, ← alike.dependsOn]
      exact depends

theorem forall_alike (raised : List.Forall₂ Raised steps steps') :
    (∀ step ∈ steps, ∃ step' ∈ steps', Alike compiler step step') ∧
      ∀ step' ∈ steps', ∃ step ∈ steps, Alike compiler step' step := by
  obtain ⟨onward, back⟩ := forall_raised raised
  refine ⟨?_, ?_⟩
  · intro step listed
    obtain ⟨step', member, grown⟩ := onward step listed
    exact ⟨step', member, grown.alike⟩
  · intro step' listed
    obtain ⟨step, member, grown⟩ := back step' listed
    exact ⟨step, member, grown.alike.symm⟩

/-- The edges do not depend on the tokens. -/
theorem linked_raised (raised : List.Forall₂ Raised steps steps') :
    Linked compiler steps = Linked compiler steps' := by
  funext first second
  exact propext ⟨Linked.alike (forall_alike raised).1, Linked.alike (forall_alike raised).2⟩

section

variable {orders orders' : HashOrders} {program program' : AgentExecutionGraph}

theorem compiled_joins_eq (compiled : compile compiler orders steps = .ok program) :
    Kahn.Edge (ends program.graph.edges) = Linked compiler steps := by
  rw [← joins_compiled compiled]
  funext first second
  exact propext edge_ends

theorem mem_compiled_ids (compiled : compile compiler orders steps = .ok program) {id : String} :
    id ∈ program.graph.nodes.map (·.nodeId) ↔
      ∃ step ∈ steps, id ∈ (stepToPhaseNodes compiler step).map (·.nodeId) := by
  simp only [List.mem_map, mem_compiled_nodes compiled]
  constructor
  · rintro ⟨node, ⟨step, listed, own⟩, rfl⟩
    exact ⟨step, listed, node, own, rfl⟩
  · rintro ⟨step, listed, node, own, rfl⟩
    exact ⟨node, ⟨step, listed, own⟩, rfl⟩

theorem mem_ids_raised (compiled : compile compiler orders steps = .ok program)
    (compiled' : compile compiler orders' steps' = .ok program')
    (raised : List.Forall₂ Raised steps steps') {id : String} :
    id ∈ program.graph.nodes.map (·.nodeId) ↔ id ∈ program'.graph.nodes.map (·.nodeId) := by
  have carried {steps steps' : List AgentStep}
      (each : ∀ step ∈ steps, ∃ step' ∈ steps', Alike compiler step step') :
      (∃ step ∈ steps, id ∈ (stepToPhaseNodes compiler step).map (·.nodeId)) →
        ∃ step' ∈ steps', id ∈ (stepToPhaseNodes compiler step').map (·.nodeId) := by
    rintro ⟨step, listed, own⟩
    obtain ⟨step', member, alike⟩ := each step listed
    exact ⟨step', member, alike.names ▸ own⟩
  rw [mem_compiled_ids compiled, mem_compiled_ids compiled']
  exact ⟨carried (forall_alike raised).1, carried (forall_alike raised).2⟩

/-! ### Longer durations -/

/-- The duration of the node of a step with a suffix. -/
def durationBy (suffix : String) (tokens : Nat) : Nat :=
  if suffix = "-think" ∨ suffix = "-generate" then tokenDurationMs tokens
  else if suffix = "-retrieve" then 500
  else if suffix = "-tokenize" then 10
  else 0

theorem node_duration {step : AgentStep} : ∀ node ∈ stepToPhaseNodes compiler step,
    ∃ suffix ∈ suffixes compiler step, node.nodeId = step.id ++ suffix ∧
      node.config.estimatedDurationMs = durationBy suffix step.estimatedOutputTokens := by
  unfold stepToPhaseNodes stepNodes suffixes
  cases step.stepType <;> cases compiler.autoCheckpoint && step.hasSideEffects <;>
    cases step.sideEffectsReversible <;>
    cases compiler.autoVerify && step.requiresVerification <;> simp [durationBy]

theorem token_suffix {step : AgentStep} {suffix : String} (held : suffix ∈ suffixes compiler step)
    (spends : suffix = "-think" ∨ suffix = "-generate") :
    step.stepType = .Think ∨ step.stepType = .Generate := by
  revert held
  unfold suffixes
  rcases spends with rfl | rfl <;> cases step.stepType <;>
    cases compiler.autoCheckpoint && step.hasSideEffects <;> cases step.sideEffectsReversible <;>
    cases compiler.autoVerify && step.requiresVerification <;> simp

theorem durationBy_mono {step step' : AgentStep} (raised : Raised step step') {suffix : String}
    (held : suffix ∈ suffixes compiler step')
    (bounded : step'.stepType = .Think ∨ step'.stepType = .Generate →
      step'.estimatedOutputTokens / 50 * 1000 < 2 ^ 32) :
    durationBy suffix step.estimatedOutputTokens ≤ durationBy suffix step'.estimatedOutputTokens := by
  unfold durationBy
  split
  · rename_i spends
    exact tokenDurationMs_mono raised.output (bounded (token_suffix held spends))
  · exact Nat.le_refl _

/-- Nodes of one name last no less. -/
theorem durations_mono (compiled : compile compiler orders steps = .ok program)
    (compiled' : compile compiler orders' steps' = .ok program')
    (raised : List.Forall₂ Raised steps steps') (bounded : Bounded steps') :
    ∀ node ∈ program.graph.nodes, ∀ node' ∈ program'.graph.nodes, node.nodeId = node'.nodeId →
      node.config.estimatedDurationMs ≤ node'.config.estimatedDurationMs := by
  intro node listed node' listed' same
  obtain ⟨step, own_step, own⟩ := (mem_compiled_nodes compiled).mp listed
  obtain ⟨step', own_step', own'⟩ := (mem_compiled_nodes compiled').mp listed'
  obtain ⟨suffix, held, named, lasts⟩ := node_duration node own
  obtain ⟨suffix', held', named', lasts'⟩ := node_duration node' own'
  rw [lasts, lasts']
  rw [named, named'] at same
  have checks (tokens : Nat) : durationBy "-verify" tokens = 0 ∧
      durationBy "-auto-verify" tokens = 0 := ⟨rfl, rfl⟩
  rcases append_suffix (suffixes_known step _ held) (suffixes_known step' _ held') same with
    ⟨rfl, id⟩ | ⟨rfl, rfl, _⟩ | ⟨rfl, rfl, _⟩
  · obtain ⟨ordered, perm, inOrder, _⟩ := compile_ok compiler compiled
    obtain ⟨origin, member, grown⟩ := (forall_raised raised).2 step' own_step'
    have equal : step = origin := inOrder.unique (perm.mem_iff.mpr own_step)
      (perm.mem_iff.mpr member) (id.trans grown.id)
    subst equal
    exact durationBy_mono grown held' (bounded.durations step' own_step')
  · rw [(checks _).1]
    exact Nat.zero_le _
  · rw [(checks _).2]
    exact Nat.zero_le _

theorem find_node {nodes : List PhaseNode} {id : String} (known : id ∈ nodes.map (·.nodeId)) :
    ∃ node ∈ nodes, node.nodeId = id ∧ durationOf nodes id = some node.config.estimatedDurationMs := by
  obtain ⟨node, listed, found, same⟩ := find_key known
  exact ⟨node, listed, same, by rw [durationOf, found]; rfl⟩

theorem durationOf_none {nodes : List PhaseNode} {id : String}
    (unknown : id ∉ nodes.map (·.nodeId)) : durationOf nodes id = none := by
  rw [durationOf, Option.map_eq_none_iff, List.find?_eq_none]
  intro node listed same
  exact unknown (List.mem_map.mpr ⟨node, listed, of_decide_eq_true same⟩)

theorem spent_mono (compiled : compile compiler orders steps = .ok program)
    (compiled' : compile compiler orders' steps' = .ok program')
    (raised : List.Forall₂ Raised steps steps') (bounded : Bounded steps') (id : String) :
    spent program.graph.nodes id ≤ spent program'.graph.nodes id := by
  unfold spent
  by_cases known : id ∈ program.graph.nodes.map (·.nodeId)
  · obtain ⟨node, listed, same, lasts⟩ := find_node known
    obtain ⟨node', listed', same', lasts'⟩ :=
      find_node ((mem_ids_raised compiled compiled' raised).mp known)
    rw [lasts, lasts']
    exact durations_mono compiled compiled' raised bounded node listed node' listed'
      (same.trans same'.symm)
  · rw [durationOf_none known,
      durationOf_none (known ∘ (mem_ids_raised compiled compiled' raised).mpr)]

theorem estimateDuration_eq {nodes : List PhaseNode} {path : List String}
    (inside : ∀ id ∈ path, id ∈ nodes.map (·.nodeId)) :
    estimateDuration path nodes = Paths.weight (spent nodes) path := by
  unfold estimateDuration Paths.weight
  induction path with
  | nil => rfl
  | cons id path ih =>
      obtain ⟨node, _, _, lasts⟩ := find_node (inside id List.mem_cons_self)
      rw [List.filterMap_cons, lasts, List.map_cons, List.sum_cons, List.sum_cons,
        ih fun other later => inside other (List.mem_cons_of_mem _ later), spent, lasts]
      rfl

/-- The critical path does not get shorter. -/
theorem critical_mono (compiled : compile compiler orders steps = .ok program)
    (compiled' : compile compiler orders' steps' = .ok program')
    (raised : List.Forall₂ Raised steps steps') (bounded : Bounded steps') :
    program.criticalPathDurationMs ≤ program'.criticalPathDurationMs := by
  obtain ⟨path, duration, _⟩ := compile_fields compiler compiled
  obtain ⟨path', duration', _⟩ := compile_fields compiler compiled'
  have edges : Kahn.Edge (ends program.graph.edges) = Kahn.Edge (ends program'.graph.edges) := by
    rw [compiled_joins_eq compiled, compiled_joins_eq compiled', linked_raised raised]
  have known {id : String} : id ∈ program.graph.nodes.map (·.nodeId) ↔
      id ∈ program'.graph.nodes.map (·.nodeId) := mem_ids_raised compiled compiled' raised
  rw [duration, duration']
  rcases computeCriticalPath_spec orders.nodes (compiled_between compiled).inside with
    ⟨⟨id, listed, founded⟩, critical⟩ | ⟨_, empty⟩
  · rcases computeCriticalPath_spec orders'.nodes (compiled_between compiled').inside with
      ⟨_, critical'⟩ | ⟨cyclic, _⟩
    · rw [← path] at critical
      rw [← path'] at critical'
      rw [estimateDuration_eq fun id on => (critical.inside id on).1,
        estimateDuration_eq fun id on => (critical'.inside id on).1]
      obtain ⟨last, way⟩ := critical.ends
      have on : last ∈ program.criticalPath := List.mem_of_getLast? way.last
      obtain ⟨inside, acc⟩ := critical.inside last on
      rw [edges] at way acc
      obtain ⟨n, least, longest⟩ := critical'.bound last (known.mp inside) acc
      calc Paths.weight (spent program.graph.nodes) program.criticalPath
          ≤ Paths.weight (spent program'.graph.nodes) program.criticalPath :=
            Paths.weight_mono (spent_mono compiled compiled' raised bounded) _
        _ ≤ n := longest.bound way
        _ ≤ _ := least
    · exact absurd (edges ▸ founded) (cyclic id (known.mp listed))
  · have unnamed : "" ∉ program.graph.nodes.map (·.nodeId) := by
      intro named
      obtain ⟨node, listed, nameless⟩ := List.mem_map.mp named
      obtain ⟨step, _, own⟩ := (mem_compiled_nodes compiled).mp listed
      obtain ⟨suffix, held, name, _⟩ := node_duration node own
      have solid : ∀ suffix ∈ allSuffixes, 0 < suffix.length := by decide
      have long := solid suffix (suffixes_known step suffix held)
      have lengths := congrArg String.length (name.symm.trans nameless)
      rw [String.length_append] at lengths
      have empty : "".length = 0 := rfl
      omega
    rw [path, empty, estimateDuration, List.filterMap_cons, durationOf_none unnamed]
    exact Nat.zero_le _

/-! ### Exact and growing estimates -/

/-- The estimates of a program are no less than those of another. -/
structure EstimatesGrow (program program' : AgentExecutionGraph) : Prop where
  durations : ∀ node ∈ program.graph.nodes, ∀ node' ∈ program'.graph.nodes,
    node.nodeId = node'.nodeId →
      node.config.estimatedDurationMs ≤ node'.config.estimatedDurationMs
  totals : program.totalResources.fitsWithin program'.totalResources = true
  critical : program.criticalPathDurationMs ≤ program'.criticalPathDurationMs

end

/-- The estimates of steps with more tokens are exact and no less, exactly where none of them
leaves its type. -/
theorem estimates_exact_iff (orders orders' : HashOrders) (program program' : AgentExecutionGraph)
    (compiled : compile compiler orders steps = .ok program)
    (compiled' : compile compiler orders' steps' = .ok program')
    (raised : List.Forall₂ Raised steps steps') :
    EstimatesExact compiler steps program ∧ EstimatesExact compiler steps' program' ∧
      EstimatesGrow program program' ↔ Bounded steps' := by
  rw [estimatesExact_iff compiled, estimatesExact_iff compiled']
  constructor
  · rintro ⟨_, bounded, _⟩
    exact bounded
  · intro bounded
    refine ⟨bounded.of_raised raised, bounded, ?_⟩
    obtain ⟨_, _, totals, _⟩ := compile_fields compiler compiled
    obtain ⟨_, _, totals', _⟩ := compile_fields compiler compiled'
    refine ⟨durations_mono compiled compiled' raised bounded, ?_,
      critical_mono compiled compiled' raised bounded⟩
    rw [totals, totals']
    exact resources_mono raised bounded

/-- A step that thinks for a number of tokens. -/
def thinking (tokens : Nat) : AgentStep :=
  { plainStep "t" .Think [] with estimatedOutputTokens := tokens }

theorem thinking_raised {tokens tokens' : Nat} (grows : tokens ≤ tokens') :
    List.Forall₂ Raised [thinking tokens] [thinking tokens'] :=
  .cons ⟨rfl, Nat.le_refl _, grows⟩ .nil

theorem estimates_exact_thinking :
    ∃ program program', compile {} .listed [thinking 500] = .ok program ∧
      compile {} .listed [thinking 1000] = .ok program' ∧
      (EstimatesExact {} [thinking 500] program ∧ EstimatesExact {} [thinking 1000] program' ∧
        EstimatesGrow program program' ↔ Bounded [thinking 1000]) :=
  ⟨_, _, rfl, rfl, estimates_exact_iff .listed .listed _ _ rfl rfl (thinking_raised (by decide))⟩

/-- A count of tokens that becomes zero as a `u32`. -/
theorem estimates_truncated : ¬∀ (compiler : AgentProgramCompiler) (orders orders' : HashOrders)
    (steps steps' : List AgentStep) (program program' : AgentExecutionGraph),
    compile compiler orders steps = .ok program → compile compiler orders' steps' = .ok program' →
      List.Forall₂ Raised steps steps' →
        EstimatesExact compiler steps program ∧ EstimatesExact compiler steps' program' ∧
          EstimatesGrow program program' := by
  intro estimated
  obtain ⟨_, _, grow⟩ := estimated {} .listed .listed [thinking 500] [thinking (2 ^ 32)] _ _ rfl rfl
    (thinking_raised (by decide))
  exact absurd grow.critical (by decide)

end AgentProgramCompiler

end NousKernel
