import NousKernel.Admission
import NousKernel.Kahn
import NousKernel.Ranking

/-!
The compiler of agent programs and the scheduler on top of it
(`nous-scheduler/src/workflow.rs`). The order in which a hash map gives its keys is a
parameter. Sums of token counts and of model calls wrap, as in a release build; a sum of
`u32` durations over the nodes of a graph is exact.
-/

set_option autoImplicit false

namespace NousKernel

inductive AgentStepType where
  | Think | Retrieve | ToolCall | Generate | Verify | Approval | Commit | Compensate
  deriving DecidableEq

structure AgentStep where
  id : String
  description : String
  stepType : AgentStepType
  dependsOn : List String
  modelCalls : Nat
  requiresStrongModel : Bool
  tools : List String
  estimatedInputTokens : Nat
  estimatedOutputTokens : Nat
  hasSideEffects : Bool
  sideEffectsReversible : Bool
  requiredCapabilities : List String
  requiresApproval : Bool
  requiresVerification : Bool
  maxRetries : Nat

inductive PhaseType where
  | Unspecified | Receive | Validate | Authenticate | ResolveContext | Retrieve | Plan | Admit
  | Place | Prepare | Tokenize | Encode | Prefill | Decode | ToolExecute | Observe | Verify
  | Replan | Finalize | Commit | Compensate | Checkpoint
  deriving DecidableEq

inductive EdgeCondition where
  | Always
  | OnSuccess
  | OnFailure
  | OnOutput (fieldPath pattern : String)
  | OnQuality (threshold : Binary64)
  | OnApproval (approverRole : String)
  | OnRetryExhausted (maxRetries : Nat)

structure PhaseConfig where
  inputArtifacts : List String := []
  outputArtifacts : List String := []
  allowedDevices : List String := []
  allowedEngines : List String := []
  estimatedResources : Option ResourceVector := none
  isIdempotent : Bool := false
  isCancellable : Bool := false
  isRetryable : Bool := false
  isMigratable : Bool := false
  isCheckpointable : Bool := false
  isSpeculatable : Bool := false
  hasSideEffects : Bool := false
  compensationPhaseId : Option String := none
  timeoutSeconds : Nat := 0
  estimatedDurationMs : Nat := 0
  qualityVerifierPhaseId : Option String := none

structure PhaseNode where
  nodeId : String
  phaseType : PhaseType
  config : PhaseConfig
  description : String

structure PhaseEdge where
  fromNodeId : String
  toNodeId : String
  condition : Option EdgeCondition

structure ExecutionGraph where
  nodes : List PhaseNode
  edges : List PhaseEdge
  entryNodeId : String

structure AgentExecutionGraph where
  graph : ExecutionGraph
  criticalPath : List String
  parallelGroups : List (List String)
  cacheReuseNodes : List String
  totalResources : ResourceVector
  criticalPathDurationMs : Nat
  verificationBoundaries : Nat
  approvalBoundaries : Nat
  checkpointNodes : List String

inductive CompileError where
  | MissingDependency (step missingDep : String)
  | CircularDependency (step : String)
  | InvalidStep (step reason : String)
  deriving DecidableEq

/-- The order in which a hash map gives its keys. -/
abbrev Arrangement : Type :=
  { arrange : List String → List String // ∀ keys, (arrange keys).Perm keys }

/-- The orders of the maps that are iterated: the degrees of the steps, the remaining nodes
of the parallel groups, the degrees of the nodes. -/
structure HashOrders where
  steps : Arrangement
  remaining : Arrangement
  nodes : Arrangement

structure AgentProgramCompiler where
  autoCheckpoint : Bool := true
  autoVerify : Bool := true

/-- The ends of the edges. -/
def ends (edges : List PhaseEdge) : List (String × String) :=
  edges.map fun edge => (edge.fromNodeId, edge.toNodeId)

/-- A sum of `u64` that wraps. -/
def wrappingSum (values : List Nat) : Nat := values.sum % 2 ^ 64

/-- `tokens as u32 / 50 * 1000`. -/
def tokenDurationMs (tokens : Nat) : Nat := tokens % 2 ^ 32 / 50 * 1000 % 2 ^ 32

namespace AgentProgramCompiler

/-! ### Steps -/

def validateSteps (steps : List AgentStep) : Except CompileError Unit :=
  let ids := steps.map (·.id)
  steps.forM fun step => do
    step.dependsOn.forM fun dep =>
      if dep ∉ ids then throw (.MissingDependency step.id dep) else pure ()
    if step.id ∈ step.dependsOn then throw (.CircularDependency step.id)

/-- The edges of the dependencies, one for each entry of `depends_on`. -/
def dependencies (steps : List AgentStep) : List (String × String) :=
  steps.flatMap fun step => step.dependsOn.map fun dep => (dep, step.id)

def topologicalSort (order : Arrangement) (steps : List AgentStep) :
    Except CompileError (List String) :=
  let sorted := Kahn.sort (order.val (steps.map (·.id)).dedup) (dependencies steps)
  if sorted.length ≠ steps.length then
    throw (.CircularDependency "cycle detected in dependency graph")
  else pure sorted

variable (compiler : AgentProgramCompiler)

/-- The nodes of the step itself. -/
def stepNodes (step : AgentStep) : List PhaseNode :=
  match step.stepType with
  | .Think => [{
      nodeId := step.id ++ "-think"
      phaseType := .Plan
      config := {
        isIdempotent := true
        isCancellable := true
        isRetryable := true
        estimatedDurationMs := tokenDurationMs step.estimatedOutputTokens }
      description := "Think: " ++ step.description }]
  | .Retrieve => [{
      nodeId := step.id ++ "-retrieve"
      phaseType := .Retrieve
      config := {
        isIdempotent := true
        isCancellable := true
        isRetryable := true
        estimatedDurationMs := 500 }
      description := "Retrieve: " ++ step.description }]
  | .ToolCall =>
      (if compiler.autoCheckpoint && step.hasSideEffects then [{
        nodeId := step.id ++ "-checkpoint"
        phaseType := .Checkpoint
        config := { isIdempotent := true, isCheckpointable := true }
        description := "Checkpoint before: " ++ step.description }] else []) ++ [{
      nodeId := step.id ++ "-tool"
      phaseType := .ToolExecute
      config := {
        hasSideEffects := step.hasSideEffects
        isIdempotent := !step.hasSideEffects
        isCancellable := true
        isRetryable := !step.hasSideEffects
        timeoutSeconds := 120
        compensationPhaseId :=
          if step.sideEffectsReversible then some (step.id ++ "-compensate") else none }
      description := "Tool: " ++ step.description }] ++
      (if step.sideEffectsReversible then [{
        nodeId := step.id ++ "-compensate"
        phaseType := .Compensate
        config := { isIdempotent := true }
        description := "Compensate: " ++ step.description }] else [])
  | .Generate => [{
      nodeId := step.id ++ "-tokenize"
      phaseType := .Tokenize
      config := { isIdempotent := true, isCancellable := true, estimatedDurationMs := 10 }
      description := "Tokenize input" }, {
      nodeId := step.id ++ "-generate"
      phaseType := .Decode
      config := {
        isCancellable := true
        isRetryable := true
        estimatedDurationMs := tokenDurationMs step.estimatedOutputTokens
        timeoutSeconds := 300
        allowedEngines := if step.requiresStrongModel then [] else ["small-model"] }
      description := "Generate: " ++ step.description }]
  | .Verify => [{
      nodeId := step.id ++ "-verify"
      phaseType := .Verify
      config := {
        isIdempotent := true
        isCancellable := true
        isRetryable := true
        qualityVerifierPhaseId := some (step.id ++ "-verify-retry") }
      description := "Verify: " ++ step.description }]
  | .Approval => [{
      nodeId := step.id ++ "-approval"
      phaseType := .Validate
      config := { isCancellable := true, isIdempotent := true, timeoutSeconds := 0 }
      description := "Await approval: " ++ step.description }]
  | .Commit => [{
      nodeId := step.id ++ "-commit"
      phaseType := .Commit
      config := { hasSideEffects := true, isIdempotent := true, timeoutSeconds := 60 }
      description := "Commit: " ++ step.description }]
  | .Compensate => [{
      nodeId := step.id ++ "-compensate"
      phaseType := .Compensate
      config := { hasSideEffects := true, isIdempotent := true }
      description := "Compensate: " ++ step.description }]

def stepToPhaseNodes (step : AgentStep) : List PhaseNode :=
  stepNodes compiler step ++
    (if compiler.autoVerify && step.requiresVerification then [{
      nodeId := step.id ++ "-auto-verify"
      phaseType := .Verify
      config := {
        isIdempotent := true
        isCancellable := true
        isRetryable := true
        qualityVerifierPhaseId := some (step.id ++ "-verifier") }
      description := "Auto-verify: " ++ step.description }] else [])

/-! ### The graph -/

def onSuccess (first second : String) : PhaseEdge := ⟨first, second, some .OnSuccess⟩

/-- The edges of the nodes of one step: `incoming` those of its first node, given by the node. -/
def connect (incoming : String → List PhaseEdge) : Option String → List PhaseNode → List PhaseEdge
  | _, [] => []
  | none, node :: nodes => incoming node.nodeId ++ connect incoming (some node.nodeId) nodes
  | some previous, node :: nodes =>
      onSuccess previous node.nodeId :: connect incoming (some node.nodeId) nodes

/-- The graph built so far, and the last node of every step in it. -/
structure Build where
  nodes : List PhaseNode
  edges : List PhaseEdge
  nodeMap : String → Option String

def Build.empty : Build := ⟨[], [], fun _ => none⟩

def addStep (s : Build) (step : AgentStep) : Build :=
  let phases := stepToPhaseNodes compiler step
  let incoming node := step.dependsOn.filterMap fun dep => (s.nodeMap dep).map (onSuccess · node)
  { nodes := s.nodes ++ phases
    edges := s.edges ++ connect incoming none phases
    nodeMap := match phases.getLast? with
      | some last => Function.update s.nodeMap step.id (some last.nodeId)
      | none => s.nodeMap }

/-- The loop over the sorted ids. Each of them is the id of a step. -/
def build (steps : List AgentStep) (order : List String) : Build :=
  order.foldl (fun s id =>
    match steps.find? (·.id = id) with
    | some step => addStep compiler s step
    | none => s) .empty

/-! ### Parallel groups -/

/-- A ready node is removed, and the nodes that it blocks wait for one edge less. -/
def removeReady (edges : List (String × String)) (s : List String × (String → Nat)) (id : String) :
    List String × (String → Nat) :=
  let remaining := s.1.erase id
  (remaining, (Kahn.targets edges id).foldl (fun count target =>
    if target ∈ remaining then Function.update count target (count target - 1) else count) s.2)

/-- The waves over the nodes that remain. Each removes a node at least. -/
def wavesFrom (order : Arrangement) (edges : List (String × String)) :
    Nat → List String → (String → Nat) → List (List String)
  | 0, _, _ => []
  | fuel + 1, remaining, count =>
      let ready := (order.val remaining).filter (count · = 0)
      if ready = [] then []
      else
        let s := ready.foldl (removeReady edges) (remaining, count)
        ready :: wavesFrom order edges fuel s.1 s.2

def findParallelGroups (order : Arrangement) (nodes : List PhaseNode) (edges : List PhaseEdge) :
    List (List String) :=
  let ids := (nodes.map (·.nodeId)).dedup
  wavesFrom order (ends edges) ids.length ids (Kahn.degree (ends edges))

/-! ### The critical path -/

/-- The duration of the first node with an id. -/
def durationOf (nodes : List PhaseNode) (id : String) : Option Nat :=
  (nodes.find? (·.nodeId = id)).map (·.config.estimatedDurationMs)

/-- The longest paths found so far, how they arrive at their end, and the longest of all. -/
structure Longest where
  longestTo : String → Option Nat
  predecessor : String → Option String
  maxLen : Nat
  maxNode : String

/-- The best way to a node, over its incoming edges. -/
def bestInto (longestTo : String → Option Nat) (nodeLen : Nat)
    (incoming : List (String × String)) : Nat × Option String :=
  incoming.foldl (fun best edge =>
    match longestTo edge.1 with
    | some predLen => if best.1 < predLen + nodeLen then (predLen + nodeLen, some edge.1) else best
    | none => best) (nodeLen, none)

def extendLongest (nodes : List PhaseNode) (edges : List (String × String)) (s : Longest)
    (node : String) : Longest :=
  let nodeLen := (durationOf nodes node).getD 1
  let best := bestInto s.longestTo nodeLen (edges.filter (·.2 = node))
  { longestTo := Function.update s.longestTo node (some best.1)
    predecessor := Function.update s.predecessor node best.2
    maxLen := if s.maxLen < best.1 then best.1 else s.maxLen
    maxNode := if s.maxLen < best.1 then node else s.maxNode }

/-- The path that ends in a node, from its end. -/
def pathBack (predecessor : String → Option String) : Nat → String → List String
  | 0, _ => []
  | fuel + 1, node =>
      node :: (match predecessor node with
        | some previous => pathBack predecessor fuel previous
        | none => [])

def computeCriticalPath (order : Arrangement) (nodes : List PhaseNode) (edges : List PhaseEdge) :
    List String :=
  let pairs := ends edges
  let keys := (nodes.map (·.nodeId) ++ pairs.map (·.2)).dedup
  let sorted := Kahn.sort (order.val keys) pairs
  let s := sorted.foldl (extendLongest nodes pairs)
    ⟨fun _ => none, fun _ => none, 0, sorted.headD ""⟩
  (pathBack s.predecessor (sorted.length + 1) s.maxNode).reverse

def estimateDuration (criticalPath : List String) (nodes : List PhaseNode) : Nat :=
  (criticalPath.filterMap (durationOf nodes)).sum

/-! ### Estimates -/

/-- `value as i64`. -/
def asI64 (value : Int) : Int := Int.bmod value (2 ^ 64)

/-- The inputs of two steps are of similar length. -/
def similarInputs (first second : AgentStep) : Bool :=
  let input : Int := asI64 first.estimatedInputTokens
  let difference := asI64 (input - asI64 second.estimatedInputTokens)
  first.requiresStrongModel == second.requiresStrongModel &&
    asI64 difference.natAbs < Int.tdiv input 2

def detectCacheReuse (nodes : List PhaseNode) : List AgentStep → List String
  | [] => []
  | step :: steps =>
      let reused := (steps.filter (similarInputs step)).map (·.id ++ "-generate")
      (reused.filter (· ∈ nodes.map (·.nodeId))) ∪ detectCacheReuse nodes steps

def estimateResources (steps : List AgentStep) : ResourceVector :=
  let totalTokens := wrappingSum (steps.map fun step =>
    (step.estimatedInputTokens + step.estimatedOutputTokens) % 2 ^ 64)
  let modelCalls := wrappingSum (steps.map (·.modelCalls))
  let kvBytes := totalTokens * 1024 % 2 ^ 64
  { kvCacheBytes := kvBytes
    deviceMemoryBytes := (kvBytes + 2 * 1024 * 1024 * 1024) % 2 ^ 64
    ramBytes := 4 * 1024 * 1024 * 1024
    cpuTimeUs := modelCalls * 500000 % 2 ^ 64 }

/-! ### Compilation -/

def compile (orders : HashOrders) (steps : List AgentStep) :
    Except CompileError AgentExecutionGraph := do
  validateSteps steps
  let order ← topologicalSort orders.steps steps
  let built := build compiler steps order
  let nodes := built.nodes
  let edges := built.edges
  let criticalPath := computeCriticalPath orders.nodes nodes edges
  return {
    graph := ⟨nodes, edges, (nodes.head?.map (·.nodeId)).getD ""⟩
    criticalPath := criticalPath
    parallelGroups := findParallelGroups orders.remaining nodes edges
    cacheReuseNodes := detectCacheReuse nodes steps
    totalResources := estimateResources steps
    criticalPathDurationMs := estimateDuration criticalPath nodes
    verificationBoundaries := nodes.countP (·.phaseType = .Verify) % 2 ^ 32
    approvalBoundaries :=
      nodes.countP (·.config.qualityVerifierPhaseId = some "approval") % 2 ^ 32
    checkpointNodes := (nodes.filter (·.phaseType = .Checkpoint)).map (·.nodeId) }

end AgentProgramCompiler

/-! ### The scheduler -/

structure ScheduledProgram where
  graph : AgentExecutionGraph
  executionOrder : List String

namespace CriticalPathScheduler

/-- Ten for each edge out of the node, and one when its cache can be reused. -/
def priority (program : AgentExecutionGraph) (id : String) : Nat :=
  program.graph.edges.countP (·.fromNodeId = id) * 10 +
    if id ∈ program.cacheReuseNodes then 1 else 0

/-- The scheduler compiles with the default compiler. -/
def schedule (orders : HashOrders) (steps : List AgentStep) :
    Except CompileError ScheduledProgram := do
  let program ← AgentProgramCompiler.compile {} orders steps
  let remaining := (program.graph.nodes.map (·.nodeId)).filter (· ∉ program.criticalPath)
  return ⟨program, program.criticalPath ++
    remaining.mergeSort fun a b => priority program b ≤ priority program a⟩

end CriticalPathScheduler

end NousKernel
