import NousKernel.GraphLoops
import NousKernel.Catalog

/-!
What the check of an intelligence graph accepts (`nous-intelligence/src/graph.rs`): the
well-formed graphs, in terms of their nodes and edges, and nothing else. The lowering to
a workflow contract succeeds on the same graphs.
-/

set_option autoImplicit false

namespace NousKernel

open Results IntelligenceError

structure WorkflowContract where
  schemaVersion : Nat
  id : String
  version : String
  steps : List String
  edges : List (String × String)
  metadata : TextMap String

def WorkflowContract.validate (self : WorkflowContract) : Except RuntimeContractError Unit := do
  schema "WorkflowContract" self.schemaVersion
  required "WorkflowContract" "id" self.id
  required "WorkflowContract" "version" self.version

/-- The type that a schema declares, when it is a text. -/
def declaredType (value : Value) : Option String := (value.get "type").bind Value.asStr

def TypesAgree (output input : Value) : Prop :=
  ∀ outputType inputType, declaredType output = some outputType →
    declaredType input = some inputType → outputType = inputType

theorem validateSchemaConnection_ok {output input : Value} :
    validateSchemaConnection output input = .ok () ↔ TypesAgree output input := by
  unfold validateSchemaConnection TypesAgree declaredType
  cases (output.get "type").bind Value.asStr with
  | none => simp
  | some outputType =>
      cases (input.get "type").bind Value.asStr with
      | none => simp
      | some inputType => by_cases same : outputType = inputType <;> simp [same]

namespace IntelligenceGraph

def toWorkflowContract (self : IntelligenceGraph) : Except IntelligenceError WorkflowContract := do
  self.validate
  let workflow : WorkflowContract :=
    { schemaVersion := self.schemaVersion
      id := self.id
      version := self.version
      steps := self.nodes.map (·.id)
      edges := self.edges.map fun edge => (edge.fromId, edge.toId)
      metadata := (∅ : TextMap String).insert "source" "IntelligenceGraph"
        |>.insert "source_schema" (toString self.schemaVersion) }
  within "IntelligenceGraph" "workflow" workflow.validate
  return workflow

/-- An edge joins two different nodes of the graph whose declared types agree. -/
def Joins (self : IntelligenceGraph) (edge : GraphEdge) : Prop :=
  edge.fromId ≠ edge.toId ∧ ∃ first ∈ self.nodes, ∃ second ∈ self.nodes,
    first.id = edge.fromId ∧ second.id = edge.toId ∧
      TypesAgree first.outputSchema second.inputSchema

structure WellFormed (graph : IntelligenceGraph) : Prop where
  schemaVersion : graph.schemaVersion = intelligenceSchemaVersion
  id : isBlank graph.id = false
  version : isBlank graph.version = false
  nonempty : graph.nodes ≠ []
  nodes : ∀ node ∈ graph.nodes, node.validate = .ok ()
  distinct : (graph.nodes.map (·.id)).Nodup
  joins : ∀ edge ∈ graph.edges, graph.Joins edge
  unique : graph.edges.Nodup
  acyclic : Kahn.Acyclic (graph.edges.map ends)

section Edges

variable {nodes : TextMap GraphNode} {self : IntelligenceGraph}

theorem ends_injective : Function.Injective ends := by
  intro first second same
  cases first
  cases second
  simpa [ends] using same

theorem known_ok {id message : String} {node : GraphNode} :
    known nodes id message = .ok node ↔ nodes[id]? = some node := by
  unfold known
  cases nodes[id]? <;> simp

theorem checkEdge_ok (collected : Collected nodes self.nodes) {unique : List (String × String)}
    {edge : GraphEdge} :
    checkEdge nodes unique edge = .ok () ↔ self.Joins edge ∧ ends edge ∉ unique := by
  simp only [checkEdge, bind_ok, mapError_ok, known_ok, validateSchemaConnection_ok,
    collected.lookup]
  constructor
  · rintro ⟨⟨⟩, apart, first, ⟨source, named⟩, second, ⟨target, called⟩, ⟨⟩, fresh, agree⟩
    rw [ensure_ok, decide_eq_true_eq] at apart fresh
    exact ⟨⟨apart, first, source, second, target, named, called, agree⟩, fresh⟩
  · rintro ⟨⟨apart, first, source, second, target, named, called, agree⟩, fresh⟩
    exact ⟨(), ensure_ok.mpr (decide_eq_true apart), first, ⟨source, named⟩, second,
      ⟨target, called⟩, (), ensure_ok.mpr (decide_eq_true fresh), agree⟩

theorem validateEdges_ok (collected : Collected nodes self.nodes) (unique : List (String × String))
    (edges : List GraphEdge) :
    validateEdges nodes unique edges = .ok () ↔
      (∀ edge ∈ edges, self.Joins edge) ∧ (edges.map ends).Nodup ∧
        ∀ edge ∈ edges, ends edge ∉ unique := by
  induction edges generalizing unique with
  | nil => simp [validateEdges]
  | cons edge edges ih =>
      rw [validateEdges_cons, checks_ok, checkEdge_ok collected, ih, List.map_cons, List.nodup_cons,
        List.forall_mem_cons, List.forall_mem_cons]
      have listed : (∀ other ∈ edges, ends other ∉ (edge.fromId, edge.toId) :: unique) ↔
          ends edge ∉ edges.map ends ∧ ∀ other ∈ edges, ends other ∉ unique := by
        constructor
        · intro fresh
          constructor
          · intro repeated
            obtain ⟨other, member, same⟩ := List.mem_map.mp repeated
            exact fresh other member (same ▸ List.mem_cons_self)
          · intro other member early
            exact fresh other member (List.mem_cons_of_mem _ early)
        · rintro ⟨single, fresh⟩ other member early
          rcases List.mem_cons.mp early with same | before
          · exact single (List.mem_map.mpr ⟨other, member, same⟩)
          · exact fresh other member before
      rw [listed]
      constructor
      · rintro ⟨⟨join, fresh⟩, joins, distinct, single, others⟩
        exact ⟨⟨join, joins⟩, ⟨single, distinct⟩, fresh, others⟩
      · rintro ⟨⟨join, joins⟩, ⟨single, distinct⟩, fresh, others⟩
        exact ⟨⟨join, fresh⟩, joins, distinct, single, others⟩

/-- The loop over the queue visits every node exactly when no path returns. -/
theorem visited_iff (collected : Collected nodes self.nodes)
    (joins : ∀ edge ∈ self.edges, self.Joins edge) :
    (visited nodes self.edges).length = nodes.size ↔ Kahn.Acyclic (self.edges.map ends) := by
  have member : ∀ {node : GraphNode}, node ∈ self.nodes → node.id ∈ nodes.keys := by
    intro node listed
    rw [Std.ExtTreeMap.mem_keys, Std.ExtTreeMap.mem_iff_isSome_getElem?,
      (collected.lookup node.id node).mpr ⟨listed, rfl⟩]
    rfl
  have inside : ∀ e ∈ self.edges.map ends, e.1 ∈ nodes.keys ∧ e.2 ∈ nodes.keys := by
    intro e listed
    obtain ⟨edge, known, rfl⟩ := List.mem_map.mp listed
    obtain ⟨-, first, source, second, target, named, called, -⟩ := joins edge known
    exact ⟨ends_fst edge ▸ named ▸ member source, ends_snd edge ▸ called ▸ member target⟩
  have sorted := Kahn.sort_sorted (Std.ExtTreeMap.nodup_keys (t := nodes))
    fun e listed => (inside e listed).2
  rw [← Std.ExtTreeMap.length_keys]
  exact sorted.length_iff Std.ExtTreeMap.nodup_keys inside

end Edges

theorem validate_ok_iff (self : IntelligenceGraph) : self.validate = .ok () ↔ self.WellFormed := by
  rw [validate_eq, bind_ok]
  constructor
  · rintro ⟨nodes, checked, rest⟩
    obtain ⟨schemaVersion, id, version, nonempty, loop⟩ := checkNodes_ok.mp checked
    have collected := collectNodes_ok .nil loop
    rw [List.nil_append] at collected
    rw [checks_ok, validateEdges_ok collected, ensure_ok, decide_eq_true_eq] at rest
    obtain ⟨⟨joins, distinct, -⟩, count⟩ := rest
    exact ⟨schemaVersion, id, version, nonempty, collected.valid, collected.distinct, joins,
      distinct.of_map, (visited_iff collected joins).mp count⟩
  · intro formed
    obtain ⟨nodes, loop⟩ := collectNodes_total .nil formed.nodes
      (by rw [List.nil_append]; exact formed.distinct)
    have collected := collectNodes_ok .nil loop
    rw [List.nil_append] at collected
    refine ⟨nodes, checkNodes_ok.mpr
      ⟨formed.schemaVersion, formed.id, formed.version, formed.nonempty, loop⟩, ?_⟩
    rw [checks_ok, validateEdges_ok collected, ensure_ok, decide_eq_true_eq]
    exact ⟨⟨formed.joins, formed.unique.map ends_injective, fun _ _ => List.not_mem_nil⟩,
      (visited_iff collected formed.joins).mpr formed.acyclic⟩

theorem toWorkflowContract_ok {self : IntelligenceGraph} {workflow : WorkflowContract} :
    self.toWorkflowContract = .ok workflow ↔
      self.WellFormed ∧ workflow.schemaVersion = self.schemaVersion ∧ workflow.id = self.id ∧
        workflow.version = self.version ∧ workflow.steps = self.nodes.map (·.id) ∧
        workflow.edges = self.edges.map ends ∧
        workflow.metadata = ((∅ : TextMap String).insert "source" "IntelligenceGraph").insert
          "source_schema" (toString self.schemaVersion) := by
  simp only [toWorkflowContract, after_ok, validate_ok_iff, within_ok, WorkflowContract.validate,
    schema_ok, required_ok, pure, Except.pure, Except.ok.injEq]
  constructor
  · rintro ⟨formed, -, rfl⟩
    exact ⟨formed, rfl, rfl, rfl, rfl, rfl, rfl⟩
  · rintro ⟨formed, schemaVersion, id, version, steps, edges, metadata⟩
    refine ⟨formed, ⟨formed.schemaVersion, formed.id, formed.version⟩, ?_⟩
    cases workflow
    subst schemaVersion id version steps edges metadata
    rfl

/-- The check ends without a panic and accepts exactly the well-formed graphs, and so does
the lowering, which keeps the nodes and the edges in their order. -/
theorem graph_validation_exact (self : IntelligenceGraph) :
    (∀ fuel, self.nodes.length < fuel → validateLoops fuel self = some self.validate) ∧
      (self.validate = .ok () ↔ self.WellFormed) ∧
      ((∃ workflow, self.toWorkflowContract = .ok workflow) ↔ self.WellFormed) ∧
      ∀ workflow, self.toWorkflowContract = .ok workflow →
        workflow.steps = self.nodes.map (·.id) ∧
          workflow.edges = self.edges.map fun edge => (edge.fromId, edge.toId) := by
  refine ⟨fun fuel enough => validateLoops_eq self fuel enough, validate_ok_iff self, ?_, ?_⟩
  · constructor
    · rintro ⟨workflow, lowered⟩
      exact (toWorkflowContract_ok.mp lowered).1
    · intro formed
      exact ⟨⟨_, _, _, _, _, _⟩, toWorkflowContract_ok.mpr ⟨formed, rfl, rfl, rfl, rfl, rfl, rfl⟩⟩
  · intro workflow lowered
    obtain ⟨-, -, -, -, steps, edges, -⟩ := toWorkflowContract_ok.mp lowered
    exact ⟨steps, edges⟩

end IntelligenceGraph

end NousKernel
