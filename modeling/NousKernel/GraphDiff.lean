import NousKernel.Differences
import NousKernel.GraphChecks

/-!
The difference of two graphs (`nous-intelligence/src/graph.rs`): nodes by their ids, edges
as sets. Two nodes are the same when the equality of the language says so, which compares
numbers by value: both zeros are one number.
-/

set_option autoImplicit false

namespace NousKernel

open Results IntelligenceError

/-! ### Equality -/

/-- A number of a JSON value is never NaN, so equality of floats is equality of their keys. -/
def Number.same : Number → Number → Bool
  | .PosInt first, .PosInt second => first = second
  | .NegInt first, .NegInt second => first = second
  | .Float first, .Float second => first.numberKey = second.numberKey
  | _, _ => false

namespace Value

mutual

def same : Value → Value → Bool
  | .null, .null => true
  | .bool first, .bool second => first = second
  | .number first, .number second => first.same second
  | .string first, .string second => first = second
  | .array first, .array second => sameItems first second
  | .object first, .object second => sameMembers first second
  | _, _ => false

def sameItems : List Value → List Value → Bool
  | [], [] => true
  | first :: firsts, second :: seconds => first.same second && sameItems firsts seconds
  | _, _ => false

def sameMembers : List (String × Value) → List (String × Value) → Bool
  | [], [] => true
  | (key, first) :: firsts, (name, second) :: seconds =>
      key = name && first.same second && sameMembers firsts seconds
  | _, _ => false

end

end Value

def GraphNode.same (first second : GraphNode) : Bool :=
  first.id = second.id && first.kind = second.kind && first.reference = second.reference &&
    first.capability = second.capability && first.inputSchema.same second.inputSchema &&
    first.outputSchema.same second.outputSchema && first.resources = second.resources &&
    Value.sameMembers first.parameters.toList second.parameters.toList &&
    first.sideEffects = second.sideEffects && first.backend = second.backend

/-! ### The difference -/

instance : Ord GraphEdge where
  compare := compareLex (compareOn GraphEdge.fromId) (compareOn GraphEdge.toId)

instance : Std.TransOrd GraphEdge :=
  inferInstanceAs
    (Std.TransCmp (compareLex (compareOn GraphEdge.fromId) (compareOn GraphEdge.toId)))

instance : Std.LawfulEqOrd GraphEdge where
  eq_of_compare {first second} equal := by
    have both : compareOn GraphEdge.fromId first second = .eq ∧
        compareOn GraphEdge.toId first second = .eq := Ordering.then_eq_eq.mp equal
    cases first
    cases second
    rw [GraphEdge.mk.injEq]
    exact ⟨Std.LawfulEqOrd.eq_of_compare both.1, Std.LawfulEqOrd.eq_of_compare both.2⟩

/-- `sort` of a vector of texts. -/
def sortTexts (texts : List String) : List String :=
  texts.mergeSort fun first second => first ≤ second

structure GraphDiff where
  addedNodes : List String
  removedNodes : List String
  changedNodes : List String
  addedEdges : List GraphEdge
  removedEdges : List GraphEdge

namespace IntelligenceGraph

/-- `collect` into a map: the last node with an id stays. -/
def byId (nodes : List GraphNode) : TextMap GraphNode :=
  nodes.foldl (fun collected node => collected.insert node.id node) ∅

def edgeSet (edges : List GraphEdge) : Std.ExtTreeSet GraphEdge := .ofList edges

/-- `difference`: what one set has and the other has not, in order. -/
def difference (first second : Std.ExtTreeSet GraphEdge) : List GraphEdge :=
  first.toList.filter (!second.contains ·)

def diff (self other : IntelligenceGraph) : GraphDiff :=
  let left := byId self.nodes
  let right := byId other.nodes
  let leftEdges := edgeSet self.edges
  let rightEdges := edgeSet other.edges
  { addedNodes := sortTexts (right.keys.filter (!left.contains ·))
    removedNodes := sortTexts (left.keys.filter (!right.contains ·))
    changedNodes := sortTexts <| left.toList.filterMap fun (id, node) =>
      (right[id]?.filter (!·.same node)).map fun _ => id
    addedEdges := difference rightEdges leftEdges
    removedEdges := difference leftEdges rightEdges }

end IntelligenceGraph

/-! ### Equality as a form

What `same` cannot tell apart has one form: the zero of a float loses its sign.
-/

def Number.form : Number → Number
  | .Float value => .Float (if value.numberKey = 0 then 0#64 else value)
  | value => value

namespace Value

mutual

def form : Value → Value
  | .null => .null
  | .bool value => .bool value
  | .number value => .number value.form
  | .string text => .string text
  | .array items => .array (formItems items)
  | .object members => .object (formMembers members)

def formItems : List Value → List Value
  | [] => []
  | item :: items => item.form :: formItems items

def formMembers : List (String × Value) → List (String × Value)
  | [] => []
  | (key, value) :: members => (key, value.form) :: formMembers members

end

end Value

def GraphNode.form (node : GraphNode) : GraphNode :=
  { node with
    inputSchema := node.inputSchema.form
    outputSchema := node.outputSchema.form
    parameters := node.parameters.map fun _ value => value.form }

theorem Binary64.toNat_eq (value : Binary64) :
    value.toNat = value.magnitude + if value.msb then 2 ^ 63 else 0 := by
  have bound := value.isLt
  rw [Binary64.magnitude, BitVec.msb_eq_decide]
  by_cases negative : 2 ^ (64 - 1) ≤ value.toNat
  · rw [decide_eq_true negative, if_pos rfl]
    omega
  · rw [decide_eq_false negative, if_neg Bool.false_ne_true]
    omega

theorem Binary64.eq_of_numberKey {first second : Binary64} (same : first.numberKey = second.numberKey)
    (nonzero : first.numberKey ≠ 0) : first = second := by
  apply BitVec.eq_of_toNat_eq
  rw [Binary64.toNat_eq first, Binary64.toNat_eq second]
  unfold Binary64.numberKey at same nonzero
  cases sign : first.msb <;> cases other : second.msb <;>
    simp only [sign, other, if_true, if_false, Bool.false_eq_true] at same nonzero ⊢ <;> omega

theorem Number.same_iff (first second : Number) :
    first.same second = true ↔ first.form = second.form := by
  cases first <;> cases second <;>
    simp only [Number.same, Number.form, decide_eq_true_eq, Number.PosInt.injEq,
      Number.NegInt.injEq, Number.Float.injEq, Bool.false_eq_true, reduceCtorEq]
  rename_i first second
  have zero : Binary64.numberKey 0#64 = 0 := by decide
  constructor
  · intro same
    by_cases zeroKey : first.numberKey = 0
    · rw [if_pos zeroKey, if_pos (same ▸ zeroKey)]
    · rw [Binary64.eq_of_numberKey same zeroKey]
  · intro same
    have keys : ∀ value : Binary64,
        Binary64.numberKey (if value.numberKey = 0 then 0#64 else value) = value.numberKey := by
      intro value
      by_cases zeroKey : value.numberKey = 0
      · rw [if_pos zeroKey, zeroKey, zero]
      · rw [if_neg zeroKey]
    rw [← keys first, ← keys second, same]

namespace Value

mutual

theorem same_iff : ∀ first second : Value, first.same second = true ↔ first.form = second.form
  | .null, second => by cases second <;> simp [same, form]
  | .bool _, second => by cases second <;> simp [same, form]
  | .number _, second => by cases second <;> simp [same, form, Number.same_iff]
  | .string _, second => by cases second <;> simp [same, form]
  | .array firsts, second => by
      cases second with
      | array seconds => simp [same, form, sameItems_iff firsts seconds]
      | _ => simp [same, form]
  | .object firsts, second => by
      cases second with
      | object seconds => simp [same, form, sameMembers_iff firsts seconds]
      | _ => simp [same, form]

theorem sameItems_iff : ∀ firsts seconds : List Value,
    sameItems firsts seconds = true ↔ formItems firsts = formItems seconds
  | [], seconds => by cases seconds <;> simp [sameItems, formItems]
  | first :: firsts, seconds => by
      cases seconds with
      | nil => simp [sameItems, formItems]
      | cons second seconds =>
          simp [sameItems, formItems, same_iff first second, sameItems_iff firsts seconds]

theorem sameMembers_iff : ∀ firsts seconds : List (String × Value),
    sameMembers firsts seconds = true ↔ formMembers firsts = formMembers seconds
  | [], seconds => by cases seconds <;> simp [sameMembers, formMembers]
  | (key, first) :: firsts, seconds => by
      cases seconds with
      | nil => simp [sameMembers, formMembers]
      | cons second seconds =>
          simp [sameMembers, formMembers, same_iff first second.2, sameMembers_iff firsts seconds,
            and_assoc]

end

theorem formMembers_eq (members : List (String × Value)) :
    formMembers members = members.map fun member => (member.1, member.2.form) := by
  induction members with
  | nil => rfl
  | cons member members ih => rw [formMembers, ih, List.map_cons]

theorem sameParameters_iff (first second : TextMap Value) :
    sameMembers first.toList second.toList = true ↔
      (first.map fun _ value => value.form) = second.map fun _ value => value.form := by
  rw [sameMembers_iff, formMembers_eq, formMembers_eq, ← Std.ExtTreeMap.toList_inj,
    Std.ExtTreeMap.toList_map, Std.ExtTreeMap.toList_map]

end Value

theorem GraphNode.same_iff (first second : GraphNode) :
    first.same second = true ↔ first.form = second.form := by
  cases first
  cases second
  simp only [GraphNode.same, GraphNode.form, Bool.and_eq_true, decide_eq_true_eq, Value.same_iff,
    Value.sameParameters_iff, GraphNode.mk.injEq, and_assoc]

/-- A set of nodes has the nodes equal to one of its own. -/
def SameNodes (first second : List GraphNode) : Prop :=
  ∀ node, (∃ member ∈ first, member.same node = true) ↔ ∃ member ∈ second, member.same node = true

theorem sameNodes_iff {first second : List GraphNode} :
    SameNodes first second ↔ Difference.Same GraphNode.form first second := by
  simp only [SameNodes, Difference.Same, GraphNode.same_iff, List.mem_map]
  constructor
  · intro same x
    constructor
    · rintro ⟨node, listed, rfl⟩
      exact (same node).mp ⟨node, listed, rfl⟩
    · rintro ⟨node, listed, rfl⟩
      exact (same node).mpr ⟨node, listed, rfl⟩
  · intro same node
    exact same node.form

/-! ### What a difference lists -/

namespace IntelligenceGraph

section Listing

theorem collectNodes_eq {collected nodes : TextMap GraphNode} {items : List GraphNode}
    (passed : collectNodes collected items = .ok nodes) :
    items.foldl (fun collected node => collected.insert node.id node) collected = nodes := by
  induction items generalizing collected with
  | nil =>
      rw [collectNodes, Except.ok.injEq] at passed
      exact passed
  | cons node items ih =>
      simp only [collectNodes, after_ok] at passed
      rw [List.foldl_cons]
      exact ih passed.2.2

theorem byId_collected {graph : IntelligenceGraph} (valid : graph.validate = .ok ()) :
    Collected (byId graph.nodes) graph.nodes := by
  rw [validate_eq, bind_ok] at valid
  obtain ⟨nodes, checked, -⟩ := valid
  have loop := (checkNodes_ok.mp checked).2.2.2.2
  have collected := collectNodes_ok .nil loop
  rw [byId, collectNodes_eq loop]
  exact collected

theorem Collected.mem_iff {nodes : TextMap GraphNode} {items : List GraphNode}
    (collected : Collected nodes items) (id : String) : id ∈ nodes ↔ id ∈ items.map (·.id) := by
  rw [← not_iff_not, ← collected.fresh_iff, ← Bool.not_eq_true, Std.ExtTreeMap.contains_iff_mem]

theorem mem_sortTexts {texts : List String} {text : String} : text ∈ sortTexts texts ↔ text ∈ texts :=
  List.mem_mergeSort

theorem sortTexts_nodup {texts : List String} (distinct : texts.Nodup) : (sortTexts texts).Nodup :=
  (List.mergeSort_perm texts _).nodup_iff.mpr distinct

theorem mem_edgeSet {edges : List GraphEdge} {edge : GraphEdge} :
    edge ∈ edgeSet edges ↔ edge ∈ edges := by
  rw [edgeSet, Std.ExtTreeSet.mem_ofList, List.contains_iff_mem]

theorem mem_difference {first second : List GraphEdge} {edge : GraphEdge} :
    edge ∈ difference (edgeSet first) (edgeSet second) ↔ edge ∈ first ∧ edge ∉ second := by
  rw [difference, List.mem_filter, Std.ExtTreeSet.mem_toList, mem_edgeSet, Bool.not_eq_true',
    ← Bool.not_eq_true, Std.ExtTreeSet.contains_iff_mem, mem_edgeSet]

theorem difference_nodup (first second : Std.ExtTreeSet GraphEdge) :
    (difference first second).Nodup := by
  have distinct : first.toList.Nodup := by
    refine Std.ExtTreeSet.distinct_toList.imp ?_
    rintro edge other apart rfl
    exact apart Std.ReflCmp.compare_self
  exact distinct.filter _

end Listing

end IntelligenceGraph

namespace GraphDiff

def nodes (diff : GraphDiff) : Difference.Delta String :=
  ⟨diff.addedNodes, diff.removedNodes, diff.changedNodes⟩

/-- The nodes of the first graph without the removed ones, the changed ones in the version of
the second, and the added ones of the second. -/
def applyNodes (diff : GraphDiff) (first second : IntelligenceGraph) : List GraphNode :=
  diff.nodes.patch (·.id) first.nodes second.nodes

def applyEdges (diff : GraphDiff) (first : IntelligenceGraph) : List GraphEdge :=
  first.edges.filter (· ∉ diff.removedEdges) ++ diff.addedEdges

structure Consistent (diff : GraphDiff) : Prop where
  addedNodes : diff.addedNodes.Nodup
  removedNodes : diff.removedNodes.Nodup
  changedNodes : diff.changedNodes.Nodup
  addedEdges : diff.addedEdges.Nodup
  removedEdges : diff.removedEdges.Nodup
  nodes : diff.nodes.Disjoint
  edges : diff.addedEdges.Disjoint diff.removedEdges

end GraphDiff

namespace IntelligenceGraph

section Complete

variable {first second : IntelligenceGraph}

theorem diff_between (left : Collected (byId first.nodes) first.nodes)
    (right : Collected (byId second.nodes) second.nodes) :
    (first.diff second).nodes.Between (·.id) GraphNode.form first.nodes second.nodes where
  added id := by
    simp only [GraphDiff.nodes, diff, mem_sortTexts, List.mem_filter, Std.ExtTreeMap.mem_keys,
      right.mem_iff, Bool.not_eq_true', left.fresh_iff]
  removed id := by
    simp only [GraphDiff.nodes, diff, mem_sortTexts, List.mem_filter, Std.ExtTreeMap.mem_keys,
      left.mem_iff, Bool.not_eq_true', right.fresh_iff]
  changed id := by
    simp only [GraphDiff.nodes, diff, mem_sortTexts, List.mem_filterMap, Option.map_eq_some_iff,
      Option.filter_eq_some_iff, right.lookup, Prod.exists,
      Std.ExtTreeMap.mem_toList_iff_getElem?_eq_some, left.lookup, Bool.not_eq_true',
      ← Bool.not_eq_true, GraphNode.same_iff]
    constructor
    · rintro ⟨_, old, ⟨source, named⟩, new, ⟨⟨target, called⟩, differ⟩, rfl⟩
      exact ⟨old, source, new, target, named, called, fun same => differ same.symm⟩
    · rintro ⟨old, source, new, target, named, called, differ⟩
      exact ⟨id, old, ⟨source, named⟩, new, ⟨⟨target, called⟩, fun same => differ same.symm⟩, rfl⟩

theorem changed_nodup (first second : IntelligenceGraph) : (first.diff second).changedNodes.Nodup := by
  apply sortTexts_nodup
  rw [List.Nodup, List.pairwise_filterMap]
  refine Std.ExtTreeMap.distinct_keys_toList.imp ?_
  intro entry other apart id listed id' found same
  rw [Option.map_eq_some_iff] at listed found
  obtain ⟨-, -, named⟩ := listed
  obtain ⟨-, -, called⟩ := found
  subst named called
  exact apart (same ▸ Std.ReflCmp.compare_self)

theorem diff_consistent (left : Collected (byId first.nodes) first.nodes)
    (right : Collected (byId second.nodes) second.nodes) : (first.diff second).Consistent where
  addedNodes := sortTexts_nodup (Std.ExtTreeMap.nodup_keys.filter _)
  removedNodes := sortTexts_nodup (Std.ExtTreeMap.nodup_keys.filter _)
  changedNodes := changed_nodup first second
  addedEdges := difference_nodup _ _
  removedEdges := difference_nodup _ _
  nodes := (diff_between left right).disjoint
  edges := by
    intro edge added removed
    exact (mem_difference.mp added).2 (mem_difference.mp removed).1

theorem mem_applyEdges {edge : GraphEdge} :
    edge ∈ (first.diff second).applyEdges first ↔ edge ∈ second.edges := by
  simp only [GraphDiff.applyEdges, diff, List.mem_append, List.mem_filter, decide_eq_true_eq,
    mem_difference]
  by_cases source : edge ∈ first.edges <;> simp [source]

theorem applyEdges_nodup (unique : first.edges.Nodup) :
    ((first.diff second).applyEdges first).Nodup := by
  rw [GraphDiff.applyEdges, List.nodup_append]
  refine ⟨unique.filter _, difference_nodup _ _, ?_⟩
  rintro edge kept _ added rfl
  exact (mem_difference.mp added).2 (List.mem_filter.mp kept).1

/-- The edge lists are empty exactly when the graphs have the same edges. -/
theorem edges_empty_iff :
    ((first.diff second).addedEdges = [] ∧ (first.diff second).removedEdges = []) ↔
      ∀ edge, edge ∈ first.edges ↔ edge ∈ second.edges := by
  simp only [diff, List.eq_nil_iff_forall_not_mem, mem_difference, not_and, not_not]
  constructor
  · rintro ⟨added, removed⟩ edge
    exact ⟨removed edge, added edge⟩
  · intro same
    exact ⟨fun edge => (same edge).mpr, fun edge => (same edge).mp⟩

end Complete

/-- Applied to the first graph, a difference yields the nodes and the edges of the second. It
lists nothing twice, and nothing at all exactly when the graphs have the same nodes and edges. -/
theorem graph_diff_complete (first second : IntelligenceGraph) (valid : first.validate = .ok ())
    (others : second.validate = .ok ()) :
    SameNodes ((first.diff second).applyNodes first second) second.nodes ∧
      (((first.diff second).applyNodes first second).map (·.id)).Nodup ∧
      (∀ edge, edge ∈ (first.diff second).applyEdges first ↔ edge ∈ second.edges) ∧
      ((first.diff second).applyEdges first).Nodup ∧ (first.diff second).Consistent ∧
      (first.diff second = ⟨[], [], [], [], []⟩ ↔
        SameNodes first.nodes second.nodes ∧ ∀ edge, edge ∈ first.edges ↔ edge ∈ second.edges) := by
  have left := byId_collected valid
  have right := byId_collected others
  have between := diff_between left right
  refine ⟨?_, between.patched_nodup left.distinct right.distinct, fun edge => mem_applyEdges,
    applyEdges_nodup ((validate_ok_iff first).mp valid).unique, diff_consistent left right, ?_⟩
  · exact sameNodes_iff.mpr (between.patched right.distinct)
  · have determined : ∀ a b : GraphNode, a.form = b.form → a.id = b.id := by
      intro a b same
      show a.form.id = b.form.id
      rw [same]
    rw [sameNodes_iff, ← between.empty_iff right.distinct determined, ← edges_empty_iff]
    constructor
    · intro nothing
      rw [nothing]
      exact ⟨⟨rfl, rfl, rfl⟩, rfl, rfl⟩
    · rintro ⟨⟨addedNodes, removedNodes, changedNodes⟩, addedEdges, removedEdges⟩
      rw [GraphDiff.mk.injEq]
      exact ⟨addedNodes, removedNodes, changedNodes, addedEdges, removedEdges⟩

/-- A node that only computes. -/
def algorithmNode (id : String) (inputSchema : Value) : GraphNode where
  id := id
  kind := .Algorithm
  reference := ""
  capability := "math.evaluate"
  inputSchema := inputSchema
  outputSchema := .null
  resources := {}
  parameters := ∅
  sideEffects := []
  backend := ⟨.Native, "", "reference-math", ∅⟩

/-- A graph of two such nodes, and the edge from one to the other. -/
def algorithmGraph (second : String) (inputSchema : Value) : IntelligenceGraph :=
  ⟨1, "math-pipeline", "1.0.0", [algorithmNode "a" inputSchema, algorithmNode second .null],
    [⟨"a", second⟩], ∅⟩

theorem algorithmNode_valid {id : String} (identifier : validIdentifier id = true)
    (inputSchema : Value) : (algorithmNode id inputSchema).validate = .ok () := by
  have backend : BackendSpec.validate ⟨.Native, "", "reference-math", ∅⟩ = .ok () := by decide
  simp [GraphNode.validate, algorithmNode, identifier, backend, ensure, bind, Except.bind]

theorem algorithmGraph_valid {second : String} (identifier : validIdentifier second = true)
    (other : "a" ≠ second) (inputSchema : Value) :
    (algorithmGraph second inputSchema).validate = .ok () := by
  have named : isBlank "math-pipeline" = false := by decide
  have version : isBlank "1.0.0" = false := by decide
  refine (validate_ok_iff _).mpr ⟨rfl, named, version, List.cons_ne_nil _ _, ?_, ?_, ?_,
    List.nodup_singleton _, ?_⟩
  · intro node listed
    rcases List.mem_pair.mp listed with rfl | rfl
    · exact algorithmNode_valid (by decide) inputSchema
    · exact algorithmNode_valid identifier .null
  · exact List.nodup_cons.mpr ⟨by simpa [algorithmNode] using other, List.nodup_singleton _⟩
  · intro edge listed
    rw [List.mem_singleton.mp listed]
    have undeclared : declaredType .null = none := rfl
    refine ⟨other, _, .head _, _, .tail _ (.head _), rfl, rfl, ?_⟩
    intro output input declared
    exact absurd (undeclared.symm.trans declared) nofun
  · -- a path starts with the one edge and ends with it
    intro node path
    obtain ⟨_, first, _⟩ := Relation.TransGen.head'_iff.mp path
    obtain ⟨_, _, last⟩ := Relation.TransGen.tail'_iff.mp path
    have source : node = "a" := congrArg Prod.fst (List.mem_singleton.mp first)
    have target : node = second := congrArg Prod.snd (List.mem_singleton.mp last)
    exact other (source.symm.trans target)

/-- A node is replaced, another has its schema changed, and the edge moves along. -/
theorem graph_diff_complete_replaced :
    SameNodes (((algorithmGraph "b" .null).diff (algorithmGraph "c" (.string "object"))).applyNodes
        (algorithmGraph "b" .null) (algorithmGraph "c" (.string "object")))
      (algorithmGraph "c" (.string "object")).nodes ∧
    ∀ edge, edge ∈ ((algorithmGraph "b" .null).diff
        (algorithmGraph "c" (.string "object"))).applyEdges (algorithmGraph "b" .null) ↔
      edge = ⟨"a", "c"⟩ := by
  obtain ⟨nodes, -, edges, -⟩ := graph_diff_complete (algorithmGraph "b" .null)
    (algorithmGraph "c" (.string "object")) (algorithmGraph_valid (by decide) (by decide) _)
    (algorithmGraph_valid (by decide) (by decide) _)
  exact ⟨nodes, fun edge => (edges edge).trans List.mem_singleton⟩

end IntelligenceGraph

end NousKernel
