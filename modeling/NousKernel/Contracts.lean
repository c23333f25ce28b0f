import NousKernel.Admission
import NousKernel.Kahn
import NousKernel.OpenRuntime
import NousKernel.Ranking

/-!
The documents of the asset catalog and their checks: artifacts and models
(`nous-types/src/open_runtime.rs`), projects, graphs, datasets, experiments and model
profiles (`nous-intelligence`).
-/

set_option autoImplicit false

namespace NousKernel

/-- A number of `serde_json`. -/
inductive Number where
  | PosInt (value : Nat)
  | NegInt (value : Int)
  | Float (value : Binary64)
  deriving DecidableEq

/-- `serde_json::Value`: the members of an object are in the order of its map. -/
inductive Value where
  | null
  | bool (value : Bool)
  | number (value : Number)
  | string (text : String)
  | array (items : List Value)
  | object (members : List (String × Value))

namespace Value

/-- `value.get(key)`. -/
def get : Value → String → Option Value
  | .object members, key => (members.find? (·.1 = key)).map (·.2)
  | _, _ => none

def asStr : Value → Option String
  | .string text => some text
  | _ => none

def isNull : Value → Bool
  | .null => true
  | _ => false

mutual

/-- The arrays and objects around the innermost value. -/
def nesting : Value → Nat
  | .array items => 1 + nestingItems items
  | .object members => 1 + nestingMembers members
  | _ => 0

def nestingItems : List Value → Nat
  | [] => 0
  | item :: items => max item.nesting (nestingItems items)

def nestingMembers : List (String × Value) → Nat
  | [] => 0
  | (_, value) :: members => max value.nesting (nestingMembers members)

end

/-- The depth at which `serde_json` gives up on a text. -/
def recursionLimit : Nat := 128

/-- `from_slice` of a text of a value. -/
def fromSlice (value : Value) : Except String Value :=
  if recursionLimit ≤ value.nesting then .error "recursion limit exceeded" else .ok value

end Value

/-! ### Artifacts and models -/

structure ArtifactContract where
  schemaVersion : Nat
  id : String
  version : String
  mediaType : String
  location : String
  sha256 : String
  creator : String
  metadata : TextMap String
  deriving DecidableEq

def ArtifactContract.validate (self : ArtifactContract) : Except RuntimeContractError Unit := do
  schema "ArtifactContract" self.schemaVersion
  required "ArtifactContract" "id" self.id
  required "ArtifactContract" "version" self.version

inductive ModelKind where
  | Foundation | Vision | Speech | Embedding | Mathematical | Statistical | Optimization | Control
  | Simulation | Analytical | Custom
  deriving DecidableEq

structure ModelBackend where
  kind : String
  entrypoint : String
  runtime : String
  deriving DecidableEq

structure DeploymentSpec where
  mode : String
  target : String
  replicas : Nat
  deriving DecidableEq

structure EvaluationSpec where
  dataset : String
  metrics : List String
  thresholds : TextMap Binary64
  deriving DecidableEq

structure ModelSpec where
  schemaVersion : Nat
  id : String
  name : String
  kind : ModelKind
  version : String
  capabilities : List String
  inputSchema : Value
  outputSchema : Value
  backend : ModelBackend
  resourceRequirements : ResourceVector
  deployment : DeploymentSpec
  evaluation : EvaluationSpec
  artifacts : List ArtifactContract
  provenance : TextMap String
  compatibility : TextMap String
  security : TextMap String

/-- Whether a segment is among others is decided by its characters. -/
local instance lawfulSegments : LawfulBEq (List Char) := inferInstance

/-- A relative path without a parent component, as Unix reads paths. -/
def portablePath (value : String) : Bool :=
  value.toList.head? ≠ some '/' && ['.', '.'] ∉ value.toList.splitOn '/'

def portableReference (contract field value : String) : Except RuntimeContractError Unit :=
  check (portablePath value) contract field
    "must be a portable relative path without parent traversal"

def ModelSpec.validate (self : ModelSpec) : Except RuntimeContractError Unit := do
  let contract := "ModelSpec"
  schema contract self.schemaVersion
  required contract "id" self.id
  required contract "name" self.name
  required contract "version" self.version
  required contract "backend.kind" self.backend.kind
  if self.backend.entrypoint ≠ "" then
    portableReference contract "backend.entrypoint" self.backend.entrypoint
  check (self.capabilities ≠ [] && self.capabilities.all capabilityName) contract "capabilities"
    "must contain valid namespaced capability identifiers"
  self.artifacts.forM (·.validate)

/-! ### The checks of the intelligence contracts -/

inductive IntelligenceError where
  | Invalid (object field message : String)
  | Incompatible (object message : String)
  deriving DecidableEq

namespace IntelligenceError

def display : IntelligenceError → String
  | .Invalid object field message => "invalid " ++ object ++ " field '" ++ field ++ "': " ++ message
  | .Incompatible object message => "incompatible " ++ object ++ ": " ++ message

/-- The check passes, or the field is reported as invalid. -/
def ensure (passes : Bool) (object field message : String) : Except IntelligenceError Unit :=
  if passes then .ok () else .error (.Invalid object field message)

theorem ensure_ok {passes : Bool} {object field message : String} :
    ensure passes object field message = .ok () ↔ passes = true := by
  cases passes <;> simp [ensure]

def require (object field value : String) : Except IntelligenceError Unit :=
  ensure (!isBlank value) object field "must not be empty"

theorem require_ok {object field value : String} :
    require object field value = .ok () ↔ isBlank value = false := by
  rw [require, ensure_ok, Bool.not_eq_true']

def intelligenceSchemaVersion : Nat := 1

def schema (object : String) (version : Nat) : Except IntelligenceError Unit :=
  ensure (version = intelligenceSchemaVersion) object "schema_version"
    ("expected " ++ toString intelligenceSchemaVersion ++ ", found " ++ toString version)

/-- The check of a part, reported under a field of the whole. -/
def within (object field : String) (part : Except RuntimeContractError Unit) :
    Except IntelligenceError Unit :=
  part.mapError fun error => .Invalid object field error.display

end IntelligenceError

open IntelligenceError (ensure ensure_ok require require_ok within)

def validIdentifier (value : String) : Bool :=
  value ≠ "" &&
    (value.toList.all fun c => isAsciiAlphanumeric c || c = '-' || c = '_' || c = '.') &&
    value ≠ "." && value ≠ ".."

/-! ### Projects -/

structure ProjectReference where
  id : String
  path : String
  deriving DecidableEq

def ProjectReference.validate (self : ProjectReference) : Except IntelligenceError Unit := do
  require "ProjectReference" "id" self.id
  require "ProjectReference" "path" self.path
  ensure (portablePath self.path) "ProjectReference" "path"
    "must be a portable project-relative path without parent traversal"

structure ProjectManifest where
  schemaVersion : Nat
  id : String
  name : String
  version : String
  description : String
  license : String
  models : List ProjectReference
  algorithms : List ProjectReference
  datasets : List ProjectReference
  providers : List ProjectReference
  workflows : List ProjectReference
  policies : List ProjectReference
  experiments : List ProjectReference
  deployments : List ProjectReference
  secretRefs : TextMap String
  metadata : TextMap String
  deriving DecidableEq

def isAsciiUppercase (c : Char) : Bool := 'A' ≤ c && c ≤ 'Z'

/-- The name of an environment variable. -/
def environmentName (value : String) : Bool :=
  value ≠ "" &&
    (value.toList.all fun c => c = '_' || isAsciiUppercase c || isAsciiDigit c) &&
    (value.toList.head?.any fun c => c = '_' || isAsciiUppercase c)

namespace ProjectManifest

def references (self : ProjectManifest) : List ProjectReference :=
  self.models ++ self.algorithms ++ self.datasets ++ self.providers ++ self.workflows ++
    self.policies ++ self.experiments ++ self.deployments

def validate (self : ProjectManifest) : Except IntelligenceError Unit := do
  let object := "ProjectManifest"
  IntelligenceError.schema object self.schemaVersion
  ensure (validIdentifier self.id) object "id" "must use letters, digits, '.', '-' or '_'"
  require object "name" self.name
  require object "version" self.version
  require object "license" self.license
  self.references.forM (·.validate)
  self.secretRefs.toList.forM fun entry =>
    ensure (validIdentifier entry.1 && environmentName entry.2) object "secret_refs"
      "values must be environment-variable names; secret values are forbidden"

end ProjectManifest

/-! ### Datasets and experiments -/

structure DatasetSplit where
  name : String
  artifact : ArtifactContract
  schema : Value
  rows : Option Nat

def DatasetSplit.validate (self : DatasetSplit) : Except IntelligenceError Unit := do
  require "DatasetSplit" "name" self.name
  within "DatasetSplit" "artifact" self.artifact.validate

structure DatasetManifest where
  schemaVersion : Nat
  id : String
  version : String
  license : String
  splits : List DatasetSplit
  transforms : List String
  provenance : TextMap String
  quality : TextMap Binary64

namespace DatasetManifest

/-- The loop over the splits, with the names it has met. -/
def validateSplits : List String → List DatasetSplit → Except IntelligenceError Unit
  | _, [] => .ok ()
  | names, split :: splits => do
      split.validate
      ensure (split.name ∉ names) "DatasetManifest" "splits"
        ("duplicate split '" ++ split.name ++ "'")
      validateSplits (split.name :: names) splits

def validate (self : DatasetManifest) : Except IntelligenceError Unit := do
  let object := "DatasetManifest"
  IntelligenceError.schema object self.schemaVersion
  ensure (validIdentifier self.id) object "id" "invalid identifier"
  require object "version" self.version
  require object "license" self.license
  ensure (!self.splits.isEmpty) object "splits" "must contain at least one split"
  validateSplits [] self.splits
  ensure (self.quality.toList.all (·.2.isFinite)) object "quality" "quality values must be finite"

end DatasetManifest

inductive MetricValue where
  | Number (value : Binary64)
  | Text (value : String)
  | Boolean (value : Bool)
  deriving DecidableEq

/-- A number that is no number, or infinite. -/
def MetricValue.unbounded : MetricValue → Bool
  | .Number value => !value.isFinite
  | _ => false

inductive ExperimentStatus where
  | Created | Queued | Running | Paused | Completed | Failed | Cancelled
  deriving DecidableEq

structure ExperimentManifest where
  schemaVersion : Nat
  id : String
  version : String
  model : String
  dataset : String
  codeRevision : String
  runtimeVersion : String
  seed : Nat
  status : ExperimentStatus
  parameters : TextMap Value
  resources : ResourceVector
  environment : TextMap String
  metrics : TextMap MetricValue
  artifacts : List ArtifactContract

def ExperimentManifest.validate (self : ExperimentManifest) : Except IntelligenceError Unit := do
  let object := "ExperimentManifest"
  IntelligenceError.schema object self.schemaVersion
  ensure (validIdentifier self.id) object "id" "invalid identifier"
  [("version", self.version), ("model", self.model), ("dataset", self.dataset),
    ("code_revision", self.codeRevision), ("runtime_version", self.runtimeVersion)].forM
      fun entry => require object entry.1 entry.2
  ensure (!self.metrics.toList.any (·.2.unbounded)) object "metrics"
    "numeric metrics must be finite"
  self.artifacts.forM fun artifact => within object "artifacts" artifact.validate

/-! ### Model profiles -/

structure ArchitectureMetadata where
  architectureId : String
  layers : Option Nat
  hiddenDimension : Option Nat
  attention : String
  experts : Option Nat
  activation : String
  contextLength : Option Nat
  tokenizerDigest : String
  tensorShapesDigest : String
  deriving DecidableEq

inductive ModelExtension where
  | None
  | Llm (contextLength : Nat) (tokenizer precision : String) (generation : TextMap Value)
  | Vision (inputShape : List Nat) (classes preprocessing postprocessing : List String)
  | Mathematical (solver : String) (variableNames : List String) (parameters : TextMap Value)
      (initialConditions : TextMap Binary64) (tolerance : Binary64)
  | Control (samplingPeriodSeconds : Binary64) (stateDimension controlDimension : Nat)
      (stability : TextMap String)
  | Custom (name : String) (values : TextMap Value)

structure LicenseGrant where
  id : String
  source : String
  derivativeWorks : Option Bool
  redistribution : Option Bool
  commercialUse : Option Bool
  deriving DecidableEq

structure ModelProfile where
  schemaVersion : Nat
  model : ModelSpec
  architecture : ArchitectureMetadata
  extension : ModelExtension
  license : LicenseGrant
  adapters : List String
  quantization : String
  datasetLineage : List String
  status : String

/-- `value.is_finite()` and `value > 0.0`. -/
def Binary64.finitePositive (value : Binary64) : Bool := value.isFinite && 0 < value.numberKey

namespace ModelExtension

/-- The extension is one for models of the kind. -/
def suits (kind : ModelKind) (self : ModelExtension) : Except IntelligenceError Unit :=
  match kind, self with
  | .Vision, .Vision inputShape _ _ _ =>
      ensure (inputShape ≠ []) "ModelProfile" "extension.input_shape"
        "vision input shape must not be empty"
  | .Foundation, .Llm .. => .ok ()
  | .Mathematical, .Mathematical .. => .ok ()
  | .Statistical, .Mathematical .. => .ok ()
  | .Optimization, .Mathematical .. => .ok ()
  | .Control, .Control .. => .ok ()
  | _, .Custom .. => .ok ()
  | _, .None => .ok ()
  | _, _ => .error (.Invalid "ModelProfile" "extension"
      "extension type is incompatible with ModelSpec kind")

def validate : ModelExtension → Except IntelligenceError Unit
  | .Llm contextLength tokenizer precision _ => do
      ensure (contextLength ≠ 0) "ModelProfile" "extension.context_length" "must be positive"
      require "ModelProfile" "extension.tokenizer" tokenizer
      require "ModelProfile" "extension.precision" precision
  | .Mathematical solver _ _ _ tolerance => do
      require "ModelProfile" "extension.solver" solver
      ensure tolerance.finitePositive "ModelProfile" "extension.tolerance"
        "must be finite and positive"
  | .Control samplingPeriodSeconds _ _ _ =>
      ensure samplingPeriodSeconds.finitePositive "ModelProfile"
        "extension.sampling_period_seconds" "must be finite and positive"
  | _ => .ok ()

end ModelExtension

def ModelProfile.validate (self : ModelProfile) : Except IntelligenceError Unit := do
  let object := "ModelProfile"
  IntelligenceError.schema object self.schemaVersion
  within object "model" self.model.validate
  require object "architecture.architecture_id" self.architecture.architectureId
  require object "license.id" self.license.id
  require object "license.source" self.license.source
  self.extension.suits self.model.kind
  self.extension.validate

/-! ### Graphs -/

inductive BackendKind where
  | RemoteApi | Python | Native | Onnx | Pytorch | Container | Wasm | Device | Human | Custom
  deriving DecidableEq

structure BackendSpec where
  kind : BackendKind
  provider : String
  entrypoint : String
  configuration : TextMap String
  deriving DecidableEq

def BackendSpec.validate (self : BackendSpec) : Except IntelligenceError Unit := do
  if self.kind ∈ [.RemoteApi, .Device] then
    require "BackendSpec" "provider" self.provider
  if self.kind ∈ [.Python, .Native, .Onnx, .Pytorch, .Container, .Wasm, .Custom] then
    require "BackendSpec" "entrypoint" self.entrypoint
  ensure (!containsText self.entrypoint "..") "BackendSpec" "entrypoint" "parent traversal is not allowed"

inductive NodeKind where
  | Model | Algorithm | Preprocessor | Postprocessor | Router | Adapter | Verifier | Solver | Tool
  | Device | Human
  deriving DecidableEq

inductive SideEffectDeclaration where
  | None | FilesystemRead | FilesystemWrite | Network | DeviceRead | DeviceWrite | HumanApproval
  | Custom (name : String)
  deriving DecidableEq

structure GraphNode where
  id : String
  kind : NodeKind
  reference : String
  capability : String
  inputSchema : Value
  outputSchema : Value
  resources : ResourceVector
  parameters : TextMap Value
  sideEffects : List SideEffectDeclaration
  backend : BackendSpec

def GraphNode.validate (self : GraphNode) : Except IntelligenceError Unit := do
  ensure (validIdentifier self.id) "GraphNode" "id" "must use letters, digits, '.', '-' or '_'"
  ensure ('.' ∈ self.capability.toList) "GraphNode" "capability"
    "must be a namespaced capability identifier"
  if self.kind ∈ [.Model, .Tool, .Device] then
    require "GraphNode" "reference" self.reference
  self.backend.validate

structure GraphEdge where
  fromId : String
  toId : String
  deriving DecidableEq

structure IntelligenceGraph where
  schemaVersion : Nat
  id : String
  version : String
  nodes : List GraphNode
  edges : List GraphEdge
  metadata : TextMap String

def validateSchemaConnection (output input : Value) : Except String Unit :=
  match (output.get "type").bind Value.asStr, (input.get "type").bind Value.asStr with
  | some outputType, some inputType =>
      if outputType ≠ inputType then
        .error ("output type '" ++ outputType ++ "' does not match input type '" ++ inputType ++ "'")
      else .ok ()
  | _, _ => .ok ()

namespace IntelligenceGraph

/-- The loop over the nodes, which collects them by their ids. -/
def collectNodes : TextMap GraphNode → List GraphNode →
    Except IntelligenceError (TextMap GraphNode)
  | collected, [] => .ok collected
  | collected, node :: nodes => do
      node.validate
      ensure (!collected.contains node.id) "IntelligenceGraph" "nodes"
        ("duplicate node '" ++ node.id ++ "'")
      collectNodes (collected.insert node.id node) nodes

def known (nodes : TextMap GraphNode) (id message : String) : Except IntelligenceError GraphNode :=
  match nodes[id]? with
  | some node => .ok node
  | none => .error (.Invalid "IntelligenceGraph" "edges" message)

/-- The loop over the edges, with the edges it has met. -/
def validateEdges (nodes : TextMap GraphNode) : List (String × String) → List GraphEdge →
    Except IntelligenceError Unit
  | _, [] => .ok ()
  | unique, edge :: edges => do
      let object := "IntelligenceGraph"
      ensure (edge.fromId ≠ edge.toId) object "edges" ("self-cycle at '" ++ edge.fromId ++ "'")
      let first ← known nodes edge.fromId ("unknown source node '" ++ edge.fromId ++ "'")
      let second ← known nodes edge.toId ("unknown target node '" ++ edge.toId ++ "'")
      ensure ((edge.fromId, edge.toId) ∉ unique) object "edges"
        ("duplicate edge '" ++ edge.fromId ++ " -> " ++ edge.toId ++ "'")
      (validateSchemaConnection first.outputSchema second.inputSchema).mapError fun message =>
        .Invalid object "edges" (edge.fromId ++ " -> " ++ edge.toId ++ ": " ++ message)
      validateEdges nodes ((edge.fromId, edge.toId) :: unique) edges

/-- The nodes that the loop over the queue visits. -/
def visited (nodes : TextMap GraphNode) (edges : List GraphEdge) : List String :=
  Kahn.sort nodes.keys (edges.map fun edge => (edge.fromId, edge.toId))

def validate (self : IntelligenceGraph) : Except IntelligenceError Unit := do
  let object := "IntelligenceGraph"
  IntelligenceError.schema object self.schemaVersion
  require object "id" self.id
  require object "version" self.version
  ensure (!self.nodes.isEmpty) object "nodes" "must contain at least one node"
  let nodes ← collectNodes ∅ self.nodes
  validateEdges nodes [] self.edges
  ensure ((visited nodes self.edges).length = nodes.size) object "edges" "graph contains a cycle"

end IntelligenceGraph

end NousKernel
