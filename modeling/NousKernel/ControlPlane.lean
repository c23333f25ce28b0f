import NousKernel.Contracts

/-!
The asset catalog of the control plane (`nous-control-plane/src/lib.rs`): its table and the
calls on it. `serde_json` and the decoders that `serde` derives are parameters. A call
that fails inside its transaction leaves the table as it was.
-/

set_option autoImplicit false

namespace NousKernel

inductive AssetKind where
  | Project | Model | Graph | Dataset | Experiment | Artifact
  deriving DecidableEq

def AssetKind.asStr : AssetKind → String
  | .Project => "project"
  | .Model => "model"
  | .Graph => "graph"
  | .Dataset => "dataset"
  | .Experiment => "experiment"
  | .Artifact => "artifact"

structure PutAssetRequest where
  schemaVersion : Nat
  kind : AssetKind
  document : Value
  expectedGeneration : Option Nat

structure AssetSelector where
  schemaVersion : Nat
  kind : AssetKind
  id : String

structure ListAssetsRequest where
  schemaVersion : Nat
  kind : AssetKind

structure ControlAsset where
  schemaVersion : Nat
  kind : AssetKind
  id : String
  version : String
  generation : Nat
  sha256 : String
  document : Value
  createdAtUs : Int
  updatedAtUs : Int

inductive ControlPlaneError where
  | Invalid (message : String)
  | NotFound (kind id : String)
  | Conflict (message : String)
  | Storage (message : String)
  deriving DecidableEq

/-- The texts of documents, and the derived decoders of the asset kinds. -/
structure Serde where
  toString : Value → Except String String
  fromStr : String → Except String Value
  projectManifest : Value → Except String ProjectManifest
  modelProfile : Value → Except String ModelProfile
  modelSpec : Value → Except String ModelSpec
  intelligenceGraph : Value → Except String IntelligenceGraph
  datasetManifest : Value → Except String DatasetManifest
  experimentManifest : Value → Except String ExperimentManifest
  artifactContract : Value → Except String ArtifactContract

/-- A text that is read gives the document it was written from. -/
def Serde.Sound (serde : Serde) : Prop :=
  ∀ document text other, serde.toString document = .ok text → serde.fromStr text = .ok other →
    other = document

/-! ### Checks -/

def controlApiSchemaVersion : Nat := 1

def checkSchema (version : Nat) : Except ControlPlaneError Unit :=
  if version = controlApiSchemaVersion then .ok ()
  else .error (.Invalid ("expected schema version " ++ toString controlApiSchemaVersion ++
    ", found " ++ toString version))

def requiredField (field value : String) : Except ControlPlaneError Unit :=
  if isBlank value then .error (.Invalid (field ++ " must not be empty")) else .ok ()

def secretFields : List String :=
  ["api_key", "token", "secret", "password", "access_token", "session_token"]

def toAsciiLowercase (c : Char) : Char :=
  if isAsciiUppercase c then Char.ofNat (c.toNat + 32) else c

/-- `key.to_ascii_lowercase().replace('-', "_")`. -/
def normalizedKey (key : String) : String :=
  String.ofList ((key.toList.map toAsciiLowercase).map fun c => if c = '-' then '_' else c)

def embedsSecret (key : String) (value : Value) : Bool :=
  normalizedKey key ∈ secretFields && !value.isNull && value.asStr ≠ some ""

def embeddedSecret (key : String) : ControlPlaneError :=
  .Invalid ("embedded secret field '" ++ key ++ "' is forbidden; use an environment reference")

mutual

def rejectEmbeddedSecrets : Value → Except ControlPlaneError Unit
  | .object members => rejectMembers members
  | .array items => rejectItems items
  | _ => .ok ()

def rejectMembers : List (String × Value) → Except ControlPlaneError Unit
  | [] => .ok ()
  | (key, value) :: members =>
      if embedsSecret key value then .error (embeddedSecret key)
      else do
        rejectEmbeddedSecrets value
        rejectMembers members

def rejectItems : List Value → Except ControlPlaneError Unit
  | [] => .ok ()
  | value :: items => do
      rejectEmbeddedSecrets value
      rejectItems items

end

/-- A document decoded as its kind and checked, with the identity it gives. -/
def checked {T : Type} (reader : Value → Except String T) (validate : T → Except String Unit)
    (identity : T → String × String) (document : Value) :
    Except ControlPlaneError (String × String) := do
  let value ← (reader document).mapError .Invalid
  (validate value).mapError .Invalid
  return identity value

/-- The error of a check as text. -/
def asText {ε : Type} (display : ε → String) (result : Except ε Unit) : Except String Unit :=
  result.mapError display

def validateDocument (serde : Serde) (kind : AssetKind) (document : Value) :
    Except ControlPlaneError (String × String) :=
  match kind with
  | .Project => checked serde.projectManifest
      (asText IntelligenceError.display ·.validate) (fun value => (value.id, value.version)) document
  | .Model =>
      match serde.modelProfile document with
      | .ok profile => checked (fun _ => .ok profile)
          (asText IntelligenceError.display ·.validate)
          (fun value => (value.model.id, value.model.version)) document
      | .error _ => checked serde.modelSpec
          (asText RuntimeContractError.display ·.validate)
          (fun value => (value.id, value.version)) document
  | .Graph => checked serde.intelligenceGraph
      (asText IntelligenceError.display ·.validate) (fun value => (value.id, value.version)) document
  | .Dataset => checked serde.datasetManifest
      (asText IntelligenceError.display ·.validate) (fun value => (value.id, value.version)) document
  | .Experiment => checked serde.experimentManifest
      (asText IntelligenceError.display ·.validate) (fun value => (value.id, value.version)) document
  | .Artifact => checked serde.artifactContract
      (asText RuntimeContractError.display ·.validate) (fun value => (value.id, value.version))
      document

/-! ### The table -/

/-- A row of `control_assets`, found under its kind and id. -/
structure AssetRow where
  version : String
  generation : Int
  sha256 : String
  document : String
  createdAtUs : Int
  updatedAtUs : Int
  deriving DecidableEq

structure Catalog where
  rows : AssetKind → TextMap AssetRow

namespace Catalog

def blank : Catalog := ⟨fun _ => ∅⟩

def find (catalog : Catalog) (kind : AssetKind) (id : String) : Option AssetRow :=
  (catalog.rows kind)[id]?

def write (catalog : Catalog) (kind : AssetKind) (id : String) (row : AssetRow) : Catalog :=
  ⟨Function.update catalog.rows kind ((catalog.rows kind).insert id row)⟩

def erase (catalog : Catalog) (kind : AssetKind) (id : String) : Catalog :=
  ⟨Function.update catalog.rows kind ((catalog.rows kind).erase id)⟩

end Catalog

/-- What fails in the storage during a call: its read, its write, its commit. -/
structure StorageFaults where
  reading : Option String := none
  writing : Option String := none
  committing : Option String := none

def storageResult (fault : Option String) : Except ControlPlaneError Unit :=
  match fault with
  | some message => .error (.Storage message)
  | none => .ok ()

variable (serde : Serde)

def rowToAsset (kind : AssetKind) (id : String) (row : AssetRow) : Except String ControlAsset := do
  let generation ← integerColumn 3 row.generation
  let document ← (serde.fromStr row.document).mapError
    ("Conversion error from type Text at index: 5, " ++ ·)
  return {
    schemaVersion := controlApiSchemaVersion
    kind := kind
    id := id
    version := row.version
    generation := generation
    sha256 := row.sha256
    document := document
    createdAtUs := row.createdAtUs
    updatedAtUs := row.updatedAtUs }

def selectAsset (catalog : Catalog) (kind : AssetKind) (id : String) (fault : Option String) :
    Except ControlPlaneError (Option ControlAsset) := do
  storageResult fault
  match catalog.find kind id with
  | some row =>
      let asset ← (rowToAsset serde kind id row).mapError .Storage
      return some asset
  | none => return none

namespace ControlPlaneStore

def staleGeneration (id : String) (generation : Nat) : ControlPlaneError :=
  .Conflict (id ++ " generation is " ++ toString generation ++
    "; expected_generation is required for update")

/-- The asset that `put` answers with when it has written a row. -/
def written (request : PutAssetRequest) (id version sha256 : String) (generation : Nat)
    (createdAtUs now : Int) : ControlAsset where
  schemaVersion := controlApiSchemaVersion
  kind := request.kind
  id := id
  version := version
  generation := generation
  sha256 := sha256
  document := request.document
  createdAtUs := createdAtUs
  updatedAtUs := now

/-- The transaction of `put`: the asset it answers with, and the table it commits. -/
def putRow (catalog : Catalog) (request : PutAssetRequest) (id version encoded : String)
    (now : Int) (faults : StorageFaults) : Except ControlPlaneError (ControlAsset × Catalog) := do
  let sha256 := hexDigest (asBytes encoded)
  match ← selectAsset serde catalog request.kind id faults.reading with
  | some existing =>
      if existing.sha256 = sha256 then
        storageResult faults.committing
        return (existing, catalog)
      else if request.expectedGeneration ≠ some existing.generation then
        throw (staleGeneration id existing.generation)
      else
        let generation := min (existing.generation + 1) u64Max
        let column ← (integerParam generation).mapError .Storage
        storageResult faults.writing
        storageResult faults.committing
        return (written request id version sha256 generation existing.createdAtUs now,
          catalog.write request.kind id
            ⟨version, column, sha256, encoded, existing.createdAtUs, now⟩)
  | none =>
      if request.expectedGeneration.isSome then
        throw (.Conflict "expected_generation cannot be set when creating an asset")
      else
        storageResult faults.writing
        storageResult faults.committing
        return (written request id version sha256 1 now now,
          catalog.write request.kind id ⟨version, 1, sha256, encoded, now, now⟩)

def tryPut (catalog : Catalog) (request : PutAssetRequest) (now : Int) (faults : StorageFaults) :
    Except ControlPlaneError (ControlAsset × Catalog) := do
  checkSchema request.schemaVersion
  rejectEmbeddedSecrets request.document
  let (id, version) ← validateDocument serde request.kind request.document
  let encoded ← (serde.toString request.document).mapError .Invalid
  putRow serde catalog request id version encoded now faults

/-- `put`: its answer, and the table after it. -/
def put (catalog : Catalog) (request : PutAssetRequest) (now : Int) (faults : StorageFaults) :
    Except ControlPlaneError ControlAsset × Catalog :=
  match tryPut serde catalog request now faults with
  | .ok (asset, committed) => (.ok asset, committed)
  | .error e => (.error e, catalog)

def validate (kind : AssetKind) (document : Value) :
    Except ControlPlaneError (String × String × String) := do
  rejectEmbeddedSecrets document
  let (id, version) ← validateDocument serde kind document
  let encoded ← (serde.toString document).mapError .Invalid
  return (id, version, hexDigest (asBytes encoded))

def get (catalog : Catalog) (selector : AssetSelector) (faults : StorageFaults) :
    Except ControlPlaneError ControlAsset := do
  checkSchema selector.schemaVersion
  requiredField "id" selector.id
  match ← selectAsset serde catalog selector.kind selector.id faults.reading with
  | some asset => return asset
  | none => throw (.NotFound selector.kind.asStr selector.id)

def list (catalog : Catalog) (request : ListAssetsRequest) (faults : StorageFaults) :
    Except ControlPlaneError (List ControlAsset) := do
  checkSchema request.schemaVersion
  storageResult faults.reading
  (catalog.rows request.kind).toList.mapM fun entry =>
    (rowToAsset serde request.kind entry.1 entry.2).mapError .Storage

/-- The first half of `delete`, up to the release of the lock. -/
def deleteCheck (catalog : Catalog) (selector : AssetSelector) (expectedGeneration : Nat)
    (faults : StorageFaults) : Except ControlPlaneError Unit := do
  let asset ← get serde catalog selector faults
  if asset.generation ≠ expectedGeneration then
    throw (.Conflict (asset.id ++ " generation is " ++ toString asset.generation ++ ", not " ++
      toString expectedGeneration))

/-- The second half of `delete`: its statement finds the table as the calls of the
other clients left it meanwhile. -/
def deleteRow (catalog : Catalog) (selector : AssetSelector) (expectedGeneration : Nat)
    (faults : StorageFaults) : Except ControlPlaneError Unit × Catalog :=
  match (integerParam expectedGeneration).mapError .Storage, storageResult faults.writing with
  | .error e, _ => (.error e, catalog)
  | _, .error e => (.error e, catalog)
  | .ok generation, .ok () =>
      match catalog.find selector.kind selector.id with
      | some row =>
          if row.generation = generation then
            (.ok (), catalog.erase selector.kind selector.id)
          else (.error (.Conflict "asset changed during deletion"), catalog)
      | none => (.error (.Conflict "asset changed during deletion"), catalog)

end ControlPlaneStore

end NousKernel
