import NousKernel.Catalog

/-!
Model registration over the wire (`daemon/nousd/src/main.rs`): the handler takes the
member "model" of a payload for the document where there is one. A model profile has
such a member itself.
-/

set_option autoImplicit false

namespace NousKernel

open ControlPlaneStore Results

/-- `as_u64`. -/
def Value.asU64 : Value → Option Nat
  | .number (.PosInt value) => some value
  | _ => none

/-- `payload.get("model").unwrap_or(payload)`. -/
def modelDocument (payload : Value) : Value := (payload.get "model").getD payload

/-- REGISTER_MODEL, on the value that the bytes of the payload are a text of. A text that
is not read ends the connection. -/
def registerModel (serde : Serde) (catalog : Catalog) (payload : Value) (now : Int)
    (faults : StorageFaults) :
    Except String (Except ControlPlaneError ControlAsset) × Catalog :=
  match payload.fromSlice with
  | .error reason => (.error reason, catalog)
  | .ok payload =>
      let (answer, catalog) := put serde catalog
        { schemaVersion := 1
          kind := .Model
          document := modelDocument payload
          expectedGeneration := (payload.get "expected_generation").bind Value.asU64 } now faults
      (.ok answer, catalog)

/-- VALIDATE_MODEL. -/
def validateModel (serde : Serde) (payload : Value) :
    Except String (Except ControlPlaneError (String × String × String)) := do
  let payload ← payload.fromSlice
  return ControlPlaneStore.validate serde .Model (modelDocument payload)

/-- The payload that names its document. -/
def wrapped (document : Value) : Value := .object [("model", document)]

@[simp] theorem modelDocument_wrapped (document : Value) :
    modelDocument (wrapped document) = document := by
  simp [modelDocument, wrapped, Value.get]

theorem expectedGeneration_wrapped (document : Value) :
    (wrapped document).get "expected_generation" = none := by
  simp [wrapped, Value.get]

theorem nesting_wrapped (document : Value) :
    (wrapped document).nesting = document.nesting + 1 := by
  simp [wrapped, Value.nesting, Value.nestingMembers, Nat.add_comm]

theorem Value.fromSlice_ok {payload read : Value} :
    payload.fromSlice = .ok read ↔ payload.nesting < recursionLimit ∧ read = payload := by
  unfold Value.fromSlice
  split_ifs with deep
  · simp [Nat.not_lt.mpr deep]
  · simp [Nat.not_le.mp deep, eq_comm]

/-- What a payload has to do to be the document: it registers as the document does in every
state of the catalog, where the id is new the document is stored, and validation reports
its identity and digest. -/
structure Registers (serde : Serde) (payload document : Value) (id version encoded : String) :
    Prop where
  same : ∀ catalog now faults,
    let (answer, left) :=
      put serde catalog ⟨controlApiSchemaVersion, .Model, document, none⟩ now faults
    registerModel serde catalog payload now faults = (.ok answer, left)
  stored : ∀ catalog now, catalog.find .Model id = none →
    ∃ asset left row, registerModel serde catalog payload now {} = (.ok (.ok asset), left) ∧
      asset.document = document ∧ left.find .Model id = some row ∧ row.document = encoded
  reported : validateModel serde payload = .ok (.ok (id, version, hexDigest (asBytes encoded)))

section

variable {serde : Serde} {document payload : Value} {id version encoded : String}

theorem Value.get_ne {member : Value} {key : String} (found : document.get key = some member) :
    member ≠ document := by
  intro same
  cases document with
  | object members =>
      rw [Value.get, Option.map_eq_some_iff] at found
      obtain ⟨entry, held, rfl⟩ := found
      have inside := List.sizeOf_lt_of_mem (List.mem_of_find?_eq_some held)
      have sizes := congrArg sizeOf same
      obtain ⟨name, value⟩ := entry
      simp only [Value.object.sizeOf_spec, Prod.mk.sizeOf_spec] at sizes inside
      omega
  | _ => simp [Value.get] at found

theorem registerModel_eq (parsed : payload.nesting < Value.recursionLimit)
    (names : modelDocument payload = document)
    (unset : (payload.get "expected_generation").bind Value.asU64 = none) (catalog : Catalog)
    (now : Int) (faults : StorageFaults) :
    registerModel serde catalog payload now faults =
      (.ok (put serde catalog ⟨controlApiSchemaVersion, .Model, document, none⟩ now faults).1,
        (put serde catalog ⟨controlApiSchemaVersion, .Model, document, none⟩ now faults).2) := by
  rw [registerModel, Value.fromSlice_ok.mpr ⟨parsed, rfl⟩]
  simp only [names, unset]
  rfl

theorem validateModel_ok {report : String × String × String} :
    validateModel serde payload = .ok (.ok report) ↔
      payload.nesting < Value.recursionLimit ∧
        ControlPlaneStore.validate serde .Model (modelDocument payload) = .ok report := by
  simp only [validateModel, bind_ok, Value.fromSlice_ok, pure, Except.pure, Except.ok.injEq]
  constructor
  · rintro ⟨_, ⟨parsed, rfl⟩, reported⟩
    exact ⟨parsed, reported⟩
  · rintro ⟨parsed, reported⟩
    exact ⟨payload, ⟨parsed, rfl⟩, reported⟩

theorem registers_of_document (clean : rejectEmbeddedSecrets document = .ok ())
    (valid : validateDocument serde .Model document = .ok (id, version))
    (text : serde.toString document = .ok encoded)
    (parsed : payload.nesting < Value.recursionLimit) (names : modelDocument payload = document)
    (unset : (payload.get "expected_generation").bind Value.asU64 = none) :
    Registers serde payload document id version encoded where
  same := registerModel_eq parsed names unset
  stored catalog now absent := by
    have answered : registerModel serde catalog payload now {} = _ :=
      registerModel_eq parsed names unset catalog now {}
    rw [put_create absent clean valid text now] at answered
    exact ⟨_, _, _, answered, rfl, by rw [Catalog.find_write, if_pos ⟨rfl, rfl⟩], rfl⟩
  reported := by
    rw [validateModel_ok, names, validate_ok]
    exact ⟨parsed, clean, valid, encoded, text, rfl⟩

/-- What a registration that answers has put. -/
theorem put_of_registerModel {catalog left : Catalog} {now : Int} {faults : StorageFaults}
    {asset : ControlAsset}
    (answered : registerModel serde catalog payload now faults = (.ok (.ok asset), left)) :
    put serde catalog ⟨1, .Model, modelDocument payload,
      (payload.get "expected_generation").bind Value.asU64⟩ now faults = (.ok asset, left) := by
  unfold registerModel at answered
  cases read : payload.fromSlice with
  | error reason => simp [read] at answered
  | ok parsed =>
      obtain ⟨-, rfl⟩ := Value.fromSlice_ok.mp read
      simp only [read, Prod.mk.injEq, Except.ok.injEq] at answered
      exact Prod.ext answered.1 answered.2

/-- A document that registers as itself is taken whole: on a blank catalog the asset carries
what the handler took for the document. -/
theorem Registers.whole (registers : Registers serde document document id version encoded) :
    document.get "model" = none ∧
      (document.get "expected_generation").bind Value.asU64 = none := by
  obtain ⟨asset, left, row, answered, own, -, -⟩ := registers.stored .blank 0 (Catalog.find_blank _ _)
  obtain ⟨id', version', encoded', clean, valid, text, puts⟩ :=
    put_ok (put_of_registerModel answered)
  cases puts with
  | same found => exact absurd (found.symm.trans (Catalog.find_blank _ _)) nofun
  | update found => exact absurd (found.symm.trans (Catalog.find_blank _ _)) nofun
  | create absent unset =>
      refine ⟨?_, unset⟩
      cases member : document.get "model" with
      | none => rfl
      | some inner =>
          have taken : modelDocument document = document := own
          rw [modelDocument, member, Option.getD_some] at taken
          exact absurd taken (Value.get_ne member)

end

mutual

/-- The text of a document without fractions and nulls. -/
def Value.plain : Value → Option Json
  | .bool value => some (.bool value)
  | .number (.PosInt value) => some (.num value)
  | .string text => some (.str text)
  | .array items => (Value.plainItems items).map .arr
  | .object members => (Value.plainMembers members).map .obj
  | _ => none

def Value.plainItems : List Value → Option (List Json)
  | [] => some []
  | item :: items => do
      let first ← item.plain
      let rest ← Value.plainItems items
      return first :: rest

def Value.plainMembers : List (String × Value) → Option (List (String × Json))
  | [] => some []
  | (key, value) :: members => do
      let first ← value.plain
      let rest ← Value.plainMembers members
      return (key, first) :: rest

end

def specDocument : Value :=
  .object [("backend", .object [("kind", .string "reference")]),
    ("capabilities", .array [.string "text.generate"]), ("id", .string "m"), ("name", .string "m"),
    ("schema_version", .number (.PosInt 1)), ("version", .string "1")]

def profileDocument : Value :=
  .object [("architecture", .object [("architecture_id", .string "a")]),
    ("extension", .object [("type", .string "none")]),
    ("license", .object [("id", .string "l"), ("source", .string "s")]), ("model", specDocument),
    ("schema_version", .number (.PosInt 1))]

def sampleSpec : ModelSpec where
  schemaVersion := 1
  id := "m"
  name := "m"
  kind := .Custom
  version := "1"
  capabilities := ["text.generate"]
  inputSchema := .null
  outputSchema := .null
  backend := ⟨"reference", "", ""⟩
  resourceRequirements := {}
  deployment := ⟨"", "", 0⟩
  evaluation := ⟨"", [], ∅⟩
  artifacts := []
  provenance := ∅
  compatibility := ∅
  security := ∅

def sampleProfile : ModelProfile where
  schemaVersion := 1
  model := sampleSpec
  architecture := ⟨"a", none, none, "", none, "", none, "", ""⟩
  extension := .None
  license := ⟨"l", "s", none, none, none⟩
  adapters := []
  quantization := ""
  datasetLineage := []
  status := ""

/-- The texts of plain documents, and the decoders on the two documents. -/
def modelSerde : Serde where
  toString document :=
    match document.plain with
    | some json => .ok json.text
    | none => .error "not a plain document"
  fromStr _ := .error "not read"
  projectManifest _ := .error "not a project"
  modelProfile document :=
    match document.get "model" with
    | some _ => .ok sampleProfile
    | none => .error "missing field model"
  modelSpec document :=
    match document.get "model" with
    | some _ => .error "unknown field model"
    | none => .ok sampleSpec
  intelligenceGraph _ := .error "not a graph"
  datasetManifest _ := .error "not a dataset"
  experimentManifest _ := .error "not an experiment"
  artifactContract _ := .error "not an artifact"

theorem profileDocument_valid :
    validateDocument modelSerde .Model profileDocument = .ok ("m", "1") := rfl

end NousKernel
