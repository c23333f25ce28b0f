import NousKernel.Catalog

/-!
Compare-and-swap on the generation of an asset. A delete forgets the generation, and an
asset that is created again starts at 1, so a generation names one document only as
long as no id is used again.
-/

set_option autoImplicit false

namespace NousKernel

open ControlPlaneStore

/-- The asset is the one of the row: it has the digest of the stored text, and its document
was written as this text or read from it. -/
structure AssetOf (serde : Serde) (row : AssetRow) (asset : ControlAsset) : Prop where
  sha256 : asset.sha256 = row.sha256
  document : serde.toString asset.document = .ok row.document ∨
    serde.fromStr row.document = .ok asset.document

/-- What compare-and-swap promises of the next call. -/
structure Swaps (serde : Serde) (s : CatalogWorld) : Prop where
  /-- A stored document is replaced under the generation of that document only, and its
  generation grows. -/
  replaced : ∀ request now faults asset stored row,
    put serde s.catalog request now faults = (.ok asset, stored) →
    s.catalog.find request.kind asset.id = some row →
    stored.find request.kind asset.id ≠ some row →
    (∃ new, stored.find request.kind asset.id = some new ∧ row.generation < new.generation) ∧
      ∃ expected, request.expectedGeneration = some expected ∧
        ∀ seen ∈ s.seen, seen.kind = request.kind → seen.id = asset.id →
          seen.generation = expected → AssetOf serde row seen
  /-- A delete removes the document of the generation it was given only. -/
  removed : ∀ selector expected faults left, (selector, expected) ∈ s.deleting →
    deleteRow s.catalog selector expected faults = (.ok (), left) →
    ∃ row, s.catalog.find selector.kind selector.id = some row ∧
      ∀ seen ∈ s.seen, seen.kind = selector.kind → seen.id = selector.id →
        seen.generation = expected → AssetOf serde row seen
  /-- The document that is stored already changes nothing. -/
  identical : ∀ request now faults id version row,
    validateDocument serde request.kind request.document = .ok (id, version) →
    s.catalog.find request.kind id = some row →
    serde.toString request.document = .ok row.document →
    (put serde s.catalog request now faults).2 = s.catalog
  /-- A call that is refused changes nothing. -/
  refused : (∀ request now faults e stored,
      put serde s.catalog request now faults = (.error e, stored) → stored = s.catalog) ∧
    ∀ selector expected faults e left,
      deleteRow s.catalog selector expected faults = (.error e, left) → left = s.catalog

/-- No `put` creates an asset under an id whose asset was deleted. -/
def NewId (serde : Serde) (s : CatalogWorld) : CatalogCall → Prop
  | .put request _ _ => request.expectedGeneration = none →
      ∀ id version, validateDocument serde request.kind request.document = .ok (id, version) →
        (request.kind, id) ∉ s.deleted
  | _ => True

variable {serde : Serde}

/-- An asset that was handed out is deleted, or its row has moved on, or is still the
asset's. -/
def Known (serde : Serde) (s : CatalogWorld) (asset : ControlAsset) : Prop :=
  (asset.kind, asset.id) ∈ s.deleted ∨
    ∃ row, s.catalog.find asset.kind asset.id = some row ∧
      (asset.generation : Int) ≤ row.generation ∧
      (row.generation = asset.generation → AssetOf serde row asset)

structure Sane (serde : Serde) (s : CatalogWorld) : Prop where
  filled : s.catalog.Filled serde
  known : ∀ asset ∈ s.seen, Known serde s asset
  gone : ∀ kind id, (kind, id) ∈ s.deleted → s.catalog.find kind id = none

theorem Sane.start : Sane serde CatalogWorld.start := by
  refine ⟨?_, nofun, nofun⟩
  intro kind id row found
  rw [CatalogWorld.start, Catalog.find_blank] at found
  cases found

theorem Sane.present {s : CatalogWorld} (sane : Sane serde s) {kind : AssetKind} {id : String}
    {row : AssetRow} (found : s.catalog.find kind id = some row) : (kind, id) ∉ s.deleted := by
  intro deleted
  rw [sane.gone kind id deleted] at found
  cases found

/-- An asset read from the table is known. -/
theorem known_of_reads {s : CatalogWorld} {asset : ControlAsset} {row : AssetRow}
    (found : s.catalog.find asset.kind asset.id = some row)
    (reads : Reads serde asset.kind asset.id row asset) : Known serde s asset :=
  .inr ⟨row, found, reads.generation.ge, fun _ => ⟨reads.sha256, .inr reads.document⟩⟩

/-- A row of its own is written under an id that is not deleted. -/
theorem Sane.write {s : CatalogWorld} (sane : Sane serde s) {kind : AssetKind} {id : String}
    {row : AssetRow} {asset : ControlAsset} {document : Value} (own : RowOf serde row document)
    (current : (kind, id) ∉ s.deleted)
    (later : ∀ old, s.catalog.find kind id = some old → old.generation < row.generation)
    (asset_kind : asset.kind = kind) (asset_id : asset.id = id)
    (counted : row.generation = asset.generation) (digest : asset.sha256 = row.sha256)
    (same : asset.document = document) :
    Sane serde { s with catalog := s.catalog.write kind id row, seen := asset :: s.seen } := by
  refine ⟨sane.filled.write own, ?_, ?_⟩
  · intro other listed
    rcases List.mem_cons.mp listed with rfl | earlier
    · refine .inr ⟨row, ?_, counted.ge, fun _ => ?_⟩
      · rw [Catalog.find_write, if_pos ⟨asset_kind, asset_id⟩]
      · exact ⟨digest, .inl (same ▸ own.text)⟩
    · rcases sane.known other earlier with deleted | ⟨old, found, below, held⟩
      · exact .inl deleted
      · by_cases here : other.kind = kind ∧ other.id = id
        · have grown := later old (by rw [← here.1, ← here.2]; exact found)
          refine .inr ⟨row, ?_, by omega, fun level => by omega⟩
          rw [Catalog.find_write, if_pos here]
        · refine .inr ⟨old, ?_, below, held⟩
          rw [Catalog.find_write, if_neg here]
          exact found
  · intro other name deleted
    rw [Catalog.find_write, if_neg]
    · exact sane.gone other name deleted
    · rintro ⟨rfl, rfl⟩
      exact current deleted

theorem Sane.erase {s : CatalogWorld} (sane : Sane serde s) (kind : AssetKind) (id : String)
    (deleting : List (AssetSelector × Nat)) :
    Sane serde ⟨s.catalog.erase kind id, deleting, s.seen, (kind, id) :: s.deleted⟩ := by
  refine ⟨sane.filled.erase kind id, ?_, ?_⟩
  · intro asset listed
    rcases sane.known asset listed with deleted | ⟨row, found, below, held⟩
    · exact .inl (List.mem_cons_of_mem _ deleted)
    · by_cases here : asset.kind = kind ∧ asset.id = id
      · rw [Known, here.1, here.2]
        exact .inl List.mem_cons_self
      · refine .inr ⟨row, ?_, below, held⟩
        rw [Catalog.find_erase, if_neg here]
        exact found
  · intro other name deleted
    rw [Catalog.find_erase]
    split
    · rfl
    · rename_i elsewhere
      rcases List.mem_cons.mp deleted with same | earlier
      · cases same
        exact absurd ⟨rfl, rfl⟩ elsewhere
      · exact sane.gone other name earlier

theorem Sane.put {s : CatalogWorld} (sane : Sane serde s)
    {request : PutAssetRequest} {now : Int} {faults : StorageFaults} {asset : ControlAsset}
    {stored : Catalog} (fresh : NewId serde s (.put request now faults))
    (answered : ControlPlaneStore.put serde s.catalog request now faults = (.ok asset, stored)) :
    Sane serde { s with catalog := stored, seen := asset :: s.seen } := by
  obtain ⟨id, version, encoded, clean, valid, text, puts⟩ := put_ok answered
  cases puts with
  | @same row _ found reads equal =>
      refine ⟨sane.filled, ?_, sane.gone⟩
      intro other listed
      rcases List.mem_cons.mp listed with rfl | earlier
      · rw [← reads.kind, ← reads.id] at found reads
        exact known_of_reads found reads
      · exact sane.known other earlier
  | @update row existing found reads differs expected =>
      have later : ∀ old, s.catalog.find request.kind id = some old →
          old.generation < (existing.generation + 1 : Nat) := by
        intro old same
        cases found.symm.trans same
        rw [reads.generation]
        omega
      exact sane.write ⟨text, rfl, clean⟩ (sane.present found) later rfl rfl rfl rfl rfl
  | create absent unset =>
      have later : ∀ old, s.catalog.find request.kind id = some old → old.generation < 1 := by
        intro old found
        cases absent.symm.trans found
      exact sane.write ⟨text, rfl, clean⟩ (fresh unset id version valid) later rfl rfl rfl rfl rfl

/-- What a step keeps. -/
theorem Sane.step {s : CatalogWorld} (sane : Sane serde s) {call : CatalogCall}
    (fresh : NewId serde s call) : Sane serde (s.step serde call) := by
  rcases s.step_cases serde call with
    ⟨request, now, faults, asset, stored, rfl, answered, next⟩ |
    ⟨selector, expectedGeneration, faults, deleting, left, _, removed, next⟩ |
    ⟨deleting, assets, next, handed⟩
  · rw [next]
    exact sane.put fresh answered
  · rw [next, (deleteRow_ok removed).2]
    exact sane.erase _ _ deleting
  · rw [next]
    refine ⟨sane.filled, ?_, sane.gone⟩
    intro asset listed
    rcases List.mem_append.mp listed with new | earlier
    · obtain ⟨row, found, reads⟩ := handed asset new
      exact known_of_reads found reads
    · exact sane.known asset earlier

theorem CatalogWorld.Reached.sane {s : CatalogWorld}
    (reached : Reached serde (NewId serde) s) : Sane serde s := by
  induction reached with
  | refl => exact .start
  | tail _ moved ih =>
      obtain ⟨call, fresh, rfl⟩ := moved
      exact ih.step fresh

/-- A handed-out asset of the generation of the row is the row's. -/
theorem Sane.current {s : CatalogWorld} (sane : Sane serde s) {kind : AssetKind} {id : String}
    {row : AssetRow} (found : s.catalog.find kind id = some row) {asset : ControlAsset}
    (listed : asset ∈ s.seen) (asset_kind : asset.kind = kind) (asset_id : asset.id = id)
    (counted : row.generation = asset.generation) : AssetOf serde row asset := by
  subst asset_kind asset_id
  rcases sane.known asset listed with deleted | ⟨other, same, _, held⟩
  · exact absurd deleted (sane.present found)
  · cases found.symm.trans same
    exact held counted

/-- A put of the stored document changes nothing. -/
theorem put_identical {catalog : Catalog} (filled : catalog.Filled serde)
    {request : PutAssetRequest} {now : Int} {faults : StorageFaults} {id version : String}
    {row : AssetRow} (valid : validateDocument serde request.kind request.document = .ok (id, version))
    (found : catalog.find request.kind id = some row)
    (text : serde.toString request.document = .ok row.document) :
    (ControlPlaneStore.put serde catalog request now faults).2 = catalog := by
  cases answered : ControlPlaneStore.put serde catalog request now faults with
  | mk result stored =>
      cases result with
      | error e => exact put_error answered
      | ok asset =>
          obtain ⟨other, number, encoded, _, decoded, written, puts⟩ := put_ok answered
          cases valid.symm.trans decoded
          cases text.symm.trans written
          cases puts with
          | same => rfl
          | update same _ differs =>
              cases found.symm.trans same
              obtain ⟨document, own⟩ := filled _ _ row found
              exact absurd own.sha256 differs
          | create absent =>
              cases absent.symm.trans found

/-- In a run that creates no asset again after its deletion, no update is lost. -/
theorem updates_kept {s : CatalogWorld}
    (reached : CatalogWorld.Reached serde (NewId serde) s) : Swaps serde s := by
  have sane := reached.sane
  refine ⟨?_, ?_, ?_, fun _ _ _ _ _ => put_error, fun _ _ _ _ _ => deleteRow_error⟩
  · intro request now faults asset stored row answered found changed
    obtain ⟨id, version, encoded, _, _, _, puts⟩ := put_ok answered
    cases puts with
    | same => exact absurd found changed
    | @update old existing same reads differs expected =>
        change s.catalog.find request.kind id = some row at found
        cases same.symm.trans found
        have renewed := (Catalog.find_write s.catalog request.kind request.kind id id
          ⟨version, (existing.generation + 1 : Nat), hexDigest (asBytes encoded), encoded,
            existing.createdAtUs, now⟩).trans (if_pos ⟨rfl, rfl⟩)
        refine ⟨⟨_, renewed, ?_⟩, existing.generation, expected, ?_⟩
        · show row.generation < (existing.generation + 1 : Nat)
          rw [reads.generation]
          omega
        · intro seen listed seen_kind seen_id level
          refine sane.current found listed seen_kind seen_id ?_
          rw [level]
          exact reads.generation
    | create absent =>
        change s.catalog.find request.kind id = some row at found
        cases absent.symm.trans found
  · intro selector expected faults left _ removed
    obtain ⟨⟨row, found, counted⟩, _⟩ := deleteRow_ok removed
    refine ⟨row, found, ?_⟩
    intro seen listed seen_kind seen_id level
    refine sane.current found listed seen_kind seen_id ?_
    rw [level]
    exact counted
  · intro request now faults id version row valid found text
    exact put_identical sane.filled valid found text

/-! ### An id that is used again -/

def artifactDocument (version : String) : Value :=
  .object [("id", .string "a"), ("schema_version", .number (.PosInt 1)),
    ("version", .string version)]

def artifactText (version : String) : String :=
  (Json.obj [("id", .str "a"), ("schema_version", .num 1), ("version", .str version)]).text

/-- The texts and the decoder of some artifacts that give no more than the required fields. -/
def artifactSerde : Serde where
  toString
    | .object [("id", .string "a"), ("schema_version", .number (.PosInt 1)),
        ("version", .string version)] => .ok (artifactText version)
    | _ => .error "not an artifact"
  fromStr text :=
    match ["1", "2"].find? (artifactText · = text) with
    | some version => .ok (artifactDocument version)
    | none => .error "not an artifact"
  projectManifest _ := .error "not a project"
  modelProfile _ := .error "not a model"
  modelSpec _ := .error "not a model"
  intelligenceGraph _ := .error "not a graph"
  datasetManifest _ := .error "not a dataset"
  experimentManifest _ := .error "not an experiment"
  artifactContract
    | .object [("id", .string "a"), ("schema_version", .number (.PosInt 1)),
        ("version", .string version)] => .ok ⟨1, "a", version, "", "", "", "", ∅⟩
    | _ => .error "not an artifact"

theorem artifactText_injective : Function.Injective artifactText := by
  intro first second same
  have trees := Json.text_injective same
  simpa using trees

theorem artifactSerde_toString {document : Value} {text : String}
    (written : artifactSerde.toString document = .ok text) :
    ∃ version, document = artifactDocument version ∧ text = artifactText version := by
  simp only [artifactSerde] at written
  split at written
  · rename_i version
    cases written
    exact ⟨version, rfl, rfl⟩
  · cases written

theorem artifactSerde_sound : artifactSerde.Sound := by
  intro document text other written read
  obtain ⟨version, rfl, rfl⟩ := artifactSerde_toString written
  simp only [artifactSerde] at read
  split at read
  · rename_i found chosen
    cases read
    have same := List.find?_some chosen
    rw [decide_eq_true_eq] at same
    rw [artifactText_injective same]
  · cases read

def putArtifact (version : String) : CatalogCall :=
  .put ⟨controlApiSchemaVersion, .Artifact, artifactDocument version, none⟩ 0 {}

def artifactSelector : AssetSelector := ⟨controlApiSchemaVersion, .Artifact, "a"⟩

def artifactRow (version : String) : AssetRow :=
  ⟨version, (1 : Nat), hexDigest (asBytes (artifactText version)), artifactText version, 0, 0⟩

def artifactAsset (version : String) : ControlAsset :=
  written ⟨controlApiSchemaVersion, .Artifact, artifactDocument version, none⟩ "a" version
    (hexDigest (asBytes (artifactText version))) 1 0 0

section

variable {s : CatalogWorld} {version : String}

theorem step_putArtifact (solid : isBlank version = false)
    (absent : s.catalog.find .Artifact "a" = none) :
    s.step artifactSerde (putArtifact version) =
      { s with
        catalog := s.catalog.write .Artifact "a" (artifactRow version)
        seen := artifactAsset version :: s.seen } := by
  have valid : validateDocument artifactSerde .Artifact (artifactDocument version) =
      .ok ("a", version) := by
    refine checked_ok.mpr ⟨⟨1, "a", version, "", "", "", "", ∅⟩, rfl, asText_ok.mpr ?_, rfl⟩
    simp only [ArtifactContract.validate, Results.checks_ok, schema_ok, required_ok]
    exact ⟨rfl, by decide, solid⟩
  have clean : rejectEmbeddedSecrets (artifactDocument version) = .ok () := rfl
  have created := put_create absent clean valid rfl 0
  rw [putArtifact, CatalogWorld.step, created]
  rfl

theorem step_delete (version : String)
    (found : s.catalog.find .Artifact "a" = some (artifactRow version))
    (read : artifactSerde.fromStr (artifactText version) = .ok (artifactDocument version)) :
    s.step artifactSerde (.delete artifactSelector 1 {}) =
      { s with deleting := s.deleting ++ [(artifactSelector, 1)] } := by
  have got := get_found (by decide) found read
  rw [CatalogWorld.step, deleteCheck, artifactSelector, got]
  rfl

theorem deleteRow_artifact {catalog : Catalog}
    (found : catalog.find .Artifact "a" = some (artifactRow version)) :
    deleteRow catalog artifactSelector 1 {} = (.ok (), catalog.erase .Artifact "a") := by
  have column : (integerParam 1).mapError ControlPlaneError.Storage = .ok 1 := rfl
  simp only [deleteRow, column, storageResult, artifactSelector, found]
  rfl

theorem step_finish (version : String)
    (found : s.catalog.find .Artifact "a" = some (artifactRow version))
    (only : s.deleting = [(artifactSelector, 1)]) :
    s.step artifactSerde (.finish 0 {}) =
      ⟨s.catalog.erase .Artifact "a", [], s.seen, (.Artifact, "a") :: s.deleted⟩ := by
  rw [CatalogWorld.step, only]
  simp only [List.getElem?_cons_zero, deleteRow_artifact found]
  rfl

end

/-- An artifact is stored, and a client is about to delete it. -/
def stored : CatalogWorld :=
  (CatalogWorld.start.step artifactSerde (putArtifact "1")).step artifactSerde
    (.delete artifactSelector 1 {})

/-- It is deleted, another is created under its id, and a client is about to delete that. -/
def reused : CatalogWorld :=
  ((stored.step artifactSerde (.finish 0 {})).step artifactSerde (putArtifact "2")).step
    artifactSerde (.delete artifactSelector 1 {})

theorem stored_eq : stored =
    ⟨Catalog.blank.write .Artifact "a" (artifactRow "1"), [(artifactSelector, 1)],
      [artifactAsset "1"], []⟩ := by
  rw [stored, step_putArtifact (by decide) (Catalog.find_blank _ _),
    step_delete "1" ((Catalog.find_write ..).trans (if_pos ⟨rfl, rfl⟩)) rfl]
  rfl

theorem reused_eq : reused =
    ⟨((Catalog.blank.write .Artifact "a" (artifactRow "1")).erase .Artifact "a").write .Artifact "a"
        (artifactRow "2"), [(artifactSelector, 1)], [artifactAsset "2", artifactAsset "1"],
      [(.Artifact, "a")]⟩ := by
  rw [reused, stored_eq,
    step_finish "1" ((Catalog.find_write ..).trans (if_pos ⟨rfl, rfl⟩)) rfl,
    step_putArtifact (by decide) ((Catalog.find_erase ..).trans (if_pos ⟨rfl, rfl⟩)),
    step_delete "2" ((Catalog.find_write ..).trans (if_pos ⟨rfl, rfl⟩)) rfl]
  rfl

theorem stored_reached {allowed : CatalogWorld → CatalogCall → Prop}
    (first : allowed CatalogWorld.start (putArtifact "1"))
    (second : ∀ s, allowed s (.delete artifactSelector 1 {})) :
    CatalogWorld.Reached artifactSerde allowed stored :=
  (Relation.ReflTransGen.single ⟨putArtifact "1", first, rfl⟩).tail
    ⟨.delete artifactSelector 1 {}, second _, rfl⟩

theorem updates_kept_stored : Swaps artifactSerde stored :=
  updates_kept (stored_reached (fun _ _ _ _ => List.not_mem_nil) fun _ => trivial)

/-- The client that deletes the second artifact may hold the first under the same generation. -/
theorem updates_lost : ¬∀ (serde : Serde), serde.Sound → ∀ s,
    CatalogWorld.Reached serde (fun _ _ => True) s → Swaps serde s := by
  intro swapping
  have reached : CatalogWorld.Reached artifactSerde (fun _ _ => True) reused :=
    (((stored_reached trivial fun _ => trivial).tail ⟨.finish 0 {}, trivial, rfl⟩).tail
      ⟨putArtifact "2", trivial, rfl⟩).tail ⟨.delete artifactSelector 1 {}, trivial, rfl⟩
  have swaps := swapping artifactSerde artifactSerde_sound reused reached
  rw [reused_eq] at swaps
  have found : (((Catalog.blank.write .Artifact "a" (artifactRow "1")).erase .Artifact "a").write
      .Artifact "a" (artifactRow "2")).find .Artifact "a" = some (artifactRow "2") :=
    (Catalog.find_write ..).trans (if_pos ⟨rfl, rfl⟩)
  obtain ⟨row, same, agree⟩ := swaps.removed artifactSelector 1 {} _ List.mem_cons_self
    (deleteRow_artifact found)
  cases found.symm.trans same
  rcases (agree (artifactAsset "1") (.tail _ (.head _)) rfl rfl rfl).document with written | read
  · have texts : artifactText "1" = artifactText "2" := Except.ok.inj written
    exact absurd (artifactText_injective texts) (by decide)
  · have other : artifactSerde.fromStr (artifactText "2") = .ok (artifactDocument "2") := rfl
    rw [artifactRow, other] at read
    exact absurd (Except.ok.inj read) (by simp [artifactDocument, artifactAsset, written])

end NousKernel
