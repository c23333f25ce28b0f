import Mathlib.Logic.Relation
import NousKernel.ControlPlane

/-!
What the calls on the asset catalog do: what passes the checks, what a stored row is, and
that validation and storage agree on it.
-/

set_option autoImplicit false

namespace NousKernel

open Results

/-! ### Secrets -/

/-- A key and its value, at some depth of a document. -/
inductive Value.Holds : Value → String → Value → Prop where
  | member {members : List (String × Value)} {key : String} {value : Value}
      (listed : (key, value) ∈ members) : Holds (.object members) key value
  | field {members : List (String × Value)} {name key : String} {inner value : Value}
      (listed : (name, inner) ∈ members) (held : Holds inner key value) :
      Holds (.object members) key value
  | item {items : List Value} {inner value : Value} {key : String} (listed : inner ∈ items)
      (held : Holds inner key value) : Holds (.array items) key value

/-- No key for a secret has a value, at any depth. -/
def Value.Secretless (document : Value) : Prop :=
  ∀ key value, document.Holds key value → normalizedKey key ∈ secretFields →
    value = .null ∨ value = .string ""

theorem embedsSecret_false {key : String} {value : Value} :
    embedsSecret key value = false ↔
      (normalizedKey key ∈ secretFields → value = .null ∨ value = .string "") := by
  cases value <;> simp [embedsSecret, Value.isNull, Value.asStr]

theorem Value.secretless_object {members : List (String × Value)} :
    Value.Secretless (.object members) ↔
      ∀ entry ∈ members, embedsSecret entry.1 entry.2 = false ∧ entry.2.Secretless := by
  constructor
  · intro clean entry listed
    refine ⟨embedsSecret_false.mpr (clean entry.1 entry.2 (.member listed)), ?_⟩
    intro key value held
    exact clean key value (.field listed held)
  · intro clean key value held
    cases held with
    | member listed => exact embedsSecret_false.mp (clean _ listed).1
    | field listed held => exact (clean _ listed).2 key value held

theorem Value.secretless_array {items : List Value} :
    Value.Secretless (.array items) ↔ ∀ item ∈ items, item.Secretless := by
  constructor
  · intro clean item listed key value held
    exact clean key value (.item listed held)
  · intro clean key value held
    cases held with
    | item listed held => exact clean _ listed key value held

theorem Value.secretless_leaf {document : Value} (leaf : ∀ key value, ¬document.Holds key value) :
    document.Secretless :=
  fun key value held => absurd held (leaf key value)

mutual

theorem rejectEmbeddedSecrets_ok (document : Value) :
    rejectEmbeddedSecrets document = .ok () ↔ document.Secretless := by
  cases document with
  | object members =>
      rw [Value.secretless_object]
      exact rejectMembers_ok members
  | array items =>
      rw [Value.secretless_array]
      exact rejectItems_ok items
  | null => exact iff_of_true rfl (Value.secretless_leaf fun _ _ held => nomatch held)
  | bool value => exact iff_of_true rfl (Value.secretless_leaf fun _ _ held => nomatch held)
  | number value => exact iff_of_true rfl (Value.secretless_leaf fun _ _ held => nomatch held)
  | string text => exact iff_of_true rfl (Value.secretless_leaf fun _ _ held => nomatch held)

theorem rejectMembers_ok (members : List (String × Value)) :
    rejectMembers members = .ok () ↔
      ∀ entry ∈ members, embedsSecret entry.1 entry.2 = false ∧ entry.2.Secretless := by
  match members with
  | [] => simp [rejectMembers]
  | (key, value) :: members =>
      rw [rejectMembers, List.forall_mem_cons]
      by_cases embedded : embedsSecret key value = true
      · simp [embedded]
      · rw [if_neg embedded, checks_ok, rejectEmbeddedSecrets_ok value, rejectMembers_ok members]
        simp [embedded]

theorem rejectItems_ok (items : List Value) :
    rejectItems items = .ok () ↔ ∀ item ∈ items, item.Secretless := by
  match items with
  | [] => simp [rejectItems]
  | item :: items =>
      rw [rejectItems, checks_ok, rejectEmbeddedSecrets_ok item, rejectItems_ok items,
        List.forall_mem_cons]

end

/-! ### Identities -/

theorem within_ok {object field : String} {part : Except RuntimeContractError Unit} :
    IntelligenceError.within object field part = .ok () ↔ part = .ok () := mapError_ok

theorem isWhitespace_identifier {c : Char}
    (letter : (isAsciiAlphanumeric c || c = '-' || c = '_' || c = '.') = true) :
    isWhitespace c = false := by
  have code (d : Char) : d ≤ c ↔ d.toNat ≤ c.toNat := UInt32.le_iff_toNat_le
  have code' (d : Char) : c ≤ d ↔ c.toNat ≤ d.toNat := UInt32.le_iff_toNat_le
  have same (d : Char) : c = d ↔ c.toNat = d.toNat :=
    ⟨fun h => h ▸ rfl, fun h => Char.toNat_inj.mp h⟩
  simp only [isAsciiAlphanumeric, isAsciiAlphabetic, isAsciiDigit, Bool.or_eq_true,
    Bool.and_eq_true, decide_eq_true_eq, code, code', same] at letter
  change ((((97 ≤ c.toNat ∧ c.toNat ≤ 122 ∨ 65 ≤ c.toNat ∧ c.toNat ≤ 90) ∨
    48 ≤ c.toNat ∧ c.toNat ≤ 57) ∨ c.toNat = 45) ∨ c.toNat = 95) ∨ c.toNat = 46 at letter
  rw [← Bool.not_eq_true]
  simp only [isWhitespace, Bool.or_eq_true, Bool.and_eq_true, decide_eq_true_eq]
  omega

theorem isBlank_validIdentifier {value : String} (valid : validIdentifier value = true) :
    isBlank value = false := by
  simp only [validIdentifier, Bool.and_eq_true, decide_eq_true_eq, List.all_eq_true] at valid
  obtain ⟨⟨⟨filled, plain⟩, _⟩, _⟩ := valid
  rw [isBlank, ← Bool.not_eq_true, List.all_eq_true]
  intro spaces
  cases letters : value.toList with
  | nil => exact filled (String.toList_eq_nil_iff.mp letters)
  | cons c rest =>
      have listed : c ∈ value.toList := by
        rw [letters]
        exact List.mem_cons_self
      have solid := isWhitespace_identifier (plain c listed)
      rw [spaces c listed] at solid
      cases solid

theorem ArtifactContract.validate_id {self : ArtifactContract} (valid : self.validate = .ok ()) :
    isBlank self.id = false := by
  simp only [validate, checks_ok, required_ok] at valid
  exact valid.2.1

theorem ModelSpec.validate_id {self : ModelSpec} (valid : self.validate = .ok ()) :
    isBlank self.id = false := by
  simp only [validate, checks_ok, required_ok] at valid
  exact valid.2.1

theorem ProjectManifest.validate_id {self : ProjectManifest} (valid : self.validate = .ok ()) :
    isBlank self.id = false := by
  simp only [validate, checks_ok, IntelligenceError.ensure_ok] at valid
  exact isBlank_validIdentifier valid.2.1

theorem DatasetManifest.validate_id {self : DatasetManifest} (valid : self.validate = .ok ()) :
    isBlank self.id = false := by
  simp only [validate, checks_ok, IntelligenceError.ensure_ok] at valid
  exact isBlank_validIdentifier valid.2.1

theorem ExperimentManifest.validate_id {self : ExperimentManifest}
    (valid : self.validate = .ok ()) : isBlank self.id = false := by
  simp only [validate, checks_ok, IntelligenceError.ensure_ok] at valid
  exact isBlank_validIdentifier valid.2.1

theorem IntelligenceGraph.validate_id {self : IntelligenceGraph}
    (valid : self.validate = .ok ()) : isBlank self.id = false := by
  simp only [validate, checks_ok, IntelligenceError.require_ok] at valid
  exact valid.2.1

theorem ModelProfile.validate_id {self : ModelProfile} (valid : self.validate = .ok ()) :
    isBlank self.model.id = false := by
  simp only [validate, checks_ok, within_ok] at valid
  exact ModelSpec.validate_id valid.2.1

variable {serde : Serde}

theorem checked_ok {T : Type} {reader : Value → Except String T} {validate : T → Except String Unit}
    {identity : T → String × String} {document : Value} {found : String × String} :
    checked reader validate identity document = .ok found ↔
      ∃ value, reader document = .ok value ∧ validate value = .ok () ∧ identity value = found := by
  simp only [checked, bind_ok, mapError_ok, pure, Except.pure, Except.ok.injEq]
  constructor
  · rintro ⟨value, read, _, valid, same⟩
    exact ⟨value, read, valid, same⟩
  · rintro ⟨value, read, valid, same⟩
    exact ⟨value, read, (), valid, same⟩

theorem asText_ok {ε : Type} {display : ε → String} {result : Except ε Unit} :
    asText display result = .ok () ↔ result = .ok () := mapError_ok

theorem checked_id {T ε : Type} {reader : Value → Except String T} {display : ε → String}
    {check : T → Except ε Unit} {identity : T → String × String} {document : Value}
    {id version : String}
    (valid : checked reader (fun value => asText display (check value)) identity document =
      .ok (id, version))
    (solid : ∀ value, check value = .ok () → isBlank (identity value).1 = false) :
    isBlank id = false := by
  obtain ⟨value, _, passes, same⟩ := checked_ok.mp valid
  have named := solid value (asText_ok.mp passes)
  rw [same] at named
  exact named

/-- A document that passes its checks has an id that `get` accepts. -/
theorem validateDocument_id {kind : AssetKind} {document : Value} {id version : String}
    (valid : validateDocument serde kind document = .ok (id, version)) : isBlank id = false := by
  cases kind with
  | Project => exact checked_id valid fun _ => ProjectManifest.validate_id
  | Model =>
      rw [validateDocument] at valid
      split at valid
      · exact checked_id valid fun _ => ModelProfile.validate_id
      · exact checked_id valid fun _ => ModelSpec.validate_id
  | Graph => exact checked_id valid fun _ => IntelligenceGraph.validate_id
  | Dataset => exact checked_id valid fun _ => DatasetManifest.validate_id
  | Experiment => exact checked_id valid fun _ => ExperimentManifest.validate_id
  | Artifact => exact checked_id valid fun _ => ArtifactContract.validate_id

/-! ### Rows -/

namespace ControlPlaneStore

theorem integerColumn_ok {index generation : Nat} {value : Int} :
    integerColumn index value = .ok generation ↔ value = generation := by
  unfold integerColumn
  split
  · rw [Except.ok.injEq]
    omega
  · simp only [reduceCtorEq, false_iff]
    omega

theorem integerParam_ok {value : Nat} {column : Int} :
    integerParam value = .ok column ↔ value ≤ i64Max ∧ column = value := by
  unfold integerParam
  split
  · rename_i bounded
    simp [bounded, eq_comm]
  · rename_i large
    simp [large]

/-- An asset is what a row holds under its kind and id. -/
structure Reads (serde : Serde) (kind : AssetKind) (id : String) (row : AssetRow)
    (asset : ControlAsset) : Prop where
  kind : asset.kind = kind
  id : asset.id = id
  generation : row.generation = asset.generation
  sha256 : asset.sha256 = row.sha256
  document : serde.fromStr row.document = .ok asset.document

theorem reads_of_rowToAsset {kind : AssetKind} {id : String} {row : AssetRow} {asset : ControlAsset}
    (read : rowToAsset serde kind id row = .ok asset) : Reads serde kind id row asset := by
  simp only [rowToAsset, bind_ok, mapError_ok, integerColumn_ok, pure, Except.pure,
    Except.ok.injEq] at read
  obtain ⟨generation, counted, document, parsed, rfl⟩ := read
  exact ⟨rfl, rfl, counted, rfl, parsed⟩

theorem selectAsset_none {catalog : Catalog} {kind : AssetKind} {id : String} {fault : Option String}
    (selected : selectAsset serde catalog kind id fault = .ok none) : catalog.find kind id = none := by
  simp only [selectAsset, bind_ok] at selected
  obtain ⟨_, _, found⟩ := selected
  split at found
  · simp [bind_ok, pure, Except.pure] at found
  · assumption

theorem selectAsset_some {catalog : Catalog} {kind : AssetKind} {id : String} {fault : Option String}
    {asset : ControlAsset} (selected : selectAsset serde catalog kind id fault = .ok (some asset)) :
    ∃ row, catalog.find kind id = some row ∧ Reads serde kind id row asset := by
  simp only [selectAsset, bind_ok] at selected
  obtain ⟨_, _, found⟩ := selected
  split at found
  · rename_i row present
    simp only [bind_ok, mapError_ok, pure, Except.pure, Except.ok.injEq, Option.some.injEq] at found
    obtain ⟨read, converted, rfl⟩ := found
    exact ⟨row, present, reads_of_rowToAsset converted⟩
  · simp [pure, Except.pure] at found

/-! ### What `put` stores -/

section

variable {catalog stored : Catalog} {request : PutAssetRequest} {id version encoded : String}
  {now : Int} {faults : StorageFaults} {asset : ControlAsset}

/-- What a transaction of `put` does when it commits: nothing, as the document is stored
already, or it replaces the expected generation, or it creates the asset. -/
inductive Puts (serde : Serde) (catalog : Catalog) (request : PutAssetRequest)
    (id version encoded : String) (now : Int) : ControlAsset → Catalog → Prop where
  | same {row : AssetRow} {existing : ControlAsset} (found : catalog.find request.kind id = some row)
      (reads : Reads serde request.kind id row existing)
      (equal : row.sha256 = hexDigest (asBytes encoded)) :
      Puts serde catalog request id version encoded now existing catalog
  | update {row : AssetRow} {existing : ControlAsset}
      (found : catalog.find request.kind id = some row)
      (reads : Reads serde request.kind id row existing)
      (differs : row.sha256 ≠ hexDigest (asBytes encoded))
      (expected : request.expectedGeneration = some existing.generation) :
      Puts serde catalog request id version encoded now
        (written request id version (hexDigest (asBytes encoded)) (existing.generation + 1)
          existing.createdAtUs now)
        (catalog.write request.kind id ⟨version, (existing.generation + 1 : Nat),
          hexDigest (asBytes encoded), encoded, existing.createdAtUs, now⟩)
  | create (absent : catalog.find request.kind id = none)
      (unset : request.expectedGeneration = none) :
      Puts serde catalog request id version encoded now
        (written request id version (hexDigest (asBytes encoded)) 1 now now)
        (catalog.write request.kind id
          ⟨version, 1, hexDigest (asBytes encoded), encoded, now, now⟩)

theorem putRow_puts (committed : putRow serde catalog request id version encoded now faults =
      .ok (asset, stored)) :
    Puts serde catalog request id version encoded now asset stored := by
  simp only [putRow, bind_ok] at committed
  obtain ⟨selected, selection, rest⟩ := committed
  split at rest
  · rename_i existing
    obtain ⟨row, found, reads⟩ := selectAsset_some selection
    split at rest
    · rename_i equal
      simp only [bind_ok, pure, Except.pure, Except.ok.injEq, Prod.mk.injEq] at rest
      obtain ⟨_, _, rfl, rfl⟩ := rest
      exact .same found reads (reads.sha256 ▸ equal)
    · rename_i differs
      split at rest
      · cases rest
      · rename_i expected
        simp only [bind_ok, mapError_ok, integerParam_ok, pure, Except.pure, Except.ok.injEq,
          Prod.mk.injEq] at rest
        obtain ⟨column, ⟨bounded, rfl⟩, _, _, _, _, rfl, rfl⟩ := rest
        have next : min (existing.generation + 1) u64Max = existing.generation + 1 := by
          simp only [i64Max, u64Max] at bounded ⊢
          omega
        rw [next]
        exact .update found reads (reads.sha256 ▸ differs) (not_not.mp expected)
  · have absent := selectAsset_none selection
    split at rest
    · cases rest
    · rename_i unset
      simp only [bind_ok, pure, Except.pure, Except.ok.injEq, Prod.mk.injEq] at rest
      obtain ⟨_, _, _, _, rfl, rfl⟩ := rest
      exact .create absent (by simpa using unset)

theorem put_ok (done : put serde catalog request now faults = (.ok asset, stored)) :
    ∃ id version encoded, request.document.Secretless ∧
      validateDocument serde request.kind request.document = .ok (id, version) ∧
      serde.toString request.document = .ok encoded ∧
      Puts serde catalog request id version encoded now asset stored := by
  unfold put at done
  split at done
  · rename_i attempt
    cases done
    simp only [tryPut, bind_ok, mapError_ok] at attempt
    obtain ⟨_, _, _, clean, ⟨id, version⟩, valid, encoded, wrote, committed⟩ := attempt
    exact ⟨id, version, encoded, (rejectEmbeddedSecrets_ok _).mp clean, valid, wrote,
      putRow_puts committed⟩
  · cases done

theorem put_error {e : ControlPlaneError}
    (refused : put serde catalog request now faults = (.error e, stored)) : stored = catalog := by
  unfold put at refused
  split at refused
  · cases refused
  · cases refused
    rfl

end

section

variable {catalog : Catalog} {selector : AssetSelector} {faults : StorageFaults}

theorem get_ok {asset : ControlAsset} (done : get serde catalog selector faults = .ok asset) :
    ∃ row, catalog.find selector.kind selector.id = some row ∧
      Reads serde selector.kind selector.id row asset := by
  simp only [get, bind_ok] at done
  obtain ⟨_, _, _, _, selected, selection, answer⟩ := done
  cases selected with
  | none => cases answer
  | some found =>
      cases answer
      exact selectAsset_some selection

theorem list_ok {request : ListAssetsRequest} {assets : List ControlAsset}
    (done : list serde catalog request faults = .ok assets) {asset : ControlAsset}
    (listed : asset ∈ assets) :
    ∃ row, catalog.find request.kind asset.id = some row ∧
      Reads serde request.kind asset.id row asset := by
  simp only [list, bind_ok] at done
  obtain ⟨_, _, _, _, converted⟩ := done
  obtain ⟨⟨id, row⟩, stored, read⟩ := mem_mapM converted listed
  have reads := reads_of_rowToAsset (mapError_ok.mp read)
  refine ⟨row, ?_, reads.id ▸ reads⟩
  rw [reads.id]
  exact Std.ExtTreeMap.mem_toList_iff_getElem?_eq_some.mp stored

theorem deleteRow_ok {expectedGeneration : Nat} {left : Catalog}
    (done : deleteRow catalog selector expectedGeneration faults = (.ok (), left)) :
    (∃ row, catalog.find selector.kind selector.id = some row ∧
      row.generation = expectedGeneration) ∧ left = catalog.erase selector.kind selector.id := by
  unfold deleteRow at done
  split at done
  · cases done
  · cases done
  · rename_i generation column _
    have same := (integerParam_ok.mp (mapError_ok.mp column)).2
    split at done
    · rename_i row found
      split at done
      · rename_i current
        cases done
        exact ⟨⟨row, found, current.trans same⟩, rfl⟩
      · cases done
    · cases done

theorem deleteRow_error {expectedGeneration : Nat} {left : Catalog} {e : ControlPlaneError}
    (refused : deleteRow catalog selector expectedGeneration faults = (.error e, left)) :
    left = catalog := by
  unfold deleteRow at refused
  split at refused
  · cases refused
    rfl
  · cases refused
    rfl
  · split at refused
    · split at refused
      · cases refused
      · cases refused
        rfl
    · cases refused
      rfl

end

end ControlPlaneStore

namespace Catalog

theorem find_write (catalog : Catalog) (kind other : AssetKind) (id name : String) (row : AssetRow) :
    (catalog.write kind id row).find other name =
      if other = kind ∧ name = id then some row else catalog.find other name := by
  simp only [find, write]
  by_cases sameKind : other = kind
  · subst sameKind
    rw [Function.update_self, Std.ExtTreeMap.getElem?_insert]
    by_cases sameId : name = id
    · simp [sameId]
    · simp [sameId, Ne.symm sameId]
  · rw [Function.update_of_ne sameKind]
    simp [sameKind]

theorem find_erase (catalog : Catalog) (kind other : AssetKind) (id name : String) :
    (catalog.erase kind id).find other name =
      if other = kind ∧ name = id then none else catalog.find other name := by
  simp only [find, erase]
  by_cases sameKind : other = kind
  · subst sameKind
    rw [Function.update_self, Std.ExtTreeMap.getElem?_erase]
    by_cases sameId : name = id
    · simp [sameId]
    · simp [sameId, Ne.symm sameId]
  · rw [Function.update_of_ne sameKind]
    simp [sameKind]

theorem find_blank (kind : AssetKind) (id : String) : blank.find kind id = none :=
  Std.ExtTreeMap.getElem?_empty

end Catalog

/-! ### Runs -/

/-- The catalog, the deletes between their two halves, what the clients were answered,
and the assets that were deleted. -/
structure CatalogWorld where
  catalog : Catalog
  deleting : List (AssetSelector × Nat)
  seen : List ControlAsset
  deleted : List (AssetKind × String)

/-- One atomic step of a client. `finish` is the second half of a delete. -/
inductive CatalogCall where
  | put (request : PutAssetRequest) (now : Int) (faults : StorageFaults)
  | get (selector : AssetSelector) (faults : StorageFaults)
  | list (request : ListAssetsRequest) (faults : StorageFaults)
  | delete (selector : AssetSelector) (expectedGeneration : Nat) (faults : StorageFaults)
  | finish (index : Nat) (faults : StorageFaults)

namespace CatalogWorld

def start : CatalogWorld := ⟨.blank, [], [], []⟩

variable (serde)

def step (s : CatalogWorld) : CatalogCall → CatalogWorld
  | .put request now faults =>
      match ControlPlaneStore.put serde s.catalog request now faults with
      | (.ok asset, stored) => { s with catalog := stored, seen := asset :: s.seen }
      | (.error _, stored) => { s with catalog := stored }
  | .get selector faults =>
      match ControlPlaneStore.get serde s.catalog selector faults with
      | .ok asset => { s with seen := asset :: s.seen }
      | .error _ => s
  | .list request faults =>
      match ControlPlaneStore.list serde s.catalog request faults with
      | .ok assets => { s with seen := assets ++ s.seen }
      | .error _ => s
  | .delete selector expectedGeneration faults =>
      match ControlPlaneStore.deleteCheck serde s.catalog selector expectedGeneration faults with
      | .ok () => { s with deleting := s.deleting ++ [(selector, expectedGeneration)] }
      | .error _ => s
  | .finish index faults =>
      match s.deleting[index]? with
      | some (selector, expectedGeneration) =>
          match ControlPlaneStore.deleteRow s.catalog selector expectedGeneration faults with
          | (.ok (), left) => { s with
              catalog := left
              deleting := s.deleting.eraseIdx index
              deleted := (selector.kind, selector.id) :: s.deleted }
          | (.error _, left) => { s with catalog := left, deleting := s.deleting.eraseIdx index }
      | none => s

/-- A state that the clients reach from the empty catalog, each of their steps being allowed. -/
def Reached (allowed : CatalogWorld → CatalogCall → Prop) (s : CatalogWorld) : Prop :=
  Relation.ReflTransGen (fun s s' => ∃ call, allowed s call ∧ s' = s.step serde call) start s

end CatalogWorld

/-- What a step does: a `put` that is answered, a delete that removes a row, or no change
to the table, with the rows of some assets handed out. -/
theorem CatalogWorld.step_cases (serde : Serde) (s : CatalogWorld) (call : CatalogCall) :
    (∃ request now faults asset stored, call = .put request now faults ∧
      ControlPlaneStore.put serde s.catalog request now faults = (.ok asset, stored) ∧
      s.step serde call = { s with catalog := stored, seen := asset :: s.seen }) ∨
    (∃ selector expectedGeneration faults deleting left,
      (selector, expectedGeneration) ∈ s.deleting ∧
      ControlPlaneStore.deleteRow s.catalog selector expectedGeneration faults = (.ok (), left) ∧
      s.step serde call = ⟨left, deleting, s.seen, (selector.kind, selector.id) :: s.deleted⟩) ∨
    ∃ deleting assets, s.step serde call = ⟨s.catalog, deleting, assets ++ s.seen, s.deleted⟩ ∧
      ∀ asset ∈ assets, ∃ row, s.catalog.find asset.kind asset.id = some row ∧
        ControlPlaneStore.Reads serde asset.kind asset.id row asset := by
  cases call with
  | put request now faults =>
      rw [step]
      split
      · rename_i asset stored answered
        exact .inl ⟨request, now, faults, asset, stored, rfl, answered, rfl⟩
      · rename_i e stored refused
        cases ControlPlaneStore.put_error refused
        exact .inr (.inr ⟨s.deleting, [], rfl, by simp⟩)
  | get selector faults =>
      rw [step]
      split
      · rename_i asset answered
        obtain ⟨row, found, reads⟩ := ControlPlaneStore.get_ok answered
        refine .inr (.inr ⟨s.deleting, [asset], rfl, ?_⟩)
        intro handed listed
        cases List.mem_singleton.mp listed
        rw [reads.kind, reads.id]
        exact ⟨row, found, reads⟩
      · exact .inr (.inr ⟨s.deleting, [], rfl, by simp⟩)
  | list request faults =>
      rw [step]
      split
      · rename_i assets answered
        refine .inr (.inr ⟨s.deleting, assets, rfl, ?_⟩)
        intro asset listed
        obtain ⟨row, found, reads⟩ := ControlPlaneStore.list_ok answered listed
        rw [reads.kind]
        exact ⟨row, found, reads⟩
      · exact .inr (.inr ⟨s.deleting, [], rfl, by simp⟩)
  | delete selector expectedGeneration faults =>
      rw [step]
      split
      · exact .inr (.inr ⟨_, [], rfl, by simp⟩)
      · exact .inr (.inr ⟨s.deleting, [], rfl, by simp⟩)
  | finish index faults =>
      rw [step]
      split
      · rename_i selector expectedGeneration waiting
        split
        · rename_i left removed
          exact .inr (.inl ⟨selector, expectedGeneration, faults, _, left,
            List.mem_of_getElem? waiting, removed, rfl⟩)
        · rename_i e left refused
          cases ControlPlaneStore.deleteRow_error refused
          exact .inr (.inr ⟨_, [], rfl, by simp⟩)
      · exact .inr (.inr ⟨s.deleting, [], rfl, by simp⟩)

/-- A row that `put` has written: the text and the digest of a document without secrets. -/
structure RowOf (serde : Serde) (row : AssetRow) (document : Value) : Prop where
  text : serde.toString document = .ok row.document
  sha256 : row.sha256 = hexDigest (asBytes row.document)
  secretless : document.Secretless

def Catalog.Filled (serde : Serde) (catalog : Catalog) : Prop :=
  ∀ kind id row, catalog.find kind id = some row → ∃ document, RowOf serde row document

theorem Catalog.Filled.write {catalog : Catalog} (filled : catalog.Filled serde) {kind : AssetKind}
    {id : String} {row : AssetRow} {document : Value} (own : RowOf serde row document) :
    (catalog.write kind id row).Filled serde := by
  intro other name held found
  rw [find_write] at found
  split at found
  · cases found
    exact ⟨document, own⟩
  · exact filled other name held found

theorem Catalog.Filled.put {catalog stored : Catalog} (filled : catalog.Filled serde)
    {request : PutAssetRequest} {now : Int} {faults : StorageFaults} {asset : ControlAsset}
    (answered : ControlPlaneStore.put serde catalog request now faults = (.ok asset, stored)) :
    stored.Filled serde := by
  obtain ⟨id, version, encoded, clean, _, text, puts⟩ := ControlPlaneStore.put_ok answered
  cases puts with
  | same => exact filled
  | update => exact filled.write ⟨text, rfl, clean⟩
  | create => exact filled.write ⟨text, rfl, clean⟩

theorem Catalog.Filled.erase {catalog : Catalog} (filled : catalog.Filled serde) (kind : AssetKind)
    (id : String) : (catalog.erase kind id).Filled serde := by
  intro other name held found
  rw [find_erase] at found
  split at found
  · cases found
  · exact filled other name held found

theorem CatalogWorld.Reached.filled {allowed : CatalogWorld → CatalogCall → Prop} {s : CatalogWorld}
    (reached : Reached serde allowed s) : s.catalog.Filled serde := by
  induction reached with
  | refl =>
      intro kind id row found
      rw [start, Catalog.find_blank] at found
      cases found
  | @tail s s' _ moved ih =>
      obtain ⟨call, _, rfl⟩ := moved
      rcases s.step_cases serde call with
        ⟨request, now, faults, asset, stored, _, answered, next⟩ |
        ⟨selector, expectedGeneration, faults, deleting, left, _, removed, next⟩ |
        ⟨deleting, assets, next, _⟩
      · rw [next]
        exact ih.put answered
      · rw [next, (ControlPlaneStore.deleteRow_ok removed).2]
        exact ih.erase _ _
      · rw [next]
        exact ih

/-! ### Validation and storage -/

namespace ControlPlaneStore

theorem validate_ok {kind : AssetKind} {document : Value} {id version sha256 : String} :
    validate serde kind document = .ok (id, version, sha256) ↔
      rejectEmbeddedSecrets document = .ok () ∧
        validateDocument serde kind document = .ok (id, version) ∧
        ∃ encoded, serde.toString document = .ok encoded ∧ sha256 = hexDigest (asBytes encoded) := by
  simp only [validate, bind_ok, mapError_ok, pure, Except.pure, Except.ok.injEq, Prod.mk.injEq,
    Prod.exists]
  constructor
  · rintro ⟨_, clean, other, number, valid, encoded, text, rfl, rfl, rfl⟩
    exact ⟨clean, valid, encoded, text, rfl⟩
  · rintro ⟨clean, valid, encoded, text, rfl⟩
    exact ⟨(), clean, id, version, valid, encoded, text, rfl, rfl, rfl⟩

/-- `put` of a document that is not stored yet. -/
theorem put_create {catalog : Catalog} {kind : AssetKind} {document : Value}
    {id version encoded : String} (absent : catalog.find kind id = none)
    (clean : rejectEmbeddedSecrets document = .ok ())
    (valid : validateDocument serde kind document = .ok (id, version))
    (text : serde.toString document = .ok encoded) (now : Int) :
    put serde catalog ⟨controlApiSchemaVersion, kind, document, none⟩ now {} =
      (.ok (written ⟨controlApiSchemaVersion, kind, document, none⟩ id version
        (hexDigest (asBytes encoded)) 1 now now),
      catalog.write kind id ⟨version, 1, hexDigest (asBytes encoded), encoded, now, now⟩) := by
  simp [put, tryPut, checkSchema, clean, valid, text, putRow, selectAsset, storageResult, absent,
    Except.mapError, bind, Except.bind, pure, Except.pure]

theorem get_found {catalog : Catalog} {kind : AssetKind} {id version sha256 encoded : String}
    {generation : Nat} {created updated : Int} {document : Value} (named : isBlank id = false)
    (found : catalog.find kind id = some ⟨version, generation, sha256, encoded, created, updated⟩)
    (read : serde.fromStr encoded = .ok document) :
    get serde catalog ⟨controlApiSchemaVersion, kind, id⟩ {} =
      .ok ⟨controlApiSchemaVersion, kind, id, version, generation, sha256, document, created,
        updated⟩ := by
  simp [get, checkSchema, requiredField, named, selectAsset, storageResult, found, rowToAsset,
    integerColumn, read, Except.mapError, bind, Except.bind, pure, Except.pure]

end ControlPlaneStore

open ControlPlaneStore

/-- A document is valid exactly when `put` creates it, with the identity and the digest that
`validate` reports, and `get` then returns it. No stored document holds a secret. -/
theorem validation_agrees (serde : Serde) :
    (∀ (catalog : Catalog) (kind : AssetKind) (document : Value) (id version sha256 : String)
        (now : Int), catalog.find kind id = none →
      (∀ text, serde.toString document = .ok text → serde.fromStr text = .ok document) →
      (validate serde kind document = .ok (id, version, sha256) ↔
        ∃ asset stored, put serde catalog ⟨controlApiSchemaVersion, kind, document, none⟩ now {} =
            (.ok asset, stored) ∧
          asset.id = id ∧ asset.version = version ∧ asset.sha256 = sha256 ∧
          asset.generation = 1) ∧
      ∀ asset stored, put serde catalog ⟨controlApiSchemaVersion, kind, document, none⟩ now {} =
          (.ok asset, stored) → asset.id = id →
        ∃ found, get serde stored ⟨controlApiSchemaVersion, kind, id⟩ {} = .ok found ∧
          found.document = document) ∧
    ∀ s, CatalogWorld.Reached serde (fun _ _ => True) s →
      ∀ kind id row, s.catalog.find kind id = some row →
        ∃ document, serde.toString document = .ok row.document ∧ document.Secretless := by
  refine ⟨?_, ?_⟩
  · intro catalog kind document id version sha256 now absent roundTrip
    refine ⟨?_, ?_⟩
    · rw [validate_ok]
      constructor
      · rintro ⟨clean, valid, encoded, text, rfl⟩
        exact ⟨_, _, put_create absent clean valid text now, rfl, rfl, rfl, rfl⟩
      · rintro ⟨asset, stored, answered, rfl, rfl, rfl, _⟩
        obtain ⟨id, version, encoded, clean, valid, text, puts⟩ := put_ok answered
        refine ⟨(rejectEmbeddedSecrets_ok _).mpr clean, ?_⟩
        cases puts with
        | same found reads =>
            rw [reads.id, found] at absent
            cases absent
        | update found => exact absurd (found.symm.trans absent) nofun
        | create => exact ⟨valid, encoded, text, rfl⟩
    · rintro asset stored answered rfl
      obtain ⟨id, version, encoded, clean, valid, text, puts⟩ := put_ok answered
      cases puts with
      | same found reads =>
          rw [reads.id, found] at absent
          cases absent
      | update found => exact absurd (found.symm.trans absent) nofun
      | create =>
          have found : (catalog.write kind id ⟨version, (1 : Nat), hexDigest (asBytes encoded),
              encoded, now, now⟩).find kind id =
              some ⟨version, (1 : Nat), hexDigest (asBytes encoded), encoded, now, now⟩ := by
            rw [Catalog.find_write, if_pos ⟨rfl, rfl⟩]
          exact ⟨_, get_found (validateDocument_id valid) found (roundTrip encoded text), rfl⟩
  · intro s reached kind id row found
    obtain ⟨document, own⟩ := reached.filled kind id row found
    exact ⟨document, own.text, own.secretless⟩

end NousKernel
