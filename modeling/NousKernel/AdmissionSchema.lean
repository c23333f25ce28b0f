import NousKernel.Permits
import NousKernel.Schemas

/-!
The published schema of an admission request
(`spec/open-runtime/v1/extension-admission.schema.json`), the decoder of the type and the
check beside it. They accept the same requests, but for two things: the check lets the
first segment of a capability begin with any of its characters, where the schema wants a
letter, and the decoder wants integers where the schema wants integral numbers.
-/

set_option autoImplicit false

namespace NousKernel

open Results
open scoped Computability

/-! ### The schema -/

namespace Schema

/-- `^sha256:[0-9a-f]{64}$`. -/
def digestPattern : Language Char :=
  Patterns.literal "sha256:".toList *
    Patterns.one (fun c => '0' ≤ c && c ≤ '9' || 'a' ≤ c && c ≤ 'f') ^ 64

/-- `[a-z0-9_-]`. -/
def nameCharacter (c : Char) : Bool :=
  'a' ≤ c && c ≤ 'z' || '0' ≤ c && c ≤ '9' || c = '_' || c = '-'

/-- `^[a-z][a-z0-9_-]*(\.[a-z0-9_-]+)+$`. -/
def capabilityPattern : Language Char :=
  Patterns.one (fun c => 'a' ≤ c && c ≤ 'z') * (Patterns.one nameCharacter)∗ *
    Patterns.plus (Patterns.literal ['.'] * Patterns.plus (Patterns.one nameCharacter))

def digest : Schema := allOf [string, pattern digestPattern]

def capabilityRequestProperties : List (String × Schema) := [
  ("capability", allOf [string, pattern capabilityPattern]),
  ("access", enum ["read", "write", "execute", "connect", "use"]),
  ("scope", allOf [array, items (allOf [string, minLength 1])]),
  ("reason", string),
  ("required", boolean)]

def capabilityRequest : Schema :=
  allOf [object, required ["capability", "access", "scope", "reason", "required"],
    properties capabilityRequestProperties never]

def metadataProperties : List (String × Schema) := [
  ("authority", enum ["none"]),
  ("supply_chain_verified", enum ["true"]),
  ("normalized_ir_digest", digest),
  ("sbom_digest", digest),
  ("provenance_digest", digest),
  ("signature_status", enum ["Unsigned", "Verified"]),
  ("signature_digest", digest)]

def metadata : Schema :=
  allOf [object,
    required ["authority", "supply_chain_verified", "normalized_ir_digest", "sbom_digest",
      "provenance_digest", "signature_status", "signature_digest"],
    properties metadataProperties string]

def extensionAdmissionProperties : List (String × Schema) := [
  ("schema_version", constNumber 1),
  ("extension_id", allOf [string, minLength 1]),
  ("version", allOf [string, minLength 1]),
  ("content_digest", digest),
  ("source_format", allOf [string, minLength 1]),
  ("compatibility_level", allOf [integer, minimum 0, maximum 5]),
  ("kinds", allOf [array, minItems 1, uniqueItems,
    items (enum ["skill", "tool", "plugin", "provider", "agent", "template", "pack"])]),
  ("capability_requests", allOf [array, items capabilityRequest]),
  ("executor", string),
  ("metadata", metadata)]

def extensionAdmission : Schema :=
  allOf [object,
    required ["schema_version", "extension_id", "version", "content_digest", "source_format",
      "compatibility_level", "kinds", "capability_requests", "executor", "metadata"],
    properties extensionAdmissionProperties never]

end Schema

/-! ### The decoder -/

namespace Decoder

def asBool : Value → Option Bool
  | .bool value => some value
  | _ => none

def asUnsigned (bound : Nat) : Value → Option Nat
  | .number (.PosInt value) => if value < bound then some value else none
  | _ => none

def asList {T : Type} (read : Value → Option T) : Value → Option (List T)
  | .array items => items.mapM read
  | _ => none

def asTextMap : Value → Option (TextMap String)
  | .object members => members.foldlM (fun entries (member : String × Value) => do
      return entries.insert member.1 (← member.2.asStr)) ∅
  | _ => none

/-- `deny_unknown_fields`. -/
def known (fields : List String) (members : List (String × Value)) : Bool :=
  members.all (·.1 ∈ fields)

/-- A member, or the default of its field. -/
def member {T : Type} (read : Value → Option T) (default : T) (members : List (String × Value))
    (field : String) : Option T :=
  match (Value.object members).get field with
  | some value => read value
  | none => some default

/-- An element of a sequence, which may end before it. -/
def element {T : Type} (read : Value → Option T) (default : T) (items : List Value) (index : Nat) :
    Option T :=
  match items[index]? with
  | some value => read value
  | none => some default

end Decoder

open Decoder

namespace ExtensionCapabilityRequest

def visitMap (members : List (String × Value)) : Option ExtensionCapabilityRequest := do
  guard (known ["capability", "access", "scope", "reason", "required"] members)
  let capability ← member Value.asStr "" members "capability"
  let access ← member Value.asStr "" members "access"
  let scope ← member (asList Value.asStr) [] members "scope"
  let reason ← member Value.asStr "" members "reason"
  let needed ← member asBool false members "required"
  return ⟨capability, access, scope, reason, needed⟩

def visitSeq (items : List Value) : Option ExtensionCapabilityRequest := do
  let capability ← element Value.asStr "" items 0
  let access ← element Value.asStr "" items 1
  let scope ← element (asList Value.asStr) [] items 2
  let reason ← element Value.asStr "" items 3
  let needed ← element asBool false items 4
  guard (items.length ≤ 5)
  return ⟨capability, access, scope, reason, needed⟩

/-- The derived decoder; `none` is any of its errors. -/
def deserialize : Value → Option ExtensionCapabilityRequest
  | .object members => visitMap members
  | .array items => visitSeq items
  | _ => none

end ExtensionCapabilityRequest

namespace ExtensionAdmissionRequest

def fields : List String :=
  ["schema_version", "extension_id", "version", "content_digest", "source_format",
    "compatibility_level", "kinds", "capability_requests", "executor", "metadata"]

def visitMap (members : List (String × Value)) : Option ExtensionAdmissionRequest := do
  guard (known fields members)
  let schemaVersion ← member (asUnsigned (2 ^ 32)) 0 members "schema_version"
  let extensionId ← member Value.asStr "" members "extension_id"
  let version ← member Value.asStr "" members "version"
  let contentDigest ← member Value.asStr "" members "content_digest"
  let sourceFormat ← member Value.asStr "" members "source_format"
  let compatibilityLevel ← member (asUnsigned (2 ^ 8)) 0 members "compatibility_level"
  let kinds ← member (asList Value.asStr) [] members "kinds"
  let capabilityRequests ←
    member (asList ExtensionCapabilityRequest.deserialize) [] members "capability_requests"
  let executor ← member Value.asStr "" members "executor"
  let metadata ← member asTextMap ∅ members "metadata"
  return ⟨schemaVersion, extensionId, version, contentDigest, sourceFormat, compatibilityLevel,
    kinds, capabilityRequests, executor, metadata⟩

def visitSeq (items : List Value) : Option ExtensionAdmissionRequest := do
  let schemaVersion ← element (asUnsigned (2 ^ 32)) 0 items 0
  let extensionId ← element Value.asStr "" items 1
  let version ← element Value.asStr "" items 2
  let contentDigest ← element Value.asStr "" items 3
  let sourceFormat ← element Value.asStr "" items 4
  let compatibilityLevel ← element (asUnsigned (2 ^ 8)) 0 items 5
  let kinds ← element (asList Value.asStr) [] items 6
  let capabilityRequests ← element (asList ExtensionCapabilityRequest.deserialize) [] items 7
  let executor ← element Value.asStr "" items 8
  let metadata ← element asTextMap ∅ items 9
  guard (items.length ≤ 10)
  return ⟨schemaVersion, extensionId, version, contentDigest, sourceFormat, compatibilityLevel,
    kinds, capabilityRequests, executor, metadata⟩

/-- The derived decoder; `none` is any of its errors. -/
def deserialize : Value → Option ExtensionAdmissionRequest
  | .object members => visitMap members
  | .array items => visitSeq items
  | _ => none

/-- A document that is decoded and passes the check. -/
def accepts (document : Value) : Prop :=
  ∃ request, deserialize document = some request ∧ request.validate = .ok ()

end ExtensionAdmissionRequest

/-! ### The JSON form -/

mutual

def jsonValue : Json → Value
  | .bool value => .bool value
  | .num value => .number (.PosInt value)
  | .str text => .string text
  | .arr items => .array (jsonItems items)
  | .obj members => .object (jsonMembers members)

def jsonItems : List Json → List Value
  | [] => []
  | item :: items => jsonValue item :: jsonItems items

def jsonMembers : List (String × Json) → List (String × Value)
  | [] => []
  | (key, value) :: members => (key, jsonValue value) :: jsonMembers members

end

theorem jsonItems_eq (items : List Json) : jsonItems items = items.map jsonValue := by
  induction items with
  | nil => rfl
  | cons item items ih => rw [jsonItems, ih, List.map_cons]

theorem jsonMembers_eq (members : List (String × Json)) :
    jsonMembers members = members.map fun member => (member.1, jsonValue member.2) := by
  induction members with
  | nil => rfl
  | cons member members ih => rw [jsonMembers, ih, List.map_cons]

theorem jsonValue_texts (texts : List String) :
    jsonValue (Json.texts texts) = .array (texts.map .string) := by
  rw [Json.texts, jsonValue, jsonItems_eq, List.map_map]
  rfl

namespace ExtensionCapabilityRequest

/-- The JSON form of a request. -/
def form (request : ExtensionCapabilityRequest) : Value := jsonValue request.toJson

theorem form_eq (request : ExtensionCapabilityRequest) :
    request.form = .object [("access", .string request.access),
      ("capability", .string request.capability), ("reason", .string request.reason),
      ("required", .bool request.required), ("scope", .array (request.scope.map .string))] := by
  simp only [form, toJson, jsonValue, jsonMembers, jsonValue_texts]

end ExtensionCapabilityRequest

namespace ExtensionAdmissionRequest

/-- The JSON form of a request. -/
def form (request : ExtensionAdmissionRequest) : Value := jsonValue request.toJson

theorem form_eq (request : ExtensionAdmissionRequest) :
    request.form = .object [("capability_requests", .array (request.capabilityRequests.map (·.form))),
      ("compatibility_level", .number (.PosInt request.compatibilityLevel)),
      ("content_digest", .string request.contentDigest), ("executor", .string request.executor),
      ("extension_id", .string request.extensionId), ("kinds", .array (request.kinds.map .string)),
      ("metadata", .object (request.metadata.toList.map fun entry => (entry.1, .string entry.2))),
      ("schema_version", .number (.PosInt request.schemaVersion)),
      ("source_format", .string request.sourceFormat), ("version", .string request.version)] := by
  simp only [form, toJson, jsonValue, jsonMembers, jsonMembers_eq, jsonItems_eq, jsonValue_texts,
    List.map_map]
  rfl

end ExtensionAdmissionRequest

/-! ### Patterns -/

/-- A name that begins with a lowercase letter. -/
def Lettered (name : String) : Prop :=
  ∃ c, name.toList.head? = some c ∧ isAsciiLowercase c = true

namespace Schema

theorem byteLength_ascii {characters : List Char} (ascii : ∀ c ∈ characters, c.toNat < 128) :
    byteLength (String.ofList characters) = characters.length := by
  unfold byteLength
  induction characters with
  | nil => rfl
  | cons c characters ih =>
      obtain ⟨single, others⟩ := List.forall_mem_cons.mp ascii
      have narrow : c.utf8Size = 1 :=
        Char.utf8Size_eq_one_iff.mpr (UInt32.le_iff_toNat_le.mpr (Nat.le_of_lt_succ single))
      have front : String.ofList (c :: characters) =
          String.singleton c ++ String.ofList characters := by
        rw [← String.toList_inj]
        simp
      rw [front, String.utf8ByteSize_append, String.utf8ByteSize_singleton, narrow, ih others,
        List.length_cons, Nat.add_comm]

theorem hexDigit_ascii (c : Char) (digit : isLowerHexDigit c = true) : c.toNat < 128 := by
  simp only [isLowerHexDigit, isAsciiDigit, Bool.or_eq_true, Bool.and_eq_true, decide_eq_true_eq,
    Char.le_def, UInt32.le_iff_toNat_le] at digit
  rcases digit with ⟨-, upper⟩ | ⟨-, upper⟩
  · exact Nat.lt_of_le_of_lt upper (by decide)
  · exact Nat.lt_of_le_of_lt upper (by decide)

/-- The seven characters of the prefix and the digits are one byte each. -/
theorem byteLength_digest {text : String} {digits : List Char}
    (hex : ∀ c ∈ digits, isLowerHexDigit c = true)
    (joined : "sha256:".toList ++ digits = text.toList) : byteLength text = 7 + digits.length := by
  have front : ("sha256:".toList.all fun c => c.toNat < 128) = true := by decide +kernel
  have whole : text = String.ofList ("sha256:".toList ++ digits) := by
    rw [joined, String.ofList_toList]
  rw [whole, byteLength_ascii, List.length_append]
  · rfl
  · intro c member
    rcases List.mem_append.mp member with head | tail
    · exact of_decide_eq_true (List.all_eq_true.mp front c head)
    · exact hexDigit_ascii c (hex c tail)

theorem digest_iff (text : String) :
    text.toList ∈ digestPattern ↔ lowercaseDigest text = true := by
  rw [digestPattern, Patterns.mem_literal_mul]
  simp only [Patterns.mem_one_pow, lowercaseDigest, Bool.and_eq_true, decide_eq_true_eq,
    List.all_eq_true]
  constructor
  · rintro ⟨digits, ⟨length, hex⟩, joined⟩
    refine ⟨⟨?_, ?_⟩, ?_⟩
    · rw [byteLength_digest hex joined, length]
    · rw [← joined]
      exact List.isPrefixOf_iff_prefix.mpr (List.prefix_append _ _)
    · rw [← joined]
      exact hex
  · rintro ⟨⟨length, front⟩, hex⟩
    obtain ⟨digits, joined⟩ := List.isPrefixOf_iff_prefix.mp front
    rw [← joined] at hex
    have tail : ∀ c ∈ digits, isLowerHexDigit c = true := hex
    rw [byteLength_digest tail joined] at length
    exact ⟨digits, ⟨by omega, tail⟩, joined⟩

theorem capability_iff (name : String) :
    name.toList ∈ capabilityPattern ↔ capabilityName name = true ∧ Lettered name := by
  have within : ∀ c, isAsciiLowercase c = true → nameCharacter c = true := by
    intro c lower
    simp only [isAsciiLowercase] at lower
    simp [nameCharacter, lower]
  have segments : name.toList ∈ Patterns.segments nameCharacter '.' ↔ capabilityName name = true := by
    rw [Patterns.mem_segments (by decide)]
    simp only [capabilityName, capabilitySegment, Bool.and_eq_true, List.all_eq_true,
      decide_eq_true_eq, nameCharacter, isAsciiLowercase, isAsciiDigit]
    exact and_comm
  rw [← segments]
  exact Patterns.mem_headed within

end Schema

/-! ### What the check and the schema say of a request -/

/-- The entries of the metadata that admission rests on. -/
structure Evidence (metadata : TextMap String) : Prop where
  authority : metadata["authority"]? = some "none"
  supplyChain : metadata["supply_chain_verified"]? = some "true"
  digests : ∀ field ∈ ExtensionAdmissionRequest.supplyChainDigests, ∃ text,
    metadata[field]? = some text ∧ lowercaseDigest text = true
  signature : ∃ status ∈ ["Unsigned", "Verified"], metadata["signature_status"]? = some status

structure ExtensionAdmissionRequest.Admissible (request : ExtensionAdmissionRequest) : Prop where
  schemaVersion : request.schemaVersion = 1
  extensionId : isBlank request.extensionId = false
  version : isBlank request.version = false
  sourceFormat : isBlank request.sourceFormat = false
  compatibilityLevel : request.compatibilityLevel ≤ 5
  contentDigest : lowercaseDigest request.contentDigest = true
  metadata : Evidence request.metadata
  someKind : request.kinds ≠ []
  kinds : ∀ kind ∈ request.kinds, kind ∈ allowedKinds
  distinct : request.kinds.Nodup
  capabilities : ∀ item ∈ request.capabilityRequests, capabilityName item.capability = true
  access : ∀ item ∈ request.capabilityRequests,
    item.access ∈ ["read", "write", "execute", "connect", "use"]
  scope : ∀ item ∈ request.capabilityRequests, scopeValues item.scope = true
  executor : "plugin" ∈ request.kinds → request.executor ≠ ""

theorem lowercaseDigest_entry {metadata : TextMap String} {field : String} :
    lowercaseDigest (metadata[field]?.getD "") = true ↔
      ∃ text, metadata[field]? = some text ∧ lowercaseDigest text = true := by
  cases metadata[field]? with
  | none => simp [lowercaseDigest]
  | some text => simp

theorem ExtensionAdmissionRequest.validate_iff {request : ExtensionAdmissionRequest} :
    request.validate = .ok () ↔ request.Admissible := by
  simp only [validate, checks_ok, check_ok, required_ok, schema_ok, forM_ok,
    ExtensionCapabilityRequest.validate, lowercaseDigest_entry, Bool.and_eq_true, Bool.or_eq_true,
    decide_eq_true_eq, List.all_eq_true, Bool.not_eq_true', Bool.and_eq_false_iff,
    decide_eq_false_iff_not]
  constructor
  · rintro ⟨schemaVersion, extensionId, version, sourceFormat, level, contentDigest, authority,
      supplyChain, digests, signature, ⟨some, kinds⟩, distinct, requests, executor⟩
    have evidence : Evidence request.metadata := by
      refine ⟨authority, supplyChain, digests, ?_⟩
      rcases signature with unsigned | verified
      · exact ⟨"Unsigned", by decide, unsigned⟩
      · exact ⟨"Verified", by decide, verified⟩
    exact ⟨schemaVersion, extensionId, version, sourceFormat, level, contentDigest, evidence, some,
      kinds, distinct, fun item listed => (requests item listed).1,
      fun item listed => (requests item listed).2.1,
      fun item listed => (requests item listed).2.2,
      fun plugin => executor.resolve_left (not_not_intro plugin)⟩
  · intro admissible
    obtain ⟨authority, supplyChain, digests, status, listed, signature⟩ := admissible.metadata
    have signed : request.metadata["signature_status"]? = some "Unsigned" ∨
        request.metadata["signature_status"]? = some "Verified" := by
      rcases List.mem_pair.mp listed with rfl | rfl
      · exact Or.inl signature
      · exact Or.inr signature
    exact ⟨admissible.schemaVersion, admissible.extensionId, admissible.version,
      admissible.sourceFormat, admissible.compatibilityLevel, admissible.contentDigest, authority,
      supplyChain, digests, signed, ⟨admissible.someKind, admissible.kinds⟩, admissible.distinct,
      fun item listed => ⟨admissible.capabilities item listed, admissible.access item listed,
        admissible.scope item listed⟩,
      Decidable.not_or_of_imp admissible.executor⟩

section Forms

open Schema

theorem ExtensionCapabilityRequest.form_meets (request : ExtensionCapabilityRequest) :
    capabilityRequest request.form ↔ request.capability.toList ∈ capabilityPattern ∧
      request.access ∈ ["read", "write", "execute", "connect", "use"] ∧
      ∀ item ∈ request.scope, 1 ≤ item.length := by
  rw [form_eq]
  simp [capabilityRequest, capabilityRequestProperties, allOf_cons, allOf_nil, object,
    Schema.required, properties, string, pattern, enum, array, items, minLength, boolean]

theorem entry_listed {metadata : TextMap String} {name : String} {value : Value} :
    (name, value) ∈ metadata.toList.map (fun entry => (entry.1, Value.string entry.2)) ↔
      ∃ text, metadata[name]? = some text ∧ value = .string text := by
  simp only [List.mem_map, Prod.mk.injEq, Prod.exists, Std.ExtTreeMap.mem_toList_iff_getElem?_eq_some]
  constructor
  · rintro ⟨_, text, found, rfl, rfl⟩
    exact ⟨text, found, rfl⟩
  · rintro ⟨text, found, rfl⟩
    exact ⟨name, text, found, rfl, rfl⟩

theorem digest_string (text : String) : digest (.string text) ↔ lowercaseDigest text = true := by
  simp [digest, allOf_cons, allOf_nil, string, pattern, digest_iff]

/-- Entries that are required and declared are there and meet what is declared. -/
theorem entries_meet {entries : TextMap String} {declared : List (String × Schema)}
    {additional : Schema} (texts : ∀ text, additional (.string text)) :
    Schema.required (declared.map (·.1))
        (.object (entries.toList.map fun entry => (entry.1, .string entry.2))) ∧
      properties declared additional
        (.object (entries.toList.map fun entry => (entry.1, .string entry.2))) ↔
      ∀ property ∈ declared, ∃ text, entries[property.1]? = some text ∧
        property.2 (.string text) := by
  simp only [Schema.required, properties, entry_listed, List.forall_mem_map]
  constructor
  · rintro ⟨needs, meets, -⟩ property known
    obtain ⟨_, text, found, rfl⟩ := needs property known
    exact ⟨text, found, meets property known _ ⟨text, found, rfl⟩⟩
  · intro held
    refine ⟨?_, ?_, fun entry _ _ => texts entry.2⟩
    · intro property known
      obtain ⟨text, found, -⟩ := held property known
      exact ⟨.string text, text, found, rfl⟩
    · rintro property known _ ⟨text, found, rfl⟩
      obtain ⟨other, present, meets⟩ := held property known
      rw [found, Option.some.injEq] at present
      exact present ▸ meets

theorem evidence_iff {entries : TextMap String} :
    (∀ property ∈ metadataProperties, ∃ text, entries[property.1]? = some text ∧
      property.2 (.string text)) ↔ Evidence entries := by
  have single : ∀ name text : String,
      (∃ found, entries[name]? = some found ∧ enum [text] (.string found)) ↔
        entries[name]? = some text := by
    intro name text
    simp [enum]
  simp only [metadataProperties, List.forall_mem_cons, single, digest_string]
  constructor
  · rintro ⟨authority, supplyChain, ir, sbom, provenance, ⟨status, signature, listed⟩, signed, -⟩
    refine ⟨authority, supplyChain, ?_, status, listed, signature⟩
    simp only [ExtensionAdmissionRequest.supplyChainDigests, List.forall_mem_cons]
    exact ⟨ir, sbom, provenance, signed, fun field none => absurd none List.not_mem_nil⟩
  · rintro ⟨authority, supplyChain, digests, status, listed, signature⟩
    simp only [ExtensionAdmissionRequest.supplyChainDigests, List.forall_mem_cons] at digests
    obtain ⟨ir, sbom, provenance, signed, -⟩ := digests
    exact ⟨authority, supplyChain, ir, sbom, provenance, ⟨status, signature, listed⟩, signed,
      fun property none => absurd none List.not_mem_nil⟩

/-- The metadata that meets the schema is the one with the evidence. -/
theorem metadata_meets (entries : TextMap String) :
    metadata (.object (entries.toList.map fun entry => (entry.1, .string entry.2))) ↔
      Evidence entries := by
  simp only [metadata, allOf_cons, allOf_nil, object, true_and, and_true]
  exact (entries_meet fun _ => trivial).trans evidence_iff

theorem scopeValues_iff {scope : List String} :
    scopeValues scope = true ↔ ∀ item ∈ scope, item ≠ "" ∧ '\x00' ∉ item.toList := by
  simp [scopeValues]

theorem length_of_solid {text : String} (solid : isBlank text = false) : 1 ≤ text.length := by
  by_contra short
  have empty : text.toList = [] := by
    rw [← List.length_eq_zero_iff, String.length_toList]
    omega
  rw [isBlank, empty] at solid
  cases solid

theorem ExtensionAdmissionRequest.form_meets (request : ExtensionAdmissionRequest) :
    extensionAdmission request.form ↔ request.schemaVersion = 1 ∧ 1 ≤ request.extensionId.length ∧
      1 ≤ request.version.length ∧ lowercaseDigest request.contentDigest = true ∧
      1 ≤ request.sourceFormat.length ∧ request.compatibilityLevel ≤ 5 ∧
      (1 ≤ request.kinds.length ∧ request.kinds.Nodup ∧ ∀ kind ∈ request.kinds, kind ∈ allowedKinds) ∧
      (∀ item ∈ request.capabilityRequests, capabilityRequest item.form) ∧
      Evidence request.metadata := by
  have whole : ∃ whole : Int, (request.compatibilityLevel : ℚ) = whole :=
    ⟨request.compatibilityLevel, (Int.cast_natCast _).symm⟩
  have texts : (request.kinds.map Value.string).Nodup ↔ request.kinds.Nodup :=
    List.nodup_map_iff fun _ _ => Value.string.inj
  rw [form_eq]
  simp [extensionAdmission, extensionAdmissionProperties, allOf_cons, allOf_nil, object,
    Schema.required, properties, string, enum, array, items, minLength, minItems, uniqueItems,
    integer, minimum, maximum, constNumber, digest_string, metadata_meets, Number.value, whole,
    texts, allowedKinds]

/-- The form of a request that passes the check meets the schema when every capability begins
with a letter. -/
theorem form_meets_iff {request : ExtensionAdmissionRequest} (admissible : request.Admissible) :
    extensionAdmission request.form ↔ ∀ capability ∈ request.requested, Lettered capability := by
  rw [request.form_meets]
  constructor
  · rintro ⟨-, -, -, -, -, -, -, requests, -⟩ capability asked
    obtain ⟨item, listed, rfl⟩ := List.mem_map.mp asked
    have meets := (item.form_meets.mp (requests item listed)).1
    exact ((capability_iff item.capability).mp meets).2
  · intro letters
    have some : 1 ≤ request.kinds.length := List.length_pos_iff.mpr admissible.someKind
    refine ⟨admissible.schemaVersion, length_of_solid admissible.extensionId,
      length_of_solid admissible.version, admissible.contentDigest,
      length_of_solid admissible.sourceFormat, admissible.compatibilityLevel,
      ⟨some, admissible.distinct, admissible.kinds⟩, ?_, admissible.metadata⟩
    intro item listed
    have letter := letters item.capability (List.mem_map_of_mem listed)
    refine item.form_meets.mpr ⟨(capability_iff _).mpr ⟨admissible.capabilities item listed, letter⟩,
      admissible.access item listed, ?_⟩
    intro text member
    have filled := (scopeValues_iff.mp (admissible.scope item listed) text member).1
    rw [ne_eq, ← String.length_eq_zero_iff] at filled
    omega

end Forms

/-! ### Documents -/

/-- The texts of a document that are not blank, hold no NUL, or name an executor. -/
structure Worded (document : Value) : Prop where
  solid : ∀ field ∈ ["extension_id", "version", "source_format"], ∀ text,
    document.get field = some (.string text) → isBlank text = false
  clean : ∀ requests, document.get "capability_requests" = some (.array requests) →
    ∀ request ∈ requests, ∀ scope, request.get "scope" = some (.array scope) →
      ∀ text, .string text ∈ scope → '\x00' ∉ text.toList
  executor : ∀ kinds, document.get "kinds" = some (.array kinds) → .string "plugin" ∈ kinds →
    document.get "executor" ≠ some (.string "")

/-- The numbers of a document are written as integers. -/
def Integral (document : Value) : Prop :=
  ∀ field ∈ ["schema_version", "compatibility_level"], ∃ number,
    document.get field = some (.number (.PosInt number))

section Documents

open Schema

theorem string_iff {value : Value} : string value ↔ ∃ text, value = .string text := by
  cases value <;> simp [string]

theorem enum_iff {texts : List String} {value : Value} :
    enum texts value ↔ ∃ text ∈ texts, value = .string text := by
  cases value <;> simp [enum]

theorem array_iff {value : Value} : array value ↔ ∃ items, value = .array items := by
  cases value <;> simp [array]

theorem object_iff {value : Value} : object value ↔ ∃ members, value = .object members := by
  cases value <;> simp [object]

theorem boolean_iff {value : Value} : boolean value ↔ ∃ flag, value = .bool flag := by
  cases value <;> simp [boolean]

theorem member_eq {T : Type} {read : Value → Option T} {default : T}
    {members : List (String × Value)} {field : String} {value : Value}
    (found : (Value.object members).get field = some value) :
    member read default members field = read value := by
  rw [member, found]

theorem asList_read {T : Type} {read : Value → Option T} {good : T → Prop} (values : List Value)
    (each : ∀ value ∈ values, ∃ item, read value = some item ∧ good item) :
    ∃ items, asList read (.array values) = some items ∧ ∀ item ∈ items, good item := by
  rw [asList]
  induction values with
  | nil => exact ⟨[], rfl, fun item none => absurd none List.not_mem_nil⟩
  | cons value values ih =>
      obtain ⟨⟨item, first, meets⟩, others⟩ := List.forall_mem_cons.mp each
      obtain ⟨items, rest, all⟩ := ih others
      refine ⟨item :: items, ?_, List.forall_mem_cons.mpr ⟨meets, all⟩⟩
      rw [List.mapM_cons, first, rest]
      rfl

theorem asList_texts (values : List Value) (texts : ∀ value ∈ values, string value) :
    ∃ items, asList Value.asStr (.array values) = some items ∧ values = items.map .string := by
  rw [asList]
  induction values with
  | nil => exact ⟨[], rfl, rfl⟩
  | cons value values ih =>
      obtain ⟨first, others⟩ := List.forall_mem_cons.mp texts
      obtain ⟨text, rfl⟩ := string_iff.mp first
      obtain ⟨items, rest, same⟩ := ih others
      refine ⟨text :: items, ?_, by rw [same, List.map_cons]⟩
      rw [List.mapM_cons, rest]
      rfl

/-- A request that meets the schema is decoded, and passes its check. -/
theorem request_read {value : Value} (meets : capabilityRequest value)
    (clean : ∀ scope, value.get "scope" = some (.array scope) →
      ∀ text, .string text ∈ scope → '\x00' ∉ text.toList) :
    ∃ request, ExtensionCapabilityRequest.deserialize value = some request ∧
      capabilityName request.capability = true ∧
      request.access ∈ ["read", "write", "execute", "connect", "use"] ∧
      scopeValues request.scope = true := by
  simp only [capabilityRequest, allOf_cons, allOf_nil, and_true] at meets
  obtain ⟨shape, needs, declared⟩ := meets
  obtain ⟨members, rfl⟩ := object_iff.mp shape
  have fields := required_meets capabilityRequestProperties needs declared
  simp only [capabilityRequestProperties, List.forall_mem_cons] at fields
  obtain ⟨⟨_, capability, named⟩, ⟨_, access, listed⟩, ⟨_, scope, filled⟩, ⟨_, reason, text⟩,
    ⟨_, needed, flag⟩, -⟩ := fields
  simp only [allOf_cons, allOf_nil, and_true] at named filled
  obtain ⟨capability', rfl⟩ := string_iff.mp named.1
  obtain ⟨access', among, rfl⟩ := enum_iff.mp listed
  obtain ⟨scope', rfl⟩ := array_iff.mp filled.1
  obtain ⟨reason', rfl⟩ := string_iff.mp text
  obtain ⟨needed', rfl⟩ := boolean_iff.mp flag
  obtain ⟨items, read, same⟩ := asList_texts scope' fun value member =>
    (allOf_cons.mp (filled.2 value member)).1
  have known : known ["capability", "access", "scope", "reason", "required"] members = true := by
    rw [known, List.all_eq_true]
    exact fun member listed => decide_eq_true (declared_of_never declared member listed)
  refine ⟨⟨capability', access', items, reason', needed'⟩, ?_, ?_, among, ?_⟩
  · simp [ExtensionCapabilityRequest.deserialize, ExtensionCapabilityRequest.visitMap, known,
      member_eq capability, member_eq access, member_eq scope, member_eq reason, member_eq needed,
      read, Value.asStr, asBool]
  · exact ((capability_iff capability').mp named.2).1
  · rw [scopeValues_iff]
    intro item member
    have listed : Value.string item ∈ scope' := same ▸ List.mem_map_of_mem member
    have long := (filled.2 _ listed) (minLength 1) (.tail _ (.head _))
    refine ⟨?_, clean scope' scope item listed⟩
    rintro rfl
    exact absurd (show 1 ≤ "".length from long) (by decide)

/-- Texts are collected under their names. -/
theorem asTextMap_read {members : List (String × Value)}
    (texts : ∀ member ∈ members, string member.2) :
    ∃ entries, asTextMap (.object members) = some entries ∧
      (∀ name text, entries[name]? = some text → (name, .string text) ∈ members) ∧
      ∀ member ∈ members, member.1 ∈ entries := by
  have collected : ∀ start : TextMap String, ∃ entries : TextMap String,
      members.foldlM (fun entries (member : String × Value) => do
        return entries.insert member.1 (← member.2.asStr)) start = some entries ∧
      (∀ name text, entries[name]? = some text →
        (name, .string text) ∈ members ∨ start[name]? = some text) ∧
      (∀ member ∈ members, member.1 ∈ entries) ∧ ∀ name ∈ start, name ∈ entries := by
    induction members with
    | nil =>
        intro start
        exact ⟨start, rfl, fun _ _ found => Or.inr found,
          fun member none => absurd none List.not_mem_nil, fun _ held => held⟩
    | cons member members ih =>
        intro start
        obtain ⟨first, others⟩ := List.forall_mem_cons.mp texts
        obtain ⟨key, value⟩ := member
        obtain ⟨text, rfl⟩ := string_iff.mp first
        obtain ⟨entries, read, listed, held, kept⟩ := ih others (start.insert key text)
        refine ⟨entries, read, ?_, ?_, ?_⟩
        · intro name other found
          rcases listed name other found with later | now
          · exact Or.inl (.tail _ later)
          · rw [Std.ExtTreeMap.getElem?_insert] at now
            split at now
            · rename_i same
              rw [Std.LawfulEqCmp.compare_eq_iff_eq] at same
              rw [Option.some.injEq] at now
              subst same now
              exact Or.inl (.head _)
            · exact Or.inr now
        · refine List.forall_mem_cons.mpr ⟨?_, held⟩
          exact kept key (Std.ExtTreeMap.mem_insert.mpr (Or.inl Std.ReflCmp.compare_self))
        · exact fun name old => kept name (Std.ExtTreeMap.mem_insert.mpr (Or.inr old))
  obtain ⟨entries, read, listed, held, -⟩ := collected ∅
  refine ⟨entries, read, ?_, held⟩
  intro name text found
  exact (listed name text found).resolve_right (by simp)

theorem metadata_read {value : Value} (meets : metadata value) :
    ∃ entries, asTextMap value = some entries ∧ Evidence entries := by
  simp only [metadata, allOf_cons, allOf_nil, and_true] at meets
  obtain ⟨shape, needs, declared⟩ := meets
  obtain ⟨members, rfl⟩ := object_iff.mp shape
  have enums : ∀ (texts : List String) (value : Value), enum texts value → string value := by
    intro texts value listed
    obtain ⟨text, -, rfl⟩ := enum_iff.mp listed
    trivial
  have digests : ∀ value : Value, digest value → string value :=
    fun value meets => (allOf_cons.mp meets).1
  have texts : ∀ property ∈ metadataProperties, ∀ value, property.2 value → string value := by
    simp only [metadataProperties, List.forall_mem_cons]
    exact ⟨enums _, enums _, digests, digests, digests, enums _, digests,
      fun property none => absurd none List.not_mem_nil⟩
  have all : ∀ member ∈ members, string member.2 := by
    intro member listed
    by_cases known : member.1 ∈ metadataProperties.map (·.1)
    · obtain ⟨property, held, same⟩ := List.mem_map.mp known
      exact texts property held _ (declared.1 property held member.2 (same ▸ listed))
    · exact declared.2 member listed known
  obtain ⟨entries, read, listed, held⟩ := asTextMap_read all
  refine ⟨entries, read, evidence_iff.mp ?_⟩
  intro property known
  obtain ⟨value, present⟩ := needs property.1 (List.mem_map_of_mem (f := (·.1)) known)
  have entry := held _ present
  rw [Std.ExtTreeMap.mem_iff_isSome_getElem?, Option.isSome_iff_exists] at entry
  obtain ⟨text, found⟩ := entry
  exact ⟨text, found, declared.1 property known _ (listed _ _ found)⟩

theorem asUnsigned_some {bound number : Nat} {value : Value} :
    asUnsigned bound value = some number ↔ value = .number (.PosInt number) ∧ number < bound := by
  unfold asUnsigned
  split
  · rename_i other
    rw [Value.number.injEq, Number.PosInt.injEq]
    split
    · rename_i small
      rw [Option.some.injEq]
      constructor
      · rintro rfl
        exact ⟨rfl, small⟩
      · exact And.left
    · rename_i large
      constructor
      · exact fun none => absurd none (Option.some_ne_none number).symm
      · rintro ⟨rfl, small⟩
        exact absurd small large
  · rename_i other
    constructor
    · exact fun none => absurd none (Option.some_ne_none number).symm
    · rintro ⟨rfl, -⟩
      exact (other number rfl).elim

/-- The decoder reads its numbers from integers only. -/
theorem integral_of_accepts {members : List (String × Value)} {schemaVersion level : Value}
    (version_held : (Value.object members).get "schema_version" = some schemaVersion)
    (level_held : (Value.object members).get "compatibility_level" = some level)
    (accepted : ExtensionAdmissionRequest.accepts (.object members)) :
    Integral (.object members) := by
  obtain ⟨request, decoded, -⟩ := accepted
  simp only [ExtensionAdmissionRequest.deserialize, ExtensionAdmissionRequest.visitMap,
    member_eq version_held, member_eq level_held, Option.bind_eq_bind,
    Option.bind_eq_some_iff] at decoded
  obtain ⟨-, -, number, first, -, -, -, -, -, -, -, -, number', second, -⟩ := decoded
  rw [(asUnsigned_some.mp first).1] at version_held
  rw [(asUnsigned_some.mp second).1] at level_held
  exact List.forall_mem_cons.mpr ⟨⟨number, version_held⟩, List.forall_mem_cons.mpr
    ⟨⟨number', level_held⟩, fun field none => absurd none List.not_mem_nil⟩⟩

/-- A document that meets the schema is accepted when its numbers are written as integers. -/
theorem accepts_iff {document : Value} (meets : extensionAdmission document)
    (worded : Worded document) :
    ExtensionAdmissionRequest.accepts document ↔ Integral document := by
  simp only [extensionAdmission, allOf_cons, allOf_nil, and_true] at meets
  obtain ⟨shape, needs, declared⟩ := meets
  obtain ⟨members, rfl⟩ := object_iff.mp shape
  have fields := required_meets extensionAdmissionProperties needs declared
  simp only [extensionAdmissionProperties, List.forall_mem_cons] at fields
  obtain ⟨⟨_, schemaVersion, one⟩, ⟨_, extensionId, identity⟩, ⟨_, version, release⟩,
    ⟨_, contentDigest, content⟩, ⟨_, sourceFormat, source⟩, ⟨_, compatibilityLevel, level⟩,
    ⟨_, kinds, kindly⟩, ⟨_, requests, requested⟩, ⟨_, executor, runner⟩,
    ⟨_, metadata, evidence⟩, -⟩ := fields
  simp only [digest, allOf_cons, allOf_nil, and_true] at identity release content source
  simp only [allOf_cons, allOf_nil, and_true] at level kindly requested
  obtain ⟨extensionId', rfl⟩ := string_iff.mp identity.1
  obtain ⟨version', rfl⟩ := string_iff.mp release.1
  obtain ⟨contentDigest', rfl⟩ := string_iff.mp content.1
  obtain ⟨sourceFormat', rfl⟩ := string_iff.mp source.1
  obtain ⟨kinds', rfl⟩ := array_iff.mp kindly.1
  obtain ⟨requests', rfl⟩ := array_iff.mp requested.1
  obtain ⟨executor', rfl⟩ := string_iff.mp runner
  constructor
  · exact integral_of_accepts schemaVersion compatibilityLevel
  · intro integral
    obtain ⟨number, written⟩ := integral "schema_version" (.head _)
    obtain ⟨number', written'⟩ := integral "compatibility_level" (.tail _ (.head _))
    rw [schemaVersion, Option.some.injEq] at written
    rw [compatibilityLevel, Option.some.injEq] at written'
    subst written written'
    have first : number = 1 := by
      have same : (number : ℚ) = 1 := one
      exact_mod_cast same
    have top : number' ≤ 5 := by
      have bound : (number' : ℚ) ≤ 5 := level.2.2
      exact_mod_cast bound
    have version_read : asUnsigned (2 ^ 32) (.number (.PosInt number)) = some number :=
      asUnsigned_some.mpr ⟨rfl, by omega⟩
    have level_read : asUnsigned (2 ^ 8) (.number (.PosInt number')) = some number' :=
      asUnsigned_some.mpr ⟨rfl, by omega⟩
    obtain ⟨names, kinds_read, same⟩ := asList_texts kinds' fun value member => by
      obtain ⟨text, -, rfl⟩ := enum_iff.mp (kindly.2.2.2 value member)
      trivial
    obtain ⟨items, requests_read, valid⟩ := asList_read requests' fun value member =>
      request_read (requested.2 value member) fun scope held =>
        worded.clean requests' requests value member scope held
    obtain ⟨entries, metadata_read, proven⟩ := metadata_read evidence
    have known : known ExtensionAdmissionRequest.fields members = true := by
      rw [known, List.all_eq_true]
      exact fun member listed => decide_eq_true (declared_of_never declared member listed)
    refine ⟨⟨number, extensionId', version', contentDigest', sourceFormat', number', names, items,
      executor', entries⟩, ?_, ExtensionAdmissionRequest.validate_iff.mpr ?_⟩
    · simp [-Nat.reducePow, ExtensionAdmissionRequest.deserialize,
        ExtensionAdmissionRequest.visitMap, known, member_eq schemaVersion, member_eq extensionId,
        member_eq version, member_eq contentDigest, member_eq sourceFormat,
        member_eq compatibilityLevel, member_eq kinds, member_eq requests, member_eq executor,
        member_eq metadata, version_read, level_read, kinds_read, requests_read, metadata_read,
        Value.asStr]
    · subst same
      have first_solid := worded.solid _ (.head _) _ extensionId
      have second_solid := worded.solid _ (.tail _ (.head _)) _ version
      have third_solid := worded.solid _ (.tail _ (.tail _ (.head _))) _ sourceFormat
      refine ⟨first, first_solid, second_solid, third_solid, top, (digest_iff _).mp content.2,
        proven, ?_, ?_, ?_, fun item listed => (valid item listed).1,
        fun item listed => (valid item listed).2.1, fun item listed => (valid item listed).2.2, ?_⟩
      · rintro rfl
        exact absurd (show 1 ≤ 0 from kindly.2.1) (by decide)
      · intro kind listed
        obtain ⟨text, among, equal⟩ := enum_iff.mp (kindly.2.2.2 _ (List.mem_map_of_mem listed))
        rw [Value.string.injEq] at equal
        exact equal ▸ among
      · exact List.Nodup.of_map _ kindly.2.2.1
      · rintro plugin rfl
        exact worded.executor _ kinds (List.mem_map_of_mem plugin) executor

end Documents

/-- The check implements the schema but for the first character of a capability, and the
decoder accepts what the schema does but for the way numbers are written. -/
theorem admission_schema_iff (request : ExtensionAdmissionRequest) (document : Value) :
    (request.validate = .ok () →
      (Schema.extensionAdmission request.form ↔
        ∀ capability ∈ request.requested, Lettered capability)) ∧
      (Schema.extensionAdmission document → Worded document →
        (ExtensionAdmissionRequest.accepts document ↔ Integral document)) := by
  constructor
  · intro valid
    exact form_meets_iff (ExtensionAdmissionRequest.validate_iff.mp valid)
  · intro meets worded
    exact accepts_iff meets worded

theorem worded_toolExtension : Worded toolExtension.form where
  solid := by
    rw [toolExtension.form_eq]
    simp only [List.forall_mem_cons]
    refine ⟨?_, ?_, ?_, fun field none => absurd none List.not_mem_nil⟩
    all_goals
      intro text held
      cases held
      decide +kernel
  clean := by
    intro requests held request listed scope named text member
    rw [toolExtension.form_eq] at held
    cases held
    rw [List.mem_singleton.mp listed] at named
    change (ExtensionCapabilityRequest.form _).get "scope" = _ at named
    rw [ExtensionCapabilityRequest.form_eq] at named
    cases named
    cases List.mem_singleton.mp member
    decide +kernel
  executor := by
    intro kinds held plugin
    rw [toolExtension.form_eq] at held
    cases held
    exact absurd (Value.string.inj (List.mem_singleton.mp plugin)) (by decide)

theorem toolExtension_schema :
    Schema.extensionAdmission toolExtension.form ∧
      ExtensionAdmissionRequest.accepts toolExtension.form := by
  obtain ⟨implemented, decoded⟩ := admission_schema_iff toolExtension toolExtension.form
  have meets : Schema.extensionAdmission toolExtension.form := by
    refine (implemented toolExtension_valid).mpr ?_
    intro capability asked
    rw [List.mem_singleton.mp asked]
    exact ⟨'f', by decide, by decide⟩
  refine ⟨meets, (decoded meets worded_toolExtension).mpr ?_⟩
  rw [toolExtension.form_eq]
  exact List.forall_mem_cons.mpr ⟨⟨1, rfl⟩, List.forall_mem_cons.mpr
    ⟨⟨5, rfl⟩, fun field none => absurd none List.not_mem_nil⟩⟩

/-- A tool whose capability begins with a digit. -/
def digitTool : ExtensionAdmissionRequest :=
  { toolExtension with
    capabilityRequests := [⟨"7zip.read", "read", ["/data"], "reads its input", true⟩] }

theorem digit_capability_admitted :
    digitTool.validate = .ok () ∧ ¬ Schema.extensionAdmission digitTool.form := by
  have tool := ExtensionAdmissionRequest.validate_iff.mp toolExtension_valid
  have name : capabilityName "7zip.read" = true := by decide +kernel
  have admissible : digitTool.Admissible :=
    { tool with
      capabilities := by
        intro item listed
        rw [List.mem_singleton.mp listed]
        exact name
      access := by
        intro item listed
        rw [List.mem_singleton.mp listed]
        exact List.mem_cons_self
      scope := by
        intro item listed
        rw [List.mem_singleton.mp listed]
        decide +kernel }
  refine ⟨ExtensionAdmissionRequest.validate_iff.mpr admissible, fun meets => ?_⟩
  obtain ⟨c, first, lower⟩ := (form_meets_iff admissible).mp meets "7zip.read" (.head _)
  cases first
  cases lower

end NousKernel
