import Mathlib.Data.List.AList
import NousKernel.Journal
import NousKernel.Stepwise

/-!
The semantic state fabric (`nous-state/src/semantic.rs`): records in memory under
compare-and-swap, every update journaled, and the replay of the journal. The value
of a record and its JSON bytes are parameters; `put` runs under the write lock, so
a run is a sequence of puts.
-/

set_option autoImplicit false

namespace NousKernel

variable {V P : Type}

inductive StateRepresentation where
  | raw
  | structured
  | summary
  | artifact
  deriving DecidableEq, Repr

structure SemanticStateRecord (V : Type) where
  stateId : String
  nameSpace : String
  semanticType : String
  representation : StateRepresentation
  owner : String
  sourceModelRevision : String
  generation : Nat
  value : V
  evidenceRefs : List String
  updatedAtUs : Int
  deriving DecidableEq, Repr

/-- `serde_json::to_vec` and `from_slice` on records. The parser is not total on what
the printer writes (its recursion is limited), so nothing is assumed of the two. -/
structure RecordCodec (V P : Type) where
  encode : SemanticStateRecord V → Except String P
  decode : P → Except String (SemanticStateRecord V)

abbrev SemanticStateFabric (V : Type) : Type := AList (fun _ : String => SemanticStateRecord V)

/-- The arguments of a put, with the clock and the answer of the store. -/
structure PutRequest (V : Type) where
  record : SemanticStateRecord V
  expectedGeneration : Nat
  actor : String
  idempotencyKey : String
  now : Int
  storage : Option NousError

namespace SemanticStateFabric

def get (fabric : SemanticStateFabric V) (stateId : String) : Option (SemanticStateRecord V) :=
  fabric.lookup stateId

def currentGeneration (fabric : SemanticStateFabric V) (stateId : String) : Nat :=
  ((fabric.get stateId).map (·.generation)).getD 0

/-- The record as it is journaled and stored. -/
def stamped (fabric : SemanticStateFabric V) (request : PutRequest V) : SemanticStateRecord V :=
  { request.record with
    generation := fabric.currentGeneration request.record.stateId + 1
    updatedAtUs := request.now }

def semanticEntry (record : SemanticStateRecord V) (request : PutRequest V)
    (currentGeneration : Nat) (payload : P) : JournalEntry P where
  sequence := 0
  workloadId := record.stateId
  entryType := .commit
  objectType := "SemanticState"
  objectId := record.stateId
  previousPhase := some (if currentGeneration = 0 then "ABSENT" else "ACTIVE")
  newPhase := "ACTIVE"
  generation := record.generation
  payload := payload
  fencingToken := "semantic:" ++ record.stateId ++ ":" ++ toString record.generation
  actor := request.actor
  idempotencyKey := some request.idempotencyKey
  timestampUs := record.updatedAtUs

def putConflict (expected current : Nat) : NousError where
  code := .workloadConflict
  message := "Semantic state generation conflict: expected " ++ toString expected ++
    ", current " ++ toString current

def put (codec : RecordCodec V P) (fabric : SemanticStateFabric V) (journal : Journal P)
    (request : PutRequest V) : Except NousError Nat × SemanticStateFabric V × Journal P :=
  let currentGeneration := fabric.currentGeneration request.record.stateId
  if currentGeneration ≠ request.expectedGeneration then
    (.error (putConflict request.expectedGeneration currentGeneration), fabric, journal)
  else
    let record := fabric.stamped request
    match codec.encode record with
    | .error error =>
        (.error { code := .internal, message := "Cannot encode semantic state: " ++ error },
          fabric, journal)
    | .ok payload =>
        match journal.offer (semanticEntry record request currentGeneration payload)
          request.storage request.now with
        | (.error error, journal) => (.error error, fabric, journal)
        | (.ok sequence, journal) => (.ok sequence, fabric.insert record.stateId record, journal)

/-- One entry of the replay. -/
def replayRecord (codec : RecordCodec V P) (fabric : SemanticStateFabric V)
    (entry : JournalEntry P) : Except NousError (SemanticStateFabric V) :=
  if entry.objectType = "SemanticState" ∧ entry.entryType = .commit then
    match codec.decode entry.payload with
    | .error error => .error
        { code := .dataLoss, message := "Invalid semantic state journal entry: " ++ error }
    | .ok record => .ok (fabric.insert record.stateId record)
  else .ok fabric

def replay (codec : RecordCodec V P) (journal : Journal P) (storage : Option NousError) :
    Except NousError (SemanticStateFabric V) :=
  match storage with
  | some error => .error error
  | none => (journal.readFrom 0).foldlM (replayRecord codec) ∅

/-! ### What a put does -/

/-- The put passes the compare-and-swap, and its record reaches the store. -/
structure Accepted (codec : RecordCodec V P) (fabric : SemanticStateFabric V)
    (request : PutRequest V) (payload : P) : Prop where
  expected : fabric.currentGeneration request.record.stateId = request.expectedGeneration
  encoded : codec.encode (fabric.stamped request) = .ok payload
  stored : request.storage = none

variable {codec : RecordCodec V P} {fabric : SemanticStateFabric V} {journal : Journal P}
  {request : PutRequest V}

theorem put_accepted {payload : P} (accepted : Accepted codec fabric request payload) :
    put codec fabric journal request =
      (.ok (journal.append (semanticEntry (fabric.stamped request) request
          (fabric.currentGeneration request.record.stateId) payload) request.now).1,
        fabric.insert request.record.stateId (fabric.stamped request),
        (journal.append (semanticEntry (fabric.stamped request) request
          (fabric.currentGeneration request.record.stateId) payload) request.now).2) := by
  unfold put
  simp only [accepted.expected, ne_eq, not_true_eq_false, if_false, accepted.encoded,
    Journal.offer, accepted.stored]
  rfl

theorem put_cases (codec : RecordCodec V P) (fabric : SemanticStateFabric V)
    (journal : Journal P) (request : PutRequest V) :
    (∃ payload, Accepted codec fabric request payload) ∨
    (∀ payload, ¬ Accepted codec fabric request payload) ∧
      ∃ error, put codec fabric journal request = (.error error, fabric, journal) := by
  by_cases expected : fabric.currentGeneration request.record.stateId = request.expectedGeneration
  · cases encoded : codec.encode (fabric.stamped request) with
    | error error =>
        refine .inr ⟨?_, { code := .internal, message := "Cannot encode semantic state: " ++ error },
          ?_⟩
        · intro payload accepted
          rw [accepted.encoded] at encoded
          cases encoded
        · simp only [put, expected, ne_eq, not_true_eq_false, if_false, encoded]
    | ok payload =>
        cases stored : request.storage with
        | none => exact .inl ⟨payload, expected, encoded, stored⟩
        | some error =>
            refine .inr ⟨?_, error, ?_⟩
            · intro other accepted
              rw [accepted.stored] at stored
              cases stored
            · simp only [put, expected, ne_eq, not_true_eq_false, if_false, encoded,
                Journal.offer, stored]
  · refine .inr ⟨fun payload accepted => expected accepted.expected,
      putConflict request.expectedGeneration (fabric.currentGeneration request.record.stateId), ?_⟩
    simp only [put, ne_eq, expected, not_false_eq_true, if_true]

/-- The rows after the append of a put: its key is always set. -/
theorem put_rows (journal : Journal P) (record : SemanticStateRecord V) (request : PutRequest V)
    (currentGeneration : Nat) (payload : P) :
    (journal.append (semanticEntry record request currentGeneration payload)
        request.now).2.entries =
      if request.idempotencyKey ∈ journal.keys then journal.entries
      else journal.entries ++ [Journal.stamp journal.nextSequence request.now
        (semanticEntry record request currentGeneration payload)] :=
  Journal.append_entries request.idempotencyKey request.now rfl

theorem stamped_stateId : (fabric.stamped request).stateId = request.record.stateId := rfl

theorem stamped_generation : (fabric.stamped request).generation =
    fabric.currentGeneration request.record.stateId + 1 := rfl

/-- The stamped record is newer than what the fabric holds. -/
theorem get_ne_stamped : fabric.get request.record.stateId ≠ some (fabric.stamped request) := by
  intro held
  have generation : fabric.currentGeneration request.record.stateId =
      (fabric.stamped request).generation := by
    simp [currentGeneration, held]
  rw [stamped_generation] at generation
  omega

theorem get_insert (fabric : SemanticStateFabric V) (record : SemanticStateRecord V)
    (stateId : String) : get (fabric.insert record.stateId record) stateId =
      if stateId = record.stateId then some record else fabric.get stateId := by
  unfold get
  split
  · rename_i same
    rw [same, AList.lookup_insert]
  · rename_i other
    rw [AList.lookup_insert_ne other]

/-! ### The view and the journal -/

/-- The fabric, its journal, and the state ids of the puts that succeeded. -/
structure Desk (V P : Type) where
  fabric : SemanticStateFabric V
  journal : Journal P
  succeeded : List String

namespace Desk

def blank : Desk V P := ⟨∅, .empty, []⟩

def put (codec : RecordCodec V P) (desk : Desk V P) (request : PutRequest V) : Desk V P :=
  match SemanticStateFabric.put codec desk.fabric desk.journal request with
  | (.ok _, fabric, journal) => ⟨fabric, journal, desk.succeeded ++ [request.record.stateId]⟩
  | (.error _, fabric, journal) => ⟨fabric, journal, desk.succeeded⟩

/-- The replay of the journal gives the records in memory. -/
def InStep (codec : RecordCodec V P) (desk : Desk V P) : Prop :=
  ∃ replayed, replay codec desk.journal none = .ok replayed ∧
    ∀ stateId, get replayed stateId = desk.fabric.get stateId

/-- As many puts on a state id have succeeded as its generation says. -/
def Counted (desk : Desk V P) : Prop :=
  ∀ stateId, desk.succeeded.count stateId = desk.fabric.currentGeneration stateId

/-- An accepted put comes with a key that the journal has not seen, and its record
reads back from its encoding. -/
def Kept (codec : RecordCodec V P) (desk : Desk V P) (request : PutRequest V) : Prop :=
  ∀ payload, Accepted codec desk.fabric request payload →
    request.idempotencyKey ∉ desk.journal.keys ∧
    codec.decode payload = .ok (desk.fabric.stamped request)

variable {desk : Desk V P}

theorem put_refused {error : NousError}
    (refused : SemanticStateFabric.put codec desk.fabric desk.journal request =
      (.error error, desk.fabric, desk.journal)) : desk.put codec request = desk := by
  unfold put
  rw [refused]

theorem put_taken {payload : P} (accepted : Accepted codec desk.fabric request payload) :
    desk.put codec request =
      ⟨desk.fabric.insert request.record.stateId (desk.fabric.stamped request),
        (desk.journal.append (semanticEntry (desk.fabric.stamped request) request
          (desk.fabric.currentGeneration request.record.stateId) payload) request.now).2,
        desk.succeeded ++ [request.record.stateId]⟩ := by
  unfold put
  rw [put_accepted accepted]

theorem Counted.put (counted : desk.Counted) (request : PutRequest V) :
    (desk.put codec request).Counted := by
  rcases put_cases codec desk.fabric desk.journal request with
    ⟨payload, accepted⟩ | ⟨_, error, refused⟩
  · rw [put_taken accepted]
    intro stateId
    have before := counted stateId
    have held := get_insert desk.fabric (desk.fabric.stamped request) stateId
    rw [stamped_stateId] at held
    simp only [List.count_append, currentGeneration, held]
    by_cases own : stateId = request.record.stateId
    · rw [own] at before ⊢
      rw [before]
      simp [stamped_generation]
    · have other : request.record.stateId ≠ stateId := fun same => own same.symm
      rw [before]
      simp [own, other, currentGeneration]
  · rw [put_refused refused]
    exact counted

/-- The replay of a journal with one more semantic entry. -/
theorem replay_append {journal after : Journal P} {entry : JournalEntry P}
    (semantic : entry.objectType = "SemanticState" ∧ entry.entryType = .commit)
    (longer : after.entries = journal.entries ++ [entry]) {replayed : SemanticStateFabric V}
    (before : replay codec journal none = .ok replayed) :
    replay codec after none = match codec.decode entry.payload with
      | .error error => .error
          { code := .dataLoss, message := "Invalid semantic state journal entry: " ++ error }
      | .ok record => .ok (replayed.insert record.stateId record) := by
  simp only [replay, Journal.readFrom_zero] at before ⊢
  rw [longer, List.foldlM_append, before]
  simp only [List.foldlM_cons, List.foldlM_nil, replayRecord, semantic, and_self, if_true, bind,
    Except.bind]
  cases codec.decode entry.payload <;> rfl

/-- Two views that agreed and take one record each agree after it exactly when it is
the same record. -/
theorem insert_agree_iff {replayed : SemanticStateFabric V} {record : SemanticStateRecord V}
    (agree : ∀ stateId, get replayed stateId = desk.fabric.get stateId) :
    (∀ stateId, get (replayed.insert record.stateId record) stateId =
      get (desk.fabric.insert request.record.stateId (desk.fabric.stamped request)) stateId) ↔
      record = desk.fabric.stamped request := by
  have held : ∀ stateId, get (desk.fabric.insert request.record.stateId
      (desk.fabric.stamped request)) stateId = if stateId = request.record.stateId then
        some (desk.fabric.stamped request) else desk.fabric.get stateId :=
    fun stateId => get_insert desk.fabric (desk.fabric.stamped request) stateId
  simp only [held, get_insert, agree]
  constructor
  · intro same
    have own := same request.record.stateId
    simp only [if_true] at own
    split at own
    · exact Option.some.inj own
    · exact absurd own get_ne_stamped
  · rintro rfl stateId
    rfl

/-- A put keeps the view and the journal in step exactly when it is kept. -/
theorem InStep.put_iff (inStep : InStep codec desk) (request : PutRequest V) :
    InStep codec (desk.put codec request) ↔ Kept codec desk request := by
  rcases put_cases codec desk.fabric desk.journal request with
    ⟨payload, accepted⟩ | ⟨never, error, refused⟩
  · have only : Kept codec desk request ↔ request.idempotencyKey ∉ desk.journal.keys ∧
        codec.decode payload = .ok (desk.fabric.stamped request) := by
      constructor
      · exact fun kept => kept payload accepted
      · intro kept other also
        have same : payload = other := by
          have encoded := accepted.encoded
          rw [also.encoded, Except.ok.injEq] at encoded
          exact encoded.symm
        exact same ▸ kept
    rw [only, put_taken accepted]
    obtain ⟨replayed, before, agree⟩ := inStep
    have rows := put_rows desk.journal (desk.fabric.stamped request) request
      (desk.fabric.currentGeneration request.record.stateId) payload
    by_cases used : request.idempotencyKey ∈ desk.journal.keys
    · -- The journal absorbs the entry, and the record is in memory only.
      rw [if_pos used] at rows
      refine iff_of_false ?_ fun kept => kept.1 used
      rintro ⟨again, replay, agrees⟩
      simp only [SemanticStateFabric.replay, Journal.readFrom_zero] at before replay
      rw [rows, before, Except.ok.injEq] at replay
      have own := agrees request.record.stateId
      rw [← replay, agree, get, get, AList.lookup_insert] at own
      exact get_ne_stamped own
    · rw [if_neg used] at rows
      simp only [used, not_false_eq_true, true_and]
      have next := replay_append ⟨rfl, rfl⟩ rows before
      unfold InStep
      rw [next, Journal.stamp_payload]
      show (∃ again, (match codec.decode payload with
        | .error error => _
        | .ok record => _) = Except.ok again ∧ _) ↔ codec.decode payload = _
      cases decoded : codec.decode payload with
      | error error => simp
      | ok record =>
          simp only [Except.ok.injEq, exists_eq_left']
          exact insert_agree_iff agree
  · rw [put_refused refused]
    exact iff_of_true inStep fun payload accepted => absurd accepted (never payload)

theorem inStep_blank (codec : RecordCodec V P) : InStep codec blank :=
  ⟨∅, rfl, fun _ => rfl⟩

theorem counted_blank : (blank : Desk V P).Counted := fun _ => rfl

def after (codec : RecordCodec V P) (requests : List (PutRequest V)) : Desk V P :=
  Stepwise.run (put codec) blank requests

/-- The view equals the journal, and the generations count the successful puts, all
along a sequence of puts exactly when every accepted put brings a fresh key and a
record that reads back. -/
theorem put_replay_iff (codec : RecordCodec V P) (requests : List (PutRequest V)) :
    (∀ front, front <+: requests → InStep codec (after codec front) ∧
      (after codec front).Counted) ↔
    Stepwise.Meets (put codec) (Kept codec) blank requests := by
  have counted : ∀ front, (after codec front).Counted := fun front =>
    Stepwise.run_invariant (fun _ request kept => kept.put request) counted_blank front
  have exactly : ∀ (desk : Desk V P) (request : PutRequest V), InStep codec desk →
      (InStep codec (desk.put codec request) ↔ Kept codec desk request) :=
    fun _ request inStep => inStep.put_iff request
  rw [← Stepwise.throughout_iff exactly (inStep_blank codec) requests]
  exact forall₂_congr fun front _ => and_iff_left (counted front)

/-- A codec that keeps the records as they are. -/
def plainCodec : RecordCodec Nat (SemanticStateRecord Nat) where
  encode := .ok
  decode := .ok

def temperaturePut (value expectedGeneration : Nat) (idempotencyKey : String) :
    PutRequest Nat where
  record :=
    { stateId := "machine:1", nameSpace := "factory", semanticType := "MachineState"
      representation := .structured, owner := "controller", sourceModelRevision := "model-a"
      generation := 0, value := value, evidenceRefs := ["evidence:1"], updatedAtUs := 0 }
  expectedGeneration := expectedGeneration
  actor := "test"
  idempotencyKey := idempotencyKey
  now := 1
  storage := none

/-- A second update under the key of the first is in memory and not in the journal. -/
theorem put_key_reused :
    ¬ InStep plainCodec (after plainCodec [temperaturePut 42 0 "semantic-1",
      temperaturePut 43 1 "semantic-1"]) := by
  rintro ⟨replayed, replay, agree⟩
  have own := agree "machine:1"
  have written : ((after plainCodec [temperaturePut 42 0 "semantic-1",
      temperaturePut 43 1 "semantic-1"]).fabric.get "machine:1").map (·.value) = some 43 := by
    decide
  have journaled : (SemanticStateFabric.replay plainCodec (after plainCodec
      [temperaturePut 42 0 "semantic-1", temperaturePut 43 1 "semantic-1"]).journal none).toOption.bind
        (fun fabric => (get fabric "machine:1").map (·.value)) = some 42 := by
    decide
  rw [replay] at journaled
  rw [← own] at written
  have same : (get replayed "machine:1").map (·.value) = some 42 := journaled
  rw [written] at same
  cases same

end Desk

end SemanticStateFabric

end NousKernel
