import NousKernel.Interleaving
import NousKernel.Journal
import NousKernel.Sha256

/-!
The journal on its SQLite file (`nous-state/src/journal.rs`). An append is two
steps: the lookup of its idempotency key under the connection lock, then, under
the sequence lock, the insert and the advance of the counter. What SQLite and
`rusqlite` do is the documented behaviour of the statements the source executes:
an INTEGER column holds a signed 64-bit value, an INSERT is atomic, and the UNIQUE
constraints refuse a second row with the same sequence or non-null key.
-/

set_option autoImplicit false

namespace NousKernel

abbrev Bytes : Type := List UInt8

/-- `str::as_bytes`. -/
def asBytes (s : String) : Bytes := s.toUTF8.data.toList

theorem asBytes_append (first second : String) :
    asBytes (first ++ second) = asBytes first ++ asBytes second := by
  simp [asBytes]

theorem asBytes_inj {first second : String} : asBytes first = asBytes second ↔ first = second := by
  unfold asBytes
  rw [Array.toList_inj, ← ByteArray.ext_iff]
  exact String.toByteArray_inj

/-- `{byte:02x}`. -/
def hexByte (byte : UInt8) : List Char :=
  [Nat.digitChar (byte.toNat / 16), Nat.digitChar (byte.toNat % 16)]

def hexDigest (bytes : Bytes) : String := String.ofList ((Sha256.digest bytes).flatMap hexByte)

def EntryType.asStr : EntryType → String
  | .intent => "INTENT"
  | .transition => "TRANSITION"
  | .observation => "OBSERVATION"
  | .commit => "COMMIT"
  | .abort => "ABORT"
  | .compensate => "COMPENSATE"

def EntryType.parse (s : String) : Option EntryType :=
  if s = "INTENT" then some .intent
  else if s = "TRANSITION" then some .transition
  else if s = "OBSERVATION" then some .observation
  else if s = "COMMIT" then some .commit
  else if s = "ABORT" then some .abort
  else if s = "COMPENSATE" then some .compensate
  else none

@[simp] theorem EntryType.parse_asStr (kind : EntryType) :
    EntryType.parse kind.asStr = some kind := by
  cases kind <;> decide

/-- A journal entry with the checksum it is stored under. -/
structure SealedEntry extends JournalEntry Bytes where
  checksum : Bytes
  deriving DecidableEq

/-- A row of `journal_entries`, in the order of its columns. -/
structure TableRow where
  sequence : Int
  workloadId : String
  entryType : String
  objectType : String
  objectId : String
  previousPhase : Option String
  newPhase : String
  generation : Int
  payload : Bytes
  fencingToken : String
  actor : String
  idempotencyKey : Option String
  timestampUs : Int
  checksum : Bytes
  deriving DecidableEq

/-- `i64::MAX`. -/
def i64Max : Nat := 2 ^ 63 - 1

/-- A `u64` parameter of a statement. -/
def integerParam (value : Nat) : Except String Int :=
  if value ≤ i64Max then .ok value else .error "out of range integral type conversion attempted"

/-- An INTEGER column read as `u64`. -/
def integerColumn (index : Nat) (value : Int) : Except String Nat :=
  if 0 ≤ value then .ok value.toNat
  else .error ("Integer " ++ toString value ++ " out of range at index " ++ toString index)

/-- The parameters of the INSERT. -/
def SealedEntry.params (entry : SealedEntry) : Except String TableRow := do
  let sequence ← integerParam entry.sequence
  let generation ← integerParam entry.generation
  return {
    sequence := sequence
    workloadId := entry.workloadId
    entryType := entry.entryType.asStr
    objectType := entry.objectType
    objectId := entry.objectId
    previousPhase := entry.previousPhase
    newPhase := entry.newPhase
    generation := generation
    payload := entry.payload
    fencingToken := entry.fencingToken
    actor := entry.actor
    idempotencyKey := entry.idempotencyKey
    timestampUs := entry.timestampUs
    checksum := entry.checksum }

def decodeEntry (row : TableRow) : Except String SealedEntry := do
  let entryType ← match EntryType.parse row.entryType with
    | some kind => .ok kind
    | none => .error ("Conversion error from type Text at index: 2, unknown journal entry type: " ++
        row.entryType)
  let sequence ← integerColumn 0 row.sequence
  let generation ← integerColumn 7 row.generation
  return {
    sequence := sequence
    workloadId := row.workloadId
    entryType := entryType
    objectType := row.objectType
    objectId := row.objectId
    previousPhase := row.previousPhase
    newPhase := row.newPhase
    generation := generation
    payload := row.payload
    fencingToken := row.fencingToken
    actor := row.actor
    idempotencyKey := row.idempotencyKey
    timestampUs := row.timestampUs
    checksum := row.checksum }

/-- What `compute_checksum` feeds to the hasher, update by update. -/
def checksumInput (entry : JournalEntry Bytes) : Bytes :=
  Sha256.bigEndian 8 entry.sequence ++ asBytes entry.workloadId ++
    asBytes entry.entryType.asStr ++ asBytes entry.objectType ++ asBytes entry.objectId ++
    (entry.previousPhase.map asBytes).getD [] ++ asBytes entry.newPhase ++
    Sha256.bigEndian 8 entry.generation ++ entry.payload ++ asBytes entry.fencingToken ++
    asBytes entry.actor ++ (entry.idempotencyKey.map asBytes).getD [] ++
    Sha256.bigEndian 8 (entry.timestampUs % 2 ^ 64).toNat

def computeChecksum (entry : JournalEntry Bytes) : Bytes := Sha256.digest (checksumInput entry)

/-- The file: the format version of `journal_metadata` and the rows of
`journal_entries` in the order of their insertion. -/
structure Database where
  formatVersion : Option String
  rows : List TableRow
  deriving DecidableEq

namespace Database

/-- A file that does not exist yet. -/
def blank : Database where
  formatVersion := none
  rows := []

/-- The non-null keys of the table. -/
def keys (db : Database) : List String := db.rows.filterMap (·.idempotencyKey)

/-- The INSERT of an append. SQLite may fail it for reasons of its own. -/
def insertRow (db : Database) (entry : SealedEntry) (failure : Option String) :
    Except String Database := do
  let row ← entry.params
  match failure with
  | some text => .error text
  | none =>
      if ∃ key ∈ row.idempotencyKey, key ∈ db.keys then
        .error "UNIQUE constraint failed: journal_entries.idempotency_key"
      else if row.sequence ∈ db.rows.map (·.sequence) then
        .error "UNIQUE constraint failed: journal_entries.sequence"
      else
        .ok { db with rows := db.rows ++ [row] }

/-- `SELECT … WHERE … ORDER BY sequence ASC`. -/
def select (db : Database) (condition : TableRow → Bool) : List TableRow :=
  (db.rows.filter condition).mergeSort (fun first second => first.sequence ≤ second.sequence)

def findByIdempotencyKey (db : Database) (key : String) (failure : Option String) :
    Except NousError (Option Nat) :=
  let result : Except String (Option Nat) :=
    match failure with
    | some text => .error text
    | none =>
        match db.rows.find? (fun row => row.idempotencyKey == some key) with
        | some row => (integerColumn 0 row.sequence).map some
        | none => .ok none
  result.mapError (fun e => ⟨.internal, "Failed to query idempotency: " ++ e⟩)

/-- The rows of a query, decoded; the first row that does not decode fails it. -/
def collect (rows : List TableRow) : Except NousError (List SealedEntry) :=
  (rows.mapM decodeEntry).mapError (fun e => ⟨.internal, "Failed to collect entries: " ++ e⟩)

def readWorkload (db : Database) (workloadId : String) : Except NousError (List SealedEntry) :=
  collect (db.select (fun row => row.workloadId == workloadId))

def readFrom (db : Database) (fromSequence : Nat) : Except NousError (List SealedEntry) := do
  let lowest ← (integerParam fromSequence).mapError
    (fun e => ⟨.internal, "Failed to query entries: " ++ e⟩)
  collect (db.select (fun row => lowest ≤ row.sequence))

/-- `Journal::verify_integrity`, under the status `PRAGMA quick_check` reports. -/
def verifyIntegrity (db : Database) (storageStatus : String) : Except NousError (List Nat) := do
  if storageStatus ≠ "ok" then
    throw ⟨.dataLoss, "Journal storage is corrupt: " ++ storageStatus⟩
  let entries ← ((db.select (fun _ => true)).mapM decodeEntry).mapError
    (fun e => ⟨.internal, "Failed to read row: " ++ e⟩)
  return (entries.filter (fun entry => computeChecksum entry.toJournalEntry ≠ entry.checksum)).map
    (·.sequence)

end Database

def journalFormatVersion : Nat := 2

/-- An open journal: the connection and `next_sequence`. -/
structure OpenJournal where
  database : Database
  nextSequence : Nat

/-- `Journal::open` on a file. -/
def Database.open (db : Database) : Except NousError OpenJournal := do
  let maxSeq ← (integerColumn 0 ((db.rows.map (·.sequence)).max?.getD 0)).mapError
    (fun e => ⟨.internal, "Failed to recover journal sequence: " ++ e⟩)
  let database : Database ← match db.formatVersion with
    | some version =>
        if version = toString journalFormatVersion then
          pure db
        else
          throw ⟨.failedPrecondition, "Journal format " ++ version ++
            " is incompatible with format " ++ toString journalFormatVersion⟩
    | none =>
        if maxSeq = 0 then
          pure { db with formatVersion := some (toString journalFormatVersion) }
        else
          throw ⟨.failedPrecondition,
            "Unversioned non-empty journal requires an explicit migration"⟩
  return { database := database, nextSequence := maxSeq + 1 }

/-- What the environment chooses in one step: an SQLite error, and the clock. -/
structure Trial where
  failure : Option String := none
  now : Int := 1

namespace OpenJournal

/-- `Journal::current_sequence`. -/
def currentSequence (j : OpenJournal) : Nat := j.nextSequence - 1

/-- The error of a failed INSERT. -/
def insertError (e : String) : NousError :=
  if containsText e "UNIQUE" && containsText e "idempotency" then
    ⟨.alreadyExists, "Idempotency key already used"⟩
  else
    ⟨.internal, "Failed to append journal entry: " ++ e⟩

/-- The part of `append` under the sequence lock. The counter advances only
after the INSERT has succeeded. -/
def insert (j : OpenJournal) (entry : JournalEntry Bytes) (trial : Trial) :
    Except NousError Nat × OpenJournal :=
  let stamped := Journal.stamp j.nextSequence trial.now entry
  match j.database.insertRow ⟨stamped, computeChecksum stamped⟩ trial.failure with
  | .error e => (.error (insertError e), j)
  | .ok database =>
      (.ok j.nextSequence, { database := database, nextSequence := j.nextSequence + 1 })

end OpenJournal

open Resumption

/-- The steps of an append. -/
inductive Query where
  | findByIdempotencyKey (key : String)
  | insert (entry : JournalEntry Bytes)

abbrev Query.Answer : Query → Type
  | .findByIdempotencyKey _ => Except NousError (Option Nat)
  | .insert _ => Except NousError Nat

abbrev JournalM : Type → Type := ExceptT NousError (Prog Query Query.Answer)

/-- Each step holds the connection lock, and the second the sequence lock too. -/
def sqlite : Machine Query Query.Answer OpenJournal Trial where
  answer query j trial :=
    match query with
    | .findByIdempotencyKey key => (j.database.findByIdempotencyKey key trial.failure, j)
    | .insert entry => j.insert entry trial

/-- The lookup, the first step. -/
def findByIdempotencyKey (key : String) : JournalM (Option Nat) :=
  Prog.perform (Query.findByIdempotencyKey key)

/-- The insert, the last step. -/
def insertEntry (entry : JournalEntry Bytes) : JournalM Nat := Prog.perform (Query.insert entry)

/-- `Journal::append` as its callers run it. -/
def appendEntry (entry : JournalEntry Bytes) : JournalM Nat :=
  match entry.idempotencyKey with
  | some key => do
      match ← findByIdempotencyKey key with
      | some sequence => return sequence
      | none => insertEntry entry
  | none => insertEntry entry

end NousKernel
