import NousKernel.Storage

/-!
What holds of the journal's table over every run of its callers: lookups and
inserts of any number of appends in any order, inserts that fail, and the journal
reopened at any point.
-/

set_option autoImplicit false

namespace NousKernel

open Resumption

/-! ### One row -/

/-- The row of an entry whose integers fit their columns. -/
def SealedEntry.row (entry : SealedEntry) : TableRow where
  sequence := entry.sequence
  workloadId := entry.workloadId
  entryType := entry.entryType.asStr
  objectType := entry.objectType
  objectId := entry.objectId
  previousPhase := entry.previousPhase
  newPhase := entry.newPhase
  generation := entry.generation
  payload := entry.payload
  fencingToken := entry.fencingToken
  actor := entry.actor
  idempotencyKey := entry.idempotencyKey
  timestampUs := entry.timestampUs
  checksum := entry.checksum

theorem params_eq (entry : SealedEntry) :
    entry.params =
      if entry.sequence ≤ i64Max ∧ entry.generation ≤ i64Max then .ok entry.row
      else .error "out of range integral type conversion attempted" := by
  unfold SealedEntry.params integerParam
  by_cases sequence : entry.sequence ≤ i64Max
  · by_cases generation : entry.generation ≤ i64Max
    · simp only [sequence, generation, ↓reduceIte, and_self]
      rfl
    · simp only [sequence, generation, ↓reduceIte, and_false]
      rfl
  · simp only [sequence, ↓reduceIte, false_and]
    rfl

/-- What the INSERT stores, a read returns. -/
theorem decode_row (entry : SealedEntry) : decodeEntry entry.row = .ok entry := by
  unfold decodeEntry SealedEntry.row integerColumn
  simp only [EntryType.parse_asStr, Int.natCast_nonneg, ↓reduceIte, Int.toNat_natCast]
  rfl

theorem mapM_decode (entries : List SealedEntry) :
    (entries.map SealedEntry.row).mapM decodeEntry = .ok entries := by
  induction entries with
  | nil => rfl
  | cons entry rest ih =>
      rw [List.map_cons, List.mapM_cons, decode_row, ih]
      rfl

/-- An INSERT succeeds exactly when SQLite does not fail, the integers fit and no
UNIQUE constraint refuses the row, and then the row is the last one. -/
theorem insertRow_ok {db after : Database} {entry : SealedEntry} {failure : Option String} :
    db.insertRow entry failure = .ok after ↔
      entry.sequence ≤ i64Max ∧ entry.generation ≤ i64Max ∧ failure = none ∧
      (∀ key ∈ entry.idempotencyKey, key ∉ db.keys) ∧
      (entry.sequence : Int) ∉ db.rows.map (·.sequence) ∧
      after = { db with rows := db.rows ++ [entry.row] } := by
  unfold Database.insertRow
  rw [params_eq]
  by_cases fits : entry.sequence ≤ i64Max ∧ entry.generation ≤ i64Max
  · rw [if_pos fits]
    cases failure with
    | some text => simp [bind, Except.bind]
    | none =>
        show (if _ then _ else _) = _ ↔ _
        by_cases used : ∃ key ∈ entry.row.idempotencyKey, key ∈ db.keys
        · rw [if_pos used]
          obtain ⟨key, carried, stored⟩ := used
          simp only [reduceCtorEq, false_iff, not_and]
          exact fun _ _ _ fresh => absurd stored (fresh key carried)
        · rw [if_neg used]
          have fresh : ∀ key ∈ entry.idempotencyKey, key ∉ db.keys :=
            fun key carried stored => used ⟨key, carried, stored⟩
          by_cases taken : entry.row.sequence ∈ db.rows.map (·.sequence)
          · rw [if_pos taken]
            simp only [reduceCtorEq, false_iff, not_and]
            exact fun _ _ _ _ untaken => absurd taken untaken
          · rw [if_neg taken]
            constructor
            · intro stored
              cases stored
              exact ⟨fits.1, fits.2, rfl, fresh, taken, rfl⟩
            · rintro ⟨-, -, -, -, -, rfl⟩
              rfl
  · rw [if_neg fits]
    simp only [bind, Except.bind, reduceCtorEq, false_iff, not_and]
    exact fun sequence generation => absurd ⟨sequence, generation⟩ fits

/-! ### The invariant -/

/-- An open journal as its own appends leave it: the format is current, the
sequences are `1..n` in insertion order and fit their column, the keys are
unique, the counter is the next sequence, and every row is one the INSERT wrote. -/
structure Intact (j : OpenJournal) : Prop where
  version : j.database.formatVersion = some (toString journalFormatVersion)
  sequences : j.database.rows.map (·.sequence) =
    (List.range' 1 j.database.rows.length).map Int.ofNat
  bounded : j.database.rows.length ≤ i64Max
  keys : j.database.keys.Nodup
  next : j.nextSequence = j.database.rows.length + 1
  written : ∀ row ∈ j.database.rows, ∃ entry : SealedEntry, row = entry.row ∧
    entry.checksum = computeChecksum entry.toJournalEntry

/-- The entry as the insert stores it. -/
def OpenJournal.stamped (j : OpenJournal) (entry : JournalEntry Bytes) (now : Int) : SealedEntry where
  toJournalEntry := Journal.stamp j.nextSequence now entry
  checksum := computeChecksum (Journal.stamp j.nextSequence now entry)

/-- The journal after a successful insert. -/
def OpenJournal.extended (j : OpenJournal) (entry : JournalEntry Bytes) (now : Int) :
    OpenJournal where
  database := { j.database with rows := j.database.rows ++ [(j.stamped entry now).row] }
  nextSequence := j.nextSequence + 1

theorem insert_eq (j : OpenJournal) (entry : JournalEntry Bytes) (trial : Trial) :
    j.insert entry trial =
      match j.database.insertRow (j.stamped entry trial.now) trial.failure with
      | .error e => (.error (OpenJournal.insertError e), j)
      | .ok database =>
          (.ok j.nextSequence, { database := database, nextSequence := j.nextSequence + 1 }) := rfl

/-- The insert step: it fails and leaves the journal as it is, or stores the row. -/
theorem insert_cases (j : OpenJournal) (entry : JournalEntry Bytes) (trial : Trial) :
    (∃ text, j.insert entry trial = (.error (OpenJournal.insertError text), j)) ∨
      (j.nextSequence ≤ i64Max ∧ (∀ key ∈ entry.idempotencyKey, key ∉ j.database.keys) ∧
        j.insert entry trial = (.ok j.nextSequence, j.extended entry trial.now)) := by
  rw [insert_eq]
  cases stored : j.database.insertRow (j.stamped entry trial.now) trial.failure with
  | error text => exact .inl ⟨text, rfl⟩
  | ok database =>
      obtain ⟨fits, -, -, fresh, -, rfl⟩ := insertRow_ok.mp stored
      exact .inr ⟨fits, fresh, rfl⟩

theorem Intact.extended {j : OpenJournal} (intact : Intact j) (entry : JournalEntry Bytes)
    (now : Int) (fits : j.nextSequence ≤ i64Max)
    (fresh : ∀ key ∈ entry.idempotencyKey, key ∉ j.database.keys) :
    Intact (j.extended entry now) where
  version := intact.version
  sequences := by
    have last : ((j.stamped entry now).row.sequence : Int) =
        Int.ofNat (1 + j.database.rows.length) := by
      show (j.nextSequence : Int) = _
      rw [intact.next, Nat.add_comm]
      rfl
    show (j.database.rows ++ [(j.stamped entry now).row]).map (·.sequence) = _
    rw [List.map_append, intact.sequences, List.map_singleton, last]
    simp [OpenJournal.extended, List.range'_1_concat]
  bounded := by
    have next := intact.next
    simp only [OpenJournal.extended, List.length_append, List.length_singleton]
    omega
  keys := by
    show (List.filterMap _ (_ ++ _)).Nodup
    rw [List.filterMap_append, List.nodup_append]
    refine ⟨intact.keys, ?_, ?_⟩
    · cases key : (j.stamped entry now).row.idempotencyKey <;> simp [key]
    · intro old stored key new same
      have carried : (j.stamped entry now).row.idempotencyKey = some key := by
        simpa using new
      exact fresh key carried (same ▸ stored)
  next := by
    simp only [OpenJournal.extended, List.length_append, List.length_singleton]
    rw [intact.next]
  written := by
    intro row stored
    rcases List.mem_append.mp stored with old | new
    · exact intact.written row old
    · rw [List.mem_singleton] at new
      exact ⟨j.stamped entry now, new, rfl⟩

/-- Every step of an append keeps the invariant and the stored rows. -/
theorem Intact.answer {j : OpenJournal} (intact : Intact j) (query : Query) (trial : Trial) :
    Intact (sqlite.answer query j trial).2 ∧
      j.database.rows <+: (sqlite.answer query j trial).2.database.rows := by
  cases query with
  | findByIdempotencyKey key => exact ⟨intact, List.prefix_rfl⟩
  | insert entry =>
      show Intact (j.insert entry trial).2 ∧ _ <+: (j.insert entry trial).2.database.rows
      rcases insert_cases j entry trial with ⟨text, failed⟩ | ⟨fits, fresh, stored⟩
      · rw [failed]
        exact ⟨intact, List.prefix_rfl⟩
      · rw [stored]
        exact ⟨intact.extended entry trial.now fits fresh, List.prefix_append _ _⟩

/-- The counter a reopened journal recovers is the one it had. -/
theorem max_sequence {j : OpenJournal} (intact : Intact j) :
    (j.database.rows.map (·.sequence)).max?.getD 0 = j.database.rows.length := by
  rw [intact.sequences]
  generalize j.database.rows.length = count
  cases count with
  | zero => rfl
  | succ count =>
      have largest : ((List.range' 1 (count + 1)).map Int.ofNat).max? =
          some (Int.ofNat (count + 1)) := by
        rw [List.max?_eq_some_iff]
        constructor
        · apply List.mem_map_of_mem
          rw [List.mem_range'_1]
          omega
        · intro sequence listed
          obtain ⟨number, within, rfl⟩ := List.mem_map.mp listed
          rw [List.mem_range'_1] at within
          apply Int.ofNat_le.mpr
          omega
      rw [largest]
      rfl

/-- Opening the file of an intact journal again gives that journal. -/
theorem Intact.open {j : OpenJournal} (intact : Intact j) : j.database.open = .ok j := by
  unfold Database.open
  rw [max_sequence intact, intact.version]
  simp only [integerColumn, Int.natCast_nonneg, ↓reduceIte, Int.toNat_natCast, Except.mapError]
  show Except.ok (OpenJournal.mk j.database (j.database.rows.length + 1)) = .ok j
  rw [← intact.next]

/-! ### Reads -/

theorem Intact.sorted {j : OpenJournal} (intact : Intact j) :
    j.database.rows.Pairwise (fun first second => first.sequence < second.sequence) := by
  have increasing : ((List.range' 1 j.database.rows.length).map Int.ofNat).Pairwise (· < ·) := by
    rw [List.pairwise_map]
    exact (List.pairwise_lt_range' (s := 1) _).imp Int.ofNat_lt.mpr
  rwa [← intact.sequences, List.pairwise_map] at increasing

/-- A query returns its rows in the order of the table. -/
theorem Intact.select {j : OpenJournal} (intact : Intact j) (condition : TableRow → Bool) :
    j.database.select condition = j.database.rows.filter condition := by
  apply List.mergeSort_of_pairwise
  apply (intact.sorted.filter condition).imp
  intro first second before
  exact decide_eq_true (Int.le_of_lt before)

theorem Intact.entries {j : OpenJournal} (intact : Intact j) (condition : TableRow → Bool) :
    ∃ found : List SealedEntry, found.map SealedEntry.row = j.database.rows.filter condition ∧
      ∀ entry ∈ found, entry.checksum = computeChecksum entry.toJournalEntry := by
  have written : ∀ row ∈ j.database.rows.filter condition, ∃ entry : SealedEntry,
      row = entry.row ∧ entry.checksum = computeChecksum entry.toJournalEntry :=
    fun row member => intact.written row (List.mem_filter.mp member).1
  revert written
  generalize j.database.rows.filter condition = rows
  intro written
  induction rows with
  | nil => exact ⟨[], rfl, by simp⟩
  | cons row rest ih =>
      obtain ⟨entry, carried, checked⟩ := written row (.head _)
      obtain ⟨found, stored, all⟩ := ih fun other member => written other (.tail _ member)
      refine ⟨entry :: found, by rw [List.map_cons, carried, stored], ?_⟩
      intro other member
      rcases List.mem_cons.mp member with rfl | later
      · exact checked
      · exact all other later

/-- The entries of the rows that match, in increasing order of their sequence. -/
def Lists (j : OpenJournal) (condition : TableRow → Bool) (found : List SealedEntry) : Prop :=
  found.map SealedEntry.row = j.database.rows.filter condition ∧
    found.Pairwise (fun first second => first.sequence < second.sequence)

theorem Intact.lists {j : OpenJournal} (intact : Intact j) (condition : TableRow → Bool) :
    ∃ found, Database.collect (j.database.select condition) = .ok found ∧
      Lists j condition found := by
  obtain ⟨found, stored, -⟩ := intact.entries condition
  refine ⟨found, ?_, stored, ?_⟩
  · rw [intact.select condition, ← stored]
    unfold Database.collect
    rw [mapM_decode]
    rfl
  · have ordered := intact.sorted.filter condition
    rw [← stored, List.pairwise_map] at ordered
    exact ordered.imp Int.ofNat_lt.mp

theorem readFrom_eq (db : Database) {fromSequence : Nat} (fits : fromSequence ≤ i64Max) :
    db.readFrom fromSequence =
      Database.collect (db.select (fun row => (fromSequence : Int) ≤ row.sequence)) := by
  unfold Database.readFrom integerParam
  rw [if_pos fits]
  rfl

/-- A bound that the database cannot hold is refused with the query. -/
theorem readFrom_refused (db : Database) {fromSequence : Nat} (beyond : i64Max < fromSequence) :
    ∃ reason, db.readFrom fromSequence =
      .error ⟨.internal, "Failed to query entries: " ++ reason⟩ := by
  unfold Database.readFrom integerParam
  rw [if_neg (Nat.not_le.mpr beyond)]
  exact ⟨_, rfl⟩

/-! ### Whole runs -/

/-- The callers of an open journal. -/
abbrev Callers : Type := Pool Query Query.Answer OpenJournal (Except NousError Nat)

/-- One event of a run. A journal is reopened when its callers are gone. -/
inductive Journaling : Callers → Callers → Prop
  | call (s : Callers) (entry : JournalEntry Bytes) :
      Journaling s { s with threads := s.threads ++ [(appendEntry entry).run] }
  | turn (s : Callers) (turn : Nat × Trial) : Journaling s (s.step sqlite turn)
  | reopen (s : Callers) {j : OpenJournal} (opened : s.world.database.open = .ok j) :
      Journaling s ⟨j, []⟩

/-- What a run that starts on a new file reaches. -/
def Journaled (s : Callers) : Prop :=
  ∃ j, Database.blank.open = .ok j ∧ Relation.ReflTransGen Journaling ⟨j, []⟩ s

theorem journaling_turns (s : Callers) (schedule : List (Nat × Trial)) :
    Relation.ReflTransGen Journaling s (s.run sqlite schedule) := by
  induction schedule generalizing s with
  | nil => exact .refl
  | cons turn rest ih => exact .head (.turn s turn) (ih (s.step sqlite turn))

theorem Intact.blank {j : OpenJournal} (opened : Database.blank.open = .ok j) : Intact j := by
  cases opened
  exact ⟨rfl, rfl, Nat.zero_le _, .nil, rfl, fun row stored => absurd stored List.not_mem_nil⟩

theorem Intact.event {s later : Callers} (intact : Intact s.world) (event : Journaling s later) :
    Intact later.world ∧ s.world.database.rows <+: later.world.database.rows := by
  cases event with
  | call entry => exact ⟨intact, List.prefix_rfl⟩
  | turn turn =>
      unfold Pool.step
      split
      · exact intact.answer _ turn.2
      · exact ⟨intact, List.prefix_rfl⟩
  | reopen opened =>
      rw [intact.open] at opened
      cases opened
      exact ⟨intact, List.prefix_rfl⟩

theorem Intact.run {s later : Callers} (intact : Intact s.world)
    (run : Relation.ReflTransGen Journaling s later) :
    Intact later.world ∧ s.world.database.rows <+: later.world.database.rows := by
  induction run with
  | refl => exact ⟨intact, List.prefix_rfl⟩
  | tail _ event ih =>
      obtain ⟨before, kept⟩ := ih
      obtain ⟨after, extended⟩ := before.event event
      exact ⟨after, kept.trans extended⟩

theorem Journaled.intact {s : Callers} (reached : Journaled s) : Intact s.world := by
  obtain ⟨j, opened, run⟩ := reached
  exact ((Intact.blank opened).run run).1

/-- Over every run the sequences are `1..n` in insertion order, stored rows stay
as they are, keys are unique, the counter is the next sequence, the file can be
reopened, and a read returns exactly its rows in order. A lower bound that no
sequence can have is not a parameter of the query, and the read is an error. -/
theorem journal_run_intact {s later : Callers} (reached : Journaled s)
    (run : Relation.ReflTransGen Journaling s later) :
    s.world.database.rows <+: later.world.database.rows ∧
    later.world.database.rows.map (·.sequence) =
      (List.range' 1 later.world.database.rows.length).map Int.ofNat ∧
    later.world.database.keys.Nodup ∧
    later.world.nextSequence = later.world.database.rows.length + 1 ∧
    later.world.database.open = .ok later.world ∧
    (∀ workloadId, ∃ found, later.world.database.readWorkload workloadId = .ok found ∧
      Lists later.world (fun row => row.workloadId == workloadId) found) ∧
    ∀ fromSequence,
      (fromSequence ≤ i64Max → ∃ found, later.world.database.readFrom fromSequence = .ok found ∧
        Lists later.world (fun row => (fromSequence : Int) ≤ row.sequence) found) ∧
      (i64Max < fromSequence → later.world.database.rows.filter
          (fun row => (fromSequence : Int) ≤ row.sequence) = [] ∧
        ∃ reason, later.world.database.readFrom fromSequence =
          .error ⟨.internal, "Failed to query entries: " ++ reason⟩) := by
  obtain ⟨intact, kept⟩ := reached.intact.run run
  refine ⟨kept, intact.sequences, intact.keys, intact.next, intact.open,
    fun workloadId => intact.lists _, fun fromSequence => ⟨fun fits => ?_, fun beyond => ?_⟩⟩
  · rw [readFrom_eq _ fits]
    exact intact.lists _
  · refine ⟨?_, readFrom_refused _ beyond⟩
    rw [List.filter_eq_nil_iff]
    intro row stored
    have listed : row.sequence ∈ later.world.database.rows.map (·.sequence) :=
      List.mem_map_of_mem stored
    rw [intact.sequences] at listed
    obtain ⟨number, within, same⟩ := List.mem_map.mp listed
    rw [List.mem_range'_1] at within
    have bounded := intact.bounded
    rw [decide_eq_true_eq, ← same]
    intro above
    have := Int.ofNat_le.mp above
    omega

/-- An entry as a caller of `append` builds it. -/
def sampleEntry (idempotencyKey : Option String) : JournalEntry Bytes where
  sequence := 0
  workloadId := "workload-1"
  entryType := .transition
  objectType := "Workload"
  objectId := "workload-1"
  previousPhase := some "CREATED"
  newPhase := "VALIDATING"
  generation := 1
  payload := asBytes "{}"
  fencingToken := "token-1"
  actor := "test"
  idempotencyKey := idempotencyKey
  timestampUs := 0

/-- A journal opened on a new file. -/
def newJournal : OpenJournal where
  database := { formatVersion := some (toString journalFormatVersion), rows := [] }
  nextSequence := 1

/-- Two appends with one key: both look the key up before either inserts. -/
def racingCallers : Callers :=
  Pool.run sqlite ⟨newJournal, List.replicate 2 (appendEntry (sampleEntry (some "key-1"))).run⟩
    [(0, {}), (1, {}), (0, {}), (1, {})]

/-- The loser of a race leaves no gap. -/
theorem journal_run_intact_race :
    Journaled racingCallers ∧
    racingCallers.world.database.rows.map (·.sequence) =
      (List.range' 1 racingCallers.world.database.rows.length).map Int.ofNat ∧
    racingCallers.world.database.open = .ok racingCallers.world := by
  have reached : Journaled racingCallers := by
    refine ⟨newJournal, rfl, .trans ?_ (journaling_turns _ _)⟩
    exact .tail (.tail .refl (.call _ (sampleEntry (some "key-1"))))
      (.call _ (sampleEntry (some "key-1")))
  obtain ⟨-, sequences, -, -, opens, -⟩ := journal_run_intact reached .refl
  exact ⟨reached, sequences, opens⟩

/-- A lower bound past `i64::MAX` is an error, not an empty result. -/
theorem read_from_refused :
    Journaled ⟨newJournal, []⟩ ∧
    (∃ reason, newJournal.database.readFrom (2 ^ 63) =
      .error ⟨.internal, "Failed to query entries: " ++ reason⟩) ∧
    ¬ ∃ found, newJournal.database.readFrom (2 ^ 63) = .ok found ∧
      Lists newJournal (fun row => ((2 ^ 63 : Nat) : Int) ≤ row.sequence) found := by
  refine ⟨⟨newJournal, rfl, .refl⟩, ⟨_, rfl⟩, ?_⟩
  rintro ⟨found, returned, -⟩
  cases returned

end NousKernel
