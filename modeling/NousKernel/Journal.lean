import Mathlib.Data.List.Infix
import Mathlib.Data.List.Nodup
import NousKernel.RuntimeApi

/-!
The append-only journal (`nous-state/src/journal.rs`). The payload is opaque to
the journal, so its type is a parameter. The schema's UNIQUE index on
`idempotency_key` and the order of `sequence` are fields of the table's type.
-/

set_option autoImplicit false

namespace NousKernel

inductive EntryType where
  | intent
  | transition
  | observation
  | commit
  | abort
  | compensate
  deriving DecidableEq, Repr

structure JournalEntry (P : Type) where
  sequence : Nat
  workloadId : String
  entryType : EntryType
  objectType : String
  objectId : String
  previousPhase : Option String
  newPhase : String
  generation : Nat
  payload : P
  fencingToken : String
  actor : String
  idempotencyKey : Option String
  timestampUs : Int
  deriving DecidableEq

variable {P : Type}

/-- The non-null idempotency keys of a list of rows. -/
def keysOf (entries : List (JournalEntry P)) : List String :=
  entries.filterMap (·.idempotencyKey)

@[simp] theorem keysOf_nil : keysOf ([] : List (JournalEntry P)) = [] := rfl

@[simp] theorem keysOf_append (first second : List (JournalEntry P)) :
    keysOf (first ++ second) = keysOf first ++ keysOf second := by
  simp [keysOf]

theorem mem_keysOf {entries : List (JournalEntry P)} {key : String} :
    key ∈ keysOf entries ↔ ∃ entry ∈ entries, entry.idempotencyKey = some key := by
  simp [keysOf]

/-- Two items with one key are one item. -/
theorem filterMap_unique {α β : Type} {key : α → Option β} {items : List α}
    (unique : (items.filterMap key).Nodup) {first second : α} (inFirst : first ∈ items)
    (inSecond : second ∈ items) {value : β} (firstKey : key first = some value)
    (secondKey : key second = some value) : first = second := by
  have apart : items.Pairwise (fun a b => key a = some value → key b = some value → a = b) :=
    (List.pairwise_filterMap.mp unique).imp
      fun differ one two => absurd rfl (differ value one value two)
  exact apart.forall_of_forall_of_flip (fun _ _ _ _ => rfl)
    (apart.imp fun same two one => (same one two).symm) inFirst inSecond firstKey secondKey

/-- Two rows with one key are one row. -/
theorem keyed_unique {entries : List (JournalEntry P)} (unique : (keysOf entries).Nodup)
    {first second : JournalEntry P} (inFirst : first ∈ entries) (inSecond : second ∈ entries)
    {key : String} (firstKey : first.idempotencyKey = some key)
    (secondKey : second.idempotencyKey = some key) : first = second :=
  filterMap_unique unique inFirst inSecond firstKey secondKey

structure Journal (P : Type) where
  entries : List (JournalEntry P)
  nextSequence : Nat
  unique : (keysOf entries).Nodup
  ordered : entries.Pairwise (fun first second => first.sequence < second.sequence)
  below : ∀ entry ∈ entries, entry.sequence < nextSequence

namespace Journal

/-- A journal opened on an empty table. -/
def empty : Journal P where
  entries := []
  nextSequence := 1
  unique := by simp
  ordered := .nil
  below := by simp

def keys (j : Journal P) : List String := keysOf j.entries

def findByIdempotencyKey (j : Journal P) (key : String) : Option Nat :=
  (j.entries.find? (fun entry => entry.idempotencyKey == some key)).map (·.sequence)

/-- What the insert stores: the assigned sequence, and the clock where the
caller left the timestamp at zero. -/
def stamp (sequence : Nat) (now : Int) (entry : JournalEntry P) : JournalEntry P :=
  { entry with
    sequence := sequence
    timestampUs := if entry.timestampUs = 0 then now else entry.timestampUs }

theorem find_none_iff {j : Journal P} {key : String} :
    j.findByIdempotencyKey key = none ↔ key ∉ j.keys := by
  simp [findByIdempotencyKey, keys, mem_keysOf, List.find?_eq_none]

/-- One INSERT. The UNIQUE index admits the row because its key is not there. -/
def insert (j : Journal P) (entry : JournalEntry P) (now : Int)
    (fresh : ∀ key, entry.idempotencyKey = some key → key ∉ j.keys) : Journal P where
  entries := j.entries ++ [stamp j.nextSequence now entry]
  nextSequence := j.nextSequence + 1
  unique := by
    rw [keysOf_append, List.nodup_append]
    refine ⟨j.unique, ?_, ?_⟩
    · cases key : entry.idempotencyKey <;> simp [keysOf, stamp, key]
    · intro old member key new same
      obtain ⟨stored, last, carried⟩ := mem_keysOf.mp new
      rw [List.mem_singleton] at last
      subst last
      exact fresh key carried (same ▸ member)
  ordered := by
    rw [List.pairwise_append]
    refine ⟨j.ordered, by simp, ?_⟩
    intro old member new last
    simp only [List.mem_singleton] at last
    rw [last]
    exact j.below old member
  below := by
    intro stored member
    rcases List.mem_append.mp member with old | last
    · exact Nat.lt_succ_of_lt (j.below stored old)
    · simp only [List.mem_singleton] at last
      rw [last]
      exact Nat.lt_succ_self _

/-- The row that absorbs an entry: one that carries its key. -/
def absorber (j : Journal P) (entry : JournalEntry P) : Option Nat :=
  entry.idempotencyKey.bind j.findByIdempotencyKey

theorem absorber_none_iff {j : Journal P} {entry : JournalEntry P} :
    j.absorber entry = none ↔ ∀ key, entry.idempotencyKey = some key → key ∉ j.keys := by
  unfold absorber
  cases entry.idempotencyKey with
  | none => simp
  | some key => simp [find_none_iff]

/-- `Journal::append`: the sequence the entry has in the journal, and the
journal, which is unchanged when the key is already there. -/
def append (j : Journal P) (entry : JournalEntry P) (now : Int) : Nat × Journal P :=
  match found : j.absorber entry with
  | some sequence => (sequence, j)
  | none => (j.nextSequence, j.insert entry now (absorber_none_iff.mp found))

/-- An append to a store that may refuse it. -/
def offer (j : Journal P) (entry : JournalEntry P) (storage : Option NousError) (now : Int) :
    Except NousError Nat × Journal P :=
  match storage with
  | some error => (.error error, j)
  | none => (.ok (j.append entry now).1, (j.append entry now).2)

def readWorkload (j : Journal P) (workloadId : String) : List (JournalEntry P) :=
  j.entries.filter (fun entry => entry.workloadId = workloadId)

def readFrom (j : Journal P) (fromSequence : Nat) : List (JournalEntry P) :=
  j.entries.filter (fun entry => fromSequence ≤ entry.sequence)

@[simp] theorem readFrom_zero (j : Journal P) : j.readFrom 0 = j.entries := by
  simp [readFrom]

theorem mem_readWorkload {j : Journal P} {workloadId : String} {entry : JournalEntry P} :
    entry ∈ j.readWorkload workloadId ↔ entry ∈ j.entries ∧ entry.workloadId = workloadId := by
  simp [readWorkload]

/-- An entry whose key is already in the journal is absorbed. -/
theorem append_eq_absorbed {j : Journal P} {entry : JournalEntry P} {sequence : Nat} (now : Int)
    (found : j.absorber entry = some sequence) : j.append entry now = (sequence, j) := by
  unfold append
  split
  · rename_i stored other
    rw [found] at other
    cases other
    rfl
  · rename_i absent
    rw [found] at absent
    cases absent

/-- An entry with an unused key is inserted. -/
theorem append_eq_inserted {j : Journal P} {entry : JournalEntry P} (now : Int)
    (free : j.absorber entry = none) :
    j.append entry now = (j.nextSequence, j.insert entry now (absorber_none_iff.mp free)) := by
  unfold append
  split
  · rename_i found
    rw [free] at found
    cases found
  · rfl

theorem append_absorbed {j : Journal P} {entry : JournalEntry P} {sequence : Nat} (now : Int)
    (found : j.absorber entry = some sequence) : (j.append entry now).2 = j := by
  rw [append_eq_absorbed now found]

theorem append_inserted {j : Journal P} {entry : JournalEntry P} (now : Int)
    (free : j.absorber entry = none) :
    (j.append entry now).2.entries = j.entries ++ [stamp j.nextSequence now entry] := by
  rw [append_eq_inserted now free]
  rfl

/-- The rows after an append of a keyed entry. -/
theorem append_entries {j : Journal P} {entry : JournalEntry P} (key : String) (now : Int)
    (keyed : entry.idempotencyKey = some key) :
    (j.append entry now).2.entries =
      if key ∈ keysOf j.entries then j.entries
      else j.entries ++ [stamp j.nextSequence now entry] := by
  have free : j.absorber entry = none ↔ key ∉ keysOf j.entries := by
    simp [absorber_none_iff, keyed, keys]
  split
  · rename_i used
    cases found : j.absorber entry with
    | none => exact absurd used (free.mp found)
    | some sequence => rw [append_absorbed now found]
  · rename_i fresh
    exact append_inserted now (free.mpr fresh)

@[simp] theorem stamp_payload (s : Nat) (now : Int) (e : JournalEntry P) :
    (stamp s now e).payload = e.payload := rfl

@[simp] theorem stamp_workloadId (s : Nat) (now : Int) (e : JournalEntry P) :
    (stamp s now e).workloadId = e.workloadId := rfl

@[simp] theorem stamp_entryType (s : Nat) (now : Int) (e : JournalEntry P) :
    (stamp s now e).entryType = e.entryType := rfl

@[simp] theorem stamp_objectType (s : Nat) (now : Int) (e : JournalEntry P) :
    (stamp s now e).objectType = e.objectType := rfl

@[simp] theorem stamp_objectId (s : Nat) (now : Int) (e : JournalEntry P) :
    (stamp s now e).objectId = e.objectId := rfl

@[simp] theorem stamp_newPhase (s : Nat) (now : Int) (e : JournalEntry P) :
    (stamp s now e).newPhase = e.newPhase := rfl

@[simp] theorem stamp_idempotencyKey (s : Nat) (now : Int) (e : JournalEntry P) :
    (stamp s now e).idempotencyKey = e.idempotencyKey := rfl

end Journal

end NousKernel
