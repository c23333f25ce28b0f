import NousKernel.Appending
import NousKernel.Results

/-!
What `verify_integrity` reports. The checksum is taken over the fields of a row
written one after another without lengths or separators, so a change is seen
exactly when it changes these joined bytes.
-/

set_option autoImplicit false

namespace NousKernel

open Results Resumption

theorem mem_select {db : Database} {row : TableRow} :
    row ∈ db.select (fun _ => true) ↔ row ∈ db.rows := by
  rw [Database.select, List.mem_mergeSort, List.mem_filter]
  simp

theorem verifyIntegrity_eq (db : Database) :
    db.verifyIntegrity "ok" =
      match (db.select (fun _ => true)).mapM decodeEntry with
      | .error e => .error ⟨.internal, "Failed to read row: " ++ e⟩
      | .ok entries => .ok ((entries.filter (fun entry =>
          computeChecksum entry.toJournalEntry ≠ entry.checksum)).map (·.sequence)) := by
  unfold Database.verifyIntegrity
  cases (db.select (fun _ => true)).mapM decodeEntry <;> rfl

/-- A journal is verified by rows: each must decode, and those are reported whose
checksum is not the one of their fields. -/
theorem verify_reports {db : Database} {sequence : Nat} :
    (∃ corrupted, db.verifyIntegrity "ok" = .ok corrupted ∧ sequence ∈ corrupted) ↔
      (∀ row ∈ db.rows, ∃ entry, decodeEntry row = .ok entry) ∧
      ∃ row ∈ db.rows, ∃ entry, decodeEntry row = .ok entry ∧
        computeChecksum entry.toJournalEntry ≠ entry.checksum ∧ entry.sequence = sequence := by
  rw [verifyIntegrity_eq]
  constructor
  · rintro ⟨corrupted, returned, reported⟩
    cases decoded : (db.select (fun _ => true)).mapM decodeEntry with
    | error e => rw [decoded] at returned; cases returned
    | ok entries =>
        rw [decoded] at returned
        cases returned
        have listed := mapM_ok.mp decoded
        constructor
        · intro row stored
          have member : decodeEntry row ∈ entries.map Except.ok := by
            rw [← listed]
            exact List.mem_map_of_mem (mem_select.mpr stored)
          obtain ⟨entry, -, same⟩ := List.mem_map.mp member
          exact ⟨entry, same.symm⟩
        · obtain ⟨entry, member, numbered⟩ := List.mem_map.mp reported
          obtain ⟨present, differs⟩ := List.mem_filter.mp member
          have source : Except.ok entry ∈ (db.select (fun _ => true)).map decodeEntry := by
            rw [listed]
            exact List.mem_map_of_mem present
          obtain ⟨row, stored, same⟩ := List.mem_map.mp source
          exact ⟨row, mem_select.mp stored, entry, same, of_decide_eq_true differs, numbered⟩
  · rintro ⟨decodes, row, stored, entry, same, differs, numbered⟩
    obtain ⟨entries, decoded⟩ := mapM_total fun other present =>
      decodes other (mem_select.mp present)
    have listed := mapM_ok.mp decoded
    have member : Except.ok entry ∈ (entries.map .ok : List (Except String SealedEntry)) := by
      rw [← listed, ← same]
      exact List.mem_map_of_mem (mem_select.mpr stored)
    obtain ⟨found, present, equal⟩ := List.mem_map.mp member
    cases equal
    rw [decoded]
    refine ⟨_, rfl, List.mem_map.mpr ⟨entry, List.mem_filter.mpr ⟨present, ?_⟩, numbered⟩⟩
    exact decide_eq_true differs

/-! ### The bytes of a row -/

/-- The columns of a row but the checksum, one after another: integers as eight
big-endian bytes, an absent text as nothing. -/
def TableRow.joined (row : TableRow) : Bytes :=
  Sha256.bigEndian 8 row.sequence.toNat ++ asBytes row.workloadId ++ asBytes row.entryType ++
    asBytes row.objectType ++ asBytes row.objectId ++
    (row.previousPhase.map asBytes).getD [] ++ asBytes row.newPhase ++
    Sha256.bigEndian 8 row.generation.toNat ++ row.payload ++ asBytes row.fencingToken ++
    asBytes row.actor ++ (row.idempotencyKey.map asBytes).getD [] ++
    Sha256.bigEndian 8 (row.timestampUs % 2 ^ 64).toNat

/-- A row that decodes. -/
structure TableRow.Readable (row : TableRow) : Prop where
  entryType : ∃ kind : EntryType, row.entryType = kind.asStr
  sequence : 0 ≤ row.sequence
  generation : 0 ≤ row.generation

theorem EntryType.asStr_of_parse {text : String} {kind : EntryType}
    (parsed : EntryType.parse text = some kind) : text = kind.asStr := by
  unfold EntryType.parse at parsed
  repeat' split at parsed
  all_goals cases parsed
  all_goals assumption

theorem TableRow.Readable.decode {row : TableRow} (readable : row.Readable) :
    ∃ entry, decodeEntry row = .ok entry ∧ entry.row = row := by
  obtain ⟨kind, named⟩ := readable.entryType
  have parsed : EntryType.parse row.entryType = some kind := by
    rw [named, EntryType.parse_asStr]
  unfold decodeEntry integerColumn
  rw [parsed]
  simp only [readable.sequence, readable.generation, ↓reduceIte]
  refine ⟨_, rfl, ?_⟩
  unfold SealedEntry.row
  simp only [Int.toNat_of_nonneg readable.sequence, Int.toNat_of_nonneg readable.generation,
    ← named]

theorem TableRow.Readable.of_decode {row : TableRow} {entry : SealedEntry}
    (decoded : decodeEntry row = .ok entry) : row.Readable := by
  unfold decodeEntry integerColumn at decoded
  cases parsed : EntryType.parse row.entryType with
  | none => rw [parsed] at decoded; cases decoded
  | some kind =>
      by_cases sequence : 0 ≤ row.sequence
      · by_cases generation : 0 ≤ row.generation
        · exact ⟨⟨kind, EntryType.asStr_of_parse parsed⟩, sequence, generation⟩
        · simp only [parsed, sequence, generation, ↓reduceIte] at decoded
          cases decoded
      · simp only [parsed, sequence, ↓reduceIte] at decoded
        cases decoded

/-- What the checksum of an entry covers is its row, joined. -/
theorem checksumInput_eq (entry : SealedEntry) :
    checksumInput entry.toJournalEntry = entry.row.joined := by
  unfold checksumInput TableRow.joined SealedEntry.row
  simp only [Int.toNat_natCast]

/-- A row whose checksum is the one of its columns. -/
def TableRow.Checks (row : TableRow) : Prop := row.checksum = Sha256.digest row.joined

theorem Intact.checks {j : OpenJournal} (intact : Intact j) {row : TableRow}
    (stored : row ∈ j.database.rows) : row.Readable ∧ row.Checks := by
  obtain ⟨entry, rfl, checked⟩ := intact.written row stored
  refine ⟨.of_decode (decode_row entry), ?_⟩
  show entry.checksum = _
  rw [checked, computeChecksum, checksumInput_eq]

/-- The report, in terms of rows. -/
theorem verify_reports_rows {db : Database} {sequence : Nat} :
    (∃ corrupted, db.verifyIntegrity "ok" = .ok corrupted ∧ sequence ∈ corrupted) ↔
      (∀ row ∈ db.rows, row.Readable) ∧
      ∃ row ∈ db.rows, ¬ row.Checks ∧ row.sequence.toNat = sequence := by
  rw [verify_reports]
  constructor
  · rintro ⟨decodes, row, stored, entry, decoded, differs, numbered⟩
    have readable : ∀ row ∈ db.rows, row.Readable := fun other present =>
      let ⟨_, found⟩ := decodes other present
      .of_decode found
    obtain ⟨other, again, rfl⟩ := (readable row stored).decode
    rw [decoded] at again
    cases again
    refine ⟨readable, entry.row, stored, ?_, ?_⟩
    · intro checks
      apply differs
      rw [computeChecksum, checksumInput_eq]
      exact checks.symm
    · rw [← numbered]
      exact Int.toNat_natCast _
  · rintro ⟨readable, row, stored, differs, numbered⟩
    refine ⟨fun other present => ?_, ?_⟩
    · obtain ⟨entry, decoded, -⟩ := (readable other present).decode
      exact ⟨entry, decoded⟩
    · obtain ⟨entry, decoded, rfl⟩ := (readable row stored).decode
      refine ⟨entry.row, stored, entry, decoded, ?_, ?_⟩
      · rw [computeChecksum, checksumInput_eq]
        exact fun same => differs same.symm
      · rw [← numbered]
        exact (Int.toNat_natCast _).symm

theorem verifies_of_checks {db : Database} (checks : ∀ row ∈ db.rows, row.Readable ∧ row.Checks) :
    db.verifyIntegrity "ok" = .ok [] := by
  have decodes : ∀ row ∈ db.select (fun _ => true), ∃ entry, decodeEntry row = .ok entry := by
    intro row present
    obtain ⟨entry, found, -⟩ := (checks row (mem_select.mp present)).1.decode
    exact ⟨entry, found⟩
  obtain ⟨entries, decoded⟩ := mapM_total decodes
  have total : ∃ corrupted, db.verifyIntegrity "ok" = .ok corrupted := by
    rw [verifyIntegrity_eq, decoded]
    exact ⟨_, rfl⟩
  obtain ⟨corrupted, returned⟩ := total
  have none : ∀ sequence, sequence ∉ corrupted := by
    intro sequence reported
    obtain ⟨-, row, stored, differs, -⟩ := verify_reports_rows.mp ⟨corrupted, returned, reported⟩
    exact differs (checks row stored).2
  rw [returned, List.eq_nil_iff_forall_not_mem.mpr none]

/-- Nothing is reported of a journal that only its appends wrote, and a row put
in the place of a stored one under the stored checksum is reported exactly when
it decodes and its joined columns differ. -/
theorem tampering_reported_iff {s : Callers} (reached : Journaled s) :
    s.world.database.verifyIntegrity "ok" = .ok [] ∧
    ∀ index original row, s.world.database.rows[index]? = some original →
      row.checksum = original.checksum →
      (Sha256.digest row.joined = Sha256.digest original.joined → row.joined = original.joined) →
      ((∃ corrupted, Database.verifyIntegrity
          { s.world.database with rows := s.world.database.rows.set index row } "ok" =
            .ok corrupted ∧ row.sequence.toNat ∈ corrupted) ↔
        row.Readable ∧ row.joined ≠ original.joined) := by
  have intact := reached.intact
  refine ⟨verifies_of_checks fun row stored => intact.checks stored, ?_⟩
  intro index original row present kept collisionFree
  have originally : original.Checks := (intact.checks (List.mem_of_getElem? present)).2
  have stored : row ∈ s.world.database.rows.set index row :=
    List.mem_set (List.getElem?_eq_some_iff.mp present).1 row
  rw [verify_reports_rows]
  constructor
  · rintro ⟨readable, bad, member, differs, -⟩
    refine ⟨readable row stored, fun same => differs ?_⟩
    rcases List.mem_or_eq_of_mem_set member with old | rfl
    · exact (intact.checks old).2
    · show bad.checksum = _
      rw [kept, same]
      exact originally
  · rintro ⟨readable, differs⟩
    refine ⟨fun other member => ?_, row, stored, fun checks => differs (collisionFree ?_), rfl⟩
    · rcases List.mem_or_eq_of_mem_set member with old | rfl
      · exact (intact.checks old).1
      · exact readable
    · exact checks.symm.trans (kept.trans originally)

/-- The row of an append to a new journal. -/
def sampleRow : TableRow := (newJournal.stamped (sampleEntry (some "key-1")) 1).row

/-- The journal after one append. -/
def sampleJournal : Callers :=
  Pool.run sqlite (⟨newJournal, [(appendEntry (sampleEntry (some "key-1"))).run]⟩ : Callers)
    [(0, {}), (0, {})]

theorem sampleJournal_reached : Journaled sampleJournal :=
  ⟨newJournal, rfl, .trans (.tail .refl (.call _ (sampleEntry (some "key-1"))))
    (journaling_turns _ _)⟩

theorem sampleJournal_rows : sampleJournal.world.database.rows = [sampleRow] := rfl

/-- A changed phase is reported. -/
theorem tampering_reported_phase :
    ∃ corrupted, Database.verifyIntegrity
      { sampleJournal.world.database with
        rows := sampleJournal.world.database.rows.set 0 { sampleRow with newPhase := "COMMITTED" } }
      "ok" = .ok corrupted ∧ 1 ∈ corrupted := by
  refine (((tampering_reported_iff sampleJournal_reached).2 0 sampleRow
    { sampleRow with newPhase := "COMMITTED" } ?_ rfl ?_).mpr ⟨⟨⟨.transition, rfl⟩, ?_, ?_⟩, ?_⟩)
  · rw [sampleJournal_rows]
    rfl
  · decide +kernel
  · decide
  · decide
  · decide +kernel

/-- A byte moved from one field to the next is not. -/
theorem tampering_unreported :
    sampleJournal.world.database.rows[0]? = some sampleRow ∧
    ({ sampleRow with objectType := "Workloadw", objectId := "orkload-1" } : TableRow) ≠ sampleRow ∧
    Database.verifyIntegrity
      { sampleJournal.world.database with
        rows := sampleJournal.world.database.rows.set 0
          { sampleRow with objectType := "Workloadw", objectId := "orkload-1" } } "ok" =
      .ok [] := by
  have stored : sampleRow ∈ sampleJournal.world.database.rows := by
    rw [sampleJournal_rows]
    exact List.mem_singleton_self _
  have original : sampleRow.Checks := (sampleJournal_reached.intact.checks stored).2
  have parts : asBytes sampleRow.objectType ++ asBytes sampleRow.objectId =
      asBytes "Workloadw" ++ asBytes "orkload-1" := by decide
  have joined : sampleRow.joined = TableRow.joined
      { sampleRow with objectType := "Workloadw", objectId := "orkload-1" } := by
    unfold TableRow.joined
    rw [List.append_assoc _ (asBytes sampleRow.objectType), parts, ← List.append_assoc]
  refine ⟨?_, ?_, ?_⟩
  · rw [sampleJournal_rows]
    rfl
  · intro same
    exact absurd (congrArg TableRow.objectType same) (by decide)
  · apply verifies_of_checks
    intro row changed
    change row ∈ sampleJournal.world.database.rows.set 0
      { sampleRow with objectType := "Workloadw", objectId := "orkload-1" } at changed
    rw [sampleJournal_rows, List.set_cons_zero, List.mem_singleton] at changed
    subst changed
    refine ⟨⟨⟨.transition, rfl⟩, by decide, by decide⟩, ?_⟩
    exact original.trans (congrArg Sha256.digest joined)

end NousKernel
