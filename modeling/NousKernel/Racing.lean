import NousKernel.Appending

/-!
Appends that race for one idempotency key. An append that ends well is one atomic
append of the abstract journal at its last step; one that looked its key up before
another stored it ends in an error.
-/

set_option autoImplicit false

namespace NousKernel

open Resumption

/-! ### The steps of one append -/

theorem appendEntry_keyed {entry : JournalEntry Bytes} {key : String}
    (keyed : entry.idempotencyKey = some key) :
    (appendEntry entry).run = .call (.findByIdempotencyKey key) (fun answer =>
      match answer with
      | .ok (some sequence) => .done (.ok sequence)
      | .ok none => .call (.insert entry) .done
      | .error reason => .done (.error reason)) := by
  unfold appendEntry
  rw [keyed]
  refine congrArg (Prog.call (Query.findByIdempotencyKey key)) (funext fun answer => ?_)
  rcases answer with reason | (_ | sequence)
  · rfl
  · rfl
  · rfl

theorem appendEntry_plain {entry : JournalEntry Bytes} (plain : entry.idempotencyKey = none) :
    (appendEntry entry).run = .call (.insert entry) .done := by
  unfold appendEntry
  rw [plain]
  rfl

/-- How far an append has come in a number of turns. -/
inductive Stage (entry : JournalEntry Bytes) :
    Nat → Prog Query Query.Answer (Except NousError Nat) → Prop
  | asking : Stage entry 0 (appendEntry entry).run
  | inserting {turns : Nat} (soon : turns ≤ 1) : Stage entry turns (.call (.insert entry) .done)
  | returned {turns : Nat} (result : Except NousError Nat) : Stage entry turns (.done result)

/-- The step that ends an append: a lookup that fails or finds its key, or its
insert. -/
def Concludes (entry : JournalEntry Bytes) :
    (query : Query) → query.Answer → Except NousError Nat → Prop
  | .findByIdempotencyKey key, answer, result => entry.idempotencyKey = some key ∧
      ((∃ sequence, answer = .ok (some sequence) ∧ result = .ok sequence) ∨
        ∃ reason, answer = .error reason ∧ result = .error reason)
  | .insert stored, answer, result => stored = entry ∧ result = answer

theorem Stage.step {entry : JournalEntry Bytes} {turns : Nat} {query : Query}
    {next : query.Answer → Prog Query Query.Answer (Except NousError Nat)}
    (stage : Stage entry turns (.call query next)) (answer : query.Answer) :
    Stage entry (turns + 1) (next answer) ∧
      ∀ result, next answer = .done result → Concludes entry query answer result := by
  generalize called : Prog.call query next = p at stage
  cases stage with
  | asking =>
      cases keyed : entry.idempotencyKey with
      | some key =>
          rw [appendEntry_keyed keyed] at called
          cases called
          rcases answer with reason | (_ | sequence)
          · exact ⟨.returned _, fun result ended => ⟨keyed, .inr ⟨reason, rfl, by cases ended; rfl⟩⟩⟩
          · exact ⟨.inserting (Nat.le_refl 1), fun result ended => by cases ended⟩
          · exact ⟨.returned _,
              fun result ended => ⟨keyed, .inl ⟨sequence, rfl, by cases ended; rfl⟩⟩⟩
      | none =>
          rw [appendEntry_plain keyed] at called
          cases called
          exact ⟨.returned _, fun result ended => ⟨rfl, by cases ended; rfl⟩⟩
  | inserting soon =>
      cases called
      exact ⟨.returned _, fun result ended => ⟨rfl, by cases ended; rfl⟩⟩
  | returned result => cases called

/-- An append that took two turns has returned. -/
theorem Stage.finished {entry : JournalEntry Bytes} {turns : Nat}
    {p : Prog Query Query.Answer (Except NousError Nat)} (stage : Stage entry turns p)
    (enough : 2 ≤ turns) : ∃ result, p = .done result := by
  cases stage with
  | asking => omega
  | inserting soon => omega
  | returned result => exact ⟨result, rfl⟩

/-- Neither SQLite nor the conversion of a parameter fails the step. -/
def Accepted : Query → OpenJournal → Trial → Prop
  | .findByIdempotencyKey _, _, trial => trial.failure = none
  | .insert entry, j, trial =>
      trial.failure = none ∧ j.nextSequence ≤ i64Max ∧ entry.generation ≤ i64Max

/-- An insert meets no row with its key. -/
def Unraced : Query → OpenJournal → Trial → Prop
  | .findByIdempotencyKey _, _, _ => True
  | .insert entry, j, _ => ∀ key ∈ entry.idempotencyKey, key ∉ j.database.keys

theorem Intact.find {j : OpenJournal} (intact : Intact j) (key : String) :
    (∃ row ∈ j.database.rows, ∃ sequence : Nat, row.idempotencyKey = some key ∧
      row.sequence = sequence ∧
        j.database.findByIdempotencyKey key none = .ok (some sequence)) ∨
    j.database.findByIdempotencyKey key none = .ok none := by
  unfold Database.findByIdempotencyKey
  cases found : j.database.rows.find? (fun row => row.idempotencyKey == some key) with
  | none => exact .inr rfl
  | some row =>
      have stored : row ∈ j.database.rows := List.mem_of_find?_eq_some found
      have keyed : row.idempotencyKey = some key := by
        simpa using List.find?_some found
      obtain ⟨entry, rfl, -⟩ := intact.written row stored
      refine .inl ⟨entry.row, stored, entry.sequence, keyed, rfl, ?_⟩
      simp only [integerColumn, SealedEntry.row, Int.natCast_nonneg, ↓reduceIte, Int.toNat_natCast]
      rfl

theorem Intact.untaken {j : OpenJournal} (intact : Intact j) :
    (j.nextSequence : Int) ∉ j.database.rows.map (·.sequence) := by
  rw [intact.sequences, intact.next]
  intro taken
  obtain ⟨number, within, same⟩ := List.mem_map.mp taken
  rw [List.mem_range'_1] at within
  have := Int.ofNat.inj same
  omega

/-- An accepted insert of an unused key is stored. -/
theorem Intact.insert {j : OpenJournal} {entry : JournalEntry Bytes} {trial : Trial}
    (intact : Intact j) (accepted : Accepted (.insert entry) j trial)
    (unraced : Unraced (.insert entry) j trial) :
    j.insert entry trial = (.ok j.nextSequence, j.extended entry trial.now) := by
  have stored : j.database.insertRow (j.stamped entry trial.now) trial.failure =
      .ok (j.extended entry trial.now).database :=
    insertRow_ok.mpr ⟨accepted.2.1, accepted.2.2, accepted.1, unraced, intact.untaken, rfl⟩
  rw [insert_eq, stored]
  rfl

/-- An insert of a used key is an error. -/
theorem insert_raced {j : OpenJournal} {entry : JournalEntry Bytes} {key : String} (trial : Trial)
    (keyed : entry.idempotencyKey = some key) (used : key ∈ j.database.keys) :
    ∃ reason, j.insert entry trial = (.error reason, j) := by
  rcases insert_cases j entry trial with ⟨text, failed⟩ | ⟨-, fresh, -⟩
  · exact ⟨_, failed⟩
  · exact absurd used (fresh key keyed)

/-- A row with the key and sequence of an append. -/
def Keeps (j : OpenJournal) (entry : JournalEntry Bytes) (sequence : Nat) : Prop :=
  ∃ row ∈ j.database.rows, row.idempotencyKey = entry.idempotencyKey ∧ row.sequence = sequence

/-- An accepted, unraced step ends an append only with a row it keeps. -/
theorem Concludes.keeps {j : OpenJournal} {entry : JournalEntry Bytes} {query : Query}
    {trial : Trial} {result : Except NousError Nat} (intact : Intact j)
    (accepted : Accepted query j trial) (unraced : Unraced query j trial)
    (concludes : Concludes entry query (sqlite.answer query j trial).1 result) :
    ∃ sequence, result = .ok sequence ∧ Keeps (sqlite.answer query j trial).2 entry sequence := by
  cases query with
  | findByIdempotencyKey key =>
      obtain ⟨keyed, ended⟩ := concludes
      have answered : (sqlite.answer (.findByIdempotencyKey key) j trial).1 =
          j.database.findByIdempotencyKey key none := by
        show j.database.findByIdempotencyKey key trial.failure = _
        rw [show trial.failure = none from accepted]
      rw [answered] at ended
      rcases intact.find key with ⟨row, stored, sequence, carried, numbered, found⟩ | absent
      · rw [found] at ended
        rcases ended with ⟨_, same, rfl⟩ | ⟨_, same, -⟩
        · cases same
          exact ⟨sequence, rfl, row, stored, carried.trans keyed.symm, numbered⟩
        · cases same
      · rw [absent] at ended
        rcases ended with ⟨_, same, -⟩ | ⟨_, same, -⟩
        · cases same
        · cases same
  | insert stored =>
      obtain ⟨rfl, rfl⟩ := concludes
      have inserted : sqlite.answer (.insert stored) j trial =
          (.ok j.nextSequence, j.extended stored trial.now) := intact.insert accepted unraced
      rw [inserted]
      exact ⟨j.nextSequence, rfl, (j.stamped stored trial.now).row,
        List.mem_append_right _ (List.mem_singleton.mpr rfl), rfl, rfl⟩

/-! ### The abstract journal -/

/-- The abstract journal holds the entries of the table, without checksums. -/
structure Represents (j : OpenJournal) (journal : Journal Bytes) : Prop where
  rows : ∃ entries : List SealedEntry, j.database.rows = entries.map SealedEntry.row ∧
    journal.entries = entries.map SealedEntry.toJournalEntry
  next : journal.nextSequence = j.nextSequence

theorem Represents.find {j : OpenJournal} {journal : Journal Bytes} (same : Represents j journal)
    (key : String) : j.database.findByIdempotencyKey key none =
      .ok (journal.findByIdempotencyKey key) := by
  obtain ⟨entries, rows, stored⟩ := same.rows
  unfold Database.findByIdempotencyKey Journal.findByIdempotencyKey
  rw [rows, stored, List.find?_map, List.find?_map]
  have one : ((fun row : TableRow => row.idempotencyKey == some key) ∘ SealedEntry.row) =
      (fun entry : JournalEntry Bytes => entry.idempotencyKey == some key) ∘
        SealedEntry.toJournalEntry := rfl
  rw [one]
  cases entries.find? ((fun entry : JournalEntry Bytes => entry.idempotencyKey == some key) ∘
      SealedEntry.toJournalEntry) with
  | none => rfl
  | some entry =>
      simp only [Option.map_some, integerColumn, SealedEntry.row, Int.natCast_nonneg, ↓reduceIte,
        Int.toNat_natCast]
      rfl

theorem Represents.keys {j : OpenJournal} {journal : Journal Bytes} (same : Represents j journal) :
    j.database.keys = journal.keys := by
  obtain ⟨entries, rows, stored⟩ := same.rows
  unfold Database.keys Journal.keys keysOf
  rw [rows, stored, List.filterMap_map, List.filterMap_map]
  rfl

/-- The step that ends an append well is one append of the abstract journal. -/
theorem Concludes.refines {j : OpenJournal} {journal : Journal Bytes} {entry : JournalEntry Bytes}
    {query : Query} {trial : Trial} {sequence : Nat} (same : Represents j journal)
    (accepted : trial.failure = none)
    (concludes : Concludes entry query (sqlite.answer query j trial).1 (.ok sequence)) :
    (journal.append entry trial.now).1 = sequence ∧
      Represents (sqlite.answer query j trial).2 (journal.append entry trial.now).2 := by
  cases query with
  | findByIdempotencyKey key =>
      obtain ⟨keyed, ended⟩ := concludes
      have answered : (sqlite.answer (.findByIdempotencyKey key) j trial).1 =
          .ok (journal.findByIdempotencyKey key) := by
        show j.database.findByIdempotencyKey key trial.failure = _
        rw [accepted, same.find]
      rw [answered] at ended
      rcases ended with ⟨_, found, returned⟩ | ⟨_, found, -⟩
      · cases returned
        have absorbed : journal.absorber entry = some sequence := by
          unfold Journal.absorber
          rw [keyed]
          exact Except.ok.inj found
        rw [Journal.append_eq_absorbed trial.now absorbed]
        exact ⟨rfl, same⟩
      · cases found
  | insert stored =>
      obtain ⟨rfl, ended⟩ := concludes
      change Except.ok sequence = (j.insert stored trial).1 at ended
      show _ ∧ Represents (j.insert stored trial).2 _
      rcases insert_cases j stored trial with ⟨text, failed⟩ | ⟨-, fresh, inserted⟩
      · rw [failed] at ended
        cases ended
      · rw [inserted] at ended ⊢
        cases ended
        have free : journal.absorber stored = none := by
          rw [Journal.absorber_none_iff, ← same.keys]
          exact fresh
        rw [Journal.append_eq_inserted trial.now free]
        refine ⟨same.next, ?_, congrArg (· + 1) same.next⟩
        obtain ⟨entries, rows, held⟩ := same.rows
        refine ⟨entries ++ [j.stamped stored trial.now], ?_, ?_⟩
        · rw [List.map_append, ← rows]
          rfl
        · rw [List.map_append, ← held]
          show _ = journal.entries ++ [Journal.stamp j.nextSequence trial.now stored]
          rw [← same.next]
          rfl

/-! ### Any number of appends -/

/-- Callers that each run one append. -/
def appends (entries : List (JournalEntry Bytes)) (j : OpenJournal) : Callers :=
  ⟨j, entries.map fun entry => (appendEntry entry).run⟩

/-- Every thread is the append of its entry, as far as its turns bring it. -/
structure Staged (entries : List (JournalEntry Bytes)) (turns : Nat → Nat) (s : Callers) : Prop where
  intact : Intact s.world
  length : s.threads.length = entries.length
  stage : ∀ index entry p, entries[index]? = some entry → s.threads[index]? = some p →
    Stage entry (turns index) p

/-- The turns of a caller after one more turn. -/
def countTurn (turns : Nat → Nat) (turn : Nat × Trial) (index : Nat) : Nat :=
  if index = turn.1 then turns index + 1 else turns index

theorem Staged.initial (entries : List (JournalEntry Bytes)) {j : OpenJournal}
    (intact : Intact j) : Staged entries (fun _ => 0) (appends entries j) where
  intact := intact
  length := by simp [appends]
  stage := by
    intro index entry p listed present
    simp only [appends, List.getElem?_map, listed, Option.map_some, Option.some.injEq] at present
    rw [← present]
    exact .asking

theorem Staged.step {entries : List (JournalEntry Bytes)} {turns : Nat → Nat} {s : Callers}
    (staged : Staged entries turns s) (turn : Nat × Trial) :
    Staged entries (countTurn turns turn) (s.step sqlite turn) where
  intact := (staged.intact.event (.turn s turn)).1
  length := by rw [Pool.step_length, staged.length]
  stage := by
    intro index entry p listed present
    rw [Pool.step_thread] at present
    unfold countTurn
    by_cases mine : index = turn.1
    · rw [if_pos mine] at present ⊢
      cases before : s.threads[index]? with
      | none => rw [before] at present; cases present
      | some q =>
          have stage := staged.stage index entry q listed before
          rw [before] at present
          cases q with
          | done result => cases present; exact .returned result
          | call query next => cases present; exact (stage.step _).1
    · rw [if_neg mine] at present ⊢
      exact staged.stage index entry p listed present

/-- Every append that has returned keeps a row with its key and its sequence. -/
def AllKept (entries : List (JournalEntry Bytes)) (s : Callers) : Prop :=
  ∀ index entry result, entries[index]? = some entry → s.result index = some result →
    ∃ sequence, result = .ok sequence ∧ Keeps s.world entry sequence

theorem Keeps.grow {j later : OpenJournal} {entry : JournalEntry Bytes} {sequence : Nat}
    (keeps : Keeps j entry sequence) (grown : j.database.rows <+: later.database.rows) :
    Keeps later entry sequence := by
  obtain ⟨row, stored, carried⟩ := keeps
  exact ⟨row, grown.subset stored, carried⟩

theorem AllKept.step {entries : List (JournalEntry Bytes)} {turns : Nat → Nat} {s : Callers}
    (kept : AllKept entries s) (staged : Staged entries turns s) (turn : Nat × Trial)
    (accepted : ∀ query next, s.threads[turn.1]? = some (.call query next) →
      Accepted query s.world turn.2)
    (unraced : ∀ query next, s.threads[turn.1]? = some (.call query next) →
      Unraced query s.world turn.2) :
    AllKept entries (s.step sqlite turn) := by
  intro index entry result listed returned
  have grown := (staged.intact.event (.turn s turn)).2
  rw [Pool.result_eq_some, Pool.step_thread] at returned
  by_cases mine : index = turn.1
  · subst mine
    rw [if_pos rfl] at returned
    cases before : s.threads[turn.1]? with
    | none => rw [before] at returned; cases returned
    | some q =>
        cases q with
        | done value =>
            rw [before] at returned
            cases returned
            obtain ⟨sequence, same, keeps⟩ :=
              kept turn.1 entry _ listed (Pool.result_eq_some.mpr before)
            exact ⟨sequence, same, keeps.grow grown⟩
        | call query next =>
            have concludes := ((staged.stage turn.1 entry _ listed before).step
              (sqlite.answer query s.world turn.2).1).2 result
            rw [before] at returned
            obtain ⟨sequence, same, keeps⟩ := Concludes.keeps staged.intact
              (accepted query next before) (unraced query next before)
              (concludes (Option.some.inj returned))
            refine ⟨sequence, same, ?_⟩
            rwa [Pool.step_call before]
  · rw [if_neg mine] at returned
    obtain ⟨sequence, same, keeps⟩ :=
      kept index entry _ listed (Pool.result_eq_some.mpr returned)
    exact ⟨sequence, same, keeps.grow grown⟩

theorem Staged.run {entries : List (JournalEntry Bytes)} {turns : Nat → Nat} {s : Callers}
    (staged : Staged entries turns s) (schedule : List (Nat × Trial)) :
    Staged entries (fun index => turns index + (schedule.map Prod.fst).count index)
      (s.run sqlite schedule) := by
  induction schedule generalizing s turns with
  | nil => exact staged
  | cons turn rest ih =>
      have counted : ∀ index, countTurn turns turn index + (rest.map Prod.fst).count index =
          turns index + ((turn :: rest).map Prod.fst).count index := by
        intro index
        unfold countTurn
        rw [List.map_cons, List.count_cons]
        by_cases mine : index = turn.1
        · simp only [mine, ↓reduceIte, beq_self_eq_true]
          omega
        · have other : (turn.1 == index) = false := beq_false_of_ne (Ne.symm mine)
          simp only [mine, ↓reduceIte, other, Bool.false_eq_true]
          omega
      have later := ih (staged.step turn)
      rwa [funext counted] at later

theorem AllKept.run {entries : List (JournalEntry Bytes)} {turns : Nat → Nat} {s : Callers}
    (kept : AllKept entries s) (staged : Staged entries turns s) (schedule : List (Nat × Trial))
    (accepted : s.Along sqlite Accepted schedule) (unraced : s.Along sqlite Unraced schedule) :
    AllKept entries (s.run sqlite schedule) := by
  induction schedule generalizing s turns with
  | nil => exact kept
  | cons turn rest ih =>
      exact ih (kept.step staged turn accepted.1 unraced.1) (staged.step turn) accepted.2 unraced.2

/-- A caller that is about to insert inserts its own entry and returns the answer. -/
theorem Stage.insert {entry stored : JournalEntry Bytes} {turns : Nat}
    {next : Query.Answer (.insert stored) → Prog Query Query.Answer (Except NousError Nat)}
    (stage : Stage entry turns (.call (.insert stored) next)) : stored = entry ∧ next = .done := by
  generalize called : Prog.call (Query.insert stored) next = p at stage
  cases stage with
  | asking =>
      cases keyed : entry.idempotencyKey with
      | some key => rw [appendEntry_keyed keyed] at called; cases called
      | none => rw [appendEntry_plain keyed] at called; cases called; exact ⟨rfl, rfl⟩
  | inserting soon => cases called; exact ⟨rfl, rfl⟩
  | returned result => cases called

/-- Where no keyed append ends in an error, no insert met a used key. -/
theorem Staged.unraced {entries : List (JournalEntry Bytes)} {turns : Nat → Nat} {s : Callers}
    (staged : Staged entries turns s) (schedule : List (Nat × Trial))
    (flawless : ∀ index entry key reason, entries[index]? = some entry →
      entry.idempotencyKey = some key →
        (s.run sqlite schedule).result index ≠ some (.error reason)) :
    s.Along sqlite Unraced schedule := by
  induction schedule generalizing s turns with
  | nil => trivial
  | cons turn rest ih =>
      refine ⟨fun query next present => ?_, ih (staged.step turn) flawless⟩
      cases query with
      | findByIdempotencyKey key => trivial
      | insert stored =>
          intro key keyed used
          have within : turn.1 < entries.length := by
            rw [← staged.length]
            exact (List.getElem?_eq_some_iff.mp present).1
          obtain ⟨entry, listed⟩ : ∃ entry, entries[turn.1]? = some entry :=
            ⟨_, List.getElem?_eq_getElem within⟩
          obtain ⟨rfl, rfl⟩ := (staged.stage turn.1 entry _ listed present).insert
          obtain ⟨reason, failed⟩ := insert_raced turn.2 keyed used
          have ended : (s.step sqlite turn).result turn.1 = some (.error reason) := by
            rw [Pool.result_eq_some, Pool.step_thread, if_pos rfl, present]
            show some (Prog.done (s.world.insert stored turn.2).1) = _
            rw [failed]
          exact flawless turn.1 stored key reason listed keyed (Pool.result_run ended rest)

/-- The append of a key returned the sequence of the one row with that key. -/
def ReturnsRow (s : Callers) (index : Nat) (key : String) : Prop :=
  ∃ row ∈ s.world.database.rows, ∃ sequence : Nat, row.idempotencyKey = some key ∧
    row.sequence = sequence ∧ s.result index = some (.ok sequence) ∧
      ∀ other ∈ s.world.database.rows, other.idempotencyKey = some key → other = row

/-- Appends return as documented exactly in the runs in which no insert meets a
row with its key, one that came after the lookup. -/
theorem racing_appends_return_iff {j : OpenJournal} (reached : Journaled ⟨j, []⟩)
    (entries : List (JournalEntry Bytes)) (schedule : List (Nat × Trial))
    (accepted : (appends entries j).Along sqlite Accepted schedule) :
    (∀ index entry key, entries[index]? = some entry → entry.idempotencyKey = some key →
      ((appends entries j).run sqlite schedule).result index ≠ none ∨
          2 ≤ (schedule.map Prod.fst).count index →
        ReturnsRow ((appends entries j).run sqlite schedule) index key) ↔
      (appends entries j).Along sqlite Unraced schedule := by
  have initial := Staged.initial entries reached.intact
  constructor
  · intro returns
    apply initial.unraced
    intro index entry key reason listed keyed failed
    obtain ⟨_, _, sequence, _, _, returned, _⟩ :=
      returns index entry key listed keyed (.inl (by rw [failed]; exact Option.some_ne_none _))
    rw [returned] at failed
    cases failed
  · intro unraced index entry key listed keyed scheduled
    have staged := initial.run schedule
    have unreturned : AllKept entries (appends entries j) := by
      intro index entry result listed returned
      rw [Pool.result_eq_some] at returned
      simp only [appends, List.getElem?_map, listed, Option.map_some, Option.some.injEq] at returned
      cases keyed : entry.idempotencyKey with
      | some key => rw [appendEntry_keyed keyed] at returned; cases returned
      | none => rw [appendEntry_plain keyed] at returned; cases returned
    have kept := unreturned.run initial schedule accepted unraced
    obtain ⟨result, returned⟩ : ∃ result,
        ((appends entries j).run sqlite schedule).result index = some result := by
      rcases scheduled with some | twice
      · exact Option.ne_none_iff_exists'.mp some
      · have within : index < ((appends entries j).run sqlite schedule).threads.length := by
          rw [staged.length]
          exact (List.getElem?_eq_some_iff.mp listed).1
        obtain ⟨result, ended⟩ := (staged.stage index entry _ listed
          (List.getElem?_eq_getElem within)).finished (by omega)
        exact ⟨result, Pool.result_eq_some.mpr (by rw [List.getElem?_eq_getElem within, ended])⟩
    obtain ⟨sequence, rfl, row, stored, carried, numbered⟩ := kept index entry result listed returned
    refine ⟨row, stored, sequence, carried.trans keyed, numbered, returned, ?_⟩
    intro other present same
    exact filterMap_unique staged.intact.keys present stored same (carried.trans keyed)

theorem step_next (s : Callers) (turn : Nat × Trial) :
    (s.step sqlite turn).world.nextSequence ≤ s.world.nextSequence + 1 := by
  unfold Pool.step
  split
  · rename_i query _ _
    cases query with
    | findByIdempotencyKey key => exact Nat.le_succ _
    | insert entry =>
        show (s.world.insert entry turn.2).2.nextSequence ≤ _
        rcases insert_cases s.world entry turn.2 with ⟨text, failed⟩ | ⟨-, -, stored⟩
        · rw [failed]
          exact Nat.le_succ _
        · rw [stored]
          exact Nat.le_refl _
  · exact Nat.le_succ _

/-- Nothing fails while SQLite does not and the integers fit. -/
theorem Staged.accepted {entries : List (JournalEntry Bytes)} {turns : Nat → Nat} {s : Callers}
    (staged : Staged entries turns s) (schedule : List (Nat × Trial))
    (reliable : ∀ turn ∈ schedule, turn.2.failure = none)
    (small : ∀ entry ∈ entries, entry.generation ≤ i64Max)
    (room : s.world.nextSequence + schedule.length ≤ i64Max) :
    s.Along sqlite Accepted schedule := by
  induction schedule generalizing s turns with
  | nil => trivial
  | cons turn rest ih =>
      simp only [List.length_cons] at room
      refine ⟨fun query next present => ?_, ?_⟩
      · cases query with
        | findByIdempotencyKey key => exact reliable turn (.head _)
        | insert stored =>
            have within : turn.1 < entries.length := by
              rw [← staged.length]
              exact (List.getElem?_eq_some_iff.mp present).1
            have own := (staged.stage turn.1 _ _ (List.getElem?_eq_getElem within) present).insert.1
            refine ⟨reliable turn (.head _), by omega, ?_⟩
            rw [own]
            exact small _ (List.getElem_mem within)
      · apply ih (staged.step turn) fun other member => reliable other (.tail _ member)
        have advanced := step_next s turn
        omega

/-- Two appends with one key, one after the other, agree. -/
theorem racing_appends_return_in_turn :
    ReturnsRow ((appends (List.replicate 2 (sampleEntry (some "key-1"))) newJournal).run sqlite
      [(0, {}), (0, {}), (1, {})]) 1 "key-1" := by
  have reached : Journaled ⟨newJournal, []⟩ := ⟨newJournal, rfl, .refl⟩
  have initial := Staged.initial (List.replicate 2 (sampleEntry (some "key-1"))) reached.intact
  have accepted := initial.accepted [(0, {}), (0, {}), (1, {})] (by decide) (by decide) (by decide)
  have results : ((appends (List.replicate 2 (sampleEntry (some "key-1"))) newJournal).run sqlite
      [(0, {}), (0, {}), (1, {})]).result 0 = some (.ok 1) ∧
      ((appends (List.replicate 2 (sampleEntry (some "key-1"))) newJournal).run sqlite
        [(0, {}), (0, {}), (1, {})]).result 1 = some (.ok 1) := by
    decide +kernel
  have unraced := initial.unraced [(0, {}), (0, {}), (1, {})] (by
    intro index entry key reason listed _
    match index, listed with
    | 0, _ => rw [results.1]; simp
    | 1, _ => rw [results.2]; simp)
  exact (racing_appends_return_iff reached _ _ accepted).mpr unraced 1 _ _ rfl rfl
    (.inl (by rw [results.2]; exact Option.some_ne_none _))

/-- Of two appends with one key that both looked it up first, the second fails. -/
theorem racing_append_refused :
    (appends (List.replicate 2 (sampleEntry (some "key-1"))) newJournal).Along sqlite Accepted
      [(0, {}), (1, {}), (0, {}), (1, {})] ∧
    ((appends (List.replicate 2 (sampleEntry (some "key-1"))) newJournal).run sqlite
      [(0, {}), (1, {}), (0, {}), (1, {})]).result 1 =
        some (.error ⟨.alreadyExists, "Idempotency key already used"⟩) ∧
    ¬ ReturnsRow ((appends (List.replicate 2 (sampleEntry (some "key-1"))) newJournal).run sqlite
      [(0, {}), (1, {}), (0, {}), (1, {})]) 1 "key-1" := by
  have reached : Journaled ⟨newJournal, []⟩ := ⟨newJournal, rfl, .refl⟩
  have initial := Staged.initial (List.replicate 2 (sampleEntry (some "key-1"))) reached.intact
  have refused : ((appends (List.replicate 2 (sampleEntry (some "key-1"))) newJournal).run sqlite
      [(0, {}), (1, {}), (0, {}), (1, {})]).result 1 =
        some (.error ⟨.alreadyExists, "Idempotency key already used"⟩) := by
    decide +kernel
  refine ⟨initial.accepted _ (by decide) (by decide) (by decide), refused, ?_⟩
  rintro ⟨_, _, sequence, _, _, returned, _⟩
  rw [refused] at returned
  cases returned

end NousKernel
