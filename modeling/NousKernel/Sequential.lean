import NousKernel.History

/-!
One task at a time: the discipline under which the runtime's programs keep the
law of the history, and the rule of each call. The parameter `Allowed` limits
what the environment may do. A branch that only a failing storage or a slow
clock can reach says so in its rule.
-/

set_option autoImplicit false

namespace NousKernel

open Resumption Resumption.Discipline

/-- The history tells the journal, and it keeps the law. -/
structure Sound (Input : OperationRequest → Prop) (base : List Event) (w : World) : Prop where
  linked : w.journal.entries = entriesOf w.history
  lawful : Lawful Input base w.history

def sequential (Input : OperationRequest → Prop) (base : List Event)
    (Allowed : Call → World → Choice → Prop) : Discipline Call Answer World Choice where
  machine := kernel
  inv := Sound Input base
  allow := Allowed
  rely := Eq
  guar _ _ := True

/-- The environment never fails the storage. -/
def Reliable (Allowed : Call → World → Choice → Prop) : Prop :=
  ∀ call w choice, Allowed call w choice → choice.storage = none

/-- Less than a lease's life passes between its grant and its fencing check. -/
def Prompt (Allowed : Call → World → Choice → Prop) : Prop :=
  ∀ entry w choice, Allowed (.append entry) w choice →
    ∀ leaseId token later next, Allowed (.authorize leaseId token) later next →
      choice.elapsed + next.elapsed < 30000000

/-- The process is as it was: only the journal, the history and the clock may
have moved. -/
structure SameProcess (w later : World) : Prop where
  leases : later.leases = w.leases
  state : later.state = w.state
  cancelled : later.cancelled = w.cancelled
  tokens : later.tokens = w.tokens

theorem SameProcess.refl (w : World) : SameProcess w w := ⟨rfl, rfl, rfl, rfl⟩

theorem SameProcess.trans {a b c : World} (first : SameProcess a b) (second : SameProcess b c) :
    SameProcess a c where
  leases := second.leases.trans first.leases
  state := second.state.trans first.state
  cancelled := second.cancelled.trans first.cancelled
  tokens := second.tokens.trans first.tokens

theorem SameProcess.after {a b c : World} (second : SameProcess b c) (first : SameProcess a b) :
    SameProcess a c := first.trans second

theorem SameProcess.tick (w : World) (elapsed : Nat) : SameProcess w (w.tick elapsed) :=
  ⟨rfl, rfl, rfl, rfl⟩

/-- An append that the storage took. -/
structure Appends (Allowed : Call → World → Choice → Prop) (w : World) (entry : Entry)
    (later : World) : Prop where
  journal : ∃ now, later.journal = (w.journal.append entry now).2
  history : ∃ event, later.history = w.history ++ [event] ∧
    (event = .absorbed entry ∨ ∃ stored, event = .appended stored)
  elapsed : ∃ choice, Allowed (.append entry) w choice ∧ later.clock = w.clock + choice.elapsed
  process : SameProcess w later

/-- An append that the storage refused. -/
structure Refuses (w : World) (entry : Entry) (later : World) : Prop where
  journal : later.journal = w.journal
  history : later.history = w.history ++ [.refused entry]
  process : SameProcess w later

section Rules

variable {Input : OperationRequest → Prop} {base : List Event}
  {Allowed : Call → World → Choice → Prop} {α : Type}

theorem sequential_quiet : (sequential Input base Allowed).Interference :=
  Alone.interference (d := sequential Input base Allowed) fun _ _ => Iff.rfl

theorem Sound.tick {w : World} (valid : Sound Input base w) (elapsed : Nat) :
    Sound Input base (w.tick elapsed) := ⟨valid.linked, valid.lawful⟩

/-- An event that is no append leaves the journal alone. -/
theorem Sound.record {w : World} (valid : Sound Input base w) {event : Event}
    (silent : entriesOf [event] = []) (law : Law Input w.history event) :
    Sound Input base (w.record event) where
  linked := by
    rw [World.record, entriesOf_append, silent, List.append_nil]
    exact valid.linked
  lawful := .next _ _ valid.lawful law

theorem safe_done {post : α → World → Prop} {value : α} {w : World}
    (holds : Sound Input base w → post value w) :
    (sequential Input base Allowed).Safe post (.done value) w := by
  intro later same valid
  cases same
  exact holds valid

/-- A program may take the invariant of its world for granted. -/
theorem safe_sound {post : α → World → Prop} {p : Task α} {w : World}
    (safe : Sound Input base w → (sequential Input base Allowed).Safe post p w) :
    (sequential Input base Allowed).Safe post p w := by
  refine Safe.of_rely sequential_quiet fun later same valid => ?_
  cases same
  exact safe valid

theorem safe_perform {call : Call} {post : Answer call → World → Prop} {w : World}
    (step : Sound Input base w → ∀ choice, Allowed call w choice →
      Sound Input base (kernelAnswer call w choice).2 ∧
        post (kernelAnswer call w choice).1 (kernelAnswer call w choice).2) :
    (sequential Input base Allowed).Safe post (Prog.perform call) w := by
  intro now same valid choice allowed
  cases same
  obtain ⟨kept, holds⟩ := step valid choice allowed
  exact ⟨kept, trivial, safe_done fun _ => holds⟩

theorem safe_now {post : Int → World → Prop} {w : World}
    (next : ∀ elapsed : Nat, post (w.clock + elapsed) (w.tick elapsed)) :
    (sequential Input base Allowed).Safe post Task.now w :=
  safe_perform fun valid choice _ => ⟨valid.tick _, next choice.elapsed⟩

theorem safe_kernelState {post : KernelState → World → Prop} {w : World}
    (next : ∀ elapsed : Nat, post w.state (w.tick elapsed)) :
    (sequential Input base Allowed).Safe post Task.kernelState w :=
  safe_perform fun valid choice _ => ⟨valid.tick _, next choice.elapsed⟩

theorem safe_isCancelled {token : Nat} {post : Bool → World → Prop} {w : World}
    (next : ∀ elapsed : Nat, post (decide (token ∈ w.cancelled)) (w.tick elapsed)) :
    (sequential Input base Allowed).Safe post (Task.isCancelled token) w :=
  safe_perform fun valid choice _ => ⟨valid.tick _, next choice.elapsed⟩

/-- A read fails only where the environment may fail the storage. -/
theorem storageRead_cases {call : Call} {w : World} {choice : Choice} {γ : Type} {value : γ}
    {motive : Except NousError γ → Prop} (allowed : Allowed call w choice)
    (next : motive (.ok value)) (fault : ¬ Reliable Allowed → ∀ error, motive (.error error)) :
    motive (storageRead choice.storage value) := by
  cases failed : choice.storage with
  | none => exact next
  | some error =>
      refine fault (fun reliable => ?_) error
      rw [reliable _ _ _ allowed] at failed
      cases failed

theorem safe_readWorkload {workloadId : String}
    {post : Except NousError (List Entry) → World → Prop} {w : World}
    (next : ∀ elapsed, post (.ok (w.journal.readWorkload workloadId)) (w.tick elapsed))
    (fault : ¬ Reliable Allowed → ∀ elapsed error, post (.error error) (w.tick elapsed)) :
    (sequential Input base Allowed).Safe post (Task.readWorkload workloadId) w :=
  safe_perform fun valid choice allowed => ⟨valid.tick _,
    storageRead_cases (motive := fun result => post result (w.tick choice.elapsed)) allowed
      (next choice.elapsed) fun broken => fault broken choice.elapsed⟩

theorem safe_readFrom {fromSequence : Nat}
    {post : Except NousError (List Entry) → World → Prop} {w : World}
    (next : ∀ elapsed, post (.ok (w.journal.readFrom fromSequence)) (w.tick elapsed))
    (fault : ¬ Reliable Allowed → ∀ elapsed error, post (.error error) (w.tick elapsed)) :
    (sequential Input base Allowed).Safe post (Task.readFrom fromSequence) w :=
  safe_perform fun valid choice allowed => ⟨valid.tick _,
    storageRead_cases (motive := fun result => post result (w.tick choice.elapsed)) allowed
      (next choice.elapsed) fun broken => fault broken choice.elapsed⟩

theorem safe_mapError {ε : Type} {convert : ε → KernelError} {task : Task (Except ε α)}
    {post : Except KernelError α → World → Prop} {w : World}
    (safe : (sequential Input base Allowed).Safe (fun result later =>
      match result with
      | .ok value => post (.ok value) later
      | .error error => post (.error (convert error)) later) task w) :
    (sequential Input base Allowed).Safe post (mapError convert task).run w := by
  refine Safe.bind sequential_quiet (safe.mono ?_)
  intro result later _ holds
  cases result with
  | ok value => exact safe_done fun _ => holds
  | error error => exact safe_done fun _ => holds

/-- The lookup of a committed receipt. -/
theorem safe_committedReceipt {r : OperationRequest}
    {post : Except KernelError (Option OperationReceipt) → World → Prop} {w : World}
    (next : ∀ elapsed, post (.ok (committedIn r w.journal.entries)) (w.tick elapsed))
    (fault : ¬ Reliable Allowed → ∀ elapsed error, post (.error error) (w.tick elapsed)) :
    (sequential Input base Allowed).Safe post (committedReceipt r).run w := by
  refine Safe.bindExcept sequential_quiet (safe_mapError (safe_readWorkload ?_ ?_))
  · intro elapsed
    exact safe_done fun _ => next elapsed
  · intro broken elapsed error
    exact safe_done fun _ => fault broken elapsed _

theorem safe_receivedReceipt {r : OperationRequest}
    {post : Except KernelError (Option OperationReceipt) → World → Prop} {w : World}
    (next : ∀ elapsed, post (.ok (receivedIn r w.journal.entries)) (w.tick elapsed))
    (fault : ¬ Reliable Allowed → ∀ elapsed error, post (.error error) (w.tick elapsed)) :
    (sequential Input base Allowed).Safe post (receivedReceipt r).run w := by
  refine Safe.bindExcept sequential_quiet (safe_mapError (safe_readWorkload ?_ ?_))
  · intro elapsed
    exact safe_done fun _ => next elapsed
  · intro broken elapsed error
    exact safe_done fun _ => fault broken elapsed _

/-- The world of an append that the storage takes. -/
theorem Appends.of_answer {w : World} {entry : Entry} {choice : Choice}
    (allowed : Allowed (.append entry) w choice) :
    Appends Allowed w entry ((w.tick choice.elapsed).append entry none).2 where
  journal := ⟨_, rfl⟩
  history := by
    refine ⟨_, rfl, ?_⟩
    split
    · exact .inl rfl
    · exact .inr ⟨_, rfl⟩
  elapsed := ⟨choice, allowed, rfl⟩
  process := ⟨rfl, rfl, rfl, rfl⟩

/-- The stored row keeps the law because the entry is one the runtime writes, in
its order. -/
theorem Sound.append {w : World} {entry : Entry} (valid : Sound Input base w)
    (written : Written Input entry) (ordered : Ordered w.history entry) :
    Sound Input base (w.append entry none).2 := by
  cases found : w.journal.absorber entry with
  | some sequence =>
      have kept := Journal.append_absorbed w.clock found
      constructor
      · simpa [World.append, World.record, found, kept, entriesOf] using valid.linked
      · simpa [World.append, World.record, found] using
          Lawful.next _ (.absorbed entry) valid.lawful trivial
  | none =>
      have stored := Journal.append_inserted w.clock found
      constructor
      · simp [World.append, World.record, found, stored, valid.linked]
      · simpa [World.append, World.record, found] using
          Lawful.next _ (.appended (Journal.stamp w.journal.nextSequence w.clock entry))
            valid.lawful ⟨⟨entry, _, _, written, rfl⟩, ordered.inside, ordered.receipt,
              ordered.lease, ordered.intent, ordered.same⟩

/-- An append of the runtime: taken, or refused by a storage that may fail. -/
theorem safe_journaled {entry : Entry} {post : Except KernelError Unit → World → Prop} {w : World}
    (written : Written Input entry)
    (ordered : Sound Input base w → Ordered w.history entry)
    (next : ∀ later, Appends Allowed w entry later → post (.ok ()) later)
    (fault : ¬ Reliable Allowed → ∀ later error, Refuses w entry later → post (.error error) later) :
    (sequential Input base Allowed).Safe post
      (do let _ ← journalError (Task.append entry); return () : Fallible Unit).run w := by
  refine Safe.bindExcept sequential_quiet (safe_mapError (safe_perform ?_))
  intro valid choice allowed
  cases failed : choice.storage with
  | none =>
      simp only [kernelAnswer, failed]
      exact ⟨(valid.tick _).append written (ordered valid),
        safe_done fun _ => next _ (.of_answer allowed)⟩
  | some error =>
      simp only [kernelAnswer, failed, World.append]
      refine ⟨(valid.tick _).record rfl trivial, safe_done fun _ => fault ?_ _ _ ⟨rfl, rfl, ?_⟩⟩
      · intro reliable
        rw [reliable _ _ _ allowed] at failed
        cases failed
      · exact ⟨rfl, rfl, rfl, rfl⟩

theorem safe_append {r : OperationRequest} {entryType : EntryType} {objectType phase key : String}
    {payload : Payload} {post : Except KernelError Unit → World → Prop} {w : World}
    (written : Written Input (entryOf r entryType objectType phase payload key))
    (ordered : Sound Input base w →
      Ordered w.history (entryOf r entryType objectType phase payload key))
    (next : ∀ later, Appends Allowed w (entryOf r entryType objectType phase payload key) later →
      post (.ok ()) later)
    (fault : ¬ Reliable Allowed → ∀ later error,
      Refuses w (entryOf r entryType objectType phase payload key) later →
        post (.error error) later) :
    (sequential Input base Allowed).Safe post
      (append r entryType objectType phase payload key).run w :=
  safe_journaled written ordered next fault

end Rules

end NousKernel
