import Mathlib.Data.List.Infix
import NousKernel.Commitment
import NousKernel.Footprint
import NousKernel.Interleaving

/-!
Concurrent executions of unrelated workloads. Every placement is on the one
device of the reference node, so each grant replaces the fencing token that the
others are checked against: an execution passes its fencing check if no other
grant falls between its own grant and the check.
-/

set_option autoImplicit false

namespace NousKernel

open Resumption Resumption.Discipline Resumption.Prog

/-! ### The lease manager of a running kernel -/

structure Managed (w : World) : Prop where
  nodeId : ':' ∉ w.leases.fencing.nodeId.toList
  duration : w.leases.defaultDuration = 30000000
  drawn : ∀ leaseId ∈ w.leases.leases, ∃ index < w.drawn, leaseId = w.uuids.nowV7 index

theorem Managed.new {w : World} (index : Nat)
    (fresh : w.leases = .new 30 (w.uuids.nowV7 index)) : Managed w where
  nodeId := by
    have hyphenated := w.uuids.hyphenated index
    rw [fresh]
    simpa [LeaseManager.new] using hyphenated
  duration := by rw [fresh]; rfl
  drawn := by
    intro leaseId member
    rw [fresh] at member
    exact absurd member (AList.notMem_empty leaseId)

/-- A grant is refused, or adds a lease under a new id and replaces the token of
its resource. -/
theorem answer_grantFenced (w : World) (workloadId principalId : String)
    (resources : ResourceVector) (nodeId deviceId : String) (renewable : Bool) (choice : Choice) :
    let answered := kernelAnswer
      (.grantFenced workloadId principalId resources nodeId deviceId renewable) w choice
    let leaseId := w.uuids.nowV7 w.drawn
    let lease := w.leases.granted (w.clock + choice.elapsed) leaseId workloadId principalId
      resources nodeId deviceId renewable
    (∃ error : NousError, answered = (.error error,
      { w with clock := w.clock + choice.elapsed, drawn := w.drawn + 1 })) ∨
    answered = (.ok ⟨lease, w.leases.fencing.next.1, LeaseManager.resourceKey nodeId deviceId⟩,
      { w with
        clock := w.clock + choice.elapsed
        drawn := w.drawn + 1
        history := w.history ++ [.granted leaseId workloadId (w.clock + choice.elapsed)]
        leases :=
          { w.leases with
            leases := w.leases.leases.insert leaseId lease
            leaseTokens := w.leases.leaseTokens.insert leaseId w.leases.fencing.next.1
            resourceTokens := w.leases.resourceTokens.insert (LeaseManager.resourceKey nodeId deviceId)
              w.leases.fencing.next.1
            fencing := w.leases.fencing.next.2 } }) := by
  cases held : w.leases.holdsValid workloadId (w.clock + choice.elapsed) with
  | true =>
      left
      simp [kernelAnswer, World.grantFenced, LeaseManager.grantFenced, World.tick, held]
  | false =>
      right
      simp [kernelAnswer, World.grantFenced, LeaseManager.grantFenced, World.tick, held,
        LeaseManager.granted, World.record]

/-- A lease id that has not been drawn names no lease. -/
theorem Managed.fresh {w : World} (managed : Managed w) :
    w.uuids.nowV7 w.drawn ∉ w.leases.leases := by
  intro member
  obtain ⟨index, below, same⟩ := managed.drawn _ member
  have := w.uuids.injective same
  omega

theorem Managed.same {w later : World} (managed : Managed w) (leases : later.leases = w.leases)
    (uuids : later.uuids = w.uuids) (drawn : later.drawn = w.drawn) : Managed later where
  nodeId := leases ▸ managed.nodeId
  duration := leases ▸ managed.duration
  drawn := by
    rw [leases, uuids, drawn]
    exact managed.drawn

theorem Managed.answer {w : World} (managed : Managed w) (call : Call) (choice : Choice) :
    Managed (kernelAnswer call w choice).2 := by
  cases call with
  | append entry =>
      refine managed.same ?_ ?_ ?_ <;>
      · simp only [kernelAnswer, World.append]
        cases choice.storage <;> rfl
  | release leaseId =>
      simp only [kernelAnswer, World.tick_leases]
      by_cases present : leaseId ∈ w.leases.leases
      · rw [LeaseManager.release_present present]
        refine ⟨managed.nodeId, managed.duration, fun other member => ?_⟩
        exact managed.drawn other (AList.mem_erase.mp member).2
      · rw [LeaseManager.release_absent present]
        exact managed.same rfl rfl rfl
  | grantFenced workloadId principalId resources nodeId deviceId renewable =>
      rcases answer_grantFenced w workloadId principalId resources nodeId deviceId renewable
        choice with ⟨error, refused⟩ | granted
      · rw [refused]
        refine ⟨managed.nodeId, managed.duration, fun leaseId member => ?_⟩
        obtain ⟨index, below, same⟩ := managed.drawn leaseId member
        exact ⟨index, Nat.lt_succ_of_lt below, same⟩
      · rw [granted]
        refine ⟨managed.nodeId, managed.duration, fun leaseId member => ?_⟩
        rcases (AList.mem_insert _).mp member with rfl | old
        · exact ⟨w.drawn, Nat.lt_succ_self _, rfl⟩
        · obtain ⟨index, below, same⟩ := managed.drawn leaseId old
          exact ⟨index, Nat.lt_succ_of_lt below, same⟩
  | _ => exact managed.same rfl rfl rfl

theorem Reached.managed {w : World} (reached : Reached w) : Managed w := by
  induction reached with
  | boot uuids clock => exact .new 0 rfl
  | call reached call choice managed => exact managed.answer call choice
  | restart reached managed => exact .new _ rfl

/-! ### What a call does to the others -/

/-- A journaled grant of the operation. -/
def ActiveOf (q : OperationRequest) (entry : Entry) : Prop :=
  entry.objectType = "ResourceLease" ∧ entry.newPhase = "ACTIVE" ∧ entry.objectId = q.operationId

/-- The leases of the workload of `q` stay, and the token of a resource changes
only with a grant. -/
structure Calm (q : OperationRequest) (w later : World) : Prop where
  clock : w.clock ≤ later.clock
  history : ∃ more, later.history = w.history ++ more ∧
    ((∀ leaseId workloadId time, .granted leaseId workloadId time ∉ more) →
      later.leases.resourceTokens = w.leases.resourceTokens)
  leases : ∀ leaseId lease, w.leases.leases.lookup leaseId = some lease →
    lease.workloadId = q.workloadId →
      later.leases.leases.lookup leaseId = some lease ∧
        later.leases.leaseTokens.lookup leaseId = w.leases.leaseTokens.lookup leaseId

/-- Calm, and no grant of the operation of `q` is journaled. -/
structure Apart (q : OperationRequest) (w later : World) : Prop extends Calm q w later where
  rows : ∃ more, later.journal.entries = w.journal.entries ++ more ∧
    ∀ entry ∈ more, ¬ ActiveOf q entry

section Apart

variable {r q : OperationRequest} {w : World}

theorem Calm.refl (w : World) : Calm q w w :=
  ⟨Int.le_refl _, ⟨[], by simp⟩, fun _ _ held _ => ⟨held, rfl⟩⟩

theorem Calm.trans {a b c : World} (first : Calm q a b) (second : Calm q b c) : Calm q a c where
  clock := Int.le_trans first.clock second.clock
  history := by
    obtain ⟨more, grown, tokens⟩ := first.history
    obtain ⟨rest, grown', tokens'⟩ := second.history
    refine ⟨more ++ rest, by rw [grown', grown, List.append_assoc], fun ungranted => ?_⟩
    rw [tokens' fun _ _ _ inside => ungranted _ _ _ (List.mem_append_right _ inside),
      tokens fun _ _ _ inside => ungranted _ _ _ (List.mem_append_left _ inside)]
  leases := by
    intro leaseId lease held own
    obtain ⟨kept, token⟩ := first.leases leaseId lease held own
    obtain ⟨kept', token'⟩ := second.leases leaseId lease kept own
    exact ⟨kept', token'.trans token⟩

theorem Apart.refl (w : World) : Apart q w w := ⟨.refl w, [], by simp⟩

theorem Apart.trans {a b c : World} (first : Apart q a b) (second : Apart q b c) :
    Apart q a c := by
  obtain ⟨calm, more, rows, free⟩ := first
  obtain ⟨calm', more', rows', free'⟩ := second
  refine ⟨calm.trans calm', more ++ more', by rw [rows', rows, List.append_assoc], ?_⟩
  intro entry member
  rcases List.mem_append.mp member with old | new
  · exact free entry old
  · exact free' entry new

/-- A call that leaves the lease manager alone. -/
theorem calm_still {call : Call} (choice : Choice)
    (same : (kernelAnswer call w choice).2.leases = w.leases)
    (later : w.clock ≤ (kernelAnswer call w choice).2.clock) :
    Calm q w (kernelAnswer call w choice).2 := by
  obtain ⟨more, grown⟩ := answer_history (w := w) call choice
  exact ⟨later, ⟨more, grown, fun _ => by rw [same]⟩, fun _ _ held _ => by rw [same]; exact ⟨held, rfl⟩⟩

theorem answer_clock (call : Call) (choice : Choice) :
    w.clock ≤ (kernelAnswer call w choice).2.clock := by
  have ticked : w.clock ≤ w.clock + choice.elapsed := by omega
  cases call with
  | append entry =>
      simp only [kernelAnswer, World.append]
      cases choice.storage <;> exact ticked
  | grantFenced workloadId principalId resources nodeId deviceId renewable =>
      rcases answer_grantFenced w workloadId principalId resources nodeId deviceId renewable
        choice with ⟨error, refused⟩ | granted
      · rw [refused]
        exact ticked
      · rw [granted]
        exact ticked
  | sleep micros =>
      show w.clock ≤ w.clock + choice.elapsed + micros
      omega
  | _ => exact ticked

theorem Row.activeOf {kind : RowKind} {entry : Entry} {sequence : Nat} {now : Int}
    (row : Row r kind entry) (active : ActiveOf q (Journal.stamp sequence now entry)) :
    kind = .grant ∧ q.operationId = r.operationId := by
  obtain ⟨type, phase, operation⟩ := active
  cases row with
  | active fenced => exact ⟨rfl, operation.symm⟩
  | released leaseId => simp [Journal.stamp, entryOf] at phase
  | _ => simp [Journal.stamp, entryOf, profileEntry] at type

/-- A call of an attempt that touches no lease. -/
theorem calm_answer {Kinds : RowKind → Prop} {call : Call} (acts : Acts r Kinds False call)
    (choice : Choice) : Calm q w (kernelAnswer call w choice).2 := by
  refine calm_still choice ?_ (answer_clock call choice)
  cases acts with
  | append kind entry =>
      simp only [kernelAnswer, World.append]
      cases choice.storage <;> rfl
  | grantFenced allowed => exact allowed.elim
  | authorize allowed => exact allowed.elim
  | release allowed => exact allowed.elim
  | _ => rfl

/-- The same, towards an operation whose grant it does not journal. -/
theorem apart_answer {Kinds : RowKind → Prop} {call : Call} (acts : Acts r Kinds False call)
    (choice : Choice) (other : Kinds .grant → q.operationId ≠ r.operationId) :
    Apart q w (kernelAnswer call w choice).2 := by
  refine ⟨calm_answer acts choice, ?_⟩
  have still : (∀ entry, call ≠ .append entry) →
      ∃ more, (kernelAnswer call w choice).2.journal.entries = w.journal.entries ++ more ∧
        ∀ entry ∈ more, ¬ ActiveOf q entry := fun silent =>
    ⟨[], by rw [answer_journal choice silent, List.append_nil], by simp⟩
  cases acts with
  | append kind entry row allowed =>
      obtain ⟨key, keyed⟩ := row.keyed
      rcases answer_append_cases (w := w) entry choice keyed with
        ⟨unchanged, -⟩ | ⟨-, sequence, now, longer, -⟩
      · exact ⟨[], by rw [unchanged, List.append_nil], by simp⟩
      · refine ⟨[Journal.stamp sequence now entry], longer, ?_⟩
        intro stored member active
        rw [List.mem_singleton.mp member] at active
        obtain ⟨rfl, operation⟩ := row.activeOf active
        exact other allowed operation
  | _ => exact still (by simp)

theorem apart_authorize (leaseId token : String) (choice : Choice) :
    Apart q w (kernelAnswer (.authorize leaseId token) w choice).2 :=
  ⟨calm_still choice rfl (answer_clock _ choice), [], by simp [kernelAnswer, World.record]⟩

/-- A grant disturbs no lease there is. -/
theorem apart_grantFenced (managed : Managed w) (workloadId principalId : String)
    (resources : ResourceVector) (nodeId deviceId : String) (renewable : Bool) (choice : Choice) :
    Apart q w (kernelAnswer
      (.grantFenced workloadId principalId resources nodeId deviceId renewable) w choice).2 := by
  have later := answer_clock (w := w)
    (.grantFenced workloadId principalId resources nodeId deviceId renewable) choice
  rcases answer_grantFenced w workloadId principalId resources nodeId deviceId renewable
    choice with ⟨error, refused⟩ | granted
  · rw [refused] at later ⊢
    exact ⟨⟨later, ⟨[], by simp⟩, fun _ _ held _ => ⟨held, rfl⟩⟩, [], by simp⟩
  · rw [granted] at later ⊢
    refine ⟨⟨later, ⟨_, rfl, fun ungranted => absurd (.head _) (ungranted _ _ _)⟩, ?_⟩, [], by simp⟩
    intro leaseId lease held own
    have other : leaseId ≠ w.uuids.nowV7 w.drawn := by
      rintro rfl
      exact managed.fresh (AList.lookup_isSome.mp (by rw [held]; rfl))
    exact ⟨by rw [AList.lookup_insert_ne other, held], AList.lookup_insert_ne other⟩

/-- The release of a lease that is not one of the workload of `q`. -/
theorem apart_release (leaseId : String) (choice : Choice)
    (foreign : ∀ lease, w.leases.leases.lookup leaseId = some lease →
      lease.workloadId ≠ q.workloadId) :
    Apart q w (kernelAnswer (.release leaseId) w choice).2 := by
  have later := answer_clock (w := w) (.release leaseId) choice
  simp only [kernelAnswer, World.tick_leases] at later ⊢
  by_cases present : leaseId ∈ w.leases.leases
  · rw [LeaseManager.release_present present]
    refine ⟨⟨later, ⟨[], by simp⟩, ?_⟩, [], by simp⟩
    intro other lease held own
    have apart : other ≠ leaseId := by
      rintro rfl
      exact foreign lease held own
    exact ⟨by rw [AList.lookup_erase_ne apart, held], AList.lookup_erase_ne apart⟩
  · rw [LeaseManager.release_absent present]
    exact ⟨⟨later, ⟨[], by simp⟩, fun _ _ held _ => ⟨held, rfl⟩⟩, [], by simp⟩

end Apart

/-! ### The fencing check -/

/-- A fencing check since `start` came after another grant, or 30 seconds after
its own. -/
def Crowded (start history : List Event) : Prop :=
  ∃ before leaseId workloadId granted middle checked after,
    history = start ++ before ++ .granted leaseId workloadId granted ::
      (middle ++ .checked leaseId checked :: after) ∧
    ((∃ other workload time, .granted other workload time ∈ middle) ∨
      granted + 30000000 ≤ checked)

/-- A release since `start` was absorbed. -/
def Lost (start history : List Event) : Prop :=
  ∃ more entry, history = start ++ more ∧ .absorbed entry ∈ more ∧
    entry.objectType = "ResourceLease" ∧ entry.newPhase = "RELEASED"

def Hindered (start history : List Event) : Prop := Crowded start history ∨ Lost start history

theorem Hindered.grow {start history : List Event} (hindered : Hindered start history)
    (rest : List Event) : Hindered start (history ++ rest) := by
  rcases hindered with ⟨before, leaseId, workloadId, granted, middle, checked, after, rfl, late⟩ |
    ⟨more, entry, rfl, absorbed, shape⟩
  · exact .inl ⟨before, leaseId, workloadId, granted, middle, checked, after ++ rest, by simp, late⟩
  · exact .inr ⟨more ++ rest, entry, by simp, List.mem_append_left _ absorbed, shape⟩

/-- The call of `r` has been granted this lease. -/
structure Held (start : List Event) (r : OperationRequest) (fenced : FencedLease) (w : World) :
    Prop where
  granted : ∃ before more,
    w.history = start ++ before ++ .granted fenced.lease.leaseId r.workloadId
      fenced.lease.grantedAt :: more ∧
    ((∀ leaseId workloadId time, .granted leaseId workloadId time ∉ more) →
      w.leases.resourceTokens.lookup
        (LeaseManager.resourceKey fenced.lease.nodeId fenced.lease.deviceId) =
          some fenced.fencingToken)
  lease : w.leases.leases.lookup fenced.lease.leaseId = some fenced.lease
  own : fenced.lease.workloadId = r.workloadId
  expiry : fenced.lease.expiresAt = fenced.lease.grantedAt + 30000000
  token : w.leases.leaseTokens.lookup fenced.lease.leaseId = some fenced.fencingToken
  valid : FencingToken.isTokenValid fenced.fencingToken fenced.fencingToken = true
  hyphenated : ':' ∉ fenced.lease.leaseId.toList

section Held

variable {start : List Event} {r : OperationRequest} {fenced : FencedLease} {w : World}

theorem Held.calm {later : World} (held : Held start r fenced w) (calm : Calm r w later) :
    Held start r fenced later := by
  obtain ⟨kept, token⟩ := calm.leases _ _ held.lease held.own
  refine ⟨?_, kept, held.own, held.expiry, token.trans held.token, held.valid, held.hyphenated⟩
  obtain ⟨before, more, grown, current⟩ := held.granted
  obtain ⟨rest, longer, tokens⟩ := calm.history
  refine ⟨before, more ++ rest, by rw [longer, grown]; simp, fun ungranted => ?_⟩
  rw [tokens fun _ _ _ inside => ungranted _ _ _ (List.mem_append_right _ inside)]
  exact current fun _ _ _ inside => ungranted _ _ _ (List.mem_append_left _ inside)

/-- The check succeeds unless the call was crowded out. -/
theorem Held.authorize (held : Held start r fenced w) (choice : Choice) :
    (kernelAnswer (.authorize fenced.lease.leaseId fenced.fencingToken) w choice).1 = true ∨
      Crowded start
        (kernelAnswer (.authorize fenced.lease.leaseId fenced.fencingToken) w choice).2.history := by
  obtain ⟨before, more, grown, current⟩ := held.granted
  have checked : ∀ late : (∃ other workload time, .granted other workload time ∈ more) ∨
      fenced.lease.grantedAt + 30000000 ≤ w.clock + choice.elapsed,
      Crowded start (w.history ++ [.checked fenced.lease.leaseId (w.clock + choice.elapsed)]) :=
    fun late => ⟨before, fenced.lease.leaseId, r.workloadId, _, more, _, [], by rw [grown]; simp, late⟩
  by_cases ungranted : ∀ leaseId workloadId time, .granted leaseId workloadId time ∉ more
  · by_cases prompt : w.clock + choice.elapsed < fenced.lease.grantedAt + 30000000
    · left
      simp [kernelAnswer, LeaseManager.authorize, held.lease, ResourceLease.isValid, held.token,
        current ungranted, held.valid, held.expiry, World.tick, prompt]
    · exact .inr (checked (.inr (Int.not_lt.mp prompt)))
  · refine .inr (checked (.inl ?_))
    simpa using ungranted

end Held

/-! ### Open and closed leases -/

/-- A journaled release of the lease. -/
def Closes (leaseId : String) (entry : Entry) : Prop :=
  entry.objectType = "ResourceLease" ∧ entry.newPhase = "RELEASED" ∧
    entry.payload = .leaseReleased leaseId

/-- Since `start`, each journaled grant of the operation has been closed. -/
def Balanced (start : List Entry) (r : OperationRequest) (entries : List Entry) : Prop :=
  ∃ rows, entries = start ++ rows ∧
    ∀ before entry after, rows = before ++ entry :: after → ActiveOf r entry →
      ∃ fenced, entry.payload = .fencedLease fenced ∧
        ∃ closing ∈ after, Closes fenced.lease.leaseId closing

/-- Since `start`, only this lease has been journaled for the operation. -/
def Only (start : List Entry) (r : OperationRequest) (leaseId : String) (entries : List Entry) :
    Prop :=
  ∃ rows, entries = start ++ rows ∧ ∀ entry ∈ rows, ActiveOf r entry →
    ∃ fenced, entry.payload = .fencedLease fenced ∧ fenced.lease.leaseId = leaseId

section Balance

variable {start entries : List Entry} {r : OperationRequest} {leaseId : String}

/-- An element of two lists in a row is in the second, or what follows it in the
first is followed by the second. -/
theorem mem_or_of_append_split {α : Type} {rows more before after : List α} {entry : α}
    (split : rows ++ more = before ++ entry :: after) :
    entry ∈ more ∨ ∃ rest, rows = before ++ entry :: rest ∧ after = rest ++ more := by
  rcases List.append_eq_append_iff.mp split with ⟨rest, -, later⟩ | ⟨rest, earlier, later⟩
  · exact .inl (by rw [later]; simp)
  · cases rest with
    | nil => exact .inl (by rw [← List.nil_append more, ← later]; simp)
    | cons first rest =>
        cases later
        exact .inr ⟨rest, earlier, rfl⟩

theorem Balanced.grow (balanced : Balanced start r entries) {more : List Entry}
    (free : ∀ entry ∈ more, ¬ ActiveOf r entry) : Balanced start r (entries ++ more) := by
  obtain ⟨rows, rfl, closed⟩ := balanced
  refine ⟨rows ++ more, by simp, ?_⟩
  intro before entry after split active
  rcases mem_or_of_append_split split with new | ⟨rest, earlier, rfl⟩
  · exact absurd active (free entry new)
  · obtain ⟨fenced, carried, closing, member, closes⟩ := closed before entry rest earlier active
    exact ⟨fenced, carried, closing, List.mem_append_left _ member, closes⟩

theorem Balanced.of_free {rows : List Entry} (grown : entries = start ++ rows)
    (free : ∀ entry ∈ rows, ¬ ActiveOf r entry) : Balanced start r entries :=
  ⟨rows, grown, fun _ entry _ split active => absurd active (free entry (by rw [split]; simp))⟩

theorem Only.grow (only : Only start r leaseId entries) {more : List Entry}
    (free : ∀ entry ∈ more, ¬ ActiveOf r entry) : Only start r leaseId (entries ++ more) := by
  obtain ⟨rows, rfl, same⟩ := only
  refine ⟨rows ++ more, by simp, fun entry member active => ?_⟩
  rcases List.mem_append.mp member with old | new
  · exact same entry old active
  · exact absurd active (free entry new)

theorem Only.release (only : Only start r leaseId entries) {entry : Entry}
    (closes : Closes leaseId entry) : Balanced start r (entries ++ [entry]) := by
  obtain ⟨rows, rfl, same⟩ := only
  refine ⟨rows ++ [entry], by simp, ?_⟩
  intro before other after split active
  rcases mem_or_of_append_split split with new | ⟨rest, earlier, rfl⟩
  · rw [List.mem_singleton.mp new] at active
    exact absurd (active.2.1.symm.trans closes.2.1) (by decide)
  · obtain ⟨fenced, carried, own⟩ := same other (by rw [earlier]; simp) active
    exact ⟨fenced, carried, entry, by simp, own ▸ closes⟩

end Balance

/-! ### The company -/

def Distinct (r q : OperationRequest) : Prop :=
  r.workloadId ≠ q.workloadId ∧ r.operationId ≠ q.operationId

/-- A kernel that has been running since `start`. -/
structure Running (start w : World) : Prop where
  managed : Managed w
  since : ∃ more, w.history = start.history ++ more

/-- Executions of requests that have nothing in common, with a storage that
works and providers that do not answer with the error of the fencing check. -/
def strangers (start : World) (requests : List OperationRequest) :
    Company Call Answer World Choice where
  machine := kernel
  inv := Running start
  allow _ _ choice := choice.storage = none ∧ choice.outcome ≠ .error fencingFailure
  rely index w later := ∀ r, requests[index]? = some r → Apart r w later
  guar index w later := ∃ r, requests[index]? = some r ∧ ∀ q, Distinct r q → Apart q w later

theorem strangers_tolerant (start : World) {requests : List OperationRequest}
    (distinct : requests.Pairwise Distinct) : (strangers start requests).Tolerant where
  quiet index := ⟨fun w _ _ => .refl w, fun first second r found =>
    (first r found).trans (second r found)⟩
  apart := by
    rintro index other different w later ⟨r, found, apart⟩ q present
    have symmetric : ∀ {a b : OperationRequest}, Distinct a b → Distinct b a :=
      fun apart => ⟨apart.1.symm, apart.2.symm⟩
    obtain ⟨inside, rfl⟩ := List.getElem?_eq_some_iff.mp found
    obtain ⟨inside', rfl⟩ := List.getElem?_eq_some_iff.mp present
    rw [List.pairwise_iff_getElem] at distinct
    rcases Nat.lt_or_gt_of_ne different with before | after
    · exact apart _ (distinct index other inside inside' before)
    · exact apart _ (symmetric (distinct other index inside' inside after))

theorem Running.answer {start w : World} (running : Running start w) (call : Call)
    (choice : Choice) : Running start (kernelAnswer call w choice).2 := by
  obtain ⟨more, since⟩ := running.since
  obtain ⟨rest, grown⟩ := answer_history (w := w) call choice
  exact ⟨running.managed.answer call choice, more ++ rest, by rw [grown, since, List.append_assoc]⟩

section Rules

variable {start w : World} {requests : List OperationRequest} {index : Nat} {r : OperationRequest}
  {α β : Type}

theorem strangers_quiet : ((strangers start requests).member index).Interference :=
  ⟨fun w _ _ => .refl w, fun first second r found => (first r found).trans (second r found)⟩

variable (found : requests[index]? = some r)

include found

theorem fence_done {post : α → World → Prop} {value : α}
    (holds : ∀ later, Apart r w later → post value later) :
    ((strangers start requests).member index).Safe post (.done value) w :=
  fun later moved _ => holds later (moved r found)

/-- One call, and then the rest. -/
theorem fence_act {call : Call} {next : Answer call → Task α} {post : α → World → Prop}
    (step : ∀ now choice, Apart r w now → Running start now → choice.storage = none →
      (∀ q, Distinct r q → Apart q now (kernelAnswer call now choice).2) ∧
        ((strangers start requests).member index).Safe post
          (next (kernelAnswer call now choice).1) (kernelAnswer call now choice).2) :
    ((strangers start requests).member index).Safe post (perform call >>= next) w := by
  intro now moved running choice allowed
  obtain ⟨own, rest⟩ := step now choice (moved r found) running allowed.1
  exact ⟨running.answer call choice, ⟨r, found, own⟩, rest⟩

/-- A part of the program that touches no lease and journals no grant, and then
the rest. -/
theorem fence_through {Kinds : RowKind → Prop} {p : Task α} {next : α → Task β}
    {held : α → Prop} {post : β → World → Prop} (kept : World → Prop)
    (calls : p.Calls (Honest (· ≠ .error fencingFailure)) (Acts r Kinds False) held)
    (ungranted : ¬ Kinds .grant) (stable : ∀ a b, kept a → Apart r a b → kept b) (holds : kept w)
    (rest : ∀ value later, held value → kept later →
      ((strangers start requests).member index).Safe post (next value) later) :
    ((strangers start requests).member index).Safe post (p >>= next) w := by
  refine Safe.bind strangers_quiet ((Safe.of_calls kept calls ?_ ?_ holds).mono ?_)
  · intro call now choice acts holds running allowed
    have own : ∀ q, Apart q now (kernelAnswer call now choice).2 := fun q =>
      apart_answer acts choice fun granted => absurd granted ungranted
    exact ⟨honest_answer call now choice allowed.2, running.answer call choice,
      ⟨r, found, fun q _ => own q⟩, stable _ _ holds (own r)⟩
  · exact fun a b holds moved _ => stable a b holds (moved r found)
  · exact fun value later _ done => rest value later done.1 done.2

/-- The same for a fallible part: an error ends the program. -/
theorem fence_throughExcept {Kinds : RowKind → Prop} {x : Fallible α} {next : α → Fallible β}
    {held : Except KernelError α → Prop} {post : Except KernelError β → World → Prop}
    (kept : World → Prop)
    (calls : x.run.Calls (Honest (· ≠ .error fencingFailure)) (Acts r Kinds False) held)
    (ungranted : ¬ Kinds .grant) (stable : ∀ a b, kept a → Apart r a b → kept b) (holds : kept w)
    (rest : ∀ value later, held (.ok value) → kept later →
      ((strangers start requests).member index).Safe post (next value).run later)
    (failed : ∀ error later, held (.error error) → kept later → post (.error error) later) :
    ((strangers start requests).member index).Safe post (x >>= next).run w := by
  rw [ExceptT.run_bind]
  refine fence_through found kept calls ungranted stable holds ?_
  intro result later done holds
  cases result with
  | ok value => exact rest value later done holds
  | error error =>
      exact fence_done found fun last moved => failed error last done (stable _ _ holds moved)

/-- An append, which the storage takes, and then the rest. -/
theorem fence_append {entryType : EntryType} {objectType phase key : String} {payload : Payload}
    {next : Except KernelError Unit → Task α} {post : α → World → Prop}
    (step : ∀ now choice, Apart r w now → Running start now → choice.storage = none →
      let after := (kernelAnswer (.append (entryOf r entryType objectType phase payload key))
        now choice).2
      (∀ q, Distinct r q → Apart q now after) ∧
        ((strangers start requests).member index).Safe post (next (.ok ())) after) :
    ((strangers start requests).member index).Safe post
      ((append r entryType objectType phase payload key).run >>= next) w := by
  have single : ((append r entryType objectType phase payload key).run >>= next) =
      (perform (Call.append (entryOf r entryType objectType phase payload key)) >>=
        fun answer : Except NousError Nat => next (match answer with
          | .ok _ => .ok ()
          | .error error => .error (.journal error.display))) := by
    refine congrArg (Prog.call _) (funext fun answer => ?_)
    cases answer <;> rfl
  rw [single]
  refine fence_act found fun now choice before running stored => ?_
  obtain ⟨own, rest⟩ := step now choice before running stored
  refine ⟨own, ?_⟩
  have taken : ∃ sequence, (kernelAnswer (.append (entryOf r entryType objectType phase payload
      key)) now choice).1 = .ok sequence := by
    simp [kernelAnswer, World.append, stored]
  obtain ⟨sequence, taken⟩ := taken
  rw [taken]
  exact rest

end Rules

/-! ### The programs -/

/-- The call of `r` has a lease of its own, the only one journaled for it. -/
structure Leased (start : World) (r : OperationRequest) (leaseId : String) (w : World) : Prop where
  owned : ∃ lease, w.leases.leases.lookup leaseId = some lease ∧ lease.workloadId = r.workloadId
  only : Only start.journal.entries r leaseId w.journal.entries

/-- The result is not that of a failed fencing check and each lease of the call
is closed, or the call was hindered. -/
def Fair {α : Type} (start : World) (r : OperationRequest) (result : Except KernelError α)
    (w : World) : Prop :=
  Hindered start.history w.history ∨
    result ≠ .error fencingFailure ∧ Balanced start.journal.entries r w.journal.entries

section Programs

variable {start w : World} {requests : List OperationRequest} {index : Nat} {r : OperationRequest}
  {α : Type}

theorem Apart.hindered {history : List Event} {later : World} (apart : Apart r w later)
    (hindered : Hindered history w.history) : Hindered history later.history := by
  obtain ⟨more, grown, -⟩ := apart.history
  exact grown ▸ hindered.grow more

theorem Apart.balanced {entries : List Entry} {later : World} (apart : Apart r w later)
    (balanced : Balanced entries r w.journal.entries) : Balanced entries r later.journal.entries := by
  obtain ⟨more, grown, free⟩ := apart.rows
  exact grown ▸ balanced.grow free

theorem Only.apart {entries : List Entry} {leaseId : String} {later : World}
    (only : Only entries r leaseId w.journal.entries) (apart : Apart r w later) :
    Only entries r leaseId later.journal.entries := by
  obtain ⟨more, grown, free⟩ := apart.rows
  exact grown ▸ only.grow free

theorem Leased.apart {leaseId : String} {later : World} (leased : Leased start r leaseId w)
    (apart : Apart r w later) : Leased start r leaseId later := by
  obtain ⟨lease, present, own⟩ := leased.owned
  exact ⟨⟨lease, (apart.leases leaseId lease present own).1, own⟩, leased.only.apart apart⟩

theorem Fair.apart {result : Except KernelError α} {later : World} (fair : Fair start r result w)
    (apart : Apart r w later) : Fair start r result later :=
  fair.imp apart.hindered (And.imp_right apart.balanced)

/-- Nothing of the operation has been journaled. -/
theorem Fair.untouched {result : Except KernelError α} (untouched : Apart r start w)
    (other : result ≠ .error fencingFailure) : Fair start r result w := by
  obtain ⟨more, grown, free⟩ := untouched.rows
  exact .inr ⟨other, .of_free grown free⟩

theorem Fair.cast {β : Type} {error : KernelError}
    (fair : Fair start r (.error error : Except KernelError α) w) :
    Fair start r (.error error : Except KernelError β) w :=
  fair.imp_right (And.imp_left fun other same => other (by cases same; rfl))

/-- No error of the kernel's own is that of the fencing check. -/
theorem Raised.ne_fencingFailure {error : KernelError}
    (raised : Raised (· ≠ .error fencingFailure) error) : error ≠ fencingFailure := by
  rintro rfl
  rcases raised with provider | ⟨reason, journal⟩ | ⟨operationId, cancelled⟩ | ⟨cause, resource⟩
  · exact provider rfl
  · cases journal
  · cases cancelled
  · have letters := congrArg String.toList (KernelError.resource.inj resource)
    cases code : cause.code <;>
      simp [NousError.display, code, ErrorCode.name] at letters

theorem EndsWith.ne_fencingFailure {result : Except KernelError α}
    (ends : EndsWith (· ≠ .error fencingFailure) result) : result ≠ .error fencingFailure :=
  fun same => (ends _ same).ne_fencingFailure rfl

/-- The release of the call's own lease. -/
theorem apart_release_own {leaseId : String} {q : OperationRequest}
    (owned : ∃ lease, w.leases.leases.lookup leaseId = some lease ∧
      lease.workloadId = r.workloadId) (distinct : Distinct r q) (choice : Choice) :
    Apart q w (kernelAnswer (.release leaseId) w choice).2 := by
  obtain ⟨lease, present, own⟩ := owned
  refine apart_release leaseId choice fun other found => ?_
  rw [present] at found
  cases found
  rw [own]
  exact distinct.1

/-- The lease that a grant makes is held by the call. -/
theorem Held.granted_answer (running : Running start w) (placement : PlacementDecision)
    (choice : Choice) {fenced : FencedLease}
    (granted : (kernelAnswer (.grantFenced r.workloadId "kernel-runtime"
      placement.resourcesReserved placement.nodeId placement.deviceId true) w choice).1 =
        .ok fenced) :
    Held start.history r fenced (kernelAnswer (.grantFenced r.workloadId "kernel-runtime"
      placement.resourcesReserved placement.nodeId placement.deviceId true) w choice).2 := by
  rcases answer_grantFenced w r.workloadId "kernel-runtime" placement.resourcesReserved
    placement.nodeId placement.deviceId true choice with ⟨error, refused⟩ | made
  · rw [refused] at granted
    cases granted
  · rw [made] at granted ⊢
    cases granted
    obtain ⟨before, since⟩ := running.since
    refine ⟨⟨before, [], ?_, fun _ => ?_⟩, ?_, rfl, ?_, ?_, ?_, ?_⟩
    · rw [since]
      rfl
    · exact AList.lookup_insert _
    · exact AList.lookup_insert _
    · exact congrArg (w.clock + choice.elapsed + ·) running.managed.duration
    · exact AList.lookup_insert _
    · exact FencingToken.next_valid running.managed.nodeId
    · exact w.uuids.hyphenated w.drawn

/-- The journaled grant of the call's lease. -/
theorem Leased.activate {fenced : FencedLease} (held : Held start.history r fenced w)
    (untouched : Apart r start w) (choice : Choice) :
    let after := (kernelAnswer (.append (entryOf r .commit "ResourceLease" "ACTIVE"
      (.fencedLease fenced) (grantKey r.operationId fenced.lease.leaseId))) w choice).2
    Held start.history r fenced after ∧ Leased start r fenced.lease.leaseId after ∧
      ∀ q, Distinct r q → Apart q w after := by
  intro after
  have acts : Acts r Grants False (.append (entryOf r .commit "ResourceLease" "ACTIVE"
      (.fencedLease fenced) (grantKey r.operationId fenced.lease.leaseId))) :=
    .append .grant _ (.active fenced held.hyphenated) grants_grant
  have kept : Held start.history r fenced after := held.calm (calm_answer acts choice)
  refine ⟨kept, ⟨⟨_, kept.lease, kept.own⟩, ?_⟩,
    fun q distinct => apart_answer acts choice fun _ => distinct.2.symm⟩
  obtain ⟨rows, grown, free⟩ := untouched.rows
  have only : Only start.journal.entries r fenced.lease.leaseId w.journal.entries :=
    ⟨rows, grown, fun entry member active => absurd active (free entry member)⟩
  rcases answer_append_cases (w := w) (entryOf r .commit "ResourceLease" "ACTIVE"
    (.fencedLease fenced) (grantKey r.operationId fenced.lease.leaseId)) choice rfl with
    ⟨same, -⟩ | ⟨-, sequence, now, longer, -⟩
  · exact (show after.journal = _ from same) ▸ only
  · refine ⟨rows ++ [_], by rw [longer, grown, List.append_assoc], fun entry member active => ?_⟩
    rcases List.mem_append.mp member with old | new
    · exact absurd active (free entry old)
    · rw [List.mem_singleton.mp new]
      exact ⟨fenced, rfl, rfl⟩

variable (found : requests[index]? = some r)

include found

theorem fence_activateLease {fenced : FencedLease} (held : Held start.history r fenced w)
    (untouched : Apart r start w) :
    ((strangers start requests).member index).Safe (fun result later =>
      (result = .ok fenced ∧ Leased start r fenced.lease.leaseId later) ∨
        (∃ error, result = .error error) ∧ Fair start r result later)
      (activateLease r fenced).run w := by
  refine fence_append found fun now choice before running stored => ?_
  obtain ⟨kept, leased, apart⟩ :=
    Leased.activate (held.calm before.toCalm) (untouched.trans before) choice
  refine ⟨apart, fence_act found fun now choice before running stored => ?_⟩
  refine ⟨fun q _ => apart_authorize _ _ choice, ?_⟩
  have check := (kept.calm before.toCalm).authorize choice
  have leased := (leased.apart before).apart
    (apart_authorize fenced.lease.leaseId fenced.fencingToken choice)
  cases valid : (kernelAnswer (.authorize fenced.lease.leaseId fenced.fencingToken) now choice).1 with
  | true => exact fence_done found fun later after => .inl ⟨rfl, leased.apart after⟩
  | false =>
      have crowded : Hindered _ _ := .inl (check.resolve_left (by simp [valid]))
      refine fence_act found fun now choice before running stored => ?_
      refine ⟨fun q distinct => apart_release_own (leased.apart before).owned distinct choice, ?_⟩
      refine fence_done found fun later after => .inr ⟨⟨_, rfl⟩, .inl (after.hindered ?_)⟩
      obtain ⟨more, grown⟩ := answer_history (w := now) (.release fenced.lease.leaseId) choice
      exact grown ▸ (before.hindered crowded).grow more

/-- What a grant goes on with. -/
def activateGranted (r : OperationRequest) :
    Except NousError FencedLease → Task (Except KernelError FencedLease)
  | .ok fenced => (activateLease r fenced).run
  | .error error => .done (.error (.resource error.display))

theorem fence_grantLease (placement : PlacementDecision) (untouched : Apart r start w) :
    ((strangers start requests).member index).Safe (fun result later =>
      (∃ fenced, result = .ok fenced ∧ Leased start r fenced.lease.leaseId later) ∨
        (∃ error, result = .error error) ∧ Fair start r result later)
      (grantLease r placement).run w := by
  have single : (grantLease r placement).run =
      (perform (Call.grantFenced r.workloadId "kernel-runtime" placement.resourcesReserved
        placement.nodeId placement.deviceId true) >>= activateGranted r) := by
    refine congrArg (Prog.call _) (funext fun answer => ?_)
    cases answer <;> rfl
  rw [single]
  refine fence_act found fun now choice before running stored => ?_
  have apart : ∀ q, Apart q now (kernelAnswer (.grantFenced r.workloadId "kernel-runtime"
      placement.resourcesReserved placement.nodeId placement.deviceId true) now choice).2 :=
    fun q => apart_grantFenced running.managed ..
  refine ⟨fun q _ => apart q, ?_⟩
  have untouched := (untouched.trans before).trans (apart r)
  cases granted : (kernelAnswer (.grantFenced r.workloadId "kernel-runtime"
      placement.resourcesReserved placement.nodeId placement.deviceId true) now choice).1 with
  | error error =>
      refine fence_done found fun later after => .inr ⟨⟨_, rfl⟩, ?_⟩
      exact .untouched (untouched.trans after)
        (EndsWith.error (.inr (.inr (.inr ⟨error, rfl⟩)))).ne_fencingFailure
  | ok fenced =>
      have held := Held.granted_answer running placement choice granted
      refine (fence_activateLease found held untouched).mono ?_
      exact fun result later _ ending => ending.imp_left fun done => ⟨fenced, done⟩

/-- The release of the lease in memory, and then the rest. -/
theorem fence_release {leaseId : String} {next : Except KernelError Unit → Task α}
    {post : α → World → Prop} (leased : Leased start r leaseId w)
    (rest : ∀ result later, EndsWith (· ≠ .error fencingFailure) result →
      Only start.journal.entries r leaseId later.journal.entries →
        ((strangers start requests).member index).Safe post (next result) later) :
    ((strangers start requests).member index).Safe post
      ((resourceError (Task.release leaseId)).run >>= next) w := by
  have single : ((resourceError (Task.release leaseId)).run >>= next) =
      (perform (Call.release leaseId) >>= fun answer : Except NousError Unit =>
        next (match answer with
          | .ok _ => .ok ()
          | .error error => .error (.resource error.display))) := by
    refine congrArg (Prog.call _) (funext fun answer => ?_)
    cases answer <;> rfl
  rw [single]
  refine fence_act found fun now choice before running stored => ?_
  have leased := leased.apart before
  refine ⟨fun q distinct => apart_release_own leased.owned distinct choice, rest _ _ ?_ ?_⟩
  · cases (kernelAnswer (.release leaseId) now choice).1 with
    | ok value => exact .ok _
    | error error => exact .error (.inr (.inr (.inr ⟨error, rfl⟩)))
  · rw [answer_journal choice (by simp)]
    exact leased.only

/-- The journaled release of the call's lease. -/
theorem fence_closed {leaseId : String} {next : Except KernelError Unit → Task α}
    {post : α → World → Prop} (only : Only start.journal.entries r leaseId w.journal.entries)
    (rest : ∀ later, Hindered start.history later.history ∨
      Balanced start.journal.entries r later.journal.entries →
        ((strangers start requests).member index).Safe post (next (.ok ())) later) :
    ((strangers start requests).member index).Safe post
      ((append r .commit "ResourceLease" "RELEASED" (.leaseReleased leaseId)
        (releaseKey r.operationId leaseId)).run >>= next) w := by
  refine fence_append found fun now choice before running stored => ?_
  have acts : Acts r Notes False (.append (entryOf r .commit "ResourceLease" "RELEASED"
      (.leaseReleased leaseId) (releaseKey r.operationId leaseId))) :=
    .append .note _ (.released leaseId) notes_note
  refine ⟨fun q _ => apart_answer acts choice (by simp [Notes]), rest _ ?_⟩
  rcases answer_append_cases (w := now) (entryOf r .commit "ResourceLease" "RELEASED"
    (.leaseReleased leaseId) (releaseKey r.operationId leaseId)) choice rfl with
    ⟨-, ⟨-, error, failed⟩ | ⟨grown, -⟩⟩ | ⟨-, sequence, time, longer, -⟩
  · simp [kernelAnswer, World.append, stored] at failed
  · obtain ⟨more, since⟩ := running.since
    left
    right
    rw [grown, since, List.append_assoc]
    exact ⟨_, _, rfl, List.mem_append_right _ (.head _), rfl, rfl⟩
  · right
    rw [longer]
    exact (only.apart before).release ⟨rfl, rfl, rfl⟩

theorem fence_closeLease {leaseId : String} (leased : Leased start r leaseId w)
    {bookkeeping : Option KernelError} (noted : Noted (· ≠ .error fencingFailure) bookkeeping)
    (execution : Except KernelError OperationReceipt) :
    ((strangers start requests).member index).Safe (fun closed later =>
      Noted (· ≠ .error fencingFailure) closed ∧ (Hindered start.history later.history ∨
        Balanced start.journal.entries r later.journal.entries))
      (closeLease r leaseId (finalPhase execution) bookkeeping) w := by
  refine fence_through found (Leased start r leaseId) (calls_closeWorkload r execution)
    (by simp [Notes]) (fun _ _ holds moved => holds.apart moved) leased ?_
  intro closed later closedEnds leased
  refine fence_release found leased fun released later releasedEnds only => ?_
  refine fence_closed found only fun later ending => ?_
  refine fence_done found fun last moved => ⟨?_, ?_⟩
  · exact ((noted.getOrInsert closedEnds).getOrInsert releasedEnds).getOrInsert (.ok ())
  · exact ending.imp moved.hindered moved.balanced

theorem fence_settle {leaseId : String} (trace : DecisionTrace) (profile : ExecutionProfile)
    {execution : Except KernelError OperationReceipt}
    (ends : EndsWith (· ≠ .error fencingFailure) execution)
    (operation : profile.operationId = r.operationId)
    (workload : profile.workloadId = r.workloadId)
    (provider : profile.provider = r.snapshot.providerRevision)
    (leased : Leased start r leaseId w) :
    ((strangers start requests).member index).Safe (Fair start r)
      (settle r leaseId trace profile execution) w := by
  have stable : ∀ a b, Leased start r leaseId a → Apart r a b → Leased start r leaseId b :=
    fun _ _ holds moved => holds.apart moved
  have clean : Noted (· ≠ .error fencingFailure) none := fun _ some => by cases some
  refine fence_through found (Leased start r leaseId)
    (calls_recordProfile r profile operation workload provider) (by simp [Notes]) stable leased ?_
  intro profiled later profileEnds leased
  refine fence_through found (Leased start r leaseId)
    (calls_perform (show Acts r Notes False _ from .activeRemove r.workloadId) fun _ _ => trivial)
    (by simp [Notes]) stable leased fun _ later _ leased => ?_
  refine fence_through found (Leased start r leaseId)
    (calls_recordFailure r (clean.overrideError profileEnds) execution) (by simp [Endings]) stable
    leased fun failed later noted leased => ?_
  refine Safe.bind strangers_quiet ((fence_closeLease found leased noted execution).mono ?_)
  rintro closed later - ⟨noted, ending⟩
  have fair : ∀ result : Except KernelError RuntimeExecution,
      EndsWith (· ≠ .error fencingFailure) result → Fair start r result later :=
    fun result ends => ending.imp_right fun balanced => ⟨ends.ne_fencingFailure, balanced⟩
  cases closed with
  | some error =>
      exact fence_done found fun last moved => (fair _ (.error (noted error rfl))).apart moved
  | none =>
      refine fence_done found fun last moved => (fair _ ?_).apart moved
      cases execution with
      | ok receipt => exact .ok _
      | error error => exact .error (ends error rfl)

theorem fence_executeLeased (recovered : Bool) (admittedStarted : Int)
    (placement : PlacementDecision) (trace : DecisionTrace) (fenced : FencedLease)
    (leased : Leased start r fenced.lease.leaseId w) :
    ((strangers start requests).member index).Safe (Fair start r)
      (executeLeased r recovered admittedStarted placement trace fenced).run w := by
  have stable : ∀ a b, Leased start r fenced.lease.leaseId a → Apart r a b →
      Leased start r fenced.lease.leaseId b := fun _ _ holds moved => holds.apart moved
  have step : ∀ {call : Call} {next : Answer call → Task (Except KernelError RuntimeExecution)}
      {now : World}, Acts r Notes False call → Leased start r fenced.lease.leaseId now →
      (∀ answer later, Leased start r fenced.lease.leaseId later →
        ((strangers start requests).member index).Safe (Fair start r) (next answer) later) →
      ((strangers start requests).member index).Safe (Fair start r) (perform call >>= next) now :=
    fun acts leased rest => fence_through found (Leased start r fenced.lease.leaseId)
      (calls_perform acts fun _ _ => trivial) (by simp [Notes]) stable leased
        fun answer later _ leased => rest answer later leased
  refine step .newCancellation leased fun cancellation _ leased => ?_
  refine step (.activeInsert _ _ rfl) leased fun _ _ leased => ?_
  refine step .now leased fun started _ leased => ?_
  refine step .now leased fun queued _ leased => ?_
  refine fence_through found (Leased start r fenced.lease.leaseId)
    (calls_executeCancellable r cancellation) (by simp [Effects]) stable leased
      fun execution later ends leased => ?_
  refine step .now leased fun executed _ leased => ?_
  exact fence_settle found trace _ ends rfl rfl rfl leased

theorem fence_executeInternal (recovered : Bool) (untouched : Apart r start w) :
    ((strangers start requests).member index).Safe (Fair start r)
      (executeInternal r recovered).run w := by
  have stable : ∀ a b, Apart r start a → Apart r a b → Apart r start b :=
    fun _ _ first second => first.trans second
  have ended : ∀ (result : Except KernelError RuntimeExecution) (now : World),
      result ≠ .error fencingFailure → Apart r start now →
        ((strangers start requests).member index).Safe (Fair start r) (.done result) now :=
    fun result now other untouched =>
      fence_done found fun later moved => .untouched (untouched.trans moved) other
  have fault : ∀ {γ : Type} (error : KernelError) (now : World),
      EndsWith (· ≠ .error fencingFailure) (.error error : Except KernelError γ) →
        Apart r start now → Fair start r (.error error : Except KernelError RuntimeExecution) now :=
    fun error now ends untouched =>
      .untouched untouched (EndsWith.error (ends error rfl)).ne_fencingFailure
  have step : ∀ {call : Call} {next : Answer call → Fallible RuntimeExecution} {now : World},
      Acts r Notes False call → Apart r start now →
      (∀ answer later, Apart r start later →
        ((strangers start requests).member index).Safe (Fair start r) (next answer).run later) →
      ((strangers start requests).member index).Safe (Fair start r)
        (lift (perform call) >>= next).run now :=
    fun acts untouched rest => Safe.bindLift strangers_quiet (fence_through found (Apart r start)
      (calls_perform acts fun _ _ => trivial) (by simp [Notes]) stable untouched
        fun answer later _ untouched _ moved _ => rest _ _ (untouched.trans (moved r found)))
  refine step .now untouched fun admitted _ untouched => ?_
  cases r.validateSensitiveReferences with
  | error reason => exact ended _ _ (fun same => by cases same) untouched
  | ok _ =>
      refine step .kernelState untouched fun state _ untouched => ?_
      split
      · exact ended _ _ (fun same => by cases same) untouched
      refine fence_throughExcept found (Apart r start)
        (show (committedReceipt r).run.Calls _ (Acts r Notes False) _ from
          calls_lookup _ (calls_readWorkload _) _)
        (by simp [Notes]) stable untouched ?_ fault
      intro committed later _ untouched
      cases committed with
      | some receipt =>
          refine fence_throughExcept found (Apart r start)
            (show (latestDecisionTrace r.operationId).run.Calls _ (Acts r Notes False) _ from
              calls_lookup _ (calls_readFrom _) _)
            (by simp [Notes]) stable untouched ?_ fault
          exact fun trace later _ untouched => ended _ _ (fun same => by cases same) untouched
      | none =>
          refine fence_throughExcept found (Apart r start) (calls_schedule r admitted)
            (by simp [Notes]) stable untouched ?_ fault
          intro placed later _ untouched
          refine Safe.bindExcept strangers_quiet ((fence_grantLease found placed.1 untouched).mono
            ?_)
          rintro result later - (⟨fenced, rfl, leased⟩ | ⟨⟨error, rfl⟩, fair⟩)
          · exact fence_executeLeased found recovered admitted placed.1 placed.2 fenced leased
          · exact fence_done found fun last moved => (Fair.cast fair).apart moved

theorem fence_attempt (recovered : Bool) (untouched : Apart r start w) :
    ((strangers start requests).member index).Safe (Fair start r)
      (attempt r recovered).run w := by
  refine fence_through found (Apart r start)
    (calls_perform (show Acts r Notes False _ from .attempt) fun _ _ => trivial) (by simp [Notes])
    (fun _ _ first second => first.trans second) untouched fun _ later _ untouched => ?_
  refine Safe.bind strangers_quiet ((fence_executeInternal found recovered untouched).mono ?_)
  intro result later _ fair
  exact fence_through found (Fair start r result)
    (calls_perform (show Acts r Notes False _ from .finish (failureOf result)) fun _ _ => trivial)
    (by simp [Notes]) (fun _ _ held moved => Fair.apart held moved) fair
    fun _ later _ fair => fence_done found fun last moved => Fair.apart fair moved

end Programs

/-- One execution of each request, before any of them has begun. -/
def executions (requests : List OperationRequest) (w : World) :
    Pool Call Answer World (Except KernelError RuntimeExecution) where
  world := w
  threads := requests.map fun r => (execute r).run

/-- Executions that have nothing in common do not fence each other out, and close
the leases they journal, in every schedule in which no other grant and no
expiry falls between a grant and its fencing check. -/
theorem strangers_unfenced {w : World} (reached : Reached w) (requests : List OperationRequest)
    (distinct : requests.Pairwise Distinct) (schedule : List (Nat × Choice))
    (reliable : ∀ turn ∈ schedule, turn.2.storage = none)
    (honest : ∀ turn ∈ schedule, turn.2.outcome ≠ .error fencingFailure)
    (unhindered : ¬ Hindered w.history
      ((executions requests w).run kernel schedule).world.history) :
    let last := (executions requests w).run kernel schedule
    ∀ index r result, requests[index]? = some r → last.result index = some result →
      result ≠ .error fencingFailure ∧
        Balanced w.journal.entries r last.world.journal.entries := by
  intro last index r result found returned
  have tolerant := strangers_tolerant w distinct
  have holds : (strangers w requests).Holds
      (fun index result later => ∀ r, requests[index]? = some r → Fair w r result later)
      (executions requests w) := by
    refine ⟨⟨reached.managed, [], by simp [executions]⟩, fun index p present => ?_⟩
    rw [executions, List.getElem?_map] at present
    obtain ⟨r, found, rfl⟩ := Option.map_eq_some_iff.mp present
    refine (fence_attempt found false (.refl w)).mono fun result later _ fair q also => ?_
    rw [found] at also
    cases also
    exact fair
  have fair := (holds.run tolerant schedule fun turn member _ _ =>
    ⟨reliable turn member, honest turn member⟩).returned tolerant returned r found
  exact fair.resolve_left unhindered

/-! ### Two schedules -/

def Event.isGrant : Event → Bool
  | .granted .. => true
  | _ => false

/-- The event is no absorbed release. -/
def Event.releases : Event → Bool
  | .absorbed entry => !(entry.objectType == "ResourceLease" && entry.newPhase == "RELEASED")
  | _ => true

/-- Each check comes before the next grant and within 30 seconds of its own. -/
def orderly (history : List Event) : Bool :=
  history.tails.all fun
    | .granted leaseId _ granted :: rest => rest.tails.all fun
        | .checked other checked :: after => other != leaseId ||
            (rest.take (rest.length - (after.length + 1))).all (!·.isGrant) &&
              decide (checked < granted + 30000000)
        | _ => true
    | _ => true

theorem orderly_unhindered {history : List Event} (ordered : orderly history = true)
    (released : ∀ event ∈ history, event.releases = true) : ¬ Hindered [] history := by
  rintro (⟨before, leaseId, workloadId, granted, middle, checked, after, rfl, late⟩ |
    ⟨more, entry, rfl, absorbed, type, phase⟩)
  · have outer := List.all_eq_true.mp ordered
      (.granted leaseId workloadId granted :: (middle ++ .checked leaseId checked :: after))
      ((List.mem_tails _ _).mpr ⟨before, by simp⟩)
    have inner := List.all_eq_true.mp outer (.checked leaseId checked :: after)
      ((List.mem_tails _ _).mpr ⟨middle, rfl⟩)
    simp only [bne_self_eq_false, Bool.false_or, Bool.and_eq_true, decide_eq_true_eq,
      List.length_append, List.length_cons, Nat.add_sub_cancel, List.take_left'] at inner
    obtain ⟨clear, prompt⟩ := inner
    rcases late with ⟨other, workload, time, inside⟩ | expired
    · have first := List.all_eq_true.mp clear (.granted other workload time) (by simpa using inside)
      cases first
    · exact absurd prompt (Int.not_lt.mpr expired)
  · have kept := released (.absorbed entry) (by simpa using absorbed)
    simp [Event.releases, type, phase] at kept

/-- Two requests that have nothing in common. -/
def twoRequests : List OperationRequest :=
  [sampleRequest "operation-1" "workload-1" "revision-1" .idempotent,
    sampleRequest "operation-2" "workload-2" "revision-1" .idempotent]

theorem twoRequests_distinct : twoRequests.Pairwise Distinct := by
  simp [twoRequests, Distinct, sampleRequest]

/-- The second execution runs from start to end after `turns` calls of the first. -/
def interposed (turns : Nat) : List (Nat × Choice) :=
  List.replicate turns (0, answering (sampleReceipt "operation-1" "first")) ++
    List.replicate 28 (1, answering (sampleReceipt "operation-2" "second")) ++
      List.replicate (28 - turns) (0, answering (sampleReceipt "operation-1" "first"))

theorem interposed_reliable (turns : Nat) :
    (∀ turn ∈ interposed turns, turn.2.storage = none) ∧
      ∀ turn ∈ interposed turns, turn.2.outcome ≠ .error fencingFailure := by
  constructor <;>
  · intro turn member
    simp only [interposed, List.mem_append, List.mem_replicate] at member
    rcases member with (⟨-, rfl⟩ | ⟨-, rfl⟩) | ⟨-, rfl⟩ <;> simp [answering]

theorem strangers_unfenced_interposed :
    ∃ result,
      ((executions twoRequests (.boot sampleUuids 0)).run kernel (interposed 10)).result 0 =
        some result ∧ result ≠ .error fencingFailure ∧
      Balanced (World.boot sampleUuids 0).journal.entries
        (sampleRequest "operation-1" "workload-1" "revision-1" .idempotent)
        ((executions twoRequests (.boot sampleUuids 0)).run kernel
          (interposed 10)).world.journal.entries := by
  have returned : (((executions twoRequests (.boot sampleUuids 0)).run kernel
      (interposed 10)).result 0).isSome = true := by
    decide +kernel
  obtain ⟨result, returned⟩ := Option.isSome_iff_exists.mp returned
  have fair := strangers_unfenced (.boot sampleUuids 0) twoRequests twoRequests_distinct
    (interposed 10) (interposed_reliable 10).1 (interposed_reliable 10).2
    (orderly_unhindered (by decide +kernel) (by decide +kernel)) 0
    (sampleRequest "operation-1" "workload-1" "revision-1" .idempotent) result rfl returned
  exact ⟨result, returned, fair⟩

/-- An execution of another workload between a grant and its check. -/
theorem strangers_fenced :
    ¬ ∀ w, Reached w → ∀ requests : List OperationRequest, requests.Pairwise Distinct →
      ∀ schedule : List (Nat × Choice), (∀ turn ∈ schedule, turn.2.storage = none) →
        (∀ turn ∈ schedule, turn.2.outcome ≠ .error fencingFailure) →
        let last := (executions requests w).run kernel schedule
        ∀ index r result, requests[index]? = some r → last.result index = some result →
          result ≠ .error fencingFailure ∧
            Balanced w.journal.entries r last.world.journal.entries := by
  intro fenced
  have failed : ((executions twoRequests (.boot sampleUuids 0)).run kernel
      (interposed 6)).result 0 = some (.error fencingFailure) := by
    decide +kernel
  have fair := fenced (.boot sampleUuids 0) (.boot _ _) twoRequests twoRequests_distinct
    (interposed 6) (interposed_reliable 6).1 (interposed_reliable 6).2 0 _ _ rfl failed
  exact fair.1 rfl

end NousKernel
