import NousKernel.Revoking
import NousKernel.Separators

/-!
Extension requests on concurrent connections. A request reads the entries of its
extension at one moment and appends its decision at another, so a permit can be
journaled after a revocation that its request has not seen.
-/

set_option autoImplicit false

namespace NousKernel

open Resumption

/-- The workload under which the entries of a request stand. -/
def NkiRequest.workload (request : NkiRequest) : Option String :=
  match request.method with
  | .admitExtension (.ok extension) => some (extensionWorkload extension.extensionId)
  | .authorizeExtension (.ok authorization) =>
      some (extensionWorkload authorization.admission.extensionId)
  | .authorizeExtensionExecution (.ok execution) => some (extensionWorkload execution.extensionId)
  | .revokeExtension (.ok revocation) => some (extensionWorkload revocation.extensionId)
  | _ => none

theorem Files.workload {request : NkiRequest} {entries : List ExtensionEntry}
    {entry : ExtensionEntry} (files : Files request entries entry) :
    request.workload = some entry.workloadId := by
  cases files with
  | admission _ asked _ | authorization _ _ asked _ _ | permit _ _ _ asked _ _ _
  | revocation _ _ asked _ _ _ =>
      simp only [NkiRequest.workload, asked]
      rfl

/-! ### The steps of a request -/

/-- A request reads its own extension, and files what follows from the entries it has
read. The state is what it has read. -/
def dispatchProtocol (request : NkiRequest) :
    Protocol DispatchCall DispatchCall.Answer (List ExtensionEntry) where
  law
    | _, .readWorkload workloadId => request.workload = some workloadId
    | _, .utcNow => True
    | seen, .append entry => Files request seen entry
  next
    | _, .readWorkload _, .ok entries => entries
    | seen, _, _ => seen

section Follows

variable {request : NkiRequest} {seen : List ExtensionEntry}

/-- The program keeps to the protocol of a request. -/
def KeepsTo (request : NkiRequest) (p : DispatchM NkiOutcome) (seen : List ExtensionEntry) : Prop :=
  (dispatchProtocol request).Follows (fun _ _ => True) p.run seen

theorem keepsTo_read {workloadId : String} {next : List ExtensionEntry → DispatchM NkiOutcome}
    (own : request.workload = some workloadId)
    (onward : ∀ entries, KeepsTo request (next entries) entries) :
    KeepsTo request (DispatchM.readWorkload workloadId >>= next) seen := by
  refine ⟨own, ?_⟩
  intro answer
  cases answer with
  | error error => trivial
  | ok entries => exact onward entries

theorem keepsTo_conclude {entry : ExtensionEntry} (files : Files request seen entry) :
    KeepsTo request (DispatchM.conclude entry) seen := by
  refine ⟨files, ?_⟩
  intro answer
  cases answer with
  | error error => trivial
  | ok sequence => trivial

theorem keepsTo_dispatchRequest (request : NkiRequest) :
    KeepsTo request (dispatchRequest request) [] := by
  unfold dispatchRequest
  split
  · rename_i extension asked
    unfold admitExtension
    split
    · rename_i valid
      exact keepsTo_conclude (.admission extension asked valid)
    · trivial
  · trivial
  · rename_i authorization asked
    unfold authorizeExtension
    split
    · rename_i valid
      apply keepsTo_read (by simp [NkiRequest.workload, asked])
      intro entries
      split
      · rename_i prior found
        exact keepsTo_conclude (.authorization authorization prior asked valid found)
      · trivial
    · trivial
  · trivial
  · rename_i execution asked
    unfold authorizeExtensionExecution
    split
    · rename_i valid
      apply keepsTo_read (by simp [NkiRequest.workload, asked])
      intro entries
      split
      · rename_i authorization found
        split
        · rename_i within
          refine ⟨trivial, ?_⟩
          intro now
          exact keepsTo_conclude (.permit execution authorization now asked valid found within)
        · trivial
      · trivial
    · trivial
  · trivial
  · rename_i revocation asked
    unfold revokeExtension
    split
    · rename_i valid
      apply keepsTo_read (by simp [NkiRequest.workload, asked])
      intro entries
      split
      · split <;> trivial
      · rename_i new
        split
        · rename_i prior found
          exact keepsTo_conclude (.revocation revocation prior asked valid new found)
        · trivial
    · trivial
  · trivial

end Follows

/-! ### Permits and revocations -/

def RevokesExtension (workloadId : String) (entry : ExtensionEntry) : Prop :=
  entry.objectType = revocationType ∧ entry.workloadId = workloadId

def AuthorizesExtension (workloadId : String) (entry : ExtensionEntry) : Prop :=
  entry.objectType = authorizationType ∧ entry.workloadId = workloadId

/-- Some revocation of the extension has no authorization after it. -/
def Withdrawn (workloadId : String) (entries : List ExtensionEntry) : Prop :=
  Separators.Lately (RevokesExtension workloadId) (AuthorizesExtension workloadId) entries

/-- No permit of an extension follows a revocation of it without an authorization
between them. -/
def PermitsStand (entries : List ExtensionEntry) : Prop :=
  ∀ before permit after, entries = before ++ permit :: after → permit.objectType = permitType →
    ¬ Withdrawn permit.workloadId before

theorem withdrawn_filter {workloadId : String} {entries : List ExtensionEntry} :
    Withdrawn workloadId (entries.filter fun entry => entry.workloadId = workloadId) ↔
      Withdrawn workloadId entries := by
  apply Separators.lately_filter
  · exact fun _ revokes => decide_eq_true revokes.2
  · exact fun _ authorizes => decide_eq_true authorizes.2

theorem permitsStand_snoc {entries : List ExtensionEntry} {entry : ExtensionEntry} :
    PermitsStand (entries ++ [entry]) ↔ PermitsStand entries ∧
      (entry.objectType = permitType → ¬ Withdrawn entry.workloadId entries) := by
  constructor
  · intro stand
    constructor
    · intro before permit after split kind
      exact stand before permit (after ++ [entry]) (by simp [split]) kind
    · exact fun kind => stand entries entry [] rfl kind
  · rintro ⟨stand, last⟩ before permit after split kind
    rcases List.eq_nil_or_concat after with rfl | ⟨front, final, rfl⟩
    · obtain ⟨fronts, lasts⟩ := List.append_inj' split rfl
      obtain ⟨rfl, _⟩ := List.cons.inj lasts
      subst fronts
      exact last kind
    · rw [List.concat_eq_append, ← List.cons_append, ← List.append_assoc] at split
      obtain ⟨fronts, _⟩ := List.append_inj' split rfl
      exact stand before permit front fronts kind

/-- A revocation takes every capability away. -/
def Emptied (entry : ExtensionEntry) : Prop :=
  entry.objectType = revocationType → entry.entryType = .commit ∧
    ∃ decision, entry.payload = .decision decision ∧ decision.grantedCapabilities = []

theorem Files.emptied {request : NkiRequest} {entries : List ExtensionEntry}
    {entry : ExtensionEntry} (files : Files request entries entry) : Emptied entry := by
  cases files with
  | admission _ _ _ =>
      exact fun kind => absurd kind (show admissionType ≠ revocationType by decide)
  | authorization _ _ _ _ _ =>
      exact fun kind => absurd kind (show authorizationType ≠ revocationType by decide)
  | permit _ _ _ _ _ _ _ =>
      exact fun kind => absurd kind (show permitType ≠ revocationType by decide)
  | revocation _ _ _ _ _ _ => exact fun _ => ⟨rfl, _, rfl, rfl⟩

/-- Where the last decision grants a capability, it is no revocation. -/
theorem granting_not_withdrawn {workloadId : String} {entries : List ExtensionEntry}
    (emptied : ∀ entry ∈ entries, Emptied entry)
    (own : ∀ entry ∈ entries, entry.workloadId = workloadId) {last : ExtensionEntry}
    {decision : ExtensionAdmissionDecision} {capability : String}
    (found : findLast ExtensionEntry.decides entries = some last)
    (payload : last.payload = .decision decision)
    (granted : capability ∈ decision.grantedCapabilities) : ¬ Withdrawn workloadId entries := by
  induction entries using List.reverseRecOn with
  | nil => exact Separators.lately_nil _ _
  | append_singleton entries entry ih =>
      have mine := own entry (List.mem_append_right _ (.head _))
      have empties := emptied entry (List.mem_append_right _ (.head _))
      rw [findLast_snoc] at found
      rw [Withdrawn, Separators.lately_snoc]
      by_cases decides : ExtensionEntry.decides entry = true
      · rw [if_pos decides, Option.some.injEq] at found
        subst found
        have authorizes : entry.objectType = authorizationType := by
          rcases (ExtensionEntry.decides_iff.mp decides).2 with authorization | revocation
          · exact authorization
          · obtain ⟨_, other, same, none⟩ := empties revocation
            rw [payload, ExtensionPayload.decision.injEq] at same
            rw [same, none] at granted
            cases granted
        rintro (revokes | ⟨unclear, _⟩)
        · exact absurd (authorizes.symm.trans revokes.1) (by decide)
        · exact unclear ⟨authorizes, mine⟩
      · rw [if_neg decides] at found
        rintro (revokes | ⟨_, before⟩)
        · obtain ⟨commit, _⟩ := empties revokes.1
          exact decides (ExtensionEntry.decides_iff.mpr ⟨commit, .inr revokes.1⟩)
        · refine ih ?_ ?_ found before
          · exact fun other member => emptied other (List.mem_append_left _ member)
          · exact fun other member => own other (List.mem_append_left _ member)

/-! ### Every interleaving -/

/-- The permits stand, each request has read a beginning of what there is, and
revocations grant nothing. -/
structure Attended (requests : List NkiRequest) (w : DispatchWorld)
    (seen : Nat → List ExtensionEntry) : Prop where
  stand : PermitsStand w.journal.entries
  read : ∀ (index : Nat) request workloadId, requests[index]? = some request →
    request.workload = some workloadId → seen index <+: w.journal.readWorkload workloadId
  emptied : ∀ entry ∈ w.journal.entries, Emptied entry

/-- An append that files a permit: the store works and the key is unused. -/
def FilesPermit (w : DispatchWorld) (choice : DispatchChoice) (entry : ExtensionEntry) : Prop :=
  entry.objectType = permitType ∧ choice.storage = none ∧
    ∀ key, entry.idempotencyKey = some key → key ∉ keysOf w.journal.entries

theorem FilesPermit.files {w : DispatchWorld} {choice : DispatchChoice} {entry : ExtensionEntry}
    (files : FilesPermit w choice entry) :
    (dispatchMachine.answer (.append entry) w choice).2.journal.entries =
      w.journal.entries ++
        [Journal.stamp w.journal.nextSequence (w.clock + choice.elapsed) entry] := by
  simp only [dispatchMachine, files.2.1, Journal.offer]
  exact Journal.append_inserted _ (Journal.absorber_none_iff.mpr files.2.2)

/-- Since the read of the request that files a permit, its extension was not revoked for
good. -/
def NotOvertaken (w : DispatchWorld) (seen : Nat → List ExtensionEntry) (index : Nat)
    (call : DispatchCall) (choice : DispatchChoice) : Prop :=
  ∀ entry, call = .append entry → FilesPermit w choice entry →
    ¬ Withdrawn entry.workloadId
      ((w.journal.readWorkload entry.workloadId).drop (seen index).length)

section Steps

variable {requests : List NkiRequest} {w : DispatchWorld} {seen : Nat → List ExtensionEntry}
  {index : Nat}

/-- A step that leaves the entries and what was read alone. -/
theorem Attended.still (attended : Attended requests w seen) {journal : Journal ExtensionPayload}
    (same : journal.entries = w.journal.entries) (clock : Int) :
    Attended requests ⟨journal, clock⟩ (Function.update seen index (seen index)) := by
  rw [Function.update_eq_self]
  constructor
  · show PermitsStand journal.entries
    rw [same]
    exact attended.stand
  · intro other request workloadId found own
    show seen other <+: journal.entries.filter _
    rw [same]
    exact attended.read other request workloadId found own
  · show ∀ item ∈ journal.entries, Emptied item
    rw [same]
    exact attended.emptied

/-- A request reads its extension. -/
theorem Attended.reads (attended : Attended requests w seen) {request : NkiRequest}
    {workloadId : String} (found : requests[index]? = some request)
    (own : request.workload = some workloadId) (clock : Int) :
    Attended requests { w with clock := clock }
      (Function.update seen index (w.journal.readWorkload workloadId)) := by
  refine ⟨attended.stand, ?_, attended.emptied⟩
  intro other request' workloadId' found' own'
  by_cases mine : other = index
  · subst mine
    rw [found, Option.some.injEq] at found'
    subst found'
    rw [own, Option.some.injEq] at own'
    subst own'
    rw [Function.update_self]
  · rw [Function.update_of_ne mine]
    exact attended.read other request' workloadId' found' own'

/-- A permit that is filed stands where its request was not overtaken. -/
theorem Attended.permit (attended : Attended requests w seen) {request : NkiRequest}
    {entry : ExtensionEntry} (found : requests[index]? = some request)
    (files : Files request (seen index) entry) (kind : entry.objectType = permitType)
    (current : ¬ Withdrawn entry.workloadId
      ((w.journal.readWorkload entry.workloadId).drop (seen index).length)) :
    ¬ Withdrawn entry.workloadId w.journal.entries := by
  rw [← withdrawn_filter]
  show ¬ Withdrawn _ (w.journal.readWorkload entry.workloadId)
  obtain ⟨since, whole⟩ := attended.read index request _ found files.workload
  rw [← whole, List.drop_left] at current
  rw [← whole]
  intro withdrawn
  rcases Separators.lately_append withdrawn with late | early
  · exact current late
  · -- What the request has read ends in an authorization.
    have inside : ∀ item ∈ seen index, item ∈ w.journal.entries ∧
        item.workloadId = entry.workloadId := by
      intro item member
      apply Journal.mem_readWorkload.mp
      rw [← whole]
      exact List.mem_append_left _ member
    cases files with
    | permit execution authorization now asked valid found within =>
        obtain ⟨last, lastly, _, payload, _, _, granted⟩ := findAuthorization_iff.mp found
        refine granting_not_withdrawn ?_ ?_ lastly payload granted early
        · exact fun item member => attended.emptied item (inside item member).1
        · exact fun item member => (inside item member).2
    | admission _ _ _ => exact absurd kind (show admissionType ≠ permitType by decide)
    | authorization _ _ _ _ _ => exact absurd kind (show authorizationType ≠ permitType by decide)
    | revocation _ _ _ _ _ _ => exact absurd kind (show revocationType ≠ permitType by decide)

/-- A request files an entry under an unused key. -/
theorem Attended.files (attended : Attended requests w seen) {request : NkiRequest}
    {entry : ExtensionEntry} {journal : Journal ExtensionPayload} {sequence : Nat} {now : Int}
    (files : Files request (seen index) entry)
    (grown : journal.entries = w.journal.entries ++ [Journal.stamp sequence now entry])
    (stands : entry.objectType = permitType → ¬ Withdrawn entry.workloadId w.journal.entries)
    (clock : Int) :
    Attended requests ⟨journal, clock⟩ (Function.update seen index (seen index)) := by
  rw [Function.update_eq_self]
  constructor
  · show PermitsStand journal.entries
    rw [grown]
    exact permitsStand_snoc.mpr ⟨attended.stand, stands⟩
  · intro other request' workloadId found own
    apply (attended.read other request' workloadId found own).trans
    show w.journal.entries.filter _ <+: journal.entries.filter _
    rw [grown, List.filter_append]
    exact List.prefix_append _ _
  · show ∀ item ∈ journal.entries, Emptied item
    rw [grown]
    intro item member
    rcases List.mem_append.mp member with old | new
    · exact attended.emptied item old
    · rw [List.mem_singleton.mp new]
      exact files.emptied

/-- What is permitted to a thread: the protocol of its request. -/
def dispatchProtocols (requests : List NkiRequest) (index : Nat) :
    Protocol DispatchCall DispatchCall.Answer (List ExtensionEntry) where
  law seen call := ∃ request, requests[index]? = some request ∧
    (dispatchProtocol request).law seen call
  next
    | _, .readWorkload _, .ok entries => entries
    | seen, _, _ => seen

/-- Every permitted step that is not overtaken keeps the permits standing. -/
theorem attended_kept (requests : List NkiRequest) :
    Attends.KeptAt NotOvertaken (dispatchProtocols requests) dispatchMachine
      (Attended requests) := by
  rintro w seen index call choice attended current ⟨request, found, permitted⟩
  cases call with
  | readWorkload workloadId =>
      cases storage : choice.storage with
      | some error =>
          simp only [dispatchMachine, dispatchProtocols, storage]
          exact attended.still rfl _
      | none =>
          simp only [dispatchMachine, dispatchProtocols, storage]
          exact attended.reads found permitted _
  | utcNow => exact attended.still rfl _
  | append entry =>
      show Attended requests ⟨(w.journal.offer entry choice.storage (w.clock + choice.elapsed)).2,
        w.clock + choice.elapsed⟩ (Function.update seen index (seen index))
      cases storage : choice.storage with
      | some error => exact attended.still rfl _
      | none =>
          obtain ⟨key, keyed, _⟩ := permitted.key
          have entries := Journal.append_entries (j := w.journal) key
            (w.clock + choice.elapsed) keyed
          by_cases used : key ∈ keysOf w.journal.entries
          · rw [if_pos used] at entries
            exact attended.still entries _
          · rw [if_neg used] at entries
            apply attended.files permitted entries
            intro kind
            apply attended.permit found permitted kind
            apply current entry rfl
            refine ⟨kind, storage, ?_⟩
            intro other own
            rw [keyed, Option.some.injEq] at own
            exact own ▸ used

end Steps

/-- Threads that each handle one request, on an empty journal. -/
def dispatchPool (clock : Int) (requests : List NkiRequest) :
    Pool DispatchCall DispatchCall.Answer DispatchWorld (Except NousError NkiOutcome) :=
  ⟨⟨.empty, clock⟩, requests.map fun request => (dispatchRequest request).run⟩

/-- The journal after some turns. -/
def journaled (clock : Int) (requests : List NkiRequest) (schedule : List (Nat × DispatchChoice)) :
    List ExtensionEntry :=
  ((dispatchPool clock requests).run dispatchMachine schedule).world.journal.entries

/-- What each request has read. -/
def readBy (clock : Int) (requests : List NkiRequest) (schedule : List (Nat × DispatchChoice))
    (index : Nat) : List ExtensionEntry :=
  (dispatchProtocols requests index).after []
    ((dispatchPool clock requests).transcript dispatchMachine schedule index)

/-- No execution is overtaken by a revocation between its read and its append. -/
def NeverOvertaken (clock : Int) (requests : List NkiRequest)
    (schedule : List (Nat × DispatchChoice)) : Prop :=
  ∀ front turn, front ++ [turn] <+: schedule → ∀ call next,
    ((dispatchPool clock requests).run dispatchMachine front).threads[turn.1]? =
        some (.call call next) →
      NotOvertaken ((dispatchPool clock requests).run dispatchMachine front).world
        (readBy clock requests front) turn.1 call turn.2

section Run

variable {clock : Int} {requests : List NkiRequest} {schedule : List (Nat × DispatchChoice)}

theorem dispatchPool_attends (clock : Int) (requests : List NkiRequest) :
    Attends (dispatchProtocols requests) (Attended requests) (fun _ _ _ => True) (fun _ => [])
      (dispatchPool clock requests) := by
  constructor
  · constructor
    · intro before permit after split _
      exact absurd split (by simp [dispatchPool, Journal.empty])
    · exact fun _ _ _ _ _ => List.nil_prefix
    · exact fun _ absent => absurd absent List.not_mem_nil
  · intro index p found
    rw [dispatchPool, List.getElem?_map] at found
    obtain ⟨request, here, rfl⟩ := Option.map_eq_some_iff.mp found
    have follows := Protocol.Follows.simulate (dispatchProtocols requests index) (· = ·)
      (fun seen _ call same permitted => ⟨⟨request, here, same ▸ permitted⟩, fun answer => by
        subst same
        cases call with
        | readWorkload workloadId => cases answer <;> rfl
        | utcNow => rfl
        | append entry => rfl⟩) (keepsTo_dispatchRequest request) rfl
    exact follows.mono fun _ _ _ => trivial

/-- Executions that are not overtaken leave every permit standing. -/
theorem permitsStand_of_never (never : NeverOvertaken clock requests schedule) :
    PermitsStand (journaled clock requests schedule) :=
  ((dispatchPool_attends clock requests).run_at (attended_kept requests) schedule never).inv.stand

/-- A permit that is filed stands only if its request was not overtaken. -/
theorem notOvertaken_of_stand {front : List (Nat × DispatchChoice)} {turn : Nat × DispatchChoice}
    {call : DispatchCall} {next : call.Answer → _}
    (found : ((dispatchPool clock requests).run dispatchMachine front).threads[turn.1]? =
      some (.call call next))
    (stand : PermitsStand (journaled clock requests (front ++ [turn]))) :
    NotOvertaken ((dispatchPool clock requests).run dispatchMachine front).world
      (readBy clock requests front) turn.1 call turn.2 := by
  rintro entry rfl files since
  rw [journaled, Pool.run_append] at stand
  change PermitsStand (Pool.step dispatchMachine _ turn).world.journal.entries at stand
  rw [Pool.step_call found, files.files, permitsStand_snoc] at stand
  apply stand.2 files.1
  apply withdrawn_filter.mp
  show Withdrawn entry.workloadId (Journal.readWorkload _ entry.workloadId)
  rw [← List.take_append_drop (readBy clock requests front turn.1).length
    (Journal.readWorkload _ entry.workloadId)]
  exact Separators.lately_suffix since

end Run

/-- In every state of a run the permits stand exactly when no execution is overtaken. -/
theorem permits_stand_iff (clock : Int) (requests : List NkiRequest)
    (schedule : List (Nat × DispatchChoice)) :
    (∀ front, front <+: schedule → PermitsStand (journaled clock requests front)) ↔
      NeverOvertaken clock requests schedule := by
  constructor
  · intro stand front turn before call next found
    exact notOvertaken_of_stand found (stand _ before)
  · intro never front before
    apply permitsStand_of_never
    intro shorter turn inside
    exact never shorter turn (inside.trans before)

/-! ### A permit that is overtaken -/

/-- No time passes, and the store works. -/
def calmChoice : DispatchChoice := ⟨0, none⟩

section Calm

variable {w : DispatchWorld}

theorem advance_read (workloadId : String) (next : List ExtensionEntry → DispatchM NkiOutcome)
    (choices : List DispatchChoice) :
    (DispatchM.readWorkload workloadId >>= next).run.advance dispatchMachine w
        (calmChoice :: choices) =
      (next (w.journal.readWorkload workloadId)).run.advance dispatchMachine w choices := by
  have still : w.clock + ((0 : Nat) : Int) = w.clock := Int.add_zero _
  show (next (w.journal.readWorkload workloadId)).run.advance dispatchMachine
    { w with clock := w.clock + ((0 : Nat) : Int) } choices = _
  rw [still]

theorem advance_utcNow (next : Int → DispatchM NkiOutcome) (choices : List DispatchChoice) :
    (DispatchM.utcNow >>= next).run.advance dispatchMachine w (calmChoice :: choices) =
      (next w.clock).run.advance dispatchMachine w choices := by
  have still : w.clock + ((0 : Nat) : Int) = w.clock := Int.add_zero _
  show (next (w.clock + ((0 : Nat) : Int))).run.advance dispatchMachine
    { w with clock := w.clock + ((0 : Nat) : Int) } choices = _
  rw [still]

/-- The append is still to come. -/
theorem advance_waits (entry : ExtensionEntry) :
    (DispatchM.conclude entry).run.advance dispatchMachine w [] =
      ((DispatchM.conclude entry).run, w) := rfl

theorem advance_conclude (entry : ExtensionEntry) :
    (DispatchM.conclude entry).run.advance dispatchMachine w [calmChoice] =
      (.done (.ok (.success entry.payload)), ⟨(w.journal.append entry w.clock).2, w.clock⟩) := by
  have still : w.clock + ((0 : Nat) : Int) = w.clock := Int.add_zero _
  show (_, DispatchWorld.mk (w.journal.append entry (w.clock + ((0 : Nat) : Int))).2
    (w.clock + ((0 : Nat) : Int))) = _
  rw [still]
  rfl

variable {request : NkiRequest}

/-- A request that is alone does in its turns what it does when it is handled. -/
theorem advance_admits {extension : ExtensionAdmissionRequest}
    (asked : request.method = .admitExtension (.ok extension))
    (valid : extension.validate = .ok ()) :
    ∃ ended, (dispatchRequest request).run.advance dispatchMachine w [calmChoice] =
      (ended, (handle w ⟨request, calm⟩).2) := by
  rw [handle_admits asked valid]
  simp only [dispatchRequest, asked, admitExtension, valid]
  exact ⟨_, advance_conclude _⟩

theorem advance_authorizes {authorization : ExtensionAuthorizationRequest}
    {prior : ExtensionAdmissionDecision}
    (asked : request.method = .authorizeExtension (.ok authorization))
    (valid : authorization.validate = .ok ())
    (found : findAdmission authorization (w.journal.readWorkload
      (extensionWorkload authorization.admission.extensionId)) = some prior) :
    ∃ ended, (dispatchRequest request).run.advance dispatchMachine w [calmChoice, calmChoice] =
      (ended, (handle w ⟨request, calm⟩).2) := by
  rw [handle_authorizes asked valid found]
  simp only [dispatchRequest, asked, authorizeExtension, valid, advance_read, found]
  exact ⟨_, advance_conclude _⟩

theorem advance_revokes {revocation : ExtensionRevocationRequest}
    {prior : ExtensionAdmissionDecision}
    (asked : request.method = .revokeExtension (.ok revocation))
    (valid : revocation.validate = .ok ())
    (new : findReplay revocation request.idempotencyKey (w.journal.readWorkload
      (extensionWorkload revocation.extensionId)) = none)
    (found : findRevocable revocation (w.journal.readWorkload
      (extensionWorkload revocation.extensionId)) = some prior) :
    ∃ ended, (dispatchRequest request).run.advance dispatchMachine w [calmChoice, calmChoice] =
      (ended, (handle w ⟨request, calm⟩).2) := by
  rw [handle_revokes asked valid new found]
  simp only [dispatchRequest, asked, revokeExtension, valid, advance_read, new, found]
  exact ⟨_, advance_conclude _⟩

/-- An execution after its read: the append of its permit is still to come. -/
theorem advance_permits {execution : ExtensionExecutionRequest}
    {authorization : ExtensionAdmissionDecision}
    (asked : request.method = .authorizeExtensionExecution (.ok execution))
    (valid : execution.validate = .ok ())
    (found : findAuthorization execution (w.journal.readWorkload
      (extensionWorkload execution.extensionId)) = some authorization)
    (within : withinAuthorization execution authorization = true) :
    (dispatchRequest request).run.advance dispatchMachine w [calmChoice, calmChoice] =
      ((DispatchM.conclude (permitEntry execution request.principalId request.idempotencyKey
        w.clock)).run, w) := by
  simp only [dispatchRequest, asked, authorizeExtensionExecution, valid, advance_read, found,
    within, if_true, advance_utcNow, advance_waits]

end Calm

/-- The tool is admitted and approved. An execution reads the journal, a revocation is
handled, and the execution appends its permit. -/
def overtakenTurns : List (Nat × DispatchChoice) :=
  [0, 1, 1, 2, 2, 3, 3, 2].map fun index => (index, calmChoice)

def overtakenRequests : List NkiRequest :=
  [toolAdmit, toolAuthorize "approval-1", toolExecute "approval-1", toolRevoke "approval-1"]

/-- The schedule in terms of what each program does alone. -/
theorem overtakenTurns_world
    {p0 p1 p2 p3 d0 d1 q2 d2 d3 : Prog DispatchCall DispatchCall.Answer (Except NousError NkiOutcome)}
    {w0 w1 w2 w3 w4 w5 : DispatchWorld}
    (first : p0.advance dispatchMachine w0 [calmChoice] = (d0, w1))
    (second : p1.advance dispatchMachine w1 [calmChoice, calmChoice] = (d1, w2))
    (third : p2.advance dispatchMachine w2 [calmChoice, calmChoice] = (q2, w3))
    (fourth : p3.advance dispatchMachine w3 [calmChoice, calmChoice] = (d3, w4))
    (last : q2.advance dispatchMachine w4 [calmChoice] = (d2, w5)) :
    (Pool.run dispatchMachine ⟨w0, [p0, p1, p2, p3]⟩ overtakenTurns).world = w5 := by
  have split : overtakenTurns = [calmChoice].map (fun choice => (0, choice)) ++
      ([calmChoice, calmChoice].map (fun choice => (1, choice)) ++
      ([calmChoice, calmChoice].map (fun choice => (2, choice)) ++
      ([calmChoice, calmChoice].map (fun choice => (3, choice)) ++
      ([calmChoice].map (fun choice => (2, choice)) ++ [])))) := rfl
  rw [split, Pool.run_turns rfl first, Pool.run_turns rfl second, Pool.run_turns rfl third,
    Pool.run_turns rfl fourth, Pool.run_turns rfl last]
  rfl

/-- The approval of the tool where its admission is the only one. The turns are arbitrary
so that nothing evaluates them. -/
theorem advance_approves {turns : List DispatchTurn} {approvalId : String}
    {admitted : ExtensionEntry} {rows : List ExtensionEntry}
    (entries : entriesAfter 0 turns = admitted :: rows) (tool : IsToolAdmission admitted)
    (others : ∀ row ∈ rows, row.objectType ≠ admissionType) (named : isBlank approvalId = false) :
    ∃ ended, (dispatchRequest (toolAuthorize approvalId)).run.advance dispatchMachine
      (dispatched 0 turns) [calmChoice, calmChoice] =
        (ended, (handle (dispatched 0 turns) ⟨toolAuthorize approvalId, calm⟩).2) :=
  advance_authorizes rfl (toolApproval_valid named) (tool_findAdmission entries tool others)

/-- The permit of the tool is filed after its revocation, whatever the turns were. -/
theorem permit_filed {turns : List DispatchTurn} {admitted approved revoked : ExtensionEntry}
    (before : entriesAfter 0 turns = [admitted, approved, revoked])
    (tool : IsToolAdmission admitted) (approval : IsToolApproval "approval-1" approved)
    (revocation : IsToolRevocation "approval-1" revoked) (now : Int) :
    ∃ ended w, ∃ permit : ExtensionEntry, permit.objectType = permitType ∧
      permit.workloadId = extensionWorkload "file-tool" ∧
      (DispatchM.conclude (permitEntry (toolExecution "approval-1") "admin" "key-1" now)).run.advance
        dispatchMachine (dispatched 0 turns) [calmChoice] = (ended, w) ∧
      w.journal.entries = [admitted, approved] ++ [revoked] ++ [permit] := by
  unfold entriesAfter at before
  have unused : extensionKey "file-tool" toolDigest "execute" "key-1" ∉
      keysOf (dispatched 0 turns).journal.entries := by
    rw [before]
    simp only [keysOf, List.filterMap_cons, tool.key, approval.key, revocation.key,
      List.filterMap_nil]
    decide +kernel
  have keyed : (permitEntry (toolExecution "approval-1") "admin" "key-1" now).idempotencyKey =
      some (extensionKey "file-tool" toolDigest "execute" "key-1") := rfl
  have grown := (Journal.append_entries _ (dispatched 0 turns).clock keyed).trans (if_neg unused)
  rw [before] at grown
  exact ⟨_, _, _, rfl, rfl, advance_conclude _, grown⟩

/-- The journal ends with the revocation and the permit. -/
theorem overtaken_entries : ∃ admitted approved revoked permit,
    IsToolRevocation "approval-1" revoked ∧ permit.objectType = permitType ∧
      permit.workloadId = extensionWorkload "file-tool" ∧
      journaled 0 overtakenRequests overtakenTurns =
        [admitted, approved] ++ [revoked] ++ [permit] := by
  obtain ⟨sequence, now, admission⟩ := tool_admitted
  obtain ⟨admitted, approved, _, approval, entries⟩ := toolTurns_entries
  obtain ⟨admitted', approved', revoked, _, tool, approval', revocation, fresh, _, later⟩ :=
    toolTurns_revoked
  have last : entriesAfter 0 toolTurns = [admitted] ++ [approved] := entries
  obtain ⟨d0, first⟩ : ∃ ended, (dispatchRequest toolAdmit).run.advance dispatchMachine
      (dispatched 0 []) [calmChoice] = (ended, dispatched 0 [⟨toolAdmit, calm⟩]) := by
    have admits : dispatched 0 [⟨toolAdmit, calm⟩] =
        (handle (dispatched 0 []) ⟨toolAdmit, calm⟩).2 := dispatched_snoc 0 [] _
    rw [admits]
    exact advance_admits rfl toolExtension_valid
  obtain ⟨d1, second⟩ : ∃ ended, (dispatchRequest (toolAuthorize "approval-1")).run.advance
      dispatchMachine (dispatched 0 [⟨toolAdmit, calm⟩]) [calmChoice, calmChoice] =
        (ended, dispatched 0 toolTurns) := by
    have approves : toolTurns = [⟨toolAdmit, calm⟩] ++ [⟨toolAuthorize "approval-1", calm⟩] := rfl
    rw [approves, dispatched_snoc 0 [⟨toolAdmit, calm⟩] ⟨toolAuthorize "approval-1", calm⟩]
    exact advance_approves admission ⟨sequence, now, rfl⟩
      (fun row absent => absurd absent List.not_mem_nil) (by decide)
  have third : (dispatchRequest (toolExecute "approval-1")).run.advance dispatchMachine
      (dispatched 0 toolTurns) [calmChoice, calmChoice] =
        ((DispatchM.conclude (permitEntry (toolExecution "approval-1") "admin" "key-1"
          (dispatched 0 toolTurns).clock)).run, dispatched 0 toolTurns) :=
    advance_permits rfl (toolExecution_valid _) (tool_findAuthorization last approval) tool_within
  obtain ⟨d3, fourth⟩ : ∃ ended, (dispatchRequest (toolRevoke "approval-1")).run.advance
      dispatchMachine (dispatched 0 toolTurns) [calmChoice, calmChoice] =
        (ended, dispatched 0 (toolTurns ++ [⟨toolRevoke "approval-1", calm⟩])) := by
    rw [dispatched_snoc]
    exact advance_revokes rfl (toolRevocation_valid _) (tool_findReplay fresh)
      (tool_findRevocable last approval)
  obtain ⟨d2, w, permit, kind, workload, fifth, grown⟩ :=
    permit_filed later tool approval' revocation (dispatched 0 toolTurns).clock
  refine ⟨admitted', approved', revoked, permit, revocation, kind, workload, ?_⟩
  have started : dispatchPool 0 overtakenRequests = ⟨dispatched 0 [],
      [(dispatchRequest toolAdmit).run, (dispatchRequest (toolAuthorize "approval-1")).run,
        (dispatchRequest (toolExecute "approval-1")).run,
        (dispatchRequest (toolRevoke "approval-1")).run]⟩ := rfl
  rw [journaled, started, overtakenTurns_world first second third fourth fifth]
  exact grown

/-- A permit is journaled after the revocation of what it was granted for. -/
theorem permit_overtaken : ¬ PermitsStand (journaled 0 overtakenRequests overtakenTurns) := by
  obtain ⟨admitted, approved, revoked, permit, revocation, kind, workload, entries⟩ :=
    overtaken_entries
  rw [entries, permitsStand_snoc]
  rintro ⟨_, stands⟩
  apply stands kind
  rw [workload]
  apply (Separators.lately_snoc _ _ _ _).mpr
  obtain ⟨sequence, now, rfl⟩ := revocation
  exact .inl ⟨rfl, rfl⟩

end NousKernel
