import NousKernel.Extension
import NousKernel.Stepwise

/-!
Extension requests handled one at a time. Every entry of the journal was filed by a
request against the journal of its time, under a key that was unused.
-/

set_option autoImplicit false

namespace NousKernel

open Resumption

/-! ### One request -/

/-- The entry that a request appends where it has read these entries of its extension. -/
inductive Files (request : NkiRequest) (entries : List ExtensionEntry) : ExtensionEntry → Prop
  | admission (extension : ExtensionAdmissionRequest)
      (asked : request.method = .admitExtension (.ok extension))
      (valid : extension.validate = .ok ()) :
      Files request entries
        (admissionEntry extension request.principalId request.idempotencyKey)
  | authorization (authorization : ExtensionAuthorizationRequest)
      (prior : ExtensionAdmissionDecision)
      (asked : request.method = .authorizeExtension (.ok authorization))
      (valid : authorization.validate = .ok ())
      (found : findAdmission authorization entries = some prior) :
      Files request entries (authorizationEntry authorization prior request.principalId)
  | permit (execution : ExtensionExecutionRequest) (authorization : ExtensionAdmissionDecision)
      (now : Int) (asked : request.method = .authorizeExtensionExecution (.ok execution))
      (valid : execution.validate = .ok ())
      (found : findAuthorization execution entries = some authorization)
      (within : withinAuthorization execution authorization = true) :
      Files request entries
        (permitEntry execution request.principalId request.idempotencyKey now)
  | revocation (revocation : ExtensionRevocationRequest) (prior : ExtensionAdmissionDecision)
      (asked : request.method = .revokeExtension (.ok revocation))
      (valid : revocation.validate = .ok ())
      (new : findReplay revocation request.idempotencyKey entries = none)
      (found : findRevocable revocation entries = some prior) :
      Files request entries
        (revocationEntry revocation prior request.principalId request.idempotencyKey)

/-- A request, and what happens at each of its calls. -/
structure DispatchTurn where
  request : NkiRequest
  pick : DispatchCall → DispatchWorld → DispatchChoice

/-- The result of a request that is handled alone, and the world after it. -/
def handle (w : DispatchWorld) (turn : DispatchTurn) :
    Except NousError NkiOutcome × DispatchWorld :=
  (dispatchRequest turn.request).run.runWith dispatchMachine turn.pick w

/-- What a request does when nothing comes between its read and its append. -/
inductive Handled (journal : Journal ExtensionPayload) (request : NkiRequest) :
    Except NousError NkiOutcome → Journal ExtensionPayload → Prop
  | refused (result : Except NousError NkiOutcome)
      (fails : ∀ payload, result ≠ .ok (.success payload)) : Handled journal request result journal
  | replayed (revocation : ExtensionRevocationRequest) (entry : ExtensionEntry)
      (decision : ExtensionAdmissionDecision)
      (asked : request.method = .revokeExtension (.ok revocation))
      (found : findReplay revocation request.idempotencyKey
        (journal.readWorkload (extensionWorkload revocation.extensionId)) = some entry) :
      Handled journal request (.ok (.success (.decision decision))) journal
  | filed (entry : ExtensionEntry) (now : Int)
      (files : Files request (journal.readWorkload entry.workloadId) entry) :
      Handled journal request (.ok (.success entry.payload)) (journal.append entry now).2

section Runs

variable {pick : DispatchCall → DispatchWorld → DispatchChoice} {w : DispatchWorld}
  {journal : Journal ExtensionPayload} {request : NkiRequest}

/-- A program that is started in a world with the given journal does what a request may
do. -/
def Does (pick : DispatchCall → DispatchWorld → DispatchChoice)
    (journal : Journal ExtensionPayload) (request : NkiRequest) (p : DispatchM NkiOutcome) : Prop :=
  ∀ w : DispatchWorld, w.journal = journal →
    Handled journal request (p.run.runWith dispatchMachine pick w).1
      (p.run.runWith dispatchMachine pick w).2.journal

theorem does_error (code message : String) (retryable : Bool) :
    Does pick journal request (return nkiError code message retryable) := by
  rintro w rfl
  exact .refused _ fun payload same => by cases same

theorem does_read {workloadId : String} {next : List ExtensionEntry → DispatchM NkiOutcome}
    (onward : Does pick journal request (next (journal.readWorkload workloadId))) :
    Does pick journal request (DispatchM.readWorkload workloadId >>= next) := by
  rintro w rfl
  simp only [DispatchM.readWorkload, ExceptT.run_bind, ExceptT.run_mk, Prog.perform_bind,
    Prog.runWith_call, dispatchMachine]
  cases (pick (.readWorkload workloadId) w).storage with
  | some error => exact .refused _ fun payload same => by cases same
  | none => exact onward _ rfl

theorem does_utcNow {next : Int → DispatchM NkiOutcome}
    (onward : ∀ now, Does pick journal request (next now)) :
    Does pick journal request (DispatchM.utcNow >>= next) := by
  rintro w rfl
  exact onward _ _ rfl

theorem does_conclude {entry : ExtensionEntry}
    (files : Files request (journal.readWorkload entry.workloadId) entry) :
    Does pick journal request (DispatchM.conclude entry) := by
  rintro w rfl
  simp only [DispatchM.conclude, ExceptT.run_bind, ExceptT.run_mk, Prog.perform_bind,
    Prog.runWith_call, dispatchMachine, Journal.offer]
  cases (pick (.append entry) w).storage with
  | some error => exact .refused _ fun payload same => by cases same
  | none => exact .filed entry _ files

theorem does_dispatchRequest : Does pick journal request (dispatchRequest request) := by
  unfold dispatchRequest
  split
  · rename_i extension asked
    unfold admitExtension
    split
    · rename_i valid
      exact does_conclude (.admission extension asked valid)
    · exact does_error _ _ _
  · exact does_error _ _ _
  · rename_i authorization asked
    unfold authorizeExtension
    split
    · rename_i valid
      apply does_read
      split
      · rename_i prior found
        exact does_conclude (.authorization authorization prior asked valid found)
      · exact does_error _ _ _
    · exact does_error _ _ _
  · exact does_error _ _ _
  · rename_i execution asked
    unfold authorizeExtensionExecution
    split
    · rename_i valid
      apply does_read
      split
      · rename_i authorization found
        split
        · rename_i within
          apply does_utcNow
          intro now
          exact does_conclude (.permit execution authorization now asked valid found within)
        · exact does_error _ _ _
      · exact does_error _ _ _
    · exact does_error _ _ _
  · exact does_error _ _ _
  · rename_i revocation asked
    unfold revokeExtension
    split
    · rename_i valid
      apply does_read
      split
      · rename_i entry found
        split
        · rename_i decision _
          rintro w rfl
          exact .replayed revocation entry decision asked found
        · exact does_error _ _ _
      · rename_i new
        split
        · rename_i prior found
          exact does_conclude (.revocation revocation prior asked valid new found)
        · exact does_error _ _ _
    · exact does_error _ _ _
  · exact does_error _ _ _

end Runs

/-- What handling a request does to the journal. -/
theorem handled (w : DispatchWorld) (turn : DispatchTurn) :
    Handled w.journal turn.request (handle w turn).1 (handle w turn).2.journal :=
  does_dispatchRequest w rfl

/-- No time passes, and the store works. -/
def calm (_ : DispatchCall) (_ : DispatchWorld) : DispatchChoice := ⟨0, none⟩

section Calm

variable {w : DispatchWorld} {request : NkiRequest}

theorem calm_conclude (entry : ExtensionEntry) :
    (DispatchM.conclude entry).run.runWith dispatchMachine calm w =
      (.ok (.success entry.payload), ⟨(w.journal.append entry w.clock).2, w.clock⟩) := by
  have still : w.clock + ((0 : Nat) : Int) = w.clock := Int.add_zero _
  show (_, DispatchWorld.mk (w.journal.append entry (w.clock + ((0 : Nat) : Int))).2
    (w.clock + ((0 : Nat) : Int))) = _
  rw [still]

theorem calm_read (workloadId : String) (next : List ExtensionEntry → DispatchM NkiOutcome) :
    (DispatchM.readWorkload workloadId >>= next).run.runWith dispatchMachine calm w =
      (next (w.journal.readWorkload workloadId)).run.runWith dispatchMachine calm w := by
  have still : w.clock + ((0 : Nat) : Int) = w.clock := Int.add_zero _
  show (next (w.journal.readWorkload workloadId)).run.runWith dispatchMachine calm
    { w with clock := w.clock + ((0 : Nat) : Int) } = _
  rw [still]

theorem calm_utcNow (next : Int → DispatchM NkiOutcome) :
    (DispatchM.utcNow >>= next).run.runWith dispatchMachine calm w =
      (next w.clock).run.runWith dispatchMachine calm w := by
  have still : w.clock + ((0 : Nat) : Int) = w.clock := Int.add_zero _
  show (next (w.clock + ((0 : Nat) : Int))).run.runWith dispatchMachine calm
    { w with clock := w.clock + ((0 : Nat) : Int) } = _
  rw [still]

/-- What a request that is handled calmly answers and files. -/
theorem handle_admits {extension : ExtensionAdmissionRequest}
    (asked : request.method = .admitExtension (.ok extension))
    (valid : extension.validate = .ok ()) :
    handle w ⟨request, calm⟩ =
      (.ok (.success (.decision (admissionDecision extension request.principalId))),
        ⟨(w.journal.append (admissionEntry extension request.principalId request.idempotencyKey)
          w.clock).2, w.clock⟩) := by
  simp only [handle, dispatchRequest, asked, admitExtension, valid]
  exact calm_conclude _

theorem handle_authorizes {authorization : ExtensionAuthorizationRequest}
    {prior : ExtensionAdmissionDecision}
    (asked : request.method = .authorizeExtension (.ok authorization))
    (valid : authorization.validate = .ok ())
    (found : findAdmission authorization (w.journal.readWorkload
      (extensionWorkload authorization.admission.extensionId)) = some prior) :
    handle w ⟨request, calm⟩ =
      (.ok (.success (.decision (authorizationDecision authorization prior))),
        ⟨(w.journal.append (authorizationEntry authorization prior request.principalId) w.clock).2,
          w.clock⟩) := by
  simp only [handle, dispatchRequest, asked, authorizeExtension, valid, calm_read, found]
  exact calm_conclude _

theorem handle_permits {execution : ExtensionExecutionRequest}
    {authorization : ExtensionAdmissionDecision}
    (asked : request.method = .authorizeExtensionExecution (.ok execution))
    (valid : execution.validate = .ok ())
    (found : findAuthorization execution (w.journal.readWorkload
      (extensionWorkload execution.extensionId)) = some authorization)
    (within : withinAuthorization execution authorization = true) :
    handle w ⟨request, calm⟩ =
      (.ok (.success (.permit (executionPermit execution request.principalId
          request.idempotencyKey w.clock))),
        ⟨(w.journal.append (permitEntry execution request.principalId request.idempotencyKey
          w.clock) w.clock).2, w.clock⟩) := by
  simp only [handle, dispatchRequest, asked, authorizeExtensionExecution, valid, calm_read, found,
    within, if_true, calm_utcNow]
  exact calm_conclude _

theorem handle_revokes {revocation : ExtensionRevocationRequest}
    {prior : ExtensionAdmissionDecision}
    (asked : request.method = .revokeExtension (.ok revocation))
    (valid : revocation.validate = .ok ())
    (new : findReplay revocation request.idempotencyKey (w.journal.readWorkload
      (extensionWorkload revocation.extensionId)) = none)
    (found : findRevocable revocation (w.journal.readWorkload
      (extensionWorkload revocation.extensionId)) = some prior) :
    handle w ⟨request, calm⟩ =
      (.ok (.success (.decision (revocationDecision revocation prior request.principalId))),
        ⟨(w.journal.append (revocationEntry revocation prior request.principalId
          request.idempotencyKey) w.clock).2, w.clock⟩) := by
  simp only [handle, dispatchRequest, asked, revokeExtension, valid, calm_read, new, found]
  exact calm_conclude _

theorem handle_replays {revocation : ExtensionRevocationRequest} {entry : ExtensionEntry}
    {decision : ExtensionAdmissionDecision}
    (asked : request.method = .revokeExtension (.ok revocation))
    (valid : revocation.validate = .ok ())
    (found : findReplay revocation request.idempotencyKey (w.journal.readWorkload
      (extensionWorkload revocation.extensionId)) = some entry)
    (payload : entry.payload = .decision decision) :
    handle w ⟨request, calm⟩ = (.ok (.success (.decision decision)), w) := by
  simp only [handle, dispatchRequest, asked, revokeExtension, valid, calm_read, found, payload,
    ExtensionPayload.asDecision]
  rfl

end Calm

/-! ### Where the entries come from -/

/-- The key that the decision of a request has in the journal. -/
def NkiRequest.journalKey (request : NkiRequest) : Option String :=
  match request.method with
  | .admitExtension (.ok extension) => some
      (extensionKey extension.extensionId extension.contentDigest "admit" request.idempotencyKey)
  | .authorizeExtension (.ok authorization) => some
      (extensionKey authorization.admission.extensionId authorization.admission.contentDigest
        "authorize" authorization.approvalId)
  | .authorizeExtensionExecution (.ok execution) => some
      (extensionKey execution.extensionId execution.contentDigest "execute" request.idempotencyKey)
  | .revokeExtension (.ok revocation) => some (revocationKey revocation request.idempotencyKey)
  | _ => none

theorem Files.key {request : NkiRequest} {entries : List ExtensionEntry} {entry : ExtensionEntry}
    (files : Files request entries entry) :
    ∃ key, entry.idempotencyKey = some key ∧ request.journalKey = some key := by
  cases files with
  | admission _ asked _ | authorization _ _ asked _ _ | permit _ _ _ asked _ _ _
  | revocation _ _ asked _ _ _ =>
      exact ⟨_, rfl, by simp [NkiRequest.journalKey, asked]⟩

/-- The world after some requests, from an empty journal. -/
def dispatched (clock : Int) (turns : List DispatchTurn) : DispatchWorld :=
  Stepwise.run (fun w turn => (handle w turn).2) ⟨.empty, clock⟩ turns

def entriesAfter (clock : Int) (turns : List DispatchTurn) : List ExtensionEntry :=
  (dispatched clock turns).journal.entries

/-- The entries of an extension. -/
def extensionEntries (clock : Int) (turns : List DispatchTurn) (extensionId : String) :
    List ExtensionEntry :=
  (dispatched clock turns).journal.readWorkload (extensionWorkload extensionId)

/-- The journal key of a request is unused. -/
def Unused (clock : Int) (turns : List DispatchTurn) (request : NkiRequest) : Prop :=
  ∀ key, request.journalKey = some key → key ∉ keysOf (entriesAfter clock turns)

/-- A request among the turns filed the entry, under an unused key. -/
structure FiledBy (clock : Int) (turns front : List DispatchTurn) (turn : DispatchTurn)
    (bare entry : ExtensionEntry) : Prop where
  before : front ++ [turn] <+: turns
  files : Files turn.request ((dispatched clock front).journal.readWorkload bare.workloadId) bare
  unused : Unused clock front turn.request
  succeeded : (handle (dispatched clock front) turn).1 = .ok (.success bare.payload)
  stored : ∃ sequence now, entry = Journal.stamp sequence now bare

section Turns

variable {clock : Int} {turns front : List DispatchTurn} {turn : DispatchTurn}
  {bare entry : ExtensionEntry}

theorem dispatched_snoc (clock : Int) (turns : List DispatchTurn) (turn : DispatchTurn) :
    dispatched clock (turns ++ [turn]) = (handle (dispatched clock turns) turn).2 :=
  Stepwise.run_concat turns turn

/-- One request leaves the journal as it is, or files one entry under an unused key. -/
theorem turn_cases (clock : Int) (turns : List DispatchTurn) (turn : DispatchTurn) :
    entriesAfter clock (turns ++ [turn]) = entriesAfter clock turns ∨
    ∃ bare entry, FiledBy clock (turns ++ [turn]) turns turn bare entry ∧
      entriesAfter clock (turns ++ [turn]) = entriesAfter clock turns ++ [entry] := by
  have effect := handled (dispatched clock turns) turn
  unfold entriesAfter
  rw [dispatched_snoc]
  generalize result : (handle (dispatched clock turns) turn).1 = outcome at effect
  generalize (handle (dispatched clock turns) turn).2.journal = journal at effect
  cases effect with
  | refused _ _ | replayed _ _ _ _ _ => exact .inl rfl
  | filed bare now files =>
      obtain ⟨key, keyed, own⟩ := files.key
      rw [Journal.append_entries key now keyed]
      split
      · exact .inl rfl
      · rename_i fresh
        refine .inr ⟨bare, _, ⟨List.prefix_refl _, files, ?_, result, _, _, rfl⟩, rfl⟩
        intro other same
        rw [own, Option.some.injEq] at same
        exact same ▸ fresh

/-- An entry under an unused key is filed. -/
theorem entriesAfter_filed {now clock' : Int} {key : String}
    (world : (handle (dispatched clock turns) turn).2 =
      ⟨((dispatched clock turns).journal.append bare now).2, clock'⟩)
    (keyed : bare.idempotencyKey = some key) (fresh : key ∉ keysOf (entriesAfter clock turns)) :
    ∃ sequence, entriesAfter clock (turns ++ [turn]) =
      entriesAfter clock turns ++ [Journal.stamp sequence now bare] := by
  refine ⟨(dispatched clock turns).journal.nextSequence, ?_⟩
  rw [entriesAfter, dispatched_snoc, world]
  exact (Journal.append_entries key now keyed).trans (if_neg fresh)

/-- An entry under a used key is absorbed. -/
theorem entriesAfter_absorbed {now clock' : Int} {key : String}
    (world : (handle (dispatched clock turns) turn).2 =
      ⟨((dispatched clock turns).journal.append bare now).2, clock'⟩)
    (keyed : bare.idempotencyKey = some key) (used : key ∈ keysOf (entriesAfter clock turns)) :
    entriesAfter clock (turns ++ [turn]) = entriesAfter clock turns := by
  rw [entriesAfter, dispatched_snoc, world]
  exact (Journal.append_entries key now keyed).trans (if_pos used)

theorem entriesAfter_mono (clock : Int) {front turns : List DispatchTurn} (before : front <+: turns) :
    entriesAfter clock front <+: entriesAfter clock turns := by
  induction turns using List.reverseRecOn with
  | nil =>
      rw [List.prefix_nil.mp before]
  | append_singleton turns turn ih =>
      rcases List.prefix_concat_iff.mp before with same | shorter
      · rw [same]
      · rcases turn_cases clock turns turn with same | ⟨_, entry, _, grown⟩
        · rw [same]
          exact ih shorter
        · rw [grown]
          exact (ih shorter).trans (List.prefix_append _ _)

theorem FiledBy.later (filed : FiledBy clock front turns turn bare entry) {more : List DispatchTurn}
    (before : front <+: more) : FiledBy clock more turns turn bare entry :=
  { filed with before := filed.before.trans before }

/-- Every entry was filed by a request. -/
theorem filedBy (clock : Int) (turns : List DispatchTurn) {entry : ExtensionEntry}
    (member : entry ∈ entriesAfter clock turns) :
    ∃ front turn bare, FiledBy clock turns front turn bare entry := by
  induction turns using List.reverseRecOn with
  | nil => cases member
  | append_singleton turns turn ih =>
      have onward : entry ∈ entriesAfter clock turns →
          ∃ front other bare, FiledBy clock (turns ++ [turn]) front other bare entry := by
        intro old
        obtain ⟨front, other, bare, filed⟩ := ih old
        exact ⟨front, other, bare, filed.later (List.prefix_append _ _)⟩
      rcases turn_cases clock turns turn with same | ⟨bare, new, filed, grown⟩
      · exact onward (same ▸ member)
      · rw [grown, List.mem_append, List.mem_singleton] at member
        rcases member with old | rfl
        · exact onward old
        · exact ⟨turns, turn, bare, filed⟩

theorem FiledBy.objectType (filed : FiledBy clock turns front turn bare entry) :
    entry.objectType = bare.objectType := by
  obtain ⟨sequence, now, rfl⟩ := filed.stored
  rfl

/-- Who filed an admission. -/
theorem FiledBy.admission (filed : FiledBy clock turns front turn bare entry)
    (kind : entry.objectType = admissionType) :
    ∃ extension, turn.request.method = .admitExtension (.ok extension) ∧
      bare = admissionEntry extension turn.request.principalId turn.request.idempotencyKey := by
  rw [filed.objectType] at kind
  cases filed.files with
  | admission extension asked _ => exact ⟨extension, asked, rfl⟩
  | authorization => exact absurd kind (show authorizationType ≠ admissionType by decide)
  | permit => exact absurd kind (show permitType ≠ admissionType by decide)
  | revocation => exact absurd kind (show revocationType ≠ admissionType by decide)

/-- Who filed an authorization, and what it found. -/
theorem FiledBy.authorization (filed : FiledBy clock turns front turn bare entry)
    (kind : entry.objectType = authorizationType) :
    ∃ authorization prior, turn.request.method = .authorizeExtension (.ok authorization) ∧
      authorization.validate = .ok () ∧
      findAdmission authorization (extensionEntries clock front authorization.admission.extensionId) =
        some prior ∧
      bare = authorizationEntry authorization prior turn.request.principalId := by
  rw [filed.objectType] at kind
  cases filed.files with
  | authorization authorization prior asked valid found =>
      exact ⟨authorization, prior, asked, valid, found, rfl⟩
  | admission => exact absurd kind (show admissionType ≠ authorizationType by decide)
  | permit => exact absurd kind (show permitType ≠ authorizationType by decide)
  | revocation => exact absurd kind (show revocationType ≠ authorizationType by decide)

end Turns

/-! ### Collision-free digests -/

/-- Materials with one short digest have one text. -/
def CollisionFree (materials : List Json) : Prop :=
  ∀ first ∈ materials, ∀ second ∈ materials,
    shortDigest first = shortDigest second → first.text = second.text

def NkiRequest.admission? (request : NkiRequest) : Option ExtensionAdmissionRequest :=
  match request.method with
  | .admitExtension (.ok extension) => some extension
  | .authorizeExtension (.ok authorization) => some authorization.admission
  | _ => none

/-- What may be hashed for an admission: an extension that is submitted, with a principal. -/
def admissionMaterials (turns : List DispatchTurn) : List Json :=
  (turns.filterMap (·.request.admission?)).flatMap fun extension =>
    turns.map fun turn => admissionMaterial extension turn.request.principalId

/-- One receipt is of one extension and one principal. -/
theorem CollisionFree.admission {turns : List DispatchTurn}
    (free : CollisionFree (admissionMaterials turns)) {one two actor other : DispatchTurn}
    {first second : ExtensionAdmissionRequest} (inOne : one ∈ turns) (inTwo : two ∈ turns)
    (inActor : actor ∈ turns) (inOther : other ∈ turns)
    (submits : one.request.admission? = some first) (submits' : two.request.admission? = some second)
    (same : admissionReceipt first actor.request.principalId =
      admissionReceipt second other.request.principalId) :
    first = second ∧ actor.request.principalId = other.request.principalId := by
  have listed : ∀ {turn who : DispatchTurn} {extension : ExtensionAdmissionRequest}, turn ∈ turns →
      who ∈ turns → turn.request.admission? = some extension →
      admissionMaterial extension who.request.principalId ∈ admissionMaterials turns := by
    intro turn who extension member whom submits
    exact List.mem_flatMap.mpr ⟨extension, List.mem_filterMap.mpr ⟨turn, member, submits⟩,
      List.mem_map.mpr ⟨who, whom, rfl⟩⟩
  have digests : shortDigest (admissionMaterial first actor.request.principalId) =
      shortDigest (admissionMaterial second other.request.principalId) :=
    String.append_right_inj _ |>.mp same
  exact admissionMaterial_inj (Json.text_injective
    (free _ (listed inOne inActor submits) _ (listed inTwo inOther submits') digests))

section Admitted

variable {clock : Int} {turns front : List DispatchTurn} {turn : DispatchTurn}
  {bare entry : ExtensionEntry}

theorem FiledBy.mem (filed : FiledBy clock turns front turn bare entry) : turn ∈ turns :=
  filed.before.subset (List.mem_append_right _ (.head _))

theorem FiledBy.front_prefix (filed : FiledBy clock turns front turn bare entry) :
    front <+: turns :=
  (List.prefix_append front [turn]).trans filed.before

/-- The admission that an approval finds was made for the very extension it submits. -/
theorem found_admitted (free : CollisionFree (admissionMaterials turns)) (before : front <+: turns)
    (member : turn ∈ turns) {authorization : ExtensionAuthorizationRequest}
    {prior : ExtensionAdmissionDecision}
    (asked : turn.request.method = .authorizeExtension (.ok authorization))
    (found : findAdmission authorization
      (extensionEntries clock front authorization.admission.extensionId) = some prior) :
    ∃ front' admitter admission, FiledBy clock front front' admitter
        (admissionEntry authorization.admission admitter.request.principalId
          admitter.request.idempotencyKey) admission ∧
      admission ∈ entriesAfter clock front ∧
      admitter.request.method = .admitExtension (.ok authorization.admission) ∧
      prior = admissionDecision authorization.admission admitter.request.principalId ∧
      authorization.admissionReceiptId =
        admissionReceipt authorization.admission admitter.request.principalId := by
  obtain ⟨admission, last, own, payload, _, _⟩ := findAdmission_iff.mp found
  obtain ⟨listed, fits⟩ := findLast_some last
  simp only [Bool.and_eq_true, decide_eq_true_eq] at fits
  have inside : admission ∈ entriesAfter clock front := (Journal.mem_readWorkload.mp listed).1
  obtain ⟨front', admitter, plain, filed⟩ := filedBy clock front inside
  obtain ⟨extension, admits, rfl⟩ := filed.admission fits.1.2
  obtain ⟨sequence, now, rfl⟩ := filed.stored
  have submitted : turn.request.admission? = some authorization.admission := by
    simp [NkiRequest.admission?, asked]
  have submitted' : admitter.request.admission? = some extension := by
    simp [NkiRequest.admission?, admits]
  have early : admitter ∈ turns := before.subset filed.mem
  have same := (free.admission early member early early submitted' submitted own).1
  subst same
  refine ⟨front', admitter, _, filed, inside, admits, ?_, ?_⟩
  · exact (ExtensionPayload.decision.inj payload).symm
  · exact fits.2.symm

end Admitted

end NousKernel
