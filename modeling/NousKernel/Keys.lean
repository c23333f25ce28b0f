import NousKernel.History
import NousKernel.Separators

/-!
The idempotency keys of the runtime. A key joins the operation id and the parts of
one event with colons, and nothing keeps a colon out of an operation id. Two events
share a key exactly when one operation id spells the beginning of an event of the
other.
-/

set_option autoImplicit false

namespace NousKernel

/-! ### Events and their keys -/

inductive ProfileOutcome where
  | failed
  | completed
  deriving DecidableEq, Repr

inductive CandidatePhase where
  | evaluating
  | unavailable
  | incompatible
  | executionFailed
  deriving DecidableEq, Repr

inductive WorkloadPhase where
  | completed
  | cancelled
  | failed
  deriving DecidableEq, Repr

def ProfileOutcome.text : ProfileOutcome → String
  | .failed => "FAILED"
  | .completed => "COMPLETED"

def CandidatePhase.text : CandidatePhase → String
  | .evaluating => "EVALUATING"
  | .unavailable => "UNAVAILABLE"
  | .incompatible => "INCOMPATIBLE"
  | .executionFailed => "EXECUTION_FAILED"

def WorkloadPhase.text : WorkloadPhase → String
  | .completed => "COMPLETED"
  | .cancelled => "CANCELLED"
  | .failed => "FAILED"

/-- What an append of the runtime is about, with the qualifiers of its key. -/
inductive EventKind where
  | schedule
  | leaseGrant (leaseId : String)
  | intent
  | receipt
  | commit
  | profile (provider : String) (outcome : ProfileOutcome)
  | abort (providerRevision : String)
  | failure
  | workload (phase : WorkloadPhase)
  | leaseRelease (leaseId : String)
  | rebind (providerRevision : String)
  | providerRebind (providerRevision : String)
  | candidate (provider : String) (phase : CandidatePhase)
  | cancellationRequested
  | leaseRecoveryRevoke (leaseId : String)
  deriving DecidableEq, Repr

structure KeyedEvent where
  operationId : String
  kind : EventKind
  deriving DecidableEq, Repr

/-- The key of the append. -/
def KeyedEvent.key (event : KeyedEvent) : String :=
  match event.kind with
  | .schedule => scheduleKey event.operationId
  | .leaseGrant leaseId => grantKey event.operationId leaseId
  | .intent => intentKey event.operationId
  | .receipt => receiptKey event.operationId
  | .commit => commitKey event.operationId
  | .profile provider outcome => profileKey event.operationId provider outcome.text
  | .abort providerRevision => abortKey event.operationId providerRevision
  | .failure => failureKey event.operationId
  | .workload phase => workloadKey event.operationId phase.text
  | .leaseRelease leaseId => releaseKey event.operationId leaseId
  | .rebind providerRevision => rebindKey event.operationId providerRevision
  | .providerRebind providerRevision => providerRebindKey event.operationId providerRevision
  | .candidate provider phase => candidateKey event.operationId provider phase.text
  | .cancellationRequested => cancellationKey event.operationId
  | .leaseRecoveryRevoke leaseId => revokeKey event.operationId leaseId

/-- Every row the runtime writes carries the key of an event of its operation. -/
theorem Written.event {Input : OperationRequest → Prop} {entry : Entry}
    (written : Written Input entry) :
    ∃ r kind, Input r ∧ entry.idempotencyKey = some (KeyedEvent.key ⟨r.operationId, kind⟩) := by
  cases written with
  | schedule r trace known => exact ⟨r, .schedule, known, rfl⟩
  | active r fenced known hyphenated =>
      exact ⟨r, .leaseGrant fenced.lease.leaseId, known, rfl⟩
  | intent r known => exact ⟨r, .intent, known, rfl⟩
  | receipt r receipt known => exact ⟨r, .receipt, known, rfl⟩
  | commit r receipt known => exact ⟨r, .commit, known, rfl⟩
  | profile r profile known operation workload provider =>
      by_cases failed : profile.failureCode.isSome
      · refine ⟨r, .profile profile.provider .failed, known, ?_⟩
        simp [profileEntry, executionOutcome, failed, KeyedEvent.key, ProfileOutcome.text, operation]
      · refine ⟨r, .profile profile.provider .completed, known, ?_⟩
        simp [profileEntry, executionOutcome, failed, KeyedEvent.key, ProfileOutcome.text, operation]
  | abort r error known => exact ⟨r, .abort r.snapshot.providerRevision, known, rfl⟩
  | failure r error known => exact ⟨r, .failure, known, rfl⟩
  | workload r execution known =>
      rcases execution with error | receipt
      · by_cases cancelled : ∃ reason, error = .cancelled reason
        · obtain ⟨reason, rfl⟩ := cancelled
          exact ⟨r, .workload .cancelled, known, rfl⟩
        · refine ⟨r, .workload .failed, known, ?_⟩
          cases error <;> first | rfl | exact absurd ⟨_, rfl⟩ cancelled
      · exact ⟨r, .workload .completed, known, rfl⟩
  | released r leaseId known => exact ⟨r, .leaseRelease leaseId, known, rfl⟩
  | rebound r known => exact ⟨r, .rebind r.snapshot.providerRevision, known, rfl⟩
  | providerRebind r fromProvider failureCode compatibility known =>
      exact ⟨r, .providerRebind r.snapshot.providerRevision, known, rfl⟩
  | candidate r provider phase reason known listed =>
      simp only [List.mem_cons, List.not_mem_nil, or_false] at listed
      rcases listed with rfl | rfl | rfl | rfl
      · exact ⟨r, .candidate provider .evaluating, known, rfl⟩
      · exact ⟨r, .candidate provider .unavailable, known, rfl⟩
      · exact ⟨r, .candidate provider .incompatible, known, rfl⟩
      · exact ⟨r, .candidate provider .executionFailed, known, rfl⟩
  | revoked r leaseId token reason lease known =>
      exact ⟨r, .leaseRecoveryRevoke lease, known, rfl⟩

/-- The first part of the key after the operation id. -/
def EventKind.word : EventKind → String
  | .schedule => "schedule"
  | .leaseGrant _ | .leaseRelease _ | .leaseRecoveryRevoke _ => "lease"
  | .intent => "intent"
  | .receipt => "receipt"
  | .commit => "commit"
  | .profile _ _ => "profile"
  | .abort _ => "abort"
  | .failure => "failure"
  | .workload _ => "workload"
  | .rebind _ => "rebind"
  | .providerRebind _ => "provider-rebind"
  | .candidate _ _ => "candidate"
  | .cancellationRequested => "cancellation-requested"

/-- What stands behind the first part. -/
def EventKind.qualifier : EventKind → Option String
  | .leaseGrant leaseId => some (leaseId ++ ":" ++ "grant")
  | .leaseRelease leaseId => some (leaseId ++ ":" ++ "release")
  | .leaseRecoveryRevoke leaseId => some (leaseId ++ ":" ++ "recovery-revoke")
  | .profile provider outcome => some (provider ++ ":" ++ outcome.text)
  | .abort providerRevision | .rebind providerRevision | .providerRebind providerRevision =>
      some providerRevision
  | .workload phase => some phase.text
  | .candidate provider phase => some (provider ++ ":" ++ phase.text)
  | _ => none

/-- The key after the operation id. -/
def EventKind.suffix (kind : EventKind) : String :=
  match kind.qualifier with
  | none => kind.word
  | some rest => kind.word ++ ":" ++ rest

theorem colon_words :
    "lease:" = "lease" ++ ":" ∧ "profile:" = "profile" ++ ":" ∧ "abort:" = "abort" ++ ":" ∧
      "workload:" = "workload" ++ ":" ∧ "rebind:" = "rebind" ++ ":" ∧
      "provider-rebind:" = "provider-rebind" ++ ":" ∧ "candidate:" = "candidate" ++ ":" ∧
      ":grant" = ":" ++ "grant" ∧ ":release" = ":" ++ "release" ∧
      ":recovery-revoke" = ":" ++ "recovery-revoke" := by
  decide +kernel

theorem key_eq (event : KeyedEvent) :
    event.key = operationKey event.operationId event.kind.suffix := by
  obtain ⟨lease, profile, abort, workload, rebind, providerRebind, candidate, grant, release,
    revoke⟩ := colon_words
  obtain ⟨operationId, kind⟩ := event
  cases kind with
  | schedule | intent | receipt | commit | failure | cancellationRequested => rfl
  | leaseGrant leaseId =>
      show operationKey _ ("lease:" ++ leaseId ++ ":grant") =
        operationKey _ ("lease" ++ ":" ++ (leaseId ++ ":" ++ "grant"))
      rw [lease, grant]
      simp only [String.append_assoc]
  | leaseRelease leaseId =>
      show operationKey _ ("lease:" ++ leaseId ++ ":release") =
        operationKey _ ("lease" ++ ":" ++ (leaseId ++ ":" ++ "release"))
      rw [lease, release]
      simp only [String.append_assoc]
  | leaseRecoveryRevoke leaseId =>
      show operationKey _ ("lease:" ++ leaseId ++ ":recovery-revoke") =
        operationKey _ ("lease" ++ ":" ++ (leaseId ++ ":" ++ "recovery-revoke"))
      rw [lease, revoke]
      simp only [String.append_assoc]
  | profile provider outcome =>
      show operationKey _ ("profile:" ++ provider ++ ":" ++ outcome.text) =
        operationKey _ ("profile" ++ ":" ++ (provider ++ ":" ++ outcome.text))
      rw [profile]
      simp only [String.append_assoc]
  | candidate provider phase =>
      show operationKey _ ("candidate:" ++ provider ++ ":" ++ phase.text) =
        operationKey _ ("candidate" ++ ":" ++ (provider ++ ":" ++ phase.text))
      rw [candidate]
      simp only [String.append_assoc]
  | abort providerRevision =>
      show operationKey _ ("abort:" ++ providerRevision) = _
      rw [abort]
      rfl
  | rebind providerRevision =>
      show operationKey _ ("rebind:" ++ providerRevision) = _
      rw [rebind]
      rfl
  | providerRebind providerRevision =>
      show operationKey _ ("provider-rebind:" ++ providerRevision) = _
      rw [providerRebind]
      rfl
  | workload phase =>
      show operationKey _ ("workload:" ++ phase.text) = _
      rw [workload]
      rfl

/-! ### One operation -/

theorem toList_colon (first rest : String) :
    (first ++ ":" ++ rest).toList = first.toList ++ ':' :: rest.toList := by
  rw [String.toList_append, String.toList_append, List.append_assoc]
  rfl

theorem colon_inj {first second rest rest' : String} (plain : ':' ∉ first.toList)
    (plain' : ':' ∉ second.toList) (same : first ++ ":" ++ rest = second ++ ":" ++ rest') :
    first = second ∧ rest = rest' := by
  have lists := congrArg String.toList same
  rw [toList_colon, toList_colon] at lists
  obtain ⟨firsts, rests⟩ := Separators.split_first plain plain' lists
  exact ⟨String.toList_inj.mp firsts, String.toList_inj.mp rests⟩

theorem colon_inj_last {first second rest rest' : String} (plain : ':' ∉ rest.toList)
    (plain' : ':' ∉ rest'.toList) (same : first ++ ":" ++ rest = second ++ ":" ++ rest') :
    first = second ∧ rest = rest' := by
  have lists := congrArg String.toList same
  rw [toList_colon, toList_colon] at lists
  obtain ⟨firsts, rests⟩ := Separators.split_last plain plain' lists
  exact ⟨String.toList_inj.mp firsts, String.toList_inj.mp rests⟩

theorem word_plain (kind : EventKind) : ':' ∉ kind.word.toList := by
  have words : ∀ word ∈ ["schedule", "lease", "intent", "receipt", "commit", "profile", "abort",
      "failure", "workload", "rebind", "provider-rebind", "candidate", "cancellation-requested"],
      ':' ∉ word.toList := by
    decide +kernel
  apply words
  cases kind <;> simp [EventKind.word]

theorem suffix_inj_parts {first second : EventKind} (same : first.suffix = second.suffix) :
    first.word = second.word ∧ first.qualifier = second.qualifier := by
  have plain := word_plain first
  have plain' := word_plain second
  unfold EventKind.suffix at same
  cases rest : first.qualifier with
  | none =>
      cases rest' : second.qualifier with
      | none =>
          rw [rest, rest'] at same
          exact ⟨same, rfl⟩
      | some text' =>
          rw [rest, rest'] at same
          change first.word = second.word ++ ":" ++ text' at same
          rw [same, toList_colon] at plain
          simp at plain
  | some text =>
      cases rest' : second.qualifier with
      | none =>
          rw [rest, rest'] at same
          change first.word ++ ":" ++ text = second.word at same
          rw [← same, toList_colon] at plain'
          simp at plain'
      | some text' =>
          rw [rest, rest'] at same
          obtain ⟨words, texts⟩ := colon_inj plain plain' same
          exact ⟨words, congrArg some texts⟩

theorem ends_plain :
    (∀ outcome : ProfileOutcome, ':' ∉ outcome.text.toList) ∧
    (∀ phase : CandidatePhase, ':' ∉ phase.text.toList) ∧
    (∀ phase : WorkloadPhase, ':' ∉ phase.text.toList) ∧
    ∀ part ∈ ["grant", "release", "recovery-revoke"], ':' ∉ part.toList := by
  refine ⟨?_, ?_, ?_, by decide +kernel⟩
  · intro outcome
    cases outcome <;> decide +kernel
  · intro phase
    cases phase <;> decide +kernel
  · intro phase
    cases phase <;> decide +kernel

theorem ProfileOutcome.text_inj {first second : ProfileOutcome}
    (same : first.text = second.text) : first = second := by
  cases first <;> cases second <;> simp [ProfileOutcome.text] at same ⊢

theorem CandidatePhase.text_inj {first second : CandidatePhase}
    (same : first.text = second.text) : first = second := by
  cases first <;> cases second <;> simp [CandidatePhase.text] at same ⊢

theorem WorkloadPhase.text_inj {first second : WorkloadPhase}
    (same : first.text = second.text) : first = second := by
  cases first <;> cases second <;> simp [WorkloadPhase.text] at same ⊢

/-- Lease qualifiers are told apart from their ends. -/
theorem lease_inj {first second part part' : String}
    (listed : part ∈ ["grant", "release", "recovery-revoke"])
    (listed' : part' ∈ ["grant", "release", "recovery-revoke"])
    (same : some (first ++ ":" ++ part) = some (second ++ ":" ++ part')) :
    first = second ∧ part = part' :=
  colon_inj_last (ends_plain.2.2.2 part listed) (ends_plain.2.2.2 part' listed')
    (Option.some.inj same)

/-- Within one operation the key tells the event. -/
theorem suffix_injective : Function.Injective EventKind.suffix := by
  intro first second same
  obtain ⟨words, qualifiers⟩ := suffix_inj_parts same
  -- Different words leave nothing to show but for the three lease events.
  cases first <;> cases second <;>
    simp only [EventKind.word, String.reduceEq] at words
  case schedule.schedule | intent.intent | receipt.receipt | commit.commit | failure.failure |
      cancellationRequested.cancellationRequested => rfl
  case abort.abort | rebind.rebind | providerRebind.providerRebind =>
    rw [Option.some.inj qualifiers]
  case workload.workload => rw [WorkloadPhase.text_inj (Option.some.inj qualifiers)]
  case profile.profile =>
    obtain ⟨rfl, outcomes⟩ := colon_inj_last (ends_plain.1 _) (ends_plain.1 _)
      (Option.some.inj qualifiers)
    rw [ProfileOutcome.text_inj outcomes]
  case candidate.candidate =>
    obtain ⟨rfl, phases⟩ := colon_inj_last (ends_plain.2.1 _) (ends_plain.2.1 _)
      (Option.some.inj qualifiers)
    rw [CandidatePhase.text_inj phases]
  all_goals
    obtain ⟨rfl, parts⟩ := lease_inj (by simp) (by simp) qualifiers
    first
    | rfl
    | simp at parts

/-! ### Two operations -/

/-- The first parts of an event behind which a caller's text stands. -/
def openWords : List String :=
  ["abort", "rebind", "provider-rebind", "profile", "candidate", "lease"]

/-- The second id is the first, a colon and the beginning of one of its events. -/
def Spells (first second : String) : Prop :=
  ∃ word ∈ openWords, ∃ rest, second ++ ":" = first ++ ":" ++ word ++ ":" ++ rest

/-- Behind an open word every text continues to the key of another event. -/
theorem openWords_spell {word : String} (listed : word ∈ openWords) (rest : String) :
    ∃ kind other : EventKind, kind.suffix = word ++ ":" ++ (rest ++ other.suffix) := by
  simp only [openWords, List.mem_cons, List.not_mem_nil, or_false] at listed
  rcases listed with rfl | rfl | rfl | rfl | rfl | rfl
  · exact ⟨.abort (rest ++ EventKind.intent.suffix), .intent, rfl⟩
  · exact ⟨.rebind (rest ++ EventKind.intent.suffix), .intent, rfl⟩
  · exact ⟨.providerRebind (rest ++ EventKind.intent.suffix), .intent, rfl⟩
  · refine ⟨.profile (rest ++ "workload") .failed, .workload .failed, ?_⟩
    show "profile" ++ ":" ++ (rest ++ "workload" ++ ":" ++ "FAILED") =
      "profile" ++ ":" ++ (rest ++ ("workload" ++ ":" ++ "FAILED"))
    simp only [String.append_assoc]
  · refine ⟨.candidate (rest ++ "candidate" ++ ":") .evaluating, .candidate "" .evaluating, ?_⟩
    show "candidate" ++ ":" ++ (rest ++ "candidate" ++ ":" ++ ":" ++ "EVALUATING") =
      "candidate" ++ ":" ++ (rest ++ ("candidate" ++ ":" ++ ("" ++ ":" ++ "EVALUATING")))
    simp only [String.append_assoc, String.empty_append]
  · refine ⟨.leaseGrant (rest ++ "lease" ++ ":"), .leaseGrant "", ?_⟩
    show "lease" ++ ":" ++ (rest ++ "lease" ++ ":" ++ ":" ++ "grant") =
      "lease" ++ ":" ++ (rest ++ ("lease" ++ ":" ++ ("" ++ ":" ++ "grant")))
    simp only [String.append_assoc, String.empty_append]

theorem operationKey_assoc (operationId suffix : String) :
    operationKey operationId suffix = "operation:" ++ (operationId ++ ":" ++ suffix) := by
  unfold operationKey
  simp only [String.append_assoc]

theorem toList_operationKey (operationId suffix : String) :
    (operationKey operationId suffix).toList =
      "operation:".toList ++ (operationId.toList ++ ':' :: suffix.toList) := by
  rw [operationKey_assoc, String.toList_append, toList_colon]

theorem collision_of_spells {first second : String} (spells : Spells first second) :
    ∃ kind other : EventKind,
      KeyedEvent.key ⟨first, kind⟩ = KeyedEvent.key ⟨second, other⟩ ∧ first ≠ second := by
  obtain ⟨word, listed, rest, extended⟩ := spells
  obtain ⟨kind, other, spelled⟩ := openWords_spell listed rest
  refine ⟨kind, other, ?_, ?_⟩
  · rw [key_eq, key_eq, operationKey_assoc, operationKey_assoc]
    show "operation:" ++ (first ++ ":" ++ kind.suffix) = "operation:" ++ (second ++ ":" ++ other.suffix)
    rw [spelled, extended]
    simp only [String.append_assoc]
  · rintro rfl
    have longer := congrArg (fun text : String => text.toList.length) extended
    have colon : ":".toList.length = 1 := rfl
    simp only [String.toList_append, List.length_append, colon] at longer
    omega

/-- The end of a workload is no event of its own. -/
theorem workload_phase_ne_suffix (phase : WorkloadPhase) (kind : EventKind) :
    phase.text ≠ kind.suffix := by
  intro same
  have plain := ends_plain.2.2.1 phase
  unfold EventKind.suffix at same
  cases rest : kind.qualifier with
  | some text =>
      rw [rest] at same
      rw [same] at plain
      exact plain (by rw [toList_colon]; simp)
  | none =>
      rw [rest] at same
      cases kind <;> cases rest <;> cases phase <;>
        simp [WorkloadPhase.text, EventKind.word] at same

/-- The words before a caller's text are the open ones. -/
theorem word_open {kind other : EventKind} {text : String} (qualified : kind.qualifier = some text)
    (runs : text = other.suffix ∨ ∃ more, text.toList = more ++ ':' :: other.suffix.toList) :
    kind.word ∈ openWords := by
  cases kind with
  | workload phase =>
      cases qualified
      rcases runs with same | ⟨more, spelled⟩
      · exact absurd same (workload_phase_ne_suffix phase other)
      · have plain := ends_plain.2.2.1 phase
        rw [spelled] at plain
        exact absurd (by simp) plain
  | schedule | intent | receipt | commit | failure | cancellationRequested => cases qualified
  | _ => simp [EventKind.word, openWords]

/-- An operation id that runs on past another spells one of its events. -/
theorem spells_of_collision {first second : String} {kind other : EventKind} {part : List Char}
    (longer : second.toList = first.toList ++ ':' :: part)
    (runs : kind.suffix.toList = part ++ ':' :: other.suffix.toList) : Spells first second := by
  have plain := word_plain kind
  unfold EventKind.suffix at runs
  cases qualified : kind.qualifier with
  | none =>
      rw [qualified] at runs
      rw [show kind.word.toList = _ from runs] at plain
      exact absurd (by simp) plain
  | some text =>
      rw [qualified] at runs
      change (kind.word ++ ":" ++ text).toList = part ++ ':' :: other.suffix.toList at runs
      rw [toList_colon] at runs
      rcases Separators.split_any runs with ⟨rfl, texts⟩ | ⟨more, rfl, texts⟩ | ⟨more, wordy, -⟩
      · refine ⟨kind.word, word_open qualified (.inl (String.toList_inj.mp texts)), "", ?_⟩
        rw [← String.toList_inj]
        simp [longer]
      · refine ⟨kind.word, word_open qualified (.inr ⟨more, texts⟩), .ofList (more ++ [':']), ?_⟩
        rw [← String.toList_inj]
        simp [longer]
      · rw [wordy] at plain
        exact absurd (by simp) plain

/-- The keys of the runtime tell its events apart exactly when no operation id in
use spells the beginning of an event of another. -/
theorem keys_collision_free_iff (Used : String → Prop) :
    (∀ event other : KeyedEvent, Used event.operationId → Used other.operationId →
      event.key = other.key → event = other) ↔
      ∀ first second, Used first → Used second → ¬ Spells first second := by
  constructor
  · intro distinct first second usedFirst usedSecond spells
    obtain ⟨kind, other, same, differ⟩ := collision_of_spells spells
    have equal := distinct ⟨first, kind⟩ ⟨second, other⟩ usedFirst usedSecond same
    exact differ (congrArg KeyedEvent.operationId equal)
  · intro apart event other usedEvent usedOther same
    rw [key_eq, key_eq] at same
    have lists := congrArg String.toList same
    rw [toList_operationKey, toList_operationKey] at lists
    rcases Separators.split_any (List.append_cancel_left lists) with
      ⟨ids, suffixes⟩ | ⟨part, longer, runs⟩ | ⟨part, longer, runs⟩
    · obtain ⟨operationId, kind⟩ := event
      obtain ⟨operationId', kind'⟩ := other
      obtain rfl := String.toList_inj.mp ids
      obtain rfl := suffix_injective (String.toList_inj.mp suffixes)
      rfl
    · exact absurd (spells_of_collision longer runs) (apart _ _ usedEvent usedOther)
    · exact absurd (spells_of_collision longer runs) (apart _ _ usedOther usedEvent)

/-- An abort of `x` has the key of the intent of `x:abort:y`. -/
theorem keys_collide :
    KeyedEvent.key ⟨"x", .abort "y:intent"⟩ = KeyedEvent.key ⟨"x:abort:y", .intent⟩ ∧
      (⟨"x", .abort "y:intent"⟩ : KeyedEvent) ≠ ⟨"x:abort:y", .intent⟩ := by
  decide +kernel

end NousKernel
