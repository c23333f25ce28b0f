import NousKernel.Replies

/-!
Calls that are not given up: whatever the order of the steps and the pieces of the bytes,
the two parties do what atomic calls in their order do, and a call that is under way can
always be completed.
-/

set_option autoImplicit false

namespace NousKernel

open ByteStream LengthPrefixedCodec

/-- The requests one after another, each answered at once. -/
def Daemon.atomically {K : Type} (daemon : Daemon K) (desk : Desk K) :
    List NKIRequest → List (AnsweredRequest K) × Desk K
  | [] => ([], desk)
  | request :: rest =>
      match daemon.answer request desk with
      | (.error _, after) => ([], after)
      | (.ok response, after) =>
          let later := daemon.atomically after rest
          (⟨request, desk, response, after.kernel⟩ :: later.1, later.2)

/-- A request whose dispatch fails in no state and whose response always fits into a frame. -/
def Daemon.Serves {K : Type} (daemon : Daemon K) (serde : SerdeJson NKIResponse)
    (request : NKIRequest) : Prop :=
  ∀ desk, ∃ response after frame,
    daemon.answer request desk = (.ok response, after) ∧ Framed serde response frame

namespace Dialogue

variable {K : Type} {daemon : Daemon K} {serdeRequest : SerdeJson NKIRequest}
  {serdeResponse : SerdeJson NKIResponse} {dialogue : Dialogue K}

/-- What the calls of answered requests yield. -/
def outcomes (serdeResponse : SerdeJson NKIResponse) (answered : List (AnsweredRequest K)) :
    List (NKIRequest × CallResult) :=
  answered.map fun entry => (entry.request, entry.outcome serdeResponse)

/-- Where the bytes of the one call under way are. -/
inductive Aligned (daemon : Daemon K) (serdeRequest : SerdeJson NKIRequest)
    (serdeResponse : SerdeJson NKIResponse) : Dialogue K → Prop
  | idle {desk : Desk K} {answered : List (AnsweredRequest K)} :
      Aligned daemon serdeRequest serdeResponse
        ⟨.idle, outcomes serdeResponse answered, [], [], .reading [], desk, answered⟩
  | writing {request : NKIRequest} {frame got pipe left : Bytes} {desk : Desk K}
      {answered : List (AnsweredRequest K)} (framed : Framed serdeRequest request frame)
      (serves : daemon.Serves serdeResponse request)
      (bytes : got ++ (pipe ++ left) = frame) (within : Within maxFrameBytes got)
      (more : left ≠ []) :
      Aligned daemon serdeRequest serdeResponse
        ⟨.writing request left, outcomes serdeResponse answered, pipe, [], .reading got, desk, answered⟩
  | asking {request : NKIRequest} {frame got pipe : Bytes} {desk : Desk K}
      {answered : List (AnsweredRequest K)} (framed : Framed serdeRequest request frame)
      (serves : daemon.Serves serdeResponse request)
      (bytes : got ++ pipe = frame) (within : Within maxFrameBytes got) :
      Aligned daemon serdeRequest serdeResponse
        ⟨.reading request [], outcomes serdeResponse answered, pipe, [], .reading got, desk, answered⟩
  | answering {entry : AnsweredRequest K} {frame got pipe left : Bytes} {desk : Desk K}
      {answered : List (AnsweredRequest K)}
      (framed : Framed serdeResponse entry.response frame)
      (bytes : got ++ (pipe ++ left) = frame) (within : Within maxFrameBytes got)
      (more : left ≠ []) :
      Aligned daemon serdeRequest serdeResponse
        ⟨.reading entry.request got, outcomes serdeResponse answered, [], pipe, .writing left, desk,
          answered ++ [entry]⟩
  | answered {entry : AnsweredRequest K} {frame got pipe : Bytes} {desk : Desk K}
      {answered : List (AnsweredRequest K)}
      (framed : Framed serdeResponse entry.response frame)
      (bytes : got ++ pipe = frame) (within : Within maxFrameBytes got) :
      Aligned daemon serdeRequest serdeResponse
        ⟨.reading entry.request got, outcomes serdeResponse answered, [], pipe, .reading [], desk,
          answered ++ [entry]⟩

/-- Every call and its response fit into a frame, and no call is given up. -/
def Patient (daemon : Daemon K) (serdeRequest : SerdeJson NKIRequest)
    (serdeResponse : SerdeJson NKIResponse) : DialogueAction K → Prop
  | .call request =>
      (∃ frame, Framed serdeRequest request frame) ∧ daemon.Serves serdeResponse request
  | .expire => False
  | _ => True

theorem aligned_connected (desk : Desk K) :
    Aligned daemon serdeRequest serdeResponse (connected desk) :=
  @Aligned.idle K daemon serdeRequest serdeResponse desk []

theorem length_take_min (count bound : Nat) (bytes : Bytes) :
    (bytes.take (min count bound)).length ≤ bound := by
  rw [List.length_take]
  omega

/-! ### The steps -/

theorem Aligned.call (aligned : Aligned daemon serdeRequest serdeResponse dialogue)
    {request : NKIRequest} (fits : ∃ frame, Framed serdeRequest request frame)
    (serves : daemon.Serves serdeResponse request) :
    Aligned daemon serdeRequest serdeResponse (dialogue.call serdeRequest request) := by
  obtain ⟨frame, framed⟩ := fits
  cases aligned with
  | idle =>
      have some := framed.ne_nil
      obtain ⟨encoded, body, serialized, within⟩ := framed
      have inLimit : ¬maxFrameBytes < body.length := by omega
      have same := encoded
      rw [encode_ok serialized] at same
      cases same
      simp only [Dialogue.call, serialized, inLimit, if_false]
      exact .writing ⟨encoded, body, serialized, within⟩ serves (by simp) within_nil some
  | writing framed serves bytes within more => exact .writing framed serves bytes within more
  | asking framed serves bytes within => exact .asking framed serves bytes within
  | answering framed bytes within more => exact .answering framed bytes within more
  | answered framed bytes within => exact .answered framed bytes within

theorem Aligned.write (aligned : Aligned daemon serdeRequest serdeResponse dialogue) (count : Nat) :
    Aligned daemon serdeRequest serdeResponse (dialogue.write count) := by
  cases aligned with
  | idle => exact .idle
  | @writing request frame got pipe left desk answered framed serves bytes within more =>
      by_cases spent : left.drop count = []
      · have all : left.take count = left := by
          have split := List.take_append_drop count left
          rw [spent, List.append_nil] at split
          exact split
        simp only [Dialogue.write, spent, if_true, all]
        exact .asking framed serves bytes within
      · simp only [Dialogue.write, spent, if_false]
        refine .writing framed serves ?_ within spent
        rw [List.append_assoc, List.take_append_drop]
        exact bytes
  | asking framed serves bytes within => exact .asking framed serves bytes within
  | answering framed bytes within more => exact .answering framed bytes within more
  | answered framed bytes within => exact .answered framed bytes within

theorem Aligned.arrive (aligned : Aligned daemon serdeRequest serdeResponse dialogue) (count : Nat) :
    Aligned daemon serdeRequest serdeResponse (dialogue.arrive count) := by
  cases aligned with
  | idle =>
      simp only [Dialogue.arrive, List.take_nil, List.drop_nil, List.append_nil]
      exact .idle
  | @writing request frame got pipe left desk answered framed serves bytes within more =>
      refine .writing framed serves ?_ (within_append within (length_take_min _ _ _)) more
      rw [List.append_assoc, ← List.append_assoc (pipe.take _), List.take_append_drop]
      exact bytes
  | @asking request frame got pipe desk answered framed serves bytes within =>
      refine .asking framed serves ?_ (within_append within (length_take_min _ _ _))
      rw [List.append_assoc, List.take_append_drop]
      exact bytes
  | answering framed bytes within more => exact .answering framed bytes within more
  | answered framed bytes within =>
      simp only [Dialogue.arrive, List.take_nil, List.drop_nil, List.append_nil]
      exact .answered framed bytes within

theorem Aligned.serve (roundTrips : serdeRequest.RoundTrips)
    (aligned : Aligned daemon serdeRequest serdeResponse dialogue) :
    Aligned daemon serdeRequest serdeResponse
      (dialogue.serve daemon serdeRequest serdeResponse) := by
  cases aligned with
  | idle => exact .idle
  | @writing request frame got pipe left desk answered framed serves bytes within more =>
      have waits : wanted maxFrameBytes got ≠ 0 := by
        intro spent
        have whole := framed.whole within spent (bytes.trans (List.append_nil frame).symm)
        exact more (List.append_eq_nil_iff.mp whole.2).2
      simp only [Dialogue.serve, waits, if_false]
      exact .writing framed serves bytes within more
  | @asking request frame got pipe desk answered framed serves bytes within =>
      by_cases spent : wanted maxFrameBytes got = 0
      · obtain ⟨rfl, rfl⟩ := framed.whole within spent (bytes.trans (List.append_nil frame).symm)
        obtain ⟨rest, read⟩ := framed.nextRequest (roundTrips.readBack framed)
        obtain ⟨response, after, reply, answered, fits⟩ := serves desk
        simp only [Dialogue.serve, spent, if_true, read, answered, fits.1]
        have whole : ([] : Bytes) ++ ([] ++ reply) = reply := rfl
        exact @Aligned.answering K daemon serdeRequest serdeResponse
          ⟨request, desk, response, after.kernel⟩ _ _ _ _ after _ fits whole within_nil
          fits.ne_nil
      · simp only [Dialogue.serve, spent, if_false]
        exact .asking framed serves bytes within
  | answering framed bytes within more => exact .answering framed bytes within more
  | answered framed bytes within => exact .answered framed bytes within

theorem Aligned.answer (aligned : Aligned daemon serdeRequest serdeResponse dialogue) (count : Nat) :
    Aligned daemon serdeRequest serdeResponse (dialogue.answer count) := by
  cases aligned with
  | idle => exact .idle
  | writing framed serves bytes within more => exact .writing framed serves bytes within more
  | asking framed serves bytes within => exact .asking framed serves bytes within
  | @answering entry frame got pipe left desk answered framed bytes within more =>
      by_cases spent : left.drop count = []
      · have all : left.take count = left := by
          have split := List.take_append_drop count left
          rw [spent, List.append_nil] at split
          exact split
        simp only [Dialogue.answer, spent, if_true, all]
        exact .answered framed bytes within
      · simp only [Dialogue.answer, spent, if_false]
        refine .answering framed ?_ within spent
        rw [List.append_assoc pipe, List.take_append_drop]
        exact bytes
  | answered framed bytes within => exact .answered framed bytes within

theorem Aligned.receive (aligned : Aligned daemon serdeRequest serdeResponse dialogue) (count : Nat) :
    Aligned daemon serdeRequest serdeResponse (dialogue.receive count) := by
  cases aligned with
  | idle => exact .idle
  | writing framed serves bytes within more => exact .writing framed serves bytes within more
  | asking framed serves bytes within =>
      simp only [Dialogue.receive, List.take_nil, List.drop_nil, List.append_nil]
      exact .asking framed serves bytes within
  | @answering entry frame got pipe left desk answered framed bytes within more =>
      refine .answering framed ?_ (within_append within (length_take_min _ _ _)) more
      rw [List.append_assoc, ← List.append_assoc (pipe.take _), List.take_append_drop]
      exact bytes
  | @answered entry frame got pipe desk answered framed bytes within =>
      refine .answered framed ?_ (within_append within (length_take_min _ _ _))
      rw [List.append_assoc, List.take_append_drop]
      exact bytes

theorem finish_whole {entry : AnsweredRequest K}
    {got : Bytes} {desk : Desk K} {answered : List (AnsweredRequest K)}
    (framed : Framed serdeResponse entry.response got)
    (spent : wanted maxFrameBytes got = 0) :
    Dialogue.finish serdeResponse ⟨.reading entry.request got, outcomes serdeResponse answered, [], [],
        .reading [], desk, answered ++ [entry]⟩ =
      ⟨.idle, outcomes serdeResponse (answered ++ [entry]), [], [], .reading [], desk,
        answered ++ [entry]⟩ := by
  obtain ⟨rest, read⟩ := framed.readResponse
  simp only [Dialogue.finish, spent, if_true, read, Dialogue.conclude, outcomes, List.map_append,
    List.map_cons, List.map_nil, AnsweredRequest.outcome]
  cases serdeResponse.readBack entry.response <;> rfl

theorem Aligned.finish (aligned : Aligned daemon serdeRequest serdeResponse dialogue) :
    Aligned daemon serdeRequest serdeResponse (dialogue.finish serdeResponse) := by
  cases aligned with
  | idle => exact .idle
  | writing framed serves bytes within more => exact .writing framed serves bytes within more
  | asking framed serves bytes within => exact .asking framed serves bytes within
  | @answering entry frame got pipe left desk answered framed bytes within more =>
      have waits : wanted maxFrameBytes got ≠ 0 := by
        intro spent
        have whole := framed.whole within spent (bytes.trans (List.append_nil frame).symm)
        exact more (List.append_eq_nil_iff.mp whole.2).2
      simp only [Dialogue.finish, waits, if_false]
      exact .answering framed bytes within more
  | @answered entry frame got pipe desk answered framed bytes within =>
      by_cases spent : wanted maxFrameBytes got = 0
      · obtain ⟨rfl, rfl⟩ := framed.whole within spent (bytes.trans (List.append_nil frame).symm)
        rw [finish_whole framed spent]
        exact .idle
      · simp only [Dialogue.finish, spent, if_false]
        exact .answered framed bytes within

theorem Aligned.step (roundTrips : serdeRequest.RoundTrips)
    (aligned : Aligned daemon serdeRequest serdeResponse dialogue) {action : DialogueAction K}
    (patient : Patient daemon serdeRequest serdeResponse action) :
    Aligned daemon serdeRequest serdeResponse
      (dialogue.step daemon serdeRequest serdeResponse action) := by
  cases action with
  | call request => exact aligned.call patient.1 patient.2
  | write count => exact aligned.write count
  | arrive count => exact aligned.arrive count
  | serve => exact aligned.serve roundTrips
  | answer count => exact aligned.answer count
  | receive count => exact aligned.receive count
  | finish => exact aligned.finish
  | expire => exact patient.elim
  | hangUp error =>
      cases aligned with
      | idle => exact .idle
      | writing framed serves bytes within more => exact .writing framed serves bytes within more
      | asking framed serves bytes within => exact .asking framed serves bytes within
      | answering framed bytes within more => exact .answering framed bytes within more
      | answered framed bytes within => exact .answered framed bytes within
  | meddle kernel =>
      cases aligned with
      | idle => exact .idle
      | writing framed serves bytes within more => exact .writing framed serves bytes within more
      | asking framed serves bytes within => exact .asking framed serves bytes within
      | answering framed bytes within more => exact .answering framed bytes within more
      | answered framed bytes within => exact .answered framed bytes within

/-! ### Completion -/

/-- The steps of the two parties, as opposed to new calls and to the rest of the world. -/
def Internal : DialogueAction K → Prop
  | .write _ | .arrive _ | .serve | .answer _ | .receive _ | .finish => True
  | _ => False

/-- A call under way can be completed. -/
def Completes (daemon : Daemon K) (serdeRequest : SerdeJson NKIRequest)
    (serdeResponse : SerdeJson NKIResponse) (dialogue : Dialogue K) : Prop :=
  ∃ actions : List (DialogueAction K), (∀ action ∈ actions, Internal action) ∧
    (Stepwise.run (step daemon serdeRequest serdeResponse) dialogue actions).client = .idle

theorem Completes.next (action : DialogueAction K) (internal : Internal action)
    (completes : Completes daemon serdeRequest serdeResponse
      (dialogue.step daemon serdeRequest serdeResponse action)) :
    Completes daemon serdeRequest serdeResponse dialogue := by
  obtain ⟨actions, all, idle⟩ := completes
  refine ⟨action :: actions, ?_, idle⟩
  intro other member
  rcases List.mem_cons.mp member with rfl | later
  · exact internal
  · exact all other later

/-- What a reader waits for is at most what is left of its frame. -/
theorem wanted_left {Message : Type} {serde : SerdeJson Message} {message : Message}
    {got pipe frame : Bytes} (framed : Framed serde message frame) (bytes : got ++ pipe = frame)
    (waits : wanted maxFrameBytes got ≠ 0) :
    0 < wanted maxFrameBytes got ∧ wanted maxFrameBytes got ≤ pipe.length := by
  obtain ⟨body, -, rfl, fits, small⟩ := framed.frame
  have rest := aligned_wanted small fits ⟨pipe, bytes⟩
  have total := congrArg List.length bytes
  have size := length_frame body
  rw [List.length_append] at total
  refine ⟨by omega, ?_⟩
  by_cases short : got.length < 4
  · rw [if_pos short] at rest
    omega
  · rw [if_neg short] at rest
    omega

/-- With its response in the pipe the client reads on and finishes. -/
theorem completes_answered {entry : AnsweredRequest K} {frame got pipe : Bytes} {desk : Desk K}
    {answered : List (AnsweredRequest K)} (framed : Framed serdeResponse entry.response frame)
    (bytes : got ++ pipe = frame) (within : Within maxFrameBytes got) :
    Completes daemon serdeRequest serdeResponse
      ⟨.reading entry.request got, outcomes serdeResponse answered, [], pipe, .reading [], desk,
        answered ++ [entry]⟩ := by
  induction length : pipe.length using Nat.strong_induction_on generalizing got pipe with
  | _ length ih =>
      by_cases spent : wanted maxFrameBytes got = 0
      · obtain ⟨rfl, rfl⟩ := framed.whole within spent (bytes.trans (List.append_nil frame).symm)
        refine ⟨[.finish], by simp [Internal], ?_⟩
        rw [Stepwise.run_cons, Stepwise.run_nil, Dialogue.step,
          finish_whole framed spent]
      · obtain ⟨positive, there⟩ := wanted_left framed bytes spent
        refine Completes.next (.receive (wanted maxFrameBytes got)) trivial ?_
        simp only [Dialogue.step, Dialogue.receive, min_self]
        refine ih _ ?_ ?_ (within_append within (by rw [List.length_take]; omega)) rfl
        · rw [List.length_drop]
          omega
        · rw [List.append_assoc, List.take_append_drop]
          exact bytes

theorem completes_answering (entry : AnsweredRequest K) {frame : Bytes} {desk : Desk K} {got pipe left : Bytes}
    {answered : List (AnsweredRequest K)} (framed : Framed serdeResponse entry.response frame)
    (bytes : got ++ (pipe ++ left) = frame) (within : Within maxFrameBytes got) :
    Completes daemon serdeRequest serdeResponse
      ⟨.reading entry.request got, outcomes serdeResponse answered, [], pipe, .writing left, desk,
        answered ++ [entry]⟩ := by
  refine Completes.next (.answer left.length) trivial ?_
  simp only [Dialogue.step, Dialogue.answer, List.drop_length, List.take_length, if_true]
  exact completes_answered framed bytes within

theorem completes_asking (roundTrips : serdeRequest.RoundTrips)
    {request : NKIRequest} {frame got pipe : Bytes} {desk : Desk K}
    {answered : List (AnsweredRequest K)} (framed : Framed serdeRequest request frame)
    (serves : daemon.Serves serdeResponse request)
    (bytes : got ++ pipe = frame) (within : Within maxFrameBytes got) :
    Completes daemon serdeRequest serdeResponse
      ⟨.reading request [], outcomes serdeResponse answered, pipe, [], .reading got, desk, answered⟩ := by
  induction length : pipe.length using Nat.strong_induction_on generalizing got pipe with
  | _ length ih =>
      by_cases spent : wanted maxFrameBytes got = 0
      · obtain ⟨rfl, rfl⟩ := framed.whole within spent (bytes.trans (List.append_nil frame).symm)
        obtain ⟨rest, read⟩ := framed.nextRequest (roundTrips.readBack framed)
        obtain ⟨response, after, reply, produced, fits⟩ := serves desk
        refine Completes.next .serve trivial ?_
        simp only [Dialogue.step, Dialogue.serve, spent, if_true, read, produced, fits.1]
        have whole : ([] : Bytes) ++ ([] ++ reply) = reply := rfl
        exact completes_answering ⟨request, desk, response, after.kernel⟩ fits whole
          within_nil
      · obtain ⟨positive, there⟩ := wanted_left framed bytes spent
        refine Completes.next (.arrive (wanted maxFrameBytes got)) trivial ?_
        simp only [Dialogue.step, Dialogue.arrive, min_self]
        refine ih _ ?_ ?_ (within_append within (by rw [List.length_take]; omega)) rfl
        · rw [List.length_drop]
          omega
        · rw [List.append_assoc, List.take_append_drop]
          exact bytes

/-- From wherever a call is, the two parties can complete it. -/
theorem Aligned.completes (roundTrips : serdeRequest.RoundTrips)
    (aligned : Aligned daemon serdeRequest serdeResponse dialogue) :
    Completes daemon serdeRequest serdeResponse dialogue := by
  cases aligned with
  | idle => exact ⟨[], by simp, rfl⟩
  | @writing request frame got pipe left desk answered framed serves bytes within more =>
      refine Completes.next (.write left.length) trivial ?_
      simp only [Dialogue.step, Dialogue.write, List.drop_length, List.take_length, if_true]
      exact completes_asking roundTrips framed serves bytes within
  | asking framed serves bytes within =>
      exact completes_asking roundTrips framed serves bytes within
  | answering framed bytes within => exact completes_answering _ framed bytes within
  | answered framed bytes within => exact completes_answered framed bytes within

/-! ### The order of the answers -/

theorem atomically_concat {answered : List (AnsweredRequest K)} {first after last : Desk K}
    {requests : List NKIRequest} {request : NKIRequest} {response : NKIResponse}
    (before : daemon.atomically first requests = (answered, after))
    (whole : answered.length = requests.length)
    (next : daemon.answer request after = (.ok response, last)) :
    daemon.atomically first (requests ++ [request]) =
      (answered ++ [⟨request, after, response, last.kernel⟩], last) := by
  induction requests generalizing first answered with
  | nil =>
      cases before
      simp only [List.nil_append, Daemon.atomically, next]
  | cons head rest ih =>
      cases produced : daemon.answer head first with
      | mk outcome middle =>
          cases outcome with
          | error reason =>
              simp only [Daemon.atomically, produced] at before
              cases before
              cases whole
          | ok reply =>
              simp only [Daemon.atomically, produced] at before
              cases before
              simp only [List.length_cons, Nat.add_right_cancel_iff] at whole
              have later := ih rfl whole
              simp only [List.cons_append, Daemon.atomically, produced, later]

/-- What the daemon did is what it does with the same requests one after another. -/
def Sequential (daemon : Daemon K) (start : Desk K) (dialogue : Dialogue K) : Prop :=
  daemon.atomically start (dialogue.answered.map (·.request)) =
    (dialogue.answered, dialogue.desk)

theorem Sequential.serve {start : Desk K} (roundTrips : serdeRequest.RoundTrips)
    (aligned : Aligned daemon serdeRequest serdeResponse dialogue)
    (sequential : Sequential daemon start dialogue) :
    Sequential daemon start (dialogue.serve daemon serdeRequest serdeResponse) := by
  cases aligned with
  | idle => exact sequential
  | @writing request frame got pipe left desk answered framed serves bytes within more =>
      have waits : wanted maxFrameBytes got ≠ 0 := by
        intro spent
        have whole := framed.whole within spent (bytes.trans (List.append_nil frame).symm)
        exact more (List.append_eq_nil_iff.mp whole.2).2
      simpa only [Dialogue.serve, waits, if_false] using sequential
  | @asking request frame got pipe desk answered framed serves bytes within =>
      by_cases spent : wanted maxFrameBytes got = 0
      · obtain ⟨rfl, rfl⟩ := framed.whole within spent (bytes.trans (List.append_nil frame).symm)
        obtain ⟨rest, read⟩ := framed.nextRequest (roundTrips.readBack framed)
        obtain ⟨response, after, reply, produced, fits⟩ := serves desk
        simp only [Dialogue.serve, spent, if_true, read, produced, fits.1]
        unfold Sequential
        rw [List.map_append]
        exact atomically_concat sequential (List.length_map _).symm produced
      · simpa only [Dialogue.serve, spent, if_false] using sequential
  | answering => exact sequential
  | answered => exact sequential

/-- Only `serve` and the rest of the world touch what the daemon answered and its kernel. -/
theorem step_desk (daemon : Daemon K) (serdeRequest : SerdeJson NKIRequest)
    (serdeResponse : SerdeJson NKIResponse) (dialogue : Dialogue K) {action : DialogueAction K}
    (other : action ≠ .serve)
    (apart : ∀ kernel, action ≠ .meddle kernel) :
    (dialogue.step daemon serdeRequest serdeResponse action).answered = dialogue.answered ∧
      (dialogue.step daemon serdeRequest serdeResponse action).desk = dialogue.desk := by
  cases action with
  | call request =>
      simp only [Dialogue.step, Dialogue.call]
      split
      · split
        · exact ⟨rfl, rfl⟩
        · split_ifs <;> exact ⟨rfl, rfl⟩
      · exact ⟨rfl, rfl⟩
  | write count => simp only [Dialogue.step, Dialogue.write]; split <;> exact ⟨rfl, rfl⟩
  | arrive count => simp only [Dialogue.step, Dialogue.arrive]; split <;> exact ⟨rfl, rfl⟩
  | serve => exact absurd rfl other
  | answer count => simp only [Dialogue.step, Dialogue.answer]; split <;> exact ⟨rfl, rfl⟩
  | receive count => simp only [Dialogue.step, Dialogue.receive]; split <;> exact ⟨rfl, rfl⟩
  | finish =>
      simp only [Dialogue.step, Dialogue.finish]
      split
      · split_ifs <;> exact ⟨rfl, rfl⟩
      · exact ⟨rfl, rfl⟩
  | hangUp error => simp only [Dialogue.step, Dialogue.hangUp]; split <;> exact ⟨rfl, rfl⟩
  | expire => simp only [Dialogue.step, Dialogue.expire]; split <;> exact ⟨rfl, rfl⟩
  | meddle kernel => exact absurd rfl (apart kernel)

theorem Sequential.step {start : Desk K} (roundTrips : serdeRequest.RoundTrips)
    (aligned : Aligned daemon serdeRequest serdeResponse dialogue)
    (sequential : Sequential daemon start dialogue) {action : DialogueAction K}
    (apart : ∀ kernel, action ≠ .meddle kernel) :
    Sequential daemon start (dialogue.step daemon serdeRequest serdeResponse action) := by
  by_cases serving : action = .serve
  · subst serving
    exact sequential.serve roundTrips aligned
  · obtain ⟨answered, desk⟩ := step_desk daemon serdeRequest serdeResponse dialogue serving
      apart
    unfold Sequential
    rw [answered, desk]
    exact sequential

/-! ### The calls -/

/-- The requests of the calls that are over, and of the one under way. -/
def accounted (dialogue : Dialogue K) : List NKIRequest :=
  dialogue.results.map (·.1) ++ dialogue.calling.toList

/-- The requests that a run puts on the wire. -/
def issuedIn (daemon : Daemon K) (serdeRequest : SerdeJson NKIRequest)
    (serdeResponse : SerdeJson NKIResponse) :
    Dialogue K → List (DialogueAction K) → List NKIRequest
  | _, [] => []
  | dialogue, action :: rest =>
      issues serdeRequest dialogue action ++
        issuedIn daemon serdeRequest serdeResponse
          (dialogue.step daemon serdeRequest serdeResponse action) rest

theorem accounted_conclude {request : NKIRequest} {result : CallResult}
    (calling : dialogue.calling = some request) :
    accounted (dialogue.conclude request result) = accounted dialogue := by
  unfold accounted
  rw [calling]
  simp [Dialogue.conclude, Dialogue.calling]

theorem accounted_congr {later : Dialogue K} (client : later.client = dialogue.client)
    (results : later.results = dialogue.results) : accounted later = accounted dialogue := by
  unfold accounted Dialogue.calling
  rw [client, results]

/-- The client takes no part in an answer. -/
theorem serve_client (daemon : Daemon K) (serdeRequest : SerdeJson NKIRequest)
    (serdeResponse : SerdeJson NKIResponse) (dialogue : Dialogue K) :
    (dialogue.serve daemon serdeRequest serdeResponse).client = dialogue.client ∧
      (dialogue.serve daemon serdeRequest serdeResponse).results = dialogue.results := by
  unfold Dialogue.serve
  split
  · split_ifs
    · split
      · split
        · exact ⟨rfl, rfl⟩
        · split <;> exact ⟨rfl, rfl⟩
      · exact ⟨rfl, rfl⟩
    · exact ⟨rfl, rfl⟩
  · exact ⟨rfl, rfl⟩

theorem accounted_step (daemon : Daemon K) (serdeResponse : SerdeJson NKIResponse)
    (dialogue : Dialogue K) {action : DialogueAction K} (patient : Patient daemon serdeRequest serdeResponse action) :
    accounted (dialogue.step daemon serdeRequest serdeResponse action) =
      accounted dialogue ++ issues serdeRequest dialogue action := by
  cases action with
  | call request =>
      obtain ⟨⟨frame, encoded, body, serialized, fits⟩, -⟩ := patient
      have inLimit : ¬maxFrameBytes < body.length := by omega
      cases phase : dialogue.client with
      | idle => simp [Dialogue.step, Dialogue.call, issues, accounted, calling, phase, serialized,
          inLimit]
      | writing _ _ => simp [Dialogue.step, Dialogue.call, issues, accounted, calling, phase]
      | reading _ _ => simp [Dialogue.step, Dialogue.call, issues, accounted, calling, phase]
  | write count =>
      cases phase : dialogue.client with
      | idle => simp [Dialogue.step, Dialogue.write, issues, accounted, calling, phase]
      | writing request left =>
          by_cases spent : left.drop count = []
          · simp only [Dialogue.step, Dialogue.write, phase, spent, if_true, issues, accounted,
              calling, List.append_nil]
          · simp only [Dialogue.step, Dialogue.write, phase, spent, if_false, issues, accounted,
              calling, List.append_nil]
      | reading _ _ => simp [Dialogue.step, Dialogue.write, issues, accounted, calling, phase]
  | arrive count =>
      cases phase : dialogue.daemon <;>
        simp [Dialogue.step, Dialogue.arrive, issues, accounted, calling, phase]
  | serve =>
      have kept := serve_client daemon serdeRequest serdeResponse dialogue
      simp only [Dialogue.step, issues, List.append_nil]
      exact accounted_congr kept.1 kept.2
  | answer count =>
      cases phase : dialogue.daemon <;>
        simp [Dialogue.step, Dialogue.answer, issues, accounted, calling, phase]
  | receive count =>
      cases phase : dialogue.client <;>
        simp [Dialogue.step, Dialogue.receive, issues, accounted, calling, phase]
  | finish =>
      cases phase : dialogue.client with
      | idle => simp [Dialogue.step, Dialogue.finish, issues, accounted, phase]
      | writing _ _ => simp [Dialogue.step, Dialogue.finish, issues, accounted, phase]
      | reading request got =>
          by_cases spent : wanted maxFrameBytes got = 0
          · simp only [Dialogue.step, Dialogue.finish, phase, spent, if_true, issues,
              List.append_nil]
            exact accounted_conclude (by rw [calling, phase])
          · simp [Dialogue.step, Dialogue.finish, issues, accounted, phase, spent]
  | hangUp error =>
      simp only [Dialogue.step, issues, List.append_nil]
      cases phase : dialogue.daemon with
      | reading _ => simp only [Dialogue.hangUp, phase]
      | writing _ => simp only [Dialogue.hangUp, phase]
      | closed =>
          cases client : dialogue.client with
          | idle => simp only [Dialogue.hangUp, phase, client]
          | writing request left =>
              simp only [Dialogue.hangUp, phase, client]
              exact accounted_conclude (by rw [calling, client])
          | reading request got =>
              simp only [Dialogue.hangUp, phase, client]
              exact accounted_conclude (by rw [calling, client])
  | expire => exact patient.elim
  | meddle kernel => simp [Dialogue.step, issues, accounted, calling]

theorem accounted_run {actions : List (DialogueAction K)}
    (patient : ∀ action ∈ actions, Patient daemon serdeRequest serdeResponse action) :
    accounted (Stepwise.run (step daemon serdeRequest serdeResponse) dialogue actions) =
      accounted dialogue ++ issuedIn daemon serdeRequest serdeResponse dialogue actions := by
  induction actions generalizing dialogue with
  | nil => simp [issuedIn]
  | cons action rest ih =>
      have first := accounted_step daemon serdeResponse dialogue
        (patient action List.mem_cons_self)
      rw [Stepwise.run_cons, ih fun other member => patient other (List.mem_cons_of_mem _ member),
        first, issuedIn, List.append_assoc]

/-- The calls that are over are those of the answered requests, but for the one whose
response is on its way. -/
theorem Aligned.results (aligned : Aligned daemon serdeRequest serdeResponse dialogue) :
    (∃ pending, pending.length ≤ 1 ∧
        outcomes serdeResponse dialogue.answered = dialogue.results ++ pending) ∧
      (dialogue.client = .idle → dialogue.results = outcomes serdeResponse dialogue.answered) := by
  cases aligned with
  | idle => exact ⟨⟨[], by simp, (List.append_nil _).symm⟩, fun _ => rfl⟩
  | writing => exact ⟨⟨[], by simp, (List.append_nil _).symm⟩, fun idle => by cases idle⟩
  | asking => exact ⟨⟨[], by simp, (List.append_nil _).symm⟩, fun idle => by cases idle⟩
  | answering => exact ⟨⟨_, by simp, List.map_append⟩, fun idle => by cases idle⟩
  | answered => exact ⟨⟨_, by simp, List.map_append⟩, fun idle => by cases idle⟩

end Dialogue

/-- As long as no call is given up and every request is served, the two parties are atomic
calls in their order: every call that is over has the outcome that the text of the daemon's
response to it reads as, the daemon did just what it does with the same requests one after
another, and the call under way can be completed. -/
theorem patient_calls_atomic {K : Type} (daemon : Daemon K) (serdeRequest : SerdeJson NKIRequest)
    (serdeResponse : SerdeJson NKIResponse) (roundTrips : serdeRequest.RoundTrips)
    (desk : Desk K) (actions : List (DialogueAction K))
    (patient : ∀ action ∈ actions, Dialogue.Patient daemon serdeRequest serdeResponse action) :
    let final := Stepwise.run (Dialogue.step daemon serdeRequest serdeResponse)
      (Dialogue.connected desk) actions
    Dialogue.accounted final =
        Dialogue.issuedIn daemon serdeRequest serdeResponse (Dialogue.connected desk) actions ∧
      (∃ pending, pending.length ≤ 1 ∧
        Dialogue.outcomes serdeResponse final.answered = final.results ++ pending) ∧
      (final.client = .idle → final.results = Dialogue.outcomes serdeResponse final.answered) ∧
      ((∀ kernel, .meddle kernel ∉ actions) →
        daemon.atomically desk (final.answered.map (·.request)) = (final.answered, final.desk)) ∧
      Dialogue.Completes daemon serdeRequest serdeResponse final := by
  have keeps : ∀ dialogue action, Dialogue.Patient daemon serdeRequest serdeResponse action →
      Dialogue.Aligned daemon serdeRequest serdeResponse dialogue →
      Dialogue.Aligned daemon serdeRequest serdeResponse
        (Dialogue.step daemon serdeRequest serdeResponse dialogue action) := by
    intro dialogue action allowed kept
    exact kept.step roundTrips allowed
  have aligned := Stepwise.run_invariant_of keeps (Dialogue.aligned_connected desk) patient
  refine ⟨Dialogue.accounted_run patient, aligned.results.1, aligned.results.2, ?_,
    aligned.completes roundTrips⟩
  intro apart
  have together : ∀ (dialogue : Dialogue K) (action : DialogueAction K),
      (Dialogue.Patient daemon serdeRequest serdeResponse action ∧
        ∀ kernel, action ≠ .meddle kernel) →
      (Dialogue.Aligned daemon serdeRequest serdeResponse dialogue ∧
        Dialogue.Sequential daemon desk dialogue) →
      Dialogue.Aligned daemon serdeRequest serdeResponse
          (Dialogue.step daemon serdeRequest serdeResponse dialogue action) ∧
        Dialogue.Sequential daemon desk
          (Dialogue.step daemon serdeRequest serdeResponse dialogue action) := by
    intro dialogue action allowed kept
    exact ⟨keeps dialogue action allowed.1 kept.1,
      kept.2.step roundTrips kept.1 allowed.2⟩
  have start : Dialogue.Sequential daemon desk (Dialogue.connected desk) := rfl
  refine (Stepwise.run_invariant_of together ⟨Dialogue.aligned_connected desk, start⟩ ?_).2
  intro action member
  refine ⟨patient action member, ?_⟩
  intro kernel same
  subst same
  exact apart kernel member

theorem framed_ping {requestId : String} (known : requestId ∈ pingIds) :
    Framed serdePing (ping requestId) (encodeRaw (pingText requestId)) := by
  have found : ∀ requestId ∈ pingIds, pingIds.find? (ping requestId = ping ·) =
      some requestId := by decide +kernel
  have serialized : serdePing.toVec (ping requestId) = .ok (pingText requestId) := by
    simp only [serdePing, found requestId known]
  have fits : ∀ requestId ∈ pingIds, (pingText requestId).length ≤ maxFrameBytes := by
    decide +kernel
  exact ⟨encode_ok serialized, _, serialized, fits requestId known⟩

theorem doorman_serves {requestId : String} (known : requestId ∈ pingIds) :
    doorman.Serves serdePong (ping requestId) := by
  intro desk
  have produced : doorman.answer (ping requestId) desk =
      (.ok (pong requestId), ⟨desk.readings + 1, desk.kernel + 1⟩) := by
    simp only [pingIds, List.mem_cons, List.not_mem_nil, or_false] at known
    rcases known with rfl | rfl | rfl <;> rfl
  have serialized : serdePong.toVec (pong requestId) = .ok (pongText requestId) := by
    simp only [serdePong, pong, known, and_self, if_true]
  have fits : ∀ requestId ∈ pingIds, (pongText requestId).length ≤ maxFrameBytes := by
    decide +kernel
  exact ⟨_, _, _, produced, encode_ok serialized, _, serialized, fits requestId known⟩

/-- The second call is under way at the end. -/
def unhurried : List (DialogueAction Nat) := [
  .call (ping "r-1"), .write 7, .write 1000, .arrive 4, .arrive 1000, .serve, .answer 20,
  .receive 4, .answer 1000, .receive 1000, .finish, .call (ping "r-2"), .write 30]

def afterUnhurried : Dialogue Nat :=
  Stepwise.run (Dialogue.step doorman serdePing serdePong) (Dialogue.connected ⟨0, 0⟩) unhurried

theorem patient_calls_atomic_unhurried :
    Dialogue.accounted afterUnhurried =
        Dialogue.issuedIn doorman serdePing serdePong (Dialogue.connected ⟨0, 0⟩) unhurried ∧
      (∃ pending, pending.length ≤ 1 ∧
        Dialogue.outcomes serdePong afterUnhurried.answered = afterUnhurried.results ++ pending) ∧
      (afterUnhurried.client = .idle →
        afterUnhurried.results = Dialogue.outcomes serdePong afterUnhurried.answered) ∧
      ((∀ kernel, .meddle kernel ∉ unhurried) →
        doorman.atomically ⟨0, 0⟩ (afterUnhurried.answered.map (·.request)) =
          (afterUnhurried.answered, afterUnhurried.desk)) ∧
      Dialogue.Completes doorman serdePing serdePong afterUnhurried := by
  refine patient_calls_atomic doorman serdePing serdePong serdePing_roundTrips ⟨0, 0⟩ unhurried ?_
  intro action member
  simp only [unhurried, List.mem_cons, List.not_mem_nil, or_false] at member
  rcases member with rfl | rfl | rfl | rfl | rfl | rfl | rfl | rfl | rfl | rfl | rfl | rfl | rfl
  · exact ⟨⟨_, framed_ping (by decide)⟩, doorman_serves (by decide)⟩
  all_goals first
    | exact trivial
    | exact ⟨⟨_, framed_ping (by decide)⟩, doorman_serves (by decide)⟩

end NousKernel
