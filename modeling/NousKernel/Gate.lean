import Mathlib.Data.Nat.Bitwise
import NousKernel.Responses
import NousKernel.Transport

/-!
The gate of the daemon (`handle_connection` in `nousd/src/main.rs`): what a request passes
before it is dispatched, and the response to it. The clock readings and the trace ids of a
connection are sequences. The dispatcher is a parameter, and the kernel moves only with it.
-/

set_option autoImplicit false

namespace NousKernel

open ByteStream LengthPrefixedCodec

structure NKIRequest where
  requestId : String
  idempotencyKey : String
  nkiVersion : UInt32
  principalId : String
  sessionToken : String
  namespaceName : String
  deadlineUs : Int64
  traceparent : String
  tracestate : String
  featureFlags : List String
  method : String
  payload : Bytes
  deriving DecidableEq

def minNkiVersion : UInt32 := 1

/-- All bytes are looked at, also behind the end of the shorter text. -/
def constantTimeEqual (left right : Bytes) : Bool :=
  let difference := (List.range (max left.length right.length)).foldl
    (fun difference index =>
      difference ||| ((left[index]?.getD 0) ^^^ (right[index]?.getD 0)).toNat)
    (left.length ^^^ right.length)
  difference = 0

def NKIOutcome.nkiError (code message : String) (retryable : Bool) : NKIOutcome :=
  .Error {
    code := code
    message := message
    failedPhase := "EXECUTE"
    cause := ""
    retryable := retryable
    recommendedDelayMs := if retryable then 250 else 0 }

/-- What the connections of a daemon have in common. -/
structure Daemon (K : Type) where
  sessionToken : String
  clock : Nat → Int64
  traceId : Nat → String
  dispatch : NKIRequest → K → Except String NKIOutcome × K

/-- The kernel as a connection meets it, and how often the clock was read for it. -/
structure Desk (K : Type) where
  readings : Nat
  kernel : K

namespace Daemon

variable {K : Type} (daemon : Daemon K)

/-- The chain of checks. The clock is read only for a request with a deadline. -/
def refusal (request : NKIRequest) (desk : Desk K) : Option NKIOutcome × Desk K :=
  if ¬(minNkiVersion ≤ request.nkiVersion ∧ request.nkiVersion ≤ nkiVersion) then
    (some (NKIOutcome.nkiError "NKI_VERSION_UNSUPPORTED" "unsupported NKI version" false), desk)
  else if request.requestId = "" ∨ request.idempotencyKey = "" ∨ request.principalId = "" ∨
      request.namespaceName = "" then
    (some (NKIOutcome.nkiError "INVALID_ENVELOPE"
      "request_id, idempotency_key, principal_id, and namespace are required" false), desk)
  else if daemon.sessionToken ≠ "" ∧
      constantTimeEqual (asBytes request.sessionToken) (asBytes daemon.sessionToken) = false then
    (some (NKIOutcome.nkiError "UNAUTHENTICATED" "local Runtime session is invalid" false), desk)
  else if 0 < request.deadlineUs then
    (if request.deadlineUs < daemon.clock desk.readings then
      some (NKIOutcome.nkiError "DEADLINE_EXCEEDED" "request deadline expired" true)
    else none, { desk with readings := desk.readings + 1 })
  else (none, desk)

/-- The outcome of a request: of the gate, or of its dispatch. -/
def outcome (request : NKIRequest) (desk : Desk K) : Except String NKIOutcome × Desk K :=
  match daemon.refusal request desk with
  | (some outcome, desk) => (.ok outcome, desk)
  | (none, desk) =>
      let (outcome, kernel) := daemon.dispatch request desk.kernel
      (outcome, { desk with kernel })

/-- The body of the loop between the read of a request and the write of its response. -/
def answer (request : NKIRequest) (desk : Desk K) : Except String NKIResponse × Desk K :=
  match daemon.outcome request desk with
  | (.error reason, desk) => (.error reason, desk)
  | (.ok outcome, desk) =>
      (.ok {
        requestId := request.requestId
        nkiVersion := nkiVersion
        serverTimestampUs := daemon.clock desk.readings
        traceId := daemon.traceId desk.readings
        outcome := outcome }, { desk with readings := desk.readings + 1 })

end Daemon

/-- A connection: the kernel behind it, and what it has written. -/
structure Connection (K : Type) where
  desk : Desk K
  written : Bytes

/-- A response that cannot be encoded ends the connection, as a failed dispatch does. -/
def Daemon.respond {K : Type} (daemon : Daemon K) (serde : SerdeJson NKIResponse) :
    Respond NKIRequest (Connection K) := fun request connection =>
  match daemon.answer request connection.desk with
  | (.error reason, desk) => (.error reason, { connection with desk })
  | (.ok response, desk) =>
      match encode serde response with
      | .error (.serialization reason) =>
          (.error ("Serialization error: " ++ reason), { connection with desk })
      | .ok frame => (.ok (), ⟨desk, connection.written ++ frame⟩)

/-! ### The comparison of tokens -/

theorem foldl_or_eq_zero (differences : List Nat) (first : Nat) :
    differences.foldl (· ||| ·) first = 0 ↔ first = 0 ∧ ∀ n ∈ differences, n = 0 := by
  induction differences generalizing first with
  | nil => simp
  | cons n rest ih =>
      rw [List.foldl_cons, ih, Nat.or_eq_zero_iff, List.forall_mem_cons]
      exact and_assoc

/-- The comparison is an equality: a length or a byte that differs leaves a bit. -/
theorem constantTimeEqual_iff {left right : Bytes} :
    constantTimeEqual left right = true ↔ left = right := by
  have folded : constantTimeEqual left right =
      decide (((List.range (max left.length right.length)).map fun index =>
        ((left[index]?.getD 0) ^^^ (right[index]?.getD 0)).toNat).foldl (· ||| ·)
          (left.length ^^^ right.length) = 0) := by
    rw [List.foldl_map]
    rfl
  rw [folded, decide_eq_true_iff, foldl_or_eq_zero, Nat.xor_eq_zero_iff]
  constructor
  · rintro ⟨lengths, bytes⟩
    apply List.ext_getElem lengths
    intro index inLeft inRight
    have zero := bytes _ (List.mem_map.mpr ⟨index, List.mem_range.mpr (by omega), rfl⟩)
    rw [List.getElem?_eq_getElem inLeft, List.getElem?_eq_getElem inRight] at zero
    have same : left[index] ^^^ right[index] = 0 := UInt8.toNat_inj.mp zero
    exact UInt8.xor_eq_zero_iff.mp same
  · rintro rfl
    refine ⟨rfl, ?_⟩
    intro n member
    obtain ⟨index, -, rfl⟩ := List.mem_map.mp member
    rw [UInt8.xor_self]
    rfl

/-! ### What the gate lets through -/

/-- The checks that a request has to pass. -/
structure Daemon.Admits {K : Type} (daemon : Daemon K) (request : NKIRequest) (desk : Desk K) :
    Prop where
  version : minNkiVersion ≤ request.nkiVersion ∧ request.nkiVersion ≤ nkiVersion
  envelope : ¬(request.requestId = "" ∨ request.idempotencyKey = "" ∨ request.principalId = "" ∨
    request.namespaceName = "")
  session : daemon.sessionToken = "" ∨ request.sessionToken = daemon.sessionToken
  deadline : 0 < request.deadlineUs → ¬request.deadlineUs < daemon.clock desk.readings

/-- What the gate itself answers. -/
def gateErrors : List NKIOutcome := [
  NKIOutcome.nkiError "NKI_VERSION_UNSUPPORTED" "unsupported NKI version" false,
  NKIOutcome.nkiError "INVALID_ENVELOPE"
    "request_id, idempotency_key, principal_id, and namespace are required" false,
  NKIOutcome.nkiError "UNAUTHENTICATED" "local Runtime session is invalid" false,
  NKIOutcome.nkiError "DEADLINE_EXCEEDED" "request deadline expired" true]

section Answer

variable {K : Type} {daemon : Daemon K} {request : NKIRequest} {desk : Desk K}

theorem refusal_kernel (daemon : Daemon K) (request : NKIRequest) (desk : Desk K) :
    (daemon.refusal request desk).2.kernel = desk.kernel := by
  unfold Daemon.refusal
  split_ifs <;> rfl

/-- The checks in their order: each that fails has its own error, and none of them is
another condition than the ones of `Admits`. -/
theorem refusal_cases (daemon : Daemon K) (request : NKIRequest) (desk : Desk K) :
    ((daemon.refusal request desk).1 = none ∧ daemon.Admits request desk) ∨
      ∃ outcome ∈ gateErrors, (daemon.refusal request desk).1 = some outcome ∧
        ¬daemon.Admits request desk := by
  unfold Daemon.refusal gateErrors
  by_cases version : minNkiVersion ≤ request.nkiVersion ∧ request.nkiVersion ≤ nkiVersion
  · rw [if_neg (not_not_intro version)]
    by_cases envelope : request.requestId = "" ∨ request.idempotencyKey = "" ∨
        request.principalId = "" ∨ request.namespaceName = ""
    · rw [if_pos envelope]
      exact .inr ⟨_, by simp, rfl, fun admits => admits.envelope envelope⟩
    · rw [if_neg envelope]
      by_cases session : daemon.sessionToken ≠ "" ∧ constantTimeEqual
          (asBytes request.sessionToken) (asBytes daemon.sessionToken) = false
      · rw [if_pos session]
        refine .inr ⟨_, by simp, rfl, ?_⟩
        intro admits
        rcases admits.session with unset | same
        · exact session.1 unset
        · have equal : constantTimeEqual (asBytes request.sessionToken)
              (asBytes daemon.sessionToken) = true := by
            rw [constantTimeEqual_iff, same]
          rw [equal] at session
          exact Bool.noConfusion session.2
      · rw [if_neg session]
        have token : daemon.sessionToken = "" ∨ request.sessionToken = daemon.sessionToken := by
          by_cases unset : daemon.sessionToken = ""
          · exact .inl unset
          · right
            have equal : constantTimeEqual (asBytes request.sessionToken)
                (asBytes daemon.sessionToken) = true := by
              by_contra differs
              exact session ⟨unset, by simpa using differs⟩
            exact asBytes_inj.mp (constantTimeEqual_iff.mp equal)
        by_cases limited : 0 < request.deadlineUs
        · rw [if_pos limited]
          by_cases expired : request.deadlineUs < daemon.clock desk.readings
          · rw [if_pos expired]
            exact .inr ⟨_, by simp, rfl, fun admits => admits.deadline limited expired⟩
          · rw [if_neg expired]
            exact .inl ⟨rfl, version, envelope, token, fun _ => expired⟩
        · rw [if_neg limited]
          exact .inl ⟨rfl, version, envelope, token, fun positive => absurd positive limited⟩
  · rw [if_pos version]
    exact .inr ⟨_, by simp, rfl, fun admits => version admits.version⟩

end Answer

/-! ### The run of a connection -/

/-- A response to a request, and the kernel after it: dispatched if the gate lets the
request through, else an error of the gate and the kernel as it was. -/
structure Daemon.Answers {K : Type} (daemon : Daemon K) (request : NKIRequest) (desk : Desk K)
    (response : NKIResponse) (kernel : K) : Prop where
  envelope : response.requestId = request.requestId ∧ response.nkiVersion = nkiVersion
  outcome : (daemon.Admits request desk ∧
      daemon.dispatch request desk.kernel = (.ok response.outcome, kernel)) ∨
    (¬daemon.Admits request desk ∧ response.outcome ∈ gateErrors ∧ kernel = desk.kernel)

/-- The turns of a connection, each with the next request of its bytes. -/
inductive Daemon.Attended {K : Type} (daemon : Daemon K) (serde : SerdeJson NKIRequest)
    (ending : ReadError) :
    List Chunk → Desk K → List (NKIRequest × NKIResponse) → List Chunk → Desk K → Prop
  | done (chunks : List Chunk) (desk : Desk K) :
      Attended daemon serde ending chunks desk [] chunks desk
  | turn {chunks rest last : List Chunk} {desk middle final : Desk K} {request : NKIRequest}
      {response : NKIResponse} {later : List (NKIRequest × NKIResponse)}
      (read : nextRequest serde ending chunks = .ok (some (request, rest)))
      (answers : daemon.Answers request desk response middle.kernel)
      (tail : Attended daemon serde ending rest middle later last final) :
      Attended daemon serde ending chunks desk ((request, response) :: later) last final

/-- How a connection stops: at the end of its bytes or at bytes that are no request, at a
dispatch that fails, or at a response that cannot be encoded. -/
inductive Daemon.Stopped {K : Type} (daemon : Daemon K) (serdeRequest : SerdeJson NKIRequest)
    (serdeResponse : SerdeJson NKIResponse) (ending : ReadError) (chunks : List Chunk)
    (desk : Desk K) : Except ConnectionError Unit → K → Prop
  | ended (read : nextRequest serdeRequest ending chunks = .ok none) :
      Stopped daemon serdeRequest serdeResponse ending chunks desk (.ok ()) desk.kernel
  | broken {error : ConnectionError} (read : nextRequest serdeRequest ending chunks = .error error) :
      Stopped daemon serdeRequest serdeResponse ending chunks desk (.error error) desk.kernel
  | failed {request : NKIRequest} {rest : List Chunk} {reason : String} {kernel : K}
      (read : nextRequest serdeRequest ending chunks = .ok (some (request, rest)))
      (admitted : daemon.Admits request desk)
      (dispatched : daemon.dispatch request desk.kernel = (.error reason, kernel)) :
      Stopped daemon serdeRequest serdeResponse ending chunks desk
        (.error (.dispatch reason)) kernel
  | unsent {request : NKIRequest} {rest : List Chunk} {response : NKIResponse} {kernel : K}
      {reason : String}
      (read : nextRequest serdeRequest ending chunks = .ok (some (request, rest)))
      (answers : daemon.Answers request desk response kernel)
      (unencoded : encode serdeResponse response = .error (.serialization reason)) :
      Stopped daemon serdeRequest serdeResponse ending chunks desk
        (.error (.dispatch ("Serialization error: " ++ reason))) kernel

section Run

variable {K : Type} {daemon : Daemon K} {request : NKIRequest} {desk : Desk K}
  {serdeRequest : SerdeJson NKIRequest} {serdeResponse : SerdeJson NKIResponse}
  {ending : ReadError}

theorem outcome_cases (daemon : Daemon K) (request : NKIRequest) (desk : Desk K) :
    (daemon.Admits request desk ∧
        (daemon.outcome request desk).1 = (daemon.dispatch request desk.kernel).1 ∧
        (daemon.outcome request desk).2.kernel = (daemon.dispatch request desk.kernel).2) ∨
      (¬daemon.Admits request desk ∧ (daemon.outcome request desk).2.kernel = desk.kernel ∧
        ∃ outcome ∈ gateErrors, (daemon.outcome request desk).1 = .ok outcome) := by
  have kept := refusal_kernel daemon request desk
  unfold Daemon.outcome
  cases refused : daemon.refusal request desk with
  | mk error later =>
      rw [refused] at kept
      rcases refusal_cases daemon request desk with
        ⟨passes, admits⟩ | ⟨outcome, member, denied, unfit⟩
      · rw [refused] at passes
        cases passes
        have same : later.kernel = desk.kernel := kept
        left
        refine ⟨admits, ?_, ?_⟩
        · show (daemon.dispatch request later.kernel).1 = _
          rw [same]
        · show (daemon.dispatch request later.kernel).2 = _
          rw [same]
      · rw [refused] at denied
        cases denied
        right
        exact ⟨unfit, kept, outcome, member, rfl⟩

theorem answer_ok {response : NKIResponse} {after : Desk K}
    (answered : daemon.answer request desk = (.ok response, after)) :
    daemon.Answers request desk response after.kernel := by
  unfold Daemon.answer at answered
  have cases := outcome_cases daemon request desk
  cases produced : daemon.outcome request desk with
  | mk result middle =>
      rw [produced] at answered cases
      cases result with
      | error reason => cases answered
      | ok outcome =>
          cases answered
          refine ⟨⟨rfl, rfl⟩, ?_⟩
          rcases cases with ⟨admits, result, kernel⟩ | ⟨denied, kernel, error, member, same⟩
          · exact .inl ⟨admits, Prod.ext result.symm kernel.symm⟩
          · cases same
            exact .inr ⟨denied, member, kernel⟩

theorem answer_error {reason : String} {after : Desk K}
    (answered : daemon.answer request desk = (.error reason, after)) :
    daemon.Admits request desk ∧
      daemon.dispatch request desk.kernel = (.error reason, after.kernel) := by
  unfold Daemon.answer at answered
  have cases := outcome_cases daemon request desk
  cases produced : daemon.outcome request desk with
  | mk result middle =>
      rw [produced] at answered cases
      cases result with
      | ok outcome => cases answered
      | error reason =>
          cases answered
          rcases cases with ⟨admits, result, kernel⟩ | ⟨_, _, error, _, same⟩
          · exact ⟨admits, Prod.ext result.symm kernel.symm⟩
          · cases same

/-- A response that goes out is written after those before it; without one nothing is. -/
theorem respond_cases {connection after : Connection K} {result : Except String Unit}
    (responded : daemon.respond serdeResponse request connection = (result, after)) :
    (∃ response frame, result = .ok () ∧
        daemon.Answers request connection.desk response after.desk.kernel ∧
        encode serdeResponse response = .ok frame ∧
        after.written = connection.written ++ frame) ∨
      (∃ reason, result = .error reason ∧ after.written = connection.written ∧
        daemon.Admits request connection.desk ∧
        daemon.dispatch request connection.desk.kernel = (.error reason, after.desk.kernel)) ∨
      ∃ response reason, result = .error ("Serialization error: " ++ reason) ∧
        after.written = connection.written ∧
        daemon.Answers request connection.desk response after.desk.kernel ∧
        encode serdeResponse response = .error (.serialization reason) := by
  unfold Daemon.respond at responded
  cases answered : daemon.answer request connection.desk with
  | mk produced middle =>
      rw [answered] at responded
      cases produced with
      | error reason =>
          cases responded
          have refused := answer_error answered
          exact .inr (.inl ⟨reason, rfl, rfl, refused⟩)
      | ok response =>
          have answers := answer_ok answered
          cases encoded : encode serdeResponse response with
          | error error =>
              obtain ⟨reason⟩ := error
              simp only [encoded] at responded
              cases responded
              exact .inr (.inr ⟨response, reason, rfl, rfl, answers, encoded⟩)
          | ok frame =>
              simp only [encoded] at responded
              cases responded
              exact .inl ⟨response, frame, rfl, answers, encoded, rfl⟩

/-- What a connection did up to its end, whatever its bytes are and however they arrive. -/
theorem handleConnection_attended {chunks : List Chunk} {start last : Connection K}
    {result : Except ConnectionError Unit}
    (handled : handleConnection serdeRequest (daemon.respond serdeResponse) ending chunks start =
      (result, last)) :
    ∃ turns rest desk frames,
      daemon.Attended serdeRequest ending chunks start.desk turns rest desk ∧
      List.Forall₂ (fun turn frame => encode serdeResponse turn.2 = .ok frame) turns frames ∧
      last.written = start.written ++ frames.flatten ∧
      daemon.Stopped serdeRequest serdeResponse ending rest desk result last.desk.kernel := by
  induction length : (content chunks).length using Nat.strong_induction_on
    generalizing chunks start with
  | _ length ih =>
      rw [handleConnection_eq] at handled
      cases read : nextRequest serdeRequest ending chunks with
      | error error =>
          rw [read] at handled
          cases handled
          exact ⟨[], chunks, last.desk, [], .done _ _, .nil, (List.append_nil _).symm,
            .broken read⟩
      | ok next =>
          cases next with
          | none =>
              rw [read] at handled
              cases handled
              exact ⟨[], chunks, last.desk, [], .done _ _, .nil, (List.append_nil _).symm,
                .ended read⟩
          | some found =>
              obtain ⟨request, rest⟩ := found
              rw [read] at handled
              cases responded : daemon.respond serdeResponse request start with
              | mk outcome middle =>
                  simp only [responded] at handled
                  rcases respond_cases responded with
                    ⟨response, frame, rfl, answers, encoded, written⟩ |
                    ⟨reason, rfl, written, admits, dispatched⟩ |
                    ⟨response, reason, rfl, written, answers, unencoded⟩
                  · have shorter := nextRequest_content read
                    obtain ⟨turns, left, desk, frames, attended, sent, later, stopped⟩ :=
                      ih _ (by omega) handled rfl
                    refine ⟨(request, response) :: turns, left, desk, frame :: frames,
                      .turn read answers attended, .cons encoded sent, ?_, stopped⟩
                    rw [later, written, List.flatten_cons, List.append_assoc]
                  · cases handled
                    exact ⟨[], chunks, start.desk, [], .done _ _, .nil,
                      by rw [written, List.flatten_nil, List.append_nil],
                      .failed read admits dispatched⟩
                  · cases handled
                    exact ⟨[], chunks, start.desk, [], .done _ _, .nil,
                      by rw [written, List.flatten_nil, List.append_nil],
                      .unsent read answers unencoded⟩

/-- A request is read from bytes of the connection, and what is left follows them. -/
theorem nextRequest_body {chunks rest : List Chunk}
    (read : nextRequest serdeRequest ending chunks = .ok (some (request, rest))) :
    ∃ header body, content chunks = header ++ body ++ content rest ∧
      serdeRequest.fromSlice body = .ok request := by
  unfold nextRequest at read
  cases header : readExact 4 chunks with
  | none => cases ending <;> simp [header] at read
  | some found =>
      obtain ⟨length, later⟩ := found
      by_cases exceeds : ofBigEndian length > maxFrameBytes
      · simp [header, exceeds] at read
      · cases body : readExact (ofBigEndian length) later with
        | none => simp [header, exceeds, body] at read
        | some found =>
            obtain ⟨bytes, left⟩ := found
            cases parsed : serdeRequest.fromSlice bytes with
            | error reason => simp [header, exceeds, body, parsed] at read
            | ok value =>
                simp only [header, exceeds, if_false, body, parsed] at read
                cases read
                refine ⟨length, bytes, ?_, parsed⟩
                rw [(readExact_content header).2, (readExact_content body).2, List.append_assoc]

/-- Nobody in these bytes knows the token of the session. -/
def Stranger (daemon : Daemon K) (serde : SerdeJson NKIRequest) (bytes : Bytes) : Prop :=
  ∀ body request, body <:+: bytes → serde.fromSlice body = .ok request →
    request.sessionToken ≠ daemon.sessionToken

/-- A stranger's next request is not admitted, and what follows is a stranger's too. -/
theorem Stranger.next {chunks rest : List Chunk}
    (stranger : Stranger daemon serdeRequest (content chunks))
    (set : daemon.sessionToken ≠ "")
    (read : nextRequest serdeRequest ending chunks = .ok (some (request, rest))) :
    ¬daemon.Admits request desk ∧ Stranger daemon serdeRequest (content rest) := by
  obtain ⟨header, body, bytes, parsed⟩ := nextRequest_body read
  have inside : body <:+: content chunks := ⟨header, content rest, bytes.symm⟩
  have later : content rest <:+ content chunks := ⟨header ++ body, bytes.symm⟩
  constructor
  · intro admits
    rcases admits.session with unset | same
    · exact set unset
    · exact stranger body request inside parsed same
  · intro other found within
    exact stranger other found (within.trans later.isInfix)

/-- Every turn of a stranger ends with an error of the gate. -/
theorem Daemon.Attended.stranger {chunks rest : List Chunk} {final : Desk K}
    {turns : List (NKIRequest × NKIResponse)}
    (attended : daemon.Attended serdeRequest ending chunks desk turns rest final)
    (set : daemon.sessionToken ≠ "")
    (stranger : Stranger daemon serdeRequest (content chunks)) :
    final.kernel = desk.kernel ∧ Stranger daemon serdeRequest (content rest) ∧
      ∀ turn ∈ turns, turn.2.outcome ∈ gateErrors := by
  induction attended with
  | done => exact ⟨rfl, stranger, by simp⟩
  | turn read answers _ ih =>
      obtain ⟨denied, later⟩ := stranger.next set read
      obtain ⟨kernel, remains, errors⟩ := ih later
      rcases answers.outcome with ⟨admits, _⟩ | ⟨_, error, kept⟩
      · exact absurd admits denied
      · refine ⟨kernel.trans kept, remains, ?_⟩
        intro turn member
        rcases List.mem_cons.mp member with rfl | member
        · exact error
        · exact errors turn member

/-- Where a stranger's connection stops, the kernel is as it was before. -/
theorem Daemon.Stopped.stranger {chunks : List Chunk} {result : Except ConnectionError Unit}
    {kernel : K}
    (stopped : daemon.Stopped serdeRequest serdeResponse ending chunks desk result kernel)
    (set : daemon.sessionToken ≠ "")
    (stranger : Stranger daemon serdeRequest (content chunks)) : kernel = desk.kernel := by
  cases stopped with
  | ended => rfl
  | broken => rfl
  | failed read admitted => exact absurd admitted (stranger.next set read).1
  | unsent read answers =>
      rcases answers.outcome with ⟨admits, _⟩ | ⟨_, _, kept⟩
      · exact absurd admits (stranger.next set read).1
      · exact kept

/-- What was encoded within the limit is framed. -/
theorem framed_responses {turns : List (NKIRequest × NKIResponse)} {frames : List Bytes}
    (sent : List.Forall₂ (fun turn frame => encode serdeResponse turn.2 = .ok frame) turns frames)
    (fits : ∀ turn ∈ turns, ∀ body, serdeResponse.toVec turn.2 = .ok body →
      body.length ≤ maxFrameBytes) :
    List.Forall₂ (Framed serdeResponse) (turns.map Prod.snd) frames := by
  rw [List.forall₂_map_left_iff]
  induction sent with
  | nil => exact .nil
  | @cons turn frame turns _ encoded _ ih =>
      refine .cons ?_ (ih fun other member => fits other (List.mem_cons_of_mem _ member))
      cases serialized : serdeResponse.toVec turn.2 with
      | error reason => simp [encode, serialized] at encoded
      | ok body =>
          exact ⟨encoded, body, serialized, fits turn List.mem_cons_self body serialized⟩

end Run

/-! ### The gate -/

/-- Over any bytes in any chunks the connection answers one request after another in the
order of its bytes. The kernel moves only with the dispatch of a request that passes the
checks; any other request gets an error of the gate. What is written is one frame for each
request, and if their texts read as they were written and are within the limit, a client
reads these responses back. -/
theorem gate_guards {K : Type} (daemon : Daemon K) (serdeRequest : SerdeJson NKIRequest)
    (serdeResponse : SerdeJson NKIResponse) (ending : ReadError) (chunks : List Chunk)
    (desk : Desk K) :
    ∃ turns rest middle frames,
      daemon.Attended serdeRequest ending chunks desk turns rest middle ∧
      List.Forall₂ (fun turn frame => encode serdeResponse turn.2 = .ok frame) turns frames ∧
      (handleConnection serdeRequest (daemon.respond serdeResponse) ending chunks
        ⟨desk, []⟩).2.written = frames.flatten ∧
      daemon.Stopped serdeRequest serdeResponse ending rest middle
        (handleConnection serdeRequest (daemon.respond serdeResponse) ending chunks ⟨desk, []⟩).1
        (handleConnection serdeRequest (daemon.respond serdeResponse) ending chunks
          ⟨desk, []⟩).2.desk.kernel ∧
      ((∀ turn ∈ turns, serdeResponse.readBack turn.2 = .ok turn.2) →
        (∀ turn ∈ turns, ∀ body, serdeResponse.toVec turn.2 = .ok body →
          body.length ≤ maxFrameBytes) →
        ∀ stop replies, content replies = frames.flatten →
          readResponses serdeResponse stop replies = (turns.map Prod.snd, .io stop)) := by
  have ran : handleConnection serdeRequest (daemon.respond serdeResponse) ending chunks
      ⟨desk, []⟩ = (_, _) := rfl
  obtain ⟨turns, rest, middle, frames, attended, sent, written, stopped⟩ :=
    handleConnection_attended ran
  refine ⟨turns, rest, middle, frames, attended, sent, written, stopped, ?_⟩
  intro reads fits stop replies arrives
  refine readResponses_frames ?_ (framed_responses sent fits) arrives
  intro response member
  obtain ⟨turn, found, rfl⟩ := List.mem_map.mp member
  exact reads turn found

/-- Behind a session token the kernel is out of reach of whoever does not know it: such a
connection leaves it as it was, and gets nothing but errors of the gate. -/
theorem strangers_kept_out {K : Type} (daemon : Daemon K) (serdeRequest : SerdeJson NKIRequest)
    (serdeResponse : SerdeJson NKIResponse) (ending : ReadError) (chunks : List Chunk)
    (desk : Desk K) (set : daemon.sessionToken ≠ "")
    (stranger : Stranger daemon serdeRequest (content chunks)) :
    (handleConnection serdeRequest (daemon.respond serdeResponse) ending chunks
        ⟨desk, []⟩).2.desk.kernel = desk.kernel ∧
      ∃ responses frames,
        List.Forall₂ (fun response frame => encode serdeResponse response = .ok frame)
          responses frames ∧
        (handleConnection serdeRequest (daemon.respond serdeResponse) ending chunks
          ⟨desk, []⟩).2.written = frames.flatten ∧
        ∀ response ∈ responses, response.outcome ∈ gateErrors := by
  have ran : handleConnection serdeRequest (daemon.respond serdeResponse) ending chunks
      ⟨desk, []⟩ = (_, _) := rfl
  obtain ⟨turns, rest, middle, frames, attended, sent, written, stopped⟩ :=
    handleConnection_attended ran
  obtain ⟨kernel, remains, errors⟩ := attended.stranger set stranger
  refine ⟨?_, turns.map Prod.snd, frames, ?_, written, ?_⟩
  · exact (stopped.stranger set remains).trans kernel
  · rw [List.forall₂_map_left_iff]
    exact sent
  · intro response member
    obtain ⟨turn, found, rfl⟩ := List.mem_map.mp member
    exact errors turn found

/-- A health check under a token that is not the session's. -/
def knock : NKIRequest where
  requestId := "r-1"
  idempotencyKey := "k-1"
  nkiVersion := 2
  principalId := "rust-sdk"
  sessionToken := "guess"
  namespaceName := "default"
  deadlineUs := 0
  traceparent := ""
  tracestate := ""
  featureFlags := []
  method := "HealthCheck"
  payload := asBytes "\x7b\x7d"

def knockBody : Bytes :=
  asBytes ("\x7b\"request_id\":\"r-1\",\"idempotency_key\":\"k-1\",\"nki_version\":2," ++
    "\"principal_id\":\"rust-sdk\",\"session_token\":\"guess\",\"namespace\":\"default\"," ++
    "\"deadline_us\":0,\"traceparent\":\"\",\"tracestate\":\"\",\"feature_flags\":[]," ++
    "\"method\":\"HealthCheck\",\"payload\":\"e30=\"\x7d")

def serdeKnock : SerdeJson NKIRequest where
  toVec request := if request = knock then .ok knockBody else .error "another request"
  fromSlice body := if body = knockBody then .ok knock else .error "another body"

/-- The kernel counts what is dispatched to it. -/
def doorkeeper : Daemon Nat where
  sessionToken := "0123456789abcdef0123456789abcdef"
  clock := fun _ => 1
  traceId := fun _ => "t-1"
  dispatch := fun _ count => (.ok (.Success .null), count + 1)

def refusalBody : Bytes :=
  asBytes ("\x7b\"request_id\":\"r-1\",\"nki_version\":2,\"server_timestamp_us\":1," ++
    "\"trace_id\":\"t-1\",\"status\":\"error\",\"error\":\x7b\"code\":\"UNAUTHENTICATED\"," ++
    "\"message\":\"local Runtime session is invalid\",\"failed_phase\":\"EXECUTE\"," ++
    "\"cause\":\"\",\"retryable\":false,\"recommended_delay_ms\":0\x7d\x7d")

def serdeRefusal : SerdeJson NKIResponse where
  toVec response :=
    if response.requestId = "r-1" then .ok refusalBody else .error "another response"
  fromSlice body :=
    if body = refusalBody then
      .ok ⟨"r-1", 2, 1, "t-1",
        NKIOutcome.nkiError "UNAUTHENTICATED" "local Runtime session is invalid" false⟩
    else .error "another body"

theorem strangers_kept_out_knock :
    ∃ chunks : List Chunk, content chunks = encodeRaw knockBody ∧
      (handleConnection serdeKnock (doorkeeper.respond serdeRefusal) .unexpectedEof chunks
        ⟨⟨0, 7⟩, []⟩).2.desk.kernel = 7 ∧
      ∃ responses frames,
        List.Forall₂ (fun response frame => encode serdeRefusal response = .ok frame)
          responses frames ∧
        (handleConnection serdeKnock (doorkeeper.respond serdeRefusal) .unexpectedEof chunks
          ⟨⟨0, 7⟩, []⟩).2.written = frames.flatten ∧
        ∀ response ∈ responses, response.outcome ∈ gateErrors := by
  have some : encodeRaw knockBody ≠ [] := by decide
  have arrives : content [⟨encodeRaw knockBody, some⟩] = encodeRaw knockBody :=
    List.append_nil _
  refine ⟨[⟨encodeRaw knockBody, some⟩], arrives, ?_⟩
  refine strangers_kept_out doorkeeper serdeKnock serdeRefusal .unexpectedEof _ ⟨0, 7⟩
    (by decide) ?_
  intro body request _ parsed
  have same : request = knock := by
    unfold serdeKnock at parsed
    by_cases known : body = knockBody
    · simp only [known, if_true] at parsed
      cases parsed
      rfl
    · simp only [known, if_false] at parsed
      cases parsed
  rw [same]
  decide

end NousKernel
