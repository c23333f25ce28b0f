import NousKernel.FrameStream
import NousKernel.Gate
import NousKernel.Stepwise

/-!
A client and the daemon on one connection (`request_inner` in
`nous-runtime-client/src/lib.rs` and `handle_connection` in `nousd/src/main.rs`). Their
bytes move through two pipes in pieces of any size and in any order of steps. A call that
runs into its time limit is dropped where it stands, be it amid its request or amid the
response, and the connection stays in use.
-/

set_option autoImplicit false

namespace NousKernel

open ByteStream LengthPrefixedCodec

/-- How a call ends that yields no payload. -/
inductive CallError where
  | Io (error : ReadError)
  | Timeout
  | Protocol (message : String)
  | Serialization (reason : String)
  | NkiError (body : NKIErrorBody)

def CallError.ofRead : ClientError → CallError
  | .io error => .Io error
  | .protocol reason => .Protocol reason
  | .serialization reason => .Serialization reason

abbrev CallResult : Type := Except CallError Value

/-- The checks of a response, and its outcome. -/
def checkResponse (requestId : String) (response : NKIResponse) : CallResult :=
  if response.requestId ≠ requestId then
    .error (.Protocol "response request_id does not match request")
  else if response.nkiVersion ≠ nkiVersion then
    .error (.Protocol "response NKI version is unsupported")
  else
    match response.outcome with
    | .Success payload => .ok payload
    | .Error error => .error (.NkiError error)

/-- The checks are the client's: they pass a payload exactly where `request_inner` does. -/
theorem requestInner_ok {requestId : String} {response payload : Value} :
    requestInner requestId response = .ok payload ↔
      ∃ decoded, NKIResponse.fromSlice response = .ok decoded ∧
        checkResponse requestId decoded = .ok payload := by
  unfold requestInner checkResponse
  cases NKIResponse.fromSlice response with
  | error error => simp
  | ok decoded =>
      obtain ⟨echoed, version, timestamp, traceId, outcome⟩ := decoded
      by_cases own : echoed = requestId
      · by_cases supported : version = nkiVersion
        · cases outcome <;> simp [own, supported]
        · simp [own, supported]
      · simp [own]

/-- Bytes that arrive at once. -/
def chunksOf (bytes : Bytes) : List Chunk :=
  if some : bytes = [] then [] else [⟨bytes, some⟩]

@[simp] theorem content_chunksOf (bytes : Bytes) : content (chunksOf bytes) = bytes := by
  unfold chunksOf
  by_cases empty : bytes = []
  · rw [dif_pos empty, empty, content_nil]
  · rw [dif_neg empty, content_cons, content_nil, List.append_nil]

/-! ### The two parties -/

inductive ClientPhase where
  | idle
  | writing (request : NKIRequest) (left : Bytes)
  | reading (request : NKIRequest) (got : Bytes)

inductive DaemonPhase where
  | reading (got : Bytes)
  | writing (left : Bytes)
  | closed

/-- A request that the daemon has answered, and between which kernels. -/
structure AnsweredRequest (K : Type) where
  request : NKIRequest
  desk : Desk K
  response : NKIResponse
  kernel : K

/-- What the call of the request makes of the text of the response. -/
def AnsweredRequest.outcome {K : Type} (serde : SerdeJson NKIResponse)
    (entry : AnsweredRequest K) : CallResult :=
  match serde.readBack entry.response with
  | .error reason => .error (.Serialization reason)
  | .ok response => checkResponse entry.request.requestId response

structure Dialogue (K : Type) where
  client : ClientPhase
  results : List (NKIRequest × CallResult)
  toDaemon : Bytes
  toClient : Bytes
  daemon : DaemonPhase
  desk : Desk K
  answered : List (AnsweredRequest K)

/-- What the two parties and the time do. A read or a write moves at most as many bytes as
there are, and as the party waits for. -/
inductive DialogueAction (K : Type) where
  | call (request : NKIRequest)
  | write (count : Nat)
  | arrive (count : Nat)
  | serve
  | answer (count : Nat)
  | receive (count : Nat)
  | finish
  | hangUp (error : ReadError)
  | expire
  | meddle (kernel : K)

namespace Dialogue

variable {K : Type} (daemon : Daemon K) (serdeRequest : SerdeJson NKIRequest)
  (serdeResponse : SerdeJson NKIResponse)

def connected (desk : Desk K) : Dialogue K := ⟨.idle, [], [], [], .reading [], desk, []⟩

/-- The end of the call that is under way. -/
def conclude (dialogue : Dialogue K) (request : NKIRequest) (result : CallResult) : Dialogue K :=
  { dialogue with client := .idle, results := dialogue.results ++ [(request, result)] }

/-- `request_inner` up to its first write. -/
def call (dialogue : Dialogue K) (request : NKIRequest) : Dialogue K :=
  match dialogue.client with
  | .idle =>
      match serdeRequest.toVec request with
      | .error reason => dialogue.conclude request (.error (.Serialization reason))
      | .ok body =>
          if maxFrameBytes < body.length then
            dialogue.conclude request (.error (.Protocol "request exceeds 16 MiB"))
          else { dialogue with client := .writing request (encodeRaw body) }
  | _ => dialogue

def write (dialogue : Dialogue K) (count : Nat) : Dialogue K :=
  match dialogue.client with
  | .writing request left =>
      { dialogue with
        client := if left.drop count = [] then .reading request []
          else .writing request (left.drop count)
        toDaemon := dialogue.toDaemon ++ left.take count }
  | _ => dialogue

/-- The daemon reads of what has arrived. -/
def arrive (dialogue : Dialogue K) (count : Nat) : Dialogue K :=
  match dialogue.daemon with
  | .reading got =>
      let taken := min count (wanted maxFrameBytes got)
      { dialogue with
        daemon := .reading (got ++ dialogue.toDaemon.take taken)
        toDaemon := dialogue.toDaemon.drop taken }
  | _ => dialogue

/-- A request that is complete is answered. What fails here ends the connection. -/
def serve (dialogue : Dialogue K) : Dialogue K :=
  match dialogue.daemon with
  | .reading got =>
      if wanted maxFrameBytes got = 0 then
        match nextRequest serdeRequest .unexpectedEof (chunksOf got) with
        | .ok (some (request, _)) =>
            match daemon.answer request dialogue.desk with
            | (.error _, desk) => { dialogue with daemon := .closed, desk }
            | (.ok response, desk) =>
                match encode serdeResponse response with
                | .error _ => { dialogue with daemon := .closed, desk }
                | .ok frame =>
                    { dialogue with
                      daemon := .writing frame
                      desk
                      answered := dialogue.answered ++
                        [⟨request, dialogue.desk, response, desk.kernel⟩] }
        | _ => { dialogue with daemon := .closed }
      else dialogue
  | _ => dialogue

def answer (dialogue : Dialogue K) (count : Nat) : Dialogue K :=
  match dialogue.daemon with
  | .writing left =>
      { dialogue with
        daemon := if left.drop count = [] then .reading [] else .writing (left.drop count)
        toClient := dialogue.toClient ++ left.take count }
  | _ => dialogue

/-- The client reads of what has arrived. -/
def receive (dialogue : Dialogue K) (count : Nat) : Dialogue K :=
  match dialogue.client with
  | .reading request got =>
      let taken := min count (wanted maxFrameBytes got)
      { dialogue with
        client := .reading request (got ++ dialogue.toClient.take taken)
        toClient := dialogue.toClient.drop taken }
  | _ => dialogue

/-- A response that is complete, or too long, ends the call. -/
def finish (dialogue : Dialogue K) : Dialogue K :=
  match dialogue.client with
  | .reading request got =>
      if wanted maxFrameBytes got = 0 then
        dialogue.conclude request
          (match readResponse serdeResponse .unexpectedEof (chunksOf got) with
          | .error error => .error (.ofRead error)
          | .ok (response, _) => checkResponse request.requestId response)
      else dialogue
  | _ => dialogue

/-- A closed connection is noticed at a write or a read. -/
def hangUp (dialogue : Dialogue K) (error : ReadError) : Dialogue K :=
  match dialogue.daemon, dialogue.client with
  | .closed, .writing request _ => dialogue.conclude request (.error (.Io error))
  | .closed, .reading request _ => dialogue.conclude request (.error (.Io error))
  | _, _ => dialogue

/-- The time limit of a call. What it has not written by then is never written. -/
def expire (dialogue : Dialogue K) : Dialogue K :=
  match dialogue.client with
  | .idle => dialogue
  | .writing request _ => dialogue.conclude request (.error .Timeout)
  | .reading request _ => dialogue.conclude request (.error .Timeout)

def step (dialogue : Dialogue K) : DialogueAction K → Dialogue K
  | .call request => dialogue.call serdeRequest request
  | .write count => dialogue.write count
  | .arrive count => dialogue.arrive count
  | .serve => dialogue.serve daemon serdeRequest serdeResponse
  | .answer count => dialogue.answer count
  | .receive count => dialogue.receive count
  | .finish => dialogue.finish serdeResponse
  | .hangUp error => dialogue.hangUp error
  | .expire => dialogue.expire
  | .meddle kernel => { dialogue with desk := { dialogue.desk with kernel } }

/-! ### What is under way -/

def clientLeft (dialogue : Dialogue K) : Bytes :=
  match dialogue.client with
  | .writing _ left => left
  | _ => []

def clientGot (dialogue : Dialogue K) : Bytes :=
  match dialogue.client with
  | .reading _ got => got
  | _ => []

def daemonLeft (dialogue : Dialogue K) : Bytes :=
  match dialogue.daemon with
  | .writing left => left
  | _ => []

def daemonGot (dialogue : Dialogue K) : Bytes :=
  match dialogue.daemon with
  | .reading got => got
  | _ => []

def calling (dialogue : Dialogue K) : Option NKIRequest :=
  match dialogue.client with
  | .idle => none
  | .writing request _ => some request
  | .reading request _ => some request

end Dialogue

/-! ### Compact JSON -/

/-- How the text of a response begins. -/
def responseOpening : Bytes := asBytes "\x7b\"re"

/-- What a text that is read as an object may begin with. -/
def objectStarts : List UInt8 := [0x7b, 0x20, 0x09, 0x0a, 0x0d]

/-- What `serde_json` keeps for a type with flattened members: it writes no control
characters and no blanks around a value, reads an object only, and no part of one. -/
structure SerdeJson.Compact {Message : Type} (serde : SerdeJson Message) (opening : Bytes) :
    Prop where
  opens : ∀ message body, serde.toVec message = .ok body → opening <+: body
  printable : ∀ message body, serde.toVec message = .ok body → ∀ byte ∈ body, 32 ≤ byte.toNat
  object : ∀ text message, serde.fromSlice text = .ok message →
    ∃ first ∈ objectStarts, text[0]? = some first
  whole : ∀ message body text other, serde.toVec message = .ok body → text <+: body →
    serde.fromSlice text = .ok other → text = body

def SerdeJson.Writes {Message : Type} (serde : SerdeJson Message) (body : Bytes) : Prop :=
  ∃ message, serde.toVec message = .ok body

def SerdeJson.Accepts {Message : Type} (serde : SerdeJson Message) (text : Bytes) : Prop :=
  ∃ message, serde.fromSlice text = .ok message

section Read

variable {Message : Type} {serde : SerdeJson Message} {ending : ReadError} {got : Bytes}

/-- A reader that waits for nothing more has a length and the text of this length. -/
theorem readExact_chunksOf (within : Within maxFrameBytes got)
    (spent : wanted maxFrameBytes got = 0) {length text : Bytes} {middle rest : List Chunk}
    (header : readExact 4 (chunksOf got) = some (length, middle))
    (inLimit : ¬ofBigEndian length > maxFrameBytes)
    (read : readExact (ofBigEndian length) middle = some (text, rest)) :
    got.take 4 = length ∧ got.length = 4 + ofBigEndian length ∧ got.drop 4 = text := by
  have front := readExact_content header
  have back := readExact_content read
  rw [content_chunksOf] at front
  have four : got.take 4 = length := by rw [front.2, List.take_left' front.1]
  rcases wanted_zero within spent with ⟨_, excess⟩ | ⟨fits, whole⟩
  · rw [four] at excess
    omega
  · have total := congrArg List.length front.2
    have parts := congrArg List.length back.2
    rw [List.length_append] at total parts
    rw [four] at whole
    have ended : content rest = [] := List.eq_nil_of_length_eq_zero (by omega)
    refine ⟨four, whole, ?_⟩
    rw [front.2, List.drop_left' front.1, back.2, ended, List.append_nil]

/-- A response that is read is the text behind its length. -/
theorem readResponse_chunksOf {message : Message} {rest : List Chunk}
    (within : Within maxFrameBytes got) (spent : wanted maxFrameBytes got = 0)
    (read : readResponse serde ending (chunksOf got) = .ok (message, rest)) :
    ofBigEndian (got.take 4) ≤ maxFrameBytes ∧ got.length = 4 + ofBigEndian (got.take 4) ∧
      serde.fromSlice (got.drop 4) = .ok message := by
  unfold readResponse at read
  cases header : readExact 4 (chunksOf got) with
  | none => simp [header] at read
  | some found =>
      obtain ⟨length, later⟩ := found
      by_cases exceeds : ofBigEndian length > maxFrameBytes
      · simp [header, exceeds] at read
      · cases body : readExact (ofBigEndian length) later with
        | none => simp [header, exceeds, body] at read
        | some found =>
            obtain ⟨text, left⟩ := found
            obtain ⟨four, whole, rest⟩ := readExact_chunksOf within spent header exceeds body
            cases parsed : serde.fromSlice text with
            | error reason => simp [header, exceeds, body, parsed] at read
            | ok value =>
                simp only [header, exceeds, if_false, body, parsed] at read
                cases read
                rw [four, rest]
                exact ⟨by omega, whole, parsed⟩

/-- So is a request. -/
theorem nextRequest_chunksOf {message : Message} {rest : List Chunk}
    (within : Within maxFrameBytes got) (spent : wanted maxFrameBytes got = 0)
    (read : nextRequest serde ending (chunksOf got) = .ok (some (message, rest))) :
    got.length = 4 + ofBigEndian (got.take 4) ∧ serde.fromSlice (got.drop 4) = .ok message := by
  unfold nextRequest at read
  cases header : readExact 4 (chunksOf got) with
  | none => cases ending <;> simp [header] at read
  | some found =>
      obtain ⟨length, later⟩ := found
      by_cases exceeds : ofBigEndian length > maxFrameBytes
      · simp [header, exceeds] at read
      · cases body : readExact (ofBigEndian length) later with
        | none => simp [header, exceeds, body] at read
        | some found =>
            obtain ⟨text, left⟩ := found
            obtain ⟨four, whole, rest⟩ := readExact_chunksOf within spent header exceeds body
            cases parsed : serde.fromSlice text with
            | error reason => simp [header, exceeds, body, parsed] at read
            | ok value =>
                simp only [header, exceeds, if_false, body, parsed] at read
                cases read
                rw [four, rest]
                exact ⟨whole, parsed⟩

theorem Framed.frame {message : Message} {bytes : Bytes} (framed : Framed serde message bytes) :
    ∃ body, serde.Writes body ∧ bytes = frame body ∧ body.length ≤ maxFrameBytes ∧
      body.length < 2 ^ 32 := by
  obtain ⟨encoded, body, serialized, fits⟩ := framed
  have limit : maxFrameBytes < 2 ^ 32 := by decide
  rw [encode_ok serialized] at encoded
  exact ⟨body, ⟨message, serialized⟩, (Except.ok.inj encoded).symm, fits, by omega⟩

theorem Framed.ne_nil {message : Message} {bytes : Bytes} (framed : Framed serde message bytes) :
    bytes ≠ [] := by
  obtain ⟨body, -, rfl, -, -⟩ := framed.frame
  intro empty
  have size := length_frame body
  rw [empty] at size
  simp at size
  omega

/-- A reader that began at a frame and waits for nothing more has just that frame. -/
theorem Framed.whole {message : Message} {bytes later rest : Bytes}
    (framed : Framed serde message bytes) (within : Within maxFrameBytes got)
    (spent : wanted maxFrameBytes got = 0) (reads : got ++ rest = bytes ++ later) :
    got = bytes ∧ rest = later := by
  obtain ⟨body, -, rfl, fits, small⟩ := framed.frame
  have aligned := aligned_prefix small within reads
  have waits := aligned_wanted small fits aligned
  have size := length_frame body
  have whole : got.length = (ByteStream.frame body).length := by
    by_cases short : got.length < 4
    · rw [if_pos short] at waits
      omega
    · rw [if_neg short] at waits
      omega
  have same := aligned.eq_of_length whole
  rw [same] at reads
  exact ⟨same, List.append_cancel_left reads⟩

/-- The frame of a request that reads back is read as that request. -/
theorem Framed.nextRequest {message : Message} (reads : serde.readBack message = .ok message)
    (framed : Framed serde message got) :
    ∃ rest, NousKernel.nextRequest serde .unexpectedEof (chunksOf got) =
      .ok (some (message, rest)) := by
  have arrives : content (chunksOf got) = got ++ [] := by
    rw [content_chunksOf, List.append_nil]
  obtain ⟨rest, -, read⟩ := nextRequest_frame reads framed arrives
  exact ⟨rest, read⟩

/-- The frame of a response is read as its text is. -/
theorem Framed.readResponse {message : Message} (framed : Framed serde message got) :
    ∃ rest, NousKernel.readResponse serde .unexpectedEof (chunksOf got) =
      match serde.readBack message with
      | .error reason => .error (.serialization reason)
      | .ok response => .ok (response, rest) := by
  have arrives : content (chunksOf got) = got ++ [] := by
    rw [content_chunksOf, List.append_nil]
  obtain ⟨rest, -, read⟩ := @readResponse_frame _ _ _ _ _ .unexpectedEof _ framed arrives
  exact ⟨rest, read⟩

/-- A frame among those of a list of messages is the frame of one of them. -/
theorem encoded_member {messages : List Message} {frames earlier later : List Bytes}
    {found : Bytes}
    (encoded : List.Forall₂ (fun message frame => encode serde message = .ok frame)
      messages frames)
    (parts : frames = earlier ++ found :: later) :
    ∃ message ∈ messages, ∃ body, serde.toVec message = .ok body ∧ found = frame body := by
  rw [parts] at encoded
  have here := List.forall₂_drop_append messages earlier _ encoded
  rw [List.forall₂_cons_right_iff] at here
  obtain ⟨message, others, made, _, list⟩ := here
  refine ⟨message, List.mem_of_mem_drop (by rw [list]; exact List.mem_cons_self), ?_⟩
  unfold encode at made
  cases serialized : serde.toVec message with
  | error reason => simp [serialized] at made
  | ok body =>
      simp only [serialized] at made
      cases made
      exact ⟨body, rfl, rfl⟩

/-- Wherever in the frames a read begins, the response that it accepts is what the text of
one of theirs reads as. -/
theorem SerdeJson.Compact.located {opening before rest : Bytes} (compact : serde.Compact opening)
    (four : opening.length = 4) (apart : ∀ byte ∈ opening.drop 1, byte ∉ objectStarts)
    {messages : List Message} {frames : List Bytes}
    (encoded : List.Forall₂ (fun message frame => encode serde message = .ok frame)
      messages frames)
    (reads : before ++ (got ++ rest) = frames.flatten)
    (within : Within maxFrameBytes got) (spent : wanted maxFrameBytes got = 0)
    {message : Message} {left : List Chunk}
    (read : readResponse serde ending (chunksOf got) = .ok (message, left)) :
    ∃ sent ∈ messages, serde.readBack sent = .ok message := by
  obtain ⟨fits, whole, parsed⟩ := readResponse_chunksOf within spent read
  have some : got ++ rest ≠ [] := by
    intro empty
    rw [List.append_eq_nil_iff] at empty
    rw [empty.1] at whole
    simp at whole
    omega
  obtain ⟨earlier, found, later, inner, parts, inside, -, place⟩ := ByteStream.located reads some
  obtain ⟨sent, member, body, serialized, rfl⟩ := encoded_member encoded parts
  have opens := compact.opens sent body serialized
  have long : 4 ≤ body.length := four ▸ opens.length_le
  have piece : got <+: (frame body).drop inner ++ later.flatten := ⟨rest, place⟩
  obtain ⟨first, start, text⟩ := compact.object _ _ parsed
  rw [List.getElem?_drop] at text
  by_cases began : inner = 0
  · -- At a frame: the text is the front of its body, hence all of it.
    subst began
    rw [List.drop_zero] at place
    have length := take_four (by omega) place
    have front : got.drop 4 <+: body := by
      have aligned : got <+: frame body := by
        refine List.prefix_of_prefix_length_le ⟨rest, place⟩ ⟨later.flatten, rfl⟩ ?_
        have size := length_frame body
        have cast := Nat.mod_le body.length (2 ^ 32)
        omega
      obtain ⟨behind, split⟩ := aligned
      refine ⟨behind, ?_⟩
      have dropped := congrArg (List.drop 4) split
      rw [List.drop_append_of_le_length (by omega), frame,
        List.drop_left' (Sha256.length_bigEndian 4 _)] at dropped
      exact dropped
    have same := compact.whole sent body _ message serialized front parsed
    rw [same] at parsed
    exact ⟨sent, member, (readBack_eq serialized).trans parsed⟩
  · -- Behind the start of a frame: the text does not begin as an object does.
    obtain ⟨early, next⟩ := misaligned (by decide) long
      (compact.printable sent body serialized) (by omega) inside piece (by omega) fits
    have more : 4 < got.length := by
      have within := (List.getElem?_eq_some_iff.mp text).1
      omega
    have byte : body[inner]? = .some first := by
      rw [← next more, ← text]
    have inOpening : opening[inner]? = .some first := by
      obtain ⟨others, rfl⟩ := opens
      rw [← byte, List.getElem?_append_left (by omega)]
    have listed : first ∈ opening.drop 1 := by
      apply List.mem_of_getElem? (i := inner - 1)
      rw [List.getElem?_drop, show 1 + (inner - 1) = inner by omega]
      exact inOpening
    exact absurd start (apart first listed)

end Read

end NousKernel
