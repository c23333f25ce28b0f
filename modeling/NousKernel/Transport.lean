import NousKernel.ByteStream
import NousKernel.Storage

/-!
The framing of NKI messages (`nous-nki/src/transport.rs`), the read loop of the daemon
(`nousd/src/main.rs`) and the read of a response by the client
(`nous-runtime-client/src/lib.rs`). A connection delivers its bytes in chunks of any
size and then ends, or fails.
-/

set_option autoImplicit false

namespace NousKernel

open ByteStream

/-- `serde_json::to_vec` and `serde_json::from_slice` at one type. -/
structure SerdeJson (Message : Type) where
  toVec : Message → Except String Bytes
  fromSlice : Bytes → Except String Message

def SerdeJson.RoundTrips {Message : Type} (serde : SerdeJson Message) : Prop :=
  ∀ message body, serde.toVec message = .ok body → serde.fromSlice body = .ok message

/-- What is read from the text of a message. -/
def SerdeJson.readBack {Message : Type} (serde : SerdeJson Message) (message : Message) :
    Except String Message := do
  let body ← serde.toVec message
  serde.fromSlice body

inductive TransportError where
  | serialization (reason : String)
  deriving DecidableEq, Repr

/-! ### The codec -/

namespace LengthPrefixedCodec

/-- The length is cast to 32 bits. -/
def encodeRaw (bytes : Bytes) : Bytes :=
  Sha256.bigEndian 4 (bytes.length % 2 ^ 32) ++ bytes

def encode {Message : Type} (serde : SerdeJson Message) (msg : Message) :
    Except TransportError Bytes :=
  match serde.toVec msg with
  | .error reason => .error (.serialization reason)
  | .ok body => .ok (Sha256.bigEndian 4 (body.length % 2 ^ 32) ++ body)

def decode {Message : Type} (serde : SerdeJson Message) (data : Bytes) :
    Except TransportError Message :=
  if data.length < 4 then .error (.serialization "Message too short")
  else
    let len := ofBigEndian (data.take 4)
    if data.length < 4 + len then .error (.serialization "Message truncated")
    else (serde.fromSlice ((data.drop 4).take len)).mapError .serialization

end LengthPrefixedCodec

open LengthPrefixedCodec

/-! ### The two readers -/

def maxFrameBytes : Nat := 16 * 1024 * 1024

/-- Why a read stops. -/
inductive ReadError where
  | unexpectedEof
  | failed (reason : String)
  deriving DecidableEq, Repr

inductive ConnectionError where
  | io (error : ReadError)
  | frame (reason : String)
  | json (reason : String)
  | dispatch (reason : String)
  deriving DecidableEq, Repr

/-- The rest of an iteration: the dispatch of a request and the write of its response. -/
abbrev Respond (Request World : Type) : Type := Request → World → Except String Unit × World

/-- Two reads of which the first takes something leave less. -/
theorem content_shrinks {count : Nat} {chunks middle : List Chunk} {header : Bytes}
    {found : Bytes × List Chunk} (first : readExact 4 chunks = some (header, middle))
    (second : readExact count middle = some found) :
    (content found.2).length < (content chunks).length := by
  have front := readExact_content first
  have back := readExact_content second
  rw [front.2, back.2]
  simp only [List.length_append]
  omega

/-- The head of the loop: the next request, or nothing at the end. -/
def nextRequest {Request : Type} (serde : SerdeJson Request) (ending : ReadError)
    (chunks : List Chunk) : Except ConnectionError (Option (Request × List Chunk)) :=
  match readExact 4 chunks with
  | none =>
      match ending with
      | .unexpectedEof => .ok none
      | .failed reason => .error (.io (.failed reason))
  | some (length, rest) =>
      let bodyLength := ofBigEndian length
      if bodyLength > maxFrameBytes then .error (.frame "NKI frame exceeds 16 MiB")
      else
        match readExact bodyLength rest with
        | none => .error (.io ending)
        | some (body, rest) =>
            match serde.fromSlice body with
            | .error reason => .error (.json reason)
            | .ok request => .ok (some (request, rest))

theorem nextRequest_content {Request : Type} {serde : SerdeJson Request} {ending : ReadError}
    {chunks rest : List Chunk} {request : Request}
    (read : nextRequest serde ending chunks = .ok (some (request, rest))) :
    (content rest).length < (content chunks).length := by
  unfold nextRequest at read
  cases header : readExact 4 chunks with
  | none => cases ending <;> simp [header] at read
  | some found =>
      obtain ⟨length, later⟩ := found
      by_cases exceeds : ofBigEndian length > maxFrameBytes
      · simp [header, exceeds] at read
      · cases body : readExact (ofBigEndian length) later with
        | none => simp [header, exceeds, body] at read
        | some found =>
            cases parsed : serde.fromSlice found.1 with
            | error reason => simp [header, exceeds, body, parsed] at read
            | ok value =>
                have same : found.2 = rest := by
                  simp only [header, exceeds, if_false, body, parsed] at read
                  cases read
                  rfl
                rw [← same]
                exact content_shrinks header body

/-- The loop over a connection that delivers these chunks and then ends in this way. -/
def handleConnection {Request World : Type} (serde : SerdeJson Request)
    (respond : Respond Request World) (ending : ReadError) (chunks : List Chunk)
    (world : World) : Except ConnectionError Unit × World :=
  match read : nextRequest serde ending chunks with
  | .error error => (.error error, world)
  | .ok none => (.ok (), world)
  | .ok (some (request, rest)) =>
      match respond request world with
      | (.error reason, world) => (.error (.dispatch reason), world)
      | (.ok (), world) => handleConnection serde respond ending rest world
termination_by (content chunks).length
decreasing_by exact nextRequest_content read

/-- The loop by its next request. -/
theorem handleConnection_eq {Request World : Type} (serde : SerdeJson Request)
    (respond : Respond Request World) (ending : ReadError) (chunks : List Chunk)
    (world : World) :
    handleConnection serde respond ending chunks world =
      match nextRequest serde ending chunks with
      | .error error => (.error error, world)
      | .ok none => (.ok (), world)
      | .ok (some (request, rest)) =>
          match respond request world with
          | (.error reason, world) => (.error (.dispatch reason), world)
          | (.ok (), world) => handleConnection serde respond ending rest world := by
  rw [handleConnection.eq_def]
  split <;> simp [*]

inductive ClientError where
  | io (error : ReadError)
  | protocol (reason : String)
  | serialization (reason : String)
  deriving DecidableEq, Repr

/-- `request_inner` after its request is written, up to the checks of the response. -/
def readResponse {Response : Type} (serde : SerdeJson Response) (ending : ReadError)
    (chunks : List Chunk) : Except ClientError (Response × List Chunk) :=
  match readExact 4 chunks with
  | none => .error (.io ending)
  | some (lenBuf, rest) =>
      let msgLen := ofBigEndian lenBuf
      if msgLen > maxFrameBytes then .error (.protocol "response exceeds 16 MiB")
      else
        match readExact msgLen rest with
        | none => .error (.io ending)
        | some (msgBuf, rest) =>
            match serde.fromSlice msgBuf with
            | .error reason => .error (.serialization reason)
            | .ok response => .ok (response, rest)

theorem readResponse_content {Response : Type} {serde : SerdeJson Response} {ending : ReadError}
    {chunks rest : List Chunk} {response : Response}
    (read : readResponse serde ending chunks = .ok (response, rest)) :
    (content rest).length < (content chunks).length := by
  unfold readResponse at read
  cases header : readExact 4 chunks with
  | none => simp [header] at read
  | some found =>
      obtain ⟨lenBuf, later⟩ := found
      by_cases exceeds : ofBigEndian lenBuf > maxFrameBytes
      · simp [header, exceeds] at read
      · cases body : readExact (ofBigEndian lenBuf) later with
        | none => simp [header, exceeds, body] at read
        | some found =>
            cases parsed : serde.fromSlice found.1 with
            | error reason => simp [header, exceeds, body, parsed] at read
            | ok value =>
                have same : found.2 = rest := by
                  simp only [header, exceeds, if_false, body, parsed] at read
                  cases read
                  rfl
                rw [← same]
                exact content_shrinks header body

/-- The responses that one request after another reads, and the error that ends them. -/
def readResponses {Response : Type} (serde : SerdeJson Response) (ending : ReadError)
    (chunks : List Chunk) : List Response × ClientError :=
  match read : readResponse serde ending chunks with
  | .error error => ([], error)
  | .ok (response, rest) =>
      let later := readResponses serde ending rest
      (response :: later.1, later.2)
termination_by (content chunks).length
decreasing_by exact readResponse_content read

theorem readResponses_eq {Response : Type} (serde : SerdeJson Response) (ending : ReadError)
    (chunks : List Chunk) :
    readResponses serde ending chunks =
      match readResponse serde ending chunks with
      | .error error => ([], error)
      | .ok (response, rest) =>
          (response :: (readResponses serde ending rest).1,
            (readResponses serde ending rest).2) := by
  rw [readResponses.eq_def]
  split <;> simp [*]

/-! ### Frames -/

/-- The frame of a message whose body is within the limit. -/
def Framed {Message : Type} (serde : SerdeJson Message) (message : Message) (frame : Bytes) :
    Prop :=
  encode serde message = .ok frame ∧
    ∃ body, serde.toVec message = .ok body ∧ body.length ≤ maxFrameBytes

/-- Every request is handled in turn until one fails. -/
def respondAll {Request World : Type} (respond : Respond Request World) :
    List Request → World → Except ConnectionError Unit × World
  | [], world => (.ok (), world)
  | request :: rest, world =>
      match respond request world with
      | (.error reason, world) => (.error (.dispatch reason), world)
      | (.ok (), world) => respondAll respond rest world

section Readers

variable {Message World : Type} {serde : SerdeJson Message} {message : Message}
  {messages : List Message} {frame later : Bytes} {frames : List Bytes}
  {ending : ReadError} {chunks : List Chunk}

theorem encode_ok {body : Bytes} (serialized : serde.toVec message = .ok body) :
    encode serde message = .ok (encodeRaw body) := by
  simp only [encode, serialized, encodeRaw]

theorem readBack_eq {body : Bytes} (serialized : serde.toVec message = .ok body) :
    serde.readBack message = serde.fromSlice body := by
  rw [SerdeJson.readBack, serialized]
  rfl

theorem SerdeJson.RoundTrips.readBack (roundTrips : serde.RoundTrips)
    (framed : Framed serde message frame) : serde.readBack message = .ok message := by
  obtain ⟨-, body, serialized, -⟩ := framed
  rw [readBack_eq serialized, roundTrips message body serialized]

/-- A frame is the length of its body, which 32 bits hold, and the body. -/
theorem Framed.parts (framed : Framed serde message frame) :
    ∃ body, frame = Sha256.bigEndian 4 body.length ++ body ∧ body.length ≤ maxFrameBytes ∧
      ofBigEndian (Sha256.bigEndian 4 body.length) = body.length ∧
      serde.fromSlice body = serde.readBack message := by
  obtain ⟨encoded, body, serialized, within⟩ := framed
  have small : body.length < 2 ^ 32 := by
    have limit : maxFrameBytes < 2 ^ 32 := by decide
    omega
  have cast : body.length % 2 ^ 32 = body.length := Nat.mod_eq_of_lt small
  refine ⟨body, ?_, within, ?_, (readBack_eq serialized).symm⟩
  · rw [encode_ok serialized, encodeRaw, cast] at encoded
    exact (Except.ok.inj encoded).symm
  · rw [ofBigEndian_bigEndian]
    exact Nat.mod_eq_of_lt small

/-- A read of the length and a read of the body take exactly the first frame. -/
theorem Framed.reads (framed : Framed serde message frame)
    (arrives : content chunks = frame ++ later) :
    ∃ length body middle rest, readExact 4 chunks = some (length, middle) ∧
      ofBigEndian length ≤ maxFrameBytes ∧
      readExact (ofBigEndian length) middle = some (body, rest) ∧
      serde.fromSlice body = serde.readBack message ∧ content rest = later := by
  obtain ⟨body, parts, within, length, parsed⟩ := framed.parts
  rw [parts, List.append_assoc] at arrives
  obtain ⟨middle, header, left⟩ := readExact_append arrives
  obtain ⟨rest, read, remains⟩ := readExact_append left
  rw [Sha256.length_bigEndian] at header
  refine ⟨_, body, middle, rest, header, ?_, ?_, parsed, remains⟩
  · rw [length]
    exact within
  · rw [length]
    exact read

theorem framed_of_mem (framed : List.Forall₂ (Framed serde) messages frames)
    (member : message ∈ messages) : ∃ frame, Framed serde message frame := by
  induction framed with
  | nil => cases member
  | cons first _ ih =>
      rcases List.mem_cons.mp member with rfl | later
      · exact ⟨_, first⟩
      · exact ih later

theorem readExact_ended (ended : content chunks = []) : readExact 4 chunks = none := by
  apply readExact_none
  rw [ended]
  decide

theorem nextRequest_frame (reads : serde.readBack message = .ok message)
    (framed : Framed serde message frame) (arrives : content chunks = frame ++ later) :
    ∃ rest, content rest = later ∧
      nextRequest serde ending chunks = .ok (some (message, rest)) := by
  obtain ⟨length, body, middle, rest, header, within, read, parsed, remains⟩ :=
    framed.reads arrives
  refine ⟨rest, remains, ?_⟩
  have inLimit : ¬ ofBigEndian length > maxFrameBytes := by omega
  simp only [nextRequest, header, inLimit, if_false, read, parsed, reads]

/-- The daemon handles exactly the messages, in their order, and returns at the end. -/
theorem handleConnection_frames (respond : Respond Message World) (world : World)
    (reads : ∀ message ∈ messages, serde.readBack message = .ok message)
    (framed : List.Forall₂ (Framed serde) messages frames)
    (arrives : content chunks = frames.flatten) :
    handleConnection serde respond .unexpectedEof chunks world =
      respondAll respond messages world := by
  induction framed generalizing chunks world with
  | nil =>
      have ended : nextRequest serde .unexpectedEof chunks = .ok none := by
        simp only [nextRequest, readExact_ended arrives]
      rw [handleConnection_eq, ended, respondAll]
  | @cons message frame _ _ first _ ih =>
      obtain ⟨rest, remains, next⟩ := @nextRequest_frame _ _ message frame _ .unexpectedEof _
        (reads message List.mem_cons_self) first arrives
      rw [handleConnection_eq, next, respondAll]
      cases handled : respond message world with
      | mk outcome world =>
          cases outcome with
          | error reason => simp only [handled]
          | ok _ =>
              simpa only [handled] using
                ih world (fun other member => reads other (List.mem_cons_of_mem _ member)) remains

/-- A client reads what the text of the message says. -/
theorem readResponse_frame (framed : Framed serde message frame)
    (arrives : content chunks = frame ++ later) :
    ∃ rest, content rest = later ∧
      readResponse serde ending chunks =
        match serde.readBack message with
        | .error reason => .error (.serialization reason)
        | .ok response => .ok (response, rest) := by
  obtain ⟨length, body, middle, rest, header, within, read, parsed, remains⟩ :=
    framed.reads arrives
  refine ⟨rest, remains, ?_⟩
  have inLimit : ¬ ofBigEndian length > maxFrameBytes := by omega
  simp only [readResponse, header, inLimit, if_false, read, parsed]

/-- The client reads exactly the messages, in their order, up to the end. -/
theorem readResponses_frames
    (reads : ∀ message ∈ messages, serde.readBack message = .ok message)
    (framed : List.Forall₂ (Framed serde) messages frames)
    (arrives : content chunks = frames.flatten) :
    readResponses serde ending chunks = (messages, .io ending) := by
  induction framed generalizing chunks with
  | nil =>
      have ended : readResponse serde ending chunks = .error (.io ending) := by
        simp only [readResponse, readExact_ended arrives]
      rw [readResponses_eq, ended]
  | @cons message frame _ _ first _ ih =>
      obtain ⟨rest, remains, next⟩ :=
        @readResponse_frame _ _ message frame _ ending _ first arrives
      rw [readResponses_eq, next, reads message List.mem_cons_self]
      simp only [ih (fun other member => reads other (List.mem_cons_of_mem _ member)) remains]

theorem decode_frame (reads : serde.readBack message = .ok message)
    (framed : Framed serde message frame) : decode serde frame = .ok message := by
  obtain ⟨body, parts, within, length, parsed⟩ := framed.parts
  have header : (Sha256.bigEndian 4 body.length).length = 4 := Sha256.length_bigEndian 4 _
  have total : frame.length = 4 + body.length := by
    rw [parts, List.length_append, header]
  have front : frame.take 4 = Sha256.bigEndian 4 body.length := by
    rw [parts, List.take_left' header]
  have back : frame.drop 4 = body := by
    rw [parts, List.drop_left' header]
  have long : ¬ frame.length < 4 := by omega
  have whole : ¬ frame.length < 4 + body.length := by omega
  simp only [decode, long, if_false, front, length, whole, back, List.take_length, parsed,
    reads]
  rfl

theorem decode_prefix (framed : Framed serde message frame) {data : Bytes} (strict : data <+: frame) (part : data ≠ frame) :
    ∃ reason, decode serde data = .error (.serialization reason) := by
  obtain ⟨body, parts, within, length, _⟩ := framed.parts
  have header : (Sha256.bigEndian 4 body.length).length = 4 := Sha256.length_bigEndian 4 _
  have total : frame.length = 4 + body.length := by
    rw [parts, List.length_append, header]
  have shorter : data.length < frame.length := by
    have atMost := strict.length_le
    by_contra full
    exact part (strict.eq_of_length (by omega))
  by_cases short : data.length < 4
  · exact ⟨"Message too short", by simp only [decode, short, if_true]⟩
  · have front : data.take 4 = Sha256.bigEndian 4 body.length := by
      obtain ⟨back, rfl⟩ := strict
      have same := congrArg (List.take 4) parts
      rw [List.take_append_of_le_length (by omega), List.take_left' header] at same
      exact same
    have truncated : data.length < 4 + body.length := by omega
    exact ⟨"Message truncated",
      by simp only [decode, short, if_false, front, length, truncated, if_true]⟩

end Readers

/-- Over any chunks both readers yield the messages that were framed and stop at the
end; a frame decodes to its message, and no strict prefix of it decodes. -/
theorem framing_round_trips {Message : Type} {serde : SerdeJson Message}
    (roundTrips : serde.RoundTrips) {messages : List Message} {frames : List Bytes}
    (framed : List.Forall₂ (Framed serde) messages frames) {chunks : List Chunk}
    (arrives : content chunks = frames.flatten) :
    (∀ (World : Type) (respond : Respond Message World) (world : World),
        handleConnection serde respond .unexpectedEof chunks world =
          respondAll respond messages world) ∧
      readResponses serde .unexpectedEof chunks = (messages, .io .unexpectedEof) ∧
      ∀ message frame, Framed serde message frame → decode serde frame = .ok message ∧
        ∀ data, data <+: frame → data ≠ frame →
          ∃ reason, decode serde data = .error (.serialization reason) := by
  have reads : ∀ message ∈ messages, serde.readBack message = .ok message := by
    intro message member
    obtain ⟨frame, one⟩ := framed_of_mem framed member
    exact roundTrips.readBack one
  refine ⟨?_, readResponses_frames reads framed arrives, ?_⟩
  · intro World respond world
    exact handleConnection_frames respond world reads framed arrives
  · intro message frame one
    refine ⟨decode_frame (roundTrips.readBack one) one, ?_⟩
    intro data strict part
    exact decode_prefix one strict part

/-- `true` and `false` in JSON. -/
def serdeBool : SerdeJson Bool where
  toVec message := .ok (asBytes (if message then "true" else "false"))
  fromSlice body :=
    if body = asBytes "true" then .ok true
    else if body = asBytes "false" then .ok false
    else .error "expected a boolean"

theorem serdeBool_roundTrips : serdeBool.RoundTrips := by
  intro message body serialized
  cases serialized
  cases message <;> decide

theorem framed_bool (message : Bool) :
    Framed serdeBool message
      (encodeRaw (asBytes (if message then "true" else "false"))) := by
  refine ⟨rfl, _, rfl, ?_⟩
  cases message <;> decide

/-- Two frames that arrive in three chunks, of which none ends with a frame. -/
def arrivals : List Chunk := [
  ⟨[0, 0], by decide⟩,
  ⟨[0, 4, 116, 114, 117, 101, 0], by decide⟩,
  ⟨[0, 0, 5, 102, 97, 108, 115, 101], by decide⟩]

theorem framing_round_trips_bool :
    (∀ (World : Type) (respond : Respond Bool World) (world : World),
        handleConnection serdeBool respond .unexpectedEof arrivals world =
          respondAll respond [true, false] world) ∧
      readResponses serdeBool .unexpectedEof arrivals = ([true, false], .io .unexpectedEof) ∧
      ∀ message frame, Framed serdeBool message frame → decode serdeBool frame = .ok message ∧
        ∀ data, data <+: frame → data ≠ frame →
          ∃ reason, decode serdeBool data = .error (.serialization reason) :=
  framing_round_trips serdeBool_roundTrips
    (.cons (framed_bool true) (.cons (framed_bool false) .nil)) (by decide)

end NousKernel
