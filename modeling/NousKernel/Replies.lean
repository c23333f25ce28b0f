import NousKernel.Dialogue

/-!
What a dialogue keeps in any order of its steps: the daemon reads the requests that were
written to their end and nothing behind one that was not, the client is somewhere in the
frames of the responses, and every answer that a call yields is the daemon's answer to that
very call.
-/

set_option autoImplicit false

namespace NousKernel

open ByteStream LengthPrefixedCodec

/-- A call that ends with the outcome of a response. -/
def CallResult.IsOutcome : CallResult → Prop
  | .ok _ => True
  | .error (.NkiError _) => True
  | .error _ => False

namespace Dialogue

variable {K : Type} {daemon : Daemon K} {serdeRequest : SerdeJson NKIRequest}
  {serdeResponse : SerdeJson NKIResponse} {dialogue : Dialogue K} {issued : List NKIRequest}

/-- The request that an action puts on the wire. -/
def issues (serdeRequest : SerdeJson NKIRequest) (dialogue : Dialogue K) :
    DialogueAction K → List NKIRequest
  | .call request =>
      match dialogue.client with
      | .idle =>
          match serdeRequest.toVec request with
          | .ok body => if maxFrameBytes < body.length then [] else [request]
          | .error _ => []
      | _ => []
  | _ => []

/-- The frame of a request, or the front of it that was written before its call was given up. -/
structure Begun (serdeRequest : SerdeJson NKIRequest) (request : NKIRequest) (piece : Bytes) :
    Prop where
  some : piece ≠ []
  front : ∃ frame, Framed serdeRequest request frame ∧ piece <+: frame

/-- The daemon has answered some of the requests that were put on the wire, each once and in
their order, and pieces of later ones are on their way to it. -/
def Asked (serdeRequest : SerdeJson NKIRequest) (dialogue : Dialogue K)
    (issued : List NKIRequest) : Prop :=
  ∃ pending : List (NKIRequest × Bytes),
    (dialogue.answered.map (·.request) ++ pending.map (·.1)).Sublist issued ∧
    (∀ part ∈ pending, Begun serdeRequest part.1 part.2) ∧
    (dialogue.daemon ≠ .closed →
      Written (dialogue.daemonGot ++ dialogue.toDaemon) dialogue.clientLeft (pending.map (·.2)))

/-- The client reads somewhere in the frames of the responses. -/
def Replied (serdeResponse : SerdeJson NKIResponse) (dialogue : Dialogue K) : Prop :=
  ∃ before frames,
    List.Forall₂ (fun response frame => encode serdeResponse response = .ok frame)
      (dialogue.answered.map (·.response)) frames ∧
    before ++ (dialogue.clientGot ++ (dialogue.toClient ++ dialogue.daemonLeft)) = frames.flatten

structure Sound (daemon : Daemon K) (serdeRequest : SerdeJson NKIRequest)
    (serdeResponse : SerdeJson NKIResponse) (dialogue : Dialogue K) (issued : List NKIRequest) :
    Prop where
  asked : Asked serdeRequest dialogue issued
  replied : Replied serdeResponse dialogue
  daemonWithin : Within maxFrameBytes dialogue.daemonGot
  clientWithin : Within maxFrameBytes dialogue.clientGot
  calling : ∀ request, dialogue.calling = some request → request ∈ issued
  judged : ∀ entry ∈ dialogue.answered,
    daemon.Answers entry.request entry.desk entry.response entry.kernel
  own : ∀ call ∈ dialogue.results, CallResult.IsOutcome call.2 →
    ∃ entry ∈ dialogue.answered, entry.request = call.1 ∧ entry.outcome serdeResponse = call.2

theorem sound_connected (desk : Desk K) :
    Sound daemon serdeRequest serdeResponse (connected desk) [] where
  asked := ⟨[], List.Sublist.refl _, by simp, fun _ => ⟨rfl, fun some => absurd rfl some⟩⟩
  replied := ⟨[], [], .nil, rfl⟩
  daemonWithin := within_nil
  clientWithin := within_nil
  calling := by intro request same; cases same
  judged := by intro entry member; cases member
  own := by intro call member; cases member

/-- A call that ends amid its request leaves the front of it behind. -/
theorem Asked.conclude (asked : Asked serdeRequest dialogue issued) (request : NKIRequest)
    (result : CallResult) : Asked serdeRequest (dialogue.conclude request result) issued := by
  obtain ⟨pending, split, begun, bytes⟩ := asked
  by_cases whole : dialogue.clientLeft = []
  · refine ⟨pending, split, begun, ?_⟩
    intro reading
    have written := bytes reading
    rw [whole] at written
    exact written
  by_cases closed : dialogue.daemon = .closed
  · exact ⟨pending, split, begun, fun reading => absurd closed reading⟩
  obtain ⟨front, piece, parts, written⟩ := (bytes closed).giveUp whole
  obtain ⟨earlier, last, rfl, rfl, same⟩ := List.map_eq_append_iff.mp parts
  obtain ⟨⟨asker, sent⟩, rfl, rfl⟩ := List.map_eq_singleton_iff.mp same
  have before : ∀ part ∈ earlier, Begun serdeRequest part.1 part.2 := by
    intro part member
    exact begun part (List.mem_append_left _ member)
  by_cases none : piece = []
  · subst none
    refine ⟨earlier, ?_, before, fun _ => written.skip⟩
    rw [List.map_append, ← List.append_assoc] at split
    exact (List.sublist_append_left _ _).trans split
  · refine ⟨earlier ++ [(asker, piece)], ?_, ?_, ?_⟩
    · rw [List.map_append] at split ⊢
      exact split
    · intro part member
      rcases List.mem_append.mp member with member | member
      · exact before part member
      · obtain rfl := List.mem_singleton.mp member
        obtain ⟨frame, framed, front⟩ := (begun _ (List.mem_append_right _ List.mem_cons_self)).front
        exact ⟨none, frame, framed, (List.prefix_append _ _).trans front⟩
    · intro _
      rw [List.map_append]
      exact written

/-- A call that ends without an outcome leaves everything else sound. -/
theorem Sound.conclude (sound : Sound daemon serdeRequest serdeResponse dialogue issued)
    (request : NKIRequest) (result : CallResult)
    (owned : CallResult.IsOutcome result → ∃ entry ∈ dialogue.answered, entry.request = request ∧
      entry.outcome serdeResponse = result) :
    Sound daemon serdeRequest serdeResponse (dialogue.conclude request result) issued := by
  obtain ⟨asked, replied, daemonWithin, clientWithin, calling, judged, own⟩ := sound
  constructor
  · exact asked.conclude request result
  · obtain ⟨before, frames, encoded, bytes⟩ := replied
    refine ⟨before ++ dialogue.clientGot, frames, encoded, ?_⟩
    rw [← bytes, List.append_assoc]
    rfl
  · exact daemonWithin
  · exact within_nil
  · intro other same
    cases same
  · exact judged
  · intro call member outcome
    rcases List.mem_append.mp member with earlier | last
    · exact own call earlier outcome
    · obtain rfl := List.mem_singleton.mp last
      exact owned outcome

theorem framed_within {request : NKIRequest} {body : Bytes}
    (serialized : serdeRequest.toVec request = .ok body) (fits : ¬maxFrameBytes < body.length) :
    Framed serdeRequest request (encodeRaw body) :=
  ⟨encode_ok serialized, body, serialized, by omega⟩

theorem Sound.call (sound : Sound daemon serdeRequest serdeResponse dialogue issued)
    (request : NKIRequest) :
    Sound daemon serdeRequest serdeResponse (dialogue.call serdeRequest request)
      (issued ++ issues serdeRequest dialogue (.call request)) := by
  obtain ⟨client, results, toDaemon, toClient, phase, desk, answered⟩ := dialogue
  unfold Dialogue.call issues
  cases client with
  | writing _ _ => simpa only [List.append_nil] using sound
  | reading _ _ => simpa only [List.append_nil] using sound
  | idle =>
      cases serialized : serdeRequest.toVec request with
      | error reason =>
          have concluded := sound.conclude request (.error (.Serialization reason)) False.elim
          simpa only [serialized, List.append_nil] using concluded
      | ok body =>
          by_cases exceeds : maxFrameBytes < body.length
          · have concluded := sound.conclude request
              (.error (.Protocol "request exceeds 16 MiB")) False.elim
            simpa only [serialized, exceeds, if_true, List.append_nil] using concluded
          · simp only [serialized, exceeds, if_false]
            obtain ⟨asked, replied, daemonWithin, clientWithin, calling, judged, own⟩ := sound
            constructor
            · obtain ⟨pending, split, begun, bytes⟩ := asked
              have framed := framed_within serialized exceeds
              refine ⟨pending ++ [(request, encodeRaw body)], ?_, ?_, ?_⟩
              · rw [List.map_append, ← List.append_assoc]
                exact split.append (List.Sublist.refl _)
              · intro part member
                rcases List.mem_append.mp member with member | member
                · exact begun part member
                · obtain rfl := List.mem_singleton.mp member
                  exact ⟨framed.ne_nil, _, framed, List.prefix_rfl⟩
              · intro reading
                rw [List.map_append]
                exact (bytes reading).begin (encodeRaw body)
            · exact replied
            · exact daemonWithin
            · exact clientWithin
            · intro other same
              cases same
              exact List.mem_append_right _ List.mem_cons_self
            · exact judged
            · exact own

theorem Sound.write (sound : Sound daemon serdeRequest serdeResponse dialogue issued)
    (count : Nat) : Sound daemon serdeRequest serdeResponse (dialogue.write count) issued := by
  obtain ⟨client, results, toDaemon, toClient, phase, desk, answered⟩ := dialogue
  unfold Dialogue.write
  cases client with
  | idle => exact sound
  | reading _ _ => exact sound
  | writing request left =>
      obtain ⟨asked, replied, daemonWithin, clientWithin, calling, judged, own⟩ := sound
      have known : request ∈ issued := calling request rfl
      have phases : ∀ client : ClientPhase,
          client = (if left.drop count = [] then ClientPhase.reading request []
            else .writing request (left.drop count)) →
          clientLeft ⟨client, results, toDaemon ++ left.take count, toClient, phase, desk,
              answered⟩ = left.drop count ∧
            clientGot ⟨client, results, toDaemon ++ left.take count, toClient, phase, desk,
              answered⟩ = [] ∧
            Dialogue.calling ⟨client, results, toDaemon ++ left.take count, toClient, phase, desk,
              answered⟩ = some request := by
        intro client same
        by_cases spent : left.drop count = []
        · rw [if_pos spent] at same
          subst same
          exact ⟨spent.symm, rfl, rfl⟩
        · rw [if_neg spent] at same
          subst same
          exact ⟨rfl, rfl, rfl⟩
      obtain ⟨left', got', current⟩ := phases _ rfl
      constructor
      · obtain ⟨pending, split, begun, bytes⟩ := asked
        refine ⟨pending, split, begun, ?_⟩
        intro reading
        have written := (bytes reading).go count
        rw [List.append_assoc] at written
        rw [left']
        exact written
      · obtain ⟨before, frames, encoded, bytes⟩ := replied
        refine ⟨before, frames, encoded, ?_⟩
        rw [got']
        exact bytes
      · exact daemonWithin
      · rw [got']
        exact within_nil
      · intro other same
        rw [current] at same
        cases same
        exact known
      · exact judged
      · exact own

theorem Sound.arrive (sound : Sound daemon serdeRequest serdeResponse dialogue issued)
    (count : Nat) : Sound daemon serdeRequest serdeResponse (dialogue.arrive count) issued := by
  obtain ⟨client, results, toDaemon, toClient, phase, desk, answered⟩ := dialogue
  unfold Dialogue.arrive
  cases phase with
  | writing _ => exact sound
  | closed => exact sound
  | reading got =>
      obtain ⟨asked, replied, daemonWithin, clientWithin, calling, judged, own⟩ := sound
      have taken : (toDaemon.take (min count (wanted maxFrameBytes got))).length ≤
          wanted maxFrameBytes got := by
        rw [List.length_take]
        omega
      refine ⟨?_, replied, within_append daemonWithin taken, clientWithin, calling, judged, own⟩
      obtain ⟨pending, split, begun, bytes⟩ := asked
      refine ⟨pending, split, begun, ?_⟩
      intro _
      have written := bytes DaemonPhase.noConfusion
      simp only [daemonGot, List.append_assoc, List.take_append_drop]
      exact written

/-- A reader that waits for nothing more has read the request of the first piece, if that
was written to its end, and no request at all otherwise. -/
theorem read_begun (seamless : Seamless serdeRequest.Writes serdeRequest.Accepts)
    {request : NKIRequest} {piece got rest : Bytes} {others : List (NKIRequest × Bytes)}
    (begun : ∀ part ∈ (request, piece) :: others, Begun serdeRequest part.1 part.2)
    (within : Within maxFrameBytes got) (spent : wanted maxFrameBytes got = 0)
    (reads : got ++ rest = piece ++ (others.map (·.2)).flatten) :
    (Framed serdeRequest request piece ∧ got = piece) ∨
      ∀ message chunks, nextRequest serdeRequest .unexpectedEof (chunksOf got) ≠
        .ok (some (message, chunks)) := by
  obtain ⟨some, frame, framed, front⟩ := begun _ List.mem_cons_self
  by_cases whole : piece = frame
  · subst whole
    exact .inl ⟨framed, (framed.whole within spent reads).1⟩
  · right
    intro message chunks read
    obtain ⟨size, parsed⟩ := nextRequest_chunksOf within spent read
    obtain ⟨body, writes, rfl, fits, -⟩ := framed.frame
    have short : piece.length < (ByteStream.frame body).length :=
      lt_of_le_of_ne front.length_le fun same => whole (front.eq_of_length same)
    have torn : Torn maxFrameBytes serdeRequest.Writes (piece :: others.map (·.2)) := by
      refine .cut writes fits some front short ?_
      intro other member
      obtain ⟨part, later, rfl⟩ := List.mem_map.mp member
      obtain ⟨some, frame, framed, front⟩ := begun part (List.mem_cons_of_mem _ later)
      obtain ⟨body, writes, rfl, fits, -⟩ := framed.frame
      exact ⟨some, body, writes, fits, front⟩
    exact torn.refused seamless (by decide) reads size ⟨message, parsed⟩

/-- A daemon that stops while it reads leaves nothing of a response behind. -/
theorem Sound.close (sound : Sound daemon serdeRequest serdeResponse dialogue issued)
    {got : Bytes} (phase : dialogue.daemon = .reading got) (desk : Desk K) :
    Sound daemon serdeRequest serdeResponse { dialogue with daemon := .closed, desk } issued := by
  obtain ⟨asked, replied, daemonWithin, clientWithin, calling, judged, own⟩ := sound
  refine ⟨?_, ?_, within_nil, clientWithin, calling, judged, own⟩
  · obtain ⟨pending, split, begun, -⟩ := asked
    exact ⟨pending, split, begun, fun reading => absurd rfl reading⟩
  · obtain ⟨before, frames, encoded, bytes⟩ := replied
    have none : dialogue.daemonLeft = [] := by
      unfold daemonLeft
      rw [phase]
    rw [none] at bytes
    exact ⟨before, frames, encoded, bytes⟩

/-- What a daemon that has read a frame or a piece of one does. -/
theorem Sound.next (roundTrips : serdeRequest.RoundTrips)
    (seamless : Seamless serdeRequest.Writes serdeRequest.Accepts)
    (sound : Sound daemon serdeRequest serdeResponse dialogue issued) {got : Bytes}
    (phase : dialogue.daemon = .reading got) (spent : wanted maxFrameBytes got = 0) :
    (∃ (request : NKIRequest) (pending : List (NKIRequest × Bytes)) (rest : List Chunk),
      (dialogue.answered.map (·.request) ++ request :: pending.map (·.1)).Sublist issued ∧
      (∀ part ∈ pending, Begun serdeRequest part.1 part.2) ∧
      Written dialogue.toDaemon dialogue.clientLeft (pending.map (·.2)) ∧
      nextRequest serdeRequest .unexpectedEof (chunksOf got) = .ok (some (request, rest))) ∨
    ∀ message chunks, nextRequest serdeRequest .unexpectedEof (chunksOf got) ≠
      .ok (some (message, chunks)) := by
  obtain ⟨pending, split, begun, bytes⟩ := sound.asked
  have daemonBytes : dialogue.daemonGot = got := by
    unfold daemonGot
    rw [phase]
  have within := sound.daemonWithin
  have written := bytes (by rw [phase]; exact DaemonPhase.noConfusion)
  rw [daemonBytes] at within written
  have reads := written.all
  rw [List.append_assoc] at reads
  cases pending with
  | nil =>
      have empty : got = [] := (List.append_eq_nil_iff.mp reads).1
      rw [empty] at spent
      simp [wanted] at spent
  | cons first others =>
      obtain ⟨request, piece⟩ := first
      rcases read_begun seamless begun within spent reads with ⟨framed, rfl⟩ | refused
      · obtain ⟨rest, read⟩ := framed.nextRequest (roundTrips.readBack framed)
        exact .inl ⟨request, others, rest, split,
          fun part member => begun part (List.mem_cons_of_mem _ member), written.taken, read⟩
      · exact .inr refused

theorem Sound.serve (roundTrips : serdeRequest.RoundTrips)
    (seamless : Seamless serdeRequest.Writes serdeRequest.Accepts)
    (sound : Sound daemon serdeRequest serdeResponse dialogue issued) :
    Sound daemon serdeRequest serdeResponse
      (dialogue.serve daemon serdeRequest serdeResponse) issued := by
  cases phase : dialogue.daemon with
  | writing _ => simpa only [Dialogue.serve, phase] using sound
  | closed => simpa only [Dialogue.serve, phase] using sound
  | reading got =>
      by_cases spent : wanted maxFrameBytes got = 0
      · unfold Dialogue.serve
        simp only [phase, spent, if_true]
        rcases sound.next roundTrips seamless phase spent with
          ⟨request, pending, rest, split, begun, left, read⟩ | refused
        · simp only [read]
          cases answered : daemon.answer request dialogue.desk with
          | mk produced desk =>
              cases produced with
              | error reason => exact sound.close phase desk
              | ok response =>
                  cases encoded : encode serdeResponse response with
                  | error error => simpa only [encoded] using sound.close phase desk
                  | ok frame =>
                      simp only [encoded]
                      obtain ⟨_, replied, _, clientWithin, calling, judged, own⟩ := sound
                      refine ⟨⟨pending, ?_, begun, fun _ => left⟩, ?_, within_nil,
                        clientWithin, calling, ?_, ?_⟩
                      · rw [List.map_append, List.append_assoc]
                        exact split
                      · obtain ⟨before, sent, made, bytes⟩ := replied
                        have none : dialogue.daemonLeft = [] := by
                          unfold daemonLeft
                          rw [phase]
                        rw [none, List.append_nil] at bytes
                        refine ⟨before, sent ++ [frame], ?_, ?_⟩
                        · rw [List.map_append]
                          exact List.rel_append made (.cons encoded .nil)
                        · rw [List.flatten_append, ← bytes]
                          simp only [daemonLeft, clientGot, List.flatten_cons, List.flatten_nil,
                            List.append_nil, List.append_assoc]
                      · intro entry member
                        rcases List.mem_append.mp member with earlier | last
                        · exact judged entry earlier
                        · obtain rfl := List.mem_singleton.mp last
                          exact answer_ok answered
                      · intro call member outcome
                        obtain ⟨entry, known, owns⟩ := own call member outcome
                        exact ⟨entry, List.mem_append_left _ known, owns⟩
        · cases read : nextRequest serdeRequest .unexpectedEof (chunksOf got) with
          | error error => exact sound.close phase dialogue.desk
          | ok found =>
              cases found with
              | none => exact sound.close phase dialogue.desk
              | some next => exact absurd read (refused next.1 next.2)
      · simpa only [Dialogue.serve, phase, spent, if_false] using sound

theorem Sound.answer (sound : Sound daemon serdeRequest serdeResponse dialogue issued)
    (count : Nat) : Sound daemon serdeRequest serdeResponse (dialogue.answer count) issued := by
  obtain ⟨client, results, toDaemon, toClient, phase, desk, answered⟩ := dialogue
  unfold Dialogue.answer
  cases phase with
  | reading _ => exact sound
  | closed => exact sound
  | writing left =>
      obtain ⟨asked, replied, daemonWithin, clientWithin, calling, judged, own⟩ := sound
      obtain ⟨pending, split, begun, waiting⟩ := asked
      obtain ⟨before, sent, made, bytes⟩ := replied
      have reads := waiting DaemonPhase.noConfusion
      by_cases spent : left.drop count = []
      · simp only [spent, if_true]
        refine ⟨⟨pending, split, begun, fun _ => reads⟩, ⟨before, sent, made, ?_⟩,
          within_nil, clientWithin, calling, judged, own⟩
        have all : left.take count = left := by
          rw [← List.take_append_drop count left, spent, List.append_nil, List.take_take, min_self]
        rw [← bytes, all]
        simp only [daemonLeft, clientGot, List.append_nil]
      · simp only [spent, if_false]
        refine ⟨⟨pending, split, begun, fun _ => reads⟩, ⟨before, sent, made, ?_⟩,
          within_nil, clientWithin, calling, judged, own⟩
        rw [← bytes]
        simp only [daemonLeft, clientGot, List.append_assoc, List.take_append_drop]

theorem Sound.receive (sound : Sound daemon serdeRequest serdeResponse dialogue issued)
    (count : Nat) : Sound daemon serdeRequest serdeResponse (dialogue.receive count) issued := by
  obtain ⟨client, results, toDaemon, toClient, phase, desk, answered⟩ := dialogue
  unfold Dialogue.receive
  cases client with
  | idle => exact sound
  | writing _ _ => exact sound
  | reading request got =>
      obtain ⟨asked, replied, daemonWithin, clientWithin, calling, judged, own⟩ := sound
      have taken : (toClient.take (min count (wanted maxFrameBytes got))).length ≤
          wanted maxFrameBytes got := by
        rw [List.length_take]
        omega
      refine ⟨asked, ?_, daemonWithin, within_append clientWithin taken, calling, judged, own⟩
      obtain ⟨before, sent, made, bytes⟩ := replied
      refine ⟨before, sent, made, ?_⟩
      rw [← bytes]
      simp only [daemonLeft, clientGot, List.append_assoc]
      rw [← List.append_assoc (toClient.take _), List.take_append_drop]

theorem checkResponse_own {requestId : String} {response : NKIResponse}
    (outcome : CallResult.IsOutcome (checkResponse requestId response)) :
    response.requestId = requestId := by
  by_contra other
  unfold checkResponse at outcome
  rw [if_pos other] at outcome
  exact outcome

/-- The response that a call accepts is the response to its request: the identifier says
so, and no other request has it. -/
theorem Sound.accepted (compact : serdeResponse.Compact responseOpening)
    (named : ∀ response read, serdeResponse.readBack response = .ok read →
      read.requestId = response.requestId)
    (fresh : (issued.map (·.requestId)).Nodup)
    (sound : Sound daemon serdeRequest serdeResponse dialogue issued) {request : NKIRequest}
    {got : Bytes} (phase : dialogue.client = .reading request got)
    (spent : wanted maxFrameBytes got = 0) {response : NKIResponse} {rest : List Chunk}
    (read : readResponse serdeResponse .unexpectedEof (chunksOf got) = .ok (response, rest))
    (outcome : CallResult.IsOutcome (checkResponse request.requestId response)) :
    ∃ entry ∈ dialogue.answered, entry.request = request ∧
      entry.outcome serdeResponse = checkResponse request.requestId response := by
  have bytes : dialogue.clientGot = got := by
    unfold clientGot
    rw [phase]
  have within := sound.clientWithin
  obtain ⟨before, sent, made, reads⟩ := sound.replied
  rw [bytes] at within reads
  obtain ⟨original, listed, back⟩ :=
    compact.located (by decide) (by decide +kernel) made reads within spent read
  obtain ⟨entry, member, rfl⟩ := List.mem_map.mp listed
  obtain ⟨pending, split, -, -⟩ := sound.asked
  have asked : entry.request ∈ issued :=
    split.subset (List.mem_append_left _ (List.mem_map_of_mem member))
  have current : request ∈ issued := by
    apply sound.calling
    unfold Dialogue.calling
    rw [phase]
  have same : entry.request = request := by
    refine List.inj_on_of_nodup_map fresh asked current ?_
    calc entry.request.requestId
      _ = entry.response.requestId := (sound.judged entry member).envelope.1.symm
      _ = response.requestId := (named _ _ back).symm
      _ = request.requestId := checkResponse_own outcome
  refine ⟨entry, member, same, ?_⟩
  rw [AnsweredRequest.outcome, back, same]

theorem Sound.finish (compact : serdeResponse.Compact responseOpening)
    (named : ∀ response read, serdeResponse.readBack response = .ok read →
      read.requestId = response.requestId)
    (fresh : (issued.map (·.requestId)).Nodup)
    (sound : Sound daemon serdeRequest serdeResponse dialogue issued) :
    Sound daemon serdeRequest serdeResponse (dialogue.finish serdeResponse) issued := by
  cases phase : dialogue.client with
  | idle => simpa only [Dialogue.finish, phase] using sound
  | writing _ _ => simpa only [Dialogue.finish, phase] using sound
  | reading request got =>
      by_cases spent : wanted maxFrameBytes got = 0
      · unfold Dialogue.finish
        simp only [phase, spent, if_true]
        refine sound.conclude request _ ?_
        cases read : readResponse serdeResponse .unexpectedEof (chunksOf got) with
        | error error =>
            intro outcome
            cases error <;> exact outcome.elim
        | ok found => exact sound.accepted compact named fresh phase spent read
      · simpa only [Dialogue.finish, phase, spent, if_false] using sound

theorem Sound.hangUp (sound : Sound daemon serdeRequest serdeResponse dialogue issued)
    (error : ReadError) :
    Sound daemon serdeRequest serdeResponse (dialogue.hangUp error) issued := by
  cases phase : dialogue.daemon with
  | reading _ => simpa only [Dialogue.hangUp, phase] using sound
  | writing _ => simpa only [Dialogue.hangUp, phase] using sound
  | closed =>
      cases client : dialogue.client with
      | idle => simpa only [Dialogue.hangUp, phase, client] using sound
      | writing request left =>
          simpa only [Dialogue.hangUp, phase, client] using
            sound.conclude request (.error (.Io error)) False.elim
      | reading request got =>
          simpa only [Dialogue.hangUp, phase, client] using
            sound.conclude request (.error (.Io error)) False.elim

theorem Sound.expire (sound : Sound daemon serdeRequest serdeResponse dialogue issued) :
    Sound daemon serdeRequest serdeResponse dialogue.expire issued := by
  cases client : dialogue.client with
  | idle => simpa only [Dialogue.expire, client] using sound
  | writing request left =>
      simpa only [Dialogue.expire, client] using
        sound.conclude request (.error .Timeout) False.elim
  | reading request got =>
      simpa only [Dialogue.expire, client] using
        sound.conclude request (.error .Timeout) False.elim

theorem Sound.meddle (sound : Sound daemon serdeRequest serdeResponse dialogue issued)
    (kernel : K) :
    Sound daemon serdeRequest serdeResponse
      { dialogue with desk := { dialogue.desk with kernel } } issued := by
  obtain ⟨asked, replied, daemonWithin, clientWithin, calling, judged, own⟩ := sound
  exact ⟨asked, replied, daemonWithin, clientWithin, calling, judged, own⟩

/-- Every step keeps a dialogue sound. -/
theorem Sound.step (roundTrips : serdeRequest.RoundTrips)
    (seamless : Seamless serdeRequest.Writes serdeRequest.Accepts)
    (compact : serdeResponse.Compact responseOpening)
    (named : ∀ response read, serdeResponse.readBack response = .ok read →
      read.requestId = response.requestId)
    (fresh : (issued.map (·.requestId)).Nodup)
    (sound : Sound daemon serdeRequest serdeResponse dialogue issued)
    (action : DialogueAction K) :
    Sound daemon serdeRequest serdeResponse
      (dialogue.step daemon serdeRequest serdeResponse action)
      (issued ++ issues serdeRequest dialogue action) := by
  cases action with
  | call request => exact sound.call request
  | write count => simpa only [Dialogue.step, issues, List.append_nil] using sound.write count
  | arrive count => simpa only [Dialogue.step, issues, List.append_nil] using sound.arrive count
  | serve =>
      simpa only [Dialogue.step, issues, List.append_nil] using sound.serve roundTrips seamless
  | answer count => simpa only [Dialogue.step, issues, List.append_nil] using sound.answer count
  | receive count => simpa only [Dialogue.step, issues, List.append_nil] using sound.receive count
  | finish =>
      simpa only [Dialogue.step, issues, List.append_nil] using sound.finish compact named fresh
  | hangUp error => simpa only [Dialogue.step, issues, List.append_nil] using sound.hangUp error
  | expire => simpa only [Dialogue.step, issues, List.append_nil] using sound.expire
  | meddle kernel => simpa only [Dialogue.step, issues, List.append_nil] using sound.meddle kernel

/-! ### Runs -/

/-- The requests of the calls of a list of actions. -/
def calls (actions : List (DialogueAction K)) : List NKIRequest :=
  actions.filterMap fun action =>
    match action with
    | .call request => some request
    | _ => none

theorem issues_calls (dialogue : Dialogue K) (action : DialogueAction K) :
    (issues serdeRequest dialogue action).Sublist (calls [action]) := by
  cases action with
  | call request =>
      have called : calls [DialogueAction.call (K := K) request] = [request] := rfl
      rw [called]
      cases phase : dialogue.client with
      | writing _ _ => simp [issues, phase]
      | reading _ _ => simp [issues, phase]
      | idle =>
          cases serialized : serdeRequest.toVec request with
          | error _ => simp [issues, phase, serialized]
          | ok body =>
              by_cases exceeds : maxFrameBytes < body.length
              · simp [issues, phase, serialized, exceeds]
              · simp [issues, phase, serialized, exceeds]
  | _ => exact List.nil_sublist _

/-- What a run of the dialogue has put on the wire is sound, and among its calls in order. -/
theorem sound_run (daemon : Daemon K) (roundTrips : serdeRequest.RoundTrips)
    (seamless : Seamless serdeRequest.Writes serdeRequest.Accepts)
    (compact : serdeResponse.Compact responseOpening)
    (named : ∀ response read, serdeResponse.readBack response = .ok read →
      read.requestId = response.requestId) (desk : Desk K)
    (actions : List (DialogueAction K)) (fresh : ((calls actions).map (·.requestId)).Nodup) :
    ∃ issued, issued.Sublist (calls actions) ∧
      Sound daemon serdeRequest serdeResponse
        (Stepwise.run (step daemon serdeRequest serdeResponse) (connected desk) actions)
        issued := by
  induction actions using List.reverseRecOn with
  | nil => exact ⟨[], List.Sublist.refl _, sound_connected desk⟩
  | append_singleton front action ih =>
      have split : calls (front ++ [action]) = calls front ++ calls [action] :=
        List.filterMap_append
      rw [split, List.map_append] at fresh
      obtain ⟨issued, among, sound⟩ := ih fresh.of_append_left
      have own : (issued.map (·.requestId)).Nodup :=
        (among.map (·.requestId)).nodup fresh.of_append_left
      rw [Stepwise.run_concat]
      refine ⟨_, ?_, sound.step roundTrips seamless compact named own action⟩
      rw [split]
      exact among.append (issues_calls _ action)

end Dialogue

/-- Over one connection, in any order of the steps of both parties and with calls that are
given up amid their request or after any number of bytes of a response, the daemon answers
every request at most once, in the order of the calls and as its gate has it; and a call that
yields an outcome yields the one that the text of the daemon's response to that very request
reads as. -/
theorem answers_are_own {K : Type} (daemon : Daemon K) (serdeRequest : SerdeJson NKIRequest)
    (serdeResponse : SerdeJson NKIResponse) (roundTrips : serdeRequest.RoundTrips)
    (seamless : Seamless serdeRequest.Writes serdeRequest.Accepts)
    (compact : serdeResponse.Compact responseOpening)
    (named : ∀ response read, serdeResponse.readBack response = .ok read →
      read.requestId = response.requestId)
    (desk : Desk K) (actions : List (DialogueAction K))
    (fresh : ((Dialogue.calls actions).map (·.requestId)).Nodup) :
    let final := Stepwise.run (Dialogue.step daemon serdeRequest serdeResponse)
      (Dialogue.connected desk) actions
    (final.answered.map (·.request)).Sublist (Dialogue.calls actions) ∧
      (∀ entry ∈ final.answered,
        daemon.Answers entry.request entry.desk entry.response entry.kernel) ∧
      ∀ call ∈ final.results, CallResult.IsOutcome call.2 →
        ∃ entry ∈ final.answered, entry.request = call.1 ∧
          entry.outcome serdeResponse = call.2 := by
  obtain ⟨issued, among, sound⟩ :=
    Dialogue.sound_run daemon roundTrips seamless compact named desk actions fresh
  refine ⟨?_, sound.judged, sound.own⟩
  obtain ⟨pending, split, -, -⟩ := sound.asked
  exact (List.sublist_append_left _ _).trans (split.trans among)

/-! ### Health checks -/

/-- Texts of one length that open as the objects of the envelopes do are read seamlessly. -/
theorem seamless_of_texts {Message : Type} {serde : SerdeJson Message} (texts : List Bytes)
    (writes : ∀ body, serde.Writes body → body ∈ texts)
    (accepts : ∀ text, serde.Accepts text → text ∈ texts)
    (opens : ∀ text ∈ texts, responseOpening <+: text)
    (printed : ∀ text ∈ texts, text.all (9 ≤ ·.toNat) = true)
    (even : ∀ first ∈ texts, ∀ second ∈ texts, first.length = second.length) :
    Seamless serde.Writes serde.Accepts where
  some := by
    intro accepted
    have opening := (opens _ (accepts _ accepted)).length_le
    exact absurd opening (by decide)
  printed := by
    intro text accepted byte member
    have all := List.all_eq_true.mp (printed text (accepts text accepted))
    exact of_decide_eq_true (all byte member)
  whole := by
    intro body before front written short ahead accepted
    have listed := accepts _ accepted
    have opening := opens _ listed
    cases before with
    | nil => exact ⟨ahead.eq_of_length (even _ listed _ (writes _ written)), by simp⟩
    | cons first others =>
        -- Behind its first byte no text goes on as a body begins.
        cases front with
        | nil =>
            have long := opening.length_le
            rw [List.append_nil] at long
            have four : responseOpening.length = 4 := by decide
            omega
        | cons head tail =>
            have place : (first :: others).length < responseOpening.length := short
            have starts : body[0]? = some head := by
              obtain ⟨rest, rfl⟩ := ahead
              rfl
            have begins : body[0]? = responseOpening[0]? := by
              obtain ⟨rest, rfl⟩ := opens _ (writes _ written)
              exact List.getElem?_append_left (by decide)
            have here : responseOpening[(first :: others).length]? = some head := by
              obtain ⟨rest, split⟩ := opening
              have joined : (responseOpening ++ rest)[(first :: others).length]? =
                  responseOpening[(first :: others).length]? := List.getElem?_append_left place
              rw [← joined, split, List.getElem?_append_right (Nat.le_refl _), Nat.sub_self]
              rfl
            rw [← starts, begins] at here
            have apart : ∀ index < responseOpening.length, index ≠ 0 →
                responseOpening[index]? ≠ responseOpening[0]? := by decide
            exact absurd here (apart _ place (by simp))

def ping (requestId : String) : NKIRequest := { knock with requestId, sessionToken := "" }

def pingText (requestId : String) : Bytes :=
  asBytes ("\x7b\"request_id\":\"" ++ requestId ++ "\",\"idempotency_key\":\"k-1\"," ++
    "\"nki_version\":2,\"principal_id\":\"rust-sdk\",\"namespace\":\"default\"," ++
    "\"deadline_us\":0,\"traceparent\":\"\",\"tracestate\":\"\",\"feature_flags\":[]," ++
    "\"method\":\"HealthCheck\",\"payload\":\"e30=\"\x7d")

def pingIds : List String := ["r-1", "r-2", "r-3"]

def serdePing : SerdeJson NKIRequest where
  toVec request :=
    match pingIds.find? (request = ping ·) with
    | some requestId => .ok (pingText requestId)
    | none => .error "another request"
  fromSlice body :=
    match pingIds.find? (body = pingText ·) with
    | some requestId => .ok (ping requestId)
    | none => .error "another body"

def pong (requestId : String) : NKIResponse := ⟨requestId, 2, 1, "t-1", .Success .null⟩

def pongText (requestId : String) : Bytes :=
  asBytes ("\x7b\"request_id\":\"" ++ requestId ++ "\",\"nki_version\":2," ++
    "\"server_timestamp_us\":1,\"trace_id\":\"t-1\",\"status\":\"success\",\"payload\":null\x7d")

def serdePong : SerdeJson NKIResponse where
  toVec response :=
    match response with
    | ⟨requestId, version, timestamp, traceId, .Success .null⟩ =>
        if version = 2 ∧ timestamp = 1 ∧ traceId = "t-1" ∧ requestId ∈ pingIds then
          .ok (pongText requestId)
        else .error "another response"
    | _ => .error "another response"
  fromSlice text :=
    match pingIds.find? (text = pongText ·) with
    | some requestId => .ok (pong requestId)
    | none => .error "another text"

theorem serdePing_toVec {request : NKIRequest} {body : Bytes}
    (serialized : serdePing.toVec request = .ok body) :
    ∃ requestId ∈ pingIds, request = ping requestId ∧ body = pingText requestId := by
  simp only [serdePing] at serialized
  cases found : pingIds.find? (request = ping ·) with
  | none => simp [found] at serialized
  | some requestId =>
      simp only [found] at serialized
      cases serialized
      exact ⟨requestId, List.mem_of_find?_eq_some found, by simpa using List.find?_some found, rfl⟩

theorem serdePing_fromSlice {text : Bytes} {request : NKIRequest}
    (parsed : serdePing.fromSlice text = .ok request) :
    ∃ requestId ∈ pingIds, text = pingText requestId := by
  simp only [serdePing] at parsed
  cases found : pingIds.find? (text = pingText ·) with
  | none => simp [found] at parsed
  | some requestId =>
      exact ⟨requestId, List.mem_of_find?_eq_some found, by simpa using List.find?_some found⟩

theorem serdePing_roundTrips : serdePing.RoundTrips := by
  intro request body serialized
  obtain ⟨requestId, known, rfl, rfl⟩ := serdePing_toVec serialized
  have all : ∀ requestId ∈ pingIds, pingIds.find? (pingText requestId = pingText ·) =
      some requestId := by decide +kernel
  simp only [serdePing, all requestId known]

theorem serdePing_seamless : Seamless serdePing.Writes serdePing.Accepts := by
  refine seamless_of_texts (pingIds.map pingText) ?_ ?_ (by decide +kernel)
    (by decide +kernel) (by decide +kernel)
  · rintro body ⟨request, serialized⟩
    obtain ⟨requestId, known, -, rfl⟩ := serdePing_toVec serialized
    exact List.mem_map_of_mem known
  · rintro text ⟨request, parsed⟩
    obtain ⟨requestId, known, rfl⟩ := serdePing_fromSlice parsed
    exact List.mem_map_of_mem known

theorem serdePong_toVec {response : NKIResponse} {body : Bytes}
    (serialized : serdePong.toVec response = .ok body) :
    ∃ requestId ∈ pingIds, response = pong requestId ∧ body = pongText requestId := by
  obtain ⟨requestId, version, timestamp, traceId, outcome⟩ := response
  unfold serdePong at serialized
  cases outcome with
  | Error error => cases serialized
  | Success payload =>
      cases payload with
      | null =>
          by_cases known : version = 2 ∧ timestamp = 1 ∧ traceId = "t-1" ∧ requestId ∈ pingIds
          · simp only [if_pos known] at serialized
            cases serialized
            obtain ⟨rfl, rfl, rfl, known⟩ := known
            exact ⟨requestId, known, rfl, rfl⟩
          · simp only [if_neg known] at serialized
            cases serialized
      | _ => cases serialized

theorem serdePong_fromSlice {text : Bytes} {response : NKIResponse}
    (parsed : serdePong.fromSlice text = .ok response) :
    ∃ requestId ∈ pingIds, text = pongText requestId := by
  simp only [serdePong] at parsed
  cases found : pingIds.find? (text = pongText ·) with
  | none => simp [found] at parsed
  | some requestId =>
      exact ⟨requestId, List.mem_of_find?_eq_some found, by simpa using List.find?_some found⟩

theorem serdePong_readBack {response read : NKIResponse}
    (back : serdePong.readBack response = .ok read) : read = response := by
  cases serialized : serdePong.toVec response with
  | error reason =>
      rw [SerdeJson.readBack, serialized] at back
      cases back
  | ok body =>
      rw [readBack_eq serialized] at back
      obtain ⟨requestId, known, rfl, rfl⟩ := serdePong_toVec serialized
      have all : ∀ requestId ∈ pingIds, pingIds.find? (pongText requestId = pongText ·) =
          some requestId := by decide +kernel
      simp only [serdePong, all requestId known] at back
      cases back
      rfl

theorem serdePong_compact : serdePong.Compact responseOpening where
  opens := by
    intro response body serialized
    obtain ⟨requestId, member, rfl, rfl⟩ := serdePong_toVec serialized
    have all : ∀ requestId ∈ pingIds, responseOpening <+: pongText requestId := by
      decide +kernel
    exact all requestId member
  printable := by
    intro response body serialized
    obtain ⟨requestId, member, rfl, rfl⟩ := serdePong_toVec serialized
    have all : ∀ requestId ∈ pingIds, (pongText requestId).all (32 ≤ ·.toNat) = true := by
      decide +kernel
    exact fun byte inside => of_decide_eq_true (List.all_eq_true.mp (all requestId member) byte inside)
  object := by
    intro text response parsed
    obtain ⟨requestId, member, rfl⟩ := serdePong_fromSlice parsed
    have all : ∀ requestId ∈ pingIds, (pongText requestId)[0]? = some 0x7b := by
      decide +kernel
    exact ⟨0x7b, by decide, all requestId member⟩
  whole := by
    intro response body text other serialized front parsed
    obtain ⟨requestId, member, rfl, rfl⟩ := serdePong_toVec serialized
    obtain ⟨another, among, rfl⟩ := serdePong_fromSlice parsed
    have lengths : ∀ first ∈ pingIds, ∀ second ∈ pingIds,
        (pongText first).length = (pongText second).length := by decide +kernel
    exact front.eq_of_length (lengths another among requestId member)

def doorman : Daemon Nat := { doorkeeper with sessionToken := "" }

/-- The first call is answered, the second is given up within its response, and the third,
which meets what is left of that, within its request. -/
def hurried : List (DialogueAction Nat) := [
  .call (ping "r-1"), .write 1000, .arrive 4, .arrive 1000, .serve, .answer 1000,
  .receive 4, .receive 1000, .finish,
  .call (ping "r-2"), .write 1000, .arrive 4, .arrive 1000, .serve, .answer 1000,
  .receive 4, .receive 10, .expire,
  .call (ping "r-3"), .write 30, .arrive 4, .arrive 20, .expire]

def afterHurried : Dialogue Nat :=
  Stepwise.run (Dialogue.step doorman serdePing serdePong) (Dialogue.connected ⟨0, 0⟩) hurried

theorem answers_are_own_hurried :
    afterHurried.results.map (·.2.isOk) = [true, false, false] ∧
      (afterHurried.answered.map (·.request)).Sublist (Dialogue.calls hurried) ∧
      (∀ entry ∈ afterHurried.answered,
        doorman.Answers entry.request entry.desk entry.response entry.kernel) ∧
      ∀ call ∈ afterHurried.results, CallResult.IsOutcome call.2 →
        ∃ entry ∈ afterHurried.answered, entry.request = call.1 ∧
          entry.outcome serdePong = call.2 := by
  refine ⟨by decide +kernel, ?_⟩
  exact answers_are_own doorman serdePing serdePong serdePing_roundTrips serdePing_seamless
    serdePong_compact (fun _ _ back => by rw [serdePong_readBack back]) ⟨0, 0⟩ hurried (by decide)

end NousKernel
