import ServiceMesh.Proofs.Connection.Answers
import ServiceMesh.Proofs.Connection.Cancelling
import ServiceMesh.Proofs.Connection.Closing
import ServiceMesh.Proofs.Link.Stall

/-!
# What finished calls leave behind

When all calls of a link are over (`AtRest`), the tables of both sides are empty but for one kind of
entry: the producer of the requests of a channel whose response the client has got as an error,
although nobody has cancelled the call (`released_iff`).  The server refuses a channel without a
cancellation, and the client cancels a channel with an unreadable response without stopping its own
requests.
-/

namespace ServiceMesh.Link

/-- The server has refused a call, or the client could not read a response. -/
def CutShort (start : Link) (actions : List Action) (streamId : UInt64) : Prop :=
  Refused (start.history .server actions) streamId ∨
    Connection.Unreadable start.client.codec (start.history .client actions) streamId

/-- The last signal of a stream of responses has arrived at the client. -/
def Responded (start : Link) (actions : List Action) (streamId : UInt64) : Prop :=
  ∃ frame ∈ Connection.taken (start.history .client actions),
    ∃ arrival, frame.arrival? .client streamId = some arrival ∧
      start.client.endsWith arrival = true

/-- A link whose calls are over: nothing is under way on an open connection, the response of every
call has arrived at the client or was given up there, and no handler is at its response or holds a
stream of requests.  Nothing is said about producers that send a stream. -/
structure AtRest (start : Link) (actions : List Action) : Prop where
  running : ∀ side, ((start.after actions).connection side).isClosed = false
  silent : ∀ side, (start.after actions).underway side = []
  answered : ∀ reply ∈ ((start.after actions).connection .client).replies,
    reply.isFinished = true ∨ reply.result ≠ none
  responded : ∀ stream ∈ ((start.after actions).connection .client).inbound,
    stream.isDone = true ∨ Responded start actions stream.streamId
  handlers : ∀ producer ∈ ((start.after actions).connection .server).producers,
    producer.phase ≠ .answering
  requests : ∀ stream ∈ ((start.after actions).connection .server).inbound,
    stream.isDone = true

section

variable (peer : Side → String) (codec : MessageCodec) (config : Side → Config)

variable {actions : List Action}

/-! ## Cancellations that have arrived -/

/-- If nothing is under way, each side has taken all that the other one has sent. -/
theorem taken_of_silent
    (few : Connection.calls ((spawn peer codec config).sideActions .client actions) < 2 ^ 63)
    (running : ∀ side,
      (((spawn peer codec config).after actions).connection side).isClosed = false)
    (silent : ∀ side, ((spawn peer codec config).after actions).underway side = [])
    (side : Side) :
    Connection.taken ((spawn peer codec config).history side actions) =
      Connection.sent ((spawn peer codec config).history side.other actions) := by
  have all := sent_eq_taken_append_underway peer codec config
    (reads_of_open peer codec config few (running side))
    (writes_of_open peer codec config (running side.other))
  rw [silent, List.append_nil] at all
  exact all.symm

/-- A producer whose call the other side has cancelled has ended. -/
theorem ended_of_cancelled {side : Side} {number : Nat} {producer : Producer}
    (few : Connection.calls ((spawn peer codec config).sideActions .client actions) < 2 ^ 63)
    (present : (((spawn peer codec config).after actions).connection side).producers[number]? =
      some producer)
    (takes : .cancel producer.streamId ∈
      Connection.taken ((spawn peer codec config).history side actions)) :
    producer.phase = .ended := by
  have once := nodup_claimed peer codec config side few
  have claims := (claims_after peer codec config side actions).producers producer.streamId
    (Connection.mem_producerIds present)
  have quiet := unheard peer codec config few claims
  rw [after_spawn] at present
  rw [history_spawn] at once takes
  exact Connection.ended_of_cancelled _ _ _ _ once present quiet takes

/-! ## Streams and replies that are over -/

/-- A stream whose end the consumer has seen, or that it has given up, is not fed. -/
theorem unfed_of_done {side : Side} {number : Nat} {stream : InboundStream}
    (few : Connection.calls ((spawn peer codec config).sideActions .client actions) < 2 ^ 63)
    (present : (((spawn peer codec config).after actions).connection side).inbound[number]? =
      some stream)
    (done : stream.isDone = true) :
    (((spawn peer codec config).after actions).connection side).sinks.find? stream.streamId ≠
      some (.stream number) := by
  have law := streamLaw peer codec config few (Connection.streamPart_of_present present)
  intro fed
  have fresh := (law.sound (decide_eq_true fed)).1
  dsimp only at fresh
  rw [done] at fresh
  cases fresh

/-- A stream is not fed any more once something was taken that ends it. -/
theorem unfed_of_ending {side : Side} {number : Nat} {stream : InboundStream}
    (few : Connection.calls ((spawn peer codec config).sideActions .client actions) < 2 ^ 63)
    (present : (((spawn peer codec config).after actions).connection side).inbound[number]? =
      some stream)
    {frame : Frame} {arrival : Arrival}
    (takes : frame ∈ Connection.taken ((spawn peer codec config).history side actions))
    (brings : frame.arrival? side.role stream.streamId = some arrival)
    (ends : (Connection.spawn side.role (peer side) codec (config side)).endsWith arrival = true) :
    (((spawn peer codec config).after actions).connection side).sinks.find? stream.streamId ≠
      some (.stream number) := by
  have law := streamLaw peer codec config few (Connection.streamPart_of_present present)
  have heard := heard_eq_taken peer codec config few present
  have arrived := List.mem_filterMap.mpr ⟨frame, takes, brings⟩
  intro fed
  have isFed := congrArg StreamPart.isFed law.state
  rw [decide_eq_true fed] at isFed
  have calm := (StreamPart.fed_run _ _ isFed.symm).2.2 arrival
    (List.mem_filter.mp (heard.symm ▸ arrived)).1
  cases ends.symm.trans calm

/-- A stream is not fed any more once its last signal has arrived. -/
theorem unfed_of_responded {number : Nat} {stream : InboundStream}
    (few : Connection.calls ((spawn peer codec config).sideActions .client actions) < 2 ^ 63)
    (present : (((spawn peer codec config).after actions).connection .client).inbound[number]? =
      some stream)
    (responded : Responded (spawn peer codec config) actions stream.streamId) :
    (((spawn peer codec config).after actions).connection .client).sinks.find? stream.streamId ≠
      some (.stream number) := by
  rcases responded with ⟨frame, member, arrival, brings, ends⟩
  exact unfed_of_ending peer codec config few present member brings ends

/-- The server waits for no reply. -/
theorem replies_server :
    (((spawn peer codec config).after actions).connection .server).replies = [] := by
  rw [after_spawn]
  exact Connection.replies_of_answers _ _ _ _
    (opensCall_of_server (spawn peer codec config) actions)

section

variable (few : Connection.calls ((spawn peer codec config).sideActions .client actions) < 2 ^ 63)

variable (rest : AtRest (spawn peer codec config) actions)

include few rest

theorem sinks_client :
    (((spawn peer codec config).after actions).connection .client).sinks = [] := by
  apply Table.eq_nil_of_find?
  intro streamId
  by_contra some_
  rcases Option.ne_none_iff_exists'.mp some_ with ⟨sink, found⟩
  have wired : Connection.Wired (((spawn peer codec config).after actions).connection .client) := by
    rw [after_spawn]
    exact Connection.wired_after (Connection.wired_spawn _ _ _ _) _
  cases sink with
  | reply number =>
      rcases wired.reply _ _ found with ⟨reply, present, rfl⟩
      have part : (((spawn peer codec config).after actions).connection .client).replyPart number =
          some ⟨reply, true⟩ :=
        Connection.replyPart_eq_some.mpr ⟨present, (decide_eq_true found).symm⟩
      rw [after_spawn] at part
      have fresh := (Connection.client_replyLaw few part).sound rfl
      rcases rest.answered reply (List.mem_of_getElem? present) with finished | answered
      · rw [fresh.1] at finished
        cases finished
      · exact answered fresh.2
  | stream number =>
      rcases wired.stream _ _ found with ⟨stream, present, rfl⟩
      rcases rest.responded stream (List.mem_of_getElem? present) with done | responded
      · exact unfed_of_done peer codec config few present done found
      · exact unfed_of_responded peer codec config few present responded found

theorem sinks_server :
    (((spawn peer codec config).after actions).connection .server).sinks = [] := by
  apply Table.eq_nil_of_find?
  intro streamId
  by_contra some_
  rcases Option.ne_none_iff_exists'.mp some_ with ⟨sink, found⟩
  have wired : Connection.Wired (((spawn peer codec config).after actions).connection .server) := by
    rw [after_spawn]
    exact Connection.wired_after (Connection.wired_spawn _ _ _ _) _
  cases sink with
  | reply number =>
      rcases wired.reply _ _ found with ⟨reply, present, -⟩
      rw [replies_server] at present
      cases present
  | stream number =>
      rcases wired.stream _ _ found with ⟨stream, present, rfl⟩
      exact unfed_of_done peer codec config few present
        (rest.requests stream (List.mem_of_getElem? present)) found

/-- A producer that still runs although nothing is fed by it was cancelled by the client or by its
receiver. -/
theorem cancelled_of_unfed {sender : Side} {number stream : Nat} {part : ProducerPart}
    {inbound : InboundStream}
    (present :
      (((spawn peer codec config).after actions).connection sender).producerPart number =
        some part)
    (pumps : part.producer.phase = .waiting ∨ part.producer.phase = .pulling)
    (atStream :
      (((spawn peer codec config).after actions).connection sender.other).inbound[stream]? =
        some inbound)
    (same : inbound.streamId = part.producer.streamId)
    (bare : (((spawn peer codec config).after actions).connection sender.other).sinks = []) :
    .cancel part.producer.streamId ∈
        Connection.sent ((spawn peer codec config).history .client actions) ∨
      .cancel part.producer.streamId ∈
        Connection.sent ((spawn peer codec config).history sender.other actions) := by
  by_contra goesOn
  rw [not_or] at goesOn
  have fed := fed_of_unbroken peer codec config few present pumps
    ⟨⟨rest.running, goesOn.2⟩, goesOn.1⟩ atStream same
  rw [bare] at fed
  cases fed

/-- All producers of the server have ended. -/
theorem ended_server {number : Nat} {producer : Producer}
    (present : (((spawn peer codec config).after actions).connection .server).producers[number]? =
      some producer) :
    producer.phase = .ended := by
  by_contra running
  have part := Connection.producerPart_of_present present
  have pumps : producer.phase = .waiting ∨ producer.phase = .pulling := by
    have done := rest.handlers producer (List.mem_of_getElem? present)
    cases phase : producer.phase <;> simp_all
  rcases stream_of_server_producer peer codec config few part pumps with ⟨inbound, among, same⟩
  rcases List.getElem?_of_mem among with ⟨stream, atStream⟩
  have heard := taken_of_silent peer codec config few rest.running rest.silent .server
  have cancels := or_self_iff.mp (cancelled_of_unfed peer codec config few rest part pumps atStream
    same (sinks_client peer codec config few rest))
  rw [show Side.client = Side.server.other from rfl, ← heard] at cancels
  exact running (ended_of_cancelled peer codec config few present cancels)

/-- All producers of the client have ended, but for those of calls that were cut short. -/
theorem ended_client {number : Nat} {producer : Producer}
    (present : (((spawn peer codec config).after actions).connection .client).producers[number]? =
      some producer)
    (whole : ¬ CutShort (spawn peer codec config) actions producer.streamId) :
    producer.phase = .ended := by
  rw [CutShort, not_or] at whole
  by_contra running
  have part := Connection.producerPart_of_present present
  rcases channel_of_client_producer peer codec config few part with ⟨waits, envelope, requested⟩
  have pumps : producer.phase = .waiting ∨ producer.phase = .pulling := by
    cases phase : producer.phase <;> simp_all
  have toServer := taken_of_silent peer codec config few rest.running rest.silent .server
  have toClient := taken_of_silent peer codec config few rest.running rest.silent .client
  rw [show Side.client = Side.server.other from rfl, ← toServer] at requested
  rcases stream_of_request peer codec config whole.1 requested with ⟨inbound, among, same⟩
  rcases List.getElem?_of_mem among with ⟨stream, atStream⟩
  rcases cancelled_of_unfed peer codec config few rest part pumps atStream same
    (sinks_server peer codec config few rest) with cancels | cancels
  · exact whole.2 (unreadable_of_cancel peer codec config few present running cancels)
  · rw [← toClient] at cancels
    exact running (ended_of_cancelled peer codec config few present cancels)

end

/-- A side whose producers have ended has none under a stream id. -/
theorem outbound_of_ended {side : Side}
    (few : Connection.calls ((spawn peer codec config).sideActions .client actions) < 2 ^ 63) :
    (((spawn peer codec config).after actions).connection side).outbound = [] ↔
      ∀ (number : Nat) producer,
        (((spawn peer codec config).after actions).connection side).producers[number]? =
          some producer → producer.phase = .ended := by
  have listed {number : Nat} {producer : Producer}
      (present : (((spawn peer codec config).after actions).connection side).producers[number]? =
        some producer) :
      (((spawn peer codec config).after actions).connection side).outbound.find?
          producer.streamId = some number ↔ producer.phase ≠ .ended := by
    rcases producerLaw peer codec config few (Connection.producerPart_of_present present) with
      ⟨opening, law⟩
    have sound := law.sound
    rw [ProducerPart.Sound, decide_eq_decide] at sound
    exact sound
  constructor
  · intro bare number producer present
    by_contra running
    have found := (listed present).mpr running
    rw [bare] at found
    cases found
  · intro ended
    apply Table.eq_nil_of_find?
    intro streamId
    by_contra some_
    rcases Option.ne_none_iff_exists'.mp some_ with ⟨number, found⟩
    have wired : Connection.Wired (((spawn peer codec config).after actions).connection side) := by
      rw [after_spawn]
      exact Connection.wired_after (Connection.wired_spawn _ _ _ _) _
    rcases wired.producer _ _ found with ⟨producer, present, rfl⟩
    exact (listed present).mp found (ended number producer present)

/--
Finished calls are released.  When all calls of a link are over, no call has a sink on either side
and no producer is left on the server.  On the client none is left either, just if in every channel
that was cut short the requests have come to their end.
-/
theorem released_iff
    (few : Connection.calls ((spawn peer codec config).sideActions .client actions) < 2 ^ 63)
    (rest : AtRest (spawn peer codec config) actions) :
    (∀ side, (((spawn peer codec config).after actions).connection side).sinks = []) ∧
      (((spawn peer codec config).after actions).connection .server).outbound = [] ∧
      ((((spawn peer codec config).after actions).connection .client).outbound = [] ↔
        ∀ (number : Nat) producer,
          (((spawn peer codec config).after actions).connection .client).producers[number]? =
              some producer →
            CutShort (spawn peer codec config) actions producer.streamId →
              producer.phase = .ended) := by
  refine ⟨?_, ?_, ?_⟩
  · intro side
    cases side with
    | client => exact sinks_client peer codec config few rest
    | server => exact sinks_server peer codec config few rest
  · rw [outbound_of_ended peer codec config few]
    intro number producer present
    exact ended_server peer codec config few rest present
  · rw [outbound_of_ended peer codec config few]
    constructor
    · intro ended number producer present _
      exact ended number producer present
    · intro ended number producer present
      by_cases whole : CutShort (spawn peer codec config) actions producer.streamId
      · exact ended number producer present whole
      · exact ended_client peer codec config few rest present whole

end

/-! ## Two channels -/

/-- A link whose client starts with one credit. -/
def narrow : Link :=
  spawn (fun _ => "peer") (.ofRegistry .withJson) fun
    | .client => { Config.standard with streamWindow := 1 }
    | .server => .standard

/-- A channel that its handler leaves without having read the requests. -/
def leftChannel : List Action :=
  [.act .client (.requestChannel (some (.ok (Message.blank.withQualifier "Greeting/chat")))),
    .transmit .client, .deliver .server, .act .client (.takeCredit 0),
    .act .client (.produce 0 (.item (.ok (Message.blank.withQualifier "Greeting/chat")))),
    .transmit .client, .deliver .server, .act .server (.dropInbound 0),
    .act .server (.takeCredit 0), .act .server (.produce 0 .ended), .transmit .server,
    .transmit .server, .deliver .client, .deliver .client, .act .client (.pullInbound 0)]

theorem leftChannel_released :
    Connection.calls (narrow.sideActions .client leftChannel) < 2 ^ 63 ∧
      AtRest narrow leftChannel ∧
      ((narrow.after leftChannel).connection .client).outbound = [] := by
  have few : Connection.calls (narrow.sideActions .client leftChannel) < 2 ^ 63 := by
    decide +kernel
  have done : ∀ stream ∈ ((narrow.after leftChannel).connection .client).inbound,
      stream.isDone = true := by
    decide +kernel
  have ended : ∀ producer ∈ ((narrow.after leftChannel).connection .client).producers,
      producer.phase = .ended := by
    decide +kernel
  have rest : AtRest narrow leftChannel := by
    constructor
    · intro side
      cases side <;> decide +kernel
    · intro side
      rw [← List.isEmpty_iff]
      cases side <;> decide +kernel
    · decide +kernel
    · exact fun stream member => .inl (done stream member)
    · decide +kernel
    · decide +kernel
  refine ⟨few, rest, (released_iff _ _ _ few rest).2.2.mpr ?_⟩
  intro number producer present _
  exact ended producer (List.mem_of_getElem? present)

/-- A channel without a qualifier, of which one more request was sent. -/
def refusedChannel : List Action :=
  [.act .client (.requestChannel (some (.ok .blank))), .transmit .client, .deliver .server,
    .act .client (.takeCredit 0), .act .client (.produce 0 (.item (.ok .blank))),
    .transmit .client, .deliver .server, .transmit .server, .deliver .client,
    .act .client (.pullInbound 0)]

/-- Not every finished call is released: the requests of this channel wait for a credit that nobody
will grant, although the client has seen the refusal. -/
theorem refusedChannel_kept :
    AtRest narrow refusedChannel ∧
      ((narrow.after refusedChannel).connection .client).producers = [⟨1, 0, .waiting⟩] ∧
      ((narrow.after refusedChannel).connection .client).outbound = [(1, 0)] := by
  have done : ∀ stream ∈ ((narrow.after refusedChannel).connection .client).inbound,
      stream.isDone = true := by
    decide +kernel
  refine ⟨?_, by decide +kernel, by decide +kernel⟩
  constructor
  · intro side
    cases side <;> decide +kernel
  · intro side
    rw [← List.isEmpty_iff]
    cases side <;> decide +kernel
  · decide +kernel
  · exact fun stream member => .inl (done stream member)
  · decide +kernel
  · decide +kernel

end ServiceMesh.Link
