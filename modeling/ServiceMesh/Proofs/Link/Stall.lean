import ServiceMesh.Proofs.Link.Credit

/-!
# When a stream stalls

A link stalls if a producer waits for a credit, nothing is under way, and the consumer at the other
end has pulled all that has arrived (`Stalled`).  Nothing more happens to the call then
(`Stalled.forever`).

A sender starts with the window of its own side, and a receiver grants credits after half the window
of its own side.  So a link stalls in some run just if the window of the sender is smaller than what
the receiver waits for (`stalls_iff`).
-/

namespace ServiceMesh.Link

/-- The producer has no credit and waits for one, nothing is under way on an open connection, and
the consumer of the call has nothing to pull but waits for more. -/
structure Stalled (link : Link) (sender : Side) (producer stream : Nat) : Prop where
  running : ∀ side, (link.connection side).isClosed = false
  silent : ∀ side, link.underway side = []
  starved : ∃ streamId,
    (link.connection sender).producers[producer]? = some ⟨streamId, 0, .waiting⟩ ∧
      ∃ inbound, (link.connection sender.other).inbound[stream]? = some inbound ∧
        inbound.streamId = streamId
  hungry : ((link.connection sender.other).pullInbound stream).1 = .pending

/-- A consumer that has to wait has pulled everything, and its stream is fed. -/
theorem waits_of_pending {connection : Connection} {number : Nat} {inbound : InboundStream}
    (present : connection.inbound[number]? = some inbound)
    (pending : (connection.pullInbound number).1 = .pending) :
    inbound.isDone = false ∧ inbound.buffer = [] ∧
      connection.sinks.find? inbound.streamId = some (.stream number) := by
  simp only [Connection.pullInbound, present] at pending
  split at pending
  · cases pending
  · rename_i running
    split at pending
    · cases pending
    · cases pending
    · rename_i empty
      split at pending
      · rename_i found
        exact ⟨by simpa using running, empty, found⟩
      · cases pending

section

variable (peer : Side → String) (codec : MessageCodec) (config : Side → Config)

variable {actions : List Action}

/-! ## Stalls need a small window -/

/-- A stream that is fed at the end of a run was not cut off. -/
theorem unbroken_of_fed {sender : Side} {stream : Nat} {inbound : InboundStream}
    (few : Connection.calls ((spawn peer codec config).sideActions .client actions) < 2 ^ 63)
    (running : ∀ side,
      (((spawn peer codec config).after actions).connection side).isClosed = false)
    (silent : ∀ side, ((spawn peer codec config).after actions).underway side = [])
    (present :
      (((spawn peer codec config).after actions).connection sender.other).inbound[stream]? =
        some inbound)
    (fed : (((spawn peer codec config).after actions).connection sender.other).sinks.find?
      inbound.streamId = some (.stream stream)) :
    Unbroken (spawn peer codec config) actions sender inbound.streamId := by
  have law := streamLaw peer codec config few (Connection.streamPart_of_present present)
  have isFed := congrArg StreamPart.isFed law.state
  rw [decide_eq_true fed] at isFed
  rcases StreamPart.fed_run
    (Connection.spawn sender.other.role (peer sender.other) codec (config sender.other)) _
    isFed.symm with ⟨-, grants, calm⟩
  rw [← law.feedback] at grants
  have received : .cancel inbound.streamId ∉
      Connection.sent ((spawn peer codec config).history sender.other actions) := by
    intro cancels
    cases grants _ (List.mem_filter.mpr ⟨cancels, by simp [Frame.isFeedback]⟩)
  refine ⟨⟨running, received⟩, ?_⟩
  cases sender with
  | server => exact received
  | client =>
      intro cancels
      have all := sent_eq_taken_append_underway peer codec config
        (reads_of_open peer codec config few (running .server))
        (writes_of_open peer codec config (running Side.server.other))
      rw [silent, List.append_nil] at all
      have heard := heard_eq_taken peer codec config few present
      have arrives : .cancelled ∈ (arrivals (Connection.streamEvents stream
          ((spawn peer codec config).history .server actions))).filter Arrival.isHeard := by
        rw [show Side.server = Side.client.other from rfl, heard]
        refine List.mem_filterMap.mpr ⟨.cancel inbound.streamId, ?_, ?_⟩
        · rw [show Side.client.other = Side.server from rfl, ← all]
          exact cancels
        · simp [Frame.arrival?, Frame.streamId, Side.role, Side.other]
      cases calm _ (List.mem_filter.mp arrives).1

/-- A link stalls only if the sender's window is smaller than what the receiver waits for. -/
theorem window_lt_of_stalled {sender : Side} {producer stream : Nat}
    (few : Connection.calls ((spawn peer codec config).sideActions .client actions) < 2 ^ 63)
    (stalled : Stalled ((spawn peer codec config).after actions) sender producer stream) :
    window config sender < threshold config sender.other := by
  rcases stalled.starved with ⟨streamId, present, inbound, atStream, rfl⟩
  rcases waits_of_pending atStream stalled.hungry with ⟨-, empty, fed⟩
  have unbroken := unbroken_of_fed peer codec config few stalled.running stalled.silent
    atStream fed
  have sole := soleStream peer codec config few atStream
  have held := seen_add_buffer peer codec config few
    (Connection.producerPart_of_present present) (.inl rfl) unbroken.toKept atStream rfl
  have conserved := circulating_of_held peer codec config few present (.inl rfl)
    stalled.running (by
      rw [pulledOn, Connection.buffered, Connection.tally_of_sole sole atStream rfl,
        Connection.tally_of_sole sole atStream rfl]
      exact held)
  have lost : (spawn peer codec config).lostOn actions sender.other inbound.streamId = 0 :=
    lostOn_of_unbroken peer codec config unbroken
  have below := (consumed_add_granted peer codec config few atStream).1
  have counted : circulating ((spawn peer codec config).after actions) sender
      ⟨inbound.streamId, 0, .waiting⟩ = inbound.consumed := by
    rw [circulating, Connection.buffered, Connection.counted,
      Connection.tally_of_sole sole atStream rfl, Connection.tally_of_sole sole atStream rfl,
      stalled.silent, stalled.silent, empty]
    simp [nexts, granted]
  rw [counted, lost] at conserved
  omega

end

/-! ## A stall stays -/

theorem withConnection_self (link : Link) (side : Side) :
    link.withConnection side (link.connection side) = link := by
  cases side <;> rfl

theorem perform_act (link : Link) {side : Side} {action : Connection.Action}
    (allowed : permits side action = true) :
    (link.perform (.act side action)).2 =
      link.withConnection side ((link.connection side).perform action).2 := by
  rw [perform, if_pos allowed]
  rfl

/-- What the producer, the consumer and the wires of a call can do. -/
inductive Drives (sender : Side) (producer stream : Nat) : Action → Prop where
  /-- The producer looks for a credit. -/
  | takeCredit : Drives sender producer stream (.act sender (.takeCredit producer))
  /-- The source has something to give. -/
  | produce (signal : Signal (Outcome Message)) :
      Drives sender producer stream (.act sender (.produce producer signal))
  /-- The consumer pulls. -/
  | pull : Drives sender producer stream (.act sender.other (.pullInbound stream))
  /-- A frame is written. -/
  | transmit (side : Side) : Drives sender producer stream (.transmit side)
  /-- A frame arrives. -/
  | deliver (side : Side) : Drives sender producer stream (.deliver side)

theorem Stalled.stays {link : Link} {sender : Side} {producer stream : Nat}
    (stalled : Stalled link sender producer stream) {action : Action}
    (drives : Drives sender producer stream action) :
    (link.perform action).2 = link := by
  rcases stalled.starved with ⟨streamId, present, inbound, atStream, carries⟩
  have acts {side : Side} {own : Connection.Action} (allowed : permits side own = true)
      (still : ((link.connection side).perform own).2 = link.connection side) :
      (link.perform (.act side own)).2 = link := by
    rw [perform_act link allowed, still, withConnection_self]
  cases drives with
  | takeCredit =>
      refine acts (by simp [permits, Connection.Action.opensCall]) ?_
      apply Connection.takeCredit_of_idle
      intro found atFound
      rw [present, Option.some.injEq] at atFound
      exact .inr (atFound ▸ rfl)
  | produce signal =>
      refine acts (by simp [permits, Connection.Action.opensCall]) ?_
      simp [Connection.perform, Connection.produce, present]
  | pull =>
      refine acts (by simp [permits, Connection.Action.opensCall]) ?_
      rcases waits_of_pending atStream stalled.hungry with ⟨running, empty, fed⟩
      simp [Connection.perform, Connection.pullInbound, atStream, running, empty, fed]
  | transmit side =>
      have silent := (List.append_eq_nil_iff.mp (stalled.silent side.other)).2
      rw [Side.other_other] at silent
      have nothing : (link.connection side).perform .transmit =
          (.written none, link.connection side) := by
        simp [Connection.perform, Connection.write, Connection.transmit, silent]
      rw [show (link.perform (.transmit side)).2 = (link.transmit side).2 from rfl, transmit_eq,
        Connection.Step.written, Connection.Step.observation, nothing, withConnection_self,
        Option.toList_none, List.append_nil, withWire_self]
  | deliver side =>
      exact deliver_of_nil (List.append_eq_nil_iff.mp (stalled.silent side)).1

/-- A stalled call stays as it is, whatever its source has to give. -/
theorem Stalled.forever {link : Link} {sender : Side} {producer stream : Nat}
    (stalled : Stalled link sender producer stream) {actions : List Action}
    (drives : ∀ action ∈ actions, Drives sender producer stream action) :
    link.after actions = link := by
  induction actions with
  | nil => rfl
  | cons action actions induction =>
      rw [after_cons, stalled.stays (drives action List.mem_cons_self)]
      exact induction fun later member => drives later (List.mem_cons_of_mem _ member)

/-! ## A run into a stall -/

/-- The side that sends the stream of the first call, and its producer. -/
structure Sending (codec : MessageCodec) (connection : Connection) (producer : Producer)
    (queue : List Frame) : Prop where
  codec_eq : connection.codec = codec
  running : connection.isClosed = false
  writes : connection.writes = true
  queue_eq : connection.queue = queue
  present : connection.producers[0]? = some producer

/-- The side that receives the stream of the first call, and how much of it was pulled. -/
structure Receiving (codec : MessageCodec) (limit : Nat) (connection : Connection)
    (buffer : List (Outcome Message)) (count : Nat) (queue : List Frame) : Prop where
  codec_eq : connection.codec = codec
  threshold_eq : connection.threshold = limit
  running : connection.isClosed = false
  reads : connection.reads = true
  queue_eq : connection.queue = queue
  fed : connection.sinks.find? 1 = some (.stream 0)
  present : ∃ isRequester,
    connection.inbound[0]? = some ⟨1, isRequester, buffer, count, false⟩

section

variable {codec : MessageCodec} {limit : Nat} {connection : Connection} {queue : List Frame}

theorem Sending.takeCredit {credits : Nat}
    (sending : Sending codec connection ⟨1, credits + 1, .waiting⟩ queue) :
    Sending codec (connection.perform (.takeCredit 0)).2 ⟨1, credits, .pulling⟩ queue := by
  rw [Connection.perform, Connection.takeCredit_of_waiting sending.present]
  constructor
  · exact sending.codec_eq
  · exact sending.running
  · exact sending.writes
  · exact sending.queue_eq
  · simp [Connection.updateProducer, sending.present]

theorem Sending.produce {credits : Nat} {message : Message} {envelope : Envelope}
    (sending : Sending codec connection ⟨1, credits, .pulling⟩ [])
    (encodes : codec.encode message = .ok envelope) :
    Sending codec (connection.perform (.produce 0 (.item (.ok message)))).2
      ⟨1, credits, .waiting⟩ [.next 1 envelope] := by
  have given : Connection.frameFor connection.codec 1 (.item (.ok message)) =
      some (.next 1 envelope, false) := by
    simp [Connection.frameFor, sending.codec_eq, encodes]
  rw [Connection.perform, Connection.produce_of_given sending.present given,
    sending.writes, if_neg (by decide)]
  constructor
  · simp [Connection.post, Connection.send, Connection.updateProducer, sending.writes,
      sending.codec_eq]
  · simp [Connection.post, Connection.send, Connection.updateProducer, sending.writes,
      sending.running]
  · simp [Connection.post, Connection.send, Connection.updateProducer, sending.writes]
  · simp [Connection.post, Connection.send, Connection.updateProducer, sending.writes,
      sending.queue_eq]
  · simp [Connection.post, Connection.send, Connection.updateProducer, sending.writes,
      sending.present]

theorem Sending.transmit {producer : Producer} {frame : Frame}
    (sending : Sending codec connection producer [frame]) :
    Connection.Step.written ⟨connection, .transmit⟩ = some frame ∧
      Sending codec (connection.perform .transmit).2 producer [] := by
  have writes : connection.perform .transmit =
      (.written (some frame), { connection with queue := [] }) := by
    simp [Connection.perform, Connection.write, Connection.transmit, sending.queue_eq]
  constructor
  · rw [Connection.Step.written, Connection.Step.observation, writes]
  · rw [writes]
    exact ⟨sending.codec_eq, sending.running, sending.writes, rfl, sending.present⟩

theorem Receiving.transmit {buffer : List (Outcome Message)} {count : Nat} {frame : Frame}
    (receiving : Receiving codec limit connection buffer count [frame]) :
    Connection.Step.written ⟨connection, .transmit⟩ = some frame ∧
      Receiving codec limit (connection.perform .transmit).2 buffer count [] := by
  have writes : connection.perform .transmit =
      (.written (some frame), { connection with queue := [] }) := by
    simp [Connection.perform, Connection.write, Connection.transmit, receiving.queue_eq]
  constructor
  · rw [Connection.Step.written, Connection.Step.observation, writes]
  · rw [writes]
    exact ⟨receiving.codec_eq, receiving.threshold_eq, receiving.running, receiving.reads, rfl,
      receiving.fed, receiving.present⟩

theorem Receiving.receive {count : Nat} {envelope : Envelope} {message : Message}
    (receiving : Receiving codec limit connection [] count queue)
    (decodes : codec.decode envelope = .ok message) :
    Receiving codec limit (connection.perform (.receive (.next 1 envelope))).2 [.ok message] count
      queue := by
  rcases receiving.present with ⟨isRequester, present⟩
  have takes : (connection.perform (.receive (.next 1 envelope))).2 =
      connection.deliverTo (.stream 0) (.ok message) := by
    simp [Connection.perform, Connection.receive, receiving.reads, Connection.receiveNext,
      receiving.codec_eq, decodes, receiving.fed]
  rw [takes]
  constructor
  · exact receiving.codec_eq
  · exact receiving.threshold_eq
  · exact receiving.running
  · exact receiving.reads
  · exact receiving.queue_eq
  · exact receiving.fed
  · refine ⟨isRequester, ?_⟩
    simp [Connection.deliverTo, Connection.updateInbound, present]

theorem Receiving.pull {count : Nat} {message : Message}
    (receiving : Receiving codec limit connection [.ok message] count queue)
    (below : count + 1 < limit) :
    Receiving codec limit (connection.perform (.pullInbound 0)).2 [] (count + 1) queue := by
  rcases receiving.present with ⟨isRequester, present⟩
  have pulls : (connection.perform (.pullInbound 0)).2 =
      connection.updateInbound 0 (fun stream =>
        { stream with buffer := [], consumed := count + 1 }) := by
    simp [Connection.perform, Connection.pullInbound, present, Connection.replenish,
      receiving.threshold_eq, Nat.not_le.mpr below]
  rw [pulls]
  constructor
  · exact receiving.codec_eq
  · exact receiving.threshold_eq
  · exact receiving.running
  · exact receiving.reads
  · exact receiving.queue_eq
  · exact receiving.fed
  · refine ⟨isRequester, ?_⟩
    simp [Connection.updateInbound, present]

end

theorem withConnection_withConnection (link : Link) (side : Side)
    (first second : Connection) :
    (link.withConnection side first).withConnection side second =
      link.withConnection side second := by
  cases side <;> rfl

theorem connection_withConnection_of_other (link : Link) (side : Side)
    (connection : Connection) :
    (link.withConnection side.other connection).connection side = link.connection side := by
  cases side <;> rfl

/-- What one side writes arrives at the other side, if nothing else is on the wires. -/
theorem after_exchange (link : Link) (side : Side) {frame : Frame}
    (blank : ∀ side, link.wire side = [])
    (written : Connection.Step.written ⟨link.connection side, .transmit⟩ = some frame) :
    link.after [.transmit side, .deliver side.other] =
      (link.withConnection side ((link.connection side).perform .transmit).2).withConnection
        side.other ((link.connection side.other).perform (.receive frame)).2 := by
  have there := blank side.other
  have waits : ((link.withConnection side
      ((link.connection side).perform .transmit).2).withWire side.other [frame]).wire
        side.other = [frame] := wire_withWire _ _ _
  rw [after_cons, after_cons, after_nil,
    show (link.perform (.transmit side)).2 = (link.transmit side).2 from rfl, transmit_eq,
    written, there, Option.toList_some, List.nil_append]
  show (Link.deliver _ side.other).2 = _
  rw [deliver_of_cons waits]
  cases side with
  | client =>
      rw [show link.wire Side.client.other = link.toServer from rfl] at there
      simp [withWire, withConnection, connection, Side.other, ← there]
  | server =>
      rw [show link.wire Side.server.other = link.toClient from rfl] at there
      simp [withWire, withConnection, connection, Side.other, ← there]

/-- A link on which the stream of the first call flows: the sender waits with its credits, and the
receiver has pulled everything. -/
structure Flowing (codec : MessageCodec) (limit : Nat) (sender : Side) (link : Link)
    (credits count : Nat) : Prop where
  sends : Sending codec (link.connection sender) ⟨1, credits, .waiting⟩ []
  receives : Receiving codec limit (link.connection sender.other) [] count []
  wires : ∀ side, link.wire side = []

/-- One message is sent and pulled. -/
def round (sender : Side) (message : Message) : List Action :=
  [.act sender (.takeCredit 0), .act sender (.produce 0 (.item (.ok message))),
    .transmit sender, .deliver sender.other, .act sender.other (.pullInbound 0)]

theorem encode_of_carry {codec : MessageCodec} {message received : Message}
    (carries : codec.carry message = .ok received) :
    ∃ envelope, codec.encode message = .ok envelope ∧
      codec.decode envelope = .ok received := by
  rw [MessageCodec.carry] at carries
  cases encodes : codec.encode message with
  | ok envelope => exact ⟨envelope, rfl, by simpa [encodes, Except.bind] using carries⟩
  | error error => simp [encodes, Except.bind] at carries

theorem Flowing.round {codec : MessageCodec} {limit : Nat} {sender : Side} {link : Link}
    {credits count : Nat} (flowing : Flowing codec limit sender link (credits + 1) count)
    {message received : Message} (carries : codec.carry message = .ok received)
    (below : count + 1 < limit) :
    Flowing codec limit sender (link.after (Link.round sender message)) credits
      (count + 1) := by
  rcases encode_of_carry carries with ⟨envelope, encodes, decodes⟩
  have produced := flowing.sends.takeCredit.produce encodes
  rcases produced.transmit with ⟨written, sent⟩
  have pulled := (flowing.receives.receive decodes).pull below
  obtain ⟨ready, drawn⟩ : ∃ ready,
      ((link.perform (.act sender (.takeCredit 0))).2.perform
        (.act sender (.produce 0 (.item (.ok message))))).2 =
          link.withConnection sender ready ∧
      ready = (((link.connection sender).perform (.takeCredit 0)).2.perform
        (.produce 0 (.item (.ok message)))).2 := by
    refine ⟨_, ?_, rfl⟩
    rw [perform_act link (by simp [permits, Connection.Action.opensCall]),
      perform_act _ (by simp [permits, Connection.Action.opensCall]),
      connection_withConnection, withConnection_withConnection]
  rw [← drawn.2] at written sent
  have exchange := after_exchange (link.withConnection sender ready) sender
    (fun side => by rw [wire_withConnection, flowing.wires])
    (by rw [connection_withConnection]; exact written)
  rw [connection_withConnection, connection_withConnection_other,
    withConnection_withConnection] at exchange
  have whole : link.after (Link.round sender message) =
      ((link.withConnection sender (ready.perform .transmit).2).withConnection sender.other
        (((link.connection sender.other).perform (.receive (.next 1 envelope))).2.perform
          (.pullInbound 0)).2) := by
    rw [Link.round, after_cons, after_cons, drawn.1,
      show [Action.transmit sender, .deliver sender.other,
        .act sender.other (.pullInbound 0)] =
          [.transmit sender, .deliver sender.other] ++ [.act sender.other (.pullInbound 0)]
        from rfl,
      after_concat, exchange, perform_act _ (by simp [permits, Connection.Action.opensCall]),
      connection_withConnection, withConnection_withConnection]
  rw [whole]
  constructor
  · rw [connection_withConnection_of_other, connection_withConnection]
    exact sent
  · rw [connection_withConnection]
    exact pulled
  · intro side
    rw [wire_withConnection, wire_withConnection, flowing.wires]

/-- A run that opens the first call in the mode that makes a side send a stream. -/
def opening (sender : Side) (message : Message) : List Action :=
  match sender with
  | .server =>
    [.act .client (.requestStream message), .transmit .client, .deliver .server]
  | .client =>
    [.act .client (.requestChannel (some (.ok message))), .transmit .client, .deliver .server]

section

variable (peer : Side → String) (codec : MessageCodec) (config : Side → Config)

theorem receiving_requestStream {message : Message} {envelope : Envelope}
    (encodes : codec.encode message = .ok envelope) (side : Side) :
    Receiving codec (threshold config side)
      ((Connection.spawn side.role (peer side) codec (config side)).perform
        (.requestStream message)).2 [] 0 [.request .requestStream 1 envelope] := by
  constructor <;>
    simp [Connection.perform, Connection.requestStream, Connection.openStream,
      Connection.spawn, encodes, Connection.allocate, Connection.registerSink,
      Connection.send, threshold, window, Connection.threshold, Table.put, Table.find?,
      Table.remove]

theorem sending_requestChannel {message : Message} {envelope : Envelope}
    (encodes : codec.encode message = .ok envelope) (side : Side) :
    Sending codec
      ((Connection.spawn side.role (peer side) codec (config side)).perform
        (.requestChannel (some (.ok message)))).2
      ⟨1, window config side, .waiting⟩ [.request .requestChannel 1 envelope] := by
  constructor <;>
    simp [Connection.perform, Connection.requestChannel, Connection.openStream,
      Connection.spawn, encodes, Connection.allocate, Connection.registerSink,
      Connection.send, Connection.startPump, Connection.startProducer, window]

theorem sending_request {message : Message} {envelope : Envelope}
    (decodes : codec.decode envelope = .ok message) (named : message.qualifier ≠ "") :
    Sending codec
      ((Connection.spawn .server (peer .server) codec (config .server)).perform
        (.receive (.request .requestStream 1 envelope))).2
      ⟨1, window config .server, .waiting⟩ [] := by
  constructor <;>
    simp [Connection.perform, Connection.receive, Connection.receiveRequest,
      Connection.spawn, decodes, named, Connection.accept,
      Connection.startPump, Connection.startProducer, window]

theorem receiving_request {message : Message} {envelope : Envelope}
    (decodes : codec.decode envelope = .ok message) (named : message.qualifier ≠ "") :
    Receiving codec (threshold config .server)
      ((Connection.spawn .server (peer .server) codec (config .server)).perform
        (.receive (.request .requestChannel 1 envelope))).2 [] 0 [] := by
  constructor <;>
    simp [Connection.perform, Connection.receive, Connection.receiveRequest,
      Connection.spawn, decodes, named, Connection.accept, Connection.openRequests,
      Connection.startPump, Connection.startProducer, threshold, window,
      Connection.threshold, Table.put, Table.find?, Table.remove]

/-- What the client opens with a frame arrives at the server. -/
theorem after_opening {action : Connection.Action} {frame : Frame}
    (allowed : permits .client action = true)
    (written : Connection.Step.written
      ⟨((Connection.spawn .client (peer .client) codec (config .client)).perform action).2,
        .transmit⟩ = some frame) :
    (spawn peer codec config).after
        [.act .client action, .transmit .client, .deliver .server] =
      (((spawn peer codec config).withConnection .client
        (((Connection.spawn .client (peer .client) codec (config .client)).perform
          action).2.perform .transmit).2).withConnection .server
        ((Connection.spawn .server (peer .server) codec (config .server)).perform
          (.receive frame)).2) := by
  rw [after_cons, perform_act _ allowed]
  exact after_exchange _ .client (fun side => by cases side <;> rfl) written

theorem flowing_opening (sender : Side) {message received : Message}
    (carries : codec.carry message = .ok received) (named : received.qualifier ≠ "") :
    Flowing codec (threshold config sender.other) sender
      ((spawn peer codec config).after (opening sender message)) (window config sender) 0 := by
  rcases encode_of_carry carries with ⟨envelope, encodes, decodes⟩
  cases sender with
  | client =>
      rcases (sending_requestChannel peer codec config encodes .client).transmit with
        ⟨written, sent⟩
      have received := receiving_request peer codec config decodes named
      rw [opening, after_opening peer codec config rfl written]
      exact ⟨sent, received, fun side => by cases side <;> rfl⟩
  | server =>
      rcases (receiving_requestStream peer codec config encodes .client).transmit with
        ⟨written, waits⟩
      have started := sending_request peer codec config decodes named
      rw [opening, after_opening peer codec config rfl written]
      exact ⟨started, waits, fun side => by cases side <;> rfl⟩

/-- As long as the sender has credits and the receiver does not grant any, the stream flows. -/
theorem flowing_rounds (sender : Side) {message received : Message}
    (carries : codec.carry message = .ok received) (named : received.qualifier ≠ "")
    {count : Nat} (credited : count ≤ window config sender)
    (below : count < threshold config sender.other) :
    Flowing codec (threshold config sender.other) sender
      ((spawn peer codec config).after
        (opening sender message ++ (List.replicate count (round sender message)).flatten))
      (window config sender - count) count := by
  induction count with
  | zero =>
      rw [List.replicate_zero, List.flatten_nil, List.append_nil]
      exact flowing_opening peer codec config sender carries named
  | succ count induction =>
      have before := induction (by omega) (by omega)
      rw [show window config sender - count = window config sender - (count + 1) + 1 by omega]
        at before
      rw [List.replicate_succ', List.flatten_concat, ← List.append_assoc, after_append]
      exact before.round carries below

/-- A stream that flows stalls with the last credit. -/
theorem Flowing.stalled {codec : MessageCodec} {limit : Nat} {sender : Side} {link : Link}
    {count : Nat} (flowing : Flowing codec limit sender link 0 count) :
    Stalled link sender 0 0 := by
  rcases flowing.receives.present with ⟨isRequester, present⟩
  constructor
  · intro side
    by_cases same : side = sender
    · exact same ▸ flowing.sends.running
    · exact Side.eq_other_of_ne same ▸ flowing.receives.running
  · intro side
    rw [underway, flowing.wires, List.nil_append]
    by_cases same : side = sender
    · exact same ▸ flowing.receives.queue_eq
    · rw [Side.eq_other_of_ne same, Side.other_other]
      exact flowing.sends.queue_eq
  · exact ⟨1, flowing.sends.present, _, present, rfl⟩
  · simp [Connection.pullInbound, present, flowing.receives.fed]

/-- Whether an action of the link opens a call. -/
def Action.opensCall : Action → Bool
  | .act _ action => action.opensCall
  | _ => false

theorem calls_le (link : Link) (side : Side) (actions : List Action) :
    Connection.calls (link.sideActions side actions) ≤ actions.countP Action.opensCall := by
  induction actions generalizing link with
  | nil => exact Nat.le_refl _
  | cons action actions induction =>
      have rest := induction (link.perform action).2
      have first : (link.sideAction side action).toList.countP Connection.Action.opensCall ≤
          [action].countP Action.opensCall := by
        cases action with
        | act acting own =>
            simp only [sideAction]
            split
            · exact Nat.le_refl _
            · exact Nat.zero_le _
        | transmit writing =>
            simp only [sideAction]
            split <;> simp [Connection.Action.opensCall]
        | deliver taking =>
            simp only [sideAction]
            split
            · cases (link.wire side).head? <;> simp [Connection.Action.opensCall]
            · simp
      rw [Connection.calls] at rest ⊢
      rw [sideActions, List.countP_append, List.countP_cons, Nat.add_comm]
      simp only [List.countP_cons, List.countP_nil, Nat.zero_add] at first
      exact Nat.add_le_add rest first

theorem calls_rounds (sender : Side) (message : Message) (count : Nat) :
    (opening sender message ++
      (List.replicate count (round sender message)).flatten).countP Action.opensCall = 1 := by
  have quiet : (List.replicate count (round sender message)).flatten.countP
      Action.opensCall = 0 := by
    rw [List.countP_eq_zero]
    intro action member
    rcases List.mem_flatten.mp member with ⟨actions, among, within⟩
    rw [List.eq_of_mem_replicate among] at within
    simp only [round, List.mem_cons, List.not_mem_nil, or_false] at within
    rcases within with rfl | rfl | rfl | rfl | rfl <;>
      simp [Action.opensCall, Connection.Action.opensCall]
  rw [List.countP_append, quiet]
  cases sender <;> rfl

/-- A codec carries calls if some message reaches the other side with a qualifier. -/
def CarriesCalls (codec : MessageCodec) : Prop :=
  ∃ message received, codec.carry message = .ok received ∧ received.qualifier ≠ ""

/--
A link stalls in some run just if the window of the sender is smaller than the number of messages
after which the receiver grants credits.
-/
theorem stalls_iff (sender : Side) (carries : CarriesCalls codec) :
    (∃ actions producer stream,
      Connection.calls ((spawn peer codec config).sideActions .client actions) < 2 ^ 63 ∧
        Stalled ((spawn peer codec config).after actions) sender producer stream) ↔
      window config sender < threshold config sender.other := by
  constructor
  · rintro ⟨actions, producer, stream, few, stalled⟩
    exact window_lt_of_stalled peer codec config few stalled
  · intro small
    rcases carries with ⟨message, received, carries, named⟩
    refine ⟨opening sender message ++
      (List.replicate (window config sender) (round sender message)).flatten, 0, 0, ?_, ?_⟩
    · have calls := calls_le (spawn peer codec config) .client (opening sender message ++
        (List.replicate (window config sender) (round sender message)).flatten)
      rw [calls_rounds] at calls
      omega
    · have flowing := flowing_rounds peer codec config sender carries named (Nat.le_refl _) small
      rw [Nat.sub_self] at flowing
      exact flowing.stalled

end

theorem json_carriesCalls : CarriesCalls (.ofRegistry .withJson) := by
  have named : ((MessageCodec.ofRegistry .withJson).carry
      (Message.blank.withQualifier "Greeting/count")).toOption.any
        (fun received => received.qualifier != "") = true := by
    decide +kernel
  cases carries : (MessageCodec.ofRegistry .withJson).carry
      (Message.blank.withQualifier "Greeting/count") with
  | error error =>
      rw [carries] at named
      cases named
  | ok received =>
      rw [carries] at named
      exact ⟨_, received, carries, by simpa [Except.toOption] using named⟩

/-- The windows of a server that sends one message ahead and of a client that grants four credits at
once. -/
def unequalWindows : Side → Config
  | .client => { Config.standard with streamWindow := 8 }
  | .server => { Config.standard with streamWindow := 1 }

/-- A link with these windows. -/
def unequal : Link := spawn (fun _ => "peer") (.ofRegistry .withJson) unequalWindows

theorem unequal_windows_stall :
    CarriesCalls (.ofRegistry .withJson) ∧
      ∃ actions producer stream,
        Connection.calls (unequal.sideActions .client actions) < 2 ^ 63 ∧
          Stalled (unequal.after actions) .server producer stream :=
  ⟨json_carriesCalls,
    (stalls_iff (fun _ => "peer") (.ofRegistry .withJson) unequalWindows .server
      json_carriesCalls).mpr (by decide)⟩

/-- Not every pair of windows keeps a stream going: here the server waits for a credit after one
message, and the client for three more before it grants any. -/
theorem stall_of_one_message :
    Connection.calls (unequal.sideActions .client oneMessage) < 2 ^ 63 ∧
      Stalled (unequal.after oneMessage) .server 0 0 := by
  refine ⟨by decide +kernel, ?_⟩
  have found : (((unequal.after oneMessage).connection .client).inbound[0]?).map
      InboundStream.streamId = some 1 := by
    decide +kernel
  rcases Option.map_eq_some_iff.mp found with ⟨inbound, atStream, carries⟩
  constructor
  · intro side
    cases side <;> decide +kernel
  · intro side
    cases side <;> decide +kernel
  · exact ⟨1, by decide +kernel, inbound, atStream, carries⟩
  · have waits : (((unequal.after oneMessage).connection .client).pullInbound 0).1.map
        (fun _ => ()) = .pending := by
      decide +kernel
    cases given : (((unequal.after oneMessage).connection .client).pullInbound 0).1 with
    | pending => rfl
    | _ =>
        rw [given] at waits
        cases waits

end ServiceMesh.Link
