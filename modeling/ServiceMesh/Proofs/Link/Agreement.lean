import ServiceMesh.Proofs.Frame.Reading
import ServiceMesh.Proofs.Link.Placing

/-!
# Remote and local outcomes

A call over a link has the outcomes that the dispatcher of the server has when it is asked directly
(`Agreement`): a response means the same at the other end, and an error keeps its kind and its text
(`Agrees`).

In any run the caller has received the first of these outcomes, in their order.  That it receives all
of them is another matter: a sender whose window is smaller than what its receiver waits for stops
half way.  Where the windows are wide enough, a call at rest (`Rests`) has come to its end, and the
caller has everything (`remote_outcomes_agree`); `greetings_stall` is a stream of which one response
never arrives.
-/

namespace ServiceMesh

variable {ε : Type}

/-- A source that has come to something else than a response has given all outcomes. -/
theorem whole_of_last {outcomes : List (Outcome Message)}
    (shape : ∀ outcome ∈ outcomes.dropLast, ∃ response, outcome = .ok response)
    {first : List (Signal (Outcome Message))} {last : Signal (Outcome Message)}
    (early : first ++ [last] <+: outcomes.map .item ++ [.ended])
    (other : ∀ response, last ≠ .item (.ok response)) :
    outcomes.map .item <+: first ++ [last] := by
  induction outcomes generalizing first with
  | nil => exact List.nil_prefix
  | cons outcome outcomes induction =>
      cases first with
      | nil =>
          have same := (List.cons_prefix_cons.mp early).1
          cases outcomes with
          | nil => exact same ▸ List.prefix_rfl
          | cons next outcomes =>
              rcases shape outcome List.mem_cons_self with ⟨response, rfl⟩
              exact (other response same).elim
      | cons signal first =>
          rcases List.cons_prefix_cons.mp early with ⟨rfl, later⟩
          refine List.cons_prefix_cons.mpr ⟨rfl, induction (fun item member => ?_) later⟩
          cases outcomes with
          | nil => cases member
          | cons next outcomes =>
              exact shape item (List.mem_cons_of_mem _ member)

/-- What a source has given is carried out to the whole of the outcomes. -/
theorem items_of_whole (codec : MessageCodec) {outcomes : List (Outcome Message)}
    {given : List (Signal (Outcome Message))}
    (early : given <+: outcomes.map .item ++ [.ended]) (whole : outcomes.map .item <+: given) :
    items (given.map codec.deliverSignal) = outcomes.map codec.deliver := by
  rcases whole with ⟨rest, rfl⟩
  rw [List.prefix_append_right_inj] at early
  have delivered : (outcomes.map Signal.item).map codec.deliverSignal =
      (outcomes.map codec.deliver).map .item := by
    rw [List.map_map, List.map_map]
    rfl
  have nothing : items (rest.map codec.deliverSignal) = [] := by
    rcases List.prefix_cons_iff.mp early with rfl | ⟨later, rfl, none_⟩
    · rfl
    · rw [List.prefix_nil.mp none_]
      rfl
  rw [List.map_append, items_append, delivered, items_map_item, nothing, List.append_nil]

/-- The sides that send a stream in a call. -/
def Call.Streams (call : Call) : Side → Prop
  | .client => call.mode = .requestChannel
  | .server => call.mode ≠ .requestResponse

/-- A source of readable outcomes whose stream was closed has given all of them. -/
theorem whole_of_closed {codec : MessageCodec} {outcomes : List (Outcome Message)}
    {streamId : UInt64} {given : List (Signal (Outcome Message))} {content : List Frame}
    {messages : List Message} {envelopes : List Envelope}
    {last : Option (Signal (Outcome Message) × Frame)} (regular : Regular outcomes)
    (carried : ∀ response, .ok response ∈ outcomes →
      ∃ received, codec.carry response = .ok received)
    (supplies : ProducerPart.Supplies codec streamId given content messages envelopes last)
    (early : given <+: outcomes.map .item ++ [.ended]) {frame : Frame} (member : frame ∈ content)
    (closing : frame.isNext = false) : outcomes.map .item <+: given := by
  have given_eq := supplies.given_eq
  cases last with
  | none =>
      rw [supplies.content_eq, Option.map_none, Option.toList_none, List.append_nil] at member
      rcases List.mem_map.mp member with ⟨envelope, -, rfl⟩
      cases closing
  | some made =>
      rw [Option.map_some, Option.toList_some] at given_eq
      subst given_eq
      refine whole_of_last regular.last early fun response same => ?_
      have among : .ok response ∈ outcomes := by
        have relayed := early.mem (List.mem_append_right _ (List.mem_singleton.mpr rfl))
        rw [same] at relayed
        simpa using relayed
      rcases carried response among with ⟨received, carries⟩
      rcases Link.encode_of_carry carries with ⟨envelope, encodes, -⟩
      have ends := supplies.ends made.1 made.2 rfl
      simp [same, Connection.frameFor, encodes] at ends

/-- A remote outcome agrees with a local one: a response means the same, and an error is a remote one
with the same kind and text. -/
inductive Agrees (codecs : CodecRegistry) : Outcome Message → Outcome Message → Prop where
  /-- Two responses. -/
  | response {remote own : Message} (alike : remote.Alike codecs own) :
      Agrees codecs (.ok remote) (.ok own)
  /-- Two errors. -/
  | error {remote own : CallError} (isRemote : remote.isRemote = true)
      (kind : remote.kind = own.kind) (message : remote.message = own.message) :
      Agrees codecs (.error remote) (.error own)

theorem agrees_deliver {codec : MessageCodec} {codecs : CodecRegistry} {outcome : Outcome Message}
    (keeps : ∀ response, outcome = .ok response → codec.Keeps codecs response) :
    Agrees codecs (codec.deliver outcome) outcome := by
  cases outcome with
  | error error => exact .error rfl (ErrorKind.ofCode_code error.kind) rfl
  | ok response =>
      rcases keeps response rfl with ⟨received, carries, alike⟩
      rw [deliver_of_carry carries]
      exact .response alike

theorem agrees_map_deliver {codec : MessageCodec} {codecs : CodecRegistry}
    {outcomes : List (Outcome Message)}
    (keeps : ∀ response, .ok response ∈ outcomes → codec.Keeps codecs response) :
    List.Forall₂ (Agrees codecs) (outcomes.map codec.deliver) outcomes := by
  rw [List.forall₂_map_left_iff, List.forall₂_same]
  exact fun outcome member => agrees_deliver fun response same => keeps response (same ▸ member)

namespace Link

section

variable {peer : Side → String} {codec : MessageCodec} {config : Side → Config}
  {dispatcher : Dispatcher ε} {actions : List Action} {call : Call} {step : Connection.Step}
  {consumer : Nat} {outcomes : List (Outcome Message)}
  (placed : Placed dispatcher (spawn peer codec config) actions call step consumer)

include placed

/-- The caller has received the first of the outcomes, as they are delivered. -/
theorem Placed.received_begins
    (relays : Relays codec step.before.nextStreamId outcomes
      (Connection.contentOf step.before.nextStreamId
        ((spawn peer codec config).history .server actions)) call.mode)
    (carried : ∀ response, .ok response ∈ outcomes →
      ∃ received, codec.carry response = .ok received)
    (uncancelled : .cancel step.before.nextStreamId ∉
      Connection.sent ((spawn peer codec config).history .client actions)) :
    call.received consumer ((spawn peer codec config).history .client actions) <+:
      outcomes.map codec.deliver := by
  generalize kind : call.mode = mode at relays
  cases relays with
  | @response result whole answer =>
      rcases placed.reply kind with ⟨-, reply, atReply, own⟩
      subst whole
      cases call with
      | response request =>
          rw [← own] at answer
          exact resolved_prefix_delivered peer codec config placed.few placed.running atReply
            (by rw [own]; rfl) answer
      | stream request | channel first others => cases kind
  | @stream _ given messages envelopes last many supplies early =>
      rcases placed.stream (kind ▸ many) with ⟨-, inbound, atStream, own⟩
      rw [← own] at supplies uncancelled
      have seen := @seen_prefix_delivered peer codec config actions placed.few placed.running
        .server consumer inbound atStream uncancelled _ _ _ _ supplies
        fun message member => carried message (mem_of_supplies supplies early member)
      have shown := (seen.trans (early.map codec.deliverSignal)).filterMap Signal.item?
      have all : items ((outcomes.map Signal.item ++ [Signal.ended]).map codec.deliverSignal) =
          outcomes.map codec.deliver :=
        items_of_whole codec List.prefix_rfl (List.prefix_append _ _)
      rw [items] at all
      rw [all] at shown
      rw [Call.received_stream (kind ▸ many)]
      exact shown

end

/-! ## At rest -/

section

variable {peer : Side → String} {codec : MessageCodec} {config : Side → Config}
  {actions : List Action} {sender : Side} {number stream : Nat} {producer : Producer}
  {inbound : InboundStream}
  (few : Connection.calls ((spawn peer codec config).sideActions .client actions) < 2 ^ 63)
  (running : ∀ side,
    (((spawn peer codec config).after actions).connection side).isClosed = false)
  (atProducer : (((spawn peer codec config).after actions).connection
    sender).producers[number]? = some producer)
  (atStream : (((spawn peer codec config).after actions).connection
    sender.other).inbound[stream]? = some inbound)
  (same : inbound.streamId = producer.streamId)

include few running atProducer atStream same

/-- A producer without credits, nothing of whose call is under way or left to be pulled, has a
smaller window than its receiver waits for. -/
theorem window_lt_of_starved
    (silent : ∀ side, ((spawn peer codec config).after actions).underway side = [])
    (waits : producer.phase = .waiting) (starved : producer.credits = 0)
    (unbroken : Unbroken (spawn peer codec config) actions sender producer.streamId)
    (nothing : ∀ value, ((((spawn peer codec config).after actions).connection
      sender.other).pullInbound stream).1 ≠ .item value) :
    window config sender < threshold config sender.other := by
  have fed := fed_of_unbroken peer codec config few
    (Connection.producerPart_of_present atProducer) (.inl waits) unbroken atStream same
  have open_ : inbound.isDone = false := by
    by_contra done
    exact unfed_of_done peer codec config few atStream (by simpa using done) fed
  have pending : ((((spawn peer codec config).after actions).connection
      sender.other).pullInbound stream).1 = .pending := by
    simp only [Connection.pullInbound, atStream, open_] at nothing ⊢
    cases buffer : inbound.buffer with
    | nil => simp [fed]
    | cons item rest => cases item <;> simp [buffer] at nothing
  have held : (((spawn peer codec config).after actions).connection sender).producers[number]? =
      some ⟨producer.streamId, 0, .waiting⟩ := by
    rw [atProducer, ← waits, ← starved]
  exact window_lt_of_stalled peer codec config few
    ⟨running, silent, ⟨producer.streamId, held, inbound, atStream, same⟩, pending⟩

/-- A source that was not stopped has come to its last signal when its producer has ended. -/
theorem exists_final (ended : producer.phase = .ended)
    (unstopped : .stopped ∉ Connection.producerEvents number
      ((spawn peer codec config).history sender actions)) :
    ∃ messages envelopes signal frame, ProducerPart.Supplies codec producer.streamId
      (Connection.given number ((spawn peer codec config).history sender actions))
      (Connection.contentOf producer.streamId ((spawn peer codec config).history sender actions))
      messages envelopes (some (signal, frame)) := by
  rcases producerLaw peer codec config few (Connection.producerPart_of_present atProducer) with
    ⟨opening, law⟩
  rcases exists_supplies peer codec config few atProducer atStream same with
    ⟨messages, envelopes, last, supplies⟩
  have starts := starts_waiting peer codec config few law atStream same
  have phase : opening.producer.phase = .waiting := by
    rw [starts]
    rfl
  have owns : opening.producer.streamId = producer.streamId := by
    rw [starts]
    rfl
  have finished : (opening.run codec (Connection.producerEvents number
      ((spawn peer codec config).history sender actions))).producer.phase = .ended := by
    have state := congrArg (fun part : ProducerPart => part.producer.phase) law.state
    exact state.symm.trans ended
  have taken : ∀ signal, .gave signal false ∉ Connection.producerEvents number
      ((spawn peer codec config).history sender actions) := by
    intro signal
    have open_ := running sender
    rw [after_spawn] at open_
    rw [history_spawn]
    exact Connection.taken_of_open (Connection.wired_spawn _ _ _ _) open_ signal
  rcases ProducerPart.exists_last_of_ended law.starts.sound (by simp [phase]) (by simp [phase])
    unstopped taken finished with ⟨signal, member, final⟩
  have given := law.given
  rw [show (Connection.spawn sender.role (peer sender) codec (config sender)).codec = codec from rfl]
    at given
  rw [← given] at member
  rw [owns] at final
  rcases supplies.last_of_final member final with ⟨frame, rfl⟩
  exact ⟨messages, envelopes, signal, frame, supplies⟩

end

/-- A moment at which nothing more happens to a call by itself: no frame is under way, its caller has
nothing to get, its producers have no credits to go on with, and its handler waits, if at all, for a
further request of a channel. -/
structure Rests (link : Link) (call : Call) (consumer : Nat) (streamId : UInt64) : Prop where
  silent : ∀ side, link.underway side = []
  idle : call.Idle consumer (link.connection .client)
  starved : ∀ side, ∀ producer ∈ (link.connection side).producers,
    producer.streamId = streamId → producer.phase = .waiting → producer.credits = 0
  supplied : ∀ producer ∈ (link.connection .client).producers,
    producer.streamId = streamId → producer.phase ≠ .pulling
  concluded : ∀ producer ∈ (link.connection .server).producers,
    producer.streamId = streamId → producer.phase ≠ .answering
  asking : ∀ producer ∈ (link.connection .server).producers,
    producer.streamId = streamId → producer.phase = .pulling →
      call.mode = .requestChannel ∧ ∃ number inbound,
        (link.connection .server).inbound[number]? = some inbound ∧
          inbound.streamId = streamId ∧
            ((link.connection .server).pullInbound number).1 = .pending

/-- On a side no frame is under way, and all that is there to send has ended or waits for credits. -/
def Quiet (link : Link) (side : Side) : Prop :=
  link.underway side = [] ∧ ∀ producer ∈ (link.connection side).producers,
    producer.phase = .ended ∨ producer.phase = .waiting ∧ producer.credits = 0

instance (link : Link) (side : Side) : Decidable (link.Quiet side) :=
  inferInstanceAs (Decidable (_ ∧ _))

/-- When both sides are quiet, all calls whose callers have nothing to get are at rest. -/
theorem rests_of_quiet {link : Link} {call : Call} {consumer : Nat} {streamId : UInt64}
    (quiet : ∀ side, link.Quiet side) (idle : call.Idle consumer (link.connection .client)) :
    Rests link call consumer streamId := by
  have stopped : ∀ side, ∀ producer ∈ (link.connection side).producers,
      producer.phase ≠ .answering ∧ producer.phase ≠ .pulling ∧
        (producer.phase = .waiting → producer.credits = 0) := by
    intro side producer member
    rcases (quiet side).2 producer member with ended | ⟨waits, none_⟩
    · simp [ended]
    · simp [waits, none_]
  exact {
    silent := fun side => (quiet side).1
    idle := idle
    starved := fun side producer member _ => (stopped side producer member).2.2
    supplied := fun producer member _ => (stopped .client producer member).2.1
    concluded := fun producer member _ => (stopped .server producer member).1
    asking := fun producer member _ pulls =>
      ((stopped .server producer member).2.1 pulls).elim }

section

variable {peer : Side → String} {codec : MessageCodec} {config : Side → Config}
  {dispatcher : Dispatcher ε} {actions : List Action} {call : Call} {step : Connection.Step}
  {consumer number : Nat} {producer : Producer} {outcomes : List (Outcome Message)}
  (placed : Placed dispatcher (spawn peer codec config) actions call step consumer)

include placed

/-- Nobody stops who answers a call that is not cancelled. -/
theorem Placed.unstopped_server
    (uncancelled : .cancel step.before.nextStreamId ∉
      Connection.sent ((spawn peer codec config).history .client actions))
    (atProducer : (((spawn peer codec config).after actions).connection
      .server).producers[number]? = some producer)
    (carries : producer.streamId = step.before.nextStreamId) :
    .stopped ∉ Connection.producerEvents number
      ((spawn peer codec config).history .server actions) := by
  intro stopped
  have open_ := placed.running .server
  rw [after_spawn] at atProducer open_
  have heard := taken_prefix_sent peer codec config .server actions
  rw [history_spawn peer codec config .server] at stopped heard
  rcases Connection.stopped_cases (Connection.wired_spawn _ _ _ _) atProducer stopped with
    cancels | ⟨dropped, stream, -, present, -, own⟩ | closed
  · exact uncancelled (carries ▸ heard.mem cancels)
  · have answers := Connection.isRequester_of_answers Side.server.role (peer .server) codec
      (config .server) (opensCall_of_server (spawn peer codec config) actions) stream
      (List.mem_of_getElem? present)
    rw [own] at answers
    cases answers
  · rw [open_] at closed
    cases closed

/-- Nobody stops who sends the requests of a call that the server does not give up. -/
theorem Placed.unstopped_client
    (kept : .cancel step.before.nextStreamId ∉
      Connection.sent ((spawn peer codec config).history .server actions))
    (many : call.mode ≠ .requestResponse)
    (atProducer : (((spawn peer codec config).after actions).connection
      .client).producers[number]? = some producer)
    (carries : producer.streamId = step.before.nextStreamId) :
    .stopped ∉ Connection.producerEvents number
      ((spawn peer codec config).history .client actions) := by
  intro stopped
  rcases placed.stream many with ⟨-, own, atOwn, owns⟩
  have sole := soleStream peer codec config placed.few atOwn
  have open_ := placed.running .client
  have heard := taken_prefix_sent peer codec config .client actions
  rw [after_spawn] at atProducer open_ sole
  rw [history_spawn peer codec config .client] at stopped heard
  rcases Connection.stopped_cases (Connection.wired_spawn _ _ _ _) atProducer stopped with
    cancels | ⟨dropped, stream, drops, present, same, -⟩ | closed
  · exact kept (carries ▸ heard.mem cancels)
  · have equal := sole.streams dropped stream present (same.trans (carries.trans owns.symm))
    exact placed.stays (Call.leaving_stream many consumer ▸ equal ▸ drops)
  · rw [open_] at closed
    cases closed

/-- At rest the server has taken the request. -/
theorem Placed.handled_of_silent (keeps : codec.Keeps dispatcher.codecs call.first)
    (named : call.first.qualifier ≠ "")
    (silent : ∀ side, ((spawn peer codec config).after actions).underway side = []) :
    ∃ (number : Nat) (producer : Producer),
      (((spawn peer codec config).after actions).connection .server).producers[number]? =
        some producer ∧
      producer.streamId = step.before.nextStreamId := by
  rcases placed.requested with ⟨envelope, encodes, sent⟩
  rw [show Side.client = Side.server.other from rfl,
    ← taken_of_silent peer codec config placed.few placed.running silent .server] at sent
  rcases placed.handled keeps named encodes sent with
    ⟨accepted, answers, producer, -, -, -, -, atProducer, carries⟩
  exact ⟨answers, producer, atProducer, carries⟩

variable (rest : Rests ((spawn peer codec config).after actions) call consumer
    step.before.nextStreamId)
  (wide : ∀ side, call.Streams side → threshold config side.other ≤ window config side)

include rest wide

/-- At rest the handler of a channel does not wait for a request. -/
theorem Placed.unasked (channel : call.mode = .requestChannel) {inbound : InboundStream}
    (atStream : (((spawn peer codec config).after actions).connection
      .server).inbound[number]? = some inbound)
    (owns : inbound.streamId = step.before.nextStreamId)
    (pending : ((((spawn peer codec config).after actions).connection
      .server).pullInbound number).1 = .pending) : False := by
  have fed := (waits_of_pending atStream pending).2.2
  have unbroken := @unbroken_of_fed peer codec config actions .client number inbound placed.few
    placed.running rest.silent atStream fed
  obtain ⟨requests, opens⟩ : ∃ requests, step.observation = .channel (.ok ⟨consumer, requests⟩) := by
    cases placed.opens with
    | channel action opens => exact ⟨_, opens⟩
    | response action opens | stream action opens => cases channel
  rcases placed.producer opens with ⟨source, atSource, carries⟩
  have member := List.mem_of_getElem? atSource
  cases phase : source.phase with
  | answering =>
      exact (channel_of_client_producer peer codec config placed.few
        (Connection.producerPart_of_present atSource)).1 phase
  | pulling => exact rest.supplied source member carries phase
  | waiting =>
      have small := @window_lt_of_starved peer codec config actions .client requests number source
        inbound placed.few placed.running atSource atStream (owns.trans carries.symm) rest.silent
        phase (rest.starved .client source member carries phase)
        (carries.symm ▸ owns ▸ unbroken) (fun value => by
          rw [show Side.client.other = Side.server from rfl, pending]
          exact nofun)
      exact Nat.lt_irrefl _ (Nat.lt_of_lt_of_le small (wide .client channel))
  | ended =>
      have unstopped := placed.unstopped_client (owns ▸ unbroken.received) (by simp [channel])
        atSource carries
      rcases @exists_final peer codec config actions .client requests number source inbound
        placed.few placed.running atSource atStream (owns.trans carries.symm) phase unstopped with
        ⟨messages, envelopes, signal, frame, supplies⟩
      have sent : frame ∈ Connection.contentOf source.streamId
          ((spawn peer codec config).history .client actions) := by
        rw [supplies.content_eq]
        exact List.mem_append_right _ (List.mem_singleton.mpr rfl)
      have takes : frame ∈ Connection.taken ((spawn peer codec config).history .server actions) := by
        rw [taken_of_silent peer codec config placed.few placed.running rest.silent]
        exact (List.mem_filter.mp sent).1
      have ends := supplies.ends signal frame rfl
      rw [carries, ← owns] at ends
      rcases arrival_of_last codec .server ends with ⟨-, brings⟩ | ⟨failure, -, brings⟩
      · exact unfed_of_ending peer codec config placed.few atStream takes brings rfl fed
      · exact unfed_of_ending peer codec config placed.few atStream takes brings rfl fed

/-- At rest who answers the call has ended. -/
theorem Placed.ended_of_rest
    (uncancelled : .cancel step.before.nextStreamId ∉
      Connection.sent ((spawn peer codec config).history .client actions))
    (atProducer : (((spawn peer codec config).after actions).connection
      .server).producers[number]? = some producer)
    (carries : producer.streamId = step.before.nextStreamId) : producer.phase = .ended := by
  have member := List.mem_of_getElem? atProducer
  cases phase : producer.phase with
  | ended => rfl
  | answering => exact (rest.concluded producer member carries phase).elim
  | pulling =>
      rcases rest.asking producer member carries phase with
        ⟨channel, requests, inbound, atStream, owns, pending⟩
      exact (placed.unasked rest wide channel atStream owns pending).elim
  | waiting =>
      by_cases single : call.mode = .requestResponse
      · rcases placed.reply single with ⟨-, reply, atReply, own⟩
        rcases stream_of_server_producer peer codec config placed.few
          (Connection.producerPart_of_present atProducer) (.inl phase) with ⟨stream, among, same⟩
        rcases List.getElem?_of_mem among with ⟨other, atOther⟩
        have sole := soleStream peer codec config placed.few atOther
        exact (sole.replies consumer reply atReply
          (own.trans (carries.symm.trans same.symm))).elim
      · rcases placed.stream single with ⟨-, inbound, atStream, owns⟩
        have unbroken : Unbroken (spawn peer codec config) actions .server producer.streamId :=
          ⟨⟨placed.running, carries ▸ uncancelled⟩, carries ▸ uncancelled⟩
        have small := @window_lt_of_starved peer codec config actions .server number consumer
          producer inbound placed.few placed.running atProducer atStream
          (owns.trans carries.symm) rest.silent phase
          (rest.starved .server producer member carries phase) unbroken
          ((Call.idle_stream single consumer _).mp rest.idle)
        exact (Nat.lt_irrefl _ (Nat.lt_of_lt_of_le small (wide .server single))).elim

variable (keeps : codec.Keeps dispatcher.codecs call.first) (named : call.first.qualifier ≠ "")
  (uncancelled : .cancel step.before.nextStreamId ∉
    Connection.sent ((spawn peer codec config).history .client actions))

include keeps named uncancelled

/-- At rest a single response has been sent. -/
theorem Placed.content_of_rest (single : call.mode = .requestResponse) :
    Connection.contentOf step.before.nextStreamId
      ((spawn peer codec config).history .server actions) ≠ [] := by
  rcases placed.handled_of_silent keeps named rest.silent with
    ⟨number, producer, atProducer, carries⟩
  have ended := placed.ended_of_rest rest wide uncancelled atProducer carries
  have unstopped := placed.unstopped_server uncancelled atProducer carries
  rcases placed.reply single with ⟨-, reply, atReply, own⟩
  rcases producerLaw peer codec config placed.few
    (Connection.producerPart_of_present atProducer) with ⟨opening, law⟩
  have starts := starts_answering placed.few law atReply (own.trans carries.symm)
  have waits : opening.producer.phase = .answering := by
    rw [starts]
    rfl
  have state : producer.phase = _ :=
    congrArg (fun part : ProducerPart => part.producer.phase) law.state
  have content := law.content
  rw [carries] at content
  rw [Connection.contentOf, content]
  intro nothing
  rcases ProducerPart.content_of_answering codec law.starts.sound waits
    (Connection.producerEvents number ((spawn peer codec config).history .server actions)) with
    ⟨-, waiting | stopped⟩ | ⟨result, -, whole⟩
  · rw [ended] at state
    cases state.trans waiting
  · exact unstopped stopped
  · cases nothing.symm.trans whole

/-- At rest a stream of responses has been closed. -/
theorem Placed.closed_of_rest (many : call.mode ≠ .requestResponse) :
    ∃ frame ∈ Connection.contentOf step.before.nextStreamId
      ((spawn peer codec config).history .server actions), frame.isNext = false := by
  rcases placed.handled_of_silent keeps named rest.silent with
    ⟨number, producer, atProducer, carries⟩
  have ended := placed.ended_of_rest rest wide uncancelled atProducer carries
  have unstopped := placed.unstopped_server uncancelled atProducer carries
  rcases placed.stream many with ⟨-, inbound, atStream, owns⟩
  rcases @exists_final peer codec config actions .server number consumer producer inbound
    placed.few placed.running atProducer atStream (owns.trans carries.symm) ended unstopped with
    ⟨messages, envelopes, signal, frame, supplies⟩
  refine ⟨frame, ?_, ProducerPart.isNext_last (supplies.ends signal frame rfl)⟩
  rw [← carries, supplies.content_eq]
  exact List.mem_append_right _ (List.mem_singleton.mpr rfl)

/-- At rest the caller has received all outcomes, as they are delivered. -/
theorem Placed.received_of_rest (regular : Regular outcomes)
    (relays : Relays codec step.before.nextStreamId outcomes
      (Connection.contentOf step.before.nextStreamId
        ((spawn peer codec config).history .server actions)) call.mode)
    (carried : ∀ response, .ok response ∈ outcomes →
      ∃ received, codec.carry response = .ok received) :
    call.received consumer ((spawn peer codec config).history .client actions) =
      outcomes.map codec.deliver := by
  have sent := placed.content_of_rest rest wide keeps named uncancelled
  have closed := placed.closed_of_rest rest wide keeps named uncancelled
  generalize kind : call.mode = mode at relays
  cases relays with
  | @response result whole answer =>
      rcases placed.reply kind with ⟨isHanded, reply, atReply, own⟩
      subst whole
      cases call with
      | response request =>
          have one := answer.resolve_left (sent kind)
          rw [← own] at one
          have stays : .left ∉ Connection.replyEvents consumer
              ((spawn peer codec config).history .client actions) :=
            fun left => placed.stays (Connection.dropReply_of_left left)
          exact resolved_of_rest peer codec config placed.few placed.running atReply
            (by rw [own]; rfl) one rest.silent isHanded stays rest.idle
      | stream request | channel first others => cases kind
  | @stream _ given messages envelopes last many supplies early =>
      rcases placed.stream (kind ▸ many) with ⟨isHanded, inbound, atStream, own⟩
      rcases closed (kind ▸ many) with ⟨frame, among, closing⟩
      have whole := whole_of_closed regular carried supplies early among closing
      have stays : .left ∉ Connection.streamEvents consumer
          ((spawn peer codec config).history .client actions) := fun left =>
        placed.stays (Call.leaving_stream (kind ▸ many) consumer ▸
          Connection.dropInbound_of_left left)
      rw [← own] at supplies uncancelled
      rw [Call.received_stream (kind ▸ many), ← items_of_whole codec early whole]
      exact items_of_rest peer codec config placed.few placed.running atStream uncancelled
        supplies (fun message member => carried message (mem_of_supplies supplies early member))
        rest.silent isHanded stays ((Call.idle_stream (kind ▸ many) consumer _).mp rest.idle)

end

/-- The outcomes of a call through a link, in comparison with those of a dispatcher that is asked
directly. -/
structure Agreement (dispatcher : Dispatcher ε) (start : Link) (config : Side → Config)
    (actions : List Action) (call : Call) (step : Connection.Step) (consumer : Nat)
    (outcomes : List (Outcome Message)) : Prop where
  /-- These are the outcomes of the dispatcher, and it has no others. -/
  locally : ∀ others, dispatcher.Answers call others ↔ others = outcomes
  /-- What the caller has received agrees with the first of them. -/
  inOrder : List.Forall₂ (Agrees dispatcher.codecs)
    (call.received consumer (start.history .client actions))
    (outcomes.take (call.received consumer (start.history .client actions)).length)
  /-- When nothing more happens by itself, the caller has received all of them, provided that a
  window is nowhere smaller than what the receiver waits for. -/
  whole : (∀ side, call.Streams side → threshold config side.other ≤ window config side) →
    Rests (start.after actions) call consumer step.before.nextStreamId →
      List.Forall₂ (Agrees dispatcher.codecs)
        (call.received consumer (start.history .client actions)) outcomes
  /-- The frames that a side has written are read from their bytes, however these are cut. -/
  framed : ∀ side (pieces : List Bytes),
    pieces.flatten = (Connection.written (start.history side actions)).flatMap Frame.encode →
      (ByteSource.mk pieces none).readFrames (config side.other).maxFrameSize =
        (Connection.written (start.history side actions), none)

theorem portable_of_bare {message : Message} (bare : message.Bare)
    (payload : message.payload.Portable) : message.Portable :=
  ⟨fun field => by rw [bare.headers]; rfl, bare.format, payload⟩

theorem keeps_of_portable {message : Message} (portable : message.Portable) :
    (MessageCodec.ofRegistry .withJson).Keeps .withJson message := by
  rcases MessageCodec.decode_encode portable with ⟨envelope, encodes, decodes⟩
  refine ⟨_, ?_, MessageCodec.alike_raw portable⟩
  rw [MessageCodec.carry, encodes]
  exact decodes

/-- A call on functional services has the same outcomes through a link as it has when their
dispatcher is asked directly. -/
theorem remote_outcomes_agree (peer : Side → String) (config : Side → Config)
    {services : List (Service ε)} (functional : ∀ service ∈ services, service.Functional)
    {dispatcher : Dispatcher ε} (built : Dispatcher.build .withJson services = .ok dispatcher)
    {actions : List Action} {call : Call} {step : Connection.Step} {consumer : Nat}
    (placed : Placed dispatcher (spawn peer (.ofRegistry .withJson) config) actions call step
      consumer)
    (named : call.first.qualifier ≠ "") (requests : ∀ request ∈ call.requests, request.Portable)
    (responses : ∀ outcomes, dispatcher.Answers call outcomes →
      ∀ response, .ok response ∈ outcomes → response.payload.Portable)
    (fit : ∀ side, ∀ frame ∈ Connection.written
      ((spawn peer (.ofRegistry .withJson) config).history side actions),
        frame.Fits (config side.other).maxFrameSize) :
    ∃ outcomes, Agreement dispatcher (spawn peer (.ofRegistry .withJson) config) config actions
      call step consumer outcomes := by
  have codecs := Dispatcher.codecs_of_build built
  rcases dispatcher.settles (Dispatcher.functional_of_build functional built) call with
    ⟨outcomes, settles⟩
  have keeps : ∀ request ∈ call.requests,
      (MessageCodec.ofRegistry .withJson).Keeps dispatcher.codecs request := fun request member =>
    codecs ▸ keeps_of_portable (requests request member)
  have returns : ∀ response, .ok response ∈ outcomes →
      (MessageCodec.ofRegistry .withJson).Keeps dispatcher.codecs response := fun response member =>
    codecs ▸ keeps_of_portable (portable_of_bare (settles.regular.bare response member)
      (responses outcomes settles.answers response member))
  have carried : ∀ response, .ok response ∈ outcomes →
      ∃ received, (MessageCodec.ofRegistry .withJson).carry response = .ok received := by
    intro response member
    rcases returns response member with ⟨received, carries, -⟩
    exact ⟨received, carries⟩
  have uncancelled := placed.uncancelled settles keeps named carried List.prefix_rfl
  have shown := relays placed settles keeps named uncancelled
  have agrees := agrees_map_deliver returns
  refine ⟨outcomes, fun others => ⟨fun answers => answers.unique settles.answers, ?_⟩, ?_, ?_, ?_⟩
  · rintro rfl
    exact settles.answers
  · have early := placed.received_begins shown carried uncancelled
    rw [List.prefix_iff_eq_take] at early
    have first := List.forall₂_take (call.received consumer ((spawn peer (.ofRegistry .withJson)
      config).history .client actions)).length agrees
    rwa [← early] at first
  · intro wide rest
    rw [placed.received_of_rest rest wide (keeps _ List.mem_cons_self) named uncancelled
      settles.regular shown carried]
    exact agrees
  · intro side pieces cut
    exact ByteSource.readFrames_encode (fit side) cut

/-- A service that answers a call by two greetings. -/
def greeting : Service Unit :=
  (Service.named "Greeting").requestStream Unit String "twice"
    fun _ => .ofList [.ok "hello", .ok "bye"]

/-- The dispatcher of this service. -/
def greeter : Dispatcher Unit where
  codecs := .withJson
  methods := greeting.methods.foldl
    (fun methods method => methods.insert method.binding.qualifier method) .empty
  registrations := [greeting.info]

theorem greeter_built : Dispatcher.build .withJson [greeting] = .ok greeter := rfl

theorem functional_greeting : ∀ service ∈ [greeting], service.Functional := by
  intro service member
  rw [List.mem_singleton.mp member]
  exact .requestStream Unit String "twice" (fun _ => [.ok "hello", .ok "bye"]) (.named "Greeting")

/-- The request for the greetings. -/
def greet : Message := Message.blank.withQualifier "Greeting/twice"

theorem portable_greet : ∀ request ∈ (Call.stream greet).requests, request.Portable := by
  intro request member
  cases List.mem_singleton.mp member
  exact ⟨fun _ => rfl, rfl, trivial⟩

/-- A greeting. -/
def greets (text : String) : Message :=
  (Message.carrying "Greeting/twice" (.value (.str text))).withDataType (Wire.typeName String)

/-- Both greetings. -/
def greetings : List (Outcome Message) := ["hello", "bye"].map fun text => .ok (greets text)

theorem yields_greetings : (greeter.requestStream greet).Yields greetings :=
  .item (by rfl) (.item (by rfl) (.ended (by rfl)))

/-- The greetings are sent and received, as far as credits allow it. -/
def greetingRun : List Action :=
  [.act .client (.requestStream greet), .transmit .client, .deliver .server,
    .act .server (.takeCredit 0), .act .server (.produce 0 (.item (.ok (greets "hello")))),
    .act .server (.takeCredit 0), .act .server (.produce 0 (.item (.ok (greets "bye")))),
    .act .server (.takeCredit 0), .act .server (.produce 0 .ended),
    .transmit .server, .transmit .server, .transmit .server,
    .deliver .client, .deliver .client, .deliver .client,
    .act .client (.pullInbound 0), .act .client (.pullInbound 0), .act .client (.pullInbound 0)]

/-- A link over which the greetings go. -/
def greetingLink (config : Side → Config) : Link :=
  spawn (fun _ => "peer") (.ofRegistry .withJson) config

/-- The step that asks for the greetings. -/
def greetingStep (config : Side → Config) : Connection.Step :=
  ⟨(greetingLink config).client, .requestStream greet⟩

theorem placed_greetings {config : Side → Config}
    (few : Connection.calls ((greetingLink config).sideActions .client greetingRun) < 2 ^ 63)
    (running : ∀ side, (((greetingLink config).after greetingRun).connection side).isClosed = false)
    (accepts : Connection.acceptedCalls ((greetingLink config).history .server greetingRun) =
      [⟨.requestStream, greet, some 0, none⟩])
    (gives : Connection.given 0 ((greetingLink config).history .server greetingRun) <+:
      greetings.map .item ++ [.ended])
    (stays : ((greetingLink config).sideActions .client greetingRun).any
      (fun | .dropInbound _ => true | _ => false) = false) :
    Placed greeter (greetingLink config) greetingRun (.stream greet) (greetingStep config) 0 where
  few := few
  running := running
  hosts moment within := by
    have early : (greetingLink config).history .server moment <+:
        (greetingLink config).history .server greetingRun := by
      rcases within with ⟨later, split⟩
      rw [← split, history_append]
      exact List.prefix_append _ _
    refine Connection.hosts_of_streams early ?_
    intro call member answers gets
    rw [accepts] at member
    cases List.mem_singleton.mp member
    cases gets
    exact ⟨rfl, greetings, yields_greetings, gives⟩
  opened := List.mem_cons_self
  opens := .stream rfl rfl
  stays leaves := absurd rfl (List.any_eq_false.mp stays _ leaves)
  feeds channel shows := by cases shows

/-- With the standard windows both greetings arrive. -/
theorem greetings_agree :
    Placed greeter (greetingLink fun _ => .standard) greetingRun (.stream greet)
        (greetingStep fun _ => .standard) 0 ∧
      Rests ((greetingLink fun _ => .standard).after greetingRun) (.stream greet) 0
        (greetingStep fun _ => .standard).before.nextStreamId ∧
      Agreement greeter (greetingLink fun _ => .standard) (fun _ => .standard) greetingRun
        (.stream greet) (greetingStep fun _ => .standard) 0 greetings ∧
      List.Forall₂ (Agrees greeter.codecs)
        (items (Connection.seen 0 ((greetingLink fun _ => .standard).history .client greetingRun)))
        greetings := by
  have quiet : ∀ side, (((greetingLink fun _ => .standard).after greetingRun).connection
      side).isClosed = false ∧ ((greetingLink fun _ => .standard).after greetingRun).Quiet side := by
    intro side
    cases side <;> decide +kernel
  have placed : Placed greeter (greetingLink fun _ => .standard) greetingRun (.stream greet)
      (greetingStep fun _ => .standard) 0 :=
    placed_greetings (by decide +kernel) (fun side => (quiet side).1) (by rfl) (by rfl)
      (by decide +kernel)
  have ended : ((((greetingLink fun _ => .standard).after greetingRun).connection
      .client).pullInbound 0).1 = .ended := by rfl
  have rests : Rests ((greetingLink fun _ => .standard).after greetingRun) (.stream greet) 0
      (greetingStep fun _ => .standard).before.nextStreamId :=
    rests_of_quiet (fun side => (quiet side).2) fun value shows => nomatch ended.symm.trans shows
  have responses : ∀ outcomes, greeter.Answers (.stream greet) outcomes →
      ∀ response, .ok response ∈ outcomes → response.payload.Portable := by
    intro outcomes answers response member
    rw [answers.unique (.stream yields_greetings)] at member
    rcases List.mem_map.mp member with ⟨text, -, same⟩
    cases same
    exact ⟨trivial, Nat.zero_le _⟩
  have fit : ∀ side, ∀ frame ∈ Connection.written ((greetingLink fun _ => .standard).history side
      greetingRun), frame.Fits Config.standard.maxFrameSize := by
    intro side
    cases side <;> decide +kernel
  rcases remote_outcomes_agree (fun _ => "peer") (fun _ => .standard) functional_greeting
    greeter_built placed (by decide) portable_greet responses fit with ⟨outcomes, agreement⟩
  cases (agreement.locally greetings).mp (.stream yields_greetings)
  exact ⟨placed, rests, agreement, agreement.whole (fun side _ => by cases side <;> decide) rests⟩

/-- With a window of one message on the server and of eight on the client, one of them does not. -/
theorem greetings_stall :
    Placed greeter unequal greetingRun (.stream greet) (greetingStep unequalWindows) 0 ∧
      Rests (unequal.after greetingRun) (.stream greet) 0
        (greetingStep unequalWindows).before.nextStreamId ∧
      greeter.Answers (.stream greet) greetings ∧
      ¬ List.Forall₂ (Agrees greeter.codecs)
        (items (Connection.seen 0 (unequal.history .client greetingRun))) greetings := by
  have quiet : ∀ side, ((unequal.after greetingRun).connection side).isClosed = false ∧
      (unequal.after greetingRun).Quiet side := by
    intro side
    cases side <;> decide +kernel
  have pending : (((unequal.after greetingRun).connection .client).pullInbound 0).1 = .pending := by
    rfl
  have received : (items (Connection.seen 0 (unequal.history .client greetingRun))).length = 1 := by
    decide +kernel
  refine ⟨?_, ?_, .stream yields_greetings, fun agree => nomatch received.symm.trans agree.length_eq⟩
  · exact placed_greetings (by decide +kernel) (fun side => (quiet side).1) (by rfl)
      ⟨[_, _], by rfl⟩ (by decide +kernel)
  · exact rests_of_quiet (fun side => (quiet side).2) fun value shows =>
      nomatch pending.symm.trans shows

end Link

end ServiceMesh
