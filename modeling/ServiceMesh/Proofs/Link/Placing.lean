import ServiceMesh.Proofs.Connection.Asking
import ServiceMesh.Proofs.Link.Transfer

/-!
# Calls on a server with a dispatcher

A server that has a dispatcher handles by it every call that it accepts (`Connection.Hosts`).  The
frames that it sends for a call whose caller stays relay the beginning of the outcomes that the
dispatcher has when it is asked directly (`relays`).
-/

namespace ServiceMesh

variable {ε : Type}

/-- A message reaches the other side in a form that means the same. -/
def MessageCodec.Keeps (codec : MessageCodec) (codecs : CodecRegistry) (message : Message) : Prop :=
  ∃ received, codec.carry message = .ok received ∧ received.Alike codecs message

/-- What is supplied arrives in a form that means the same. -/
theorem exists_supply {codec : MessageCodec} {codecs : CodecRegistry} {messages : List Message}
    (keeps : ∀ message ∈ messages, codec.Keeps codecs message) :
    ∃ received, List.Forall₂ (Message.Alike codecs) received messages ∧
      (supply messages).map codec.deliverSignal = supply received := by
  induction messages with
  | nil => exact ⟨[], .nil, rfl⟩
  | cons message messages induction =>
      rcases keeps message List.mem_cons_self with ⟨first, carries, alike⟩
      rcases induction fun other member => keeps other (List.mem_cons_of_mem _ member) with
        ⟨rest, same, supplied⟩
      refine ⟨first :: rest, .cons alike same, ?_⟩
      rw [supply] at supplied ⊢
      rw [List.map_cons, List.cons_append, List.map_cons, supplied, supply, supply, List.map_cons,
        List.cons_append, MessageCodec.deliverSignal, deliver_of_carry carries]

theorem mem_of_mem_supply {messages : List Message} {message : Message}
    (member : .item (.ok message) ∈ supply messages) : message ∈ messages := by
  simpa [supply] using member

namespace Connection

/-- By some moment a call is handled by a dispatcher: what the producer of its answers was given is
what the handler shows, which has seen what was pulled from the stream of requests. -/
inductive Handles (dispatcher : Dispatcher ε) (history : List Step) (call : Accepted)
    (answers : Nat) : Prop where
  /-- A call that gets one response. -/
  | response (mode : call.mode = .requestResponse)
      (results : ∀ step ∈ history, ∀ result, step.action = .respond answers result →
        dispatcher.Shows call.message [] .requestResponse [.item result]) :
      Handles dispatcher history call answers
  /-- A call that gets a stream of responses. -/
  | stream (mode : call.mode = .requestStream)
      (shows : dispatcher.Shows call.message [] .requestStream (given answers history)) :
      Handles dispatcher history call answers
  /-- A channel. -/
  | channel {requests : Nat} (mode : call.mode = .requestChannel)
      (opens : call.requests = some requests)
      (shows : dispatcher.Shows call.message (seen requests history) .requestChannel
        (given answers history)) :
      Handles dispatcher history call answers

/-- The call that a step has accepted. -/
def Step.acceptedCall (step : Step) : Option Accepted :=
  match step.observation with
  | .accepted call => call
  | _ => none

/-- The calls that were accepted. -/
def acceptedCalls (history : List Step) : List Accepted := history.filterMap Step.acceptedCall

/-- Every call that was accepted is handled by a dispatcher. -/
def Hosts (dispatcher : Dispatcher ε) (history : List Step) : Prop :=
  ∀ call ∈ acceptedCalls history, ∀ answers, call.answers = some answers →
    Handles dispatcher history call answers

/-- Streams that give what a dispatcher yields are handled by it. -/
theorem hosts_of_streams {dispatcher : Dispatcher ε} {history earlier : List Step}
    (early : earlier <+: history)
    (streams : ∀ call ∈ acceptedCalls history, ∀ answers, call.answers = some answers →
      call.mode = .requestStream ∧
        ∃ outcomes, (dispatcher.requestStream call.message).Yields outcomes ∧
          given answers history <+: outcomes.map .item ++ [.ended]) :
    Hosts dispatcher earlier := by
  intro call member answers gets
  rcases streams call ((early.filterMap Step.acceptedCall).mem member) answers gets with
    ⟨mode, outcomes, yields, within⟩
  have before : given answers earlier <+: given answers history := early.filterMap _
  exact .stream mode (.stream (yields.shows (before.trans within)))

/-- What an accepted call gets to answer with. -/
theorem answers_accept (connection : Connection) {mode : Mode} (answered : mode ≠ .fireAndForget)
    (streamId : UInt64) (message : Message) :
    ∃ answers producer, (connection.accept mode streamId message).1.answers = some answers ∧
      (connection.accept mode streamId message).2.producers[answers]? = some producer ∧
        producer.streamId = streamId := by
  cases mode with
  | fireAndForget => exact (answered rfl).elim
  | requestResponse | requestStream | requestChannel =>
      exact ⟨_, _, rfl, by simp [accept, startPump, startProducer, openRequests]; rfl, rfl⟩

theorem mode_accept (connection : Connection) (mode : Mode) (streamId : UInt64)
    (message : Message) :
    (connection.accept mode streamId message).1.mode = mode ∧
      (connection.accept mode streamId message).1.message = message := by
  cases mode <;> exact ⟨rfl, rfl⟩

/-- A request that was taken and names a method has opened a call. -/
theorem exists_accepted {start : Connection} (wired : Wired start) (serves : start.role = .server)
    {actions : List Action} {mode : Mode} {streamId : UInt64} {envelope : Envelope}
    {message : Message} (takes : .request mode streamId envelope ∈ taken (start.history actions))
    (decodes : start.codec.decode envelope = .ok message) (named : message.qualifier ≠ "")
    (answered : mode ≠ .fireAndForget) :
    ∃ call ∈ acceptedCalls (start.history actions), ∃ answers producer,
      call.mode = mode ∧ call.message = message ∧
        AcceptedAs (start.after actions) streamId call ∧ call.answers = some answers ∧
          (start.after actions).producers[answers]? = some producer ∧
            producer.streamId = streamId := by
  rcases List.mem_filterMap.mp takes with ⟨⟨before, action⟩, member, taken⟩
  rcases wired_of_mem_history wired member with ⟨-, fromStart, toEnd⟩
  cases action with
  | receive frame =>
      simp only [Step.taken, Option.ite_none_right_eq_some, Option.some.injEq] at taken
      rcases taken with ⟨reading, rfl⟩
      have accepts : before.perform (.receive (.request mode streamId envelope)) =
          (.accepted (some (before.accept mode streamId message).1),
            (before.accept mode streamId message).2) := by
        rw [← fromStart.codec] at decodes
        simp [perform, receive_request_server reading (fromStart.role.trans serves),
          receiveRequest, decodes, named]
      rw [Step.after, accepts] at toEnd
      rcases answers_accept before answered streamId message with
        ⟨answers, producer, gets, atProducer, carries⟩
      rcases toEnd.producers answers producer atProducer with ⟨later, atLater, same⟩
      refine ⟨(before.accept mode streamId message).1,
        List.mem_filterMap.mpr ⟨_, member, ?_⟩, answers, later,
        (mode_accept before mode streamId message).1, (mode_accept before mode streamId message).2,
        (acceptedAs_accept before mode streamId message).later toEnd, gets, atLater,
        same.trans carries⟩
      rw [Step.acceptedCall, Step.observation, accepts]
  | _ => cases taken

end Connection

namespace Link

/-! ## Runs up to some moment -/

theorem sideActions_append (link : Link) (side : Side) (first second : List Action) :
    link.sideActions side (first ++ second) =
      link.sideActions side first ++ (link.after first).sideActions side second := by
  induction first generalizing link with
  | nil => rfl
  | cons action first induction =>
      rw [List.cons_append, sideActions, sideActions, induction, List.append_assoc, after_cons]

theorem history_append (link : Link) (side : Side) (first second : List Action) :
    link.history side (first ++ second) =
      link.history side first ++ (link.after first).history side second := by
  rw [history, sideActions_append, Connection.history_append, ← connection_after, history, history]

/-- A call of the client in a run, on a server that has a dispatcher. -/
structure Placed (dispatcher : Dispatcher ε) (start : Link) (actions : List Action) (call : Call)
    (step : Connection.Step) (consumer : Nat) : Prop where
  /-- No id is given twice. -/
  few : Connection.calls (start.sideActions .client actions) < 2 ^ 63
  /-- Nobody closes the connection. -/
  running : ∀ side, ((start.after actions).connection side).isClosed = false
  /-- The dispatcher handles what the server accepts, at every moment. -/
  hosts : ∀ earlier, earlier <+: actions →
    Connection.Hosts dispatcher (start.history .server earlier)
  /-- A step of the client opens the call. -/
  opened : step ∈ start.history .client actions
  opens : call.Opens step consumer
  /-- The caller does not give up. -/
  stays : call.leaving consumer ∉ start.sideActions .client actions
  /-- The requests of the call are given in their order. -/
  feeds : call.Feeds step (start.history .client actions)

section

variable (peer : Side → String) (codec : MessageCodec) (config : Side → Config)

theorem extends_of_earlier {before actions : List Action} (early : before <+: actions)
    (side : Side) :
    Connection.Extends (((spawn peer codec config).after before).connection side)
      (((spawn peer codec config).after actions).connection side) := by
  rcases early with ⟨later, rfl⟩
  rw [after_append, connection_after ((spawn peer codec config).after before)]
  refine Connection.extends_after ?_ _
  rw [after_spawn]
  exact Connection.wired_after (Connection.wired_spawn _ _ _ _) _

variable {peer codec config}

variable {dispatcher : Dispatcher ε} {actions : List Action} {call : Call}
  {step : Connection.Step} {consumer : Nat}

/-- What holds of a call holds of it at any moment since it was opened. -/
theorem Placed.earlier
    (placed : Placed dispatcher (spawn peer codec config) actions call step consumer)
    {before : List Action} (early : before <+: actions)
    (opened : step ∈ (spawn peer codec config).history .client before) :
    Placed dispatcher (spawn peer codec config) before call step consumer where
  few := by
    rcases early with ⟨later, rfl⟩
    have few := placed.few
    rw [sideActions_append, Connection.calls, List.countP_append] at few
    exact Nat.lt_of_le_of_lt (Nat.le_add_right _ _) few
  running side := ((extends_of_earlier peer codec config early side).running (placed.running side)).1
  hosts moment within := placed.hosts moment (within.trans early)
  opened := opened
  opens := placed.opens
  stays := by
    rcases early with ⟨later, rfl⟩
    have stays := placed.stays
    rw [sideActions_append] at stays
    exact fun leaves => stays (List.mem_append_left _ leaves)
  feeds channel shows := by
    refine List.IsPrefix.trans ?_ (placed.feeds channel shows)
    rcases early with ⟨later, rfl⟩
    rw [history_append, Connection.given, Connection.given, List.filterMap_append]
    exact List.prefix_append _ _

/-! ## The caller's side -/

section

variable (placed : Placed dispatcher (spawn peer codec config) actions call step consumer)

include placed

theorem Placed.asked :
    call.Asked step consumer ∧ step.before.codec = codec ∧
      Connection.Extends step.after (((spawn peer codec config).after actions).connection
        .client) := by
  have wired := Connection.wired_spawn Side.client.role (peer .client) codec (config .client)
  have opened := placed.opened
  have running := placed.running .client
  rw [history_spawn] at opened
  rw [after_spawn] at running ⊢
  rcases Connection.wired_of_mem_history wired opened with ⟨there, fromStart, toEnd⟩
  have open_ := ((Connection.extends_perform there step.action).1.running
    (toEnd.running running).1).1
  exact ⟨Call.asked placed.opens there open_, fromStart.codec, toEnd⟩

theorem Placed.requested :
    ∃ envelope, codec.encode call.first = .ok envelope ∧
      .request call.mode step.before.nextStreamId envelope ∈
        Connection.sent ((spawn peer codec config).history .client actions) := by
  rcases placed.asked with ⟨asked, same, -⟩
  rcases asked.requests with ⟨envelope, encodes, sends⟩
  refine ⟨envelope, same ▸ encodes, List.mem_flatMap.mpr ⟨step, placed.opened, ?_⟩⟩
  rw [sends]
  exact List.mem_singleton.mpr rfl

theorem Placed.reply (single : call.mode = .requestResponse) :
    Connection.handedReply consumer ((spawn peer codec config).history .client actions) = true ∧
      ∃ reply, (((spawn peer codec config).after actions).connection
          .client).replies[consumer]? = some reply ∧
        reply.streamId = step.before.nextStreamId := by
  rcases placed.asked with ⟨asked, -, toEnd⟩
  rcases asked.reply single with ⟨hands, reply, present, carries⟩
  rcases toEnd.replies consumer reply present with ⟨later, there, same⟩
  exact ⟨List.any_eq_true.mpr ⟨step, placed.opened, hands⟩, later, there, same.trans carries⟩

theorem Placed.stream (many : call.mode ≠ .requestResponse) :
    Connection.handed consumer ((spawn peer codec config).history .client actions) = true ∧
      ∃ inbound, (((spawn peer codec config).after actions).connection
          .client).inbound[consumer]? = some inbound ∧
        inbound.streamId = step.before.nextStreamId := by
  rcases placed.asked with ⟨asked, -, toEnd⟩
  rcases asked.stream many with ⟨hands, inbound, present, carries⟩
  rcases toEnd.inbound consumer inbound present with ⟨later, there, same, -⟩
  exact ⟨List.any_eq_true.mpr ⟨step, placed.opened, hands⟩, later, there, same.trans carries⟩

theorem Placed.producer {channel : Connection.OpenChannel}
    (shows : step.observation = .channel (.ok channel)) :
    ∃ producer, (((spawn peer codec config).after actions).connection
        .client).producers[channel.requests]? = some producer ∧
      producer.streamId = step.before.nextStreamId := by
  rcases placed.asked with ⟨asked, -, toEnd⟩
  rcases asked.producer channel shows with ⟨producer, present, carries⟩
  rcases toEnd.producers channel.requests producer present with ⟨later, there, same⟩
  exact ⟨later, there, same.trans carries⟩

end

/-! ## The server's side -/

/-- The producer of an answer to a call that its caller awaits as a reply waits for the handler. -/
theorem starts_answering {number waiting : Nat} {part opening : ProducerPart} {reply : PendingReply}
    (few : Connection.calls ((spawn peer codec config).sideActions .client actions) < 2 ^ 63)
    (law : Connection.ProducerLaw (.spawn .server (peer .server) codec (config .server)) number
      ((spawn peer codec config).history .server actions) part opening)
    (atReply : (((spawn peer codec config).after actions).connection .client).replies[waiting]? =
      some reply)
    (same : reply.streamId = part.producer.streamId) :
    opening = .opening part.producer.streamId 0 .answering := by
  cases law.starts with
  | calling sends => exact (request_notMem_sent peer codec config actions _ _ _ sends).elim
  | streaming streams takes =>
      have sent := (taken_prefix_sent peer codec config .server actions).mem takes
      rw [history_spawn] at sent
      have called := Connection.called_of_sent _ _ _ _ _ sent
      rw [← after_spawn] at called
      rcases called.stream streams with ⟨stream, member, carries⟩
      rcases List.getElem?_of_mem member with ⟨other, atOther⟩
      have sole := soleStream peer codec config few atOther
      exact (sole.replies waiting reply atReply (same.trans carries.symm)).elim
  | answering takes => rfl

/-- The frames that were sent for a call relay the beginning of some outcomes. -/
inductive Relays (codec : MessageCodec) (streamId : UInt64) (outcomes : List (Outcome Message))
    (frames : List Frame) : Mode → Prop where
  /-- The only outcome, or nothing yet. -/
  | response {result : Outcome Message} (whole : outcomes = [result])
      (answer : frames = [] ∨ frames = [Connection.responseFrame codec streamId result]) :
      Relays codec streamId outcomes frames .requestResponse
  /-- What a source of the outcomes has given. -/
  | stream {mode : Mode} {given : List (Signal (Outcome Message))} {messages : List Message}
      {envelopes : List Envelope} {last : Option (Signal (Outcome Message) × Frame)}
      (many : mode ≠ .requestResponse)
      (supplies : ProducerPart.Supplies codec streamId given frames messages envelopes last)
      (early : given <+: outcomes.map .item ++ [.ended]) :
      Relays codec streamId outcomes frames mode

section

variable {outcomes : List (Outcome Message)} {call' : Connection.Accepted} {answers : Nat}
  {producer : Producer}
  (placed : Placed dispatcher (spawn peer codec config) actions call step consumer)
  (settles : dispatcher.Settles call outcomes)

include settles in
theorem relays_nil (streamId : UInt64) : Relays codec streamId outcomes [] call.mode := by
  cases settles.answers with
  | response concludes => exact .response rfl (.inl rfl)
  | stream yields =>
      exact .stream (by simp [Call.mode]) (ProducerPart.supplies_nil codec _) List.nil_prefix
  | channel yields =>
      exact .stream (by simp [Call.mode]) (ProducerPart.supplies_nil codec _) List.nil_prefix

include placed

theorem Placed.content_of_untaken {envelope : Envelope}
    (sent : .request call.mode step.before.nextStreamId envelope ∈
      Connection.sent ((spawn peer codec config).history .client actions))
    (untaken : .request call.mode step.before.nextStreamId envelope ∉
      Connection.taken ((spawn peer codec config).history .server actions)) :
    Connection.contentOf step.before.nextStreamId
      ((spawn peer codec config).history .server actions) = [] := by
  have unclaimed : step.before.nextStreamId ∉
      Connection.claimed ((spawn peer codec config).history .server actions) := by
    intro claims
    rcases exists_request peer codec config claims with ⟨mode, other, takes⟩
    have once := nodup_claimed peer codec config .client placed.few
    have early := taken_prefix_sent peer codec config .server actions
    rw [show Side.server.other = Side.client from rfl, history_spawn peer codec config .client]
      at early
    rw [history_spawn] at sent once
    exact untaken (Connection.request_mem_of_prefix _ _ _ _ _ once sent early takes rfl)
  rw [history_spawn] at unclaimed ⊢
  exact Connection.content_of_unclaimed _ _ _ _ _ unclaimed

/-- The server handles the call once it has taken the request. -/
theorem Placed.handled (keeps : codec.Keeps dispatcher.codecs call.first)
    (named : call.first.qualifier ≠ "") {envelope : Envelope}
    (encodes : codec.encode call.first = .ok envelope)
    (takes : .request call.mode step.before.nextStreamId envelope ∈
      Connection.taken ((spawn peer codec config).history .server actions)) :
    ∃ accepted answers producer,
      Connection.Handles dispatcher ((spawn peer codec config).history .server actions) accepted
        answers ∧
      accepted.mode = call.mode ∧ accepted.message.Alike dispatcher.codecs call.first ∧
      Connection.AcceptedAs (((spawn peer codec config).after actions).connection .server)
        step.before.nextStreamId accepted ∧
      (((spawn peer codec config).after actions).connection .server).producers[answers]? =
        some producer ∧
      producer.streamId = step.before.nextStreamId := by
  rcases keeps with ⟨received, carries, alike⟩
  rcases encode_of_carry carries with ⟨other, same, decodes⟩
  rw [encodes, Except.ok.injEq] at same
  subst same
  have answered : call.mode ≠ .fireAndForget := by cases call <;> simp [Call.mode]
  have past := history_spawn peer codec config .server actions
  rw [past] at takes
  rcases Connection.exists_accepted
    (Connection.wired_spawn Side.server.role (peer .server) codec (config .server)) rfl takes
    decodes (alike.qualifier ▸ named) answered with
    ⟨accepted, member, answers, producer, mode, message, accepts, gets, atProducer, owns⟩
  rw [← past] at member
  rw [← after_spawn] at accepts atProducer
  exact ⟨accepted, answers, producer, placed.hosts actions List.prefix_rfl accepted member answers
    gets, mode, message ▸ alike, accepts, atProducer, owns⟩

include settles

theorem relays_response {message : Message} (single : call.mode = .requestResponse)
    (atProducer : (((spawn peer codec config).after actions).connection
      .server).producers[answers]? = some producer)
    (carries : producer.streamId = step.before.nextStreamId)
    (results : ∀ step ∈ (spawn peer codec config).history .server actions, ∀ result,
      step.action = .respond answers result →
        dispatcher.Shows message [] .requestResponse [.item result])
    (alike : message.Alike dispatcher.codecs call.first) :
    Relays codec step.before.nextStreamId outcomes
      (Connection.contentOf step.before.nextStreamId
        ((spawn peer codec config).history .server actions)) call.mode := by
  rcases placed.reply single with ⟨-, reply, atReply, own⟩
  rcases producerLaw peer codec config placed.few
    (Connection.producerPart_of_present atProducer) with ⟨opening, law⟩
  have starts := starts_answering placed.few law atReply (own.trans carries.symm)
  have waits : opening.producer.phase = .answering := by
    rw [starts]
    rfl
  have owns : opening.producer.streamId = step.before.nextStreamId := by
    rw [starts]
    exact carries
  have content := law.content
  rw [carries] at content
  rw [Connection.contentOf, content]
  rcases ProducerPart.content_of_answering codec law.starts.sound waits
    (Connection.producerEvents answers ((spawn peer codec config).history .server actions)) with
    ⟨nothing, -⟩ | ⟨result, among, whole⟩
  · exact (congrArg (Relays codec _ outcomes · call.mode) nothing).mpr (relays_nil settles _)
  · rw [history_spawn] at among
    rcases Connection.respond_of_answered among with ⟨responding, member, action⟩
    rw [← history_spawn] at member
    have shows := results responding member result action
    rw [owns] at whole
    cases call with
    | response request =>
        have early := settles.shows message [] [] [.item result] alike .nil List.nil_prefix shows
          (by simp)
        cases settles.answers with
        | response concludes =>
            cases (List.cons_prefix_cons.mp early).1
            exact .response rfl (.inr whole)
    | stream request | channel first others => cases single

theorem relays_stream {message : Message} {rest : List Message}
    {requests : List (Signal (Outcome Message))} (many : call.mode ≠ .requestResponse)
    (atProducer : (((spawn peer codec config).after actions).connection
      .server).producers[answers]? = some producer)
    (carries : producer.streamId = step.before.nextStreamId)
    (alike : message.Alike dispatcher.codecs call.first)
    (same : List.Forall₂ (Message.Alike dispatcher.codecs) rest call.others)
    (early : requests <+: supply rest)
    (shows : dispatcher.Shows message requests call.mode
      (Connection.given answers ((spawn peer codec config).history .server actions))) :
    Relays codec step.before.nextStreamId outcomes
      (Connection.contentOf step.before.nextStreamId
        ((spawn peer codec config).history .server actions)) call.mode := by
  rcases placed.stream many with ⟨-, inbound, atStream, own⟩
  rcases exists_supplies peer codec config placed.few atProducer atStream
    (own.trans carries.symm) with ⟨messages, envelopes, last, supplies⟩
  have stops : .ended ∉ (Connection.given answers
      ((spawn peer codec config).history .server actions)).dropLast := by
    intro member
    rcases supplies.item_of_mem_dropLast member with ⟨message, -, equal⟩
    cases equal
  rw [carries] at supplies
  exact .stream many supplies (settles.shows message rest requests _ alike same early shows stops)

omit settles in
/-- The requests that the handler of a channel has seen are the first of those of the call. -/
theorem Placed.requests {first : Message} {others : List Message} {requests : Nat}
    {inbound : InboundStream} (channel : call = .channel first others)
    (keeps : ∀ request ∈ others, codec.Keeps dispatcher.codecs request)
    (uncancelled : .cancel step.before.nextStreamId ∉
      Connection.sent ((spawn peer codec config).history .client actions))
    (atStream : (((spawn peer codec config).after actions).connection
      .server).inbound[requests]? = some inbound)
    (carries : inbound.streamId = step.before.nextStreamId) :
    ∃ rest, List.Forall₂ (Message.Alike dispatcher.codecs) rest others ∧
      Connection.seen requests ((spawn peer codec config).history .server actions) <+:
        supply rest := by
  subst channel
  obtain ⟨producer, opens⟩ : ∃ producer, step.observation = .channel (.ok ⟨consumer, producer⟩) := by
    cases placed.opens with
    | channel action opens => exact ⟨_, opens⟩
  rcases placed.producer opens with ⟨source, atProducer, owns⟩
  have feeds := placed.feeds _ opens
  rcases @exists_supplies peer codec config actions .client producer requests source inbound
    placed.few atProducer atStream (carries.trans owns.symm) with
    ⟨messages, envelopes, last, supplies⟩
  rcases exists_supply keeps with ⟨rest, same, supplied⟩
  have carried : ∀ message ∈ messages, ∃ received, codec.carry message = .ok received := by
    intro message member
    have given : .item (.ok message) ∈
        Connection.given producer ((spawn peer codec config).history .client actions) := by
      rw [supplies.given_eq]
      exact List.mem_append_left _ (List.mem_map_of_mem member)
    rcases keeps message (mem_of_mem_supply (feeds.mem given)) with ⟨received, carries, -⟩
    exact ⟨received, carries⟩
  rw [owns, ← carries] at supplies
  rw [← carries] at uncancelled
  have seen := @seen_prefix_delivered peer codec config actions placed.few placed.running .client
    requests inbound atStream uncancelled _ _ _ _ supplies carried
  exact ⟨rest, same, supplied ▸ seen.trans (feeds.map codec.deliverSignal)⟩

/-- What the server sends for a call relays the beginning of its outcomes. -/
theorem relays (keeps : ∀ request ∈ call.requests, codec.Keeps dispatcher.codecs request)
    (named : call.first.qualifier ≠ "")
    (uncancelled : .cancel step.before.nextStreamId ∉
      Connection.sent ((spawn peer codec config).history .client actions)) :
    Relays codec step.before.nextStreamId outcomes
      (Connection.contentOf step.before.nextStreamId
        ((spawn peer codec config).history .server actions)) call.mode := by
  rcases placed.requested with ⟨envelope, encodes, sent⟩
  by_cases takes : .request call.mode step.before.nextStreamId envelope ∈
    Connection.taken ((spawn peer codec config).history .server actions)
  · rcases placed.handled (keeps _ List.mem_cons_self) named encodes takes with
      ⟨accepted, answers, producer, handles, mode, alike, accepts, atProducer, carries⟩
    cases handles with
    | response single results =>
        exact relays_response placed settles (mode ▸ single) atProducer carries results alike
    | stream many shows =>
        have streams := mode.symm.trans many
        have same : List.Forall₂ (Message.Alike dispatcher.codecs) [] call.others := by
          cases call with
          | stream request => exact .nil
          | response request | channel first others => cases streams
        exact relays_stream placed settles (by simp [streams]) atProducer carries alike same
          List.nil_prefix (streams ▸ shows)
    | @channel requests many opens shows =>
        have streams := mode.symm.trans many
        rcases accepts.requests many with ⟨number, inbound, gets, atStream, owns⟩
        rw [opens, Option.some.injEq] at gets
        subst gets
        cases call with
        | channel first others =>
            rcases placed.requests rfl
              (fun request member => keeps request (List.mem_cons_of_mem _ member)) uncancelled
              atStream owns with ⟨rest, same, early⟩
            exact relays_stream placed settles (by simp [streams]) atProducer carries alike same
              early (streams ▸ shows)
        | response request | stream request => cases streams
  · rw [placed.content_of_untaken sent takes]
    exact relays_nil settles _

end

/-! ## Nobody cancels -/

/-- The messages that were sent are among the outcomes that they relay. -/
theorem mem_of_supplies {streamId : UInt64} {given : List (Signal (Outcome Message))}
    {content : List Frame} {messages : List Message} {envelopes : List Envelope}
    {last : Option (Signal (Outcome Message) × Frame)} {outcomes : List (Outcome Message)}
    (supplies : ProducerPart.Supplies codec streamId given content messages envelopes last)
    (early : given <+: outcomes.map .item ++ [.ended]) {message : Message}
    (member : message ∈ messages) : .ok message ∈ outcomes := by
  have gave : .item (.ok message) ∈ given := by
    rw [supplies.given_eq]
    exact List.mem_append_left _ (List.mem_map_of_mem member)
  simpa using early.mem gave

/-- What relays readable outcomes can be read. -/
theorem Relays.readable {streamId : UInt64} {outcomes : List (Outcome Message)}
    {frames : List Frame} {mode : Mode} (relays : Relays codec streamId outcomes frames mode)
    (carried : ∀ response, .ok response ∈ outcomes →
      ∃ received, codec.carry response = .ok received)
    {envelope : Envelope} (member : .next streamId envelope ∈ frames) :
    ∃ received, codec.decode envelope = .ok received := by
  have decodes {message : Message} (among : .ok message ∈ outcomes)
      (encodes : codec.encode message = .ok envelope) :
      ∃ received, codec.decode envelope = .ok received := by
    rcases carried message among with ⟨received, carries⟩
    rcases encode_of_carry carries with ⟨other, same, decodes⟩
    rw [encodes, Except.ok.injEq] at same
    exact ⟨received, same ▸ decodes⟩
  cases relays with
  | @response result whole answer =>
      rcases answer with rfl | rfl
      · cases member
      · rw [List.mem_singleton, Connection.responseFrame] at member
        split at member
        · rename_i given encodes
          rw [Frame.next.injEq] at member
          cases result with
          | error error => cases encodes
          | ok message =>
              refine @decodes message (by rw [whole]; exact List.mem_singleton.mpr rfl) ?_
              rw [member.2]
              exact encodes
        · cases member
  | @stream _ _ messages _ last many supplies early =>
      rw [supplies.content_eq] at member
      rcases List.mem_append.mp member with among | closing
      · have encoded : .ok envelope ∈ messages.map codec.encode := by
          rw [supplies.encodes]
          simpa using among
        rcases List.mem_map.mp encoded with ⟨message, within, encodes⟩
        exact decodes (mem_of_supplies supplies early within) encodes
      · cases last with
        | none => cases closing
        | some made =>
            rw [Option.map_some, Option.toList_some, List.mem_singleton] at closing
            have ends := ProducerPart.isNext_last (supplies.ends made.1 made.2 rfl)
            rw [← closing] at ends
            cases ends

/-- Whose id was claimed by some moment has opened its call by then. -/
theorem mem_of_claimed {history later : List Connection.Step} {step : Connection.Step}
    {streamId : UInt64} (once : (Connection.claimed (history ++ later)).Nodup)
    (member : step ∈ history ++ later) (claims : step.claimed = some streamId)
    (early : streamId ∈ Connection.claimed history) : step ∈ history := by
  rcases List.mem_append.mp member with before | after
  · exact before
  · rw [Connection.claimed_append, List.nodup_append] at once
    exact (once.2.2 streamId early streamId (List.mem_filterMap.mpr ⟨step, after, claims⟩) rfl).elim

section

variable {outcomes : List (Outcome Message)}
  (placed : Placed dispatcher (spawn peer codec config) actions call step consumer)

include placed

/-- A call is cancelled by its caller, or because of a response that cannot be read. -/
theorem Placed.cancels_cases {before : List Action} (early : before <+: actions)
    {action : Connection.Action}
    (cancels : Connection.Cancels (((spawn peer codec config).after before).connection .client)
      step.before.nextStreamId action) :
    action = call.leaving consumer ∨
      ∃ envelope error, action = .receive (.next step.before.nextStreamId envelope) ∧
        (((spawn peer codec config).after before).connection .client).reads = true ∧
          codec.decode envelope = .error error := by
  have toEnd := extends_of_earlier peer codec config early .client
  cases cancels with
  | @reply number reply present carries =>
      rcases toEnd.replies number reply present with ⟨later, there, same⟩
      by_cases single : call.mode = .requestResponse
      · rcases placed.reply single with ⟨-, own, atOwn, owns⟩
        have sole := (claims_after peer codec config .client actions).soleReply
          (nodup_claimed peer codec config .client placed.few) there
        have equal := sole.replies consumer own atOwn (owns.trans (carries.symm.trans same.symm))
        subst equal
        cases call with
        | response request => exact .inl rfl
        | stream request | channel first others => cases single
      · rcases placed.stream single with ⟨-, own, atOwn, owns⟩
        have sole := soleStream peer codec config placed.few atOwn
        exact (sole.replies number later there (same.trans (carries.trans owns.symm))).elim
  | @stream number stream present carries waits =>
      rcases toEnd.inbound number stream present with ⟨later, there, same, -⟩
      have sole := soleStream peer codec config placed.few there
      by_cases single : call.mode = .requestResponse
      · rcases placed.reply single with ⟨-, own, atOwn, owns⟩
        exact (sole.replies consumer own atOwn
          (owns.trans (carries.symm.trans same.symm))).elim
      · rcases placed.stream single with ⟨-, own, atOwn, owns⟩
        have equal := sole.streams consumer own atOwn (owns.trans (carries.symm.trans same.symm))
        exact .inl (by rw [Call.leaving_stream single, equal])
  | @message envelope error reading fails =>
      refine .inr ⟨envelope, error, rfl, reading, ?_⟩
      rw [after_spawn] at fails
      rwa [(Connection.extends_after (Connection.wired_spawn _ _ _ _) _).codec] at fails

omit placed in
/-- What the client takes, the server has sent before. -/
theorem mem_sent_of_taking {before : List Action} {action : Action} {frame : Frame}
    (takes : ((spawn peer codec config).after before).sideAction .client action =
      some (.receive frame))
    (reading : (((spawn peer codec config).after before).connection .client).reads = true) :
    frame ∈ Connection.sent ((spawn peer codec config).history .server before) := by
  have silent : ((spawn peer codec config).after before).sideAction .server action = none := by
    cases action with
    | act acting own =>
        simp only [sideAction, Option.ite_none_right_eq_some, Option.some.injEq] at takes
        rcases takes with ⟨⟨-, allowed⟩, rfl⟩
        simp [permits] at allowed
    | transmit writing => simp [sideAction] at takes
    | deliver taking =>
        simp only [sideAction, Option.ite_none_right_eq_some] at takes
        exact (sideAction_of_ne _ (by rw [takes.1]; decide)).2.2
  have early := taken_prefix_sent peer codec config .client (before ++ [action])
  rw [history_concat, takes, show Side.client.other = Side.server from rfl, history_concat,
    silent] at early
  simp only [Option.map_some, Option.toList_some, Option.map_none, Option.toList_none,
    List.append_nil, Connection.taken_concat] at early
  exact early.mem (List.mem_append_right _ (by simp [Connection.Step.taken, reading]))

/-- A call of which the server has sent something was opened before. -/
theorem Placed.opened_of_sent {before : List Action} (early : before <+: actions) {frame : Frame}
    (sent : frame ∈ Connection.sent ((spawn peer codec config).history .server before))
    (carries : frame.streamId = step.before.nextStreamId) :
    step ∈ (spawn peer codec config).history .client before := by
  have claims : step.before.nextStreamId ∈
      Connection.claimed ((spawn peer codec config).history .client before) := by
    refine (claimed_server_sublist peer codec config before).mem ?_
    rw [history_spawn] at sent ⊢
    exact carries ▸ Connection.sent_claimed _ _ _ _ _ frame sent
  have once := nodup_claimed peer codec config .client placed.few
  have opened := placed.opened
  rcases early with ⟨later, rfl⟩
  rw [history_append] at once opened
  exact mem_of_claimed once opened placed.asked.1.claims claims

/-- As long as the caller stays and the responses can be read, nobody cancels the call. -/
theorem Placed.uncancelled (settles : dispatcher.Settles call outcomes)
    (keeps : ∀ request ∈ call.requests, codec.Keeps dispatcher.codecs request)
    (named : call.first.qualifier ≠ "")
    (carried : ∀ response, .ok response ∈ outcomes →
      ∃ received, codec.carry response = .ok received)
    {before : List Action} (early : before <+: actions) :
    .cancel step.before.nextStreamId ∉
      Connection.sent ((spawn peer codec config).history .client before) := by
  induction before using List.reverseRecOn with
  | nil => exact List.not_mem_nil
  | append_singleton before action induction =>
      have within := (List.prefix_append before [action]).trans early
      have kept := induction within
      rw [history_concat]
      cases own : ((spawn peer codec config).after before).sideAction .client action with
      | none => simpa using kept
      | some taken =>
          intro member
          simp only [Option.map_some, Option.toList_some, Connection.sent_concat,
            List.mem_append] at member
          have wired : Connection.Wired
              (((spawn peer codec config).after before).connection .client) := by
            rw [after_spawn]
            exact Connection.wired_after (Connection.wired_spawn _ _ _ _) _
          have cancels := Connection.cancels_of_mem_sends (member.resolve_left kept)
          rcases placed.cancels_cases within cancels with
            rfl | ⟨envelope, error, rfl, reading, fails⟩
          · refine placed.stays ?_
            rcases early with ⟨later, rfl⟩
            rw [sideActions_append, sideActions_concat, own]
            exact List.mem_append_left _ (List.mem_append_right _ (List.mem_singleton.mpr rfl))
          · have sent := mem_sent_of_taking own reading
            have opened := placed.opened_of_sent within sent rfl
            have shown := relays (placed.earlier within opened) settles keeps named kept
            rcases shown.readable carried
              (List.mem_filter.mpr ⟨sent, by simp [Frame.isContent]⟩) with ⟨received, decodes⟩
            rw [fails] at decodes
            cases decodes

end

end

end Link

end ServiceMesh
