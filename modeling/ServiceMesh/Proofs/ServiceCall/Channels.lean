import ServiceMesh.Proofs.Connection.Channels
import ServiceMesh.Proofs.Connection.Exchange
import ServiceMesh.Proofs.Dispatch.Streaming
import ServiceMesh.Proofs.ServiceCall.Bypass

/-!
# Requests of a channel

The first request of a channel is taken to find out where the channel goes, and is then put in front
of the others again, by the service call and once more by the dispatcher.  In spite of this a target
is asked what the stream of requests gives, from the first request on, with the stream id of the
exchange on each message and without any other change (`Restamps`).  If the target is the client's
side of a connection, the frames that it sends are those for these requests (`Conveyed`).
-/

namespace ServiceMesh.ServiceCall

open Connection (OpenChannel Stage framesFor given sent written)

variable {ε χ ω : Type}

/-! ## Stamped requests -/

/-- A request with the stream id of its exchange.  An error stays as it is. -/
def restamp (streamId : String) : Outcome Message → Outcome Message :=
  Except.map fun message => { message with streamId := some streamId }

/-- A target is asked what some inputs give from their first item on, which comes after a number of
pulls in vain, each message with the stream id. -/
structure Restamps (streamId : String) (inputs : Source ε (Outcome Message)) (waits : Nat)
    (asked : Source ε (Outcome Message)) : Prop where
  /-- What the target gets, pull by pull. -/
  signals : ∀ count, asked.signals count =
    ((inputs.since waits).signals count).map (Signal.map (restamp streamId))
  /-- What it gets in all. -/
  yields : ∀ outcomes, inputs.Yields outcomes →
    asked.Yields (outcomes.map (restamp streamId))

section

variable {streamId : String} {inputs asked : Source ε (Outcome Message)} {waits : Nat}
  {message : Message}

theorem mapOutcome_eq_map (others : Source ε (Outcome Message)) :
    others.mapOutcome (fun message => .ok (message.withStreamId streamId)) =
      others.map (restamp streamId) := by
  have same : (fun item : Outcome Message =>
      item.bind fun message => (.ok (message.withStreamId streamId) : Outcome Message)) =
        restamp streamId := by
    funext item
    cases item <;> rfl
  rw [Source.mapOutcome, same]

theorem signals_map (source : Source ε (Outcome Message))
    (rename : Outcome Message → Outcome Message) (count : Nat) :
    (source.map rename).signals count = (source.signals count).map (Signal.map rename) := by
  rw [Source.signals, Source.signals, Source.pulled_map, List.map_map, List.map_map]
  rfl

/-- Stamping the first request apart from the others is no different from stamping all of them. -/
theorem signals_stamped (others : Source ε (Outcome Message)) (count : Nat) :
    (stamped streamId message others).signals count =
      ((Source.cons (.ok message) others).signals count).map (Signal.map (restamp streamId)) := by
  cases count with
  | zero => rfl
  | succ count =>
      rw [stamped, mapOutcome_eq_map, Source.signals, Source.signals, Source.pulled_cons,
        Source.pulled_cons]
      exact congrArg (_ :: ·) (signals_map others _ count)

/-- The requests of a service call are its inputs. -/
theorem restamps_stamped (opens : inputs.Opens waits (.item (.ok message))) :
    Restamps streamId inputs waits
      (stamped streamId message (inputs.since (waits + 1))) := by
  constructor
  · intro count
    rw [signals_stamped, Source.signals_replayed opens]
  · intro outcomes yields
    rcases opens.yields_rest yields with ⟨rest, rfl, gives⟩
    rw [stamped, mapOutcome_eq_map]
    exact Source.yields_cons _ ((Source.mimics_map _ _).gives gives)

/-- Putting the first request in front once more changes nothing. -/
theorem Restamps.replayed (restamps : Restamps streamId inputs waits asked)
    (opens : asked.Opens 0 (.item (.ok message))) :
    Restamps streamId inputs waits (.cons (.ok message) (asked.since 1)) := by
  constructor
  · intro count
    exact (Source.signals_replayed opens count).trans (restamps.signals count)
  · intro outcomes yields
    exact Source.yields_replayed opens (restamps.yields outcomes yields)

/-- Whatever a target has been given, the inputs have shown. -/
theorem Restamps.exists_shown (restamps : Restamps streamId inputs waits asked)
    (opens : inputs.Opens waits (.item (.ok message))) {head : Message}
    {further : List (Signal (Outcome Message))}
    (shows : asked.HasShown (.item (.ok head) :: further)) :
    head = message.withStreamId streamId ∧
      ∃ originals, inputs.HasShown (.item (.ok message) :: originals) ∧
        further = originals.map (Signal.map (restamp streamId)) := by
  rcases shows.exists_pulls with ⟨count, equal⟩
  have shown := opens.hasShown count
  rw [Source.givenBy, ← Source.pulled, ← Source.signals, restamps.signals,
    filter_isGiven_map] at equal
  rw [← Source.signals_replayed opens] at shown equal
  cases count with
  | zero => cases equal
  | succ count =>
      rw [Source.signals, Source.pulled_cons, List.map_cons, List.filter_cons_of_pos rfl]
        at shown equal
      rw [List.map_cons, List.cons.injEq] at equal
      exact ⟨Except.ok.inj (Signal.item.inj equal.1), _, shown, equal.2⟩

end

/-! ## Main result -/

/-- What a connection has sent of a channel that is asked what some inputs give. -/
structure Conveyed (start : Connection) (actions : List Connection.Action) (id : UInt64)
    (channel : OpenChannel) (streamId : String) (inputs : Source ε (Outcome Message))
    (message : Message) : Prop where
  /-- One frame opens the call with the first message, and then come the frames for what the inputs
  have given since. -/
  frames : ∃ further envelope,
    inputs.HasShown (.item (.ok message) :: further) ∧
      given channel.requests (start.history actions) =
          further.map (Signal.map (restamp streamId)) ∧
        start.codec.encode (message.withStreamId streamId) = .ok envelope ∧
          (sent (start.history actions)).filter (Frame.isPart id) =
            .request .requestChannel id envelope ::
              framesFor start.codec id (further.map (Signal.map (restamp streamId)))
  /-- What is sent is written in this order, all of it while the writer runs. -/
  written : written (start.history actions) ++ (start.after actions).queue <+:
      sent (start.history actions) ∧
    ((start.after actions).writes = true →
      written (start.history actions) ++ (start.after actions).queue =
        sent (start.history actions))
  /-- There is more to come if there are credits, unless the call is over. -/
  stage : Stage start actions id channel

/-- A connection whose channel is asked what some inputs give conveys them. -/
theorem conveyed_of_sent {start : Connection} (wired : Connection.Wired start)
    (blank : start.queue = []) {actions : List Connection.Action} {id : UInt64} {head : Message}
    {channel : OpenChannel} (sends : Connection.Sent start actions id head channel)
    {inputs asked : Source ε (Outcome Message)} {waits : Nat} {message : Message}
    (opens : inputs.Opens waits (.item (.ok message))) {streamId : String}
    (restamps : Restamps streamId inputs waits asked)
    (shows : asked.HasShown (.item (.ok head) ::
      given channel.requests (start.history actions))) :
    Conveyed start actions id channel streamId inputs message := by
  rcases restamps.exists_shown opens shows with ⟨rfl, further, shown, gives⟩
  rcases sends.frames with ⟨envelope, encodes, frames⟩
  rw [gives] at frames
  refine ⟨⟨further, envelope, shown, gives, encodes, frames⟩, ?_, sends.stage⟩
  rw [← Connection.posted_eq_written_append_queue wired blank]
  exact Connection.posted_prefix_sent wired actions

/-- A channel takes its requests to the target that its first message selects, in order, and each of
them once. -/
structure Carries (call : ServiceCall ε χ ω) (freshId : String)
    (inputs : Source ε (Outcome Message)) (waits : Nat) (message : Message) : Prop where
  /-- The handler of a raw channel in this process gets them, and its responses are the answers. -/
  inProcess : ∀ (offer : Offer ε) (codecs : CodecRegistry) (dispatcher : Dispatcher ε),
    Dispatcher.build codecs offer.services = .ok dispatcher →
      call.dispatcher = some dispatcher →
    ∀ part ∈ offer, ∀ (action : String)
      (handle : Source ε (Outcome Message) → Source ε (Outcome Message)),
      .rawRequestChannel action handle ∈ part.2 →
        message.qualifier = Qualifier.join part.1 action →
    ∃ asked answers, Restamps (message.streamId.getD freshId) inputs waits asked ∧
      call.openChannel freshId (some (.ok message)) (inputs.since (waits + 1)) =
          (call, answers.mapMarks .note) ∧
        Forwards [] [] (handle asked) id answers
  /-- The channel of a connection to another process gets them. -/
  remote : ∀ (routed : ServiceCall ε χ ω) (transport : Transport ε χ ω) (address : Address)
      (remote : Remote χ),
    call.route (message.withStreamId (message.streamId.getD freshId)) =
        (routed, .remote transport address) →
      (routed.reach transport address).remote = .ok remote →
    ∃ asked, Restamps (message.streamId.getD freshId) inputs waits asked ∧
      call.openChannel freshId (some (.ok message)) (inputs.since (waits + 1)) =
        ((routed.reach transport address).call,
          (observedStream remote (transport.requestChannel remote.channel asked)).afterMarks
            ((routed.reach transport address).marks.map .note))
  /-- If this is the client's side of a connection, it sends the frames for them. -/
  wire : ∀ (peer : String) (codec : MessageCodec) (config : Config)
      (actions : List Connection.Action), Connection.calls actions < 2 ^ 63 →
    ∀ step ∈ (Connection.spawn .client peer codec config).history actions,
    ∀ (head : Message) (channel : OpenChannel) (asked : Source ε (Outcome Message)),
      step.action = .requestChannel (some (.ok head)) →
        step.observation = .channel (.ok channel) →
      Restamps (message.streamId.getD freshId) inputs waits asked →
        asked.HasShown (.item (.ok head) :: given channel.requests
          ((Connection.spawn .client peer codec config).history actions)) →
      Conveyed (.spawn .client peer codec config) actions step.before.nextStreamId channel
        (message.streamId.getD freshId) inputs message
  /-- If the channel cannot be opened there, nothing is sent. -/
  unopened : ∀ (peer : String) (codec : MessageCodec) (config : Config)
      (actions : List Connection.Action),
    ∀ step ∈ (Connection.spawn .client peer codec config).history actions,
    ∀ (head : Message) (error : CallError),
      step.action = .requestChannel (some (.ok head)) →
        step.observation = .channel (.error error) → step.posted = []

/-- The requests of a channel are neither lost nor doubled nor taken out of order. -/
theorem channel_requests_arrive (call : ServiceCall ε χ ω) (freshId : String)
    {inputs : Source ε (Outcome Message)} {waits : Nat} {message : Message}
    (opens : inputs.Opens waits (.item (.ok message))) :
    Carries call freshId inputs waits message := by
  constructor
  case inProcess =>
    intro offer codecs dispatcher built serves part member action handle listed named
    refine ⟨_, dispatcher.requestChannel
        (stamped (message.streamId.getD freshId) message (inputs.since (waits + 1))),
      (restamps_stamped opens).replayed (opens_stamped _ message _), ?_,
      Dispatcher.forwards_rawChannel built member listed (opens_stamped _ message _) named⟩
    refine openChannel_of_contains serves (Dispatcher.contains_empty_of_build built) freshId _ ?_
    rw [named]
    exact Dispatcher.contains_of_registration built member listed rfl
  case remote =>
    intro routed transport address remote goes reached
    refine ⟨_, restamps_stamped opens, ?_⟩
    simp only [openChannel, stream, goes, reached]
  case wire =>
    intro peer codec config actions few step member head channel asked asks opened stamps shows
    have sends := Connection.channel_sent peer codec config few member asks opened
    exact conveyed_of_sent (Connection.wired_spawn .client peer codec config) rfl sends opens stamps
      shows
  case unopened =>
    intro peer codec config actions step member head error asks fails
    have wired := Connection.wired_spawn .client peer codec config
    rcases Connection.wired_of_mem_history wired member with ⟨wiredThere, -, -⟩
    rcases step with ⟨before, action⟩
    cases asks
    rw [Connection.Step.posted_eq wiredThere, Connection.sends_of_unopened wiredThere fails]
    exact Connection.admitted_nil before

/-- A message to the raw channel of a service. -/
def hello : Message := .carrying "talk/relay" .empty

/-- Requests of which the second has another stream id, and that fail in the end. -/
def chatter : Source Unit (Outcome Message) :=
  .ofSignals [.pending, .item (.ok hello), .item (.ok (hello.withStreamId "7")),
    .item (.error (.internal "gone"))]

/-- A service call that serves the raw channel itself. -/
def talkCall : ServiceCall Unit Nat Nat :=
  flakyCall.withDispatcher (Dispatcher.build .withJson Dispatcher.talk.services).toOption

/-- A client that sends the requests. -/
def chat : List Connection.Action :=
  [.requestChannel (some (.ok (hello.withStreamId "9"))), .takeCredit 0,
    .produce 0 (.item (.ok (hello.withStreamId "9"))), .takeCredit 0,
    .produce 0 (.item (.error (.internal "gone")))]

/-- The handler gets the requests, and so does a client, with the fresh stream id on both messages. -/
theorem chatter_carried :
    chatter.Opens 1 (.item (.ok hello)) ∧ Carries talkCall "9" chatter 1 hello ∧
      (talkCall.openChannel "9" (some (.ok hello)) (chatter.since 2)).2.signals 4 =
        [.item (.ok (hello.withStreamId "9")), .item (.ok (hello.withStreamId "9")),
          .item (.error (.internal "gone")), .ended] ∧
      Conveyed (.spawn .client "peer" (.ofRegistry .withJson) .standard) chat 1 ⟨0, 0⟩ "9"
        chatter hello := by
  have opens : chatter.Opens 1 (.item (.ok hello)) := by
    refine ⟨?_, rfl⟩
    intro turn member
    rw [List.mem_singleton.mp member]
    rfl
  have carries : Carries talkCall "9" chatter 1 hello := channel_requests_arrive talkCall "9" opens
  refine ⟨opens, carries, by rfl, ?_⟩
  exact carries.wire "peer" (.ofRegistry .withJson) .standard chat (by decide) _ List.mem_cons_self
    _ ⟨0, 0⟩ _ rfl (by rfl) (restamps_stamped opens)
    (.signal rfl nofun (.signal rfl nofun (.signal rfl nofun (.nothing _))))

end ServiceMesh.ServiceCall
