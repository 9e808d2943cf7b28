import ServiceMesh.Proofs.Connection.Counts
import ServiceMesh.Proofs.Connection.Finishing

/-!
# What a channel sends

Whoever opens a channel sends its first request in the frame that opens the call, and then whatever
the source of the further requests gives, each message in a frame of its own, up to the signal that
ends the requests (`framesFor`).  How far this goes is a matter of credits, and of nobody cutting the
call off (`Stage`).  The main statement is `channel_sent`.
-/

namespace ServiceMesh

/-- Whether a frame carries a request of a call, or its end. -/
def Frame.isPart (streamId : UInt64) : Frame → Bool
  | .request _ id _ => id = streamId
  | frame => frame.isContent streamId

namespace Connection

/-- The frames for the signals of a source, up to the first that ends the call. -/
def framesFor (codec : MessageCodec) (streamId : UInt64) :
    List (Signal (Outcome Message)) → List Frame
  | [] => []
  | signal :: signals =>
    match frameFor codec streamId signal with
    | none => framesFor codec streamId signals
    | some (frame, isLast) => frame :: if isLast then [] else framesFor codec streamId signals

/-- The content of a producer is the frames for what its source has given. -/
theorem framesFor_of_supplies {codec : MessageCodec} {streamId : UInt64}
    {given : List (Signal (Outcome Message))} {content : List Frame} {messages : List Message}
    {envelopes : List Envelope} {last : Option (Signal (Outcome Message) × Frame)}
    (supplies : ProducerPart.Supplies codec streamId given content messages envelopes last) :
    content = framesFor codec streamId given := by
  rcases supplies with ⟨rfl, rfl, encodes, ends⟩
  induction messages generalizing envelopes with
  | nil =>
      cases envelopes with
      | cons envelope envelopes => cases encodes
      | nil =>
          rcases last with _ | ⟨signal, frame⟩
          · rfl
          · simp [framesFor, ends signal frame rfl]
  | cons message messages induction =>
      cases envelopes with
      | nil => cases encodes
      | cons envelope envelopes =>
          rw [List.map_cons, List.map_cons, List.cons.injEq] at encodes
          have made : frameFor codec streamId (.item (.ok message)) =
              some (.next streamId envelope, false) := by
            simp [frameFor, encodes.1]
          rw [List.map_cons, List.map_cons, List.cons_append, List.cons_append, framesFor, made]
          exact congrArg (_ :: ·) (induction encodes.2)

/-! ## Opening a channel -/

section

variable {connection : Connection} {first : Message} {channel : OpenChannel}

/-- The connection once a channel was asked for. -/
def withChannel (connection : Connection) (first : Message) : Connection :=
  (connection.perform (.requestChannel (some (.ok first)))).2

/-- What is there once a channel has been opened. -/
structure Opened (connection : Connection) (first : Message) (channel : OpenChannel)
    (envelope : Envelope) : Prop where
  encodes : connection.codec.encode first = .ok envelope
  sends : connection.sends (.requestChannel (some (.ok first))) =
    [.request .requestChannel connection.nextStreamId envelope]
  claims : Step.claimed ⟨connection, .requestChannel (some (.ok first))⟩ =
    some connection.nextStreamId
  absent : connection.producerPart channel.requests = none
  producer : (connection.withChannel first).producerPart channel.requests =
    some (.opening connection.nextStreamId connection.window .waiting)
  stream : (connection.withChannel first).inbound[channel.responses]? =
    some ⟨connection.nextStreamId, true, [], 0, false⟩

/-- Whoever opens a channel has sent the first request, and has a producer for the others. -/
theorem opened_channel (wired : Wired connection)
    (opens : Step.observation ⟨connection, .requestChannel (some (.ok first))⟩ =
      .channel (.ok channel)) : ∃ envelope, Opened connection first channel envelope := by
  rcases openStream_cases wired .requestChannel first with
    ⟨_, _, equal⟩ | ⟨_, _, _, equal⟩ | ⟨envelope, encodes, running, equal⟩
  · simp [Step.observation, perform, requestChannel_of_error equal] at opens
  · simp [Step.observation, perform, requestChannel_of_error equal] at opens
  · have equal := requestChannel_of_ok equal
    simp only [Step.observation, perform, equal, Prod.map_fst, Observation.channel.injEq,
      Except.ok.injEq] at opens
    subst opens
    refine ⟨envelope, encodes, ?_, ?_, ?_, ?_, ?_⟩
    · simp [sends, running, openingFrames, encodes]
    · exact claimed_of_advances rfl (by simp [perform, equal, startPump, startProducer])
    · exact producerPart_eq_none.mpr (Nat.le_refl _)
    · simp [withChannel, producerPart, perform, equal, startPump, startProducer,
        ProducerPart.opening]
    · simp [withChannel, perform, equal, startPump, startProducer]

/-- Whoever could not open a channel has sent nothing. -/
theorem sends_of_unopened (wired : Wired connection) {error : CallError}
    (fails : Step.observation ⟨connection, .requestChannel (some (.ok first))⟩ =
      .channel (.error error)) :
    connection.sends (.requestChannel (some (.ok first))) = [] := by
  rcases openStream_cases wired .requestChannel first with
    ⟨_, unencodable, _⟩ | ⟨_, _, closed, _⟩ | ⟨_, _, _, equal⟩
  · simp [sends, openingFrames, unencodable]
  · simp [sends, closed]
  · simp [Step.observation, perform, requestChannel_of_ok equal] at fails

end

/-! ## How far a channel has come -/

/-- The producer of the requests of a channel waits for a credit or for its source, or it has come to
its end, or the channel was cut off. -/
inductive Stage (start : Connection) (actions : List Action) (streamId : UInt64)
    (channel : OpenChannel) : Prop where
  /-- It waits, and can go on as soon as it has a credit. -/
  | waiting {credits : Nat}
      (present : (start.after actions).producers[channel.requests]? =
        some ⟨streamId, credits, .waiting⟩)
      (counted : credits + nexts streamId (sent (start.history actions)) =
        start.window + credited (producerEvents channel.requests (start.history actions)))
  /-- It has taken a credit for what its source gives next. -/
  | pulling {credits : Nat}
      (present : (start.after actions).producers[channel.requests]? =
        some ⟨streamId, credits, .pulling⟩)
      (counted : credits + 1 + nexts streamId (sent (start.history actions)) =
        start.window + credited (producerEvents channel.requests (start.history actions)))
  /-- Its source has given the signal that ends the call. -/
  | finished {signal : Signal (Outcome Message)}
      (last : signal ∈ given channel.requests (start.history actions))
      (final : ProducerPart.Final start.codec streamId signal)
  /-- The peer has cancelled the call. -/
  | cancelled (taken : .cancel streamId ∈ taken (start.history actions))
  /-- The consumer of the responses has given up. -/
  | dropped (given : Action.dropInbound channel.responses ∈ actions)
  /-- The connection has been closed. -/
  | closed (closed : (start.after actions).isClosed = true)

/-- A channel that has been opened in a run has sent its first request, and the frames for what the
source of the others has given, and nothing else. -/
structure Sent (start : Connection) (actions : List Action) (streamId : UInt64) (first : Message)
    (channel : OpenChannel) : Prop where
  /-- The frames of the call, in their order. -/
  frames : ∃ envelope, start.codec.encode first = .ok envelope ∧
    (sent (start.history actions)).filter (Frame.isPart streamId) =
      .request .requestChannel streamId envelope ::
        framesFor start.codec streamId (given channel.requests (start.history actions))
  /-- How many there are by now. -/
  stage : Stage start actions streamId channel

/-- What its events have made of a producer that has started with a window of credits. -/
def pumpPart (start : Connection) (actions : List Action) (streamId : UInt64) (number : Nat) :
    ProducerPart :=
  (ProducerPart.opening streamId start.window .waiting).run start.codec
    (producerEvents number (start.history actions))

/-- The producer of a channel is what its events have made of it. -/
structure Pumped (start : Connection) (actions : List Action) (streamId : UInt64) (number : Nat) :
    Prop where
  given : given number (start.history actions) =
    (ProducerPart.opening streamId start.window .waiting).given start.codec
      (producerEvents number (start.history actions))
  content : (sent (start.history actions)).filter (Frame.isContent streamId) =
    (ProducerPart.opening streamId start.window .waiting).content start.codec
      (producerEvents number (start.history actions))
  state : (start.after actions).producerPart number = some (pumpPart start actions streamId number)

section

variable {start : Connection} {actions : List Action} {streamId : UInt64} {channel : OpenChannel}

theorem waiting_ne_ended : ProducerPhase.waiting ≠ .ended := nofun

theorem waiting_ne_answering : ProducerPhase.waiting ≠ .answering := nofun

theorem streamId_pumpPart (start : Connection) (actions : List Action) (streamId : UInt64)
    (number : Nat) : (pumpPart start actions streamId number).producer.streamId = streamId :=
  ProducerPart.streamId_run _ _

theorem phase_pumpPart (start : Connection) (actions : List Action) (streamId : UInt64)
    (number : Nat) : (pumpPart start actions streamId number).producer.phase ≠ .answering :=
  ProducerPart.pumps_run waiting_ne_answering _

theorem sound_pumpPart (start : Connection) (actions : List Action) (streamId : UInt64)
    (number : Nat) : (pumpPart start actions streamId number).Sound :=
  (ProducerPart.sound_opening streamId start.window waiting_ne_ended).run _ _

/-- As long as the producer has not ended, no credit is lost. -/
theorem Pumped.counted {number : Nat} (pumped : Pumped start actions streamId number)
    (listed : (pumpPart start actions streamId number).isListed = true) :
    (pumpPart start actions streamId number).pledge + nexts streamId (sent (start.history actions)) =
      start.window + credited (producerEvents number (start.history actions)) := by
  have counted := (ProducerPart.pledge_add_nexts start.codec
    (.opening streamId start.window .waiting) (producerEvents number (start.history actions))).2
  rw [← pumped.content, ← nexts_eq_content] at counted
  exact (counted listed).2

/-- A producer that has ended was stopped, or lost its writer, or has come to its end. -/
theorem Pumped.stage_of_ended (pumped : Pumped start actions streamId channel.requests)
    (wired : Wired start)
    (own : ∀ (dropped : Nat) stream, (start.after actions).inbound[dropped]? = some stream →
      stream.streamId = streamId → dropped = channel.responses)
    (ended : (pumpPart start actions streamId channel.requests).producer.phase = .ended) :
    Stage start actions streamId channel := by
  have there := (producerPart_eq_some.mp pumped.state).1
  by_cases stopped : .stopped ∈ producerEvents channel.requests (start.history actions)
  · have causes := stopped_cases wired there stopped
    rw [streamId_pumpPart] at causes
    rcases causes with cancelled | ⟨dropped, stream, given, present, same, -⟩ | closed
    · exact .cancelled cancelled
    · exact .dropped (own dropped stream present same ▸ given)
    · exact .closed closed
  by_cases lost : ∃ signal,
      .gave signal false ∈ producerEvents channel.requests (start.history actions)
  · rcases lost with ⟨signal, member⟩
    cases closed : (start.after actions).isClosed with
    | true => exact .closed closed
    | false => exact (taken_of_open wired closed signal member).elim
  · rcases ProducerPart.exists_last_of_ended
      (ProducerPart.sound_opening streamId start.window waiting_ne_ended) waiting_ne_ended
      waiting_ne_answering stopped (fun signal member => lost ⟨signal, member⟩) ended with
      ⟨signal, member, final⟩
    exact .finished (pumped.given ▸ member) final

/-- The events of its producer tell how far a channel has come. -/
theorem Pumped.stage (pumped : Pumped start actions streamId channel.requests)
    (wired : Wired start)
    (own : ∀ (dropped : Nat) stream, (start.after actions).inbound[dropped]? = some stream →
      stream.streamId = streamId → dropped = channel.responses) :
    Stage start actions streamId channel := by
  have there := (producerPart_eq_some.mp pumped.state).1
  have ends := pumped.stage_of_ended wired own
  have counted := pumped.counted
  have carries := streamId_pumpPart start actions streamId channel.requests
  have neverAnswers := phase_pumpPart start actions streamId channel.requests
  have sound := sound_pumpPart start actions streamId channel.requests
  generalize pumpPart start actions streamId channel.requests = part at *
  rcases part with ⟨⟨id, credits, phase⟩, isListed⟩
  cases carries
  cases phase with
  | waiting => exact .waiting there (counted sound)
  | pulling => exact .pulling there (counted sound)
  | answering => exact (neverAnswers rfl).elim
  | ended => exact ends rfl

end

/-! ## The frames of a channel -/

theorem sent_append (first second : List Step) : sent (first ++ second) = sent first ++ sent second :=
  List.flatMap_append

/-- Without a request of its own, a call has no other parts than its content. -/
theorem filter_isPart_of_unrequested {streamId : UInt64} {frames : List Frame}
    (unrequested : streamId ∉ frames.filterMap Frame.requestId?) :
    frames.filter (Frame.isPart streamId) = frames.filter (Frame.isContent streamId) := by
  apply List.filter_congr
  intro frame member
  cases frame with
  | request mode id envelope =>
      have other : id ≠ streamId := by
        rintro rfl
        exact unrequested (List.mem_filterMap.mpr ⟨_, member, rfl⟩)
      simp [Frame.isPart, Frame.isContent, other]
  | _ => rfl

/-- A run in which a channel is opened: its id is claimed there and nowhere else. -/
structure Parted (start : Connection) (actions early late : List Action) (before : Connection)
    (first : Message) : Prop where
  there : start.after early = before
  history : start.history actions = start.history early ++
    ⟨before, .requestChannel (some (.ok first))⟩ :: (before.withChannel first).history late
  after : start.after actions = (before.withChannel first).after late
  unclaimed : before.nextStreamId ∉ claimed (start.history early)
  unclaimedLater : before.nextStreamId ∉ claimed ((before.withChannel first).history late)

section

variable {start before : Connection} {actions early late : List Action} {first : Message}
  {channel : OpenChannel} {envelope : Envelope}

theorem exists_parted {step : Step} (member : step ∈ start.history actions)
    (once : (claimed (start.history actions)).Nodup)
    (asks : step.action = .requestChannel (some (.ok first)))
    (claims : Step.claimed ⟨step.before, .requestChannel (some (.ok first))⟩ =
      some step.before.nextStreamId) :
    ∃ early late, Parted start actions early late step.before first := by
  rcases exists_of_mem_history member with ⟨early, late, split, there⟩
  rw [asks] at split
  subst split
  have history := history_append start early (.requestChannel (some (.ok first)) :: late)
  rw [Connection.history, there] at history
  rw [history, claimed_append, claimed_cons, claims, Option.toList_some, List.singleton_append,
    List.nodup_append, List.nodup_cons] at once
  refine ⟨early, late, there, history, ?_, ?_, once.2.1.1⟩
  · rw [after_append, there, after_cons]
    rfl
  · intro among
    exact once.2.2 _ among _ List.mem_cons_self rfl

/-- The producer of a channel is there from the opening on. -/
theorem Parted.pumped (parted : Parted start actions early late before first)
    (opened : Opened before first channel envelope) (wired : Wired start)
    (grown : Extends start before)
    (sole : SoleProducer (before.withChannel first) channel.requests before.nextStreamId)
    (silent : contentOf before.nextStreamId (start.history early) = []) :
    Pumped start actions before.nextStreamId channel.requests := by
  have step : Extends before (before.withChannel first) ∧ Wired (before.withChannel first) :=
    extends_perform (parted.there ▸ wired_after wired early) _
  have absent : (start.after early).producerPart channel.requests = none :=
    parted.there.symm ▸ opened.absent
  have nothing := absent_after wired early absent
  have run := producerPart_run step.2 opened.producer sole parted.unclaimedLater
  have events : producerEvents channel.requests (start.history actions) =
      producerEvents channel.requests ((before.withChannel first).history late) := by
    have parts : ∀ first second : List Step, producerEvents channel.requests (first ++ second) =
        producerEvents channel.requests first ++ producerEvents channel.requests second :=
      fun _ _ => List.filterMap_append
    rw [parted.history, parts, nothing.1, producerEvents_cons,
      producerEvent_of_absent opened.absent]
    rfl
  rw [step.1.codec, grown.codec, grown.window, ← events] at run
  constructor
  · have parts : ∀ first second : List Step, given channel.requests (first ++ second) =
        given channel.requests first ++ given channel.requests second :=
      fun _ _ => List.filterMap_append
    rw [← run.2.2.2, parted.history, parts, nothing.2, given_cons, given_of_absent opened.absent]
    rfl
  · have content := contentOf_append before.nextStreamId (start.history early)
      (⟨before, .requestChannel (some (.ok first))⟩ :: (before.withChannel first).history late)
    rw [← parted.history, silent, contentOf_cons, opened.sends] at content
    exact content.trans run.2.1
  · rw [parted.after]
    exact run.1

/-- The first part of a call is its request, and all others are content. -/
theorem Parted.parts (parted : Parted start actions early late before first)
    (opened : Opened before first channel envelope)
    (unsent : ∀ frame ∈ sent (start.history early), frame.streamId ≠ before.nextStreamId)
    (once : ((sent (start.history actions)).filterMap Frame.requestId?).Nodup) :
    (sent (start.history actions)).filter (Frame.isPart before.nextStreamId) =
      .request .requestChannel before.nextStreamId envelope ::
        (sent (start.history actions)).filter (Frame.isContent before.nextStreamId) := by
  have frames : sent (start.history actions) = sent (start.history early) ++
      .request .requestChannel before.nextStreamId envelope ::
        sent ((before.withChannel first).history late) := by
    rw [parted.history, sent_append]
    exact congrArg (fun frames => sent (start.history early) ++ (frames ++ _)) opened.sends
  have silent : ∀ frame ∈ sent (start.history early),
      frame.isPart before.nextStreamId = false ∧ frame.isContent before.nextStreamId = false := by
    intro frame among
    have apart := unsent frame among
    cases frame <;> simp_all [Frame.isPart, Frame.isContent, Frame.streamId]
  have dropped : ∀ keep : Frame → Bool, (∀ frame ∈ sent (start.history early), keep frame = false) →
      (sent (start.history early)).filter keep = [] := by
    intro keep drops
    rw [List.filter_eq_nil_iff]
    intro frame among
    rw [drops frame among]
    exact Bool.false_ne_true
  rw [frames, List.filterMap_append, List.nodup_append] at once
  have own : before.nextStreamId ∉
      (sent ((before.withChannel first).history late)).filterMap Frame.requestId? :=
    (List.nodup_cons.mp once.2.1).1
  rw [frames, List.filter_append, List.filter_append,
    dropped _ fun frame among => (silent frame among).1,
    dropped _ fun frame among => (silent frame among).2,
    List.nil_append, List.nil_append, List.filter_cons_of_pos (by simp [Frame.isPart]),
    List.filter_cons_of_neg (by simp [Frame.isContent]), filter_isPart_of_unrequested own]

end

section

variable (peer : String) (codec : MessageCodec) (config : Config)

/-- A channel that a client has opened sends its first request, and then what the source of the others
gives, as far as it gets. -/
theorem channel_sent {actions : List Action} (few : calls actions < 2 ^ 63) {step : Step}
    (member : step ∈ (spawn .client peer codec config).history actions) {first : Message}
    {channel : OpenChannel} (asks : step.action = .requestChannel (some (.ok first)))
    (opens : step.observation = .channel (.ok channel)) :
    Sent (spawn .client peer codec config) actions step.before.nextStreamId first channel := by
  have wired := wired_spawn .client peer codec config
  have once := nodup_claimed_of_calls peer codec config few
  have claims := claims_after .client peer codec config actions
  rcases wired_of_mem_history wired member with ⟨wiredThere, grown, toEnd⟩
  rcases step with ⟨before, action⟩
  cases asks
  rcases opened_channel wiredThere opens with ⟨envelope, opened⟩
  rcases exists_parted member once rfl opened.claims with ⟨early, late, parted⟩
  have unsent : ∀ frame ∈ sent ((spawn .client peer codec config).history early),
      frame.streamId ≠ before.nextStreamId := by
    intro frame among same
    exact parted.unclaimed (same ▸ sent_claimed .client peer codec config early frame among)
  have requests := (requests_sublist_claimed .client peer codec config actions).nodup once
  have pumped : Pumped (spawn .client peer codec config) actions before.nextStreamId
      channel.requests := by
    refine parted.pumped opened wired grown ?_
      (content_of_unclaimed .client peer codec config early parted.unclaimed)
    rcases toEnd.producers _ _ (producerPart_eq_some.mp opened.producer).1 with
      ⟨producer, present, carries⟩
    have sole := (claims.soleProducer once present).earlier toEnd
    rwa [carries] at sole
  have parts := parted.parts opened unsent requests
  constructor
  · refine ⟨envelope, grown.codec ▸ opened.encodes, ?_⟩
    rcases ProducerPart.supplies_run
      (ProducerPart.sound_opening before.nextStreamId
        (spawn .client peer codec config).window waiting_ne_ended) waiting_ne_answering
      (producerEvents channel.requests ((spawn .client peer codec config).history actions)) with
      ⟨messages, envelopes, last, supplies, -⟩
    rw [parts, pumped.content, pumped.given]
    exact congrArg _ (framesFor_of_supplies supplies)
  · refine pumped.stage wired ?_
    rcases toEnd.inbound _ _ opened.stream with ⟨stream, present, carries, -⟩
    intro dropped other there same
    exact (claims.soleStream once present).streams dropped other there (same.trans carries.symm)

end

end Connection

end ServiceMesh
