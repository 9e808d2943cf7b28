import ServiceMesh.Proofs.Link.Calls

/-!
# Streams arrive in order

What a consumer at one end of a link has pulled is the first part of what the source at the other end
has yielded, each message once encoded and once decoded.  The consumer sees the regular end, or a
failure at the other end, only after all messages before it.
-/

namespace ServiceMesh

/-- Whether an arrival is content that the peer has sent. -/
def Arrival.isContent : Arrival → Bool
  | .message _ | .completed | .failed _ _ => true
  | .cancelled | .closed => false

namespace Connection

/-- What a consumer has seen, against the envelopes and the last arrival that its peer has sent. -/
structure Reads (connection : Connection) (envelopes : List Envelope)
    (last : Option Arrival) (arrivals : List Arrival)
    (seen : List (Signal (Outcome Message))) : Prop where
  inOrder : (pulled seen).map .ok <+: envelopes.map connection.codec.decode
  ended : .ended ∈ seen → .cancelled ∈ arrivals ∨
    last = some .completed ∧ (pulled seen).map .ok = envelopes.map connection.codec.decode
  failed : ∀ error, .item (.error error) ∈ seen →
    (.closed ∈ arrivals ∧ error = connection.closedError) ∨
    (envelopes.map connection.codec.decode)[(pulled seen).length]? = some (.error error) ∨
    ∃ code text, last = some (.failed code text) ∧ error = .remote code text ∧
      (pulled seen).map .ok = envelopes.map connection.codec.decode

theorem reads_nothing (connection : Connection) (envelopes : List Envelope)
    (last : Option Arrival) (arrivals : List Arrival) :
    Reads connection envelopes last arrivals [] where
  inOrder := List.nil_prefix
  ended := by simp
  failed := by simp

theorem Reads.cons {connection : Connection} {envelopes : List Envelope}
    {last : Option Arrival} {arrivals : List Arrival}
    {seen : List (Signal (Outcome Message))}
    (reads : Reads connection envelopes last arrivals seen)
    {envelope : Envelope} {message : Message}
    (decodes : connection.codec.decode envelope = .ok message) :
    Reads connection (envelope :: envelopes) last (.message envelope :: arrivals)
      (.item (.ok message) :: seen) := by
  have first : pulled (.item (.ok message) :: seen) = message :: pulled seen := rfl
  constructor
  · rw [first, List.map_cons, List.map_cons, decodes, List.cons_prefix_cons]
    exact ⟨rfl, reads.inOrder⟩
  · intro member
    rw [first, List.map_cons, List.map_cons, decodes]
    rcases List.mem_cons.mp member with now | later
    · cases now
    · refine (reads.ended later).imp (List.mem_cons_of_mem _) ?_
      exact fun ⟨regular, all⟩ => ⟨regular, by rw [all]⟩
  · intro error member
    rw [first, List.map_cons, List.map_cons, decodes]
    rcases List.mem_cons.mp member with now | later
    · cases now
    · rcases reads.failed error later with ⟨closed, same⟩ | unreadable | ⟨code, text, fails⟩
      · exact .inl ⟨List.mem_cons_of_mem _ closed, same⟩
      · exact .inr (.inl unreadable)
      · exact .inr (.inr ⟨code, text, fails.1, fails.2.1, by rw [fails.2.2]⟩)

/-- What ends the content is the last that the peer has sent. -/
theorem last_of_prefix {envelopes : List Envelope} {last : Option Arrival}
    {arrival : Arrival} {arrivals : List Arrival}
    (ends : ∀ envelope, arrival ≠ .message envelope)
    (content : arrival :: arrivals <+: envelopes.map .message ++ last.toList) :
    envelopes = [] ∧ last = some arrival := by
  cases envelopes with
  | nil =>
      cases last with
      | none => simp at content
      | some other =>
          rw [List.map_nil, List.nil_append, Option.toList_some,
            List.cons_prefix_cons] at content
          exact ⟨rfl, congrArg some content.1.symm⟩
  | cons first envelopes =>
      rw [List.map_cons, List.cons_append, List.cons_prefix_cons] at content
      exact (ends first content.1).elim

/-- A consumer that fails at once has seen no message. -/
theorem reads_error {connection : Connection} {envelopes : List Envelope}
    {last : Option Arrival} {arrivals : List Arrival} {error : CallError}
    (cause : (.closed ∈ arrivals ∧ error = connection.closedError) ∨
      (envelopes.map connection.codec.decode)[0]? = some (.error error) ∨
      ∃ code text, last = some (.failed code text) ∧ error = .remote code text ∧
        [] = envelopes.map connection.codec.decode) :
    Reads connection envelopes last arrivals [.item (.error error)] where
  inOrder := List.nil_prefix
  ended := by simp
  failed other member := by
    rw [List.mem_singleton, Signal.item.injEq, Except.error.injEq] at member
    exact member ▸ cause

/-- Whoever can see one signal only has seen nothing, or just that. -/
theorem reads_of_single {connection : Connection} {envelopes : List Envelope}
    {last : Option Arrival} {arrivals : List Arrival} {signal : Signal (Outcome Message)}
    {seen : List (Signal (Outcome Message))} (shown : seen <+: [signal])
    (alone : Reads connection envelopes last arrivals [signal]) :
    Reads connection envelopes last arrivals seen := by
  rcases List.prefix_cons_iff.mp shown with rfl | ⟨rest, rfl, more⟩
  · exact reads_nothing _ _ _ _
  · rw [List.prefix_nil.mp more]
    exact alone

/-- The script of arrivals shows the messages of the peer in their order. -/
theorem reads_of_script (connection : Connection) {envelopes : List Envelope}
    {last : Option Arrival} (ends : ∀ envelope, last ≠ some (.message envelope))
    {arrivals : List Arrival}
    (content : arrivals.filter Arrival.isContent <+:
      envelopes.map .message ++ last.toList)
    {seen : List (Signal (Outcome Message))}
    (shown : seen <+: connection.script arrivals) :
    Reads connection envelopes last arrivals seen := by
  induction arrivals generalizing envelopes seen with
  | nil =>
      rw [List.prefix_nil.mp shown]
      exact reads_nothing _ _ _ _
  | cons arrival arrivals induction =>
      cases arrival with
      | message envelope =>
          rw [List.filter_cons_of_pos rfl] at content
          cases envelopes with
          | nil =>
              cases last with
              | none => simp at content
              | some arrival =>
                  rw [List.map_nil, List.nil_append, Option.toList_some,
                    List.cons_prefix_cons] at content
                  exact (ends envelope (congrArg some content.1.symm)).elim
          | cons first envelopes =>
              rw [List.map_cons, List.cons_append, List.cons_prefix_cons,
                Arrival.message.injEq] at content
              rcases content with ⟨rfl, content⟩
              cases decodes : connection.codec.decode envelope with
              | ok message =>
                  rw [Connection.script, decodes] at shown
                  rcases List.prefix_cons_iff.mp shown with rfl | ⟨rest, rfl, more⟩
                  · exact reads_nothing _ _ _ _
                  · exact (induction content more).cons decodes
              | error error =>
                  rw [Connection.script, decodes] at shown
                  refine reads_of_single shown (reads_error (.inr (.inl ?_)))
                  rw [List.map_cons, decodes]
                  rfl
      | completed =>
          rcases last_of_prefix (by simp) content with ⟨rfl, rfl⟩
          exact reads_of_single shown ⟨List.nil_prefix, fun _ => .inr ⟨rfl, rfl⟩, by simp⟩
      | failed code text =>
          rcases last_of_prefix (by simp) content with ⟨rfl, rfl⟩
          exact reads_of_single shown (reads_error (.inr (.inr ⟨code, text, rfl, rfl, rfl⟩)))
      | cancelled =>
          exact reads_of_single shown
            ⟨List.nil_prefix, fun _ => .inl List.mem_cons_self, by simp⟩
      | closed => exact reads_of_single shown (reads_error (.inl ⟨List.mem_cons_self, rfl⟩))

end Connection

/-! ## The content on its way -/

theorem Frame.isContent_of_arrival (role : Role) (streamId : UInt64) (frame : Frame) :
    (frame.arrival? role streamId).any Arrival.isContent = frame.isContent streamId := by
  by_cases about : frame.streamId = streamId
  · cases frame with
    | cancel id =>
        cases role <;> simp [Frame.arrival?, about, Frame.isContent, Arrival.isContent]
    | request mode id envelope => simp [Frame.arrival?, Frame.isContent]
    | requestN id count => simp [Frame.arrival?, Frame.isContent]
    | _ =>
        rw [Frame.streamId] at about
        simp [Frame.arrival?, Frame.streamId, about, Frame.isContent, Arrival.isContent]
  · cases frame <;> simp_all [Frame.arrival?, Frame.isContent, Frame.streamId]

/-- The content among what frames bring is what the content among the frames brings. -/
theorem content_filterMap_arrival (role : Role) (streamId : UInt64) (frames : List Frame) :
    (frames.filterMap (Frame.arrival? role streamId)).filter Arrival.isContent =
      (frames.filter (Frame.isContent streamId)).filterMap
        (Frame.arrival? role streamId) := by
  induction frames with
  | nil => rfl
  | cons frame frames induction =>
      have about := Frame.isContent_of_arrival role streamId frame
      cases brings : frame.arrival? role streamId with
      | none =>
          rw [brings, Option.any_none] at about
          rw [List.filterMap_cons_none brings, induction,
            List.filter_cons_of_neg (by rw [← about]; decide)]
      | some arrival =>
          rw [brings, Option.any_some] at about
          rw [List.filterMap_cons_some brings]
          cases content : arrival.isContent with
          | false =>
              rw [content] at about
              rw [List.filter_cons_of_neg (by rw [content]; decide), induction,
                List.filter_cons_of_neg (by rw [← about]; decide)]
          | true =>
              rw [content] at about
              rw [List.filter_cons_of_pos content, induction,
                List.filter_cons_of_pos about.symm, List.filterMap_cons_some brings]

theorem filter_isContent_isHeard (arrivals : List Arrival) :
    (arrivals.filter Arrival.isHeard).filter Arrival.isContent =
      arrivals.filter Arrival.isContent := by
  rw [List.filter_filter]
  congr 1
  funext arrival
  cases arrival <;> rfl

/-- A signal with which a call fails, and the error that is sent for it. -/
inductive Fails (codec : MessageCodec) : Signal (Outcome Message) → CallError → Prop where
  /-- The source has failed. -/
  | failed (error : CallError) : Fails codec (.item (.error error)) error
  /-- The source has yielded a message that cannot be encoded. -/
  | unencodable {message : Message} {error : CallError}
      (fails : codec.encode message = .error error) : Fails codec (.item (.ok message)) error
  /-- The source has crashed. -/
  | crashed (cause : Option String) :
      Fails codec (.crashed cause) (Connection.crashError cause)

theorem frameFor_last {codec : MessageCodec} {streamId : UInt64}
    {signal : Signal (Outcome Message)} {frame : Frame}
    (made : Connection.frameFor codec streamId signal = some (frame, true)) :
    (signal = .ended ∧ frame = .complete streamId) ∨
      ∃ error, Fails codec signal error ∧ frame = .ofError streamId error := by
  cases Connection.frameFor_eq_some_iff.mp made with
  | ended => exact .inl ⟨rfl, rfl⟩
  | unencodable fails => exact .inr ⟨_, .unencodable fails, rfl⟩
  | failed error => exact .inr ⟨error, .failed error, rfl⟩
  | crashed cause => exact .inr ⟨_, .crashed cause, rfl⟩

/-- What a message becomes on its way: it is encoded once and decoded once. -/
def MessageCodec.carry (codec : MessageCodec) (message : Message) : Outcome Message :=
  (codec.encode message).bind codec.decode

theorem map_carry {codec : MessageCodec} {messages : List Message}
    {envelopes : List Envelope} (encodes : messages.map codec.encode = envelopes.map .ok) :
    messages.map codec.carry = envelopes.map codec.decode := by
  have split : codec.carry = (fun outcome => Except.bind outcome codec.decode) ∘ codec.encode :=
    rfl
  rw [split, ← List.map_map, encodes, List.map_map]
  rfl

theorem pulled_items (messages : List Message) :
    pulled (messages.map fun message => .item (.ok message)) = messages := by
  induction messages with
  | nil => rfl
  | cons message messages induction =>
      rw [List.map_cons]
      exact congrArg (message :: ·) induction

namespace Link

/-- What the consumer of one streamed direction of a call has seen, against what the source at the
other end has given.  Nothing else at either end has the id of the call. -/
structure Delivered (start : Link) (actions : List Action) (sender : Side)
    (streamId : UInt64) (producer stream : Nat) : Prop where
  source : ∃ found,
    ((start.after actions).connection sender).producers[producer]? = some found ∧
      found.streamId = streamId
  onlySource : Connection.SoleProducer ((start.after actions).connection sender) producer
    streamId
  consumer : ∃ found,
    ((start.after actions).connection sender.other).inbound[stream]? = some found ∧
      found.streamId = streamId
  onlyConsumer : Connection.SoleStream ((start.after actions).connection sender.other) stream
    streamId
  /-- What was pulled is the first part of what was yielded, encoded and decoded. -/
  inOrder :
    (pulled (Connection.seen stream (start.history sender.other actions))).map .ok <+:
      (pulled (Connection.given producer (start.history sender actions))).map
        (start.connection sender).codec.carry
  /-- The end comes after all messages of a source that has ended, unless the client has
  cancelled the call that it sends to. -/
  ended : .ended ∈ Connection.seen stream (start.history sender.other actions) →
    (sender = .client ∧ .cancel streamId ∈ Connection.sent (start.history .client actions)) ∨
      ∃ messages : List Message,
        Connection.given producer (start.history sender actions) =
          messages.map (fun message => .item (.ok message)) ++ [.ended] ∧
        (pulled (Connection.seen stream (start.history sender.other actions))).map .ok =
          messages.map (start.connection sender).codec.carry
  /-- An error is that of a close, that of a message which cannot be decoded, or a remote one, which
  comes after all messages that were yielded before the source has failed. -/
  failed : ∀ error,
    .item (.error error) ∈ Connection.seen stream (start.history sender.other actions) →
      (((start.after actions).connection sender.other).isClosed = true ∧
        error = (start.connection sender.other).closedError) ∨
      (∃ message envelope,
        (pulled (Connection.given producer (start.history sender actions)))[
          (pulled (Connection.seen stream (start.history sender.other actions))).length]? =
            some message ∧
        (start.connection sender).codec.encode message = .ok envelope ∧
        (start.connection sender).codec.decode envelope = .error error) ∨
      ∃ (messages : List Message) (last : Signal (Outcome Message)) (failure : CallError),
        Connection.given producer (start.history sender actions) =
          messages.map (fun message => .item (.ok message)) ++ [last] ∧
        Fails (start.connection sender).codec last failure ∧
        error = .remote failure.code failure.message ∧
        (pulled (Connection.seen stream (start.history sender.other actions))).map .ok =
          messages.map (start.connection sender).codec.carry

section

variable (peer : Side → String) (codec : MessageCodec) (config : Side → Config)

variable {actions : List Action}

/-- Who sends to a stream at the other end sends under flow control. -/
theorem starts_waiting {sender : Side} {producer stream : Nat} {part opening : ProducerPart}
    {inbound : InboundStream}
    (few : Connection.calls ((spawn peer codec config).sideActions .client actions) < 2 ^ 63)
    (law : Connection.ProducerLaw (.spawn sender.role (peer sender) codec (config sender))
      producer ((spawn peer codec config).history sender actions) part opening)
    (present :
      (((spawn peer codec config).after actions).connection sender.other).inbound[stream]? =
        some inbound)
    (same : inbound.streamId = part.producer.streamId) :
    opening = .opening part.producer.streamId
      (Connection.spawn sender.role (peer sender) codec (config sender)).window .waiting := by
  cases law.starts with
  | calling sends => rfl
  | streaming streams takes => rfl
  | answering takes =>
      cases sender with
      | client =>
          have sent := (taken_prefix_sent peer codec config .client actions).mem takes
          exact (request_notMem_sent peer codec config actions _ _ _ sent).elim
      | server =>
          have sent := (taken_prefix_sent peer codec config .server actions).mem takes
          have sole := soleStream peer codec config few present
          rw [history_spawn] at sent
          have called := Connection.called_of_sent _ _ _ _ _ sent
          rw [← after_spawn] at called
          rcases called.reply rfl with ⟨reply, member, carries⟩
          rcases List.getElem?_of_mem member with ⟨number, atNumber⟩
          exact (sole.replies number reply atNumber (carries.trans same.symm)).elim

/-- What has arrived at a stream is content that the other end has sent. -/
theorem content_of_arrivals {sender : Side} {stream : Nat} {inbound : InboundStream}
    (few : Connection.calls ((spawn peer codec config).sideActions .client actions) < 2 ^ 63)
    (present :
      (((spawn peer codec config).after actions).connection sender.other).inbound[stream]? =
        some inbound) :
    (arrivals (Connection.streamEvents stream
        ((spawn peer codec config).history sender.other actions))).filter Arrival.isContent <+:
      ((Connection.sent ((spawn peer codec config).history sender actions)).filter
        (Frame.isContent inbound.streamId)).filterMap
          (Frame.arrival? sender.other.role inbound.streamId) := by
  have heard := heard_eq_taken peer codec config few present
  have taken := taken_prefix_sent peer codec config sender.other actions
  rw [Side.other_other] at taken
  rw [← filter_isContent_isHeard, heard, content_filterMap_arrival]
  exact (taken.filter _).filterMap _

theorem seen_prefix_script {side : Side} {stream : Nat} {inbound : InboundStream}
    (few : Connection.calls ((spawn peer codec config).sideActions .client actions) < 2 ^ 63)
    (present :
      (((spawn peer codec config).after actions).connection side).inbound[stream]? =
        some inbound) :
    Connection.seen stream ((spawn peer codec config).history side actions) <+:
      (Connection.spawn side.role (peer side) codec (config side)).script
        (arrivals (Connection.streamEvents stream
          ((spawn peer codec config).history side actions))) := by
  have law := streamLaw peer codec config few (Connection.streamPart_of_present present)
  have shown := StreamPart.shown_prefix_outlook
    (Connection.spawn side.role (peer side) codec (config side))
    (Connection.streamEvents stream ((spawn peer codec config).history side actions))
    (Connection.streamOpening stream ((spawn peer codec config).history side actions) inbound)
  rw [Connection.streamOpening, StreamPart.outlook_opening] at shown
  rw [law.seen]
  refine shown.trans ?_
  split
  · exact List.prefix_rfl
  · exact List.nil_prefix

theorem codec_spawn (side : Side) :
    ((spawn peer codec config).connection side).codec = codec := by
  rw [connection_spawn]
  rfl

/-- The content of a producer as it arrives: its messages, and the arrival that ends the call. -/
theorem arrivals_of_supplies {role : Role} {streamId : UInt64}
    {given : List (Signal (Outcome Message))} {content : List Frame}
    {messages : List Message} {envelopes : List Envelope}
    {last : Option (Signal (Outcome Message) × Frame)}
    (supplies : ProducerPart.Supplies codec streamId given content messages envelopes last) :
    content.filterMap (Frame.arrival? role streamId) =
      envelopes.map .message ++
        (last.bind fun made => made.2.arrival? role streamId).toList := by
  rw [supplies.content_eq, List.filterMap_append]
  congr 1
  · rw [List.filterMap_map, ← List.filterMap_eq_map]
    congr 1
    funext envelope
    simp [Frame.arrival?, Frame.streamId]
  · cases last with
    | none => rfl
    | some made => cases brings : made.2.arrival? role streamId <;> simp [brings]

theorem arrival_of_last (role : Role) {streamId : UInt64} {signal : Signal (Outcome Message)}
    {frame : Frame}
    (made : Connection.frameFor codec streamId signal = some (frame, true)) :
    (signal = .ended ∧ frame.arrival? role streamId = some .completed) ∨
      ∃ failure, Fails codec signal failure ∧
        frame.arrival? role streamId = some (.failed failure.code failure.message) := by
  rcases frameFor_last made with ⟨ended, rfl⟩ | ⟨failure, fails, rfl⟩
  · exact .inl ⟨ended, by simp [Frame.arrival?, Frame.streamId]⟩
  · exact .inr ⟨failure, fails, by simp [Frame.arrival?, Frame.streamId, Frame.ofError]⟩

section

variable {role : Role} {streamId : UInt64} {given : List (Signal (Outcome Message))}
variable {content : List Frame} {messages : List Message} {envelopes : List Envelope}
variable {last : Option (Signal (Outcome Message) × Frame)}

/-- What ends the content of a producer brings no message. -/
theorem last_ne_message
    (supplies : ProducerPart.Supplies codec streamId given content messages envelopes last)
    (envelope : Envelope) :
    (last.bind fun made => made.2.arrival? role streamId) ≠ some (.message envelope) := by
  cases last with
  | none => simp
  | some made =>
      rcases arrival_of_last codec role (supplies.ends _ _ rfl) with
        ⟨_, brings⟩ | ⟨_, _, brings⟩ <;> simp [brings]

/-- If the content ends regularly, the source has ended after its messages. -/
theorem given_of_completed
    (supplies : ProducerPart.Supplies codec streamId given content messages envelopes last)
    (regular : (last.bind fun made => made.2.arrival? role streamId) = some .completed) :
    given = messages.map (fun message => .item (.ok message)) ++ [.ended] := by
  cases last with
  | none => simp at regular
  | some made =>
      rcases arrival_of_last codec role (supplies.ends _ _ rfl) with
        ⟨ended, _⟩ | ⟨failure, _, brings⟩
      · rw [supplies.given_eq, ← ended]
        rfl
      · rw [Option.bind_some, brings] at regular
        simp at regular

/-- If the content ends with an error, the source has failed with it after its messages. -/
theorem given_of_failed
    (supplies : ProducerPart.Supplies codec streamId given content messages envelopes last)
    {code : UInt16} {text : String}
    (fails : (last.bind fun made => made.2.arrival? role streamId) = some (.failed code text)) :
    ∃ (signal : Signal (Outcome Message)) (failure : CallError),
      given = messages.map (fun message => .item (.ok message)) ++ [signal] ∧
        Fails codec signal failure ∧ failure.code = code ∧ failure.message = text := by
  cases last with
  | none => simp at fails
  | some made =>
      rcases arrival_of_last codec role (supplies.ends _ _ rfl) with
        ⟨_, brings⟩ | ⟨failure, reason, brings⟩
      · rw [Option.bind_some, brings] at fails
        simp at fails
      · rw [Option.bind_some, brings, Option.some.injEq, Arrival.failed.injEq] at fails
        exact ⟨made.1, failure, supplies.given_eq, reason, fails⟩

end

/-- What cannot be read on arrival is a message of the source, encoded. -/
theorem message_of_unreadable {messages : List Message} {envelopes : List Envelope}
    (encodes : messages.map codec.encode = envelopes.map .ok) {place : Nat} {error : CallError}
    (unreadable : (envelopes.map codec.decode)[place]? = some (.error error)) :
    ∃ message envelope, messages[place]? = some message ∧
      codec.encode message = .ok envelope ∧ codec.decode envelope = .error error := by
  rw [List.getElem?_map, Option.map_eq_some_iff] at unreadable
  rcases unreadable with ⟨envelope, atEnvelope, decodes⟩
  have both := congrArg (fun outcomes => outcomes[place]?) encodes
  simp only [List.getElem?_map, atEnvelope, Option.map_some, Option.map_eq_some_iff] at both
  rcases both with ⟨message, atMessage, encodes⟩
  exact ⟨message, envelope, atMessage, encodes, decodes⟩

/-- A stream hears of a cancellation only at the server, and from its client. -/
theorem cancelled_of_heard {sender : Side} {stream : Nat} {inbound : InboundStream}
    (few : Connection.calls ((spawn peer codec config).sideActions .client actions) < 2 ^ 63)
    (present :
      (((spawn peer codec config).after actions).connection sender.other).inbound[stream]? =
        some inbound)
    (cancelled : .cancelled ∈ arrivals (Connection.streamEvents stream
      ((spawn peer codec config).history sender.other actions))) :
    sender = .client ∧ .cancel inbound.streamId ∈
      Connection.sent ((spawn peer codec config).history .client actions) := by
  have heard := heard_eq_taken peer codec config few present
  have taken := taken_prefix_sent peer codec config sender.other actions
  rw [Side.other_other] at taken
  have member := List.mem_filter.mpr ⟨cancelled, show Arrival.isHeard .cancelled = true from rfl⟩
  rw [heard, List.mem_filterMap] at member
  rcases member with ⟨frame, among, brings⟩
  rcases cancel_of_arrival brings with ⟨serves, rfl⟩
  cases sender with
  | client => exact ⟨rfl, taken.mem among⟩
  | server => cases serves

/-- What the source of a stream has given, and the content that was made of it. -/
theorem exists_supplies {sender : Side} {producer stream : Nat} {source : Producer}
    {inbound : InboundStream}
    (few : Connection.calls ((spawn peer codec config).sideActions .client actions) < 2 ^ 63)
    (atProducer :
      (((spawn peer codec config).after actions).connection sender).producers[producer]? =
        some source)
    (atStream :
      (((spawn peer codec config).after actions).connection sender.other).inbound[stream]? =
        some inbound)
    (same : inbound.streamId = source.streamId) :
    ∃ messages envelopes last, ProducerPart.Supplies codec source.streamId
      (Connection.given producer ((spawn peer codec config).history sender actions))
      ((Connection.sent ((spawn peer codec config).history sender actions)).filter
        (Frame.isContent source.streamId)) messages envelopes last := by
  rcases producerLaw peer codec config few (Connection.producerPart_of_present atProducer) with
    ⟨opening, law⟩
  have starts := starts_waiting peer codec config few law atStream same
  have pumps : opening.producer.phase ≠ .answering := by
    rw [starts]
    simp [ProducerPart.opening]
  rcases ProducerPart.supplies_run law.starts.sound pumps
    (Connection.producerEvents producer ((spawn peer codec config).history sender actions)) with
    ⟨messages, envelopes, last, supplies, -⟩
  refine ⟨messages, envelopes, last, ?_⟩
  have carries : opening.producer.streamId = source.streamId := by
    rw [starts]
    rfl
  rw [law.given, law.content, ← carries]
  exact supplies

/-- Whatever a source yields arrives at the stream of its call in order. -/
theorem delivered {sender : Side} {producer stream : Nat} {source : Producer}
    {inbound : InboundStream}
    (few : Connection.calls ((spawn peer codec config).sideActions .client actions) < 2 ^ 63)
    (atProducer :
      (((spawn peer codec config).after actions).connection sender).producers[producer]? =
        some source)
    (atStream :
      (((spawn peer codec config).after actions).connection sender.other).inbound[stream]? =
        some inbound)
    (same : inbound.streamId = source.streamId) :
    Delivered (spawn peer codec config) actions sender source.streamId producer stream := by
  rcases exists_supplies peer codec config few atProducer atStream same with
    ⟨messages, envelopes, last, supplies⟩
  have content := content_of_arrivals peer codec config few atStream
  rw [same, arrivals_of_supplies codec supplies] at content
  have reads := Connection.reads_of_script
    (Connection.spawn sender.other.role (peer sender.other) codec (config sender.other))
    (last_ne_message codec supplies) content (seen_prefix_script peer codec config few atStream)
  have carried := map_carry supplies.encodes
  have yielded : pulled (Connection.given producer
      ((spawn peer codec config).history sender actions)) =
      messages ++ pulled (last.map Prod.fst).toList := by
    rw [supplies.given_eq, pulled_append, pulled_items]
  constructor
  · exact ⟨source, atProducer, rfl⟩
  · exact soleProducer peer codec config few atProducer
  · exact ⟨inbound, atStream, same⟩
  · exact same ▸ soleStream peer codec config few atStream
  · rw [codec_spawn, yielded, List.map_append, carried]
    exact reads.inOrder.trans (List.prefix_append _ _)
  · intro member
    rcases reads.ended member with cancelled | ⟨regular, all⟩
    · exact .inl (same ▸ cancelled_of_heard peer codec config few atStream cancelled)
    · refine .inr ⟨messages, given_of_completed codec supplies regular, ?_⟩
      rw [codec_spawn, carried]
      exact all
  · intro error member
    rcases reads.failed error member with ⟨closed, equal⟩ | unreadable | ⟨code, text, fails⟩
    · refine .inl ⟨?_, ?_⟩
      · rw [history_spawn] at closed
        rw [after_spawn]
        exact Connection.isClosed_of_heard _ _ _ _ closed
      · rw [connection_spawn]
        exact equal
    · rcases message_of_unreadable codec supplies.encodes unreadable with
        ⟨message, envelope, atMessage, encodes, decodes⟩
      have within := (List.getElem?_eq_some_iff.mp atMessage).1
      refine .inr (.inl ⟨message, envelope, ?_, ?_, ?_⟩)
      · rw [yielded, List.getElem?_append_left within, atMessage]
      · rw [codec_spawn]
        exact encodes
      · rw [codec_spawn]
        exact decodes
    · rcases fails with ⟨final, rfl, all⟩
      rcases given_of_failed codec supplies final with ⟨signal, failure, given, reason, rfl, rfl⟩
      refine .inr (.inr ⟨messages, signal, failure, given, ?_, rfl, ?_⟩)
      · rw [codec_spawn]
        exact reason
      · rw [codec_spawn, carried]
        exact all

/--
Streams arrive in order.  Whatever happens on a link, and whatever the windows are, every call that
the server has accepted delivers its responses to the client, and those of a channel its further
requests to the server, in order and with nothing lost, repeated or taken from another call.
-/
theorem streams_arrive_in_order
    (few : Connection.calls ((spawn peer codec config).sideActions .client actions) < 2 ^ 63)
    {step : Connection.Step} (member : step ∈ (spawn peer codec config).history .server actions)
    {call : Connection.Accepted} (accepts : step.observation = .accepted (some call)) :
    ∃ streamId envelope, step.action = .receive (.request call.mode streamId envelope) ∧
      (call.mode = .requestStream ∨ call.mode = .requestChannel →
        ∃ answers responses, call.answers = some answers ∧
          Delivered (spawn peer codec config) actions .server streamId answers responses) ∧
      (call.mode = .requestChannel →
        ∃ requests producer, call.requests = some requests ∧
          Delivered (spawn peer codec config) actions .client streamId producer requests) := by
  rcases step with ⟨before, action⟩
  rcases Connection.accepted_of_observation accepts with
    ⟨streamId, envelope, request, reading, acceptedThen⟩
  have takes : .request call.mode streamId envelope ∈
      Connection.taken ((spawn peer codec config).history .server actions) := by
    refine List.mem_filterMap.mpr ⟨_, member, ?_⟩
    simp [Connection.Step.taken, request, reading]
  have sent := (taken_prefix_sent peer codec config .server actions).mem takes
  rw [history_spawn] at sent member
  have called := Connection.called_of_sent _ _ _ _ _ sent
  have grown := (Connection.wired_of_mem_history (Connection.wired_spawn _ _ _ _) member).2.2
  have accepted := acceptedThen.later grown
  rw [← after_spawn] at called accepted
  refine ⟨streamId, envelope, request, ?_, ?_⟩
  · intro streams
    rcases accepted.answers streams with ⟨answers, source, same, atAnswers, carries⟩
    rcases called.stream streams with ⟨inbound, among, requested⟩
    rcases List.getElem?_of_mem among with ⟨responses, atResponses⟩
    have arrives := delivered peer codec config few atAnswers atResponses
      (requested.trans carries.symm)
    exact ⟨answers, responses, same, carries ▸ arrives⟩
  · intro channel
    rcases accepted.requests channel with ⟨requests, inbound, same, atRequests, carries⟩
    rcases called.producer channel with ⟨source, among, requested⟩
    rcases List.getElem?_of_mem among with ⟨producer, atProducer⟩
    have arrives := delivered peer codec config few atProducer atRequests
      (carries.trans requested.symm)
    exact ⟨requests, producer, same, requested ▸ arrives⟩

end

/-- A link with the usual set-up on both sides. -/
def usual : Link := spawn (fun _ => "peer") (.ofRegistry .withJson) (fun _ => .standard)

/-- A stream of one message, which is pulled. -/
def oneMessage : List Action :=
  [.act .client (.requestStream (Message.blank.withQualifier "Greeting/count")),
    .transmit .client, .deliver .server, .act .server (.takeCredit 0),
    .act .server (.produce 0 (.item (.ok (Message.blank.withQualifier "Greeting/count")))),
    .transmit .server, .deliver .client, .act .client (.pullInbound 0)]

theorem oneMessage_delivered :
    Connection.calls (usual.sideActions .client oneMessage) < 2 ^ 63 ∧
      (pulled (Connection.seen 0 (usual.history .client oneMessage))).length = 1 ∧
      ∃ streamId answers responses,
        Delivered usual oneMessage .server streamId answers responses := by
  have few : Connection.calls (usual.sideActions .client oneMessage) < 2 ^ 63 := by
    decide +kernel
  have some_accepted : (usual.history .server oneMessage).any
      (Connection.Step.accepts .requestStream) = true := by
    decide +kernel
  refine ⟨few, by decide +kernel, ?_⟩
  rcases List.any_eq_true.mp some_accepted with ⟨step, member, accepts⟩
  rcases Connection.Step.accepts_iff.mp accepts with ⟨call, shows, mode⟩
  rcases streams_arrive_in_order _ _ _ few member shows with ⟨streamId, _, _, streams, _⟩
  rcases streams (.inl mode) with ⟨answers, responses, _, delivered⟩
  exact ⟨streamId, answers, responses, delivered⟩

end Link

end ServiceMesh
