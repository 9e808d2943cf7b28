import ServiceMesh.Proofs.Connection.Finishing
import ServiceMesh.Proofs.Flow.Signals
import ServiceMesh.Proofs.Link.Release

/-!
# What arrives of a call

A response is encoded and decoded on its way, and an error arrives as a remote one
(`MessageCodec.deliver`).  As long as nobody closes the connection or cancels the call, a consumer
sees the first of the signals that the source at the other end has given, each of them delivered
(`seen_prefix_delivered`), and the caller of a reply gets the delivered result of the handler
(`resolved_prefix_delivered`).  When nothing is under way and nothing is left to be pulled, this is
all that was given.
-/

namespace ServiceMesh

/-! ## Signals on their way -/

/-- What becomes of an outcome on its way: a response is encoded and decoded, and an error arrives as
a remote one. -/
def MessageCodec.deliver (codec : MessageCodec) (outcome : Outcome Message) : Outcome Message :=
  match outcome.bind codec.encode with
  | .ok envelope => codec.decode envelope
  | .error error => .error (.remote error.code error.message)

/-- What a signal of a source is for the consumer at the other end. -/
def MessageCodec.deliverSignal (codec : MessageCodec) :
    Signal (Outcome Message) → Signal (Outcome Message)
  | .item outcome => .item (codec.deliver outcome)
  | .crashed cause => .item (codec.deliver (.error (Connection.crashError cause)))
  | .pending => .pending
  | .ended => .ended

theorem deliver_of_carry {codec : MessageCodec} {message received : Message}
    (carries : codec.carry message = .ok received) : codec.deliver (.ok message) = .ok received := by
  rcases Link.encode_of_carry carries with ⟨envelope, encodes, decodes⟩
  simp [MessageCodec.deliver, Except.bind, encodes, decodes]

theorem deliverSignal_of_fails {codec : MessageCodec} {signal : Signal (Outcome Message)}
    {failure : CallError} (fails : Fails codec signal failure) :
    codec.deliverSignal signal = .item (.error (.remote failure.code failure.message)) := by
  cases fails with
  | failed error => rfl
  | unencodable encodes =>
      simp [MessageCodec.deliverSignal, MessageCodec.deliver, Except.bind, encodes]
  | crashed cause => rfl

namespace Connection

/-! ## Scripts -/

theorem script_prefix (connection : Connection) {first second : List Arrival}
    (early : first <+: second) : connection.script first <+: connection.script second := by
  induction first generalizing second with
  | nil => exact List.nil_prefix
  | cons arrival first induction =>
      rcases early with ⟨rest, rfl⟩
      cases arrival with
      | message envelope =>
          rw [List.cons_append, script, script]
          cases connection.codec.decode envelope with
          | ok message =>
              exact (List.prefix_cons_inj _).mpr (induction (List.prefix_append _ _))
          | error error => exact List.prefix_rfl
      | _ => exact List.prefix_rfl

/-- Messages that arrive stand in the script as they are delivered. -/
theorem script_messages (connection : Connection) {messages : List Message}
    {envelopes : List Envelope}
    (encodes : messages.map connection.codec.encode = envelopes.map .ok)
    (carried : ∀ message ∈ messages, ∃ received, connection.codec.carry message = .ok received)
    (later : List Arrival) :
    connection.script (envelopes.map .message ++ later) =
      (messages.map fun message => .item (.ok message)).map connection.codec.deliverSignal ++
        connection.script later := by
  induction messages generalizing envelopes with
  | nil =>
      rw [List.map_eq_nil_iff.mp encodes.symm]
      rfl
  | cons message messages induction =>
      cases envelopes with
      | nil => cases encodes
      | cons envelope envelopes =>
          rw [List.map_cons, List.map_cons, List.cons_eq_cons] at encodes
          rcases carried message List.mem_cons_self with ⟨received, carries⟩
          have decodes : connection.codec.decode envelope = .ok received := by
            rw [← carries, MessageCodec.carry, encodes.1]
            rfl
          have rest := induction encodes.2 fun other member =>
            carried other (List.mem_cons_of_mem _ member)
          rw [List.map_cons, List.cons_append, script, decodes]
          simp only [rest, List.map_cons, MessageCodec.deliverSignal, deliver_of_carry carries,
            List.cons_append]

/-- The content of a source is a script of its signals as they are delivered. -/
theorem script_supplies (connection : Connection) (role : Role) {streamId : UInt64}
    {given : List (Signal (Outcome Message))} {content : List Frame} {messages : List Message}
    {envelopes : List Envelope} {last : Option (Signal (Outcome Message) × Frame)}
    (supplies : ProducerPart.Supplies connection.codec streamId given content messages envelopes
      last)
    (carried : ∀ message ∈ messages, ∃ received, connection.codec.carry message = .ok received) :
    connection.script (content.filterMap (Frame.arrival? role streamId)) =
      given.map connection.codec.deliverSignal := by
  rw [Link.arrivals_of_supplies _ supplies, script_messages connection supplies.encodes carried,
    supplies.given_eq, List.map_append]
  congr 1
  cases last with
  | none => rfl
  | some made =>
      rcases Link.arrival_of_last _ role (supplies.ends _ _ rfl) with
        ⟨ended, brings⟩ | ⟨failure, fails, brings⟩
      · simp [brings, ended, script, MessageCodec.deliverSignal]
      · simp [brings, deliverSignal_of_fails fails, script]

/-- What arrives of a response is its answer. -/
theorem answer_responseFrame {connection : Connection} {codec : MessageCodec}
    (uses : connection.codec = codec) (role : Role) (streamId : UInt64)
    (result : Outcome Message) :
    ∃ arrival, (responseFrame codec streamId result).arrival? role streamId = some arrival ∧
      connection.answer arrival = codec.deliver result := by
  subst uses
  rw [responseFrame, MessageCodec.deliver]
  cases result.bind connection.codec.encode with
  | ok envelope => exact ⟨.message envelope, by simp [Frame.arrival?, Frame.streamId], rfl⟩
  | error error =>
      exact ⟨.failed error.code error.message,
        by simp [Frame.arrival?, Frame.streamId, Frame.ofError], rfl⟩

end Connection

/-- If a call was neither closed nor cancelled, what has arrived is the content that was taken. -/
theorem eq_content_of_heard {arrivals : List Arrival} {frames : List Frame} {role : Role}
    {streamId : UInt64}
    (heard : arrivals.filter Arrival.isHeard = frames.filterMap (Frame.arrival? role streamId))
    (running : .closed ∉ arrivals) (kept : .cancelled ∉ arrivals) :
    arrivals = (frames.filter (Frame.isContent streamId)).filterMap
      (Frame.arrival? role streamId) := by
  have all : arrivals.filter Arrival.isContent = arrivals := by
    rw [List.filter_eq_self]
    intro arrival member
    cases arrival with
    | closed => exact (running member).elim
    | cancelled => exact (kept member).elim
    | _ => rfl
  rw [← content_filterMap_arrival, ← heard, filter_isContent_isHeard, all]

namespace Link

section

variable (peer : Side → String) (codec : MessageCodec) (config : Side → Config)

variable {actions : List Action}
  (few : Connection.calls ((spawn peer codec config).sideActions .client actions) < 2 ^ 63)
  (running : ∀ side,
    (((spawn peer codec config).after actions).connection side).isClosed = false)

/-! ## What arrives at a stream -/

section

variable {sender : Side} {stream : Nat} {inbound : InboundStream}
  (atStream :
    (((spawn peer codec config).after actions).connection sender.other).inbound[stream]? =
      some inbound)
  (uncancelled : .cancel inbound.streamId ∉
    Connection.sent ((spawn peer codec config).history .client actions))

include few running atStream uncancelled

theorem arrivals_of_stream :
    arrivals (Connection.streamEvents stream
        ((spawn peer codec config).history sender.other actions)) =
      ((Connection.taken ((spawn peer codec config).history sender.other actions)).filter
        (Frame.isContent inbound.streamId)).filterMap
          (Frame.arrival? sender.other.role inbound.streamId) := by
  refine eq_content_of_heard (heard_eq_taken peer codec config few atStream) ?_ ?_
  · intro closing
    rw [history_spawn] at closing
    have closed := Connection.isClosed_of_heard _ _ _ _ closing
    rw [← after_spawn, running] at closed
    cases closed
  · intro cancelled
    exact uncancelled (cancelled_of_heard peer codec config few atStream cancelled).2

variable {given : List (Signal (Outcome Message))} {messages : List Message}
  {envelopes : List Envelope} {last : Option (Signal (Outcome Message) × Frame)}
  (supplies : ProducerPart.Supplies codec inbound.streamId given
    (Connection.contentOf inbound.streamId ((spawn peer codec config).history sender actions))
    messages envelopes last)
  (carried : ∀ message ∈ messages, ∃ received, codec.carry message = .ok received)

include supplies carried

/-- A consumer sees the first of the signals that the source has given, as they are delivered. -/
theorem seen_prefix_delivered :
    Connection.seen stream ((spawn peer codec config).history sender.other actions) <+:
      given.map codec.deliverSignal := by
  have taken := taken_prefix_sent peer codec config sender.other actions
  rw [Side.other_other] at taken
  have shown := seen_prefix_script peer codec config few atStream
  rw [arrivals_of_stream peer codec config few running atStream uncancelled] at shown
  have whole : (Connection.spawn sender.other.role (peer sender.other) codec
      (config sender.other)).script _ = given.map codec.deliverSignal :=
    Connection.script_supplies _ sender.other.role supplies carried
  rw [← whole]
  exact shown.trans (Connection.script_prefix _ ((taken.filter _).filterMap _))

end

include few running in
/-- A response stream of which nothing is under way and nothing is left to be pulled has shown all
that the source has given. -/
theorem items_of_rest {stream : Nat} {inbound : InboundStream}
    (atStream :
      (((spawn peer codec config).after actions).connection .client).inbound[stream]? =
        some inbound)
    (uncancelled : .cancel inbound.streamId ∉
      Connection.sent ((spawn peer codec config).history .client actions))
    {given : List (Signal (Outcome Message))} {messages : List Message}
    {envelopes : List Envelope} {last : Option (Signal (Outcome Message) × Frame)}
    (supplies : ProducerPart.Supplies codec inbound.streamId given
      (Connection.contentOf inbound.streamId ((spawn peer codec config).history .server actions))
      messages envelopes last)
    (carried : ∀ message ∈ messages, ∃ received, codec.carry message = .ok received)
    (silent : ∀ side, ((spawn peer codec config).after actions).underway side = [])
    (isHanded : Connection.handed stream
      ((spawn peer codec config).history .client actions) = true)
    (stays : .left ∉ Connection.streamEvents stream
      ((spawn peer codec config).history .client actions))
    (nothing : ∀ value, ((((spawn peer codec config).after actions).connection
      .client).pullInbound stream).1 ≠ .item value) :
    items (Connection.seen stream ((spawn peer codec config).history .client actions)) =
      items (given.map codec.deliverSignal) := by
  have seen := @seen_prefix_delivered peer codec config actions few running .server stream inbound
    atStream uncancelled _ _ _ _ supplies carried
  have whole : (Connection.spawn Side.client.role (peer .client) codec (config .client)).script
      (arrivals (Connection.streamEvents stream
        ((spawn peer codec config).history .client actions))) =
      given.map codec.deliverSignal := by
    have all := @arrivals_of_stream peer codec config actions few running .server stream inbound
      atStream uncancelled
    rw [show Side.server.other = Side.client from rfl] at all
    rw [all, taken_of_silent peer codec config few running silent .client]
    exact Connection.script_supplies (Connection.spawn Side.client.role (peer .client) codec
      (config .client)) .client supplies carried
  have present := Connection.streamPart_of_present atStream
  have next := ((streamLaw peer codec config few present).answered present).next isHanded stays
  rw [whole] at next
  refine items_eq_of_stop seen ?_ ?_
  · intro signal member
    rw [← List.map_dropLast] at member
    rcases List.mem_map.mp member with ⟨_, early, rfl⟩
    rcases supplies.item_of_mem_dropLast early with ⟨message, -, rfl⟩
    exact ⟨_, rfl⟩
  · intro value there
    rw [there, Option.getD_some] at next
    exact nothing value next

/-! ## What arrives at a reply -/

section

variable {number : Nat} {reply : PendingReply}
  (atReply :
    (((spawn peer codec config).after actions).connection .client).replies[number]? = some reply)

include few running atReply

theorem arrivals_of_reply :
    arrivals (Connection.replyEvents number ((spawn peer codec config).history .client actions)) =
      ((Connection.taken ((spawn peer codec config).history .client actions)).filter
        (Frame.isContent reply.streamId)).filterMap (Frame.arrival? .client reply.streamId) := by
  have heard := reply_heard_eq_taken peer codec config few atReply
  refine eq_content_of_heard heard ?_ ?_
  · intro closing
    rw [history_spawn] at closing
    have closed := Connection.isClosed_of_reply_heard _ _ _ _ closing
    have open_ := running .client
    rw [after_spawn, show Connection.isClosed _ = true from closed] at open_
    cases open_
  · intro cancelled
    have member := List.mem_filter.mpr ⟨cancelled, show Arrival.isHeard .cancelled = true from rfl⟩
    rw [heard, List.mem_filterMap] at member
    rcases member with ⟨frame, -, brings⟩
    by_cases about : frame.streamId = reply.streamId
    · cases frame <;> simp [Frame.arrival?, about, Side.role] at brings
    · simp [Frame.arrival?, about] at brings

omit running in
theorem replyAnswered :
    Connection.ReplyAnswered (.spawn .client (peer .client) codec (config .client))
      (((spawn peer codec config).after actions).connection .client)
      ((spawn peer codec config).history .client actions) number := by
  rcases Connection.replyPart_of_present atReply with ⟨part, present, -⟩
  have grown := Connection.extends_after
    (Connection.wired_spawn .client (peer .client) codec (config .client))
    ((spawn peer codec config).sideActions .client actions)
  have same := after_spawn peer codec config .client actions
  have past := history_spawn peer codec config .client actions
  simp only [Side.role] at same past
  rw [same] at present ⊢
  rw [past]
  exact (Connection.client_replyLaw few present).answered grown present

variable {content : List Frame}
  (sent : Connection.contentOf reply.streamId
    ((spawn peer codec config).history Side.client.other actions) = content)

include sent

/-- The caller of a reply gets what the handler has come to, as it is delivered. -/
theorem resolved_prefix_delivered {result : Outcome Message}
    (answer : content = [] ∨ content = [Connection.responseFrame codec reply.streamId result]) :
    Connection.resolved number ((spawn peer codec config).history .client actions) <+:
      [codec.deliver result] := by
  have taken := taken_prefix_sent peer codec config .client actions
  have early := (taken.filter (Frame.isContent reply.streamId)).filterMap
    (Frame.arrival? .client reply.streamId)
  rw [Connection.contentOf] at sent
  rw [← arrivals_of_reply peer codec config few running atReply, sent] at early
  have once := (replyAnswered peer codec config few atReply).once
  rcases Connection.answer_responseFrame
    (show (Connection.spawn .client (peer .client) codec (config .client)).codec = codec from rfl)
    .client reply.streamId result with ⟨arrival, brings, same⟩
  refine once.trans ?_
  rcases answer with rfl | rfl
  · rw [List.filterMap_nil, List.prefix_nil] at early
    rw [early]
    exact List.nil_prefix
  · rw [List.filterMap_cons_some brings, List.filterMap_nil] at early
    rcases List.prefix_cons_iff.mp early with none_ | ⟨rest, one, more⟩
    · rw [none_]
      exact List.nil_prefix
    · rw [one, List.head?_cons, Option.map_some, Option.toList_some, same]

/-- When nothing is under way, the caller of a reply with nothing to get has got the result. -/
theorem resolved_of_rest {result : Outcome Message}
    (answer : content = [Connection.responseFrame codec reply.streamId result])
    (silent : ∀ side, ((spawn peer codec config).after actions).underway side = [])
    (isHanded : Connection.handedReply number
      ((spawn peer codec config).history .client actions) = true)
    (stays : .left ∉ Connection.replyEvents number
      ((spawn peer codec config).history .client actions))
    (nothing : ((((spawn peer codec config).after actions).connection
      .client).pollReply number).1 = none) :
    Connection.resolved number ((spawn peer codec config).history .client actions) =
      [codec.deliver result] := by
  have early := resolved_prefix_delivered peer codec config few running atReply sent (.inr answer)
  have next := (replyAnswered peer codec config few atReply).next isHanded stays
  rcases Connection.answer_responseFrame
    (show (Connection.spawn .client (peer .client) codec (config .client)).codec = codec from rfl)
    .client reply.streamId result with ⟨arrival, brings, same⟩
  have one : arrivals (Connection.replyEvents number
      ((spawn peer codec config).history .client actions)) = [arrival] := by
    rw [Connection.contentOf] at sent
    rw [arrivals_of_reply peer codec config few running atReply,
      taken_of_silent peer codec config few running silent .client, sent, answer,
      List.filterMap_cons_some brings, List.filterMap_nil]
  rcases List.prefix_cons_iff.mp early with none_ | ⟨rest, got, more⟩
  · rw [if_pos none_, one, nothing] at next
    cases next
  · rw [got, List.prefix_nil.mp more]

end

end

end Link

end ServiceMesh
